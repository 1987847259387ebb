import MessageBus.Settings.Value
import MessageBus.Text.Blank
import MessageBus.Text.Decimal
/-!
Layers of settings. A layer sets values under keys, and a later layer wins key by key: a table is
merged into the table that is there, any other value takes the place of what is there. Keys are
lowered in case. The outermost keys of a layer are read as paths, so that one key can lead into a
table or a list; a key that is no path stands for itself.
-/

set_option autoImplicit false
set_option relaxedAutoImplicit false

namespace MessageBus

/-- The lower case of a character. Of the letters beyond ASCII only the Kelvin sign has a lower case
that can stand in a path, so the others are kept. -/
def lowerKeyChar (c : Char) : Char := if c = '\u212a' then 'k' else c.toLower

def lowerKey (key : String) : String := key.map lowerKeyChar

inductive PathStep where
  | child (key : String)
  | element (index : Int)
deriving DecidableEq, Repr

namespace PathStep

def isKeyChar (c : Char) : Bool :=
  ('a' ≤ c && c ≤ 'z') || ('A' ≤ c && c ≤ 'Z') || ('0' ≤ c && c ≤ '9')
    || c = ' ' || c = '_' || c = '-'

def key? (s : List Char) : Option (String × List Char) :=
  let run := s.takeWhile isKeyChar
  if run = [] then none else some (String.ofList run, s.dropWhile isKeyChar)

def isGap (c : Char) : Bool := c = ' ' || c = '\t'

def minIndex : Int := -0x8000000000000000

def maxIndex : Int := 0x7fffffffffffffff

/-- Reads an index up to its closing bracket. -/
def index? (s : List Char) : Option (Int × List Char) :=
  let s := s.dropWhile isGap
  let (negative, s) := match s with
    | '-' :: rest => (true, rest)
    | s => (false, s)
  let run := s.takeWhile Decimal.isDigit
  let n : Int := if negative then -Decimal.value run else Decimal.value run
  if run = [] ∨ n < minIndex ∨ maxIndex < n then none
  else
    match (s.dropWhile Decimal.isDigit).dropWhile isGap with
    | ']' :: rest => some (n, rest)
    | _ => none

/-- Reads the steps that follow a key; each takes a character, so their number bounds the fuel. -/
def more? : Nat → List Char → Option (List PathStep)
  | _, [] => some []
  | 0, _ => none
  | fuel + 1, '.' :: s => do
    let (key, rest) ← key? s
    (more? fuel rest).map (child key :: ·)
  | fuel + 1, '[' :: s => do
    let (index, rest) ← index? s
    (more? fuel rest).map (element index :: ·)
  | _, _ => none

def read? (s : List Char) : Option (List PathStep) := do
  let (key, rest) ← key? s
  (more? rest.length rest).map (child key :: ·)

end PathStep

namespace Setting

def entries : Setting → List (String × Setting)
  | table entries => entries
  | _ => []

def elements : Setting → List Setting
  | list elements => elements
  | _ => []

def setEntry (key : String) (v : Setting) : List (String × Setting) → List (String × Setting)
  | [] => [(key, v)]
  | (k, w) :: rest => if k = key then (k, v) :: rest else (k, w) :: setEntry key v rest

mutual

/-- What is under a key after `v` is set there. -/
def mergedWith (old : Option Setting) : Setting → Setting
  | table entries =>
    if entries.isEmpty then old.getD (table []) else table (setAll (old.getD unset).entries entries)
  | v => v

/-- Sets every entry of a list, the keys lowered in case. -/
def setAll (into : List (String × Setting)) : List (String × Setting) → List (String × Setting)
  | [] => into
  | (key, v) :: rest =>
    let key := lowerKey key
    setAll (setEntry key (mergedWith (valueOf key into) v) into) rest

end

/-- Sets a value under a key of a table; what is no table becomes one. -/
def setKey (root : Setting) (key : String) (v : Setting) : Setting :=
  table (setAll root.entries [(key, v)])

def position (index : Int) (length : Nat) : Nat :=
  if 0 ≤ index then index.toNat else length - index.natAbs

/-- Changes an element of a list, which grows when it has to. -/
def modifyElement (elements : List Setting) (index : Int) (f : Setting → Setting) :
    List Setting :=
  let i := position index elements.length
  let grown := elements ++ List.replicate (i + 1 - elements.length) unset
  grown.set i (f ((grown[i]?).getD unset))

/-- Sets a value under a path. -/
def setPath (v : Setting) : List PathStep → Setting → Setting
  | [], root => root
  | [.child key], root => root.setKey key v
  | [.element index], root => list (modifyElement root.elements index fun _ ↦ v)
  | .child key :: path, root =>
    table (setEntry key (setPath v path ((valueOf key root.entries).getD unset)) root.entries)
  | .element index :: path, root => list (modifyElement root.elements index (setPath v path))

/-- Sets a value under an outermost key of a layer. -/
def setOutermost (root : Setting) (key : String) (v : Setting) : Setting :=
  match PathStep.read? (lowerKey key).toList with
  | some path => setPath v path root
  | none => root.setKey key v

/-- Puts a layer on top. -/
def overlay (root : Setting) (layer : List (String × Setting)) : Setting :=
  layer.foldl (fun root e ↦ root.setOutermost e.1 e.2) root

end Setting

end MessageBus
