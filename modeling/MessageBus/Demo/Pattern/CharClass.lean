import MessageBus.Demo.Pattern.Atom
import MessageBus.Demo.Pattern.Depth
/-!
Classes of characters in brackets. The members of a class are characters, ranges of them, named
classes and other classes, and the signs `&&`, `--` and `~~` stand between the operands of a set
operation.
-/

set_option autoImplicit false
set_option relaxedAutoImplicit false

namespace MessageBus.Demo.Pattern

/-- A class that is open. -/
structure OpenClass where
  /-- The depth of what stands in front of the last set operation. -/
  operand : Option Nat := none
  /-- The depths of the members behind it, the last one first. -/
  members : List Nat := []
  /-- Whether there have been hyphens at most, which are members there. -/
  atStart : Bool := true

namespace OpenClass

def add (depth : Nat) (c : OpenClass) : OpenClass :=
  { c with members := depth :: c.members, atStart := false }

/-- Adds a character that is a member only at the start. -/
def addAtStart (c : OpenClass) : OpenClass := { c with members := 0 :: c.members }

def setDepth (c : OpenClass) : Nat := joinedDepth c.operand (sequenceDepth c.members)

def depth (c : OpenClass) : Nat := 1 + c.setDepth

/-- Goes on to the next operand of a set operation. -/
def operate (c : OpenClass) : OpenClass where
  operand := some c.setDepth
  atStart := false

end OpenClass

/-- Reads a member of a class, or a range of characters. -/
def memberOrRange? (o : Options) (s : List Char) : Option (List Char) := do
  let (first, s) ← Atom.member? o s
  if !o.allowsMember first then none
  else
    match o.skip s with
    | [] => none
    | '-' :: rest =>
      if o.peek? rest = some ']' ∨ o.peek? rest = some '-' then some ('-' :: rest)
      else
        match first, ← Atom.member? o (o.skip rest) with
        | .character low _, (.character high asByte, rest) =>
          if low ≤ high ∧ o.allowsMember (.character high asByte) then some rest else none
        | _, _ => none
    | rest => some rest

def classNames : List String :=
  ["alnum", "alpha", "ascii", "blank", "cntrl", "digit", "graph", "lower", "print", "punct",
    "space", "upper", "word", "xdigit"]

/-- Reads a named class such as `[:alpha:]` behind its first bracket; tells whether it is negated,
as in `[:^alpha:]`. -/
def namedClass? : List Char → Option (Bool × List Char)
  | ':' :: s =>
    let negated := ['^'].isPrefixOf s
    let s := if negated then s.drop 1 else s
    let name := s.takeWhile (· ≠ ':')
    match s.drop name.length with
    | ':' :: ']' :: rest =>
      if classNames.contains (String.ofList name) then some (negated, rest) else none
    | _ => none
  | _ => none

/-- Opens a class behind its bracket. -/
def openClass? (o : Options) (s : List Char) : Option (List Char) :=
  match o.skip s with
  | '^' :: s => if o.allowsNegation then some (o.skip s) else none
  | s => some s

/-- Reads the rest of a class within others, the innermost one first, and yields the depth of the
outermost one. Every step takes a character. -/
def classRest? (o : Options) :
    Nat → OpenClass → List OpenClass → List Char → Option (Nat × List Char)
  | 0, _, _, _ => none
  | fuel + 1, c, around, s =>
    match o.skip s with
    | [] => none
    | ']' :: s =>
      if c.atStart ∧ c.members = [] then
        if o.allowsMember (.character ']' false) then classRest? o fuel (c.add 0) around s else none
      else
        match around with
        | [] => some (c.depth, s)
        | outer :: around => classRest? o fuel (outer.add c.depth) around s
    | '-' :: s =>
      if c.atStart then
        if o.allowsMember (.character '-' false) then classRest? o fuel c.addAtStart around s
        else none
      else
        match s with
        | '-' :: s => classRest? o fuel c.operate around s
        | s => (memberOrRange? o ('-' :: s)).bind (classRest? o fuel (c.add 0) around)
    | '[' :: s =>
      match namedClass? s with
      | some (negated, rest) =>
        if o.allowsNamed negated then classRest? o fuel (c.add 0) around rest else none
      | none => (openClass? o s).bind (classRest? o fuel {} (c :: around))
    | '&' :: '&' :: s => classRest? o fuel c.operate around s
    | '~' :: '~' :: s => classRest? o fuel c.operate around s
    | s => (memberOrRange? o s).bind (classRest? o fuel (c.add 0) around)

/-- Reads a class behind its bracket, and yields its depth. -/
def class? (o : Options) (s : List Char) : Option (Nat × List Char) :=
  (openClass? o s).bind (classRest? o (s.length + 1) {} [])

end MessageBus.Demo.Pattern
