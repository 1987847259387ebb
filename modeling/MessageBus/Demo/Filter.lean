import MessageBus.Demo.Log
import MessageBus.Demo.Pattern.Basic
import MessageBus.Settings.Variable
import MessageBus.Text.Blank
import MessageBus.Text.Split
/-!
Filters that choose what is logged. A filter is a list of directives such as

  target[span{field}]=level

of which every part can be left out. A directive cares about an entry whose target begins with its
own and that has its field; of those that care the most specific one decides, and an entry passes
that is as severe as its level. Nothing is logged within spans, so a directive with a span, or with
a value for its field, has no effect.

The blanks around a directive are passed over when it is read from character to character, but its
parts are cut out of the text with the blanks, as many bytes from the start. So a directive behind
blanks is read with its parts moved, and one that would be cut inside a character is no directive.
-/

set_option autoImplicit false
set_option relaxedAutoImplicit false

namespace MessageBus.Demo

namespace Level

/-- The level of a number. -/
def ofNat? : Nat → Option Level
  | 0 => some off
  | 1 => some error
  | 2 => some warn
  | 3 => some info
  | 4 => some debug
  | 5 => some trace
  | _ => none

/-- Reads a level from its number or from its name in any case. -/
def read? (s : List Char) : Option Level :=
  match (Decimal.plusNat? s).bind ofNat? with
  | some level => some level
  | none =>
    match (String.ofList s).toLower with
    | "off" => some off
    | "error" => some error
    | "warn" => some warn
    | "info" => some info
    | "debug" => some debug
    | "trace" => some trace
    | _ => none

end Level

/-- A field that a directive asks for. -/
structure FieldTest where
  name : String
  hasValue : Bool
deriving DecidableEq, Repr

structure Directive where
  target : Option String := none
  span : Option String := none
  field : Option FieldTest := none
  level : Level := .trace
deriving DecidableEq, Repr

/-- Why a text is no filter. -/
inductive FilterFault where
  | malformed
  /-- A part of a directive would be cut inside a character. -/
  | cutCharacter
deriving DecidableEq, Repr

namespace FieldTest

/-- Whether a text can be the value of a field: a number or a pattern. -/
def isValue (s : List Char) : Bool := (Setting.real? s).isSome || isPattern s

/-- Reads `name` or `name=value`. -/
def read (s : List Char) : Except FilterFault FieldTest :=
  if s = [] then .error .malformed
  else
    match splitAtChar '=' s with
    | name :: value :: _ =>
      if isValue value then .ok ⟨String.ofList name, true⟩ else .error .malformed
    | _ => .ok ⟨String.ofList s, false⟩

end FieldTest

/-- Splits a text after so many bytes. -/
def splitBytes (bytes : Nat) : List Char → Except FilterFault (List Char × List Char)
  | [] => .ok ([], [])
  | c :: s =>
    if bytes = 0 then .ok ([], c :: s)
    else if bytes < c.utf8Size then .error .cutCharacter
    else do
      let (front, rest) ← splitBytes (bytes - c.utf8Size) s
      return (c :: front, rest)

/-- Cuts the bytes from one place to another out of a text. -/
def cut (text : List Char) (first last : Nat) : Except FilterFault (List Char) := do
  let (_, rest) ← splitBytes first text
  return (← splitBytes (last - first) rest).1

namespace Directive

/-- Where the reading of a directive has come to; a part that has begun knows its first byte. -/
inductive Place where
  | start
  | target
  | span (first : Nat)
  | field (first : Nat)
  | fieldEnd
  | spanEnd
  | level (first : Nat)
deriving DecidableEq, Repr

def canStart (c : Char) : Bool := c = '-' || c = ':' || c = '_' || isAlphanumeric c

/-- Reads a character at a byte of a directive. -/
def step (text : List Char) (byte : Nat) (c : Char) (place : Place) (d : Directive) :
    Except FilterFault (Place × Directive) :=
  match place, c with
  | .start, '[' => .ok (.span (byte + 1), d)
  | .start, c => if canStart c then .ok (.target, d) else .error .malformed
  | .target, '=' => do
    let target ← cut text 0 byte
    return (.level (byte + 1), { d with target := some (String.ofList target) })
  | .target, '[' => do
    let target ← cut text 0 byte
    return (.span (byte + 1), { d with target := some (String.ofList target) })
  | .target, _ => .ok (.target, d)
  | .span first, ']' => do
    let span ← cut text first byte
    return (.spanEnd, { d with span := some (String.ofList span) })
  | .span first, '\x7b' => do
    let span ← cut text first byte
    return (.field (byte + 1),
      { d with span := if span = [] then none else some (String.ofList span) })
  | .span first, _ => .ok (.span first, d)
  | .field first, '\x7d' => do
    let field ← FieldTest.read (← cut text first byte)
    return (.fieldEnd, { d with field := some field })
  | .field first, _ => .ok (.field first, d)
  | .fieldEnd, ']' => .ok (.spanEnd, d)
  | .spanEnd, '=' => .ok (.level (byte + 1), d)
  | .level first, _ => .ok (.level first, d)
  | _, _ => .error .malformed

/-- Ends the reading of a directive. -/
def finish (text : List Char) (place : Place) (d : Directive) : Except FilterFault Directive :=
  match place with
  | .target =>
    match Level.read? text with
    | some level => .ok { d with level := level }
    | none => .ok { d with target := some (String.ofList text) }
  | .level first => do
    let (_, level) ← splitBytes first text
    if level = [] then return d
    else
      match Level.read? level with
      | some level => return { d with level := level }
      | none => .error .malformed
  | .spanEnd => .ok d
  | _ => .error .malformed

def readFrom (text : List Char) (byte : Nat) (place : Place) (d : Directive) :
    List Char → Except FilterFault Directive
  | [] => d.finish text place
  | c :: rest => do
    let (place, d) ← d.step text byte c place
    readFrom text (byte + c.utf8Size) place d rest

def trimmed (s : List Char) : List Char := (trimStart (trimStart s).reverse).reverse

def read (s : List Char) : Except FilterFault Directive := readFrom s 0 .start {} (trimmed s)

def isEffective (d : Directive) : Bool := d.span = none && d.field.all (!·.hasValue)

def caresAbout (e : Entry) (d : Directive) : Bool :=
  d.target.all (fun target ↦ target.toList.isPrefixOf logTarget.toList)
    && d.field.all fun field ↦ e.hasField field.name

/-- How specific the target of a directive is: the longer, the more, and least without one. -/
def targetRank (d : Directive) : Nat :=
  match d.target with
  | none => 0
  | some target => target.utf8ByteSize + 1

/-- Whether a directive gives way to a later one. -/
def yieldsTo (d later : Directive) : Bool :=
  d.targetRank < later.targetRank || d.targetRank = later.targetRank &&
    match d.field, later.field with
    | none, _ => true
    | some _, none => false
    | some f, some g => f.name ≤ g.name

end Directive

abbrev Filter := List Directive

namespace Filter

/-- Reads the directives between commas; without any, errors pass. -/
def read (s : String) : Except FilterFault Filter := do
  let directives ← ((splitAtChar ',' s.toList).filter (· ≠ [])).mapM Directive.read
  return if directives = [] then [{ level := .error }] else directives

/-- The filter where none is given that can be read. -/
def default : Filter := [{ target := some logTarget, level := .info }]

/-- The effective directives that care about an entry, in their order. -/
def candidates (filter : Filter) (e : Entry) : Filter :=
  List.filter (fun d ↦ d.isEffective && d.caresAbout e) filter

/-- The directive that decides about an entry. -/
def decisive? (filter : Filter) (e : Entry) : Option Directive :=
  (filter.candidates e).foldl
    (fun best d ↦ if best.all (·.yieldsTo d) then some d else best) none

def passes (filter : Filter) (e : Entry) : Bool :=
  match filter.decisive? e with
  | some d => e.level.rank ≤ d.level.rank
  | none => false

/-- The filter that a text spells; there is none where a part would be cut inside a character. -/
def ofText? : Option String → Option Filter
  | none => some default
  | some s =>
    match read s with
    | .ok filter => some filter
    | .error .malformed => some default
    | .error .cutCharacter => none

end Filter

end MessageBus.Demo
