import MessageBus.Text.Decimal
import MessageBus.Word
/-!
JSON texts as trees. A tree keeps what a text says before anything is asked of it: a numeral keeps
its digits, and a string literal with an unpaired surrogate escape is a literal that denotes no
text. A text denotes a value when all its literals do, its numbers are within the range of binary
floating point, and it is not nested too deeply.
-/

set_option autoImplicit false
set_option relaxedAutoImplicit false

namespace MessageBus

structure Numeral where
  negative : Bool
  whole : List Char
  fraction : Option (List Char)
  /-- Whether the exponent is negative, and its digits. -/
  exponent : Option (Bool × List Char)
deriving DecidableEq, Repr

namespace Numeral

/-- The number, if the numeral is one of a natural number below `wordBound` without sign, fraction
and exponent. -/
def word? (n : Numeral) : Option Nat :=
  if n.negative ∨ n.fraction.isSome ∨ n.exponent.isSome then none
  else
    let v := Decimal.value n.whole
    if v < wordBound then some v else none

/-- Appends digits to a significand as long as it stays below `wordBound`; the second number counts
the digits that were not taken. -/
def accumulate (significand : Nat) : List Char → Nat × Nat
  | [] => (significand, 0)
  | d :: rest =>
    let next := 10 * significand + Decimal.digitValue d
    if next < wordBound then accumulate next rest else (significand, rest.length + 1)

/-- The significand, and the power of ten it is scaled by, of the digits around the point. -/
def scaled (n : Numeral) : Nat × Int :=
  let (whole, dropped) := accumulate 0 n.whole
  match n.fraction with
  | none => (whole, dropped)
  | some digits =>
    let (significand, untaken) := accumulate whole digits
    (significand, (dropped : Int) - ((digits.length - untaken : Nat) : Int))

/-- The number with all but its leading 53 binary digits rounded, ties to even. -/
def roundSignificand (n : Nat) : Nat :=
  let excess := n.log2 + 1 - 53
  let unit := Nat.pow 2 excess
  let quotient := n / unit
  let rest := n % unit
  let up := 2 * rest > unit ∨ (2 * rest = unit ∧ quotient % 2 = 1)
  (if up then quotient + 1 else quotient) * unit

/-- The least number that rounds to infinity. -/
def infinityBound : Nat := Nat.pow 2 1024 - Nat.pow 2 970

/-- Largest exponent that a numeral may name; beyond it only zero is in range. -/
def maxExponent : Nat := 0x7fffffff

def isZero (n : Numeral) : Bool := n.scaled.1 = 0

/-- Whether the number lies within the range of binary floating point. -/
def isFinite (n : Numeral) : Bool :=
  let (significand, scale) := n.scaled
  let finiteAt (power : Int) : Bool :=
    power < 0 || significand = 0
      || (power ≤ 308
        && roundSignificand significand * roundSignificand (Nat.pow 10 power.toNat) < infinityBound)
  match n.exponent with
  | none => (n.fraction.isNone && n.word?.isSome) || finiteAt scale
  | some (negative, digits) =>
    let e := Decimal.value digits
    if negative then e > maxExponent || finiteAt (scale - e)
    else if e > maxExponent then significand = 0
    else finiteAt (scale + e)

end Numeral

inductive JsonText where
  | null
  | bool (b : Bool)
  | number (n : Numeral)
  /-- A string literal, with the text that it denotes, if any. -/
  | string (text : Option String)
  | array (elements : List JsonText)
  | object (members : List (Option String × JsonText))
deriving Repr, Inhabited

namespace JsonText

/-- How many arrays and objects a value may be nested in one another. -/
def maxDepth : Nat := 127

mutual

/-- Whether the text denotes a value that nests at most `depth` deep. -/
def denotesWithin : Nat → JsonText → Bool
  | _, null => true
  | _, bool _ => true
  | _, number n => n.isFinite
  | _, string text => text.isSome
  | 0, array _ => false
  | depth + 1, array elements => elementsDenoteWithin depth elements
  | 0, object _ => false
  | depth + 1, object members => membersDenoteWithin depth members

def elementsDenoteWithin : Nat → List JsonText → Bool
  | _, [] => true
  | depth, x :: rest => x.denotesWithin depth && elementsDenoteWithin depth rest

def membersDenoteWithin : Nat → List (Option String × JsonText) → Bool
  | _, [] => true
  | depth, (key, x) :: rest =>
    key.isSome && x.denotesWithin depth && membersDenoteWithin depth rest

end

def denotesValue (t : JsonText) : Bool := t.denotesWithin maxDepth

/-- The member of an object under a key; of several the last one counts. -/
def member? (key : String) : JsonText → Option JsonText
  | object members => (members.reverse.find? fun m ↦ m.1 = some key).map Prod.snd
  | _ => none

def string? : JsonText → Option String
  | string text => text
  | _ => none

end JsonText

end MessageBus
