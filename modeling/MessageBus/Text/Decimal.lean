/-!
Decimal text of natural numbers and integers.
-/

set_option autoImplicit false
set_option relaxedAutoImplicit false

namespace MessageBus.Decimal

def isDigit (c : Char) : Bool := '0' ≤ c && c ≤ '9'

def digitValue (c : Char) : Nat := c.toNat - '0'.toNat

def digit (n : Nat) : Char := Char.ofNat ('0'.toNat + n)

/-- The digits of a number, most significant first, without leading zeros. -/
def ofNat (n : Nat) : List Char :=
  if n < 10 then [digit n] else ofNat (n / 10) ++ [digit (n % 10)]
termination_by n

/-- The digits of a number, filled with zeros to at least `width` digits. -/
def padded (width n : Nat) : List Char :=
  List.replicate (width - (ofNat n).length) '0' ++ ofNat n

def ofInt : Int → List Char
  | .ofNat n => ofNat n
  | .negSucc n => '-' :: ofNat (n + 1)

def text (n : Nat) : String := String.ofList (ofNat n)

/-- The number that a list of digits denotes; the empty list denotes zero. -/
def value (digits : List Char) : Nat :=
  digits.foldl (fun n c ↦ 10 * n + digitValue c) 0

/-- Reads a non-empty list that holds digits only. -/
def toNat? (text : List Char) : Option Nat :=
  if text ≠ [] ∧ text.all isDigit then some (value text) else none

/-- Reads digits after an optional plus sign. -/
def plusNat? : List Char → Option Nat
  | '+' :: rest => toNat? rest
  | text => toNat? text

/-- Reads digits after an optional sign of either kind. -/
def toInt? : List Char → Option Int
  | '-' :: rest => (toNat? rest).map fun n ↦ -(n : Int)
  | text => (plusNat? text).map Int.ofNat

end MessageBus.Decimal
