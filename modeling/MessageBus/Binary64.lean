/-!
Binary floating point numbers of double width, as what they denote: a sign and a significand scaled
by a power of two, an infinity, or no number. A decimal has a nearest one, of two equally near the
one with the even significand.
-/

set_option autoImplicit false
set_option relaxedAutoImplicit false

namespace MessageBus

inductive Binary64 where
  | nan
  | infinite (negative : Bool)
  | finite (negative : Bool) (significand : Nat) (exponent : Int)
deriving DecidableEq, Repr

namespace Binary64

def significandBound : Nat := Nat.pow 2 53

def minExponent : Int := -1074

def infinityBound : Nat := Nat.pow 2 1024

/-- The quotient, rounded to the nearest natural number; a tie goes to the even one. -/
def divToEven (a b : Nat) : Nat :=
  let q := a / b
  let r := a % b
  if 2 * r > b ∨ (2 * r = b ∧ q % 2 = 1) then q + 1 else q

/-- The fraction `a / b` divided by a power of two, as a fraction. -/
def unscale (a b : Nat) (exponent : Int) : Nat × Nat :=
  if 0 ≤ exponent then (a, b * Nat.pow 2 exponent.toNat) else (a * Nat.pow 2 (-exponent).toNat, b)

/-- The number nearest to a fraction. -/
def ofFraction (negative : Bool) (a b : Nat) : Binary64 :=
  let guess := max minExponent ((a.log2 : Int) - b.log2 - 53)
  let (c, d) := unscale a b guess
  let exponent := if c / d < significandBound then guess else guess + 1
  let (c, d) := unscale a b exponent
  let significand := divToEven c d
  if 0 ≤ exponent ∧ infinityBound ≤ significand * Nat.pow 2 exponent.toNat then .infinite negative
  else .finite negative significand exponent

/-- The number nearest to a number of decimal digits that are scaled by a power of ten. -/
def ofDecimal (negative : Bool) (digits : List Nat) (scale : Int) : Binary64 :=
  let n := digits.foldl (fun n d ↦ 10 * n + d) 0
  let magnitude : Int := digits.length + scale
  if n = 0 ∨ magnitude < -400 then .finite negative 0 minExponent
  else if 0 ≤ scale then
    if 400 < (n.log2 : Int) / 4 + scale then .infinite negative
    else ofFraction negative (n * Nat.pow 10 scale.toNat) 1
  else ofFraction negative n (Nat.pow 10 (-scale).toNat)

/-- The nearest natural number below `bound`, halves being rounded up; zero for no number. -/
def toNatBelow (bound : Nat) : Binary64 → Nat
  | nan => 0
  | infinite negative => if negative then 0 else bound - 1
  | finite negative significand exponent =>
    let (c, d) := unscale significand 1 (-exponent)
    if negative then 0 else min (bound - 1) ((2 * c + d) / (2 * d))

end Binary64

end MessageBus
