import MessageBus.Bytes
/-!
Base64 over the standard alphabet, padded. Three bytes are written as four symbols; one or two
bytes at the end are filled with zero bits and padded to four symbols. Reading is strict: the
padding must be there, nothing else may be, and the filling bits must be zero.
-/

set_option autoImplicit false
set_option relaxedAutoImplicit false

namespace MessageBus.Base64

def symbol (n : Nat) : Char :=
  if n < 26 then Char.ofNat ('A'.toNat + n)
  else if n < 52 then Char.ofNat ('a'.toNat + (n - 26))
  else if n < 62 then Char.ofNat ('0'.toNat + (n - 52))
  else if n = 62 then '+'
  else '/'

def sextet? (c : Char) : Option Nat :=
  if 'A' ≤ c ∧ c ≤ 'Z' then some (c.toNat - 'A'.toNat)
  else if 'a' ≤ c ∧ c ≤ 'z' then some (c.toNat - 'a'.toNat + 26)
  else if '0' ≤ c ∧ c ≤ '9' then some (c.toNat - '0'.toNat + 52)
  else if c = '+' then some 62
  else if c = '/' then some 63
  else none

def padding : Char := '='

def encode : Bytes → List Char
  | [] => []
  | [a] => [symbol (a.toNat / 4), symbol (a.toNat % 4 * 16), padding, padding]
  | [a, b] =>
    [symbol (a.toNat / 4), symbol (a.toNat % 4 * 16 + b.toNat / 16), symbol (b.toNat % 16 * 4),
      padding]
  | a :: b :: c :: rest =>
    symbol (a.toNat / 4) :: symbol (a.toNat % 4 * 16 + b.toNat / 16)
      :: symbol (b.toNat % 16 * 4 + c.toNat / 64) :: symbol (c.toNat % 64) :: encode rest

/-- The bytes of the last four symbols, which may be padded. -/
def decodeLast (p q r s : Char) : Option Bytes := do
  let i ← sextet? p
  let j ← sextet? q
  if r = padding ∧ s = padding then
    if j % 16 = 0 then some [UInt8.ofNat (i * 4 + j / 16)] else none
  else
    let k ← sextet? r
    if s = padding then
      if k % 4 = 0 then
        some [UInt8.ofNat (i * 4 + j / 16), UInt8.ofNat (j % 16 * 16 + k / 4)]
      else none
    else
      let l ← sextet? s
      some [UInt8.ofNat (i * 4 + j / 16), UInt8.ofNat (j % 16 * 16 + k / 4),
        UInt8.ofNat (k % 4 * 64 + l)]

def decode : List Char → Option Bytes
  | [] => some []
  | [p, q, r, s] => decodeLast p q r s
  | p :: q :: r :: s :: rest => do
    let i ← sextet? p
    let j ← sextet? q
    let k ← sextet? r
    let l ← sextet? s
    let bytes ← decode rest
    some (UInt8.ofNat (i * 4 + j / 16) :: UInt8.ofNat (j % 16 * 16 + k / 4)
      :: UInt8.ofNat (k % 4 * 64 + l) :: bytes)
  | _ => none

end MessageBus.Base64
