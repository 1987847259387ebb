import MessageBus.Bytes
import MessageBus.Word
/-!
Base-128 integers, least significant group first, and integers of a fixed number of bytes, least
significant byte first. A base-128 integer has at most ten bytes and is below `2 ^ 64`.
-/

set_option autoImplicit false
set_option relaxedAutoImplicit false

namespace MessageBus.Wire

def writeVarint (n : Nat) : Bytes :=
  if n < 128 then [UInt8.ofNat n] else UInt8.ofNat (n % 128 + 128) :: writeVarint (n / 128)
termination_by n

/-- Reads the bytes from the one at place `i` on, whose weight is `128 ^ i`. -/
def readVarintFrom (i acc : Nat) : Bytes → Option (Nat × Bytes)
  | [] => none
  | b :: rest =>
    if i = 9 then
      if b.toNat < 2 then some (acc + b.toNat * Nat.pow 128 i, rest) else none
    else if b.toNat < 128 then some (acc + b.toNat * Nat.pow 128 i, rest)
    else readVarintFrom (i + 1) (acc + (b.toNat - 128) * Nat.pow 128 i) rest

def readVarint (bytes : Bytes) : Option (Nat × Bytes) := readVarintFrom 0 0 bytes

def writeFixed : Nat → Nat → Bytes
  | 0, _ => []
  | width + 1, n => UInt8.ofNat (n % 256) :: writeFixed width (n / 256)

def fixedValue : Bytes → Nat
  | [] => 0
  | b :: rest => b.toNat + 256 * fixedValue rest

end MessageBus.Wire
