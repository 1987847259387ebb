import MessageBus.Time.Instant
import MessageBus.Uuid
/-!
When something happens: the milliseconds on the running clock, the date and time, and a serial
number. The identifiers that are made at a moment are numbered within it, so those of moments with
different serial numbers are different.
-/

set_option autoImplicit false
set_option relaxedAutoImplicit false

namespace MessageBus

structure Moment where
  millis : Nat
  time : Instant
  serial : Nat
deriving DecidableEq, Repr

def Moment.id (m : Moment) (index : Nat) : String := Uuid.text m.serial index

end MessageBus
