/-!
Moments of the universal time scale: whole seconds since the first of January 1970 and a fraction in
nanoseconds. Within a leap second the seconds stand still on the last second of a minute and the
fraction runs on past one thousand million.
-/

set_option autoImplicit false
set_option relaxedAutoImplicit false

namespace MessageBus

namespace Instant

def nanosPerSecond : Nat := 1000000000

/-- The first second of the year -262143. -/
def minSeconds : Int := -8334601228800

/-- The last second of the year 262142. -/
def maxSeconds : Int := 8210266876799

def IsValid (seconds : Int) (nanos : Nat) : Prop :=
  minSeconds ≤ seconds ∧ seconds ≤ maxSeconds ∧ nanos < 2 * nanosPerSecond ∧
    (nanosPerSecond ≤ nanos → seconds % 60 = 59)

instance (seconds : Int) (nanos : Nat) : Decidable (IsValid seconds nanos) := by
  unfold IsValid; infer_instance

end Instant

structure Instant where
  seconds : Int
  nanos : Nat
  isValid : Instant.IsValid seconds nanos := by decide
deriving DecidableEq, Repr

namespace Instant

def of? (seconds : Int) (nanos : Nat) : Option Instant :=
  if h : IsValid seconds nanos then some ⟨seconds, nanos, h⟩ else none

def epoch : Instant where
  seconds := 0
  nanos := 0

instance : Inhabited Instant := ⟨epoch⟩

theorem of?_self (t : Instant) : of? t.seconds t.nanos = some t := by
  simp [of?, t.isValid]

end Instant

end MessageBus
