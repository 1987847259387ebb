/-!
Sets of characters as lists of closed ranges of code points in increasing order.
-/

set_option autoImplicit false
set_option relaxedAutoImplicit false

namespace MessageBus

abbrev CodePointRanges := List (Nat × Nat)

def CodePointRanges.contains (ranges : CodePointRanges) (c : Char) : Bool :=
  ranges.any fun r ↦ r.1 ≤ c.toNat && c.toNat ≤ r.2

end MessageBus
