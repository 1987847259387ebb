/-!
The bounds of the natural numbers that words and half words hold.
-/

set_option autoImplicit false
set_option relaxedAutoImplicit false

namespace MessageBus

def wordBound : Nat := 0x10000000000000000

def halfWordBound : Nat := 0x100000000

end MessageBus
