/-!
How deep the parts of a pattern lie within each other. Parts that follow each other are a part of
their own if they are more than one.
-/

set_option autoImplicit false
set_option relaxedAutoImplicit false

namespace MessageBus.Demo.Pattern

/-- The depth of parts that follow each other. -/
def sequenceDepth : List Nat → Nat
  | [] => 0
  | [depth] => depth
  | depths => 1 + depths.foldl max 0

/-- The depth of two parts between which something stands, the first of which may be missing. -/
def joinedDepth : Option Nat → Nat → Nat
  | none, depth => depth
  | some first, depth => 1 + max first depth

end MessageBus.Demo.Pattern
