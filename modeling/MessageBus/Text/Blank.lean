/-!
White space: the characters with the Unicode property of that name.
-/

set_option autoImplicit false
set_option relaxedAutoImplicit false

namespace MessageBus

def isBlank (c : Char) : Bool :=
  let n := c.toNat
  (0x09 ≤ n && n ≤ 0x0d) || n = 0x20 || n = 0x85 || n = 0xa0 || n = 0x1680
    || (0x2000 ≤ n && n ≤ 0x200a) || n = 0x2028 || n = 0x2029 || n = 0x202f || n = 0x205f
    || n = 0x3000

def trimStart (text : List Char) : List Char := text.dropWhile isBlank

end MessageBus
