/-!
Byte strings as lists, and their relation to text: a text has one UTF-8 form, and a byte string is
text when it is such a form.
-/

set_option autoImplicit false
set_option relaxedAutoImplicit false

namespace MessageBus

abbrev Bytes := List UInt8

namespace Bytes

def ofText (s : String) : Bytes := s.toByteArray.data.toList

def text? (bytes : Bytes) : Option String := String.fromUTF8? ⟨bytes.toArray⟩

theorem text?_ofText (s : String) : text? (ofText s) = some s := by
  simp [text?, ofText, String.fromUTF8?, s.isValidUTF8, String.fromUTF8]

end Bytes

end MessageBus
