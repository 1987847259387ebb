import MessageBus.Text.Hex
/-!
Identifiers in the text form of random UUIDs. An identifier has two numbers: the first one fills the
first group and the second one the last group. Groups grow when they have to, so different pairs of
numbers have different texts.
-/

set_option autoImplicit false
set_option relaxedAutoImplicit false

namespace MessageBus.Uuid

def groups (serial index : Nat) : List (List Char) := [
  Hex.padded 8 serial, List.replicate 4 '0', '4' :: List.replicate 3 '0',
  '8' :: List.replicate 3 '0', Hex.padded 12 index]

def text (serial index : Nat) : String :=
  String.ofList (List.intercalate ['-'] (groups serial index))

/-- The form without hyphens. -/
def simple (serial index : Nat) : String := String.ofList (groups serial index).flatten

end MessageBus.Uuid
