import MessageBus.Json.Text
/-!
Reading records from JSON trees. A record may be written as an object, with its fields in any order
and unknown members passed over, or as an array of field values in the order of declaration.
-/

set_option autoImplicit false
set_option relaxedAutoImplicit false

namespace MessageBus.JsonText

/-- The values of the members under one key. -/
def valuesOf (key : String) (members : List (Option String × JsonText)) : List JsonText :=
  members.filterMap fun m ↦ if m.1 = some key then some m.2 else none

/-- The values of the named fields, each with its presence. An object is no record when a key
denotes no text or a field is there twice, an array when it has more elements than fields. -/
def record? (names : List String) : JsonText → Option (List (Option JsonText))
  | object members =>
    if members.all (fun m ↦ m.1.isSome)
        && names.all (fun name ↦ (valuesOf name members).length ≤ 1) then
      some (names.map fun name ↦ (valuesOf name members).head?)
    else none
  | array elements =>
    if elements.length ≤ names.length then
      some (elements.map some ++ List.replicate (names.length - elements.length) none)
    else none
  | _ => none

/-- A natural number below a bound, written without sign, fraction and exponent. -/
def natBelow? (bound : Nat) : JsonText → Option Nat
  | number n => n.word?.filter (· < bound)
  | _ => none

/-- Reads a field that has a default. -/
def orDefault {α : Type} (read : JsonText → Option α) (default : α) : Option JsonText → Option α
  | none => some default
  | some t => read t

end MessageBus.JsonText
