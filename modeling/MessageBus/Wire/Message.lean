import MessageBus.Bytes
import MessageBus.Wire.Schema
/-!
Messages as lists of the fields that are set, in the order of their slots. A plain field that has
its default value is not set; the values of a packed field stand together in one entry, which is
never empty; those of a repeated field, and the entries of a map, stand in entries of their own,
next to one another.
-/

set_option autoImplicit false
set_option relaxedAutoImplicit false

namespace MessageBus.Wire

/-- A value. A floating-point number is given by its bits, as an integer. -/
inductive Datum where
  | int (n : Int)
  | bool (b : Bool)
  | text (s : String)
  | bytes (b : Bytes)
deriving DecidableEq, Repr, Inhabited

inductive Field where
  | scalar (number : Nat) (value : Datum)
  | packed (number : Nat) (values : List Datum)
  | message (number : Nat) (fields : List Field)
deriving Repr, Inhabited

mutual

def Field.decEq : (f g : Field) → Decidable (f = g)
  | .scalar number value, .scalar number' value' =>
    decidable_of_iff (number = number' ∧ value = value') (by simp)
  | .packed number values, .packed number' values' =>
    decidable_of_iff (number = number' ∧ values = values') (by simp)
  | .message number fields, .message number' fields' =>
    have := Field.decEqList fields fields'
    decidable_of_iff (number = number' ∧ fields = fields') (by simp)
  | .scalar _ _, .packed _ _ | .scalar _ _, .message _ _ | .packed _ _, .scalar _ _
  | .packed _ _, .message _ _ | .message _ _, .scalar _ _ | .message _ _, .packed _ _ =>
    isFalse (by simp)

def Field.decEqList : (m m' : List Field) → Decidable (m = m')
  | [], [] => isTrue rfl
  | f :: rest, f' :: rest' =>
    have := Field.decEq f f'
    have := Field.decEqList rest rest'
    decidable_of_iff (f = f' ∧ rest = rest') (by simp)
  | [], _ :: _ | _ :: _, [] => isFalse (by simp)

end

instance : DecidableEq Field := Field.decEq

abbrev Message := List Field

namespace Datum

def isDefault : Datum → Bool
  | int n => n = 0
  | bool b => !b
  | text s => s = ""
  | bytes b => b = []

end Datum

def Field.number : Field → Nat
  | scalar number _ => number
  | packed number _ => number
  | message number _ => number

namespace Message

def field? (number : Nat) (m : Message) : Option Field := m.find? fun f ↦ f.number = number

def scalar? (number : Nat) (m : Message) : Option Datum :=
  match m.field? number with
  | some (.scalar _ value) => some value
  | _ => none

def text (number : Nat) (m : Message) : String :=
  match m.scalar? number with
  | some (.text s) => s
  | _ => ""

def int (number : Nat) (m : Message) : Int :=
  match m.scalar? number with
  | some (.int n) => n
  | _ => 0

def bytes (number : Nat) (m : Message) : Bytes :=
  match m.scalar? number with
  | some (.bytes b) => b
  | _ => []

def packed (number : Nat) (m : Message) : List Datum :=
  match m.field? number with
  | some (.packed _ values) => values
  | _ => []

def message? (number : Nat) (m : Message) : Option Message :=
  match m.field? number with
  | some (.message _ fields) => some fields
  | _ => none

/-- The set fields among a list of candidates. -/
def ofFields (fields : List (Option Field)) : Message := fields.filterMap id

/-- A plain field, unless its value is the default. -/
def plain (number : Nat) (value : Datum) : Option Field :=
  if value.isDefault then none else some (.scalar number value)

end Message

end MessageBus.Wire
