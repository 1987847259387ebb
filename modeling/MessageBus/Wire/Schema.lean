/-!
Message types of the tagged binary format. A message type lists its fields; a field has a number, a
name, and a kind that fixes the form of its value and how often it may be set. The default of a
value is zero or empty. Fields that go by one name are the alternatives of a choice, of which a
message has at most one. Message types refer to one another, and to themselves, by name in a schema;
the entries of a map are messages as well.
-/

set_option autoImplicit false
set_option relaxedAutoImplicit false

namespace MessageBus.Wire

inductive WireType where
  | varint
  | fixed64
  | lengthDelimited
  | startGroup
  | endGroup
  | fixed32
deriving DecidableEq, Repr

namespace WireType

def code : WireType → Nat
  | varint => 0
  | fixed64 => 1
  | lengthDelimited => 2
  | startGroup => 3
  | endGroup => 4
  | fixed32 => 5

def ofCode? : Nat → Option WireType
  | 0 => some varint
  | 1 => some fixed64
  | 2 => some lengthDelimited
  | 3 => some startGroup
  | 4 => some endGroup
  | 5 => some fixed32
  | _ => none

def name : WireType → String
  | varint => "Varint"
  | fixed64 => "SixtyFourBit"
  | lengthDelimited => "LengthDelimited"
  | startGroup => "StartGroup"
  | endGroup => "EndGroup"
  | fixed32 => "ThirtyTwoBit"

end WireType

inductive Scalar where
  | int32
  | int64
  | uint32
  | uint64
  | sint32
  | sint64
  | fixed32
  | fixed64
  | sfixed32
  | sfixed64
  | float
  | double
  | bool
  | string
  | bytes
deriving DecidableEq, Repr

def Scalar.wireType : Scalar → WireType
  | int32 | int64 | uint32 | uint64 | sint32 | sint64 | bool => .varint
  | fixed32 | sfixed32 | float => .fixed32
  | fixed64 | sfixed64 | double => .fixed64
  | string | bytes => .lengthDelimited

/-- How often a field may be set. -/
inductive Label where
  /-- A value that is always there; the default one is not written. -/
  | plain
  /-- A value that is there or not; one that is there is written, default or not. -/
  | optional
  /-- Any number of values. -/
  | repeated
  /-- The entries of a map, which are messages of a key and a value, no two with the same key. -/
  | keyed
deriving DecidableEq, Repr

/-- What shows where an embedded message ends: its length, or a key behind it. -/
inductive Form where
  | delimited
  | group
deriving DecidableEq, Repr

def Form.wireType : Form → WireType
  | delimited => .lengthDelimited
  | group => .startGroup

/-- The embedded messages of a field. -/
structure Embedding where
  typeName : String
  label : Label := .optional
  form : Form := .delimited
deriving DecidableEq, Repr

/-- A type name alone stands for a delimited message that is there or not. -/
instance : Coe String Embedding := ⟨fun typeName ↦ { typeName }⟩

inductive FieldKind where
  | plain (s : Scalar)
  | optional (s : Scalar)
  /-- Any number of values, each written on its own. -/
  | repeated (s : Scalar)
  /-- Any number of values, written together. -/
  | packed (s : Scalar)
  | message (e : Embedding)
deriving DecidableEq, Repr

namespace FieldKind

/-- The scalar of a field of scalars. -/
def scalar? : FieldKind → Option Scalar
  | plain s | optional s | repeated s | packed s => some s
  | message _ => none

/-- The values of a packed field count as one. -/
def label : FieldKind → Label
  | plain _ => .plain
  | optional _ | packed _ => .optional
  | repeated _ => .repeated
  | message e => e.label

end FieldKind

structure FieldSpec where
  number : Nat
  name : String
  kind : FieldKind
deriving DecidableEq, Repr

structure MessageSpec where
  name : String
  fields : List FieldSpec
deriving DecidableEq, Repr, Inhabited

namespace MessageSpec

variable (type : MessageSpec) (number : Nat)

def field? : Option FieldSpec := type.fields.find? fun f ↦ f.number = number

def kind? : Option FieldKind := (type.field? number).map (·.kind)

def label? : Option Label := (type.kind? number).map FieldKind.label

/-- Where a field stands in a message: at the least number of the fields that go by its name. -/
def slot : Nat :=
  match type.field? number with
  | some f => ((type.fields.filter fun g ↦ g.name = f.name).map (·.number)).foldl min number
  | none => number

end MessageSpec

abbrev Schema := List MessageSpec

namespace Schema

/-- The message type of a name; a name without one is a message type without fields. -/
def type (schema : Schema) (name : String) : MessageSpec :=
  (schema.find? fun m ↦ m.name = name).getD ⟨name, []⟩

/-- The type of the embedded messages of a field. The entries of a map go by no name. -/
def embedded (schema : Schema) (e : Embedding) : MessageSpec :=
  match e.label with
  | .keyed => { schema.type e.typeName with name := "" }
  | .plain | .optional | .repeated => schema.type e.typeName

end Schema

end MessageBus.Wire
