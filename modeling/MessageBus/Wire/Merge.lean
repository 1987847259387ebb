import MessageBus.Wire.Message
/-!
Taking fields into messages. A field takes the place of those beside which it may not be set: its
old value, where it holds at most one, the entry with the same key in a map, or another alternative
of the same choice. Messages are cleared field by field.
-/

set_option autoImplicit false
set_option relaxedAutoImplicit false

namespace MessageBus.Wire

def Scalar.default : Scalar → Datum
  | bool => .bool false
  | string => .text ""
  | bytes => .bytes []
  | _ => .int 0

namespace Field

/-- The key of an entry of a map, which is unset if it is the default. -/
def key? : Field → Option Datum
  | message _ fields => Message.scalar? 1 fields
  | scalar _ _ | packed _ _ => none

/-- Whether setting a field comes to leaving it unset. -/
def isDefault (type : MessageSpec) : Field → Bool
  | scalar number value => type.label? number = some .plain && value.isDefault
  | packed _ values => values.isEmpty
  | message number fields => type.label? number = some .plain && fields.isEmpty

end Field

/-- Whether two fields may be set in one message although they share a slot. -/
def MessageSpec.admitsBoth (type : MessageSpec) (f g : Field) : Bool :=
  f.number = g.number &&
    match type.label? f.number with
    | some .repeated => true
    | some .keyed => f.key? ≠ g.key?
    | _ => false

namespace Message

/-- Puts a field behind all fields whose slot is not larger. -/
def place (type : MessageSpec) (f : Field) : Message → Message
  | [] => [f]
  | g :: rest =>
    if type.slot g.number ≤ type.slot f.number then g :: place type f rest else f :: g :: rest

/-- The fields that stay when a field is set. -/
def retain (type : MessageSpec) (f : Field) (m : Message) : Message :=
  m.filter fun g ↦ type.slot g.number ≠ type.slot f.number || type.admitsBoth g f

/-- Sets a field, to its default value or to another one. -/
def put (type : MessageSpec) (f : Field) (m : Message) : Message :=
  if f.isDefault type then retain type f m else place type f (retain type f m)

/-- What an embedded message is read into: a single one into the message that is there. -/
def held (e : Embedding) (number : Nat) (m : Message) : Message :=
  match e.label with
  | .plain | .optional => (m.message? number).getD []
  | .repeated | .keyed => []

def erase (number : Nat) (m : Message) : Message := m.filter fun f ↦ f.number ≠ number

/-- Puts a field back to what it is in a new message: one that is always there gets its default
value, and of any other nothing is left. -/
def reset (type : MessageSpec) (number : Nat) (m : Message) : Message :=
  match type.kind? number with
  | some (.plain s) => put type (.scalar number s.default) m
  | some (.optional _) | some (.repeated _) | some (.packed _) => erase number m
  | some (.message e) =>
    match e.label with
    | .plain => put type (.message number []) m
    | .optional | .repeated | .keyed => erase number m
  | none => m

/-- Resets the fields of a message type, one after another. -/
def clear (type : MessageSpec) (m : Message) : Message :=
  type.fields.foldl (fun m f ↦ reset type f.number m) m

end Message

end MessageBus.Wire
