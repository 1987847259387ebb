import MessageBus.Wire.Merge
import MessageBus.Wire.Varint
/-!
Writing messages. Each field that is written becomes one record: a key made of its number and the
wire type, and the value in the form of its kind. What is not written are the plain values that are
equal to the default, among them a zero of either sign.
-/

set_option autoImplicit false
set_option relaxedAutoImplicit false

namespace MessageBus.Wire

def writeKey (number : Nat) (wireType : WireType) : Bytes :=
  writeVarint (number * 8 + wireType.code)

/-- Maps integers to natural numbers so that those near zero stay small. -/
def zigzag : Int → Nat
  | .ofNat n => 2 * n
  | .negSucc n => 2 * n + 1

def unzigzag (n : Nat) : Int :=
  if n % 2 = 0 then ((n / 2 : Nat) : Int) else Int.negSucc (n / 2)

def writeDelimited (bytes : Bytes) : Bytes := writeVarint bytes.length ++ bytes

def writeInt (s : Scalar) (n : Int) : Bytes :=
  match s with
  | .sint32 | .sint64 => writeVarint (zigzag n)
  | .fixed32 | .sfixed32 | .float => writeFixed 4 (n % halfWordBound).toNat
  | .fixed64 | .sfixed64 | .double => writeFixed 8 (n % wordBound).toNat
  | _ => writeVarint (n % wordBound).toNat

def writeDatum (s : Scalar) : Datum → Bytes
  | .int n => writeInt s n
  | .bool b => writeVarint (if b then 1 else 0)
  | .text t => writeDelimited (Bytes.ofText t)
  | .bytes b => writeDelimited b

/-- An embedded message behind its key: its length and its fields, or its fields and their end. -/
def Form.enclose (form : Form) (number : Nat) (bytes : Bytes) : Bytes :=
  match form with
  | .delimited => writeDelimited bytes
  | .group => bytes ++ writeKey number .endGroup

mutual

def writeField (schema : Schema) (type : MessageSpec) : Field → Bytes
  | .scalar number value =>
    match (type.kind? number).bind FieldKind.scalar? with
    | some s => writeKey number s.wireType ++ writeDatum s value
    | none => []
  | .packed number values =>
    match (type.kind? number).bind FieldKind.scalar? with
    | some s =>
      writeKey number .lengthDelimited ++ writeDelimited (values.flatMap (writeDatum s))
    | none => []
  | .message number fields =>
    match type.kind? number with
    | some (.message e) =>
      writeKey number e.form.wireType
        ++ e.form.enclose number (write schema (schema.embedded e) fields)
    | _ => []

/-- The bytes of some fields of a message, one after another. -/
def write (schema : Schema) (type : MessageSpec) : List Field → Bytes
  | [] => []
  | f :: rest => writeField schema type f ++ write schema type rest

end

/-- Whether a value is equal to the default one: so is a floating-point zero, whatever its sign. -/
def Scalar.isZero (s : Scalar) (value : Datum) : Bool :=
  value.isDefault ||
    match s with
    | .float => value = .int 0x80000000
    | .double => value = .int 0x8000000000000000
    | _ => false

mutual

def Field.written? (schema : Schema) (type : MessageSpec) : Field → Option Field
  | .scalar number value =>
    match type.kind? number with
    | some (.plain s) => if s.isZero value then none else some (.scalar number value)
    | _ => some (.scalar number value)
  | .packed number values => some (.packed number values)
  | .message number fields =>
    match type.kind? number with
    | some (.message e) =>
      let f := .message number (Message.written schema (schema.embedded e) fields)
      if Field.isDefault type f then none else some f
    | _ => some (.message number fields)

/-- The fields of a message that are written. -/
def Message.written (schema : Schema) (type : MessageSpec) : Message → Message
  | [] => []
  | f :: rest => (f.written? schema type).toList ++ Message.written schema type rest

end

/-- The bytes of a message of the given type. -/
def encode (schema : Schema) (type : MessageSpec) (m : Message) : Bytes :=
  write schema type (m.written schema type)

end MessageBus.Wire
