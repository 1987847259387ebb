import MessageBus.Text.Decimal
import MessageBus.Wire.Encode
/-!
Reading messages. An embedded message is read from the whole buffer and must end where its length
says, so a value may run past the end of its message before the overrun is noticed. The numbers of a
field that may be set several times are read alone or packed, however the field is written. Unknown
fields are skipped, groups with all they contain. Messages and groups may nest to a fixed depth.

A failure names the fields that were being read, the innermost first.
-/

set_option autoImplicit false
set_option relaxedAutoImplicit false

namespace MessageBus.Wire

inductive Fault where
  | invalidVarint
  | invalidKey (key : Nat)
  | invalidWireType (code : Nat)
  | zeroNumber
  | unexpectedWireType (found expected : WireType)
  | underflow
  | lengthExceeded
  | unexpectedEndGroup
  | notUtf8
  | recursionLimit
deriving DecidableEq, Repr

def Fault.message : Fault → String
  | invalidVarint => "invalid varint"
  | invalidKey key => "invalid key value: " ++ Decimal.text key
  | invalidWireType code => "invalid wire type value: " ++ Decimal.text code
  | zeroNumber => "invalid tag value: 0"
  | unexpectedWireType found expected =>
    "invalid wire type: " ++ found.name ++ " (expected " ++ expected.name ++ ")"
  | underflow => "buffer underflow"
  | lengthExceeded => "delimited length exceeded"
  | unexpectedEndGroup => "unexpected end group tag"
  | notUtf8 => "invalid string value: data is not UTF-8 encoded"
  | recursionLimit => "recursion limit reached"

structure Failure where
  /-- The message types and fields being read, the innermost first. -/
  path : List (String × String)
  fault : Fault
deriving DecidableEq, Repr

namespace Failure

def message (f : Failure) : String :=
  "failed to decode Protobuf message: "
    ++ String.join (f.path.map fun (type, field) ↦ type ++ "." ++ field ++ ": ")
    ++ f.fault.message

/-- A failure in a field. The entries of a map, whose type has no name, are not mentioned. -/
def enclose (type field : String) (f : Failure) : Failure :=
  if type = "" then f else { f with path := f.path ++ [(type, field)] }

end Failure

def fail {α : Type} (fault : Fault) : Except Failure α := .error ⟨[], fault⟩

def varint (bytes : Bytes) : Except Failure (Nat × Bytes) :=
  match readVarint bytes with
  | some r => .ok r
  | none => fail .invalidVarint

def readKey (bytes : Bytes) : Except Failure ((Nat × WireType) × Bytes) := do
  let (key, rest) ← varint bytes
  if key ≥ halfWordBound then fail (.invalidKey key)
  else
    match WireType.ofCode? (key % 8) with
    | none => fail (.invalidWireType (key % 8))
    | some wireType => if key / 8 = 0 then fail .zeroNumber else .ok ((key / 8, wireType), rest)

def expect (expected found : WireType) : Except Failure Unit :=
  if found = expected then .ok () else fail (.unexpectedWireType found expected)

/-- Takes a number of bytes off the buffer. -/
def take (n : Nat) (bytes : Bytes) : Except Failure (Bytes × Bytes) :=
  if n ≤ bytes.length then .ok (bytes.take n, bytes.drop n) else fail .underflow

def readDelimited (bytes : Bytes) : Except Failure (Bytes × Bytes) := do
  let (n, rest) ← varint bytes
  take n rest

/-- The integer that a varint or fixed-size word stands for. -/
def intOfWord (s : Scalar) (word : Nat) : Int :=
  match s with
  | .int32 | .sfixed32 => (word : Int).bmod halfWordBound
  | .int64 | .sfixed64 => (word : Int).bmod wordBound
  | .uint32 | .fixed32 | .float => (word % halfWordBound : Nat)
  | .sint32 => unzigzag (word % halfWordBound)
  | .sint64 => unzigzag word
  | _ => word

/-- Reads one value in the wire form of its scalar type. -/
def readDatum (s : Scalar) (bytes : Bytes) : Except Failure (Datum × Bytes) :=
  match s with
  | .string => do
    let (b, rest) ← readDelimited bytes
    match Bytes.text? b with
    | some t => .ok (.text t, rest)
    | none => fail .notUtf8
  | .bytes => do
    let (b, rest) ← readDelimited bytes
    .ok (.bytes b, rest)
  | .bool => do
    let (n, rest) ← varint bytes
    .ok (.bool (n ≠ 0), rest)
  | s =>
    match s.wireType with
    | .fixed32 => do
      let (b, rest) ← take 4 bytes
      .ok (.int (intOfWord s (fixedValue b)), rest)
    | .fixed64 => do
      let (b, rest) ← take 8 bytes
      .ok (.int (intOfWord s (fixedValue b)), rest)
    | _ => do
      let (n, rest) ← varint bytes
      .ok (.int (intOfWord s n), rest)

/-- Reads the values of a packed field until `limit` bytes are left. -/
def readPacked (s : Scalar) (limit : Nat) :
    Nat → List Datum → Bytes → Except Failure (List Datum × Bytes)
  | fuel, values, bytes =>
    if bytes.length ≤ limit then
      if bytes.length = limit then .ok (values, bytes) else fail .lengthExceeded
    else
      match fuel with
      | 0 => fail .invalidVarint
      | fuel + 1 => do
        let (value, rest) ← readDatum s bytes
        readPacked s limit fuel (values ++ [value]) rest

/-- Passes over the fields of a group and its end. Every field takes a byte off the buffer, so fuel
above its length is never used up. -/
def skipGroup (skip : Nat → WireType → Bytes → Except Failure Bytes) (number : Nat) :
    Nat → Bytes → Except Failure Bytes
  | 0, _ => fail .invalidVarint
  | fuel + 1, bytes => do
    let ((inner, wireType), rest) ← readKey bytes
    if wireType = .endGroup then
      if inner = number then .ok rest else fail .unexpectedEndGroup
    else
      let rest ← skip inner wireType rest
      skipGroup skip number fuel rest

/-- Passes over the value of a field that the message type does not know, where groups may nest to
the given depth. -/
def skipField : Nat → Nat → WireType → Bytes → Except Failure Bytes
  | 0, _, _, _ => fail .recursionLimit
  | depth + 1, number, wireType, bytes =>
    match wireType with
    | .varint => do
      let (_, rest) ← varint bytes
      .ok rest
    | .fixed32 => do
      let (_, rest) ← take 4 bytes
      .ok rest
    | .fixed64 => do
      let (_, rest) ← take 8 bytes
      .ok rest
    | .lengthDelimited => do
      let (_, rest) ← readDelimited bytes
      .ok rest
    | .startGroup => skipGroup (skipField depth) number (bytes.length + 1) bytes
    | .endGroup => fail .unexpectedEndGroup

/-- How deep messages and groups may nest. -/
def maxDepth : Nat := 100

/-- The end, as a number of bytes that are left, of a value whose length comes first. -/
def readEnd (bytes : Bytes) : Except Failure (Nat × Bytes) := do
  let (n, rest) ← varint bytes
  if n ≤ rest.length then .ok (rest.length - n, rest) else fail .underflow

/-- Where the fields of a message end: when so many bytes are left, or at the end of a group. -/
inductive Ending where
  | limit (left : Nat)
  | group (number : Nat)
deriving DecidableEq, Repr

/-- What is left of the buffer if the fields of a message end here. -/
def Ending.rest? (ending : Ending) (bytes : Bytes) : Except Failure (Option Bytes) :=
  match ending with
  | .limit left =>
    if bytes.length < left then fail .lengthExceeded
    else .ok (if bytes.length = left then some bytes else none)
  | .group number => do
    let ((inner, wireType), rest) ← readKey bytes
    if wireType ≠ .endGroup then .ok none
    else if inner = number then .ok (some rest)
    else fail .unexpectedEndGroup

/-- The beginning of an embedded message: where its fields end, and the bytes from them on. -/
def Form.readStart (form : Form) (number : Nat) (bytes : Bytes) :
    Except Failure (Ending × Bytes) :=
  match form with
  | .delimited => do
    let (left, rest) ← readEnd bytes
    .ok (.limit left, rest)
  | .group => .ok (.group number, bytes)

/-- The entries of a map are read whatever their wire type is. -/
def Embedding.expect (e : Embedding) (wireType : WireType) : Except Failure Unit :=
  match e.label with
  | .keyed => .ok ()
  | .plain | .optional | .repeated => Wire.expect e.form.wireType wireType

/-- Reads the value of one field into a message, with a reader for the fields of embedded ones. -/
def readField (schema : Schema)
    (readEmbedded :
      MessageSpec → Nat → Ending → Message → Bytes → Except Failure (Message × Bytes))
    (type : MessageSpec) (depth number : Nat) (wireType : WireType) (message : Message)
    (bytes : Bytes) : Except Failure (Message × Bytes) :=
  match type.field? number with
  | none => do
    let rest ← skipField depth number wireType bytes
    .ok (message, rest)
  | some spec =>
    Except.mapError (Failure.enclose type.name spec.name) <|
      match spec.kind with
      | .plain s | .optional s => do
        expect s.wireType wireType
        let (value, rest) ← readDatum s bytes
        .ok (message.put type (.scalar number value), rest)
      | .repeated s =>
        if wireType = .lengthDelimited ∧ s.wireType ≠ .lengthDelimited then do
          let (limit, rest) ← readEnd bytes
          let (values, rest) ← readPacked s limit rest.length [] rest
          .ok (values.foldl (fun m value ↦ m.put type (.scalar number value)) message, rest)
        else do
          expect s.wireType wireType
          let (value, rest) ← readDatum s bytes
          .ok (message.put type (.scalar number value), rest)
      | .packed s =>
        if wireType = .lengthDelimited then do
          let (limit, rest) ← readEnd bytes
          let (values, rest) ← readPacked s limit rest.length [] rest
          .ok (message.put type (.packed number (message.packed number ++ values)), rest)
        else do
          expect s.wireType wireType
          let (value, rest) ← readDatum s bytes
          .ok (message.put type (.packed number (message.packed number ++ [value])), rest)
      | .message e => do
        e.expect wireType
        if depth = 0 then fail .recursionLimit
        else
          let (ending, rest) ← e.form.readStart number bytes
          let (fields, rest) ← readEmbedded (schema.embedded e) (depth - 1) ending
            (message.held e number) rest
          .ok (message.put type (.message number fields), rest)

/-- Reads fields into a message until they end. Every field takes a byte off the buffer, so fuel
above its length is never used up. -/
def readFields (schema : Schema) :
    Nat → MessageSpec → Nat → Ending → Message → Bytes → Except Failure (Message × Bytes)
  | 0, _, _, _, _, _ => fail .invalidVarint
  | fuel + 1, type, depth, ending, message, bytes => do
    match ← ending.rest? bytes with
    | some rest => .ok (message, rest)
    | none =>
      let ((number, wireType), rest) ← readKey bytes
      let (message, rest) ←
        readField schema (readFields schema fuel) type depth number wireType message rest
      readFields schema fuel type depth ending message rest

/-- Reads a whole buffer into a message that may already hold fields. -/
def mergeInto (schema : Schema) (type : MessageSpec) (message : Message) (bytes : Bytes) :
    Except Failure Message :=
  (readFields schema (bytes.length + 1) type maxDepth (.limit 0) message bytes).map Prod.fst

/-- Reads a whole buffer as a message of the given type. -/
def read (schema : Schema) (type : MessageSpec) (bytes : Bytes) : Except Failure Message :=
  mergeInto schema type [] bytes

end MessageBus.Wire
