import MessageBus.Envelope.Metadata
import MessageBus.Envelope.PayloadType
import MessageBus.Error
import MessageBus.Text.Split
import MessageBus.Wire.Decode
/-!
Envelopes. An envelope is a message of five fields: the identifier, the payload type, the
correlation identifier, the time, and a body that pairs the bytes of the payload with the URL of its
type. Reading one back asks for a body of the expected type, a payload that can be read, and a time
that is an instant, in this order.
-/

set_option autoImplicit false
set_option relaxedAutoImplicit false

namespace MessageBus

structure Envelope where
  payload : Payload
  metadata : Metadata
deriving Repr

namespace Envelope

open Wire

def timestampSpec : MessageSpec :=
  ⟨"Timestamp", [⟨1, "seconds", .plain .int64⟩, ⟨2, "nanos", .plain .int32⟩]⟩

def anySpec : MessageSpec :=
  ⟨"Any", [⟨1, "type_url", .plain .string⟩, ⟨2, "value", .plain .bytes⟩]⟩

def envelopeSpec : MessageSpec :=
  ⟨"WireEnvelope", [
    ⟨1, "id", .plain .string⟩,
    ⟨2, "r#type", .plain .string⟩,
    ⟨3, "correlation_id", .plain .string⟩,
    ⟨4, "timestamp", .message "Timestamp"⟩,
    ⟨5, "body", .message "Any"⟩]⟩

def schema : Schema := [envelopeSpec, timestampSpec, anySpec]

inductive Failure where
  | unreadable (cause : Wire.Failure)
  | noBody
  | unexpectedType (expected found : String)
  | noTimestamp
  | negativeNanos (nanos : Int)
  | timestampOutOfRange (seconds : Int)

def Failure.message : Failure → String
  | unreadable cause => cause.message
  | noBody => "envelope has no body"
  | unexpectedType expected found => "expected payload type " ++ expected ++ ", found " ++ found
  | noTimestamp => "envelope has no timestamp"
  | negativeNanos nanos => "invalid timestamp nanos " ++ String.ofList (Decimal.ofInt nanos)
  | timestampOutOfRange seconds =>
    "timestamp out of range: " ++ String.ofList (Decimal.ofInt seconds) ++ "s"

def Failure.error (f : Failure) : Error := .decode f.message

/-- The type name in a URL, which follows the last slash. -/
def typeNameOfUrl (url : String) : String :=
  String.ofList ((splitAtChar '/' url.toList).getLast?.getD [])

def timestampMessage (t : Instant) : Message :=
  Message.ofFields [Message.plain 1 (.int t.seconds), Message.plain 2 (.int t.nanos)]

def bodyMessage (type : PayloadType) (payload : Payload) : Message :=
  Message.ofFields [
    Message.plain 1 (.text type.typeUrl),
    Message.plain 2 (.bytes (Wire.encode type.schema type.spec payload))]

def message (type : PayloadType) (e : Envelope) : Message :=
  Message.ofFields [
    Message.plain 1 (.text e.metadata.id),
    Message.plain 2 (.text e.metadata.messageType),
    Message.plain 3 (.text e.metadata.correlationId),
    some (.message 4 (timestampMessage e.metadata.timestamp)),
    some (.message 5 (bodyMessage type e.payload))]

def encode (type : PayloadType) (e : Envelope) : Bytes :=
  Wire.encode schema envelopeSpec (e.message type)

/-- The envelope of a payload, with the generated metadata overridden. -/
def wrap (type : PayloadType) (payload : Payload) (overrides : MetadataOverrides) (stamp : Stamp) :
    Envelope where
  payload := payload
  metadata := overrides.apply (Metadata.generate stamp type.fullName)

/-- The bytes of the envelope of a payload, and the metadata in it. -/
def sealed (type : PayloadType) (payload : Payload) (overrides : MetadataOverrides)
    (stamp : Stamp) : Bytes × Metadata :=
  let e := wrap type payload overrides stamp
  (e.encode type, e.metadata)

def instant? (m : Message) : Except Failure Instant :=
  let seconds := m.int 1
  let nanos := m.int 2
  if nanos < 0 then .error (.negativeNanos nanos)
  else
    match Instant.of? seconds nanos.toNat with
    | some t => .ok t
    | none => .error (.timestampOutOfRange seconds)

/-- Reads an envelope into a payload that is cleared first. -/
def decodeInto (type : PayloadType) (prototype : Payload) (bytes : Bytes) :
    Except Failure Envelope := do
  let m ← (Wire.read schema envelopeSpec bytes).mapError .unreadable
  match m.message? 5 with
  | none => .error .noBody
  | some body =>
    if typeNameOfUrl (body.text 1) ≠ type.fullName then
      .error (.unexpectedType type.fullName (body.text 1))
    else
      let payload ←
        (Wire.mergeInto type.schema type.spec (prototype.clear type.spec)
          (body.bytes 2)).mapError .unreadable
      match m.message? 4 with
      | none => .error .noTimestamp
      | some timestamp =>
        let time ← instant? timestamp
        .ok {
          payload := payload
          metadata := {
            id := m.text 1
            messageType := m.text 2
            correlationId := m.text 3
            timestamp := time } }

def decode (type : PayloadType) (bytes : Bytes) : Except Failure Envelope :=
  decodeInto type [] bytes

end Envelope

end MessageBus
