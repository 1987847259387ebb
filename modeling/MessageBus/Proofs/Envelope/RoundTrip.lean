import MessageBus.Proofs.Envelope.Message
import MessageBus.Proofs.Uuid
import MessageBus.Proofs.Wire.Listing
/-!
Envelopes are read back. The bytes of an envelope lead to the same payload and the same metadata,
whatever the prototype that it is read into, as long as the payload nests no deeper than messages
may; a payload that nests deeper is written all the same and refused by the reader. The payload that
is read is what is written of it (`PayloadType.written`), which is all of it unless a plain number
in it is a negative zero. The metadata of an envelope are the generated ones, but for what was given
last.
-/

set_option autoImplicit false
set_option relaxedAutoImplicit false

namespace MessageBus

/-- A call that overrides generated metadata. -/
inductive Override where
  | id (text : String)
  | correlationId (text : String)
  | timestamp (t : Instant)
deriving DecidableEq, Repr

namespace Override

def on (o : MetadataOverrides) : Override → MetadataOverrides
  | .id text => o.withId text
  | .correlationId text => o.withCorrelationId text
  | .timestamp t => o.withTimestamp t

def id? : Override → Option String
  | .id text => some text
  | _ => none

def timestamp? : Override → Option Instant
  | .timestamp t => some t
  | _ => none

end Override

namespace MetadataOverrides

end MetadataOverrides

/-- The identifier and the time that are generated at a moment. -/
def Stamp.ofMoment (m : Moment) : Stamp := ⟨m.id 0, m.time⟩

namespace PayloadType

/-- A payload type whose schema can be written and whose URL names it. -/
structure IsNamed (type : PayloadType) : Prop where
  isWellFormed : type.schema.isWellFormed
  typeName : Envelope.typeNameOfUrl type.typeUrl = type.fullName

variable (type : PayloadType)

/-- Whether a list of fields is a payload of the type. -/
def IsPayload (payload : Payload) : Prop := payload.isCanonical type.schema type.spec

instance (payload : Payload) : Decidable (type.IsPayload payload) := by
  unfold IsPayload; infer_instance

/-- What is written of a payload. -/
def written (payload : Payload) : Payload := payload.written type.schema type.spec

/-- Whether two lists of fields are the same payload: the sign of a plain zero is no part of it, and
neither is the order in which the entries of a map are listed. -/
def Same (p q : Payload) : Prop := Wire.Message.Same type.schema type.spec p q

theorem same_written (payload : Payload) : type.Same (type.written payload) payload :=
  Wire.Message.same_written ..

/-- All of a payload is written if no plain number in it is a negative zero. -/
theorem written_eq_self {payload : Payload} (h : type.IsPayload payload)
    (hsign : payload.hasNegativeZero type.schema type.spec = false) :
    type.written payload = payload :=
  Wire.Message.written_eq_self h hsign

theorem isWellFormed_spec {type : PayloadType} (h : type.IsNamed) :
    type.spec.isWellFormed type.schema :=
  Wire.Schema.isWellFormed_type h.isWellFormed type.root

end PayloadType

namespace Envelope

open Wire

/-- Reading an envelope that was written comes down to reading the payload in it. -/
theorem decodeInto_encode {type : PayloadType} (htype : type.IsNamed) {prototype : Payload}
    (hprototype : type.IsPayload prototype) {e : Envelope}
    (hsize : (e.encode type).length < wordBound) :
    decodeInto type prototype (e.encode type) =
      ((Wire.read type.schema type.spec (Wire.encode type.schema type.spec e.payload)).mapError
        Failure.unreadable).map fun payload ↦ ⟨payload, e.metadata⟩ := by
  obtain ⟨hschema, hspec⟩ := isWellFormed_schema
  have hread : Wire.read schema envelopeSpec (e.encode type) = .ok (e.message type) := by
    rw [encode_eq_write] at hsize ⊢
    exact (readsWithin_read_write hschema hspec (isCanonical_message type e) hsize).within
      (by rw [nesting_message]; decide)
  obtain ⟨hid, hmessageType, hcorrelationId⟩ := text_message type e
  obtain ⟨htimestamp, hbody⟩ := message?_message type e
  have hurl : ¬ typeNameOfUrl ((bodyMessage type e.payload).text 1) ≠ type.fullName := by
    rw [text_bodyMessage, htype.typeName]
    simp
  have hpayload : Wire.mergeInto type.schema type.spec (prototype.clear type.spec)
      ((bodyMessage type e.payload).bytes 2) =
        Wire.read type.schema type.spec (Wire.encode type.schema type.spec e.payload) := by
    rw [bytes_bodyMessage, Message.clear_of_isCanonical hprototype]
    rfl
  rw [decodeInto, hread]
  simp only [mapError_ok, ok_bind, hbody, if_neg hurl, hpayload, htimestamp]
  cases Wire.read type.schema type.spec (Wire.encode type.schema type.spec e.payload) with
  | error cause => rfl
  | ok payload =>
    simp only [ok_bind, instant?_timestampMessage, hid, hmessageType, hcorrelationId]
    rfl

section

variable {type : PayloadType} (htype : type.IsNamed) {prototype : Payload}
  (hprototype : type.IsPayload prototype) {e : Envelope} (hpayload : type.IsPayload e.payload)
  (hsize : (e.encode type).length < wordBound)

include htype hpayload hsize in
theorem readsWithin_payload : ReadsWithin (type.written e.payload).nesting maxDepth
    (type.written e.payload)
    (Wire.read type.schema type.spec (Wire.encode type.schema type.spec e.payload)) :=
  readsWithin_read_encode htype.isWellFormed (PayloadType.isWellFormed_spec htype) hpayload
    (Nat.lt_of_le_of_lt (length_payload_le type e) hsize)

include htype hprototype hpayload hsize

theorem decodeInto_encode_within (hnesting : (type.written e.payload).nesting ≤ maxDepth) :
    decodeInto type prototype (e.encode type) = .ok ⟨type.written e.payload, e.metadata⟩ := by
  rw [decodeInto_encode htype hprototype hsize,
    (readsWithin_payload htype hpayload hsize).within hnesting]
  rfl

end

theorem isPayload_nil (type : PayloadType) : type.IsPayload [] := rfl

/-- A payload type that has a field of every kind: values that are always there, there or not, or
there any number of times, embedded messages and groups, maps of numbers and of messages, and a
choice. It nests in itself. -/
def sampleType : PayloadType :=
  .ofSchema "sample.v1.Sample" [
    ⟨"Sample", [
      ⟨1, "delta", .plain .sint64⟩,
      ⟨2, "label", .optional .string⟩,
      ⟨3, "marks", .repeated .fixed32⟩,
      ⟨4, "counts", .packed .int32⟩,
      ⟨5, "inner", .message "Sample"⟩,
      ⟨6, "ratio", .plain .double⟩,
      ⟨7, "weights", .packed .float⟩,
      ⟨8, "parts", .message { typeName := "Sample", label := .repeated }⟩,
      ⟨9, "chosen", .optional .bool⟩,
      ⟨10, "names", .message { typeName := "NamesEntry", label := .keyed }⟩,
      ⟨11, "nested", .message { typeName := "NestedEntry", label := .keyed }⟩,
      ⟨12, "block", .message { typeName := "Sample", form := .group }⟩,
      ⟨13, "chosen", .message "Sample"⟩]⟩,
    ⟨"NamesEntry", [⟨1, "key", .plain .string⟩, ⟨2, "value", .plain .double⟩]⟩,
    ⟨"NestedEntry", [⟨1, "key", .plain .int32⟩,
      ⟨2, "value", .message { typeName := "Sample", label := .plain }⟩]⟩] "Sample"

/-- The bits of a floating-point number that is not a number. -/
def sampleNaN : Datum := .int 0x7FF8000000000001

def samplePayload : Payload := [
  .scalar 1 (.int (-3)), .scalar 2 (.text ""), .scalar 3 (.int 7), .scalar 3 (.int 0),
  .packed 4 [.int (-1), .int 0], .message 5 [.message 5 []], .scalar 6 sampleNaN,
  .packed 7 [.int 0x80000000, .int 0], .message 8 [], .message 8 [.scalar 1 (.int 1)],
  .message 13 [.scalar 9 (.bool false)],
  .message 10 [.scalar 1 (.text "b")], .message 10 [.scalar 2 (.int 0x3FF0000000000000)],
  .message 11 [.message 2 [.scalar 1 (.int 2)]], .message 12 [.message 12 []]]

/-- Moments in a leap second, and the first moment of the year 1970. -/
def sampleCalls : List Override :=
  [.id "first", .timestamp .epoch, .id "", .timestamp ⟨59, 1500000000, by decide⟩]

theorem isNamed_sampleType : sampleType.IsNamed := ⟨by decide, by decide⟩

theorem isPayload_samplePayload : sampleType.IsPayload samplePayload := by decide +kernel

theorem written_samplePayload : sampleType.written samplePayload = samplePayload :=
  sampleType.written_eq_self isPayload_samplePayload (by decide +kernel)

end Envelope

end MessageBus
