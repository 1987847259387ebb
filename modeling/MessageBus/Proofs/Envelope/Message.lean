import MessageBus.Envelope.Codec
import MessageBus.Proofs.Wire.Written
/-!
An envelope as a message. Whatever its metadata and payload are, the fields of an envelope make a
message of the envelope type, from which each of them can be asked again: a text that is empty is
not set and reads as empty, and a time whose seconds and nanoseconds are zero is a message without
fields.
-/

set_option autoImplicit false
set_option relaxedAutoImplicit false

namespace MessageBus.Wire.Message

/-! ### Fields that may be unset -/

theorem text_of_field? {number : Nat} {value : String} {m : Message}
    (h : m.field? number = plain number (.text value)) : m.text number = value := by
  by_cases hv : value = ""
  · simp [text, scalar?, h, plain, Datum.isDefault, hv]
  · simp [text, scalar?, h, plain, Datum.isDefault, hv]

theorem int_of_field? {number : Nat} {value : Int} {m : Message}
    (h : m.field? number = plain number (.int value)) : m.int number = value := by
  by_cases hv : value = 0
  · simp [int, scalar?, h, plain, Datum.isDefault, hv]
  · simp [int, scalar?, h, plain, Datum.isDefault, hv]

theorem bytes_of_field? {number : Nat} {value : Bytes} {m : Message}
    (h : m.field? number = plain number (.bytes value)) : m.bytes number = value := by
  by_cases hv : value = []
  · simp [bytes, scalar?, h, plain, Datum.isDefault, hv]
  · simp [bytes, scalar?, h, plain, Datum.isDefault, hv]

/-- A message, with numbers from `number` on, of a type in which each field stands at its own. -/
structure IsCanonicalFrom (schema : Schema) (type : MessageSpec) (number : Nat) (m : Message) :
    Prop where
  isCanonical : m.isCanonical schema type
  le_number : ∀ f ∈ m, number ≤ f.number
  slot_eq : ∀ n, type.slot n = n

namespace IsCanonicalFrom

variable {schema : Schema} {type : MessageSpec} {number : Nat} {rest : List (Option Field)}

theorem nil (hslot : ∀ f ∈ type.fields, type.slot f.number = f.number) :
    IsCanonicalFrom schema type number (ofFields []) :=
  ⟨rfl, by simp [ofFields], MessageSpec.slot_eq hslot⟩

theorem some {f : Field} (hnumber : f.number = number) (hf : f.isCanonical schema type)
    (hrest : IsCanonicalFrom schema type (number + 1) (ofFields rest)) :
    IsCanonicalFrom schema type number (ofFields (Option.some f :: rest)) := by
  have hfirst : ofFields (Option.some f :: rest) = f :: ofFields rest := rfl
  obtain ⟨hall, hsorted⟩ := isCanonical_iff.mp hrest.isCanonical
  have hlt : ∀ g ∈ ofFields rest, f.number < g.number := fun g hg ↦
    hnumber ▸ hrest.le_number g hg
  rw [hfirst]
  refine ⟨isCanonical_iff.mpr ⟨List.forall_mem_cons.mpr ⟨hf, hall⟩, .cons (fun g hg ↦ ?_) hsorted⟩,
    List.forall_mem_cons.mpr ⟨Nat.le_of_eq hnumber.symm, fun g hg ↦ ?_⟩, hrest.slot_eq⟩
  · refine MessageSpec.precedes_of_slot_lt ?_
    rw [hrest.slot_eq, hrest.slot_eq]
    exact hlt g hg
  · exact Nat.le_of_lt (hrest.le_number g hg)

theorem plain {s : Scalar} {value : Datum} (hkind : type.kind? number = Option.some (.plain s))
    (hadmits : s.admits value)
    (hrest : IsCanonicalFrom schema type (number + 1) (ofFields rest)) :
    IsCanonicalFrom schema type number (ofFields (Message.plain number value :: rest)) := by
  cases hdefault : value.isDefault with
  | true =>
    have hskip : ofFields (Message.plain number value :: rest) = ofFields rest := by
      simp [ofFields, Message.plain, hdefault]
    rw [hskip]
    exact ⟨hrest.isCanonical, fun f hf ↦ Nat.le_of_lt (hrest.le_number f hf), hrest.slot_eq⟩
  | false =>
    have hset : Message.plain number value = Option.some (.scalar number value) := by
      simp [Message.plain, hdefault]
    rw [hset]
    exact .some rfl (Field.isCanonical_plain hkind hadmits hdefault) hrest

end IsCanonicalFrom

end MessageBus.Wire.Message

namespace MessageBus.Envelope

open Wire Wire.Message

theorem int_timestampMessage (t : Instant) :
    (timestampMessage t).int 1 = t.seconds ∧ (timestampMessage t).int 2 = t.nanos := by
  constructor <;> apply int_of_field? <;>
    simp [timestampMessage, field?_ofFields_plain, field?_ofFields_nil]

theorem instant?_timestampMessage (t : Instant) : instant? (timestampMessage t) = .ok t := by
  obtain ⟨hseconds, hnanos⟩ := int_timestampMessage t
  simp [instant?, hseconds, hnanos, Instant.of?_self]

section

variable (type : PayloadType) (payload : Payload)

theorem text_bodyMessage : (bodyMessage type payload).text 1 = type.typeUrl := by
  apply text_of_field?
  simp [bodyMessage, field?_ofFields_plain, field?_ofFields_nil]

theorem bytes_bodyMessage :
    (bodyMessage type payload).bytes 2 = Wire.encode type.schema type.spec payload := by
  apply bytes_of_field?
  simp [bodyMessage, field?_ofFields_plain, field?_ofFields_nil]

end

section

variable (type : PayloadType) (e : Envelope)

theorem text_message :
    (e.message type).text 1 = e.metadata.id ∧ (e.message type).text 2 = e.metadata.messageType ∧
      (e.message type).text 3 = e.metadata.correlationId := by
  refine ⟨?_, ?_, ?_⟩ <;> apply text_of_field? <;>
    simp [message, field?_ofFields_plain, field?_ofFields_some, field?_ofFields_nil, Field.number]

theorem message?_message :
    (e.message type).message? 4 = some (timestampMessage e.metadata.timestamp) ∧
      (e.message type).message? 5 = some (bodyMessage type e.payload) := by
  constructor <;>
    simp [message, message?, field?_ofFields_plain, field?_ofFields_some, Field.number]

end

/-! ### The message types of an envelope -/

theorem isWellFormed_schema : schema.isWellFormed ∧ envelopeSpec.isWellFormed schema := by decide

theorem isCanonical_timestampMessage (t : Instant) :
    (timestampMessage t).isCanonical schema timestampSpec := by
  obtain ⟨hmin, hmax, hnanos, -⟩ := t.isValid
  simp only [Instant.minSeconds, Instant.maxSeconds, Instant.nanosPerSecond] at hmin hmax hnanos
  have hseconds : Scalar.int64.admits (.int t.seconds) :=
    Scalar.admits_int rfl (by omega) (by omega)
  have hfraction : Scalar.int32.admits (.int t.nanos) :=
    Scalar.admits_int rfl (by omega) (by omega)
  have hfields : IsCanonicalFrom schema timestampSpec 1 (timestampMessage t) :=
    .plain rfl hseconds (.plain rfl hfraction (.nil (by decide)))
  exact hfields.isCanonical

theorem isCanonical_bodyMessage (type : PayloadType) (payload : Payload) :
    (bodyMessage type payload).isCanonical schema anySpec := by
  have hfields : IsCanonicalFrom schema anySpec 1 (bodyMessage type payload) :=
    .plain (s := .string) rfl rfl (.plain (s := .bytes) rfl rfl (.nil (by decide)))
  exact hfields.isCanonical

theorem isCanonical_message (type : PayloadType) (e : Envelope) :
    (e.message type).isCanonical schema envelopeSpec := by
  have htime : (Field.message 4 (timestampMessage e.metadata.timestamp)).isCanonical schema
      envelopeSpec :=
    Field.isCanonical_iff.mpr ⟨isCanonical_timestampMessage _, rfl⟩
  have hbody : (Field.message 5 (bodyMessage type e.payload)).isCanonical schema envelopeSpec :=
    Field.isCanonical_iff.mpr ⟨isCanonical_bodyMessage type e.payload, rfl⟩
  have hfields : IsCanonicalFrom schema envelopeSpec 1 (e.message type) :=
    .plain (s := .string) rfl rfl <| .plain (s := .string) rfl rfl <|
      .plain (s := .string) rfl rfl <| .some rfl htime <| .some rfl hbody <| .nil (by decide)
  exact hfields.isCanonical

/-- All of an envelope is written. -/
theorem encode_eq_write (type : PayloadType) (e : Envelope) :
    e.encode type = Wire.write schema envelopeSpec (e.message type) := by
  have hsigns : (e.message type).hasNegativeZero schema envelopeSpec = false :=
    hasNegativeZero_eq_false (by decide) (by decide) _
  rw [encode, Wire.encode, written_eq_self (isCanonical_message type e) hsigns]

/-! ### Nesting and size -/

theorem nesting_ofFields_plain (number : Nat) (value : Datum) (rest : List (Option Field)) :
    (ofFields (Message.plain number value :: rest)).nesting = (ofFields rest).nesting := by
  by_cases hv : value.isDefault
  · simp [ofFields, Message.plain, hv]
  · simp [ofFields, Message.plain, hv, nesting, Field.nesting]

theorem nesting_ofFields_some (f : Field) (rest : List (Option Field)) :
    (ofFields (some f :: rest)).nesting = max f.nesting (ofFields rest).nesting := rfl

theorem nesting_message (type : PayloadType) (e : Envelope) : (e.message type).nesting = 1 := by
  simp only [message, timestampMessage, bodyMessage, nesting_ofFields_plain, nesting_ofFields_some,
    Field.nesting]
  rfl

theorem length_writeField_le {s : Schema} {spec : MessageSpec} {f : Field} {m : Message}
    (h : f ∈ m) : (writeField s spec f).length ≤ (write s spec m).length := by
  induction m with
  | nil => cases h
  | cons g rest ih =>
    simp only [write, List.length_append]
    rcases List.mem_cons.mp h with rfl | h
    · omega
    · have := ih h
      omega

/-- An envelope is longer than the payload in it. -/
theorem length_payload_le (type : PayloadType) (e : Envelope) :
    (Wire.encode type.schema type.spec e.payload).length ≤ (e.encode type).length := by
  by_cases hempty : Wire.encode type.schema type.spec e.payload = []
  · simp [hempty]
  · have hvalue : Field.scalar 2 (.bytes (Wire.encode type.schema type.spec e.payload)) ∈
        bodyMessage type e.payload := by
      simp [bodyMessage, ofFields, Message.plain, Datum.isDefault, hempty]
    have hbody : Field.message 5 (bodyMessage type e.payload) ∈ e.message type := by
      simp [message, ofFields]
    have hinner : _ ≤ (Wire.write schema anySpec (bodyMessage type e.payload)).length :=
      length_writeField_le hvalue
    have houter : _ ≤ (Wire.write schema envelopeSpec (e.message type)).length :=
      length_writeField_le hbody
    have hvalueLength := length_writeDelimited_ge (Wire.encode type.schema type.spec e.payload)
    have hbodyLength :=
      length_writeDelimited_ge (Wire.write schema anySpec (bodyMessage type e.payload))
    have hfield : writeField schema anySpec (.scalar 2 (.bytes
        (Wire.encode type.schema type.spec e.payload))) = writeKey 2 .lengthDelimited ++
          writeDelimited (Wire.encode type.schema type.spec e.payload) := rfl
    have hmessage : writeField schema envelopeSpec (.message 5 (bodyMessage type e.payload)) =
        writeKey 5 .lengthDelimited ++
          writeDelimited (Wire.write schema anySpec (bodyMessage type e.payload)) := by
      simp only [writeField]
      rfl
    rw [hfield, List.length_append] at hinner
    rw [hmessage, List.length_append] at houter
    rw [encode_eq_write]
    omega

end MessageBus.Envelope
