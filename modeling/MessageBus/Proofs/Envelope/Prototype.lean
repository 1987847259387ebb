import MessageBus.Proofs.Envelope.Stability
import MessageBus.Subscriber.Delivery
/-!
What a payload is read into does not matter. To merge bytes into a message keeps what they do not
mention (`Wire.mergeInto_nil`), so it comes to the same as to read them only if the message holds
nothing (`Wire.mergeInto_eq_read_iff`). A prototype is cleared first, each field of its type as its
kind has it, and of a payload of the type nothing is left then.
-/

set_option autoImplicit false
set_option relaxedAutoImplicit false

namespace MessageBus

namespace Wire

/-- What no bytes mention is kept. -/
theorem mergeInto_nil (schema : Schema) (type : MessageSpec) (m : Message) :
    mergeInto schema type m [] = .ok m := by
  rw [mergeInto, readFields]
  rfl

/-- To merge into a message is to read exactly if nothing is set in it. -/
theorem mergeInto_eq_read_iff (schema : Schema) (type : MessageSpec) (m : Message) :
    (∀ bytes, mergeInto schema type m bytes = read schema type bytes) ↔ m = [] := by
  constructor
  · intro h
    have hnil := h []
    rw [read, mergeInto_nil, mergeInto_nil] at hnil
    exact Except.ok.inj hnil
  · rintro rfl bytes
    rfl

end Wire

namespace Envelope

open Wire

variable {type : PayloadType} {p q : Payload}

/-- An envelope is read into any prototype as it is read into one in which nothing is set. -/
theorem decodeInto_eq_decode (hp : type.IsPayload p) (bytes : Bytes) :
    decodeInto type p bytes = decode type bytes := by
  have hcleared : p.clear type.spec = Message.clear type.spec [] := by
    rw [Message.clear_of_isCanonical hp, Message.clear_of_isCanonical (isPayload_nil type)]
  simp only [decode, decodeInto, hcleared]

/-- Decoding does not depend on the prototype. Whatever is set in two payloads of the type, and
whatever the bytes are, reading them into either has one result, which is the one of decoding; so
has the body of a message, and the delivery of a message does the same with either. The prototype
has to be cleared for this: merging the bytes of the payload into it comes to reading them only if
nothing is set. -/
theorem decode_independent_of_prototype (hp : type.IsPayload p) (hq : type.IsPayload q) :
    (∀ bytes, decodeInto type p bytes = decodeInto type q bytes ∧
      decodeInto type p bytes = decode type bytes) ∧
    (∀ body, ofBody type p body = ofBody type q body) ∧
    (∀ queueUrl m, Delivery.run type p queueUrl m = Delivery.run type q queueUrl m) ∧
    ((∀ bytes, Wire.mergeInto type.schema type.spec p bytes =
      Wire.read type.schema type.spec bytes) ↔ p = []) := by
  have hbody (body : String) : ofBody type p body = ofBody type q body := by
    simp only [ofBody, decodeInto_eq_decode hp, decodeInto_eq_decode hq]
  refine ⟨fun bytes ↦ ⟨?_, decodeInto_eq_decode hp bytes⟩, hbody, fun queueUrl m ↦ ?_,
    Wire.mergeInto_eq_read_iff ..⟩
  · rw [decodeInto_eq_decode hp, decodeInto_eq_decode hq]
  · simp only [Delivery.run, Delivery.attempt, hbody]

/-- Two prototypes, one with a field of every kind, and bytes that leave out most of these fields
and set others twice. -/
theorem decode_independent_of_prototype_sample :
    sampleType.IsPayload samplePayload ∧ sampleType.IsPayload sampleListing ∧
      samplePayload ≠ sampleListing ∧
      decodeInto sampleType samplePayload sampleBytes =
        decodeInto sampleType sampleListing sampleBytes ∧
      (∃ e, decodeInto sampleType samplePayload sampleBytes = .ok e ∧ e.payload = sampleRead) ∧
      ∃ bytes, Wire.mergeInto sampleType.schema sampleType.spec samplePayload bytes ≠
        Wire.read sampleType.schema sampleType.spec bytes := by
  obtain ⟨hbytes, -, -, hcleared⟩ :=
    decode_independent_of_prototype isPayload_samplePayload isPayload_sampleListing
  obtain ⟨hsame, hdecode⟩ := hbytes sampleBytes
  obtain ⟨e, hread, hpayload, -⟩ := exists_decode_sampleBytes
  refine ⟨isPayload_samplePayload, isPayload_sampleListing, by decide, hsame,
    ⟨e, hdecode.trans hread, hpayload⟩, ?_⟩
  exact Classical.not_forall.mp fun hall ↦ absurd (hcleared.mp hall) (by decide)

end Envelope

end MessageBus
