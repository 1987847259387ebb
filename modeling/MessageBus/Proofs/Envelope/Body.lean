import MessageBus.Envelope.Body
import MessageBus.Proofs.Base64
import MessageBus.Proofs.Envelope.RoundTrip
import MessageBus.Proofs.Notification
/-!
Which bodies can be read (`IsReadable`), and that bodies are read back: the body of a queue message
that carries a published envelope leads to the payload and the metadata that were sealed.
-/

set_option autoImplicit false
set_option relaxedAutoImplicit false

namespace MessageBus.Envelope

variable {type : PayloadType} {prototype : Payload} {body : String}

/-- Whether a body is unwrapped, is Base64, and is decoded into the payload type. -/
def IsReadable (type : PayloadType) (prototype : Payload) (body : String) : Prop :=
  ∃ text bytes e, Notification.extract body = .ok text ∧ bytesOfPublished text = .ok bytes ∧
    decodeInto type prototype bytes = .ok e

theorem ofBody_eq_ok_iff {e : Envelope} : ofBody type prototype body = .ok e ↔
    ∃ text bytes, Notification.extract body = .ok text ∧ bytesOfPublished text = .ok bytes ∧
      decodeInto type prototype bytes = .ok e := by
  rw [ofBody]
  cases Notification.extract body with
  | error _ => simp [bind, Except.bind]
  | ok text =>
    cases hbytes : bytesOfPublished text with
    | error _ => simp [bind, Except.bind, hbytes]
    | ok bytes =>
      cases hdecode : decodeInto type prototype bytes <;>
        simp [bind, Except.bind, Except.mapError, hbytes, hdecode]

theorem isReadable_iff :
    IsReadable type prototype body ↔ ∃ e, ofBody type prototype body = .ok e := by
  simp only [IsReadable, ofBody_eq_ok_iff]
  grind

/-- A body that cannot be read is a decode error. -/
theorem decode_of_ofBody {e : Error} (h : ofBody type prototype body = .error e) :
    ∃ text, e = .decode text := by
  rw [ofBody, Notification.extract] at h
  split at h
  · next n hn =>
    change (bytesOfPublished n.message >>= _) = _ at h
    rw [bytesOfPublished] at h
    split at h
    · next bytes hbytes =>
      change (decodeInto type prototype bytes).mapError Failure.error = _ at h
      cases hdecode : decodeInto type prototype bytes with
      | ok e =>
        rw [hdecode] at h
        cases h
      | error f =>
        rw [hdecode] at h
        cases h
        exact ⟨f.message, rfl⟩
    · cases h
      exact ⟨_, rfl⟩
  · cases h
    exact ⟨_, rfl⟩

theorem bytesOfPublished_publishedText (bytes : Bytes) :
    bytesOfPublished (publishedText bytes) = .ok bytes := by
  rw [bytesOfPublished, publishedText, String.toList_ofList, Base64.decode_encode]

/-- Bytes are no more than the characters that they are published as. -/
theorem length_le_publishedText (bytes : Bytes) : bytes.length ≤ (publishedText bytes).length := by
  rw [publishedText, String.length_ofList]
  exact Base64.length_le_encode bytes

theorem ofBody_sealed {type : PayloadType} (htype : type.IsNamed) {prototype payload : Payload}
    (hprototype : type.IsPayload prototype) (hpayload : type.IsPayload payload)
    (hnesting : payload.nesting ≤ 100) {overrides : MetadataOverrides} {stamp : Stamp}
    (hsize : (sealed type payload overrides stamp).1.length < wordBound) {n : Notification}
    (hmessage : n.message = publishedText (sealed type payload overrides stamp).1) :
    ofBody type prototype n.text =
      .ok ⟨type.written payload, (sealed type payload overrides stamp).2⟩ := by
  have hdecode := decodeInto_encode_within htype hprototype
    (e := wrap type payload overrides stamp) hpayload hsize
    (Nat.le_trans (Wire.Message.nesting_written_le payload) hnesting)
  rw [ofBody, Notification.extract_text, hmessage]
  change (bytesOfPublished _ >>= _) = _
  rw [bytesOfPublished_publishedText]
  change (decodeInto type prototype _).mapError _ = _
  rw [sealed, hdecode]
  rfl

/-- A body that carries the sample payload. -/
def sampleBody : String :=
  let published := (sealed sampleType samplePayload {} (.ofMoment ⟨0, .epoch, 7⟩)).1
  (Notification.ofMessage "" "" (publishedText published) "").text

theorem ofBody_sampleBody :
    ∃ metadata, ofBody sampleType [] sampleBody = .ok ⟨samplePayload, metadata⟩ := by
  have hsize : (sealed sampleType samplePayload {} (.ofMoment ⟨0, .epoch, 7⟩)).1.length
      < wordBound := by
    decide +kernel
  have hread := ofBody_sealed isNamed_sampleType (isPayload_nil sampleType)
    isPayload_samplePayload (by decide) hsize (n := .ofMessage "" "" _ "") rfl
  rw [written_samplePayload] at hread
  exact ⟨_, hread⟩

end MessageBus.Envelope
