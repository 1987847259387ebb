import MessageBus.Proofs.Envelope.RoundTrip
/-!
Envelopes that are read can be written again. Whatever bytes an envelope was read from, its payload
is one of the type and nests no deeper than messages may (`isWithin_of_decode`), and it is not
much longer when it is written again (`length_encode_lt`). So it is read back from what is written,
in whatever order the entries of its maps are listed (`isStable_of_same`).
-/

set_option autoImplicit false
set_option relaxedAutoImplicit false

namespace MessageBus

namespace Wire.Message

variable {c number : Nat} {m : Message}

end Wire.Message

namespace Envelope

open Wire Wire.Message

variable {type : PayloadType} {bytes : Bytes} {e : Envelope}

/-- Bytes of an envelope that are not canonical: the body comes first, its URL has a host, the
packed numbers of its payload are not packed and stand on both sides of a field that is unknown, a
plain number is a negative zero, an alternative of a choice gives way to another one, the entries of
a map have one key twice, the identifier is there twice, and the time, which is in a leap second,
comes in two parts. -/
def sampleBytes : Bytes :=
  writeKey 5 .lengthDelimited ++ writeDelimited (
    writeKey 1 .lengthDelimited ++ writeDelimited (Bytes.ofText "host/sample.v1.Sample") ++
    writeKey 2 .lengthDelimited ++ writeDelimited (
      writeKey 4 .varint ++ writeInt .int32 (-1) ++ writeKey 15 .varint ++ [0x80, 0x00] ++
      writeKey 4 .varint ++ [0x81, 0x00] ++ writeKey 1 .varint ++ writeInt .sint64 (-3) ++
      writeKey 6 .fixed64 ++ writeInt .double 0x8000000000000000 ++
      writeKey 9 .varint ++ [0x01] ++ writeKey 13 .lengthDelimited ++ writeDelimited [] ++
      writeKey 10 .lengthDelimited ++ writeDelimited (
        writeKey 2 .fixed64 ++ writeInt .double 1) ++
      writeKey 10 .lengthDelimited ++ writeDelimited (
        writeKey 1 .lengthDelimited ++ writeDelimited (Bytes.ofText "key")) ++
      writeKey 10 .lengthDelimited ++ writeDelimited (
        writeKey 2 .fixed64 ++ writeInt .double 2))) ++
  writeKey 4 .lengthDelimited ++
    writeDelimited (writeKey 2 .varint ++ writeInt .int32 1500000000) ++
  writeKey 1 .lengthDelimited ++ writeDelimited (Bytes.ofText "first") ++
  writeKey 4 .lengthDelimited ++ writeDelimited (writeKey 1 .varint ++ writeInt .int64 59) ++
  writeKey 1 .lengthDelimited ++ writeDelimited (Bytes.ofText "second")

/-- The payload in these bytes. -/
def sampleRead : Payload := [
  .scalar 1 (.int (-3)), .packed 4 [.int (-1), .int 1], .scalar 6 (.int 0x8000000000000000),
  .message 13 [], .message 10 [.scalar 1 (.text "key")], .message 10 [.scalar 2 (.int 2)]]

/-- The same payload with its zero positive and the entries of its map the other way round. -/
def sampleListing : Payload := [
  .scalar 1 (.int (-3)), .packed 4 [.int (-1), .int 1], .message 13 [],
  .message 10 [.scalar 2 (.int 2)], .message 10 [.scalar 1 (.text "key")]]

theorem isPayload_sampleListing : sampleType.IsPayload sampleListing := by decide +kernel

theorem exists_decode_sampleBytes : ∃ e, decode sampleType sampleBytes = .ok e ∧
    e.payload = sampleRead ∧ e.encode sampleType ≠ sampleBytes := by
  have hok : ((decode sampleType sampleBytes).toOption.any fun e ↦
      e.payload = sampleRead && e.encode sampleType ≠ sampleBytes) = true := by decide +kernel
  cases h : decode sampleType sampleBytes with
  | error cause =>
    rw [h] at hok
    cases hok
  | ok e =>
    rw [h] at hok
    simp only [Except.toOption, Option.any_some, Bool.and_eq_true, decide_eq_true_eq] at hok
    exact ⟨e, rfl, hok⟩

end Envelope

end MessageBus
