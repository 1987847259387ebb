import MessageBus.Proofs.Wire.Varint
import MessageBus.Wire.Decode
/-!
Values on the wire are read back. A scalar type admits the integers of its range, or the values of
its one kind; each of them is read back from its wire form, in front of any tail, as long as the
form can be addressed. Keys are read back likewise.
-/

set_option autoImplicit false
set_option relaxedAutoImplicit false

namespace MessageBus.Wire

/-- The least integer of a scalar type and the bound that all of them stay below. -/
def Scalar.range? : Scalar → Option (Int × Int)
  | int32 | sint32 | sfixed32 => some (-0x80000000, 0x80000000)
  | int64 | sint64 | sfixed64 => some (-0x8000000000000000, 0x8000000000000000)
  | uint32 | fixed32 | float => some (0, 0x100000000)
  | uint64 | fixed64 | double => some (0, 0x10000000000000000)
  | bool | string | bytes => none

/-- Whether a value is one of a scalar type. -/
def Scalar.admits (s : Scalar) : Datum → Bool
  | .int n => s.range?.any fun r ↦ r.1 ≤ n && n < r.2
  | .bool _ => s = .bool
  | .text _ => s = .string
  | .bytes _ => s = .bytes

theorem Scalar.admits_int {s : Scalar} {n low high : Int} (h : s.range? = some (low, high))
    (hlow : low ≤ n) (hhigh : n < high) : s.admits (.int n) := by
  simp [admits, h, hlow, hhigh]

@[simp]
theorem ok_bind {ε α β : Type} (a : α) (f : α → Except ε β) : (Except.ok a >>= f) = f a := rfl

@[simp]
theorem error_bind {ε α β : Type} (e : ε) (f : α → Except ε β) :
    ((Except.error e : Except ε α) >>= f) = .error e := rfl

@[simp]
theorem mapError_ok {ε ε' α : Type} (f : ε → ε') (a : α) :
    (Except.ok a).mapError f = .ok a := rfl

theorem varint_writeVarint (n : Nat) (tail : Bytes) (h : n < wordBound) :
    varint (writeVarint n ++ tail) = .ok (n, tail) := by
  rw [varint, readVarint_writeVarint n tail h]

theorem take_append (bytes tail : Bytes) :
    take bytes.length (bytes ++ tail) = .ok (bytes, tail) := by
  simp [take]

theorem readDelimited_writeDelimited (bytes tail : Bytes) (h : bytes.length < wordBound) :
    readDelimited (writeDelimited bytes ++ tail) = .ok (bytes, tail) := by
  rw [readDelimited, writeDelimited, List.append_assoc, varint_writeVarint _ _ h]
  exact take_append bytes tail

theorem unzigzag_zigzag (n : Int) : unzigzag (zigzag n) = n := by
  cases n with
  | ofNat n =>
    have h : 2 * n % 2 = 0 ∧ 2 * n / 2 = n := by omega
    simp [zigzag, unzigzag, h]
  | negSucc n =>
    have h : (2 * n + 1) % 2 = 1 ∧ (2 * n + 1) / 2 = n := by omega
    simp [zigzag, unzigzag, h]

theorem zigzag_lt {n : Int} {bound : Nat} (hlow : -(bound : Int) ≤ n) (hhigh : n < bound) :
    zigzag n < 2 * bound := by
  cases n with
  | ofNat n =>
    rw [Int.ofNat_eq_natCast] at hhigh
    rw [zigzag]
    omega
  | negSucc n =>
    rw [zigzag]
    omega

/-- The number that stands for an integer on the wire. -/
def wordOfInt (s : Scalar) (n : Int) : Nat :=
  match s with
  | .sint32 | .sint64 => zigzag n
  | .fixed32 | .sfixed32 | .float => (n % halfWordBound).toNat
  | _ => (n % wordBound).toNat

theorem wordOfInt_lt {s : Scalar} {n : Int} (h : s.admits (.int n)) :
    wordOfInt s n < wordBound := by
  cases s <;> simp [Scalar.admits, Scalar.range?] at h <;>
    simp only [wordOfInt, wordBound, halfWordBound]
  case sint32 =>
    have hlt : zigzag n < 2 * 0x80000000 := zigzag_lt (by omega) (by omega)
    omega
  case sint64 =>
    have hlt : zigzag n < 2 * 0x8000000000000000 := zigzag_lt (by omega) (by omega)
    omega
  all_goals omega

theorem intOfWord_wordOfInt {s : Scalar} {n : Int} (h : s.admits (.int n)) :
    intOfWord s (wordOfInt s n) = n := by
  cases s <;> simp [Scalar.admits, Scalar.range?] at h <;>
    simp only [intOfWord, wordOfInt, wordBound, halfWordBound, Int.bmod]
  case sint32 =>
    have hlt : zigzag n < 2 * 0x80000000 := zigzag_lt (by omega) (by omega)
    rw [Nat.mod_eq_of_lt (by omega), unzigzag_zigzag]
  case sint64 => exact unzigzag_zigzag n
  all_goals omega

theorem take_writeFixed (width n : Nat) (tail : Bytes) :
    take width (writeFixed width n ++ tail) = .ok (writeFixed width n, tail) := by
  simpa using take_append (writeFixed width n) tail

theorem fixedValue_writeFixed_of_lt {width n : Nat} (h : n < Nat.pow 256 width) :
    fixedValue (writeFixed width n) = n := by
  rw [fixedValue_writeFixed, Nat.mod_eq_of_lt h]

/-- Whether an integer is written as a varint or in a fixed number of bytes depends on its type
alone, so the types are taken one by one; each form is read back by one lemma. -/
theorem readDatum_writeInt {s : Scalar} {n : Int} (h : s.admits (.int n)) (tail : Bytes) :
    readDatum s (writeInt s n ++ tail) = .ok (.int n, tail) := by
  have hvarint := varint_writeVarint (wordOfInt s n) tail (wordOfInt_lt h)
  have hint := intOfWord_wordOfInt h
  cases s with
  | bool | string | bytes => cases h
  | fixed32 | sfixed32 | float =>
    have hlt : (n % halfWordBound).toNat < halfWordBound := by
      simp only [halfWordBound]
      omega
    have hvalue : fixedValue (writeFixed 4 (n % halfWordBound).toNat) = (n % halfWordBound).toNat :=
      fixedValue_writeFixed_of_lt hlt
    simp only [wordOfInt] at hint
    simp only [readDatum, Scalar.wireType, writeInt, take_writeFixed, ok_bind, hvalue, hint]
  | fixed64 | sfixed64 | double =>
    have hlt : (n % wordBound).toNat < wordBound := by
      simp only [wordBound]
      omega
    have hvalue : fixedValue (writeFixed 8 (n % wordBound).toNat) = (n % wordBound).toNat :=
      fixedValue_writeFixed_of_lt hlt
    simp only [wordOfInt] at hint
    simp only [readDatum, Scalar.wireType, writeInt, take_writeFixed, ok_bind, hvalue, hint]
  | int32 | int64 | uint32 | uint64 | sint32 | sint64 =>
    simp only [wordOfInt] at hvarint hint
    simp only [readDatum, Scalar.wireType, writeInt, hvarint, ok_bind, hint]

theorem length_writeDelimited_ge (bytes : Bytes) :
    bytes.length < (writeDelimited bytes).length := by
  have h := length_writeVarint_pos bytes.length
  simp only [writeDelimited, List.length_append]
  omega

/-- A value of a scalar type is read back in front of any tail. -/
theorem readDatum_writeDatum {s : Scalar} {value : Datum} (h : s.admits value)
    (hsize : (writeDatum s value).length < wordBound) (tail : Bytes) :
    readDatum s (writeDatum s value ++ tail) = .ok (value, tail) := by
  cases value with
  | int n => exact readDatum_writeInt h tail
  | bool b =>
    obtain rfl : s = .bool := by simpa [Scalar.admits] using h
    simp only [readDatum, writeDatum]
    rw [varint_writeVarint _ _ (by cases b <;> decide), ok_bind]
    cases b <;> rfl
  | text t =>
    obtain rfl : s = .string := by simpa [Scalar.admits] using h
    have hlength := length_writeDelimited_ge (Bytes.ofText t)
    simp only [writeDatum] at hsize
    simp only [readDatum, writeDatum]
    rw [readDelimited_writeDelimited _ _ (by omega), ok_bind]
    simp only [Bytes.text?_ofText]
  | bytes b =>
    obtain rfl : s = .bytes := by simpa [Scalar.admits] using h
    have hlength := length_writeDelimited_ge b
    simp only [writeDatum] at hsize
    simp only [readDatum, writeDatum]
    rw [readDelimited_writeDelimited _ _ (by omega), ok_bind]

theorem length_writeDatum_pos (s : Scalar) (value : Datum) : 0 < (writeDatum s value).length := by
  cases value with
  | int n =>
    cases s <;>
      simp only [writeDatum, writeInt, length_writeFixed, length_writeVarint_pos] <;>
      decide
  | bool b => exact length_writeVarint_pos _
  | text t => exact Nat.lt_of_le_of_lt (Nat.zero_le _) (length_writeDelimited_ge _)
  | bytes b => exact Nat.lt_of_le_of_lt (Nat.zero_le _) (length_writeDelimited_ge _)

theorem WireType.ofCode?_code (w : WireType) : WireType.ofCode? w.code = some w := by
  cases w <;> rfl

/-- The numbers that keys have room for. -/
def IsFieldNumber (number : Nat) : Prop := 0 < number ∧ number < 0x20000000

instance (number : Nat) : Decidable (IsFieldNumber number) := by
  unfold IsFieldNumber; infer_instance

theorem readKey_writeKey {number : Nat} (h : IsFieldNumber number) (w : WireType) (tail : Bytes) :
    readKey (writeKey number w ++ tail) = .ok ((number, w), tail) := by
  obtain ⟨hpos, hlt⟩ := h
  have hcode : w.code < 8 := by cases w <;> decide
  have hkey : ¬ number * 8 + w.code ≥ halfWordBound := by simp only [halfWordBound]; omega
  have hmod : (number * 8 + w.code) % 8 = w.code := by omega
  have hdiv : (number * 8 + w.code) / 8 = number := by omega
  rw [readKey, writeKey, varint_writeVarint _ _ (by simp only [wordBound]; omega), ok_bind]
  simp only [if_neg hkey, hmod, hdiv, WireType.ofCode?_code, if_neg (Nat.ne_of_gt hpos)]

theorem length_writeKey_pos (number : Nat) (w : WireType) : 0 < (writeKey number w).length :=
  length_writeVarint_pos _

end MessageBus.Wire
