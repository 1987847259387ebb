import MessageBus.Wire.Varint
/-!
Integers on the wire are read back. A reader takes what was written off the front of a buffer and
leaves what follows it, so the laws hold in front of any tail.
-/

set_option autoImplicit false
set_option relaxedAutoImplicit false

namespace MessageBus.Wire

theorem writeVarint_of_lt {n : Nat} (h : n < 128) : writeVarint n = [UInt8.ofNat n] := by
  rw [writeVarint, if_pos h]

theorem writeVarint_of_le {n : Nat} (h : 128 ≤ n) :
    writeVarint n = UInt8.ofNat (n % 128 + 128) :: writeVarint (n / 128) := by
  rw [writeVarint, if_neg (Nat.not_lt.mpr h)]

theorem length_writeVarint_pos (n : Nat) : 0 < (writeVarint n).length := by
  by_cases h : n < 128
  · simp [writeVarint_of_lt h]
  · simp [writeVarint_of_le (Nat.not_lt.mp h)]

/-- The tenth byte of a word has room for one binary digit. -/
theorem lt_two_of_weight {n : Nat} (h : n * Nat.pow 128 9 < wordBound) : n < 2 := by
  have hbound : wordBound = 2 * Nat.pow 128 9 := rfl
  rw [hbound] at h
  exact Nat.lt_of_mul_lt_mul_right h

/-- The induction is on the number, whose groups the reader adds with growing weight. A number that
has another group leaves room for one more weight below the bound of a word. -/
theorem readVarintFrom_writeVarint (n i acc : Nat) (tail : Bytes) (hi : i ≤ 9)
    (h : n * Nat.pow 128 i < wordBound) :
    readVarintFrom i acc (writeVarint n ++ tail) = some (acc + n * Nat.pow 128 i, tail) := by
  induction n using Nat.strongRecOn generalizing i acc with
  | ind n ih =>
    by_cases hn : n < 128
    · have hbyte : (UInt8.ofNat n).toNat = n := by
        rw [UInt8.toNat_ofNat']
        omega
      rw [writeVarint_of_lt hn, List.singleton_append, readVarintFrom, hbyte]
      by_cases hlast : i = 9
      · have htwo : n < 2 := by
          subst hlast
          exact lt_two_of_weight h
        rw [if_pos hlast, if_pos htwo]
      · rw [if_neg hlast, if_pos hn]
    · have hbyte : (UInt8.ofNat (n % 128 + 128)).toNat = n % 128 + 128 := by
        rw [UInt8.toNat_ofNat']
        omega
      have hsplit : n * Nat.pow 128 i
          = n % 128 * Nat.pow 128 i + n / 128 * Nat.pow 128 (i + 1) := by
        have hweight : Nat.pow 128 (i + 1) = Nat.pow 128 i * 128 := rfl
        rw [hweight, Nat.mul_comm (Nat.pow 128 i), ← Nat.mul_assoc, ← Nat.add_mul]
        congr 1
        omega
      have hroom : i ≠ 9 := by
        rintro rfl
        have htwo := lt_two_of_weight h
        omega
      rw [writeVarint_of_le (Nat.not_lt.mp hn), List.cons_append, readVarintFrom, hbyte,
        if_neg hroom, if_neg (by omega), Nat.add_sub_cancel,
        ih (n / 128) (by omega) (i + 1) _ (by omega) (by omega), hsplit, Nat.add_assoc]

theorem readVarint_writeVarint (n : Nat) (tail : Bytes) (h : n < wordBound) :
    readVarint (writeVarint n ++ tail) = some (n, tail) := by
  rw [readVarint, readVarintFrom_writeVarint n 0 0 tail (by omega) (by simpa using h)]
  simp

@[simp]
theorem length_writeFixed (width n : Nat) : (writeFixed width n).length = width := by
  induction width generalizing n with
  | zero => rfl
  | succ width ih => simp [writeFixed, ih]

theorem fixedValue_writeFixed (width n : Nat) :
    fixedValue (writeFixed width n) = n % Nat.pow 256 width := by
  induction width generalizing n with
  | zero => simp [writeFixed, fixedValue, Nat.mod_one]
  | succ width ih =>
    have hbyte : (UInt8.ofNat (n % 256)).toNat = n % 256 := by
      rw [UInt8.toNat_ofNat']
      omega
    have hweight : Nat.pow 256 (width + 1) = Nat.pow 256 width * 256 := rfl
    rw [writeFixed, fixedValue, hbyte, ih, hweight, Nat.mul_comm (Nat.pow 256 width), Nat.mod_mul]

end MessageBus.Wire
