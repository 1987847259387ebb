import MessageBus.Base64
/-!
Base64 text is read back. A group of symbols leads to the bytes that it was written for, with its
padding, and so do the groups of a whole text.
-/

set_option autoImplicit false
set_option relaxedAutoImplicit false

namespace MessageBus.Base64

theorem sextet?_symbol : ∀ n < 64, sextet? (symbol n) = some n := by decide

theorem symbol_ne_padding : ∀ n < 64, symbol n ≠ padding := by decide

section Group

variable (a b c : UInt8)

theorem first_byte {n : Nat} (h : n < 16) :
    UInt8.ofNat (a.toNat / 4 * 4 + (a.toNat % 4 * 16 + n) / 16) = a := by
  have : a.toNat / 4 * 4 + (a.toNat % 4 * 16 + n) / 16 = a.toNat := by omega
  rw [this, UInt8.ofNat_toNat]

theorem second_byte {k n : Nat} (h : n < 4) :
    UInt8.ofNat ((k * 16 + b.toNat / 16) % 16 * 16 + (b.toNat % 16 * 4 + n) / 4) = b := by
  have hb := b.toNat_lt
  have : (k * 16 + b.toNat / 16) % 16 * 16 + (b.toNat % 16 * 4 + n) / 4 = b.toNat := by omega
  rw [this, UInt8.ofNat_toNat]

theorem third_byte {k : Nat} :
    UInt8.ofNat ((k * 4 + c.toNat / 64) % 4 * 64 + c.toNat % 64) = c := by
  have hc := c.toNat_lt
  have : (k * 4 + c.toNat / 64) % 4 * 64 + c.toNat % 64 = c.toNat := by omega
  rw [this, UInt8.ofNat_toNat]

end Group

section Sextets

variable {i j k l : Nat}

theorem decodeLast_one (hi : i < 64) (hj : j < 64) (hfill : j % 16 = 0) :
    decodeLast (symbol i) (symbol j) padding padding = some [UInt8.ofNat (i * 4 + j / 16)] := by
  rw [decodeLast, sextet?_symbol i hi, sextet?_symbol j hj]
  simp [hfill]

theorem decodeLast_two (hi : i < 64) (hj : j < 64) (hk : k < 64) (hfill : k % 4 = 0) :
    decodeLast (symbol i) (symbol j) (symbol k) padding =
      some [UInt8.ofNat (i * 4 + j / 16), UInt8.ofNat (j % 16 * 16 + k / 4)] := by
  rw [decodeLast, sextet?_symbol i hi, sextet?_symbol j hj, sextet?_symbol k hk]
  simp [symbol_ne_padding k hk, hfill]

theorem decode_group (hi : i < 64) (hj : j < 64) (hk : k < 64) (hl : l < 64)
    (rest : List Char) :
    decode (symbol i :: symbol j :: symbol k :: symbol l :: rest) =
      (decode rest).map fun bytes ↦ UInt8.ofNat (i * 4 + j / 16) ::
        UInt8.ofNat (j % 16 * 16 + k / 4) :: UInt8.ofNat (k % 4 * 64 + l) :: bytes := by
  cases rest with
  | nil =>
    change decodeLast _ _ _ _ = _
    rw [decodeLast, sextet?_symbol i hi, sextet?_symbol j hj, sextet?_symbol k hk,
      sextet?_symbol l hl]
    simp [symbol_ne_padding k hk, symbol_ne_padding l hl, decode]
  | cons c rest =>
    rw [decode.eq_3 _ _ _ _ _ (by simp), sextet?_symbol i hi, sextet?_symbol j hj,
      sextet?_symbol k hk, sextet?_symbol l hl]
    cases decode (c :: rest) <;> rfl

end Sextets

theorem decode_encode (bytes : Bytes) : decode (encode bytes) = some bytes := by
  fun_induction encode bytes with
  | case1 => rfl
  | case2 a =>
    have ha := a.toNat_lt
    have hfirst := first_byte a (n := 0) (by decide)
    rw [Nat.add_zero] at hfirst
    rw [decode, decodeLast_one (by omega) (by omega) (by omega), hfirst]
  | case3 a b =>
    have ha := a.toNat_lt
    have hb := b.toNat_lt
    have hsecond := second_byte b (k := a.toNat % 4) (n := 0) (by decide)
    rw [Nat.add_zero] at hsecond
    rw [decode, decodeLast_two (by omega) (by omega) (by omega) (by omega),
      first_byte a (by omega), hsecond]
  | case4 a b c rest ih =>
    have ha := a.toNat_lt
    have hb := b.toNat_lt
    have hc := c.toNat_lt
    rw [decode_group (by omega) (by omega) (by omega) (by omega), ih, first_byte a (by omega),
      second_byte b (by omega), third_byte c]
    rfl

theorem length_le_encode (bytes : Bytes) : bytes.length ≤ (encode bytes).length := by
  induction bytes using encode.induct with
  | case1 => exact Nat.le_refl 0
  | case2 a => simp [encode]
  | case3 a b => simp [encode]
  | case4 a b c rest ih =>
    simp only [encode, List.length_cons]
    omega

end MessageBus.Base64
