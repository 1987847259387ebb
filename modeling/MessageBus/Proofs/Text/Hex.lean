import MessageBus.Text.Hex
/-!
Hexadecimal text is read back, filled with zeros or not, and holds digits only. So different numbers
have different texts.
-/

set_option autoImplicit false
set_option relaxedAutoImplicit false

namespace MessageBus.Hex

theorem value?_digit : ∀ n < 16, value? (digit n) = some n := by decide

theorem toNat?_concat (digits : List Char) (c : Char) :
    toNat? (digits ++ [c]) = (toNat? digits).bind fun n ↦ (value? c).map (16 * n + ·) := by
  rw [toNat?, List.foldlM_append]
  cases h : toNat? digits <;> rw [toNat?] at h <;> rw [h] <;> simp

theorem toNat?_ofNat (n : Nat) : toNat? (ofNat n) = some n := by
  induction n using Nat.strongRecOn with
  | ind n ih =>
    rw [ofNat]
    by_cases h : n < 16
    · rw [if_pos h]
      simp [toNat?, value?_digit n h]
    · rw [if_neg h, toNat?_concat, ih (n / 16) (by omega), Option.bind_some,
        value?_digit (n % 16) (by omega), Option.map_some]
      congr 1
      omega

theorem toNat?_padded (width n : Nat) : toNat? (padded width n) = some n := by
  have hzeros (k : Nat) (digits : List Char) :
      toNat? (List.replicate k '0' ++ digits) = toNat? digits := by
    induction k with
    | zero => rfl
    | succ k ih =>
      rw [← ih]
      rfl
  rw [padded, hzeros, toNat?_ofNat]

theorem padded_injective {width n k : Nat} (h : padded width n = padded width k) : n = k := by
  have hread := congrArg toNat? h
  rw [toNat?_padded, toNat?_padded] at hread
  exact Option.some.inj hread

theorem digit_ne_hyphen : ∀ n < 16, digit n ≠ '-' := by decide

theorem hyphen_not_mem_ofNat (n : Nat) : '-' ∉ ofNat n := by
  induction n using Nat.strongRecOn with
  | ind n ih =>
    rw [ofNat]
    by_cases h : n < 16
    · rw [if_pos h, List.mem_singleton]
      exact (digit_ne_hyphen n h).symm
    · rw [if_neg h, List.mem_append, List.mem_singleton, not_or]
      exact ⟨ih (n / 16) (by omega), (digit_ne_hyphen (n % 16) (by omega)).symm⟩

theorem hyphen_not_mem_padded (width n : Nat) : '-' ∉ padded width n := by
  rw [padded, List.mem_append, not_or]
  exact ⟨fun h ↦ absurd (List.eq_of_mem_replicate h) (by decide), hyphen_not_mem_ofNat n⟩

end MessageBus.Hex
