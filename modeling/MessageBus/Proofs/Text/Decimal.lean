import MessageBus.Text.Decimal
/-!
Decimal text is read back: the digits of a number denote it, and a reader that allows a plus sign
finds none.
-/

set_option autoImplicit false
set_option relaxedAutoImplicit false

namespace MessageBus.Decimal

theorem digitValue_digit : ∀ n < 10, digitValue (digit n) = n := by decide

theorem isDigit_digit : ∀ n < 10, isDigit (digit n) := by decide

theorem value_concat (digits : List Char) (c : Char) :
    value (digits ++ [c]) = 10 * value digits + digitValue c := by
  rw [value, List.foldl_append]
  rfl

theorem value_ofNat (n : Nat) : value (ofNat n) = n := by
  induction n using Nat.strongRecOn with
  | ind n ih =>
    rw [ofNat]
    by_cases h : n < 10
    · rw [if_pos h]
      simp [value, digitValue_digit n h]
    · rw [if_neg h, value_concat, ih (n / 10) (by omega), digitValue_digit (n % 10) (by omega)]
      omega

theorem ofNat_ne_nil (n : Nat) : ofNat n ≠ [] := by
  rw [ofNat]
  split <;> simp

theorem isDigit_of_mem_ofNat (n : Nat) : ∀ c ∈ ofNat n, isDigit c := by
  induction n using Nat.strongRecOn with
  | ind n ih =>
    rw [ofNat]
    by_cases h : n < 10
    · rw [if_pos h]
      simpa using isDigit_digit n h
    · rw [if_neg h]
      intro c hc
      rcases List.mem_append.mp hc with hc | hc
      · exact ih (n / 10) (by omega) c hc
      · rw [List.mem_singleton.mp hc]
        exact isDigit_digit (n % 10) (by omega)

theorem toNat?_ofNat (n : Nat) : toNat? (ofNat n) = some n := by
  rw [toNat?, if_pos ⟨ofNat_ne_nil n, List.all_eq_true.mpr (isDigit_of_mem_ofNat n)⟩, value_ofNat]

theorem plusNat?_ofNat (n : Nat) : plusNat? (ofNat n) = some n := by
  cases hdigits : ofNat n with
  | nil => exact absurd hdigits (ofNat_ne_nil n)
  | cons c rest =>
    have hc : isDigit c := isDigit_of_mem_ofNat n c (hdigits ▸ List.mem_cons_self)
    have hplus : c ≠ '+' := by
      rintro rfl
      exact absurd hc (by decide)
    have hread : plusNat? (c :: rest) = toNat? (c :: rest) := by
      rw [plusNat?]
      simpa using hplus
    rw [hread, ← hdigits, toNat?_ofNat]

end MessageBus.Decimal
