import MessageBus.Text.Split
/-!
The fields of a text are those of the standard library (`splitAtChar_eq_splitOn`). Fields that hold
no separator are therefore read back from the text that they are joined to.
-/

set_option autoImplicit false
set_option relaxedAutoImplicit false

namespace MessageBus

theorem splitAtChar_eq_splitOn (separator : Char) (s : List Char) :
    splitAtChar separator s = s.splitOn separator := by
  induction s with
  | nil => rfl
  | cons c rest ih =>
    rw [splitAtChar, ih, List.splitOn_cons_eq_if_modifyHead]
    by_cases h : c = separator
    · rw [if_pos h, if_pos (beq_iff_eq.mpr h)]
    · rw [if_neg h, if_neg (mt beq_iff_eq.mp h)]
      cases hrest : rest.splitOn separator with
      | nil => exact absurd hrest (List.splitOn_ne_nil _ _)
      | cons field fields => rfl

theorem splitAtChar_append {separator : Char} {field : List Char} (h : separator ∉ field)
    (rest : List Char) :
    splitAtChar separator (field ++ separator :: rest) = field :: splitAtChar separator rest := by
  rw [splitAtChar_eq_splitOn, splitAtChar_eq_splitOn,
    List.splitOn_append_cons_self_of_not_mem h]

/-- Fields without separators are the fields of the text that they are joined to. -/
theorem splitAtChar_intercalate {separator : Char} {fields : List (List Char)} (hne : fields ≠ [])
    (h : ∀ field ∈ fields, separator ∉ field) :
    splitAtChar separator (List.intercalate [separator] fields) = fields := by
  rw [splitAtChar_eq_splitOn, List.splitOn_intercalate _ h hne]

end MessageBus
