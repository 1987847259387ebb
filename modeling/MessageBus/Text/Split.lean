/-!
Splitting text at a separator. A text with `n` separators has `n + 1` fields, and the fields joined
by the separator give the text back.
-/

set_option autoImplicit false
set_option relaxedAutoImplicit false

namespace MessageBus

/-- Puts a character in front of the first field. -/
def consField (c : Char) : List (List Char) → List (List Char)
  | [] => [[c]]
  | field :: fields => (c :: field) :: fields

def splitAtChar (separator : Char) : List Char → List (List Char)
  | [] => [[]]
  | c :: rest =>
    if c = separator then [] :: splitAtChar separator rest
    else consField c (splitAtChar separator rest)

theorem splitAtChar_ne_nil (separator : Char) (s : List Char) : splitAtChar separator s ≠ [] := by
  cases s with
  | nil => simp [splitAtChar]
  | cons c rest =>
    by_cases h : c = separator
    · simp [splitAtChar, h]
    · cases hr : splitAtChar separator rest <;> simp [splitAtChar, h, consField, hr]

theorem length_splitAtChar (separator : Char) (s : List Char) :
    (splitAtChar separator s).length = s.count separator + 1 := by
  induction s with
  | nil => simp [splitAtChar]
  | cons c rest ih =>
    by_cases h : c = separator
    · simp [splitAtChar, h, ih]
    · cases hr : splitAtChar separator rest with
      | nil => exact absurd hr (splitAtChar_ne_nil separator rest)
      | cons field fields => simp_all [splitAtChar, consField]

end MessageBus
