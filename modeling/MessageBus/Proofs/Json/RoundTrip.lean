import MessageBus.Json.Document
import MessageBus.Proofs.Json.Reading
import MessageBus.Proofs.Text.Hex
/-!
Documents are read back: the text of a document is read as the tree of the document, whatever its
strings hold (`read?_text`). A document is written as the grammar says, without gaps, and so this
comes down to what the reader does with any JSON text.
-/

set_option autoImplicit false
set_option relaxedAutoImplicit false

namespace MessageBus

open JsonText

namespace JsonDocument

/-- Control characters have four digits, none of which is lost. -/
theorem codeUnit?_padded : ∀ n < 0x20, ∃ a b c d, Hex.padded 4 n = [a, b, c, d] ∧
    codeUnit? a b c d = some n := by
  intro n hn
  have hlength : ∀ n < 0x20, (Hex.padded 4 n).length = 4 := by decide +kernel
  have hread := Hex.toNat?_padded 4 n
  have hfour := hlength n hn
  generalize Hex.padded 4 n = digits at hread hfour
  match digits, hfour with
  | [a, b, c, d], _ => exact ⟨a, b, c, d, rfl, hread⟩

/-- An escaped character is one piece, which denotes it. -/
theorem exists_spells_escape (c : Char) {ps : List Piece} {s : List Char} (h : Spells ps s) :
    ∃ p, Spells (p :: ps) (escape c ++ s) ∧ denoted? (p :: ps) = (denoted? ps).map (c :: ·) := by
  -- A letter stands for the character where there is one, and hexadecimal digits otherwise.
  have hletter {e : Char} (he : (e, c) ∈ escapes) : ∃ p, Spells (p :: ps) (['\\', e] ++ s) ∧
      denoted? (p :: ps) = (denoted? ps).map (c :: ·) :=
    ⟨.char c, .escape he h, denoted?_char c ps⟩
  rw [escape]
  split_ifs with hquote hbackslash hb ht hn hf hr hcontrol
  · subst hquote
    exact hletter (by decide)
  · subst hbackslash
    exact hletter (by decide)
  · exact hletter (hb ▸ by decide)
  · exact hletter (ht ▸ by decide)
  · exact hletter (hn ▸ by decide)
  · exact hletter (hf ▸ by decide)
  · exact hletter (hr ▸ by decide)
  · obtain ⟨a, b, c', d, hdigits, hunit⟩ := codeUnit?_padded c.toNat hcontrol
    have hleading : isLeading c.toNat = false := by
      simp only [isLeading, Bool.and_eq_false_iff, decide_eq_false_iff_not]
      omega
    have htrailing : isTrailing c.toNat = false := by
      simp only [isTrailing, Bool.and_eq_false_iff, decide_eq_false_iff_not]
      omega
    rw [hdigits]
    refine ⟨.unit c.toNat, .unit hunit h, ?_⟩
    rw [denoted?_unit hleading htrailing, Char.ofNat_toNat]
  · exact ⟨.char c, .plain (Nat.not_lt.mp hcontrol) hquote hbackslash h, denoted?_char c ps⟩

/-- What is escaped is spelled by pieces that denote it. -/
theorem exists_spells (text : List Char) :
    ∃ ps, Spells ps (text.flatMap escape) ∧ denoted? ps = some text := by
  induction text with
  | nil => exact ⟨[], .nil, rfl⟩
  | cons c text ih =>
    obtain ⟨ps, hps, hdenoted⟩ := ih
    obtain ⟨p, hp, hc⟩ := exists_spells_escape c hps
    exact ⟨p :: ps, hp, by rw [hc, hdenoted]; rfl⟩

theorem isLiteral_literal (text : String) : IsLiteral (some text) (literal text) := by
  obtain ⟨ps, hps, hdenoted⟩ := exists_spells text.toList
  have hliteral := IsLiteral.intro hps
  rwa [hdenoted, Option.map_some, String.ofList_toList] at hliteral

theorem isPadded_of_isWritten {t : JsonText} {s : List Char} (h : IsWritten t s) :
    IsPadded t s := by
  have hnone : IsGap [] := nofun
  have hpadded := IsPadded.intro hnone h hnone
  rwa [List.append_nil] at hpadded

theorem isMember_of_isWritten (key : String) {t : JsonText} {s : List Char} (h : IsWritten t s) :
    IsMember (some key, t) (literal key ++ ':' :: s) := by
  have hnone : IsGap [] := nofun
  exact .intro hnone (isLiteral_literal key) hnone (isPadded_of_isWritten h)

mutual

/-- A document is written as the grammar says. -/
theorem isWritten_write : ∀ d : JsonDocument, IsWritten d.tree d.write
  | .null => .null
  | .string text => .string (isLiteral_literal text)
  | .array [] => .empty_array nofun
  | .array (x :: elements) => .array (areElements_writeElements (x :: elements) nofun)
  | .object [] => .empty_object nofun
  | .object (m :: members) => .object (areMembers_writeMembers (m :: members) nofun)

theorem areElements_writeElements : ∀ elements : List JsonDocument, elements ≠ [] →
    AreElements (treeElements elements) (writeElements elements)
  | [x], _ => .last (isPadded_of_isWritten (isWritten_write x))
  | x :: y :: rest, _ =>
    .cons (isPadded_of_isWritten (isWritten_write x)) (areElements_writeElements (y :: rest) nofun)

theorem areMembers_writeMembers : ∀ members : List (String × JsonDocument), members ≠ [] →
    AreMembers (treeMembers members) (writeMembers members)
  | [(key, x)], _ => .last (isMember_of_isWritten key (isWritten_write x))
  | (key, x) :: m :: rest, _ =>
    .cons (isMember_of_isWritten key (isWritten_write x))
      (areMembers_writeMembers (m :: rest) nofun)

end

/-- What is written for a document is a JSON text of its tree. -/
theorem isText_text (d : JsonDocument) : d.tree.IsText d.text := by
  rw [IsText, text, String.toList_ofList]
  exact isPadded_of_isWritten (isWritten_write d)

theorem read?_text (d : JsonDocument) : read? d.text = some d.tree :=
  read?_eq_some_iff.mpr d.isText_text

end JsonDocument

end MessageBus
