import MessageBus.Proofs.Json.Token
/-!
The reader decides the grammar: it reads a text exactly if it is a JSON text, and as the value that
the text writes (`read?_eq_some_iff`). The induction is on the fuel, for values, elements and
members at once: with any fuel the reader reads only what the grammar allows (`isSound`), and with
as much as there are characters it reads all of it (`isComplete`).
-/

set_option autoImplicit false
set_option relaxedAutoImplicit false

namespace MessageBus.JsonText

section Values

attribute [local simp] value? elements? members?

variable {t : JsonText} {xs : List JsonText} {m : Option String × JsonText}
  {ms : List (Option String × JsonText)} {s rest gap : List Char}

theorem IsPadded.pad (hgap : IsGap gap) (h : IsPadded t s) : IsPadded t (gap ++ s) := by
  obtain ⟨hbefore, h, hafter⟩ := h
  rw [← List.append_assoc]
  exact .intro (hgap.append hbefore) h hafter

theorem AreElements.pad (hgap : IsGap gap) (h : AreElements xs s) : AreElements xs (gap ++ s) := by
  cases h with
  | last h => exact .last (h.pad hgap)
  | cons h hrest =>
    rw [← List.append_assoc]
    exact .cons (h.pad hgap) hrest

theorem IsMember.pad (hgap : IsGap gap) (h : IsMember m s) : IsMember m (gap ++ s) := by
  obtain ⟨hbefore, hkey, hafter, h⟩ := h
  rw [← List.append_assoc]
  exact .intro (hgap.append hbefore) hkey hafter h

theorem AreMembers.pad (hgap : IsGap gap) (h : AreMembers ms s) : AreMembers ms (gap ++ s) := by
  cases h with
  | last h => exact .last (h.pad hgap)
  | cons h hrest =>
    rw [← List.append_assoc]
    exact .cons (h.pad hgap) hrest

/-- Whether the reader, with so much fuel, reads only what is written as the grammar says. -/
structure IsSound (fuel : Nat) : Prop where
  value : ∀ {t s rest}, value? fuel s = some (t, rest) →
    ∃ gap v, IsGap gap ∧ s = gap ++ (v ++ rest) ∧ IsWritten t v
  elements : ∀ {xs s rest}, elements? fuel s = some (xs, rest) →
    ∃ v, s = v ++ ']' :: rest ∧ AreElements xs v
  members : ∀ {ms s rest}, members? fuel s = some (ms, rest) →
    ∃ v, s = v ++ '\x7d' :: rest ∧ AreMembers ms v

/-- A value that is read and the gap behind it. -/
theorem IsSound.padded {fuel : Nat} (hfuel : IsSound fuel) (h : value? fuel s = some (t, rest)) :
    ∃ v, s = v ++ skipGap rest ∧ IsPadded t v := by
  obtain ⟨before, v, hbefore, rfl, hv⟩ := hfuel.value h
  obtain ⟨after, hafter, hrest⟩ := exists_gap rest
  refine ⟨before ++ (v ++ after), ?_, .intro hbefore hv hafter⟩
  rw [List.append_assoc, List.append_assoc, ← hrest]

theorem IsSound.value_succ {fuel : Nat} (hfuel : IsSound fuel)
    (h : value? (fuel + 1) s = some (t, rest)) :
    ∃ gap v, IsGap gap ∧ s = gap ++ (v ++ rest) ∧ IsWritten t v := by
  obtain ⟨gap, hgap, hs⟩ := exists_gap s
  suffices ∃ v, skipGap s = v ++ rest ∧ IsWritten t v by
    obtain ⟨v, hskip, hv⟩ := this
    exact ⟨gap, v, hgap, hskip ▸ hs, hv⟩
  rw [value?] at h
  generalize skipGap s = body at h
  split at h
  · next rest' =>
    obtain ⟨⟨text, rest⟩, hliteral, ⟨⟩⟩ := Option.map_eq_some_iff.mp h
    obtain ⟨k, hk, htext⟩ := isLiteral_of_literal? hliteral
    exact ⟨k, hk, .string htext⟩
  · next inner =>
    obtain ⟨gap, hgap, hinner⟩ := exists_gap inner
    split at h
    · next hskip =>
      cases h
      rw [hskip] at hinner
      exact ⟨'[' :: (gap ++ [']']), by simp [hinner], .empty_array hgap⟩
    · obtain ⟨⟨xs, rest⟩, helements, ⟨⟩⟩ := Option.map_eq_some_iff.mp h
      obtain ⟨v, hv, hxs⟩ := hfuel.elements helements
      rw [hv] at hinner
      exact ⟨'[' :: ((gap ++ v) ++ [']']), by simp [hinner], .array (hxs.pad hgap)⟩
  · next inner =>
    obtain ⟨gap, hgap, hinner⟩ := exists_gap inner
    split at h
    · next hskip =>
      cases h
      rw [hskip] at hinner
      exact ⟨'\x7b' :: (gap ++ ['\x7d']), by simp [hinner], .empty_object hgap⟩
    · obtain ⟨⟨ms, rest⟩, hmembers, ⟨⟩⟩ := Option.map_eq_some_iff.mp h
      obtain ⟨v, hv, hms⟩ := hfuel.members hmembers
      rw [hv] at hinner
      exact ⟨'\x7b' :: ((gap ++ v) ++ ['\x7d']), by simp [hinner], .object (hms.pad hgap)⟩
  · cases h
    exact ⟨_, rfl, .null⟩
  · cases h
    exact ⟨_, rfl, .bool_true⟩
  · cases h
    exact ⟨_, rfl, .bool_false⟩
  · obtain ⟨⟨n, rest⟩, hnumeral, ⟨⟩⟩ := Option.map_eq_some_iff.mp h
    obtain ⟨v, rfl, hv⟩ := numeral?_sound hnumeral
    exact ⟨v, rfl, .number hv⟩

theorem IsSound.elements_succ {fuel : Nat} (hfuel : IsSound fuel)
    (h : elements? (fuel + 1) s = some (xs, rest)) :
    ∃ v, s = v ++ ']' :: rest ∧ AreElements xs v := by
  rw [elements?] at h
  split at h
  · cases h
  · next x behind hvalue =>
    obtain ⟨v, rfl, hv⟩ := hfuel.padded hvalue
    split at h
    · next inner hskip =>
      obtain ⟨⟨xs, rest⟩, helements, ⟨⟩⟩ := Option.map_eq_some_iff.mp h
      obtain ⟨w, rfl, hw⟩ := hfuel.elements helements
      exact ⟨v ++ ',' :: w, by simp [hskip], .cons hv hw⟩
    · next hskip =>
      cases h
      exact ⟨v, by rw [hskip], .last hv⟩
    · cases h

theorem IsSound.members_succ {fuel : Nat} (hfuel : IsSound fuel)
    (h : members? (fuel + 1) s = some (ms, rest)) :
    ∃ v, s = v ++ '\x7d' :: rest ∧ AreMembers ms v := by
  obtain ⟨before, hbefore, hs⟩ := exists_gap s
  rw [members?] at h
  split at h
  · next inner hskip =>
    rw [hskip] at hs
    split at h
    · cases h
    · next key behind hliteral =>
      obtain ⟨k, hk, hkey⟩ := isLiteral_of_literal? hliteral
      obtain ⟨after, hafter, hbehind⟩ := exists_gap behind
      split at h
      · next body hcolon =>
        rw [hcolon] at hbehind
        split at h
        · cases h
        · next x behind' hvalue =>
          obtain ⟨v, rfl, hv⟩ := hfuel.padded hvalue
          have hmember := IsMember.intro hbefore hkey hafter hv
          split at h
          · next inner hcomma =>
            obtain ⟨⟨ms, rest⟩, hmembers, ⟨⟩⟩ := Option.map_eq_some_iff.mp h
            obtain ⟨w, rfl, hw⟩ := hfuel.members hmembers
            refine ⟨_, ?_, .cons hmember hw⟩
            simp [hs, hk, hbehind, hcomma]
          · next hbrace =>
            cases h
            refine ⟨_, ?_, .last hmember⟩
            simp [hs, hk, hbehind, hbrace]
          · cases h
      · cases h
  · cases h

theorem isSound (fuel : Nat) : IsSound fuel := by
  induction fuel with
  | zero =>
    refine ⟨fun h ↦ ?_, fun h ↦ ?_, fun h ↦ ?_⟩
    · simp at h
    · simp at h
    · simp at h
  | succ fuel ih => exact ⟨ih.value_succ, ih.elements_succ, ih.members_succ⟩

/-- Whether the reader, with so much fuel, reads everything that is written as the grammar says and
is short enough. -/
structure IsComplete (fuel : Nat) : Prop where
  value : ∀ {t v rest}, IsWritten t v → v.length < fuel → Ends rest →
    value? fuel (v ++ rest) = some (t, rest)
  elements : ∀ {xs v}, AreElements xs v → v.length + 1 < fuel → ∀ rest,
    elements? fuel (v ++ ']' :: rest) = some (xs, rest)
  members : ∀ {ms v}, AreMembers ms v → v.length + 1 < fuel → ∀ rest,
    members? fuel (v ++ '\x7d' :: rest) = some (ms, rest)

theorem value?_gap (hgap : IsGap gap) (fuel : Nat) (s : List Char) :
    value? fuel (gap ++ s) = value? fuel s := by
  cases fuel with
  | zero => simp
  | succ fuel => rw [value?, value?, skipGap_append hgap]

theorem elements?_gap (hgap : IsGap gap) (fuel : Nat) (s : List Char) :
    elements? fuel (gap ++ s) = elements? fuel s := by
  cases fuel with
  | zero => simp
  | succ fuel => rw [elements?, elements?, value?_gap hgap]

theorem members?_gap (hgap : IsGap gap) (fuel : Nat) (s : List Char) :
    members? fuel (gap ++ s) = members? fuel s := by
  cases fuel with
  | zero => simp
  | succ fuel => rw [members?, members?, skipGap_append hgap]

/-- A value with gaps around it is read up to the gap behind it. -/
theorem IsComplete.padded {fuel : Nat} (hfuel : IsComplete fuel) (h : IsPadded t s)
    (hlength : s.length < fuel) (hrest : Ends rest) :
    ∃ after, value? fuel (s ++ rest) = some (t, after) ∧ skipGap after = skipGap rest := by
  obtain @⟨_, before, v, after, hbefore, hv, hafter⟩ := h
  simp only [List.length_append] at hlength
  refine ⟨after ++ rest, ?_, skipGap_append hafter rest⟩
  rw [List.append_assoc, List.append_assoc, value?_gap hbefore,
    hfuel.value hv (by omega) (hrest.gap_append hafter)]

section Unfolding

variable (fuel : Nat) (s : List Char)

theorem value?_array : value? (fuel + 1) ('[' :: s) =
    match skipGap s with
    | ']' :: rest => some (array [], rest)
    | rest => (elements? fuel rest).map fun (xs, rest) ↦ (array xs, rest) := by
  rw [value?, skipGap_cons rfl]
  rfl

theorem value?_object : value? (fuel + 1) ('\x7b' :: s) =
    match skipGap s with
    | '\x7d' :: rest => some (object [], rest)
    | rest => (members? fuel rest).map fun (ms, rest) ↦ (object ms, rest) := by
  rw [value?, skipGap_cons rfl]
  rfl

theorem value?_number {c : Char} (hc : c = '-' ∨ Decimal.isDigit c) :
    value? (fuel + 1) (c :: s) = (numeral? (c :: s)).map fun (n, rest) ↦ (number n, rest) := by
  have hgap : isGap c = false := by
    by_contra hgap
    simp only [isGap, Bool.not_eq_false, Bool.or_eq_true, decide_eq_true_eq] at hgap
    rcases hgap with ((rfl | rfl) | rfl) | rfl <;> exact absurd hc (by decide)
  rw [value?, skipGap_cons hgap]
  split
  case h_7 => rfl
  all_goals
    next heq =>
      cases heq
      exact absurd hc (by decide)

theorem elements?_bracket : elements? fuel (']' :: s) = none := by
  match fuel with
  | 0 => simp
  | 1 => simp
  | fuel + 2 =>
    rw [elements?, value?, skipGap_cons rfl]
    rfl

theorem members?_brace : members? fuel ('\x7d' :: s) = none := by
  cases fuel with
  | zero => simp
  | succ fuel =>
    rw [members?, skipGap_cons rfl]
    rfl

end Unfolding

theorem IsComplete.value_succ {fuel : Nat} (hfuel : IsComplete fuel) (h : IsWritten t s)
    (hlength : s.length < fuel + 1) (hrest : Ends rest) :
    value? (fuel + 1) (s ++ rest) = some (t, rest) := by
  cases h with
  | null | bool_true | bool_false => rfl
  | number h =>
    obtain ⟨c, tail, hs, hc⟩ := h.exists_eq
    have hread := numeral?_append h hrest
    rw [hs, List.cons_append] at hread ⊢
    rw [value?_number _ _ hc, hread]
    rfl
  | string h =>
    obtain ⟨tail, hs, hliteral⟩ := h.exists_literal? rest
    rw [hs, value?, skipGap_cons rfl]
    simp only [hliteral, Option.map_some]
  | empty_array hgap =>
    rw [List.cons_append, List.append_assoc, value?_array, skipGap_append hgap]
    rfl
  | @array xs s h =>
    simp only [List.length_cons, List.length_append, List.length_nil] at hlength
    have hread := hfuel.elements h (by omega) rest
    obtain ⟨gap, hgap, hs⟩ := exists_gap (s ++ ']' :: rest)
    rw [hs, elements?_gap hgap] at hread
    have hshape : '[' :: (s ++ [']']) ++ rest = '[' :: (s ++ ']' :: rest) := by simp
    rw [hshape, value?_array]
    split
    · next hbracket =>
      rw [hbracket, elements?_bracket] at hread
      cases hread
    · rw [hread]
      rfl
  | empty_object hgap =>
    rw [List.cons_append, List.append_assoc, value?_object, skipGap_append hgap]
    rfl
  | @object ms s h =>
    simp only [List.length_cons, List.length_append, List.length_nil] at hlength
    have hread := hfuel.members h (by omega) rest
    obtain ⟨gap, hgap, hs⟩ := exists_gap (s ++ '\x7d' :: rest)
    rw [hs, members?_gap hgap] at hread
    have hshape : '\x7b' :: (s ++ ['\x7d']) ++ rest = '\x7b' :: (s ++ '\x7d' :: rest) := by simp
    rw [hshape, value?_object]
    split
    · next hbrace =>
      rw [hbrace, members?_brace] at hread
      cases hread
    · rw [hread]
      rfl

theorem IsComplete.elements_succ {fuel : Nat} (hfuel : IsComplete fuel) (h : AreElements xs s)
    (hlength : s.length + 1 < fuel + 1) (rest : List Char) :
    elements? (fuel + 1) (s ++ ']' :: rest) = some (xs, rest) := by
  cases h with
  | last h =>
    have hends : Ends (']' :: rest) := ends_cons (by decide) rest
    obtain ⟨after, hread, hskip⟩ := hfuel.padded h (by omega) hends
    rw [skipGap_cons rfl] at hskip
    rw [elements?, hread]
    simp only [hskip]
  | @cons x xs s s' h hxs =>
    simp only [List.length_append, List.length_cons] at hlength
    have hends : Ends (',' :: (s' ++ ']' :: rest)) := ends_cons (by decide) _
    obtain ⟨after, hread, hskip⟩ := hfuel.padded h (by omega) hends
    rw [skipGap_cons rfl] at hskip
    rw [List.append_assoc, List.cons_append, elements?, hread]
    simp only [hskip]
    rw [hfuel.elements hxs (by omega)]
    rfl

/-- The reader reads a member, and goes on behind a comma. -/
theorem IsComplete.member {fuel : Nat} (hfuel : IsComplete fuel) (h : IsMember m s)
    (hlength : s.length < fuel) {c : Char} (hc : c = ',' ∨ c = '\x7d') (rest : List Char) :
    members? (fuel + 1) (s ++ c :: rest) =
      if c = ',' then (members? fuel rest).map fun x ↦ (m :: x.1, x.2) else some ([m], rest) := by
  obtain @⟨key, x, before, k, gap, v, hbefore, hkey, hgap, hv⟩ := h
  simp only [List.length_append, List.length_cons] at hlength
  have hends : Ends (c :: rest) := ends_cons (by rcases hc with rfl | rfl <;> decide) rest
  obtain ⟨after, hread, hskip⟩ := hfuel.padded hv (by omega) hends
  obtain ⟨tail, hk, hliteral⟩ := hkey.exists_literal? (gap ++ ':' :: (v ++ c :: rest))
  have hshape : before ++ (k ++ (gap ++ ':' :: v)) ++ c :: rest =
      before ++ (k ++ (gap ++ ':' :: (v ++ c :: rest))) := by
    simp
  have hcolon : skipGap (gap ++ ':' :: (v ++ c :: rest)) = ':' :: (v ++ c :: rest) := by
    rw [skipGap_append hgap, skipGap_cons rfl]
  rw [hshape, members?_gap hbefore, hk, members?, skipGap_cons rfl]
  simp only [hliteral, hcolon, hread, hskip]
  rcases hc with rfl | rfl <;> rfl

theorem IsComplete.members_succ {fuel : Nat} (hfuel : IsComplete fuel) (h : AreMembers ms s)
    (hlength : s.length + 1 < fuel + 1) (rest : List Char) :
    members? (fuel + 1) (s ++ '\x7d' :: rest) = some (ms, rest) := by
  cases h with
  | last h => rw [hfuel.member h (by omega) (.inr rfl), if_neg (by decide)]
  | @cons m ms s s' h hms =>
    simp only [List.length_append, List.length_cons] at hlength
    rw [List.append_assoc, List.cons_append, hfuel.member h (by omega) (.inl rfl), if_pos rfl,
      hfuel.members hms (by omega)]
    rfl

theorem isComplete (fuel : Nat) : IsComplete fuel := by
  induction fuel with
  | zero => exact ⟨nofun, nofun, nofun⟩
  | succ fuel ih => exact ⟨ih.value_succ, ih.elements_succ, ih.members_succ⟩

/-- The reader reads a text exactly if it is a JSON text, and as the value that it writes. -/
theorem read?_eq_some_iff {text : String} : read? text = some t ↔ t.IsText text := by
  rw [read?, IsText]
  constructor
  · intro h
    split at h
    · next t' rest hvalue =>
      split at h
      · next hskip =>
        cases h
        obtain ⟨v, hv, hpadded⟩ := (isSound _).padded hvalue
        rw [hskip, List.append_nil] at hv
        rwa [hv]
      · cases h
    · cases h
  · intro h
    have hends : Ends [] := nofun
    obtain ⟨after, hread, hskip⟩ :=
      (isComplete (text.toList.length + 1)).padded h (Nat.lt_succ_self _) hends
    rw [List.append_nil] at hread
    simp only [hread]
    exact if_pos hskip

theorem readValue?_eq_some_iff {text : String} :
    readValue? text = some t ↔ t.IsText text ∧ t.denotesValue := by
  rw [readValue?, Option.filter_eq_some_iff, read?_eq_some_iff]

end Values

end MessageBus.JsonText
