/-!
A member of a list that is replaced by another one, or erased.
-/

set_option autoImplicit false
set_option relaxedAutoImplicit false

namespace MessageBus

variable {α β : Type} {l : List α} {i : Nat} {a a' : α}

theorem getElem?_set_cases {j : Nat} {b : α} (h : (l.set i a)[j]? = some b) :
    (i = j ∧ b = a) ∨ (i ≠ j ∧ l[j]? = some b) := by
  rw [List.getElem?_set] at h
  split at h
  · split at h
    · exact .inl ⟨‹_›, (Option.some.inj h).symm⟩
    · cases h
  · exact .inr ⟨‹_›, h⟩

/-- A member of a list may be replaced within what the members yield. -/
theorem flatMap_set (h : l[i]? = some a) (f : α → List β) (a' : α) :
    ∃ before after, l.flatMap f = before ++ (f a ++ after) ∧
      (l.set i a').flatMap f = before ++ (f a' ++ after) := by
  obtain ⟨hi, rfl⟩ := List.getElem?_eq_some_iff.mp h
  refine ⟨(l.take i).flatMap f, (l.drop (i + 1)).flatMap f, ?_, ?_⟩
  · calc
      l.flatMap f = (l.take i ++ l[i] :: l.drop (i + 1)).flatMap f := by
        rw [← List.drop_eq_getElem_cons hi, List.take_append_drop]
      _ = _ := by rw [List.flatMap_append, List.flatMap_cons]
  · rw [List.set_eq_take_append_cons_drop, if_pos hi, List.flatMap_append, List.flatMap_cons]

theorem map_set_of_eq (h : l[i]? = some a) (f : α → β) (ha : f a' = f a) :
    (l.set i a').map f = l.map f := by
  obtain ⟨hi, rfl⟩ := List.getElem?_eq_some_iff.mp h
  have hlength : i < (l.map f).length := by rwa [List.length_map]
  have hget : f l[i] = (l.map f)[i] := (List.getElem_map f).symm
  rw [List.map_set, ha, hget, List.set_getElem_self]

theorem flatMap_set_of_eq (h : l[i]? = some a) (f : α → List β) (ha : f a' = f a) :
    (l.set i a').flatMap f = l.flatMap f := by
  rw [List.flatMap_def, List.flatMap_def, map_set_of_eq h f ha]

/-- A member that yields more than the one it replaces. -/
theorem flatMap_set_append_perm (h : l[i]? = some a) (f : α → List β) {more : List β}
    (ha : f a' = f a ++ more) : ((l.set i a').flatMap f).Perm (more ++ l.flatMap f) := by
  obtain ⟨before, after, hold, hnew⟩ := flatMap_set h f a'
  have hmiddle : ((before ++ f a) ++ (more ++ after)).Perm (more ++ ((before ++ f a) ++ after)) :=
    List.perm_append_comm_assoc ..
  rw [hold, hnew, ha]
  simpa using hmiddle

theorem flatMap_set_perm (h : l[i]? = some a) (f : α → List β) {b : β}
    (ha : f a' = f a ++ [b]) : ((l.set i a').flatMap f).Perm (b :: l.flatMap f) :=
  flatMap_set_append_perm h f ha

/-- Where at most one element has a property, to erase it is to keep the others. -/
theorem eraseP_eq_filter {p : α → Bool}
    (h : l.Pairwise fun a b ↦ ¬ (p a ∧ p b)) : l.eraseP p = l.filter (!p ·) := by
  induction h with
  | nil => rfl
  | @cons a l hfirst _ ih =>
    cases hp : p a with
    | true =>
      have hrest : ∀ b ∈ l, (!p b) = true := by simpa [hp] using hfirst
      simp [hp, List.filter_eq_self.mpr hrest]
    | false => simp [hp, ih]

end MessageBus
