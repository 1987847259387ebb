import MessageBus.Table
/-!
What is under a key of a table after an entry was erased, other keys were left out or the entries of
another table were inserted, and when insertions come to the same: to insert twice under one key is
to insert the second time, and an entry that is replaced keeps its place.
-/

set_option autoImplicit false
set_option relaxedAutoImplicit false

namespace MessageBus.Table

variable {κ α : Type} [DecidableEq κ]

/-- Entries that are left out by their keys are no longer found, and the others still are. -/
theorem findIn_filter (entries : List (κ × α)) (p : κ → Bool) (key : κ) :
    findIn key (entries.filter fun e ↦ p e.1) = if p key then findIn key entries else none := by
  induction entries with
  | nil => simp [findIn]
  | cons e rest ih =>
    rw [List.filter_cons]
    by_cases hk : e.1 = key
    · cases hp : p key <;> simp [findIn, hk, hp, ih]
    · cases hp : p e.1 <;> simp [findIn, hk, ih]

@[simp]
theorem find?_erase (t : Table κ α) (key other : κ) :
    (t.erase key).find? other = if key = other then none else t.find? other := by
  refine (findIn_filter t.entries (fun k ↦ k ≠ key) other).trans ?_
  by_cases hkey : key = other
  · simp [hkey]
  · simp [hkey, Ne.symm hkey, find?]

theorem find?_restrict (t : Table κ α) {keys : List κ} {key : κ} (hkey : key ∈ keys) :
    (t.restrict keys).find? key = t.find? key :=
  (findIn_filter t.entries (· ∈ keys) key).trans (if_pos (decide_eq_true hkey))

/-- What the last entry of a key has. If no key has two entries, this is what is found under it. -/
def latest? (t : Table κ α) (key : κ) : Option α := findIn key t.entries.reverse

/-- Entries that are inserted win over those that are there, and later ones over earlier ones. -/
theorem find?_insertAll (t u : Table κ α) (key : κ) :
    (t.insertAll u).find? key = (u.latest? key).or (t.find? key) := by
  rw [insertAll, latest?, List.foldl_eq_foldr_reverse]
  induction u.entries.reverse with
  | nil => rfl
  | cons e rest ih =>
    rw [List.foldr_cons, find?_insert, ih, findIn]
    split
    · rfl
    · rfl

theorem findIn_eq_none_iff {entries : List (κ × α)} {key : κ} :
    findIn key entries = none ↔ ∀ e ∈ entries, e.1 ≠ key := by
  induction entries with
  | nil => simp [findIn]
  | cons e rest ih => by_cases hk : e.1 = key <;> simp [findIn, hk, ih]

theorem latest?_eq_none_iff {u : Table κ α} {key : κ} :
    u.latest? key = none ↔ u.find? key = none := by
  simp [latest?, find?, findIn_eq_none_iff]

theorem find?_insertAll_of_none (t : Table κ α) {u : Table κ α} {key : κ}
    (h : u.find? key = none) : (t.insertAll u).find? key = t.find? key := by
  rw [find?_insertAll, latest?_eq_none_iff.mpr h, Option.none_or]

theorem mem_entries_of_find? {t : Table κ α} {key : κ} {a : α} (h : t.find? key = some a) :
    (key, a) ∈ t.entries := by
  obtain ⟨entries⟩ := t
  unfold find? at h
  induction entries with
  | nil => cases h
  | cons e rest ih =>
    obtain ⟨k, b⟩ := e
    rw [findIn] at h
    split at h
    · next hk =>
      obtain rfl := Option.some.inj h
      rw [hk]
      exact List.mem_cons_self
    · exact List.mem_cons_of_mem _ (ih h)

theorem contains_of_find? {t : Table κ α} {key : κ} {a : α} (h : t.find? key = some a) :
    t.contains key := by
  rw [contains, h, Option.isSome_some]

theorem find?_insert_self (t : Table κ α) (key : κ) (a : α) :
    (t.insert key a).find? key = some a := by
  rw [find?_insert, if_pos rfl]

theorem contains_insert_self (t : Table κ α) (key : κ) (a : α) : (t.insert key a).contains key := by
  exact contains_of_find? (t.find?_insert_self key a)

theorem contains_insert_iff {t : Table κ α} {key other : κ} {a : α} :
    (t.insert key a).contains other ↔ key = other ∨ t.contains other := by
  rw [contains, find?_insert]
  by_cases h : key = other
  · simp [h]
  · simp [h, contains]

theorem insert_insert (t : Table κ α) (key : κ) (a b : α) :
    (t.insert key a).insert key b = t.insert key b := by
  obtain ⟨entries⟩ := t
  apply congrArg Table.mk
  show insertIn key b (insertIn key a entries) = insertIn key b entries
  induction entries with
  | nil => simp [insertIn]
  | cons e rest ih =>
    obtain ⟨k, c⟩ := e
    by_cases hk : k = key
    · simp [insertIn, hk]
    · simp [insertIn, hk, ih]

/-- A key that is there keeps its place, so it can be replaced before another one is inserted. -/
theorem insert_comm_of_contains {t : Table κ α} {key other : κ} (hne : key ≠ other)
    (h : t.contains key) (a b : α) :
    (t.insert other b).insert key a = (t.insert key a).insert other b := by
  obtain ⟨entries⟩ := t
  apply congrArg Table.mk
  show insertIn key a (insertIn other b entries) = insertIn other b (insertIn key a entries)
  unfold contains find? at h
  induction entries with
  | nil => cases h
  | cons e rest ih =>
    obtain ⟨k, c⟩ := e
    by_cases hk : k = key
    · subst hk
      simp [insertIn, hne]
    · by_cases ho : k = other
      · subst ho
        simp [insertIn, hk]
      · simp_all [insertIn, findIn]

/-- To replace an entry that was inserted is to insert the other value from the start. -/
theorem replace_insert (t : Table κ α) {key other : κ} (hne : key ≠ other) (a b c : α) :
    ((t.insert key a).insert other b).insert key c = (t.insert key c).insert other b := by
  rw [insert_comm_of_contains hne (t.contains_insert_self key a), insert_insert]

end MessageBus.Table
