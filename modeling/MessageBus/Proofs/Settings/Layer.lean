import MessageBus.Settings.Load
/-!
What a layer of settings does to the sections, read key by key. A layer is a list of assignments,
and each section sees only those that are about it (`assignments`): putting the layer on top sets
these in the section, one after the other, and changes nothing else in it (`overlay_sets`). So what
is under a key of a section afterwards is what the layer sets there last, or what was there before
if the layer does not set the key (`valueOf_sectionOf_overlay`).

This is read off one assignment at a time. Its key is lowered in case and then read as a path, and
a path reaches a section by its first step only; the keys on the path are lowered already
(`PathStep.read?_lowered`), so lowering them again when they are set changes nothing. The layers
are those that assign tables to sections and values to their keys, but no table to a key
(`IsSectioned`).
-/

set_option autoImplicit false
set_option relaxedAutoImplicit false

namespace MessageBus

/-! ### Lowered keys -/

theorem toNat_toLower_of_upper {c : Char} (h : c.val ≥ 'A'.val ∧ c.val ≤ 'Z'.val) :
    c.toLower.toNat = c.toNat + 32 := by
  have hnat : 65 ≤ c.toNat ∧ c.toNat ≤ 90 := h
  have hdiff : ('a'.val - 'A'.val).toNat = 32 := by decide
  have hlow : c.toLower = ⟨c.val + ('a'.val - 'A'.val), _⟩ := dif_pos h
  simp only [hlow, Char.toNat, UInt32.toNat_add] at hnat ⊢
  omega

theorem lowerKeyChar_lowerKeyChar (c : Char) : lowerKeyChar (lowerKeyChar c) = lowerKeyChar c := by
  by_cases hkelvin : c = '\u212a'
  · subst hkelvin
    decide
  have hlow : lowerKeyChar c = c.toLower := if_neg hkelvin
  rw [hlow]
  by_cases hupper : c.val ≥ 'A'.val ∧ c.val ≤ 'Z'.val
  · have hnat : 65 ≤ c.toNat ∧ c.toNat ≤ 90 := hupper
    have hval := toNat_toLower_of_upper hupper
    have hne : c.toLower ≠ '\u212a' := by
      intro heq
      have : (0x212a : Nat) = c.toNat + 32 := by rw [← hval, heq]; rfl
      omega
    have hnot : ¬ (c.toLower.val ≥ 'A'.val ∧ c.toLower.val ≤ 'Z'.val) := by
      intro h
      have : c.toLower.toNat ≤ 90 := h.2
      omega
    exact (if_neg hne).trans (dif_neg hnot)
  · have hkeep : c.toLower = c := dif_neg hupper
    rw [hkeep, hlow, hkeep]

/-- The text has no character that lowering changes. -/
def IsLowered (s : List Char) : Prop := ∀ c ∈ s, lowerKeyChar c = c

theorem IsLowered.mono {s t : List Char} (h : IsLowered s) (hsub : t ⊆ s) : IsLowered t :=
  fun c hc ↦ h c (hsub hc)

theorem IsLowered.tail {c : Char} {s : List Char} (h : IsLowered (c :: s)) : IsLowered s :=
  h.mono (List.subset_cons_self c s)

theorem IsLowered.dropWhile {s : List Char} (h : IsLowered s) (p : Char → Bool) :
    IsLowered (s.dropWhile p) :=
  h.mono (List.dropWhile_sublist p).subset

theorem isLowered_lowerKey (key : String) : IsLowered (lowerKey key).toList := by
  intro c hc
  rw [lowerKey, String.toList_map] at hc
  obtain ⟨d, -, rfl⟩ := List.mem_map.mp hc
  exact lowerKeyChar_lowerKeyChar d

theorem IsLowered.lowerKey_eq {key : String} (h : IsLowered key.toList) : lowerKey key = key := by
  rw [← String.toList_inj, lowerKey, String.toList_map]
  calc key.toList.map lowerKeyChar = key.toList.map id := List.map_congr_left h
    _ = key.toList := List.map_id _

namespace PathStep

/-- The keys on the path are lowered. -/
def Lowered (path : List PathStep) : Prop := ∀ key, child key ∈ path → IsLowered key.toList

theorem lowered_child {key : String} {path : List PathStep} :
    Lowered (child key :: path) ↔ IsLowered key.toList ∧ Lowered path := by
  simp [Lowered, or_imp, forall_and]

theorem lowered_element {index : Int} {path : List PathStep} :
    Lowered (element index :: path) ↔ Lowered path := by
  simp [Lowered]

theorem key?_lowered {s rest : List Char} {key : String} (h : key? s = some (key, rest))
    (hs : IsLowered s) : IsLowered key.toList ∧ IsLowered rest := by
  simp only [key?] at h
  split at h
  · cases h
  · cases h
    rw [String.toList_ofList]
    exact ⟨hs.mono (List.takeWhile_sublist _).subset, hs.dropWhile _⟩

theorem index?_lowered {s rest : List Char} {index : Int} (h : index? s = some (index, rest))
    (hs : IsLowered s) : IsLowered rest := by
  unfold index? at h
  extract_lets signed at h
  have hgap : IsLowered signed := hs.dropWhile isGap
  clear_value signed
  split at h
  next negative digits hsign =>
    have hdigits : IsLowered digits := by
      split at hsign
      next =>
        cases hsign
        exact hgap.tail
      next =>
        cases hsign
        exact hgap
    extract_lets run n at h
    clear_value n
    split at h
    · cases h
    · split at h
      next heq =>
        cases h
        exact (heq ▸ (hdigits.dropWhile Decimal.isDigit).dropWhile isGap :
          IsLowered (']' :: rest)).tail
      next => cases h

/-- The fuel of `more?` carries the induction. -/
theorem more?_lowered (fuel : Nat) {s : List Char} {path : List PathStep}
    (h : more? fuel s = some path) (hs : IsLowered s) : Lowered path := by
  induction fuel generalizing s path with
  | zero =>
    cases s with
    | nil =>
      cases h
      simp [Lowered]
    | cons c s => simp [more?] at h
  | succ fuel ih =>
    unfold more? at h
    split at h
    next =>
      cases h
      simp [Lowered]
    next => cases h
    next heq =>
      cases heq
      obtain ⟨⟨key, rest⟩, hkey, hmore⟩ := Option.bind_eq_some_iff.mp h
      obtain ⟨more, hread, rfl⟩ := Option.map_eq_some_iff.mp hmore
      have hlow := key?_lowered hkey hs.tail
      exact lowered_child.mpr ⟨hlow.1, ih hread hlow.2⟩
    next heq =>
      cases heq
      obtain ⟨⟨index, rest⟩, hindex, hmore⟩ := Option.bind_eq_some_iff.mp h
      obtain ⟨more, hread, rfl⟩ := Option.map_eq_some_iff.mp hmore
      exact lowered_element.mpr (ih hread (index?_lowered hindex hs.tail))
    next => cases h

/-- A path starts with a key, and the keys of a lowered text are lowered. -/
theorem read?_lowered {s : List Char} {path : List PathStep} (h : read? s = some path)
    (hs : IsLowered s) : ∃ key rest, path = child key :: rest ∧ Lowered path := by
  obtain ⟨⟨key, rest⟩, hkey, hmore⟩ := Option.bind_eq_some_iff.mp h
  obtain ⟨more, hread, rfl⟩ := Option.map_eq_some_iff.mp hmore
  have hlow := key?_lowered hkey hs
  exact ⟨key, more, rfl, lowered_child.mpr ⟨hlow.1, more?_lowered _ hread hlow.2⟩⟩

end PathStep

namespace Setting

/-! ### Values under keys -/

@[simp]
theorem entries_table (es : List (String × Setting)) : (table es).entries = es := rfl

theorem valueOf_setEntry (key name : String) (v : Setting) (entries : List (String × Setting)) :
    valueOf key (setEntry name v entries)
      = if name = key then some v else valueOf key entries := by
  induction entries with
  | nil => simp [setEntry, valueOf]
  | cons e entries ih =>
    obtain ⟨k, w⟩ := e
    by_cases hk : k = name
    · subst hk
      by_cases hkey : k = key <;> simp [setEntry, valueOf, hkey]
    · by_cases hkey : k = key
      · subst hkey
        simp [setEntry, valueOf, hk, Ne.symm hk]
      · simp [setEntry, valueOf, hk, hkey, ih]

def isTable : Setting → Bool
  | table _ => true
  | _ => false

theorem isTable_iff {v : Setting} : v.isTable ↔ ∃ entries, v = table entries := by
  cases v <;> simp [isTable]

theorem mergedWith_of_not_isTable {v : Setting} (old : Option Setting) (h : v.isTable = false) :
    mergedWith old v = v := by
  cases v <;> first | rfl | simp [isTable] at h

/-- The value that is set last under a key. Spellings of a key that differ in case are one key. -/
def lastValue? (key : String) (assignments : List (String × Setting)) : Option Setting :=
  (assignments.filterMap fun e ↦ if lowerKey e.1 = key then some e.2 else none).getLast?

theorem lastValue?_cons (key : String) (e : String × Setting) (rest : List (String × Setting)) :
    lastValue? key (e :: rest)
      = (lastValue? key rest).or (if lowerKey e.1 = key then some e.2 else none) := by
  by_cases h : lowerKey e.1 = key
  · simp only [lastValue?, List.filterMap_cons, if_pos h, List.getLast?_cons]
    cases List.getLast? (List.filterMap _ rest) <;> rfl
  · simp [lastValue?, h]

theorem setAll_cons (into : List (String × Setting)) (e : String × Setting)
    (rest : List (String × Setting)) :
    setAll into (e :: rest)
      = setAll (setEntry (lowerKey e.1) (mergedWith (valueOf (lowerKey e.1) into) e.2) into)
          rest := by
  obtain ⟨key, v⟩ := e
  rw [setAll]

theorem setAll_append (into first second : List (String × Setting)) :
    setAll into (first ++ second) = setAll (setAll into first) second := by
  induction first generalizing into with
  | nil => rw [List.nil_append, setAll]
  | cons e first ih => rw [List.cons_append, setAll_cons, ih, setAll_cons]

/-- Where no table is set, a later value takes the place of what is under its key. -/
theorem valueOf_setAll (key : String) (into : List (String × Setting))
    {assignments : List (String × Setting)} (h : ∀ e ∈ assignments, e.2.isTable = false) :
    valueOf key (setAll into assignments) = (lastValue? key assignments).or (valueOf key into) := by
  induction assignments generalizing into with
  | nil => rw [setAll]; rfl
  | cons e rest ih =>
    have hleaf : e.2.isTable = false := h e (List.mem_cons_self ..)
    have hrest := ih (setEntry (lowerKey e.1) e.2 into)
      fun e' he' ↦ h e' (List.mem_cons_of_mem _ he')
    rw [setAll_cons, mergedWith_of_not_isTable _ hleaf, hrest, valueOf_setEntry, lastValue?_cons,
      Option.or_assoc]
    by_cases hkey : lowerKey e.1 = key <;> simp [hkey]

/-! ### Sections -/

/-- The entries of a section; a section that is not there has none. -/
def sectionOf (part : String) (root : Setting) : List (String × Setting) :=
  ((valueOf part root.entries).getD unset).entries

/-- The section is a table if it is there. -/
def HasTable (part : String) (root : Setting) : Prop :=
  ∀ v, valueOf part root.entries = some v → v.isTable

/-- What a value under a path sets in a section. -/
def assignedAt (part : String) (v : Setting) : List PathStep → List (String × Setting)
  | [.child p] => if p = part then v.entries else []
  | [.child p, .child key] => if p = part then [(key, v)] else []
  | _ => []

/-- What an assignment of a layer sets in a section. -/
def assigned (part : String) (e : String × Setting) : List (String × Setting) :=
  ((PathStep.read? (lowerKey e.1).toList).map (assignedAt part e.2)).getD []

/-- What a layer sets in a section. -/
def assignments (part : String) (layer : List (String × Setting)) : List (String × Setting) :=
  layer.flatMap (assigned part)

/-- If a path leads to a section, it leads to the section itself and sets a table of values there,
or to a key of the section and sets a value there; a table is no such value. -/
def setsLeavesAt (v : Setting) : List PathStep → Bool
  | [.child part] =>
    part ∉ Settings.fieldNames || (v.isTable && v.entries.all fun e ↦ !e.2.isTable)
  | [.child part, .child _] => part ∉ Settings.fieldNames || !v.isTable
  | .child part :: _ => part ∉ Settings.fieldNames
  | _ => true

/-- The sections of the layer are tables of values that are no tables. -/
def IsSectioned (layer : List (String × Setting)) : Prop :=
  ∀ e ∈ layer, ∀ path ∈ PathStep.read? (lowerKey e.1).toList, setsLeavesAt e.2 path

instance (layer : List (String × Setting)) : Decidable (IsSectioned layer) :=
  inferInstanceAs (Decidable (∀ e ∈ layer, ∀ path ∈ PathStep.read? _, setsLeavesAt e.2 path))

theorem assignedAt_leaves {part : String} (hpart : part ∈ Settings.fieldNames) {v : Setting}
    {path : List PathStep} (h : setsLeavesAt v path) :
    ∀ e ∈ assignedAt part v path, e.2.isTable = false := by
  intro e he
  unfold assignedAt at he
  split at he
  next p =>
    split at he
    next heq =>
      subst heq
      simp only [setsLeavesAt, hpart, not_true_eq_false, decide_false, Bool.false_or,
        Bool.and_eq_true, List.all_eq_true, Bool.not_eq_true'] at h
      exact h.2 e he
    next => cases he
  next p key =>
    split at he
    next heq =>
      subst heq
      rw [List.mem_singleton.mp he]
      simpa [setsLeavesAt, hpart] using h
    next => cases he
  next => cases he

theorem assignments_leaves {part : String} (hpart : part ∈ Settings.fieldNames)
    {layer : List (String × Setting)} (h : IsSectioned layer) :
    ∀ e ∈ assignments part layer, e.2.isTable = false := by
  intro e he
  obtain ⟨e', hmem, he⟩ := List.mem_flatMap.mp he
  cases hread : PathStep.read? (lowerKey e'.1).toList with
  | none =>
    simp [assigned, hread] at he
  | some path =>
    refine assignedAt_leaves hpart (h e' hmem path hread) e ?_
    simpa [assigned, hread] using he

/-! ### What a layer does to a section -/

/-- From the one tree to the other the entries are set in the section, which stays a table. -/
structure Sets (part : String) (es : List (String × Setting)) (root root' : Setting) : Prop where
  sectionOf_eq : sectionOf part root' = setAll (sectionOf part root) es
  hasTable : HasTable part root → HasTable part root'

theorem Sets.of_valueOf_eq {part : String} {root root' : Setting}
    (h : valueOf part root'.entries = valueOf part root.entries) : Sets part [] root root' where
  sectionOf_eq := by rw [setAll, sectionOf, h, sectionOf]
  hasTable htable v hv := htable v (h ▸ hv)

theorem Sets.append {part : String} {es es' : List (String × Setting)} {r s t : Setting}
    (h : Sets part es r s) (h' : Sets part es' s t) : Sets part (es ++ es') r t where
  sectionOf_eq := by rw [h'.sectionOf_eq, h.sectionOf_eq, setAll_append]
  hasTable := h'.hasTable ∘ h.hasTable

/-- A path whose first key is not the section leaves the section as it is. -/
theorem setPath_sets_of_ne {part key : String} (hne : part ≠ key) (v root : Setting)
    {path : List PathStep} (hlow : PathStep.Lowered (.child key :: path)) :
    Sets part [] root (setPath v (.child key :: path) root) := by
  have hkey : lowerKey key = key := (PathStep.lowered_child.mp hlow).1.lowerKey_eq
  refine Sets.of_valueOf_eq ?_
  cases path with
  | nil => simp [setPath, setKey, entries, setAll, hkey, valueOf_setEntry, Ne.symm hne]
  | cons step path => simp [setPath, entries, valueOf_setEntry, Ne.symm hne]

/-- A table that is set as a section is merged into it. -/
theorem setPath_sets_table {part : String} (hpart : lowerKey part = part)
    (es : List (String × Setting)) (root : Setting) :
    Sets part es root (setPath (table es) [.child part] root) := by
  have hval : valueOf part (setPath (table es) [.child part] root).entries
      = some (mergedWith (valueOf part root.entries) (table es)) := by
    simp [setPath, setKey, entries, setAll, hpart, valueOf_setEntry]
  cases es with
  | nil =>
    rw [mergedWith, List.isEmpty_nil, if_pos rfl] at hval
    constructor
    · rw [setAll, sectionOf, hval, sectionOf]
      cases valueOf part root.entries <;> rfl
    · intro htable v hv
      rw [hval, Option.some.injEq] at hv
      subst hv
      cases hold : valueOf part root.entries with
      | none => rfl
      | some old => exact htable old hold
  | cons e es =>
    rw [mergedWith, List.isEmpty_cons, if_neg Bool.false_ne_true] at hval
    constructor
    · rw [sectionOf, hval]
      rfl
    · intro _ v hv
      rw [hval, Option.some.injEq] at hv
      subst hv
      rfl

/-- A value that is set under a key of a section makes the section a table. -/
theorem setPath_sets_value (part key : String) (v root : Setting) :
    Sets part [(key, v)] root (setPath v [.child part, .child key] root) := by
  have hval : valueOf part (setPath v [.child part, .child key] root).entries
      = some (table (setAll (sectionOf part root) [(key, v)])) := by
    simp [setPath, setKey, entries, valueOf_setEntry, sectionOf]
  constructor
  · rw [sectionOf, hval]
    rfl
  · intro _ w hw
    rw [hval, Option.some.injEq] at hw
    subst hw
    rfl

/-- The names of the sections are paths, so a key that is no path reaches none of them. -/
theorem isSome_read?_of_mem {part : String} (h : part ∈ Settings.fieldNames) :
    (PathStep.read? part.toList).isSome := by
  revert part
  decide +kernel

/-- What one assignment does to a section: it sets there what it has for the section. -/
theorem setOutermost_sets {part : String} (hpart : part ∈ Settings.fieldNames)
    {e : String × Setting} (root : Setting)
    (h : ∀ path ∈ PathStep.read? (lowerKey e.1).toList, setsLeavesAt e.2 path) :
    Sets part (assigned part e) root (setOutermost root e.1 e.2) := by
  unfold setOutermost assigned
  cases hread : PathStep.read? (lowerKey e.1).toList with
  | none =>
    have hne : lowerKey e.1 ≠ part := by
      intro heq
      have := isSome_read?_of_mem hpart
      rw [← heq, hread] at this
      cases this
    refine Sets.of_valueOf_eq ?_
    simp [setKey, entries, setAll, valueOf_setEntry, hne]
  | some path =>
    obtain ⟨key, rest, rfl, hlow⟩ := PathStep.read?_lowered hread (isLowered_lowerKey e.1)
    have hleaves := h _ hread
    by_cases heq : key = part
    · subst heq
      have hkey : lowerKey key = key := (PathStep.lowered_child.mp hlow).1.lowerKey_eq
      match rest with
      | [] =>
        simp only [setsLeavesAt, hpart, not_true_eq_false, decide_false, Bool.false_or,
          Bool.and_eq_true] at hleaves
        obtain ⟨es, hes⟩ := isTable_iff.mp hleaves.1
        simpa [hes, assignedAt, entries] using setPath_sets_table hkey es root
      | [.child k] => simpa [assignedAt] using setPath_sets_value key k e.2 root
      | [.element _] | .child _ :: _ :: _ | .element _ :: _ :: _ =>
        simp [setsLeavesAt, hpart] at hleaves
    · have hnone : assignedAt part e.2 (.child key :: rest) = [] := by
        unfold assignedAt
        split <;> simp_all
      simpa [hnone] using setPath_sets_of_ne (Ne.symm heq) e.2 root hlow

/-- Putting a layer on top sets in a section what the layer has for it. -/
theorem overlay_sets {part : String} (hpart : part ∈ Settings.fieldNames) (root : Setting)
    {layer : List (String × Setting)} (h : IsSectioned layer) :
    Sets part (assignments part layer) root (overlay root layer) := by
  induction layer generalizing root with
  | nil => exact Sets.of_valueOf_eq rfl
  | cons e layer ih =>
    have hstep := setOutermost_sets hpart root (h e (List.mem_cons_self ..))
    have hrest := ih (root.setOutermost e.1 e.2) fun e' he' ↦ h e' (List.mem_cons_of_mem _ he')
    exact hstep.append hrest

/-- The value that a layer gives to a key of a section. -/
def given? (part key : String) (layer : List (String × Setting)) : Option Setting :=
  lastValue? key (assignments part layer)

/-- A key of a section has the value that the layer on top gives to it, or the one it had. -/
theorem valueOf_sectionOf_overlay {part : String} (hpart : part ∈ Settings.fieldNames)
    (key : String) (root : Setting) {layer : List (String × Setting)} (h : IsSectioned layer) :
    valueOf key (sectionOf part (overlay root layer))
      = (given? part key layer).or (valueOf key (sectionOf part root)) := by
  rw [(overlay_sets hpart root h).sectionOf_eq, valueOf_setAll _ _ (assignments_leaves hpart h)]
  rfl

end Setting

end MessageBus
