import MessageBus.Proofs.Wire.RoundTrip
/-!
What is written of a message: all of it, but for plain floating-point numbers that are a negative
zero, and for values of maps that come to nothing without them. What is written is a message of the
same type again (`isCanonical_written`), all of which is written (`written_written`). So a message
is read back as what is written of it (`readsWithin_read_encode`), which is the message itself if no
plain number in it is a negative zero (`written_eq_self`).
-/

set_option autoImplicit false
set_option relaxedAutoImplicit false

namespace MessageBus.Wire

variable {schema : Schema} {type : MessageSpec} {number : Nat} {f g : Field} {m : Message}

mutual

/-- Whether a plain floating-point number is a negative zero, in a field or deeper. -/
def Field.hasNegativeZero (schema : Schema) (type : MessageSpec) : Field → Bool
  | .scalar number value =>
    match type.kind? number with
    | some (.plain s) => s.isZero value && !value.isDefault
    | _ => false
  | .packed _ _ => false
  | .message number fields =>
    match type.kind? number with
    | some (.message e) => Message.hasNegativeZero schema (schema.embedded e) fields
    | _ => false

def Message.hasNegativeZero (schema : Schema) (type : MessageSpec) : Message → Bool
  | [] => false
  | f :: rest => f.hasNegativeZero schema type || Message.hasNegativeZero schema type rest

end

theorem Scalar.isZero_of_isKey {s : Scalar} (h : s.isKey) (value : Datum) :
    s.isZero value = value.isDefault := by
  cases s <;> simp_all [isKey, isZero]

theorem Message.written_eq_filterMap (schema : Schema) (type : MessageSpec) (m : Message) :
    m.written schema type = m.filterMap (Field.written? schema type) := by
  induction m with
  | nil => rfl
  | cons f rest ih =>
    rw [written, ih, List.filterMap_cons]
    cases f.written? schema type <;> rfl

theorem Message.mem_written :
    g ∈ m.written schema type ↔ ∃ f ∈ m, f.written? schema type = some g := by
  rw [written_eq_filterMap, List.mem_filterMap]

namespace Field

theorem written?_number (h : f.written? schema type = some g) : g.number = f.number := by
  cases f with
  | packed => rw [← Option.some.inj h]
  | scalar | message =>
    simp only [written?] at h
    split at h
    · split at h <;> cases h
      rfl
    · cases h
      rfl

theorem eq_of_written?_scalar {value : Datum}
    (h : (Field.scalar number value).written? schema type = some g) : g = .scalar number value := by
  rw [written?] at h
  split at h
  · split at h <;> cases h
    rfl
  · exact (Option.some.inj h).symm

/-- Of an embedded message is written what is written of its fields. -/
theorem written?_message_cases {fields : List Field}
    (h : (Field.message number fields).written? schema type = some g) :
    (∃ e, type.kind? number = some (.message e) ∧
      g = .message number (Message.written schema (schema.embedded e) fields) ∧
      g.isDefault type = false) ∨
    (g = .message number fields ∧ ∀ e, type.kind? number ≠ some (.message e)) := by
  rw [written?] at h
  split at h
  · next e hkind =>
    dsimp only at h
    split at h
    · cases h
    · next hset =>
      cases h
      exact .inl ⟨e, hkind, rfl, Bool.eq_false_iff.mpr hset⟩
  · next hother => exact .inr ⟨(Option.some.inj h).symm, hother⟩

/-- A value that may be a key is written unless it is the default. -/
theorem written?_key {s : Scalar} (hkind : type.kind? f.number = some (.plain s)) (hkey : s.isKey)
    (h : f.isCanonical schema type) : f.written? schema type = some f := by
  obtain ⟨hfits, hset⟩ := isCanonical_iff.mp h
  cases f with
  | packed | message =>
    simp only [fits, Field.number] at hfits hkind
    rw [hkind] at hfits
    cases hfits
  | scalar number value =>
    have hlabel := MessageSpec.label?_of_kind? hkind
    simp only [isDefault, Field.number, FieldKind.label] at hset hkind hlabel
    have hdefault : value.isDefault = false := by simpa [hlabel] using hset
    simp only [written?, hkind, Scalar.isZero_of_isKey hkey, hdefault]
    rfl

end Field

namespace Message

/-- What is found under a number that may be a key is written. -/
theorem field?_written {s : Scalar} (hkind : type.kind? number = some (.plain s)) (hkey : s.isKey)
    (h : ∀ f ∈ m, f.isCanonical schema type) :
    (m.written schema type).field? number = m.field? number := by
  induction m with
  | nil => rfl
  | cons f rest ih =>
    obtain ⟨hf, hrest⟩ := List.forall_mem_cons.mp h
    have hothers : ((written schema type rest).find? fun g ↦ g.number = number) =
        rest.find? fun g ↦ g.number = number := ih hrest
    rw [written, field?, field?]
    by_cases hnumber : f.number = number
    · subst hnumber
      rw [Field.written?_key hkind hkey hf]
      simp
    · rw [List.find?_cons, decide_eq_false hnumber, ← hothers]
      cases hwritten : f.written? schema type with
      | none => rfl
      | some g =>
        rw [Option.toList_some, List.singleton_append, List.find?_cons,
          Field.written?_number hwritten, decide_eq_false hnumber]

end Message

/-- The key of an entry is written with it. -/
theorem Field.written?_key? (htype : type.isWellFormed schema) (hf : f.isCanonical schema type)
    (hlabel : type.label? f.number = some .keyed) (h : f.written? schema type = some g) :
    g.key? = f.key? := by
  obtain ⟨hfits, -⟩ := isCanonical_iff.mp hf
  obtain ⟨kind, hkind⟩ := exists_kind? hfits
  rw [MessageSpec.label?_of_kind? hkind, Option.some.injEq] at hlabel
  cases f with
  | packed => rw [← Option.some.inj h]
  | scalar number value =>
    simp only [fits, Field.number] at hfits hkind
    rw [hkind] at hfits
    cases kind with
    | plain | optional | repeated | packed => cases hlabel
    | message => cases hfits
  | message number fields =>
    simp only [fits, Field.number] at hfits hkind
    rw [hkind] at hfits
    cases kind with
    | plain | optional | repeated | packed => cases hlabel
    | message e =>
      obtain ⟨s, hs, hkey⟩ := MessageSpec.exists_key htype hkind hlabel
      rcases written?_message_cases h with ⟨e', hkind', rfl, -⟩ | ⟨-, hother⟩
      · obtain rfl := FieldKind.message.inj (Option.some.inj (hkind.symm.trans hkind'))
        simp only [key?, Message.scalar?]
        rw [Message.field?_written hs hkey (Message.isCanonical_iff.mp hfits).1]
      · exact absurd hkind (hother e)

theorem MessageSpec.precedes_written {f' g' : Field} (htype : type.isWellFormed schema)
    (hf : f.isCanonical schema type) (hg : g.isCanonical schema type)
    (hf' : f.written? schema type = some f') (hg' : g.written? schema type = some g')
    (h : type.precedes f g) : type.precedes f' g' := by
  have hboth : type.admitsBoth f' g' = type.admitsBoth f g := by
    rw [admitsBoth, admitsBoth, Field.written?_number hf', Field.written?_number hg']
    by_cases hnumber : f.number = g.number
    · cases hlabel : type.label? f.number with
      | none => rfl
      | some label =>
        cases label with
        | plain | optional | repeated => rfl
        | keyed =>
          rw [Field.written?_key? htype hf hlabel hf',
            Field.written?_key? htype hg (hnumber ▸ hlabel) hg']
    · simp [hnumber]
  rw [precedes, hboth, Field.written?_number hf', Field.written?_number hg']
  exact h

mutual

theorem Field.isCanonical_written? {schema : Schema} (hwf : schema.isWellFormed)
    {type : MessageSpec} : ∀ {f g : Field}, f.isCanonical schema type →
    f.written? schema type = some g → g.isCanonical schema type
  | .scalar _ _, _, h, hg => Field.eq_of_written?_scalar hg ▸ h
  | .packed _ _, _, h, hg => Option.some.inj hg ▸ h
  | .message _ fields, _, h, hg => by
    rcases Field.written?_message_cases hg with ⟨e, hkind, rfl, hset⟩ | ⟨rfl, -⟩
    · obtain ⟨hfits, -⟩ := Field.isCanonical_iff.mp h
      refine Field.isCanonical_iff.mpr ⟨?_, hset⟩
      simp only [Field.fits, hkind] at hfits ⊢
      exact Message.isCanonical_written hwf (Schema.isWellFormed_embedded hwf e) fields hfits
    · exact h

/-- What is written of a message is a message of its type. -/
theorem Message.isCanonical_written {schema : Schema} (hwf : schema.isWellFormed)
    {type : MessageSpec} (htype : type.isWellFormed schema) (m : Message)
    (h : m.isCanonical schema type) : (m.written schema type).isCanonical schema type := by
  obtain ⟨hfields, hsorted⟩ := Message.isCanonical_iff.mp h
  refine Message.isCanonical_iff.mpr ⟨fun g hg ↦ ?_, ?_⟩
  · obtain ⟨f, hf, hwritten⟩ := Message.mem_written.mp hg
    exact Field.isCanonical_written? hwf (hfields f hf) hwritten
  · rw [Message.written_eq_filterMap, List.pairwise_filterMap]
    refine hsorted.imp_of_mem fun hf hg hprecedes f' hf' g' hg' ↦ ?_
    exact MessageSpec.precedes_written htype (hfields _ hf) (hfields _ hg) hf' hg' hprecedes

end

mutual

theorem Field.written?_written? {schema : Schema} {type : MessageSpec} : ∀ {f g : Field},
    f.written? schema type = some g → g.written? schema type = some g
  | .scalar _ _, _, h => Field.eq_of_written?_scalar h ▸ h
  | .packed _ _, _, h => Option.some.inj h ▸ h
  | .message _ fields, _, h => by
    rcases Field.written?_message_cases h with ⟨e, hkind, rfl, hset⟩ | ⟨rfl, -⟩
    · simp only [Field.written?, hkind, Message.written_written fields, hset]
      rfl
    · exact h

/-- All is written of what is written of a message. -/
theorem Message.written_written {schema : Schema} {type : MessageSpec} : ∀ m : Message,
    (m.written schema type).written schema type = m.written schema type
  | [] => rfl
  | f :: rest => by
    rw [Message.written]
    cases h : f.written? schema type with
    | none => exact Message.written_written rest
    | some g =>
      rw [Option.toList_some, List.singleton_append, Message.written,
        Field.written?_written? h, Message.written_written rest]
      rfl

end

mutual

theorem Field.nesting_written?_le {schema : Schema} {type : MessageSpec} : ∀ {f g : Field},
    f.written? schema type = some g → g.nesting ≤ f.nesting
  | .scalar _ _, _, h => Field.eq_of_written?_scalar h ▸ Nat.le_refl _
  | .packed _ _, _, h => Option.some.inj h ▸ Nat.le_refl _
  | .message _ fields, _, h => by
    rcases Field.written?_message_cases h with ⟨e, -, rfl, -⟩ | ⟨rfl, -⟩
    · exact Nat.succ_le_succ (Message.nesting_written_le fields)
    · exact Nat.le_refl _

theorem Message.nesting_written_le {schema : Schema} {type : MessageSpec} : ∀ m : Message,
    (m.written schema type).nesting ≤ m.nesting
  | [] => Nat.le_refl _
  | f :: rest => by
    have hrest : (Message.written schema type rest).nesting ≤ Message.nesting rest :=
      Message.nesting_written_le rest
    rw [Message.written]
    cases h : f.written? schema type with
    | none => exact Nat.le_trans hrest (Nat.le_max_right ..)
    | some g =>
      have hfirst := Field.nesting_written?_le h
      simp only [Option.toList_some, List.singleton_append, Message.nesting]
      omega

end

mutual

theorem Field.written?_eq_self {schema : Schema} {type : MessageSpec} : ∀ {f : Field},
    f.isCanonical schema type → f.hasNegativeZero schema type = false →
      f.written? schema type = some f
  | .scalar number value, h, hsign => by
    obtain ⟨hfits, hset⟩ := Field.isCanonical_iff.mp h
    rw [Field.written?]
    split
    · next s hkind =>
      have hlabel := MessageSpec.label?_of_kind? hkind
      simp only [Field.hasNegativeZero, hkind] at hsign
      have hdefault : value.isDefault = false := by
        simpa [Field.isDefault, hlabel, FieldKind.label] using hset
      have hzero : s.isZero value = false := by simpa [hdefault] using hsign
      rw [hzero]
      rfl
    · rfl
  | .packed _ _, _, _ => rfl
  | .message number fields, h, hsign => by
    obtain ⟨hfits, hset⟩ := Field.isCanonical_iff.mp h
    rw [Field.fits] at hfits
    split at hfits
    · next e hkind =>
      simp only [Field.hasNegativeZero, hkind] at hsign
      simp only [Field.written?, hkind, Message.written_eq_self hfits hsign, hset]
      rfl
    · cases hfits

/-- All of a message is written in which no plain number is a negative zero. -/
theorem Message.written_eq_self {schema : Schema} {type : MessageSpec} : ∀ {m : Message},
    m.isCanonical schema type → m.hasNegativeZero schema type = false →
      m.written schema type = m
  | [], _, _ => rfl
  | f :: rest, h, hsign => by
    rw [Message.isCanonical, Bool.and_eq_true, Bool.and_eq_true] at h
    rw [Message.hasNegativeZero, Bool.or_eq_false_iff] at hsign
    rw [Message.written, Field.written?_eq_self h.1.1 hsign.1, Message.written_eq_self h.2 hsign.2]
    rfl

end

/-! ### Types without floating-point numbers -/

def Scalar.isFloating : Scalar → Bool
  | float | double => true
  | _ => false

def MessageSpec.isFloatFree (type : MessageSpec) : Bool :=
  type.fields.all fun f ↦ f.kind.scalar?.all fun s ↦ !s.isFloating

def Schema.isFloatFree (schema : Schema) : Bool := schema.all MessageSpec.isFloatFree

theorem Schema.isFloatFree_embedded {schema : Schema} (h : schema.isFloatFree) (e : Embedding) :
    (schema.embedded e).isFloatFree := by
  have htype : (schema.type e.typeName).isFloatFree := by
    rw [Schema.type]
    cases hfound : schema.find? fun m ↦ m.name = e.typeName with
    | none => rfl
    | some m => exact List.all_eq_true.mp h m (List.mem_of_find?_eq_some hfound)
  rw [Schema.embedded]
  split <;> exact htype

theorem Scalar.isZero_of_not_isFloating {s : Scalar} (h : s.isFloating = false) (value : Datum) :
    s.isZero value = value.isDefault := by
  cases s <;> simp_all [isFloating, isZero]

mutual

theorem Field.hasNegativeZero_eq_false {schema : Schema} (h : schema.isFloatFree)
    {type : MessageSpec} (htype : type.isFloatFree) : ∀ f : Field,
    f.hasNegativeZero schema type = false
  | .scalar number value => by
    rw [Field.hasNegativeZero]
    split
    · next s hkind =>
      obtain ⟨spec, hspec, hs⟩ := MessageSpec.exists_field? hkind
      have hfree := List.all_eq_true.mp htype spec (List.mem_of_find?_eq_some hspec)
      rw [hs] at hfree
      rw [Scalar.isZero_of_not_isFloating (by simpa [FieldKind.scalar?] using hfree),
        Bool.and_not_self]
    · rfl
  | .packed _ _ => rfl
  | .message number fields => by
    rw [Field.hasNegativeZero]
    split
    · exact Message.hasNegativeZero_eq_false h (Schema.isFloatFree_embedded h _) fields
    · rfl

theorem Message.hasNegativeZero_eq_false {schema : Schema} (h : schema.isFloatFree)
    {type : MessageSpec} (htype : type.isFloatFree) : ∀ m : Message,
    m.hasNegativeZero schema type = false
  | [] => rfl
  | f :: rest => by
    rw [Message.hasNegativeZero, Field.hasNegativeZero_eq_false h htype f,
      Message.hasNegativeZero_eq_false h htype rest]
    rfl

end

/-! ### Reading -/

/-- A message is read back as what is written of it, if that nests no deeper than messages may;
otherwise reading it fails at the limit. -/
theorem readsWithin_read_encode (hwf : schema.isWellFormed) (htype : type.isWellFormed schema)
    (h : m.isCanonical schema type) (hsize : (encode schema type m).length < wordBound) :
    ReadsWithin (m.written schema type).nesting maxDepth (m.written schema type)
      (read schema type (encode schema type m)) :=
  readsWithin_read_write hwf htype (Message.isCanonical_written hwf htype m h) hsize

end MessageBus.Wire
