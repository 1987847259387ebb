import MessageBus.Proofs.Wire.Datum
/-!
The messages of a message type. A list of fields is one when every field is known to the type, has a
value of its kind and is not set to its default, and when the fields stand in the order of their
slots, with only the values of a repeated field and the entries of a map sharing one. A field that
comes after all others is put behind them (`put_of_precedes`), and nothing is left of a message that
is cleared (`clear_eq_nil`). Messages have a nesting: how deep embedded messages go.
-/

set_option autoImplicit false
set_option relaxedAutoImplicit false

namespace MessageBus.Wire

/-- Whether the values of a scalar type can be the keys of a map. -/
def Scalar.isKey : Scalar → Bool
  | float | double | bytes => false
  | _ => true

theorem Scalar.isDefault_default (s : Scalar) : s.default.isDefault := by cases s <;> rfl

namespace MessageSpec

/-- Whether one field may stand somewhere before another one. -/
def precedes (type : MessageSpec) (f g : Field) : Bool :=
  type.slot f.number < type.slot g.number ||
    (type.slot f.number = type.slot g.number && type.admitsBoth f g)

/-- Whether all numbers fit into keys, and the entries of maps have keys. -/
def isWellFormed (schema : Schema) (type : MessageSpec) : Bool :=
  type.fields.all fun f ↦ IsFieldNumber f.number &&
    match f.kind with
    | .message e => e.label ≠ .keyed ||
      match (schema.embedded e).kind? 1 with
      | some (.plain s) => s.isKey
      | _ => false
    | _ => true

variable {schema : Schema} {type : MessageSpec} {number : Nat} {f g : Field} {spec : FieldSpec}
  {kind : FieldKind}

theorem field?_number (h : type.field? number = some spec) : spec.number = number := by
  simpa using List.find?_some h

theorem kind?_of_field? (h : type.field? number = some spec) :
    type.kind? number = some spec.kind := by
  rw [kind?, h, Option.map_some]

/-- Where no two fields go by one name, each stands at its own number. -/
theorem slot_eq (h : ∀ f ∈ type.fields, type.slot f.number = f.number) (number : Nat) :
    type.slot number = number := by
  cases hspec : type.field? number with
  | none => rw [slot, hspec]
  | some spec =>
    have hslot := h spec (List.mem_of_find?_eq_some hspec)
    rwa [field?_number hspec] at hslot

theorem label?_of_kind? (h : type.kind? number = some kind) :
    type.label? number = some kind.label := by
  rw [label?, h, Option.map_some]

theorem exists_field? (h : type.kind? number = some kind) :
    ∃ spec, type.field? number = some spec ∧ spec.kind = kind := by
  simpa [kind?] using h

theorem isFieldNumber_of_kind? (hwf : type.isWellFormed schema)
    (h : type.kind? number = some kind) : IsFieldNumber number := by
  obtain ⟨spec, hspec, -⟩ := exists_field? h
  have hfield := List.all_eq_true.mp hwf spec (List.mem_of_find?_eq_some hspec)
  rw [← field?_number hspec]
  exact of_decide_eq_true (Bool.and_eq_true_iff.mp hfield).1

/-- The entries of a map have keys. -/
theorem exists_key (hwf : type.isWellFormed schema) {e : Embedding}
    (h : type.kind? number = some (.message e)) (hlabel : e.label = .keyed) :
    ∃ s, (schema.embedded e).kind? 1 = some (.plain s) ∧ s.isKey := by
  obtain ⟨spec, hspec, hkind⟩ := exists_field? h
  have hfield := List.all_eq_true.mp hwf spec (List.mem_of_find?_eq_some hspec)
  have hkey := (Bool.and_eq_true_iff.mp hfield).2
  simp only [hkind, hlabel, ne_eq, not_true_eq_false, decide_false, Bool.false_or] at hkey
  split at hkey
  · next s hs => exact ⟨s, hs, hkey⟩
  · cases hkey

theorem precedes_of_slot_lt (h : type.slot f.number < type.slot g.number) :
    type.precedes f g := by
  rw [precedes, decide_eq_true h, Bool.true_or]

theorem slot_le_of_precedes (h : type.precedes f g) :
    type.slot f.number ≤ type.slot g.number := by
  simp only [precedes, Bool.or_eq_true, decide_eq_true_eq, Bool.and_eq_true] at h
  omega

theorem precedes_iff : type.precedes f g ↔ type.slot f.number ≤ type.slot g.number ∧
    (type.slot f.number = type.slot g.number → type.admitsBoth f g) := by
  simp only [precedes, Bool.or_eq_true, decide_eq_true_eq, Bool.and_eq_true]
  constructor
  · rintro (hlt | ⟨heq, hboth⟩)
    · exact ⟨Nat.le_of_lt hlt, fun heq ↦ absurd heq (Nat.ne_of_lt hlt)⟩
    · exact ⟨Nat.le_of_eq heq, fun _ ↦ hboth⟩
  · rintro ⟨hle, hboth⟩
    exact (Nat.lt_or_eq_of_le hle).imp_right fun heq ↦ ⟨heq, hboth heq⟩

/-- A field of which a message holds at most one stands beside no other one of its number. -/
theorem admitsBoth_eq_false (h : type.label? f.number = some .plain ∨
    type.label? f.number = some .optional) (g : Field) : type.admitsBoth g f = false := by
  rw [admitsBoth]
  by_cases hnumber : g.number = f.number
  · rcases h with h | h <;> simp [hnumber, h]
  · simp [hnumber]

theorem number_ne_of_precedes (hlabel : type.label? g.number = some .plain ∨
    type.label? g.number = some .optional) (h : type.precedes f g) : f.number ≠ g.number := by
  intro hnumber
  have hboth := (precedes_iff.mp h).2 (by rw [hnumber])
  rw [admitsBoth_eq_false hlabel] at hboth
  cases hboth

end MessageSpec

/-- Whether the message types of a schema can be written and their maps have keys. -/
def Schema.isWellFormed (schema : Schema) : Bool :=
  schema.all (MessageSpec.isWellFormed schema)

theorem Schema.isWellFormed_type {schema : Schema} (hwf : schema.isWellFormed) (name : String) :
    (schema.type name).isWellFormed schema := by
  rw [Schema.type]
  cases h : schema.find? fun m ↦ m.name = name with
  | none => rfl
  | some m => exact List.all_eq_true.mp hwf m (List.mem_of_find?_eq_some h)

theorem Schema.isWellFormed_embedded {schema : Schema} (hwf : schema.isWellFormed)
    (e : Embedding) : (schema.embedded e).isWellFormed schema := by
  have htype := Schema.isWellFormed_type hwf e.typeName
  rw [Schema.embedded]
  split <;> exact htype

mutual

/-- Whether a message type has a field, with such a value. -/
def Field.fits (schema : Schema) (type : MessageSpec) : Field → Bool
  | .scalar number value =>
    match type.kind? number with
    | some (.plain s) | some (.optional s) | some (.repeated s) => s.admits value
    | _ => false
  | .packed number values =>
    match type.kind? number with
    | some (.packed s) => values.all s.admits
    | _ => false
  | .message number fields =>
    match type.kind? number with
    | some (.message e) => Message.isCanonical schema (schema.embedded e) fields
    | _ => false

/-- Whether a list of fields is a message of a type. -/
def Message.isCanonical (schema : Schema) (type : MessageSpec) : Message → Bool
  | [] => true
  | f :: rest =>
    (f.fits schema type && !f.isDefault type) && rest.all (type.precedes f)
      && Message.isCanonical schema type rest

end

/-- Whether a message of a type may have such a field. -/
def Field.isCanonical (schema : Schema) (type : MessageSpec) (f : Field) : Bool :=
  f.fits schema type && !f.isDefault type

mutual

def Field.nesting : Field → Nat
  | .message _ fields => Message.nesting fields + 1
  | .scalar _ _ | .packed _ _ => 0

/-- How deep embedded messages go; a message without any has nesting zero. -/
def Message.nesting : Message → Nat
  | [] => 0
  | f :: rest => max f.nesting (Message.nesting rest)

end

variable {schema : Schema} {type : MessageSpec} {number : Nat}

theorem Field.isCanonical_iff {f : Field} :
    f.isCanonical schema type ↔ f.fits schema type ∧ f.isDefault type = false := by
  rw [isCanonical, Bool.and_eq_true, Bool.not_eq_true']

/-- A field that fits is known to the type. -/
theorem Field.exists_kind? {f : Field} (h : f.fits schema type) :
    ∃ kind, type.kind? f.number = some kind := by
  cases f <;> rw [fits] at h <;> split at h <;> first | exact ⟨_, ‹_›⟩ | cases h

theorem Field.isCanonical_plain {s : Scalar} {value : Datum}
    (hkind : type.kind? number = some (.plain s)) (hadmits : s.admits value)
    (hdefault : value.isDefault = false) : (Field.scalar number value).isCanonical schema type := by
  simp [isCanonical, fits, isDefault, hkind, hadmits, hdefault]

namespace Message

theorem isCanonical_iff {m : Message} : m.isCanonical schema type ↔
    (∀ f ∈ m, f.isCanonical schema type) ∧ m.Pairwise fun f g ↦ type.precedes f g := by
  induction m with
  | nil => simp [isCanonical]
  | cons f rest ih =>
    rw [isCanonical, Bool.and_eq_true, Bool.and_eq_true, List.all_eq_true, ih,
      List.forall_mem_cons, List.pairwise_cons]
    exact and_and_and_comm

/-! ### Setting fields -/

theorem place_of_forall_le {f : Field} {m : Message}
    (h : ∀ g ∈ m, type.slot g.number ≤ type.slot f.number) : place type f m = m ++ [f] := by
  induction m with
  | nil => rfl
  | cons g rest ih =>
    obtain ⟨hg, hrest⟩ := List.forall_mem_cons.mp h
    rw [place, if_pos hg, ih hrest, List.cons_append]

/-- A field that comes after all others and is not set to its default is put behind them. -/
theorem put_of_precedes {f : Field} {m : Message} (h : ∀ g ∈ m, type.precedes g f)
    (hset : f.isDefault type = false) : put type f m = m ++ [f] := by
  have hretain : retain type f m = m := by
    refine List.filter_eq_self.mpr fun g hg ↦ ?_
    simp only [Bool.or_eq_true, decide_eq_true_eq]
    exact (Decidable.em _).imp_right fun heq ↦
      (MessageSpec.precedes_iff.mp (h g hg)).2 (Decidable.not_not.mp heq)
  rw [put, hset, hretain]
  exact place_of_forall_le fun g hg ↦ MessageSpec.slot_le_of_precedes (h g hg)

theorem field?_eq_none {m : Message} (h : ∀ g ∈ m, g.number ≠ number) :
    m.field? number = none := by
  simpa [field?] using h

/-! ### Fields that may be unset -/

theorem field?_ofFields_nil (number : Nat) : (ofFields []).field? number = none := rfl

theorem field?_ofFields_plain (number other : Nat) (value : Datum) (rest : List (Option Field)) :
    (ofFields (plain number value :: rest)).field? other =
      if number = other then (plain number value).or ((ofFields rest).field? other)
      else (ofFields rest).field? other := by
  by_cases hn : number = other <;> by_cases hv : value.isDefault <;>
    simp [ofFields, plain, field?, Field.number, hn, hv]

theorem field?_ofFields_some (f : Field) (other : Nat) (rest : List (Option Field)) :
    (ofFields (some f :: rest)).field? other =
      if f.number = other then some f else (ofFields rest).field? other := by
  by_cases hn : f.number = other <;> simp [ofFields, field?, hn]

/-! ### Clearing -/

theorem mem_retain {f g : Field} {m : Message} : g ∈ retain type f m ↔
    g ∈ m ∧ (type.slot g.number ≠ type.slot f.number ∨ type.admitsBoth g f) := by
  rw [retain, List.mem_filter, Bool.or_eq_true, decide_eq_true_eq]

theorem mem_erase {g : Field} {m : Message} : g ∈ erase number m ↔ g ∈ m ∧ g.number ≠ number := by
  rw [erase, List.mem_filter, decide_eq_true_eq]

/-- To set a plain field to its default is to unset it. -/
theorem mem_put_default {f g : Field} {m : Message} (hdefault : f.isDefault type)
    (hlabel : type.label? f.number = some .plain) (h : g ∈ put type f m) :
    g ∈ m ∧ g.number ≠ f.number := by
  rw [put, if_pos hdefault, mem_retain] at h
  obtain ⟨hg, hother⟩ := h
  refine ⟨hg, fun hnumber ↦ ?_⟩
  rw [MessageSpec.admitsBoth_eq_false (.inl hlabel), hnumber] at hother
  exact hother.elim (fun hne ↦ hne rfl) Bool.noConfusion

/-- A field of the type that is reset is gone; whether it is one, its kind decides. -/
theorem mem_reset {g : Field} {m : Message} {kind : FieldKind}
    (hkind : type.kind? number = some kind) (h : g ∈ reset type number m) :
    g ∈ m ∧ g.number ≠ number := by
  have hlabel := MessageSpec.label?_of_kind? hkind
  rw [reset, hkind] at h
  cases kind with
  | plain s =>
    refine mem_put_default (f := .scalar number s.default) ?_ hlabel h
    rw [Field.isDefault, hlabel, Scalar.isDefault_default]
    rfl
  | optional s | repeated s | packed s => exact mem_erase.mp h
  | message e =>
    cases he : e.label with
    | plain =>
      rw [FieldKind.label, he] at hlabel
      simp only [he] at h
      refine mem_put_default (f := .message number []) ?_ hlabel h
      rw [Field.isDefault, hlabel]
      rfl
    | optional | repeated | keyed =>
      simp only [he] at h
      exact mem_erase.mp h

theorem mem_foldl_reset {g : Field} {specs : List FieldSpec} {m : Message}
    (hspecs : ∀ f ∈ specs, ∃ kind, type.kind? f.number = some kind)
    (h : g ∈ specs.foldl (fun m f ↦ reset type f.number m) m) :
    g ∈ m ∧ ∀ f ∈ specs, g.number ≠ f.number := by
  induction specs generalizing m with
  | nil => exact ⟨h, List.forall_mem_nil _⟩
  | cons f rest ih =>
    obtain ⟨⟨kind, hkind⟩, hrest⟩ := List.forall_mem_cons.mp hspecs
    obtain ⟨hg, hothers⟩ := ih hrest h
    obtain ⟨hg, hnumber⟩ := mem_reset hkind hg
    exact ⟨hg, List.forall_mem_cons.mpr ⟨hnumber, hothers⟩⟩

/-- Nothing is left of a message whose fields are all known to the type that it is cleared by. -/
theorem clear_eq_nil {m : Message} (h : ∀ g ∈ m, ∃ kind, type.kind? g.number = some kind) :
    clear type m = [] := by
  have hspecs : ∀ f ∈ type.fields, ∃ kind, type.kind? f.number = some kind := by
    intro f hf
    have hfound : (type.field? f.number).isSome :=
      List.find?_isSome.mpr ⟨f, hf, decide_eq_true rfl⟩
    obtain ⟨spec, hspec⟩ := Option.isSome_iff_exists.mp hfound
    exact ⟨spec.kind, MessageSpec.kind?_of_field? hspec⟩
  refine List.eq_nil_iff_forall_not_mem.mpr fun g hg ↦ ?_
  obtain ⟨hg, hothers⟩ := mem_foldl_reset hspecs hg
  obtain ⟨kind, hkind⟩ := h g hg
  obtain ⟨spec, hspec, -⟩ := MessageSpec.exists_field? hkind
  exact hothers spec (List.mem_of_find?_eq_some hspec) (MessageSpec.field?_number hspec).symm

theorem clear_of_isCanonical {m : Message} (h : m.isCanonical schema type) :
    clear type m = [] :=
  clear_eq_nil fun g hg ↦
    Field.exists_kind? (Field.isCanonical_iff.mp ((isCanonical_iff.mp h).1 g hg)).1

end Message

end MessageBus.Wire
