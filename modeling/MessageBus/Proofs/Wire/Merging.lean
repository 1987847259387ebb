import MessageBus.Proofs.Wire.Canonical
/-!
Messages that take in more fields. A message that is canonical and does not nest too deep stays so,
whatever field is set in it that fits its type and does not nest too deep itself (`IsWithin.put`).
-/

set_option autoImplicit false
set_option relaxedAutoImplicit false

namespace MessageBus.Wire

variable {schema : Schema} {type : MessageSpec} {depth number : Nat} {f : Field} {m : Message}

/-- Whether a message type has a field with such a value, which nests only so deep. -/
structure Field.FitsWithin (schema : Schema) (type : MessageSpec) (depth : Nat) (f : Field) :
    Prop where
  fits : f.fits schema type
  nesting_le : f.nesting ≤ depth

namespace Message

/-- Whether a list of fields is a message of a type, which nests only so deep. -/
structure IsWithin (schema : Schema) (type : MessageSpec) (depth : Nat) (m : Message) : Prop where
  fields : ∀ f ∈ m, f.FitsWithin schema type depth
  areSet : ∀ f ∈ m, f.isDefault type = false
  sorted : m.Pairwise fun f g ↦ type.precedes f g

theorem nesting_le_iff : Message.nesting m ≤ depth ↔ ∀ f ∈ m, f.nesting ≤ depth := by
  induction m with
  | nil => simp [Message.nesting]
  | cons f rest ih => rw [Message.nesting, Nat.max_le, ih, List.forall_mem_cons]

theorem isWithin_iff :
    m.IsWithin schema type depth ↔ m.isCanonical schema type ∧ Message.nesting m ≤ depth := by
  rw [isCanonical_iff, nesting_le_iff]
  constructor
  · intro h
    exact ⟨⟨fun f hf ↦ Field.isCanonical_iff.mpr ⟨(h.fields f hf).fits, h.areSet f hf⟩, h.sorted⟩,
      fun f hf ↦ (h.fields f hf).nesting_le⟩
  · rintro ⟨⟨hcanonical, hsorted⟩, hnesting⟩
    have hfields f (hf : f ∈ m) := Field.isCanonical_iff.mp (hcanonical f hf)
    exact ⟨fun f hf ↦ ⟨(hfields f hf).1, hnesting f hf⟩, fun f hf ↦ (hfields f hf).2, hsorted⟩

theorem mem_place {g : Field} : g ∈ place type f m ↔ g = f ∨ g ∈ m := by
  induction m with
  | nil => simp [place]
  | cons g rest ih =>
    rw [place]
    split
    · rw [List.mem_cons, ih, List.mem_cons]
      exact or_left_comm
    · rw [List.mem_cons]

/-- A field is put where it belongs, if it may stand beside the fields that share its slot. -/
theorem pairwise_place (hsorted : m.Pairwise fun f g ↦ type.precedes f g)
    (hboth : ∀ g ∈ m, type.slot g.number = type.slot f.number → type.admitsBoth g f) :
    (place type f m).Pairwise fun f g ↦ type.precedes f g := by
  induction m with
  | nil => exact List.pairwise_singleton ..
  | cons g rest ih =>
    obtain ⟨hfirst, hrest⟩ := List.pairwise_cons.mp hsorted
    obtain ⟨hg, hothers⟩ := List.forall_mem_cons.mp hboth
    rw [place]
    split
    · next hle =>
      refine .cons (fun k hk ↦ ?_) (ih hrest hothers)
      rcases mem_place.mp hk with rfl | hk
      · exact MessageSpec.precedes_iff.mpr ⟨hle, hg⟩
      · exact hfirst k hk
    · next hlt =>
      have hafter := Nat.lt_of_not_le hlt
      refine .cons (fun k hk ↦ MessageSpec.precedes_of_slot_lt ?_) hsorted
      rcases List.mem_cons.mp hk with rfl | hk
      · exact hafter
      · exact Nat.lt_of_lt_of_le hafter (MessageSpec.slot_le_of_precedes (hfirst k hk))

namespace IsWithin

theorem nil : IsWithin schema type depth [] := ⟨by simp, by simp, .nil⟩

theorem retain (h : m.IsWithin schema type depth) (f : Field) :
    (Message.retain type f m).IsWithin schema type depth :=
  have hsub : (Message.retain type f m).Sublist m := List.filter_sublist
  ⟨fun g hg ↦ h.fields g (hsub.subset hg), fun g hg ↦ h.areSet g (hsub.subset hg),
    h.sorted.sublist hsub⟩

theorem put (h : m.IsWithin schema type depth) (hf : f.FitsWithin schema type depth) :
    (Message.put type f m).IsWithin schema type depth := by
  have hretain := h.retain f
  rw [Message.put]
  split
  · exact hretain
  · next hset =>
    refine ⟨fun g hg ↦ ?_, fun g hg ↦ ?_, pairwise_place hretain.sorted fun g hg hslot ↦ ?_⟩
    · rcases mem_place.mp hg with rfl | hg
      · exact hf
      · exact hretain.fields g hg
    · rcases mem_place.mp hg with rfl | hg
      · exact Bool.eq_false_iff.mpr hset
      · exact hretain.areSet g hg
    · exact (mem_retain.mp hg).2.resolve_left fun hne ↦ hne hslot

/-- The field of a number, if the message has one. -/
theorem field? (h : m.IsWithin schema type depth) (hf : m.field? number = some f) :
    f.FitsWithin schema type depth ∧ f.number = number :=
  ⟨h.fields f (List.mem_of_find?_eq_some hf), by simpa using List.find?_some hf⟩

theorem message? (h : m.IsWithin schema type (depth + 1)) {e : Embedding}
    (hkind : type.kind? number = some (.message e)) :
    ((m.message? number).getD []).IsWithin schema (schema.embedded e) depth := by
  rw [Message.message?]
  split
  · next fields hf =>
    obtain ⟨⟨hfits, hnesting⟩, rfl⟩ := h.field? hf
    simp only [Field.fits, Field.number, Field.nesting] at hfits hkind hnesting
    rw [hkind] at hfits
    exact isWithin_iff.mpr ⟨hfits, Nat.le_of_succ_le_succ hnesting⟩
  · exact .nil

theorem held (h : m.IsWithin schema type (depth + 1)) {e : Embedding}
    (hkind : type.kind? number = some (.message e)) :
    (m.held e number).IsWithin schema (schema.embedded e) depth := by
  rw [Message.held]
  split <;> first | exact h.message? hkind | exact .nil

end IsWithin

end Message

namespace Field

end Field

end MessageBus.Wire
