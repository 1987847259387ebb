import MessageBus.Moment
import MessageBus.Proofs.Text.Hex
import MessageBus.Proofs.Text.Split
/-!
Identifiers are distinct. Each of the groups that an identifier is made of can be read off its text,
so identifiers with different numbers have different texts, and one of a moment to come is none of
those that were made before.
-/

set_option autoImplicit false
set_option relaxedAutoImplicit false

namespace MessageBus

namespace Uuid

theorem hyphen_not_mem_groups (serial index : Nat) :
    ∀ group ∈ groups serial index, '-' ∉ group := by
  simp only [groups, List.forall_mem_cons]
  exact ⟨Hex.hyphen_not_mem_padded 8 serial, by decide, by decide, by decide,
    Hex.hyphen_not_mem_padded 12 index, by simp⟩

theorem text_injective {serial index serial' index' : Nat}
    (h : text serial index = text serial' index') : serial = serial' ∧ index = index' := by
  have hlist : List.intercalate ['-'] (groups serial index) =
      List.intercalate ['-'] (groups serial' index') := by
    simpa [text] using congrArg String.toList h
  have hgroups := congrArg (splitAtChar '-') hlist
  rw [splitAtChar_intercalate (by simp [groups]) (hyphen_not_mem_groups serial index),
    splitAtChar_intercalate (by simp [groups]) (hyphen_not_mem_groups serial' index')] at hgroups
  simp only [groups, List.cons.injEq, and_true, true_and] at hgroups
  exact ⟨Hex.padded_injective hgroups.1, Hex.padded_injective hgroups.2⟩

end Uuid

/-- Whether an identifier was made at a moment before the one of a serial number. -/
def IsMadeBefore (serial : Nat) (id : String) : Prop :=
  ∃ earlier index, earlier < serial ∧ id = Uuid.text earlier index

theorem IsMadeBefore.mono {serial later : Nat} {id : String} (h : IsMadeBefore serial id)
    (hle : serial ≤ later) : IsMadeBefore later id := by
  obtain ⟨earlier, index, hlt, rfl⟩ := h
  exact ⟨earlier, index, Nat.lt_of_lt_of_le hlt hle, rfl⟩

theorem Moment.isMadeBefore_id (m : Moment) (index : Nat) :
    IsMadeBefore (m.serial + 1) (m.id index) :=
  ⟨m.serial, index, Nat.lt_succ_self _, rfl⟩

/-- An identifier of a moment was not made before it. -/
theorem Moment.id_ne_of_isMadeBefore {m : Moment} {id : String} (h : IsMadeBefore m.serial id)
    (index : Nat) : m.id index ≠ id := by
  obtain ⟨earlier, other, hlt, rfl⟩ := h
  intro heq
  exact Nat.ne_of_gt hlt (Uuid.text_injective heq).1

theorem Moment.id_injective {m : Moment} {index other : Nat} (h : m.id index = m.id other) :
    index = other :=
  (Uuid.text_injective h).2

end MessageBus
