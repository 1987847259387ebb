import MessageBus.Broker.Sweep
import MessageBus.Proofs.Uuid
/-!
What one pass does to the messages it walks over. Each of them stays untouched, or stays and is
handed out under a receipt of the pass (`mem_scan`), or is removed, for which its receives must be
used up. No message is made, and none is there twice afterwards: those that are kept and those that
are removed are together the messages that were there (`perm_scan`).
-/

set_option autoImplicit false
set_option relaxedAutoImplicit false

namespace MessageBus.Sweep

section Scan

variable (t : Terms) (room index : Nat) (messages : List StoredMessage)

theorem perm_scan :
    ((scan t room index messages).kept.map (·.id) ++
      (scan t room index messages).dead.map (·.id)).Perm (messages.map (·.id)) := by
  fun_induction scan t room index messages with
  | case1 => simp
  | case2 => simp
  | case3 => simpa [keep]
  | case4 room index m rest hvisible hexhausted ih =>
    simp only [remove, List.map_cons]
    exact List.perm_middle.trans (ih.cons m.id)
  | case5 => simpa [take, StoredMessage.taken]

theorem kept_sublist_scan :
    ((scan t room index messages).kept.map (·.id)).Sublist (messages.map (·.id)) := by
  fun_induction scan t room index messages with
  | case1 | case2 => simp
  | case3 => simpa [keep]
  | case4 => simp_all [remove]
  | case5 => simpa [take, StoredMessage.taken]

theorem received_sublist_scan :
    ((scan t room index messages).received.map (·.id)).Sublist (messages.map (·.id)) := by
  fun_induction scan t room index messages with
  | case1 | case2 => simp
  | case3 => simp_all [keep]
  | case4 => simp_all [remove]
  | case5 => simpa [take]

variable {room index messages}

/-- How a message is handed out in a pass. -/
structure Takes (m : StoredMessage) (r : Received) : Prop where
  visible : m.isVisible t.moment.millis
  usable : t.isExhausted m = false
  id_eq : r.id = m.id
  body_eq : r.body = m.body

variable {t}

theorem mem_of_mem_dead {m : StoredMessage} (h : m ∈ (scan t room index messages).dead) :
    m ∈ messages ∧ m.isVisible t.moment.millis ∧ t.isExhausted m = true := by
  fun_induction scan t room index messages with
  | case1 | case2 => simp at h
  | case3 room index first rest hvisible ih => exact (ih h).imp_left (List.mem_cons_of_mem _)
  | case4 room index first rest hvisible hexhausted ih =>
    simp only [remove, List.mem_cons] at h
    rcases h with rfl | h
    · exact ⟨by simp, by simpa using hvisible, hexhausted⟩
    · exact (ih h).imp_left (List.mem_cons_of_mem _)
  | case5 room index first rest hvisible hexhausted ih =>
    exact (ih h).imp_left (List.mem_cons_of_mem _)

/-- A message that is handed out was there to be taken, and stays under its new receipt. -/
theorem exists_of_mem_received {r : Received} (h : r ∈ (scan t room index messages).received) :
    ∃ m ∈ messages, Takes t m r ∧ (∃ i, index ≤ i ∧ r.receipt = t.moment.id i) ∧
      m.taken r.receipt (t.moment.millis + t.visibilityMs) ∈ (scan t room index messages).kept := by
  fun_induction scan t room index messages with
  | case1 | case2 => simp at h
  | case3 room index first rest hvisible ih =>
    obtain ⟨m, hm, htakes, hreceipt, hkept⟩ := ih h
    exact ⟨m, List.mem_cons_of_mem _ hm, htakes, hreceipt, List.mem_cons_of_mem _ hkept⟩
  | case4 room index first rest hvisible hexhausted ih =>
    obtain ⟨m, hm, htakes, hreceipt, hkept⟩ := ih h
    exact ⟨m, List.mem_cons_of_mem _ hm, htakes, hreceipt, hkept⟩
  | case5 room index first rest hvisible hexhausted ih =>
    simp only [take, List.mem_cons] at h
    rcases h with rfl | h
    · exact ⟨first, by simp, ⟨by simpa using hvisible, by simpa using hexhausted, rfl, rfl⟩,
        ⟨index, Nat.le_refl _, rfl⟩, List.mem_cons_self⟩
    · obtain ⟨m, hm, htakes, ⟨i, hi, hreceipt⟩, hkept⟩ := ih h
      exact ⟨m, List.mem_cons_of_mem _ hm, htakes, ⟨i, by omega, hreceipt⟩,
        List.mem_cons_of_mem _ hkept⟩

/-- A message that is kept is as it was, or was handed out. -/
theorem mem_of_mem_kept {m : StoredMessage} (h : m ∈ (scan t room index messages).kept) :
    m ∈ messages ∨ ∃ first ∈ messages, ∃ r ∈ (scan t room index messages).received,
      Takes t first r ∧ m = first.taken r.receipt (t.moment.millis + t.visibilityMs) := by
  fun_induction scan t room index messages with
  | case1 => exact .inl h
  | case2 => simp at h
  | case3 room index first rest hvisible ih =>
    simp only [keep, List.mem_cons] at h
    rcases h with rfl | h
    · exact .inl List.mem_cons_self
    · rcases ih h with hm | ⟨old, hold, r, hr, hm⟩
      · exact .inl (List.mem_cons_of_mem _ hm)
      · exact .inr ⟨old, List.mem_cons_of_mem _ hold, r, hr, hm⟩
  | case4 room index first rest hvisible hexhausted ih =>
    rcases ih h with hm | ⟨old, hold, r, hr, hm⟩
    · exact .inl (List.mem_cons_of_mem _ hm)
    · exact .inr ⟨old, List.mem_cons_of_mem _ hold, r, hr, hm⟩
  | case5 room index first rest hvisible hexhausted ih =>
    simp only [take, List.mem_cons] at h
    rcases h with rfl | h
    · exact .inr ⟨first, List.mem_cons_self, ⟨first.id, first.body, t.moment.id index⟩,
        List.mem_cons_self, ⟨by simpa using hvisible, by simpa using hexhausted, rfl, rfl⟩, rfl⟩
    · rcases ih h with hm | ⟨old, hold, r, hr, hm⟩
      · exact .inl (List.mem_cons_of_mem _ hm)
      · exact .inr ⟨old, List.mem_cons_of_mem _ hold, r, List.mem_cons_of_mem _ hr, hm⟩

/-- A message stays as it was, or is handed out and stays, or is removed. -/
theorem mem_scan {m : StoredMessage} (h : m ∈ messages) :
    m ∈ (scan t room index messages).kept ∨
      (∃ r ∈ (scan t room index messages).received, Takes t m r ∧
        m.taken r.receipt (t.moment.millis + t.visibilityMs) ∈
          (scan t room index messages).kept) ∨
      m ∈ (scan t room index messages).dead := by
  fun_induction scan t room index messages with
  | case1 => exact .inl h
  | case2 => simp at h
  | case3 room index first rest hvisible ih =>
    rcases List.mem_cons.mp h with rfl | h
    · exact .inl List.mem_cons_self
    · rcases ih h with hm | ⟨r, hr, htakes, hm⟩ | hm
      · exact .inl (List.mem_cons_of_mem _ hm)
      · exact .inr (.inl ⟨r, hr, htakes, List.mem_cons_of_mem _ hm⟩)
      · exact .inr (.inr hm)
  | case4 room index first rest hvisible hexhausted ih =>
    rcases List.mem_cons.mp h with rfl | h
    · exact .inr (.inr List.mem_cons_self)
    · rcases ih h with hm | ⟨r, hr, htakes, hm⟩ | hm
      · exact .inl hm
      · exact .inr (.inl ⟨r, hr, htakes, hm⟩)
      · exact .inr (.inr (List.mem_cons_of_mem _ hm))
  | case5 room index first rest hvisible hexhausted ih =>
    rcases List.mem_cons.mp h with rfl | h
    · exact .inr (.inl ⟨⟨m.id, m.body, t.moment.id index⟩, List.mem_cons_self,
        ⟨by simpa using hvisible, by simpa using hexhausted, rfl, rfl⟩, List.mem_cons_self⟩)
    · rcases ih h with hm | ⟨r, hr, htakes, hm⟩ | hm
      · exact .inl (List.mem_cons_of_mem _ hm)
      · exact .inr (.inl ⟨r, List.mem_cons_of_mem _ hr, htakes, List.mem_cons_of_mem _ hm⟩)
      · exact .inr (.inr hm)

/-- A pass with room for all messages hands out each that is there to be taken. -/
theorem exists_mem_received {m : StoredMessage} (h : m ∈ messages)
    (hroom : messages.length ≤ room) (hvisible : m.isVisible t.moment.millis)
    (husable : t.isExhausted m = false) :
    ∃ r ∈ (scan t room index messages).received, r.id = m.id := by
  fun_induction scan t room index messages with
  | case1 => exact absurd (List.length_pos_of_mem h) (Nat.not_lt.mpr hroom)
  | case2 => simp at h
  | case3 room index first rest hhidden ih =>
    rcases List.mem_cons.mp h with rfl | h
    · simp [hvisible] at hhidden
    · exact ih h (Nat.le_of_succ_le hroom)
  | case4 room index first rest hfirst hexhausted ih =>
    rcases List.mem_cons.mp h with rfl | h
    · exact absurd (husable.symm.trans hexhausted) Bool.false_ne_true
    · exact ih h (Nat.le_of_succ_le hroom)
  | case5 room index first rest hfirst hexhausted ih =>
    rcases List.mem_cons.mp h with rfl | h
    · exact ⟨_, List.mem_cons_self, rfl⟩
    · obtain ⟨r, hr, hid⟩ := ih h (Nat.le_of_succ_le_succ hroom)
      exact ⟨r, List.mem_cons_of_mem _ hr, hid⟩

/-- The receipts of a pass are different. -/
theorem nodup_receipts_scan :
    ((scan t room index messages).received.map (·.receipt)).Nodup := by
  fun_induction scan t room index messages with
  | case1 | case2 => simp
  | case3 room index first rest hvisible ih => exact ih
  | case4 room index first rest hvisible hexhausted ih => exact ih
  | case5 room index first rest hvisible hexhausted ih =>
    simp only [take, List.map_cons, List.nodup_cons]
    refine ⟨?_, ih⟩
    intro hmem
    obtain ⟨r, hr, hreceipt⟩ := List.mem_map.mp hmem
    obtain ⟨m, _, _, ⟨i, hi, hid⟩, _⟩ := exists_of_mem_received hr
    have := Moment.id_injective (hid.symm.trans hreceipt)
    omega

end Scan

end MessageBus.Sweep
