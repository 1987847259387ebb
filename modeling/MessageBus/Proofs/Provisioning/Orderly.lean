import MessageBus.Proofs.Provisioning.Resolution
/-!
What keeps the calls on one store in order (`Resolutions.Orderly`): a key is pending under a ticket
exactly when a call holds it under that ticket, no two calls hold one ticket, and who holds a key
has a ticket without an outcome and a key without an address. An address is there when somebody has
made it, and who has waited was told what somebody else's initialization came to. Every step keeps
this order (`Step.orderly`). The call that steps keeps to its store and forgets nothing (`GoesOn`);
it leaves what is held and stored as it was (`Orderly.aside`), or it takes a vacant key
(`Orderly.take`), or it ends the initialization of a key that it holds (`Orderly.settle`).
-/

set_option autoImplicit false
set_option relaxedAutoImplicit false

namespace MessageBus.Resolutions

variable {name : StoreName} {s t : Resolutions} {c c' : Resolution} {i j : Nat}
  {key other : ResourceKey} {ticket : Nat} {outcome : Except Error String} {store : Store}

structure Orderly (name : StoreName) (s : Resolutions) : Prop where
  stores : ∀ {c}, c ∈ s.calls → c.registry.store = name
  pending_iff : ∀ {key ticket},
    s.store.pending.find? key = some ticket ↔ ∃ i, s.Makes i key ticket
  unique : ∀ {i j key other ticket}, s.Makes i key ticket → s.Makes j other ticket → i = j
  fresh : ∀ {i key ticket}, s.Makes i key ticket → ticket < s.store.tickets ∧
    s.store.outcomes.find? ticket = none ∧ s.store.get? key = none
  spent : ∀ {ticket outcome},
    s.store.outcomes.find? ticket = some outcome → ticket < s.store.tickets
  waits : ∀ {c key ticket}, c ∈ s.calls → c.hold = .waiting key ticket →
    (∃ i, s.Makes i key ticket) ∨
      ∃ outcome, s.store.outcomes.find? ticket = some outcome ∧ s.Settled key ticket outcome
  awaited : ∀ {c ticket outcome}, c ∈ s.calls → ⟨.await name ticket, outcome⟩ ∈ c.past →
    ∃ key, ⟨.lookup name key, .busy ticket⟩ ∈ c.past ∧ s.Settled key ticket outcome
  cached_iff : ∀ {key address},
    s.store.get? key = some address ↔ ∃ ticket, s.Settled key ticket (.ok address)

theorem orderly_start (name : StoreName) : Orderly name {} where
  stores hc := absurd hc List.not_mem_nil
  pending_iff := iff_of_false nofun nofun
  unique := nofun
  fresh := nofun
  spent := nofun
  waits hc := absurd hc List.not_mem_nil
  awaited hc := absurd hc List.not_mem_nil
  cached_iff := iff_of_false nofun nofun

/-! ### What a step of one call changes -/

/-- A call goes on from `c` to `c'`: it keeps to its store and to what it has settled, and whatever
it has been told was settled by a call. -/
structure GoesOn (name : StoreName) (s : Resolutions) (i : Nat) (c c' : Resolution) : Prop where
  call : s.calls[i]? = some c
  store : c'.registry.store = c.registry.store
  settled : ∀ {key ticket outcome}, c.Settled key ticket outcome → c'.Settled key ticket outcome
  awaited : ∀ {ticket outcome}, ⟨.await name ticket, outcome⟩ ∈ c'.past →
    ∃ key, ⟨.lookup name key, .busy ticket⟩ ∈ c'.past ∧ s.Settled key ticket outcome

theorem mem_calls (hc : s.calls[i]? = some c) : c ∈ s.calls := List.mem_of_getElem? hc

theorem getElem?_set_calls (hc : s.calls[i]? = some c) : (s.calls.set i c')[i]? = some c' :=
  List.getElem?_set_self (List.getElem?_eq_some_iff.mp hc).1

theorem makes_iff (hc : s.calls[i]? = some c) :
    s.Makes i key ticket ↔ ∃ during, c.hold = .making key ticket during := by
  constructor
  · rintro ⟨d, during, hd, hhold⟩
    cases hc.symm.trans hd
    exact ⟨during, hhold⟩
  · rintro ⟨during, hhold⟩
    exact ⟨c, during, hc, hhold⟩

theorem makes_set_self (hc : s.calls[i]? = some c) :
    (⟨store, s.calls.set i c'⟩ : Resolutions).Makes i key ticket ↔
      ∃ during, c'.hold = .making key ticket during :=
  makes_iff (getElem?_set_calls hc)

theorem makes_set_of_ne (hne : i ≠ j) :
    (⟨store, s.calls.set i c'⟩ : Resolutions).Makes j key ticket ↔ s.Makes j key ticket := by
  unfold Makes
  rw [List.getElem?_set_ne hne]

theorem Settled.of_set
    (h : (⟨store, s.calls.set i c'⟩ : Resolutions).Settled key ticket outcome) :
    s.Settled key ticket outcome ∨ c'.Settled key ticket outcome := by
  obtain ⟨d, hd, hmade⟩ := h
  obtain hd | rfl := List.mem_or_eq_of_mem_set hd
  · exact .inl ⟨d, hd, hmade⟩
  · exact .inr hmade

namespace GoesOn

theorem settled_set (g : s.GoesOn name i c c') (h : s.Settled key ticket outcome) :
    (⟨store, s.calls.set i c'⟩ : Resolutions).Settled key ticket outcome := by
  obtain ⟨d, hd, hmade⟩ := h
  obtain ⟨j, hj⟩ := List.mem_iff_getElem?.mp hd
  by_cases hij : i = j
  · subst hij
    cases g.call.symm.trans hj
    exact ⟨c', List.mem_of_getElem? (getElem?_set_calls g.call), g.settled hmade⟩
  · exact ⟨d, List.mem_of_getElem? ((List.getElem?_set_ne hij).trans hj), hmade⟩

/-- A call that settles nothing leaves what is settled as it was. -/
theorem settled_set_iff (g : s.GoesOn name i c c')
    (hnone : ∀ {key ticket outcome}, c'.Settled key ticket outcome →
      c.Settled key ticket outcome) :
    (⟨store, s.calls.set i c'⟩ : Resolutions).Settled key ticket outcome ↔
      s.Settled key ticket outcome := by
  constructor
  · intro hset
    exact hset.of_set.elim id fun hmade ↦ ⟨c, mem_calls g.call, hnone hmade⟩
  · exact g.settled_set

end GoesOn

namespace Orderly

theorem stores_set (h : s.Orderly name) (g : s.GoesOn name i c c') {d : Resolution}
    (hd : d ∈ s.calls.set i c') : d.registry.store = name := by
  obtain hd | rfl := List.mem_or_eq_of_mem_set hd
  · exact h.stores hd
  · exact g.store.trans (h.stores (mem_calls g.call))

theorem awaited_set (h : s.Orderly name) (g : s.GoesOn name i c c') {d : Resolution}
    (hd : d ∈ s.calls.set i c') (hmem : ⟨.await name ticket, outcome⟩ ∈ d.past) :
    ∃ key, ⟨.lookup name key, .busy ticket⟩ ∈ d.past ∧
      (⟨store, s.calls.set i c'⟩ : Resolutions).Settled key ticket outcome := by
  have hold : ∃ key, ⟨.lookup name key, .busy ticket⟩ ∈ d.past ∧
      s.Settled key ticket outcome := by
    obtain hd | rfl := List.mem_or_eq_of_mem_set hd
    · exact h.awaited hd hmem
    · exact g.awaited hmem
  obtain ⟨key, hbusy, hmade⟩ := hold
  exact ⟨key, hbusy, g.settled_set hmade⟩

theorem ticket_unique (h : s.Orderly name) {other : Nat} (hi : s.Makes i key ticket)
    (hj : s.Makes j key other) : ticket = other :=
  Option.some.inj ((h.pending_iff.mpr ⟨i, hi⟩).symm.trans (h.pending_iff.mpr ⟨j, hj⟩))

/-- No two calls hold one key. -/
theorem eq_of_makes (h : s.Orderly name) {other : Nat} (hi : s.Makes i key ticket)
    (hj : s.Makes j key other) : i = j := by
  obtain rfl := h.ticket_unique hi hj
  exact h.unique hi hj

/-- A step that takes no key and ends no initialization. -/
theorem aside (h : s.Orderly name) (g : s.GoesOn name i c c')
    (hhold : ∀ key ticket, (∃ during, c'.hold = .making key ticket during) ↔
      ∃ during, c.hold = .making key ticket during)
    (hnone : ∀ {key ticket outcome}, c'.Settled key ticket outcome →
      c.Settled key ticket outcome)
    (hwaits : ∀ key ticket, c'.hold = .waiting key ticket → (∃ i, s.Makes i key ticket) ∨
      ∃ outcome, s.store.outcomes.find? ticket = some outcome ∧ s.Settled key ticket outcome) :
    Orderly name ⟨s.store, s.calls.set i c'⟩ := by
  have hmakes (j : Nat) (key : ResourceKey) (ticket : Nat) :
      (⟨s.store, s.calls.set i c'⟩ : Resolutions).Makes j key ticket ↔ s.Makes j key ticket := by
    by_cases hij : i = j
    · subst hij
      rw [makes_set_self g.call, hhold, makes_iff g.call]
    · exact makes_set_of_ne hij
  constructor
  · exact h.stores_set g
  · simp only [hmakes]
    exact h.pending_iff
  · simp only [hmakes]
    exact h.unique
  · simp only [hmakes]
    exact h.fresh
  · exact h.spent
  · intro d key ticket hd
    simp only [hmakes, g.settled_set_iff hnone]
    obtain hd | rfl := List.mem_or_eq_of_mem_set hd
    · exact h.waits hd
    · exact hwaits key ticket
  · exact h.awaited_set g
  · simp only [g.settled_set_iff hnone]
    exact h.cached_iff

/-! ### A call takes a key that is vacant -/

section Take

variable (h : s.Orderly name) (g : s.GoesOn name i c c')
  (hfree : ∀ key ticket during, c.hold ≠ .making key ticket during)
  (hhold : c'.hold = .making key s.store.tickets [])

include g hfree hhold

theorem makes_taken_iff : (⟨store, s.calls.set i c'⟩ : Resolutions).Makes j other ticket ↔
    (j = i ∧ other = key ∧ ticket = s.store.tickets) ∨ s.Makes j other ticket := by
  by_cases hij : i = j
  · subst hij
    have hnot : ¬ s.Makes i other ticket := by
      rw [makes_iff g.call]
      rintro ⟨during, hmaking⟩
      exact hfree _ _ _ hmaking
    rw [makes_set_self g.call, hhold, or_iff_left hnot]
    constructor
    · rintro ⟨during, hmaking⟩
      cases hmaking
      exact ⟨rfl, rfl, rfl⟩
    · rintro ⟨-, rfl, rfl⟩
      exact ⟨[], rfl⟩
  · rw [makes_set_of_ne hij, or_iff_right fun hji ↦ hij hji.1.symm]

include h

theorem pending_taken_iff (hvacant : s.store.pending.find? key = none) :
    (s.store.pending.insert key s.store.tickets).find? other = some ticket ↔
      ∃ j, (⟨store, s.calls.set i c'⟩ : Resolutions).Makes j other ticket := by
  simp only [makes_taken_iff g hfree hhold, Table.find?_insert]
  by_cases hkey : key = other
  · subst hkey
    have hnobody : ¬ ∃ j, s.Makes j key ticket := by
      rw [← h.pending_iff, hvacant]
      simp
    rw [if_pos rfl, Option.some_inj]
    constructor
    · rintro rfl
      exact ⟨i, .inl ⟨rfl, rfl, rfl⟩⟩
    · rintro ⟨j, ⟨-, -, rfl⟩ | hj⟩
      · rfl
      · exact absurd ⟨j, hj⟩ hnobody
  · rw [if_neg hkey, h.pending_iff]
    refine exists_congr fun j ↦ ?_
    rw [or_iff_right fun hother ↦ hkey hother.2.1.symm]

theorem unique_taken {k : Nat} {another : ResourceKey}
    (hj : (⟨store, s.calls.set i c'⟩ : Resolutions).Makes j other ticket)
    (hk : (⟨store, s.calls.set i c'⟩ : Resolutions).Makes k another ticket) : j = k := by
  rw [makes_taken_iff g hfree hhold] at hj hk
  obtain ⟨rfl, -, rfl⟩ | hj := hj <;> obtain ⟨rfl, -, hticket⟩ | hk := hk
  · rfl
  · exact absurd (h.fresh hk).1 (Nat.lt_irrefl _)
  · subst hticket
    exact absurd (h.fresh hj).1 (Nat.lt_irrefl _)
  · exact h.unique hj hk

theorem fresh_taken (hnone : s.store.get? key = none)
    (hj : (⟨store, s.calls.set i c'⟩ : Resolutions).Makes j other ticket) :
    ticket < s.store.tickets + 1 ∧ s.store.outcomes.find? ticket = none ∧
      s.store.get? other = none := by
  rw [makes_taken_iff g hfree hhold] at hj
  obtain ⟨rfl, rfl, rfl⟩ | hj := hj
  · refine ⟨Nat.lt_succ_self _, ?_, hnone⟩
    refine Option.eq_none_iff_forall_ne_some.mpr fun outcome hspent ↦ ?_
    exact Nat.lt_irrefl _ (h.spent hspent)
  · obtain ⟨hticket, hrest⟩ := h.fresh hj
    exact ⟨Nat.lt_succ_of_lt hticket, hrest⟩

theorem waits_taken {d : Resolution} (hd : d ∈ s.calls.set i c')
    (hwaiting : d.hold = .waiting other ticket) :
    (∃ j, (⟨store, s.calls.set i c'⟩ : Resolutions).Makes j other ticket) ∨
      ∃ outcome, s.store.outcomes.find? ticket = some outcome ∧
        (⟨store, s.calls.set i c'⟩ : Resolutions).Settled other ticket outcome := by
  simp only [makes_taken_iff g hfree hhold]
  obtain hd | rfl := List.mem_or_eq_of_mem_set hd
  · obtain ⟨j, hj⟩ | ⟨outcome, hout, hmade⟩ := h.waits hd hwaiting
    · exact .inl ⟨j, .inr hj⟩
    · exact .inr ⟨outcome, hout, g.settled_set hmade⟩
  · cases hhold.symm.trans hwaiting

theorem take (hnone : s.store.get? key = none) (hvacant : s.store.pending.find? key = none)
    (hsettled : ∀ {key ticket outcome}, c'.Settled key ticket outcome →
      c.Settled key ticket outcome) :
    Orderly name ⟨{ s.store with
      pending := s.store.pending.insert key s.store.tickets, tickets := s.store.tickets + 1 },
      s.calls.set i c'⟩ where
  stores := h.stores_set g
  pending_iff := h.pending_taken_iff g hfree hhold hvacant
  unique := h.unique_taken g hfree hhold
  fresh := h.fresh_taken g hfree hhold hnone
  spent hspent := Nat.lt_succ_of_lt (h.spent hspent)
  waits := h.waits_taken g hfree hhold
  awaited := h.awaited_set g
  cached_iff := by
    simp only [g.settled_set_iff hsettled]
    exact h.cached_iff

end Take

/-! ### A call ends the initialization of a key that it holds -/

theorem get?_settle {store : Store} (hnone : store.get? key = none) {address : String} :
    (store.settle key ticket outcome).get? other = some address ↔
      (other = key ∧ outcome = .ok address) ∨ store.get? other = some address := by
  cases outcome with
  | error e => exact (or_iff_right fun hok ↦ nomatch hok.2).symm
  | ok made =>
    show (store.addresses.insert key made).find? other = _ ↔ _
    rw [Table.find?_insert]
    by_cases hkey : key = other
    · subst hkey
      simp [hnone]
    · rw [if_neg hkey, or_iff_right fun hok ↦ hkey hok.1.symm]
      rfl

section Settle

variable (h : s.Orderly name) (g : s.GoesOn name i c c') {during : List Performed} {another : Nat}
  (hmaking : c.hold = .making key ticket during) (hhold : c'.hold = .free)

theorem makes_settled_iff (g : s.GoesOn name i c c') (hhold : c'.hold = .free) :
    (⟨store, s.calls.set i c'⟩ : Resolutions).Makes j other another ↔
      i ≠ j ∧ s.Makes j other another := by
  by_cases hij : i = j
  · subst hij
    simp [makes_set_self g.call, hhold]
  · rw [makes_set_of_ne hij, and_iff_right hij]

include g hmaking

theorem makes_self : s.Makes i key ticket := (makes_iff g.call).mpr ⟨during, hmaking⟩

theorem eq_of_makes_self (hj : s.Makes i other another) : other = key ∧ another = ticket := by
  obtain ⟨later, hlater⟩ := (makes_iff g.call).mp hj
  cases hmaking.symm.trans hlater
  exact ⟨rfl, rfl⟩

include h

theorem spent_settled {result : Except Error String}
    (hspent : (s.store.outcomes.insert ticket outcome).find? another = some result) :
    another < s.store.tickets := by
  rw [Table.find?_insert] at hspent
  split at hspent
  · next hsame => exact hsame ▸ (h.fresh (makes_self g hmaking)).1
  · exact h.spent hspent

include hhold

theorem pending_settled_iff : (s.store.pending.erase key).find? other = some another ↔
    ∃ j, (⟨store, s.calls.set i c'⟩ : Resolutions).Makes j other another := by
  simp only [makes_settled_iff g hhold, Table.find?_erase]
  by_cases hkey : key = other
  · subst hkey
    have hnobody : ¬ ∃ j, i ≠ j ∧ s.Makes j key another := by
      rintro ⟨j, hij, hj⟩
      exact hij (h.eq_of_makes (makes_self g hmaking) hj)
    simpa using hnobody
  · rw [if_neg hkey, h.pending_iff]
    refine exists_congr fun j ↦ (and_iff_right_of_imp fun hj hij ↦ ?_).symm
    subst hij
    exact hkey (eq_of_makes_self g hmaking hj).1.symm

theorem fresh_settled
    (hj : (⟨store, s.calls.set i c'⟩ : Resolutions).Makes j other another) :
    another < s.store.tickets ∧
      (s.store.outcomes.insert ticket outcome).find? another = none ∧
      (s.store.settle key ticket outcome).get? other = none := by
  obtain ⟨hij, hj⟩ := (makes_settled_iff g hhold).mp hj
  obtain ⟨hless, hout, hget⟩ := h.fresh hj
  have hi := makes_self g hmaking
  have hother : other ≠ key := by
    rintro rfl
    exact hij (h.eq_of_makes hi hj)
  have hanother : ticket ≠ another := by
    rintro rfl
    exact hij (h.unique hi hj)
  refine ⟨hless, ?_, Option.eq_none_iff_forall_ne_some.mpr fun address hmade ↦ ?_⟩
  · rw [Table.find?_insert, if_neg hanother, hout]
  · obtain ⟨rfl, -⟩ | hold := (get?_settle (h.fresh hi).2.2).mp hmade
    · exact hother rfl
    · cases hget.symm.trans hold

theorem waits_settled (hmade : c'.Settled key ticket outcome) {d : Resolution}
    (hd : d ∈ s.calls.set i c') (hwaiting : d.hold = .waiting other another) :
    (∃ j, (⟨store, s.calls.set i c'⟩ : Resolutions).Makes j other another) ∨
      ∃ result, (s.store.outcomes.insert ticket outcome).find? another = some result ∧
        (⟨store, s.calls.set i c'⟩ : Resolutions).Settled other another result := by
  simp only [makes_settled_iff g hhold, Table.find?_insert]
  obtain hd | rfl := List.mem_or_eq_of_mem_set hd
  · obtain ⟨j, hj⟩ | ⟨result, hout, hold⟩ := h.waits hd hwaiting
    · by_cases hij : i = j
      · subst hij
        obtain ⟨rfl, rfl⟩ := eq_of_makes_self g hmaking hj
        exact .inr ⟨outcome, if_pos rfl, c', mem_calls (getElem?_set_calls g.call), hmade⟩
      · exact .inl ⟨j, hij, hj⟩
    · have hanother : ticket ≠ another := by
        rintro rfl
        cases (h.fresh (makes_self g hmaking)).2.1.symm.trans hout
      exact .inr ⟨result, (if_neg hanother).trans hout, g.settled_set hold⟩
  · cases hhold.symm.trans hwaiting

omit hhold in
theorem cached_settled_iff (hmade : c'.Settled key ticket outcome)
    (hsettled : ∀ {other another result}, c'.Settled other another result →
      c.Settled other another result ∨ (other = key ∧ another = ticket ∧ result = outcome))
    {address : String} :
    (s.store.settle key ticket outcome).get? other = some address ↔
      ∃ another,
        (⟨store, s.calls.set i c'⟩ : Resolutions).Settled other another (.ok address) := by
  rw [get?_settle (h.fresh (makes_self g hmaking)).2.2]
  constructor
  · rintro (⟨rfl, rfl⟩ | hold)
    · exact ⟨ticket, c', mem_calls (getElem?_set_calls g.call), hmade⟩
    · obtain ⟨another, hold⟩ := h.cached_iff.mp hold
      exact ⟨another, g.settled_set hold⟩
  · rintro ⟨another, hset⟩
    obtain hold | hset := hset.of_set
    · exact .inr (h.cached_iff.mpr ⟨another, hold⟩)
    · obtain hold | ⟨rfl, -, houtcome⟩ := hsettled hset
      · exact .inr (h.cached_iff.mpr ⟨another, c, mem_calls g.call, hold⟩)
      · exact .inl ⟨rfl, houtcome.symm⟩

theorem settle (hmade : c'.Settled key ticket outcome)
    (hsettled : ∀ {other another result}, c'.Settled other another result →
      c.Settled other another result ∨ (other = key ∧ another = ticket ∧ result = outcome)) :
    Orderly name ⟨s.store.settle key ticket outcome, s.calls.set i c'⟩ where
  stores := h.stores_set g
  pending_iff := h.pending_settled_iff g hmaking hhold
  unique hj hk :=
    h.unique ((makes_settled_iff g hhold).mp hj).2 ((makes_settled_iff g hhold).mp hk).2
  fresh := h.fresh_settled g hmaking hhold
  spent := h.spent_settled g hmaking
  waits := h.waits_settled g hmaking hhold hmade
  awaited := h.awaited_set g
  cached_iff := h.cached_settled_iff g hmaking hmade hsettled

end Settle

end Orderly

/-! ### Every step keeps the order -/

section Start

variable {registry : Registry} {typeName : String} {kind : ResourceKind}

/-- A call that begins holds nothing. -/
theorem makes_start_iff : ({ s with calls := s.calls ++ [.start registry typeName kind] } :
    Resolutions).Makes j key ticket ↔ s.Makes j key ticket := by
  constructor
  · rintro ⟨d, during, hd, hmaking⟩
    rw [List.getElem?_append] at hd
    split at hd
    · exact ⟨d, during, hd, hmaking⟩
    · cases List.mem_singleton.mp (List.mem_of_getElem? hd)
      cases hmaking
  · rintro ⟨d, during, hd, hmaking⟩
    refine ⟨d, during, ?_, hmaking⟩
    exact (List.getElem?_append_left (List.getElem?_eq_some_iff.mp hd).1).trans hd

/-- It has settled nothing either. -/
theorem settled_start_iff : ({ s with calls := s.calls ++ [.start registry typeName kind] } :
    Resolutions).Settled key ticket outcome ↔ s.Settled key ticket outcome := by
  constructor
  · rintro ⟨d, hd, hmade⟩
    obtain hd | hd := List.mem_append.mp hd
    · exact ⟨d, hd, hmade⟩
    · cases List.mem_singleton.mp hd
      obtain ⟨before, during, after, hpast, -⟩ := hmade
      exact absurd hpast (by simp [Resolution.start])
  · rintro ⟨d, hd, hmade⟩
    exact ⟨d, List.mem_append_left _ hd, hmade⟩

theorem Orderly.start (h : s.Orderly name) (hstore : registry.store = name) :
    Orderly name { s with calls := s.calls ++ [.start registry typeName kind] } := by
  constructor
  · intro d hd
    obtain hd | hd := List.mem_append.mp hd
    · exact h.stores hd
    · cases List.mem_singleton.mp hd
      exact hstore
  · simp only [makes_start_iff]
    exact h.pending_iff
  · simp only [makes_start_iff]
    exact h.unique
  · simp only [makes_start_iff]
    exact h.fresh
  · exact h.spent
  · intro d key ticket hd hwaiting
    simp only [makes_start_iff, settled_start_iff]
    obtain hd | hd := List.mem_append.mp hd
    · exact h.waits hd hwaiting
    · cases List.mem_singleton.mp hd
      cases hwaiting
  · intro d ticket outcome hd hmem
    simp only [settled_start_iff]
    obtain hd | hd := List.mem_append.mp hd
    · exact h.awaited hd hmem
    · cases List.mem_singleton.mp hd
      exact absurd hmem List.not_mem_nil
  · simp only [settled_start_iff]
    exact h.cached_iff

end Start

/-- What a call has been told it was told before, unless it was told so just now. -/
theorem Orderly.awaited_after (h : s.Orderly name) (hc : s.calls[i]? = some c) {e : Effect}
    {next : e.Result → Program (Except Error String)} (hrest : c.rest = .perform e next)
    {r : e.Result} (hmem : ⟨.await name ticket, outcome⟩ ∈ (c.after hrest r).past)
    (hne : (⟨e, r⟩ : Performed) ≠ ⟨.await name ticket, outcome⟩) :
    ∃ key, ⟨.lookup name key, .busy ticket⟩ ∈ (c.after hrest r).past ∧
      s.Settled key ticket outcome := by
  obtain hold | hlast := List.mem_append.mp hmem
  · obtain ⟨key, hbusy, hmade⟩ := h.awaited (mem_calls hc) hold
    exact ⟨key, List.mem_append_left _ hbusy, hmade⟩
  · exact absurd (List.mem_singleton.mp hlast).symm hne

theorem Orderly.goesOn (h : s.Orderly name) (hc : s.calls[i]? = some c) {e : Effect}
    {next : e.Result → Program (Except Error String)} (hrest : c.rest = .perform e next)
    {r : e.Result}
    (hne : ∀ ticket outcome, (⟨e, r⟩ : Performed) ≠ ⟨.await name ticket, outcome⟩) :
    s.GoesOn name i c (c.after hrest r) where
  call := hc
  store := rfl
  settled hold := hold.after hrest r
  awaited hmem := h.awaited_after hc hrest hmem (hne _ _)

theorem Orderly.lookup (h : s.Orderly name) (hc : s.calls[i]? = some c) {key : ResourceKey}
    {next : Lookup → Program (Except Error String)}
    (hrest : c.rest = .perform (.lookup name key) next) :
    Orderly name
      ⟨(s.store.lookup key).2, s.calls.set i (c.after hrest (s.store.lookup key).1)⟩ := by
  have hfree : c.hold = .free := (Resolution.allows hrest).eq_free
  have hholds {looked : Lookup} :
      (c.after hrest looked).hold = Hold.after .free ⟨.lookup name key, looked⟩ := by
    rw [Resolution.hold_after, hfree]
  have hgoes {looked : Lookup} : s.GoesOn name i c (c.after hrest looked) :=
    h.goesOn hc hrest nofun
  have hnone {looked : Lookup} {key : ResourceKey} {ticket : Nat}
      {outcome : Except Error String} (hset : (c.after hrest looked).Settled key ticket outcome) :
      c.Settled key ticket outcome :=
    (Resolution.settled_after (by nofun)).mp hset
  unfold Store.lookup
  split
  · next address hfound =>
    refine h.aside hgoes (fun key ticket ↦ ?_) hnone fun key ticket hwaits ↦ ?_
    · rw [hholds, hfree]
      rfl
    · rw [hholds] at hwaits
      cases hwaits
  · next hvoid =>
    split
    · next ticket hbusy =>
      refine h.aside hgoes (fun key ticket ↦ ?_) hnone fun key ticket hwaits ↦ ?_
      · rw [hholds, hfree]
        exact iff_of_false nofun nofun
      · rw [hholds] at hwaits
        cases hwaits
        exact .inl (h.pending_iff.mp hbusy)
    · next hvacant =>
      refine h.take hgoes ?_ hholds hvoid hvacant hnone
      rw [hfree]
      exact nofun

theorem Orderly.await (h : s.Orderly name) (hc : s.calls[i]? = some c) {ticket : Nat}
    {outcome : Except Error String} (hout : s.store.outcomes.find? ticket = some outcome)
    {next : Except Error String → Program (Except Error String)}
    (hrest : c.rest = .perform (.await name ticket) next) :
    Orderly name ⟨s.store, s.calls.set i (c.after hrest outcome)⟩ := by
  obtain ⟨key, hwaiting⟩ := (Resolution.allows hrest).eq_waiting
  obtain ⟨store, hbusy⟩ := Hold.mem_of_waiting hwaiting
  have hstore : store = name := by
    rw [← h.stores (mem_calls hc)]
    exact (Resolution.looks_up hbusy).1
  subst hstore
  have hmade : s.Settled key ticket outcome := by
    obtain ⟨j, hj⟩ | ⟨result, hresult, hmade⟩ := h.waits (mem_calls hc) hwaiting
    · cases (h.fresh hj).2.1.symm.trans hout
    · obtain rfl := Option.some.inj (hresult.symm.trans hout)
      exact hmade
  have hgoes : s.GoesOn store i c (c.after hrest outcome) := by
    refine ⟨hc, rfl, fun hold ↦ hold.after hrest outcome, fun {awaited result} hmem ↦ ?_⟩
    by_cases hlast : (⟨.await store ticket, outcome⟩ : Performed) = ⟨.await store awaited, result⟩
    · cases hlast
      exact ⟨key, List.mem_append_left _ hbusy, hmade⟩
    · exact h.awaited_after hc hrest hmem hlast
  refine h.aside hgoes (fun key ticket ↦ ?_) (Resolution.settled_after (by nofun)).mp
    fun key ticket hwaits ↦ ?_
  · rw [Resolution.hold_after, hwaiting]
    exact iff_of_false nofun nofun
  · rw [Resolution.hold_after, hwaiting] at hwaits
    cases hwaits

theorem Step.orderly {e : Event} (h : Step name s e t) (hs : s.Orderly name) :
    t.Orderly name := by
  cases h with
  | start hstore typeName kind => exact hs.start hstore
  | perform hc hrest hacts =>
    cases hacts with
    | lookup key => exact hs.lookup hc hrest
    | await hout => exact hs.await hc hout hrest
    | settle key ticket outcome =>
      obtain ⟨hstore, during, hmaking⟩ := (Resolution.allows hrest).eq_making_of_settle
      subst hstore
      refine hs.settle (hs.goesOn hc hrest nofun) hmaking ?_
        (Resolution.settled_of_making hmaking hrest) fun hset ↦ ?_
      · rw [Resolution.hold_after, hmaking]
        rfl
      · refine hset.of_after.imp_right fun hlast ↦ ?_
        cases hlast
        exact ⟨rfl, rfl, rfl⟩
    | other hprovisions =>
      obtain ⟨key, ticket, during, hmaking, hafter⟩ :=
        (Resolution.allows hrest).eq_making (p := ⟨_, _⟩) hprovisions
      have hholds := (Resolution.hold_after hrest _).trans hafter
      refine hs.aside (hs.goesOn hc hrest fun awaited result hlast ↦ ?_) (fun other another ↦ ?_)
        (Resolution.settled_after ?_).mp fun other another hwaits ↦ ?_
      · cases hlast
        exact hprovisions
      · rw [hholds, hmaking]
        simp
      · rintro _ _ _ _ rfl
        exact hprovisions
      · rw [hholds] at hwaits
        cases hwaits

theorem Run.orderly {es : List Event} (h : Run name s es t) (hs : s.Orderly name) :
    t.Orderly name := by
  induction h with
  | refl => exact hs
  | step _ hstep ih => exact hstep.orderly ih

end MessageBus.Resolutions
