import MessageBus.Proofs.Provisioning.Orderly
import MessageBus.Proofs.Replace
/-!
Provisioning happens at most once for each name (`provisioned_once`). Whatever calls are made on one
store, in whatever order their steps come and whichever of their broker calls fail: an address is
stored when all of the plan for it was done, no key is made by two calls at a time, and none is made
again when its address is there. Who finds a key busy is told what the one came to who made it, and
from the moment when an address is stored every call that looks its key up finds it.
-/

set_option autoImplicit false
set_option relaxedAutoImplicit false

namespace MessageBus.Resolutions

open Provisioning

variable {name : StoreName} {s t : Resolutions} {e : Event} {es more : List Event}
  {key : ResourceKey} {address : String}

/-- An address comes into the store when its initialization succeeds, and at no other time. -/
theorem Step.get? (h : Step name s e t) (hs : s.Orderly name) (key : ResourceKey) :
    (e.provides key = false ∧ t.store.get? key = s.store.get? key) ∨
      (e.provides key ∧ s.store.get? key = none ∧ (t.store.get? key).isSome) := by
  cases h with
  | start => exact .inl ⟨rfl, rfl⟩
  | @perform i c hc e next hrest r store hacts =>
    cases hacts with
    | lookup other =>
      refine .inl ⟨rfl, ?_⟩
      unfold Store.lookup
      split
      · rfl
      · split <;> rfl
    | await hout => exact .inl ⟨rfl, rfl⟩
    | other hprovisions =>
      refine .inl ⟨?_, rfl⟩
      cases e with
      | settle => exact absurd hprovisions id
      | call | lookup | await | stamp | policyIds | count | pause | handle | report => rfl
    | settle settled ticket outcome =>
      obtain ⟨-, during, hmaking⟩ := (Resolution.allows hrest).eq_making_of_settle
      have hnone := (hs.fresh ((makes_iff hc).mpr ⟨during, hmaking⟩)).2.2
      cases outcome with
      | error e => exact .inl ⟨rfl, rfl⟩
      | ok address =>
        by_cases hkey : settled = key
        · subst hkey
          refine .inr ⟨decide_eq_true rfl, hnone, ?_⟩
          show ((s.store.addresses.insert settled address).find? settled).isSome
          rw [Table.find?_insert, if_pos rfl, Option.isSome_some]
        · refine .inl ⟨decide_eq_false hkey, ?_⟩
          show (s.store.addresses.insert settled address).find? key = _
          rw [Table.find?_insert, if_neg hkey]
          rfl

/-- The initializations that succeeded are as many as the addresses that are there. -/
theorem Run.countP_provides (h : Run name {} es s) (key : ResourceKey) :
    es.countP (·.provides key) = (s.store.get? key).toList.length := by
  generalize hstart : ({} : Resolutions) = start at h
  induction h with
  | refl =>
    subst hstart
    rfl
  | step hrun hstep ih =>
    subst hstart
    rw [List.countP_append, ih, List.countP_singleton]
    obtain ⟨hnot, hget⟩ | ⟨hprovides, hnone, hsome⟩ :=
      hstep.get? (hrun.orderly (orderly_start name)) key
    · rw [hnot, hget]
      rfl
    · obtain ⟨address, haddress⟩ := Option.isSome_iff_exists.mp hsome
      rw [hprovides, hnone, haddress]
      rfl

/-- What is stored stays there, and is found by everyone who looks it up. -/
theorem Run.kept (h : Run name s more t) (hs : s.Orderly name)
    (hkey : s.store.get? key = some address) :
    t.store.get? key = some address ∧
      ∀ i r, .performed i ⟨.lookup name key, r⟩ ∈ more → r = .found address := by
  induction h with
  | refl => exact ⟨hkey, nofun⟩
  | @step t u es e hrun hstep ih =>
    obtain ⟨hget, hfound⟩ := ih
    constructor
    · obtain ⟨-, hsame⟩ | ⟨-, hnone, -⟩ := hstep.get? (hrun.orderly hs) key
      · exact hsame.trans hget
      · cases hnone.symm.trans hget
    · intro i r hmem
      obtain hmem | hlast := List.mem_append.mp hmem
      · exact hfound i r hmem
      cases List.mem_singleton.mp hlast
      cases hstep with
      | perform hc hrest hacts =>
        cases hacts with
        | lookup =>
          unfold Store.get? at hget
          unfold Store.lookup
          rw [hget]
        | other hprovisions => exact absurd hprovisions id

/-- What a call has done it did in the run, or before it. -/
theorem Run.mem_of_mem_past (h : Run name s more t) {i : Nat} {c : Resolution}
    (hc : t.calls[i]? = some c) {p : Performed} (hp : p ∈ c.past) :
    .performed i p ∈ more ∨ ∃ d, s.calls[i]? = some d ∧ p ∈ d.past := by
  induction h generalizing c with
  | refl => exact .inr ⟨c, hc, hp⟩
  | @step t u es e hrun hstep ih =>
    have hold {d : Resolution} (hd : t.calls[i]? = some d) (hp : p ∈ d.past) :
        .performed i p ∈ es ++ [e] ∨ ∃ d, s.calls[i]? = some d ∧ p ∈ d.past :=
      (ih hd hp).imp_left (List.mem_append_left _)
    cases hstep with
    | start hstore typeName kind =>
      rw [List.getElem?_append] at hc
      split at hc
      · exact hold hc hp
      · cases List.mem_singleton.mp (List.mem_of_getElem? hc)
        exact absurd hp List.not_mem_nil
    | perform hd hrest hacts =>
      obtain ⟨rfl, rfl⟩ | ⟨-, hc⟩ := getElem?_set_cases hc
      · obtain hp | hlast := List.mem_append.mp hp
        · exact hold hd hp
        · cases List.mem_singleton.mp hlast
          exact .inl (List.mem_append_right _ (List.mem_singleton_self _))
      · exact hold hc hp

/-- What a call finds that began when an address was there. -/
theorem Run.found_of_stored (h : Run name s more t) (hs : s.Orderly name) {i : Nat}
    {c : Resolution} (hnew : s.calls.length ≤ i) (hc : t.calls[i]? = some c)
    (hkey : s.store.get? key = some address) {r : Lookup}
    (hmem : ⟨.lookup name key, r⟩ ∈ c.past) : r = .found address := by
  obtain hperformed | ⟨d, hd, -⟩ := h.mem_of_mem_past hc hmem
  · exact (h.kept hs hkey).2 i r hperformed
  · exact absurd (List.getElem?_eq_some_iff.mp hd).1 (Nat.not_lt.mpr hnew)

/-- What holds of every call that began when the address that it resolves was there. -/
structure Returns (s : Resolutions) (c : Resolution) (address : String) : Prop where
  /-- It returns the address, unless its topic could not be resolved. -/
  returned : ∀ outcome, c.rest = .done outcome → outcome = .ok address ∨
    c.kind = .queue ∧ ∃ e, outcome = .error e ∧
      c.registry.Resolves c.typeName .topic c.past (.error e)
  /-- Where all that it needs was there it makes no broker call; it has returned the address, or it
  has a key to look up. -/
  idle : (∀ key ∈ c.keys, (s.store.get? key).isSome) → tried c.past = [] ∧
    (c.rest = .done (.ok address) ∨
      ∃ key next, c.rest = .perform (.lookup c.registry.store key) next)

/-- Calls on one store that provision at most once, and in order. -/
structure ProvisionOnce (name : StoreName) (es : List Event) (s : Resolutions) : Prop where
  /-- Every call is on one of the courses of its resolution. On the whole of it, its broker calls
  keep to the plan for what it found vacant, and it does not succeed before all of the plan is done.
  A failure is one of resolution. -/
  courses : ∀ c ∈ s.calls, ∃ later outcome whole,
    c.registry.Resolves c.typeName c.kind (c.past ++ later) outcome ∧
    KeepsTo (planned (c.past ++ later)) (c.past ++ later) whole ∧ (outcome.isOk → whole) ∧
    (∀ e, outcome = .error e → e.kind = .resolution) ∧
    ∀ returned, c.rest = .done returned → later = [] ∧ outcome = returned
  /-- Who has found no key vacant has made no broker call. -/
  idle : ∀ c ∈ s.calls,
    (∀ store key ticket, ⟨.lookup store key, .vacant ticket⟩ ∉ c.past) → tried c.past = []
  /-- An address is stored when it was made, -/
  stored_iff : ∀ key address,
    s.store.get? key = some address ↔ ∃ c ∈ s.calls, ∃ ticket, c.Settled key ticket (.ok address)
  /-- which is when all of the plan for it was done. -/
  made_iff : ∀ c ∈ s.calls, ∀ key during outcome, c.registry.Made c.typeName key during outcome →
    KeepsTo (plan key.kind) during outcome.isOk ∧
      (outcome.isOk ↔ tried during = (plan key.kind).map (·, true))
  /-- This happens once at most, -/
  once : ∀ key, es.countP (·.provides key) ≤ 1
  /-- and is attempted by one call at a time. -/
  alone : ∀ {i j key ticket other}, s.Makes i key ticket → s.Makes j key other → i = j
  /-- Who waits is told what the one came to who made it. -/
  shared : ∀ c ∈ s.calls, ∀ ticket outcome, ⟨.await name ticket, outcome⟩ ∈ c.past →
    ∃ key, ⟨.lookup name key, .busy ticket⟩ ∈ c.past ∧ ∃ d ∈ s.calls, d.Settled key ticket outcome
  /-- A stored address stays, and is found whenever it is looked up, -/
  kept : ∀ {key address}, s.store.get? key = some address → ∀ {more t}, Run name s more t →
    t.store.get? key = some address ∧
      ∀ i r, .performed i ⟨.lookup name key, r⟩ ∈ more → r = .found address
  /-- and it is what every call returns that begins from now on. -/
  later : ∀ {more t i c address}, Run name s more t → s.calls.length ≤ i → t.calls[i]? = some c →
    s.store.get? c.key = some address → Returns s c address

/-- A call that finds what it looks up returns it, unless its topic could not be resolved. -/
theorem returned_of_finds {c : Resolution} {outcome : Except Error String}
    (hdone : c.rest = .done outcome)
    (hfinds : ∀ r, ⟨.lookup c.registry.store c.key, r⟩ ∈ c.past → r = .found address) :
    outcome = .ok address ∨ c.kind = .queue ∧ ∃ e, outcome = .error e ∧
      c.registry.Resolves c.typeName .topic c.past (.error e) := by
  obtain ⟨later, result, hresolves, hall⟩ := c.exists_resolves
  obtain ⟨rfl, rfl⟩ := hall outcome hdone
  rw [List.append_nil] at hresolves
  clear hdone hall
  obtain ⟨registry, typeName, kind, past, rest, led⟩ := c
  cases hresolves with
  | topic h =>
    rw [h.eq_ok hfinds]
    exact .inl rfl
  | noTopic h => exact .inr ⟨rfl, _, rfl, h⟩
  | queue htopic h =>
    rw [h.eq_ok fun r hmem ↦ hfinds r (List.mem_append_right _ hmem)]
    exact .inl rfl

/-- A call that has found all it looked up neither holds a key nor waits for one. -/
theorem hold_eq_free {c : Resolution}
    (hfound : ∀ {store key r}, ⟨.lookup store key, r⟩ ∈ c.past → ∃ address, r = .found address) :
    c.hold = .free := by
  cases hhold : c.hold with
  | free => rfl
  | making key ticket during =>
    obtain ⟨store, before, hpast⟩ := Hold.exists_of_making hhold
    obtain ⟨_, hvacant⟩ := hfound (hpast ▸ List.mem_append_right _ List.mem_cons_self)
    cases hvacant
  | waiting key ticket =>
    obtain ⟨store, hmem⟩ := Hold.mem_of_waiting hhold
    obtain ⟨_, hbusy⟩ := hfound hmem
    cases hbusy

/-- All that a free call can do next is to look a key up in its store. -/
theorem looks_up_next {c : Resolution} (hfree : c.hold = .free) {e : Effect}
    {next : e.Result → Program (Except Error String)} (hrest : c.rest = .perform e next) :
    ∃ key next, c.rest = .perform (.lookup c.registry.store key) next := by
  have hallowed := Resolution.allows hrest
  rw [hfree] at hallowed
  cases e with
  | lookup store key =>
    obtain rfl : store = c.registry.store := hallowed
    exact ⟨key, next, hrest⟩
  | call | await | settle | stamp | policyIds | count | pause | handle | report =>
    exact absurd hallowed id

/-- A call that begins when its address is there returns it. -/
theorem Run.returns (h : Run name s more t) (hs : s.Orderly name) {i : Nat} {c : Resolution}
    (hnew : s.calls.length ≤ i) (hc : t.calls[i]? = some c)
    (hkey : s.store.get? c.key = some address) : Returns s c address := by
  have hstore : c.registry.store = name := (h.orderly hs).stores (mem_calls hc)
  have hfinds {key : ResourceKey} {address : String} (hkey : s.store.get? key = some address)
      (r : Lookup) (hmem : ⟨.lookup c.registry.store key, r⟩ ∈ c.past) : r = .found address :=
    h.found_of_stored hs hnew hc hkey (hstore ▸ hmem)
  refine ⟨fun outcome hdone ↦ returned_of_finds hdone (hfinds hkey), fun hstored ↦ ?_⟩
  have hfound {store : StoreName} {key : ResourceKey} {r : Lookup}
      (hmem : ⟨.lookup store key, r⟩ ∈ c.past) : ∃ address, r = .found address := by
    obtain ⟨rfl, hkeys⟩ := Resolution.looks_up hmem
    obtain ⟨found, hfound⟩ := Option.isSome_iff_exists.mp (hstored key hkeys)
    exact ⟨found, hfinds hfound r hmem⟩
  constructor
  · apply Resolution.tried_eq_nil
    intro store key ticket hmem
    obtain ⟨_, hvacant⟩ := hfound hmem
    cases hvacant
  · cases hrest : c.rest with
    | done outcome =>
      left
      obtain rfl | ⟨hkind, e, rfl, htopic⟩ := returned_of_finds hrest (hfinds hkey)
      · rfl
      have htopicKey : c.registry.key c.typeName .topic ∈ c.keys := by
        unfold Resolution.keys
        rw [hkind]
        exact List.mem_cons_self
      obtain ⟨arn, harn⟩ := Option.isSome_iff_exists.mp (hstored _ htopicKey)
      exact absurd (htopic.eq_ok (hfinds harn)) nofun
    | perform e next =>
      right
      rw [← hrest]
      exact looks_up_next (hold_eq_free hfound) hrest

theorem provisioned_once (h : Run name {} es s) : ProvisionOnce name es s := by
  have hs := h.orderly (orderly_start name)
  constructor
  · intro c _
    obtain ⟨later, outcome, hresolves, hdone⟩ := c.exists_resolves
    obtain ⟨whole, hkeeps, hwhole⟩ := hresolves.keepsTo
    refine ⟨later, outcome, whole, hresolves, hkeeps, hwhole, ?_, hdone⟩
    rintro e rfl
    exact hresolves.kind_eq
  · exact fun c _ hnone ↦ Resolution.tried_eq_nil hnone
  · intro key address
    rw [hs.cached_iff]
    constructor
    · rintro ⟨ticket, c, hc, hmade⟩
      exact ⟨c, hc, ticket, hmade⟩
    · rintro ⟨c, hc, ticket, hmade⟩
      exact ⟨ticket, c, hc, hmade⟩
  · exact fun c _ key during outcome hmade ↦ ⟨hmade.keepsTo, hmade.keepsTo.whole_iff⟩
  · intro key
    rw [h.countP_provides]
    cases s.store.get? key with
    | none => exact Nat.zero_le 1
    | some address => exact Nat.le_refl 1
  · exact hs.eq_of_makes
  · exact fun c hc ticket outcome ↦ hs.awaited hc
  · exact fun hkey more t hrun ↦ hrun.kept hs hkey
  · exact fun hrun hnew hc hkey ↦ hrun.returns hs hnew hc hkey

/-! ### Two calls that resolve one topic at a time -/

/-- A call can take the next steps of making what it holds. -/
theorem Run.provisions (h : Run name s es t) {i : Nat} {c : Resolution}
    (hc : t.calls[i]? = some c) {past : List Performed} {q : Program (Except Error String)}
    (hleads : c.rest.Leads past q) (hpast : ∀ p ∈ past, p.effect.Provisions) :
    ∃ more c', Run name s (es ++ more) ⟨t.store, t.calls.set i c'⟩ ∧ c'.rest = q ∧
      c'.past = c.past ++ past := by
  generalize hrest : c.rest = p at hleads
  induction hleads generalizing es t c with
  | refl =>
    have hself : t.calls.set i c = t.calls := by
      obtain ⟨hi, rfl⟩ := List.getElem?_eq_some_iff.mp hc
      exact List.set_getElem_self hi
    exact ⟨[], c, by rwa [List.append_nil, hself], hrest, (List.append_nil _).symm⟩
  | @step e next r past q _ ih =>
    have hstep := h.step (.perform hc hrest (.other t.store (hpast ⟨e, r⟩ List.mem_cons_self)))
    have hget : (t.calls.set i (c.after hrest r))[i]? = some (c.after hrest r) :=
      List.getElem?_set_self (List.getElem?_eq_some_iff.mp hc).1
    obtain ⟨more, c', hrun, hdone, hall⟩ :=
      ih hstep hget (fun p hp ↦ hpast p (List.mem_cons_of_mem _ hp)) rfl
    rw [List.set_set, List.append_assoc] at hrun
    refine ⟨_, c', hrun, hdone, hall.trans ?_⟩
    exact List.append_assoc ..

/-- A registry that shares its store. -/
def sharingRegistry : Registry := { sampleRegistry with store := .shared "samples" }

def ordersTopicArn : String := "arn:aws:sns:region:account:orders"

/-- Two calls want the address of one topic. The first makes it, the second waits for it, and both
return it. -/
theorem provisioned_once_sample :
    ∃ es s, Run (.shared "samples") {} es s ∧ ProvisionOnce (.shared "samples") es s ∧
      s.store.get? (sharingRegistry.key "orders" .topic) = some ordersTopicArn ∧
      ∃ c d, s.calls = [c, d] ∧ c.rest = .done (.ok ordersTopicArn) ∧
        d.rest = .done (.ok ordersTopicArn) ∧ tried c.past = (plan .topic).map (·, true) ∧
        tried d.past = [] := by
  obtain ⟨policy, hpolicy⟩ : ∃ policy, Policy.topicAccess "id" "sid" ordersTopicArn = .ok policy :=
    ⟨_, rfl⟩
  have hstore : sharingRegistry.store = .shared "samples" := rfl
  have hbegun := ((Run.refl {}).step (.start _ hstore "orders" .topic)).step
    (.start _ hstore "orders" .topic)
  let key := sharingRegistry.key "orders" .topic
  let taken : Store := { pending := (∅ : Table ResourceKey Nat).insert key 0, tickets := 1 }
  have hvacant : Store.Acts (.shared "samples") {}
      ⟨.lookup (.shared "samples") key, .vacant 0⟩ taken := .lookup ..
  have hbusy : Store.Acts (.shared "samples") taken
      ⟨.lookup (.shared "samples") key, .busy 0⟩ taken := by
    have hlookup : taken.lookup key = (.busy 0, taken) := by simp [Store.lookup, taken]
    have hacts : Store.Acts (.shared "samples") taken _ _ := .lookup taken key
    rwa [hlookup] at hacts
  have hlooked := (hbegun.step (.perform (i := 0) rfl rfl hvacant)).step
    (.perform (i := 1) rfl rfl hbusy)
  have hcourse : TopicCourse (sharingRegistry.naming.topicName "orders") _ (.ok ordersTopicArn) :=
    .made hpolicy
  obtain ⟨more, c, hmade, hrest, hpast⟩ := hlooked.provisions (i := 0) rfl
    ((hcourse.leads.bind (.refl _)).bind_left _) (by simp [Effect.Provisions])
  have hsettled := hmade.step (.perform (i := 0) rfl hrest (.settle ..))
  have hshared := hsettled.step (.perform (i := 1) rfl rfl (.await rfl))
  refine ⟨_, _, hshared, provisioned_once hshared, ?_, _, _, rfl, rfl, rfl, ?_, rfl⟩
  · show ((∅ : Table ResourceKey String).insert key ordersTopicArn).find? key = _
    rw [Table.find?_insert, if_pos rfl]
  · show tried (c.past ++ _) = _
    rw [hpast]
    rfl

end MessageBus.Resolutions
