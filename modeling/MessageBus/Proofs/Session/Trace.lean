import MessageBus.Proofs.Session.Invariant
/-!
What the events of a session tell of its deliveries: which messages were handed out, in their order,
and what the delivery of each has done (`Run.traced`). A step leaves the deliveries as they are,
begins one, takes one further or ends one (`Step.progress`).
-/

set_option autoImplicit false
set_option relaxedAutoImplicit false

namespace MessageBus.Session

namespace Event

def handedOut? : Event → Option Received
  | dispatched m => some m
  | _ => none

/-- The number of a delivery, and the effect that it performs. -/
def performed? : Event → Option (Nat × Performed)
  | performed j p => some (j, p)
  | _ => none

def resolved? : Event → Option Performed
  | resolved p => some p
  | _ => none

end Event

/-- The messages that were handed out. -/
def handedOut (es : List Event) : List Received := es.filterMap Event.handedOut?

/-- The effects of all deliveries, each with the number of its delivery. -/
def performed (es : List Event) : List (Nat × Performed) := es.filterMap Event.performed?

/-- The effects of one delivery. -/
def doneBy (j : Nat) (es : List Event) : List Performed :=
  ((performed es).filter (·.1 = j)).map (·.2)

/-- The effects of the resolver. -/
def resolved (es : List Event) : List Performed := es.filterMap Event.resolved?

variable {c : Setup} {s t : Session c} {e : Event} {es : List Event}

/-- What a step does to the deliveries. -/
inductive Progress (s : Session c) (e : Event) (ds : List (Dispatch c.type)) : Prop
  | untouched (hsame : ds = s.dispatches) (hhanded : e.handedOut? = none)
    (hperformed : e.performed? = none)
  | begun {l : Loop} {m : Received} {rest : List Received} (prototype : Payload)
    (hlife : s.life = .polling l) (hphase : l.polling.phase = .dispatching (m :: rest))
    (he : e = .dispatched m)
    (hds : ds = s.dispatches ++ [.start prototype l.polling.queueUrl m])
  | taken {j : Nat} {d : Dispatch c.type} {effect : Effect} {next : effect.Result → Program Unit}
    (hd : s.dispatches[j]? = some d) (hrest : d.rest = .perform effect next) (r : effect.Result)
    (he : e = .performed j ⟨effect, r⟩) (hds : ds = s.dispatches.set j (d.after hrest r))
  | ended {j : Nat} {d : Dispatch c.type} (hd : s.dispatches[j]? = some d)
    (hrest : d.rest = .done ()) (he : e = .silent) (hds : ds = s.dispatches.set j d.finish)

theorem Step.progress (h : Step s e t) : Progress s e t.dispatches := by
  cases h with
  | dispatch hready hp prototype =>
    obtain ⟨m, rest, hphase, -, rfl, ⟨⟩⟩ := Polling.slotTaken_eq hp
    exact .begun prototype hready.life hphase rfl rfl
  | perform hd hrest r => exact .taken hd hrest r rfl rfl
  | finish hd hrest => exact .ended hd hrest rfl rfl
  | cancel | resolve | refuse | begin | breakDown | skip | ask | receive | receiveFailed | report
  | stop | leave => exact .untouched rfl rfl rfl

/-- Where the messages come from that wait to be handed out after a step. -/
inductive Waits (s : Session c) (e : Event) (loop : Loop) (waiting : List Received) : Prop
  | kept {l : Loop} (hlife : s.life = .polling l) (hphase : l.polling.phase = .dispatching waiting)
    (hurl : loop.polling.queueUrl = l.polling.queueUrl)
    (hfree : l.polling.free ≤ loop.polling.free)
  | received {l : Loop} {request : ReceiveRequest} (hlife : s.life = .polling l)
    (hrequest : l.request = some request) (he : e = .replied request (.ok waiting))
    (hurl : loop.polling.queueUrl = l.polling.queueUrl)
    (hfree : loop.polling.free = l.polling.free)
  | next {l : Loop} {m : Received} (hlife : s.life = .polling l)
    (hphase : l.polling.phase = .dispatching (m :: waiting))
    (hurl : loop.polling.queueUrl = l.polling.queueUrl)
    (hfree : l.polling.free = loop.polling.free + 1)

theorem eq_of_dispatchPhase {messages waiting : List Received}
    (h : Polling.dispatchPhase messages = .dispatching waiting) : messages = waiting := by
  cases messages with
  | nil => cases h
  | cons => exact Polling.Phase.dispatching.inj h

theorem Step.waits (h : Step s e t) {loop : Loop} {waiting : List Received}
    (hlife : t.life = .polling loop) (hphase : loop.polling.phase = .dispatching waiting) :
    Waits s e loop waiting := by
  cases h with
  | cancel | report | perform => exact .kept hlife hphase rfl (Nat.le_refl _)
  | resolve | refuse | breakDown | leave => cases hlife
  | begin hresolving now hp =>
    obtain rfl := Polling.start?_eq hp
    cases hlife
    cases hphase
  | skip hready now hp | ask hready now hp =>
    cases hlife
    obtain ⟨hidle, ⟨rfl, -⟩ | ⟨-, rfl, -⟩⟩ := Polling.tick_eq hp
    · exact absurd (hidle.symm.trans hphase) nofun
    · cases hphase
  | receive hready hrequest hp =>
    cases hlife
    obtain ⟨-, rfl, -⟩ := Polling.received_eq hp
    obtain rfl := eq_of_dispatchPhase hphase
    exact .received hready.life hrequest rfl rfl rfl
  | receiveFailed hready hrequest hp =>
    cases hlife
    obtain ⟨-, rfl, -⟩ := Polling.receiveFailed_eq hp
    cases hphase
  | dispatch hready hp =>
    cases hlife
    obtain ⟨m, rest, hbefore, hfree, rfl, -⟩ := Polling.slotTaken_eq hp
    obtain rfl := eq_of_dispatchPhase hphase
    exact .next hready.life hbefore rfl (Nat.sub_add_cancel hfree).symm
  | stop hready hcancelled hp =>
    cases hlife
    obtain ⟨rfl, -⟩ := Polling.cancelled_eq hp
    cases hphase
  | finish hd hrest hopen hpolling hp =>
    cases hlife
    obtain ⟨-, rfl, -⟩ := Polling.handlerFinished_eq hp
    exact .kept hpolling hphase rfl (Nat.sub_le_sub_left (Nat.sub_le ..) _)

theorem handedOut_append_of_none (h : e.handedOut? = none) :
    handedOut (es ++ [e]) = handedOut es := by
  rw [handedOut, List.filterMap_append, List.filterMap_cons_none h]
  exact List.append_nil _

theorem performed_append_of_none (h : e.performed? = none) :
    performed (es ++ [e]) = performed es := by
  rw [performed, List.filterMap_append, List.filterMap_cons_none h]
  exact List.append_nil _

theorem doneBy_append_of_none (h : e.performed? = none) (j : Nat) :
    doneBy j (es ++ [e]) = doneBy j es := by
  rw [doneBy, performed_append_of_none h, doneBy]

theorem performed_append_performed (j : Nat) (p : Performed) :
    performed (es ++ [.performed j p]) = performed es ++ [(j, p)] :=
  List.filterMap_append

theorem doneBy_append_performed (j : Nat) (p : Performed) :
    doneBy j (es ++ [.performed j p]) = doneBy j es ++ [p] := by
  simp [doneBy, performed_append_performed]

theorem doneBy_append_performed_of_ne {i j : Nat} (h : i ≠ j) (p : Performed) :
    doneBy j (es ++ [.performed i p]) = doneBy j es := by
  simp [doneBy, performed_append_performed, h]

/-- Whether events tell what the deliveries of a session have done. -/
structure Traced (es : List Event) (s : Session c) : Prop where
  messages : s.dispatches.map (·.message) = handedOut es
  past : ∀ {j d}, s.dispatches[j]? = some d → d.past = doneBy j es
  /-- Only a delivery that has begun does something. -/
  begun : ∀ x ∈ performed es, x.1 < s.dispatches.length

/-- A delivery that has not begun has done nothing. -/
theorem Traced.doneBy_eq_nil (h : Traced es s) {j : Nat} (hj : s.dispatches.length ≤ j) :
    doneBy j es = [] := by
  rw [doneBy, List.map_eq_nil_iff, List.filter_eq_nil_iff]
  intro x hx hbegun
  have hlt := h.begun x hx
  have heq : x.1 = j := of_decide_eq_true hbegun
  omega

theorem Traced.step (h : Traced es s) (hstep : Step s e t) : Traced (es ++ [e]) t := by
  cases hstep.progress with
  | untouched hsame hhanded hperformed =>
    refine ⟨?_, ?_, ?_⟩
    · rw [hsame, handedOut_append_of_none hhanded, h.messages]
    · intro j d hd
      rw [doneBy_append_of_none hperformed]
      exact h.past (hsame ▸ hd)
    · rw [hsame, performed_append_of_none hperformed]
      exact h.begun
  | @begun l m rest prototype hlife hphase he hds =>
    subst he
    refine ⟨?_, ?_, ?_⟩
    · rw [hds, List.map_append, h.messages, handedOut, handedOut, List.filterMap_append]
      rfl
    · intro j d hd
      rw [doneBy_append_of_none rfl]
      rw [hds, List.getElem?_append] at hd
      split at hd
      · exact h.past hd
      · next hj =>
        rw [h.doneBy_eq_nil (Nat.le_of_not_lt hj)]
        rw [List.getElem?_singleton] at hd
        split at hd
        · rw [← Option.some.inj hd]
          rfl
        · cases hd
    · intro x hx
      rw [performed_append_of_none rfl] at hx
      rw [hds, List.length_append]
      exact Nat.lt_add_right _ (h.begun x hx)
  | @taken i d effect next hd hrest r he hds =>
    subst he
    refine ⟨?_, ?_, ?_⟩
    · rw [hds, map_set_of_eq hd (·.message) (rfl : (d.after hrest r).message = d.message),
        h.messages, handedOut_append_of_none rfl]
    · intro j d' hd'
      rw [hds] at hd'
      rcases getElem?_set_cases hd' with ⟨rfl, rfl⟩ | ⟨hne, hold⟩
      · rw [doneBy_append_performed, ← h.past hd]
        rfl
      · rw [doneBy_append_performed_of_ne hne, h.past hold]
    · rw [hds, List.length_set, performed_append_performed]
      refine List.forall_mem_append.mpr ⟨h.begun, ?_⟩
      intro x hx
      rw [List.mem_singleton.mp hx]
      exact (List.getElem?_eq_some_iff.mp hd).1
  | @ended i d hd hrest he hds =>
    subst he
    refine ⟨?_, ?_, ?_⟩
    · rw [hds, map_set_of_eq hd (·.message) (rfl : d.finish.message = d.message), h.messages,
        handedOut_append_of_none rfl]
    · intro j d' hd'
      rw [hds] at hd'
      rw [doneBy_append_of_none rfl]
      rcases getElem?_set_cases hd' with ⟨rfl, rfl⟩ | ⟨hne, hold⟩
      · rw [← h.past hd]
        rfl
      · exact h.past hold
    · rw [hds, List.length_set, performed_append_of_none rfl]
      exact h.begun

/-- Whatever else goes on, a delivery can always go on by itself. -/
theorem Run.deliver {first : Session c} (h : Run first es s) {j : Nat} {d : Dispatch c.type}
    (hd : s.dispatches[j]? = some d) {past : List Performed} {q : Program Unit}
    (hleads : d.rest.Leads past q) :
    ∃ d' : Dispatch c.type, d'.rest = q ∧ d'.finished = d.finished ∧
      Run first (es ++ past.map (.performed j)) (s.setDispatch j d') := by
  generalize hp : d.rest = p at hleads
  induction hleads generalizing es s d with
  | refl =>
    have hsame : s.setDispatch j d = s := by
      obtain ⟨hj, rfl⟩ := List.getElem?_eq_some_iff.mp hd
      rw [setDispatch, List.set_getElem_self]
    refine ⟨d, hp, rfl, ?_⟩
    rw [hsame]
    exact (List.append_nil es).symm ▸ h
  | @step effect next r past q _ ih =>
    have hj : j < s.dispatches.length := (List.getElem?_eq_some_iff.mp hd).1
    obtain ⟨d', hrest, hfinished, hrun⟩ := ih (h.step (.perform hd hp r))
      (List.getElem?_set_self hj) rfl
    refine ⟨d', hrest, hfinished, ?_⟩
    rw [List.append_assoc] at hrun
    rw [setDispatch, setDispatch, List.set_set] at hrun
    exact hrun

theorem mem_doneBy {j : Nat} {p : Performed} : p ∈ doneBy j es ↔ .performed j p ∈ es := by
  simp only [doneBy, performed, List.mem_map, List.mem_filter, List.mem_filterMap,
    decide_eq_true_eq]
  constructor
  · rintro ⟨⟨i, q⟩, ⟨⟨e, he, hperformed⟩, rfl⟩, rfl⟩
    cases e <;> cases hperformed
    exact he
  · intro h
    exact ⟨(j, p), ⟨⟨_, h, rfl⟩, rfl⟩, rfl⟩

theorem Run.traced (h : Run (start c) es s) : Traced es s := by
  induction h with
  | refl => exact ⟨rfl, nofun, fun _ hx ↦ absurd hx List.not_mem_nil⟩
  | step _ hstep ih => exact ih.step hstep

theorem Step.cancelled (h : Step s e t) (ht : t.cancelled) : s.cancelled ∨ e = .cancelled := by
  cases h with
  | cancel => exact .inr rfl
  | resolve | refuse | begin | breakDown | skip | ask | receive | receiveFailed | report | dispatch
  | stop | perform | finish | leave => exact .inl ht

/-- A session that is cancelled was cancelled by someone. -/
theorem Run.mem_of_cancelled (h : Run (start c) es s) (hs : s.cancelled) : .cancelled ∈ es := by
  induction h with
  | refl => exact absurd hs nofun
  | step _ hstep ih =>
    rcases hstep.cancelled hs with ht | rfl
    · exact List.mem_append_left _ (ih ht)
    · exact List.mem_append_right _ (List.mem_singleton_self _)

/-- Whether an event is one of those that happen while the queue is being found. -/
def Event.IsPreparation (e : Event) : Prop := e = .cancelled ∨ ∃ p, e = .resolved p

theorem Step.of_resolving (h : Step s e t) (hs : s.Sound) {rest : Program (Except Error String)}
    (hlife : t.life = .resolving rest) :
    (e = .cancelled ∧ s.life = .resolving rest) ∨
      ∃ effect next r, s.life = .resolving (.perform effect next) ∧ e = .resolved ⟨effect, r⟩ ∧
        rest = next r := by
  cases h with
  | cancel => exact .inl ⟨rfl, hlife⟩
  | resolve hbefore r =>
    cases hlife
    exact .inr ⟨_, _, r, hbefore, rfl, rfl⟩
  | report hduty r => exact absurd (hduty.symm.trans (hs.of_resolving hlife).2) nofun
  | perform hd hrest r =>
    rw [(hs.of_resolving hlife).1] at hd
    cases hd
  | refuse | begin | breakDown | skip | ask | receive | receiveFailed | dispatch | stop | finish
  | leave => cases hlife

/-- As long as its queue is being found, a session does nothing else. -/
theorem Run.of_resolving (h : Run (start c) es s) {rest : Program (Except Error String)}
    (hlife : s.life = .resolving rest) :
    c.queueUrl.run.Leads (resolved es) rest ∧ ∀ e ∈ es, e.IsPreparation := by
  induction h generalizing rest with
  | refl =>
    cases hlife
    exact ⟨.refl _, List.forall_mem_nil _⟩
  | @step s t es e hrun hstep ih =>
    have hresolved : resolved (es ++ [e]) = resolved es ++ [e].filterMap Event.resolved? :=
      List.filterMap_append
    rcases hstep.of_resolving (hrun.sound (sound_start c)) hlife with
      ⟨rfl, hbefore⟩ | ⟨effect, next, r, hbefore, rfl, rfl⟩
    · obtain ⟨hleads, hes⟩ := ih hbefore
      refine ⟨?_, List.forall_mem_append.mpr ⟨hes, List.forall_mem_singleton.mpr (.inl rfl)⟩⟩
      rw [hresolved]
      exact (List.append_nil (resolved es)).symm ▸ hleads
    · obtain ⟨hleads, hes⟩ := ih hbefore
      refine ⟨?_, List.forall_mem_append.mpr ⟨hes, List.forall_mem_singleton.mpr (.inr ⟨_, rfl⟩)⟩⟩
      rw [hresolved]
      exact hleads.perform r

end MessageBus.Session
