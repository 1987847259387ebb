import MessageBus.Proofs.Bus.Basic
import MessageBus.Proofs.Replace
/-!
What holds of every bus that can come to be (`Reachable.valid`): its broker is sound, the messages
that subscriptions have in hand are vouched for and have different receipts, and every delivery has
got where it is by the effects that it has performed. The broker changes in a step as an operation
of the moment changes it (`Step.change`), and what subscriptions have in hand is what they had, or
has just been received (`Step.inHand`).
-/

set_option autoImplicit false
set_option relaxedAutoImplicit false

namespace MessageBus.Bus

/-- The received messages that wait for a handler or were handed out to one. -/
def inHand (s : Bus) : List Received :=
  s.consumers.flatMap Consumer.waiting ++ s.dispatches.map (·.message)

structure Valid (s : Bus) : Prop where
  sound : s.broker.Sound s.serial
  vouched : ∀ r ∈ s.inHand, s.broker.Vouches s.serial r
  distinct : (s.inHand.map (·.receipt)).Nodup
  led : ∀ d ∈ s.dispatches,
    (Delivery.run d.type d.prototype d.queueUrl d.message).Leads d.past d.rest

variable {s t : Bus} {e : Event}

section Operations

/-- What an operation of the broker does to a bus. -/
structure Operated (s : Bus) (m : Moment) (deed : Deed) (t : Bus) : Prop where
  isAddressed : t.broker.IsAddressed
  change : Broker.Change m s.broker deed t.broker
  serial : t.serial = s.serial + 1
  clock : t.clock = s.clock
  consumers : t.consumers = s.consumers
  dispatches : t.dispatches = s.dispatches

theorem deed_error (c : Call) (e : Error) : c.deed (.error e) = .other := by
  cases c <;> rfl

theorem operated_answer (h : s.broker.IsAddressed) (time : Instant) (c : Call) :
    Operated s ⟨s.clock, time, s.serial⟩ (c.deed (s.answer time c).1) (s.answer time c).2 := by
  rw [answer, operate]
  split
  · next reply b hanswer =>
    obtain ⟨haddressed, hchange⟩ := Broker.change_answer h c hanswer
    exact ⟨haddressed, hchange, rfl, rfl, rfl, rfl⟩
  · next e hanswer =>
    rw [deed_error]
    exact ⟨h, .none _ fun _ ↦ rfl, rfl, rfl, rfl, rfl⟩

theorem operated_enqueue (h : s.broker.IsAddressed) (time : Instant) (queueUrl body : String) :
    Operated s ⟨s.clock, time, s.serial⟩ .other
      (s.operate time fun m b ↦ b.enqueue m queueUrl body).2 := by
  rw [operate]
  split
  · next id b henqueue =>
    obtain ⟨haddressed, hchange⟩ := Broker.change_enqueue h henqueue
    exact ⟨haddressed, hchange, rfl, rfl, rfl, rfl⟩
  · exact ⟨h, .none _ fun _ ↦ rfl, rfl, rfl, rfl, rfl⟩

end Operations

/-- A step leaves the broker as it is, or operates on it. -/
theorem Step.broker (h : Step s e t) (hs : s.broker.IsAddressed) :
    (t.broker = s.broker ∧ t.serial = s.serial ∧ e.deed = .other) ∨
      ∃ time u, Operated s ⟨s.clock, time, s.serial⟩ e.deed u ∧ t.broker = u.broker ∧
        t.serial = u.serial := by
  cases h with
  | wait | subscribe | signal | dispatch | finish => exact .inl ⟨rfl, rfl, rfl⟩
  | call time c => exact .inr ⟨time, _, operated_answer hs time c, rfl, rfl⟩
  | enqueue time queueUrl body =>
    exact .inr ⟨time, _, operated_enqueue hs time queueUrl body, rfl, rfl⟩
  | receive hc hrequest time hp => exact .inr ⟨time, _, operated_answer hs time _, rfl, rfl⟩
  | receiveNothing hc hrequest time hnothing =>
    exact .inr ⟨time, _, operated_answer hs time _, rfl, rfl⟩
  | performCall hd hrest time => exact .inr ⟨time, _, operated_answer hs time _, rfl, rfl⟩
  | @perform j d hd effect he next hrest r =>
    refine .inl ⟨rfl, rfl, ?_⟩
    cases effect with
    | call c => exact absurd rfl (he c)
    | lookup | await | settle | stamp | policyIds | count | pause | handle | report => rfl

/-- The messages of the broker change in a step as they do at the present moment. -/
theorem Step.change (h : Step s e t) (hs : s.broker.IsAddressed) :
    ∃ m : Moment, m.millis = s.clock ∧ m.serial = s.serial ∧
      Broker.Change m s.broker e.deed t.broker := by
  rcases h.broker hs with ⟨hbroker, -, hdeed⟩ | ⟨time, u, hu, hbroker, -⟩
  · refine ⟨⟨s.clock, .epoch, s.serial⟩, rfl, rfl, ?_⟩
    rw [hdeed]
    exact .none _ fun _ ↦ by rw [hbroker]
  · refine ⟨⟨s.clock, time, s.serial⟩, rfl, rfl, ?_⟩
    rw [hbroker]
    exact hu.change

theorem Step.serial_le (h : Step s e t) (hs : s.broker.IsAddressed) : s.serial ≤ t.serial := by
  rcases h.broker hs with ⟨-, hserial, -⟩ | ⟨time, u, hu, -, hserial⟩
  · exact Nat.le_of_eq hserial.symm
  · rw [hserial, hu.serial]
    exact Nat.le_succ _

theorem Step.sound (h : Step s e t) (hs : s.broker.Sound s.serial) :
    t.broker.Sound t.serial := by
  rcases h.broker hs.isAddressed with ⟨hbroker, hserial, -⟩ | ⟨time, u, hu, hbroker, hserial⟩
  · rwa [hbroker, hserial]
  · rw [hbroker, hserial, hu.serial]
    exact hs.change hu.isAddressed hu.change

theorem Step.vouches (h : Step s e t) (hs : s.broker.IsAddressed) {r : Received}
    (hr : s.broker.Vouches s.serial r) : t.broker.Vouches t.serial r := by
  rcases h.broker hs with ⟨hbroker, hserial, -⟩ | ⟨time, u, hu, hbroker, hserial⟩
  · rwa [hbroker, hserial]
  · rw [hbroker, hserial, hu.serial]
    exact hr.change hu.change

/-- What a receive hands out is vouched for. -/
theorem Step.vouches_of_returned (h : Step s e t) (hs : s.broker.Sound s.serial) {url : String}
    {messages : List Received} (hdeed : e.deed = .returned url messages) {r : Received}
    (hr : r ∈ messages) : t.broker.Vouches t.serial r := by
  rcases h.broker hs.isAddressed with ⟨-, -, hother⟩ | ⟨time, u, hu, hbroker, hserial⟩
  · exact absurd (hother.symm.trans hdeed) nofun
  · rw [hbroker, hserial, hu.serial]
    exact Broker.Sound.vouches_of_mem (m := ⟨s.clock, time, s.serial⟩) hs hu.change hdeed hr

section InHand

theorem waiting_of_signal {p q : Polling} {command : Option Polling.Command} {now : Nat}
    {signal : Polling.Event}
    (he : signal = .tick now ∨ signal = .cancelled ∨ signal = .drained)
    (h : p.step signal = some (q, command)) (type : PayloadType)
    (request : Option ReceiveRequest) : Consumer.waiting ⟨type, q, request⟩ = [] := by
  rcases he with rfl | rfl | rfl
  · simp only [Polling.step] at h
    split at h
    · next hidle =>
      split at h <;> cases h <;> simp [Consumer.waiting, hidle.1]
    · cases h
  · simp only [Polling.step] at h
    cases hphase : p.phase <;> simp only [hphase] at h <;> cases h <;> rfl
  · simp only [Polling.step] at h
    split at h
    · cases h
      rfl
    · cases h

theorem waiting_dispatchPhase (messages : List Received) :
    (match Polling.dispatchPhase messages with
      | .dispatching waiting => waiting
      | _ => []) = messages := by
  cases messages <;> rfl

/-- A reply finds nothing waiting, and what it brings waits afterwards. -/
theorem waiting_of_reply {c : Consumer} {q : Polling} {command : Option Polling.Command}
    {reply : Except Error (List Received)}
    (h : c.polling.step (replyEvent reply) = some (q, command)) (request : Option ReceiveRequest) :
    c.waiting = [] ∧ Consumer.waiting ⟨c.type, q, request⟩ = reply.toOption.getD [] := by
  cases reply with
  | ok messages =>
    simp only [replyEvent, Polling.step] at h
    split at h
    · next hreceiving =>
      cases h
      exact ⟨by simp [Consumer.waiting, hreceiving], waiting_dispatchPhase messages⟩
    · cases h
  | error e =>
    simp only [replyEvent, Polling.step] at h
    split at h
    · next hreceiving =>
      cases h
      exact ⟨by simp [Consumer.waiting, hreceiving], rfl⟩
    · cases h

theorem waiting_of_slotTaken {c : Consumer} {q : Polling} {m : Received}
    (h : c.polling.step .slotTaken = some (q, some (.dispatch m))) :
    c.waiting = m :: Consumer.waiting ⟨c.type, q, c.request⟩ := by
  simp only [Polling.step] at h
  split at h
  · next first rest hphase =>
    split at h
    · cases h
      rw [Consumer.waiting, hphase]
      exact congrArg (m :: ·) (waiting_dispatchPhase rest).symm
    · cases h
  · cases h

theorem waiting_of_handlerFinished {c : Consumer} {q : Polling}
    {command : Option Polling.Command}
    (h : c.polling.step .handlerFinished = some (q, command)) :
    Consumer.waiting ⟨c.type, q, c.request⟩ = c.waiting := by
  simp only [Polling.step] at h
  split at h
  · cases h
    rfl
  · cases h

theorem inHand_eq (hconsumers : t.consumers.flatMap Consumer.waiting =
    s.consumers.flatMap Consumer.waiting)
    (hdispatches : t.dispatches.map (·.message) = s.dispatches.map (·.message)) :
    t.inHand = s.inHand := by
  rw [inHand, inHand, hconsumers, hdispatches]

/-- What is in hand after a step was in hand before, or has just been received. -/
theorem Step.inHand (h : Step s e t) (hs : s.broker.IsAddressed) :
    ∃ new kept, t.inHand.Perm (new ++ kept) ∧ kept.Sublist s.inHand ∧
      (new = [] ∨ ∃ url, e.deed = .returned url new) := by
  have hstays (heq : t.inHand = s.inHand) : ∃ new kept, t.inHand.Perm (new ++ kept) ∧
      kept.Sublist s.inHand ∧ (new = [] ∨ ∃ url, e.deed = .returned url new) :=
    ⟨[], s.inHand, heq ▸ .refl _, .refl _, .inl rfl⟩
  cases h with
  | wait => exact hstays rfl
  | call time c =>
    have ht := operated_answer hs time c
    exact hstays (inHand_eq (by rw [ht.consumers]) (by rw [ht.dispatches]))
  | enqueue time queueUrl body =>
    have ht := operated_enqueue hs time queueUrl body
    exact hstays (inHand_eq (by rw [ht.consumers]) (by rw [ht.dispatches]))
  | @receiveNothing i c hc request hrequest time hnothing =>
    have ht := operated_answer hs time (.receiveMessage request)
    exact hstays (inHand_eq (by rw [ht.consumers]) (by rw [ht.dispatches]))
  | subscribe type settings queueUrl hp =>
    rw [Polling.start?] at hp
    split at hp
    · cases hp
      exact hstays (inHand_eq (by simp [Consumer.waiting]) rfl)
    · cases hp
  | @signal i c hc signal he p command hp =>
    obtain ⟨before, after, hold, hnew⟩ := flatMap_set hc Consumer.waiting
      { c with polling := p, request := requestOf command }
    refine ⟨[], _, .refl _, ?_, .inl rfl⟩
    rw [waiting_of_signal he hp] at hnew
    simp only [Bus.inHand, setConsumer, hold, hnew]
    exact ((List.sublist_append_right _ _).append_left before).append_right _
  | @receive i c hc request hrequest time p command hp =>
    have ht := operated_answer hs time (.receiveMessage request)
    obtain ⟨before, after, hold, hnew⟩ :=
      flatMap_set hc Consumer.waiting { c with polling := p, request := none }
    obtain ⟨hnone, hreply⟩ := waiting_of_reply hp none
    rw [hnone] at hold
    rw [hreply] at hnew
    refine ⟨(s.answer time (.receiveMessage request)).1.toOption.getD [], s.inHand, ?_, .refl _, ?_⟩
    · rw [List.perm_iff_count]
      intro r
      simp only [Bus.inHand, setConsumer, ht.consumers, ht.dispatches, hold, hnew,
        List.count_append, List.count_nil]
      omega
    · cases hanswer : (s.answer time (.receiveMessage request)).1 with
      | ok messages => exact .inr ⟨request.queueUrl, rfl⟩
      | error e => exact .inl rfl
  | @dispatch i c hc p m hp prototype =>
    obtain ⟨before, after, hold, hnew⟩ := flatMap_set hc Consumer.waiting { c with polling := p }
    rw [waiting_of_slotTaken hp] at hold
    refine ⟨[], s.inHand, ?_, .refl _, .inl rfl⟩
    rw [List.perm_iff_count]
    intro r
    simp only [Bus.inHand, setConsumer, hold, hnew, List.map_append, List.map_cons, List.map_nil,
      Dispatch.start, List.count_append, List.count_cons, List.count_nil]
    omega
  | @performCall j d hd c next hrest time =>
    have ht := operated_answer hs time c
    refine hstays (inHand_eq (by rw [setDispatch, ht.consumers]) ?_)
    rw [setDispatch, ht.dispatches]
    exact map_set_of_eq hd _ rfl
  | perform hd he hrest r => exact hstays (inHand_eq rfl (map_set_of_eq hd _ rfl))
  | @finish j d hd hrest hopen c hc p command hp =>
    obtain ⟨before, after, hold, hnew⟩ := flatMap_set hc Consumer.waiting { c with polling := p }
    refine hstays (inHand_eq ?_ (map_set_of_eq hd _ rfl))
    rw [setDispatch, setConsumer, hold, hnew, waiting_of_handlerFinished hp]

end InHand

theorem mem_dispatches_operate {α : Type} {time : Instant}
    {f : Moment → Broker → Broker.Result α} {d : Dispatch}
    (hd : d ∈ (s.operate time f).2.dispatches) : d ∈ s.dispatches := by
  rw [operate] at hd
  split at hd <;> exact hd

/-- How a delivery of a bus has come about in a step. -/
inductive Dispatch.Onward (s : Bus) (e : Event) (d : Dispatch) : Prop
  | started (i : Nat) (c : Consumer) (prototype : Payload) (m : Received)
    (hd : d = .start i c prototype m)
  | stays (old : Dispatch) (j : Nat) (hold : s.dispatches[j]? = some old)
    (finished : Bool) (hd : d = { old with finished := finished })
  | goesOn (old : Dispatch) (j : Nat) (hold : s.dispatches[j]? = some old) (effect : Effect)
    (next : effect.Result → Program Unit) (hrest : old.rest = .perform effect next)
    (r : effect.Result) (hevent : e = .performed j ⟨effect, r⟩)
    (hd : d = old.after effect r (next r))

theorem Step.onward (h : Step s e t) {d : Dispatch} (hd : d ∈ t.dispatches) : d.Onward s e := by
  have hstays {d : Dispatch} (hd : d ∈ s.dispatches) : d.Onward s e := by
    obtain ⟨j, hj⟩ := List.mem_iff_getElem?.mp hd
    exact .stays d j hj d.finished rfl
  cases h with
  | wait | subscribe | signal => exact hstays hd
  | call | enqueue | receive | receiveNothing =>
    exact hstays (mem_dispatches_operate hd)
  | dispatch hc hp prototype =>
    rcases List.mem_append.mp hd with hd | hd
    · exact hstays hd
    · exact .started _ _ prototype _ (List.mem_singleton.mp hd)
  | performCall hold hrest time =>
    rcases List.mem_or_eq_of_mem_set hd with hd | hd
    · exact hstays (mem_dispatches_operate hd)
    · exact .goesOn _ _ hold _ _ hrest _ rfl hd
  | perform hold he hrest r =>
    rcases List.mem_or_eq_of_mem_set hd with hd | hd
    · exact hstays hd
    · exact .goesOn _ _ hold _ _ hrest r rfl hd
  | finish hold hrest hopen hc hp =>
    rcases List.mem_or_eq_of_mem_set hd with hd | hd
    · exact hstays hd
    · exact .stays _ _ hold true hd

/-- Deliveries lead through the effects that they performed. -/
theorem Step.led (h : Step s e t)
    (hs : ∀ d ∈ s.dispatches,
      (Delivery.run d.type d.prototype d.queueUrl d.message).Leads d.past d.rest) :
    ∀ d ∈ t.dispatches,
      (Delivery.run d.type d.prototype d.queueUrl d.message).Leads d.past d.rest := by
  intro d hd
  cases h.onward hd with
  | started i c prototype m hd =>
    subst hd
    exact .refl _
  | stays old j hold finished hd =>
    subst hd
    exact hs old (List.mem_of_getElem? hold)
  | goesOn old j hold effect next hrest r hevent hd =>
    subst hd
    have hled := hs old (List.mem_of_getElem? hold)
    rw [hrest] at hled
    exact hled.perform r

theorem valid_start (identity : BrokerIdentity) : (start identity).Valid where
  sound := Broker.sound_start identity 0
  vouched _ hr := absurd hr List.not_mem_nil
  distinct := List.nodup_nil
  led _ hd := absurd hd List.not_mem_nil

theorem Step.valid (h : Step s e t) (hs : s.Valid) : t.Valid := by
  obtain ⟨new, kept, hperm, hkept, hnew⟩ := h.inHand hs.sound.isAddressed
  have hold {r : Received} (hr : r ∈ kept) : s.broker.Vouches s.serial r :=
    hs.vouched r (hkept.subset hr)
  refine ⟨h.sound hs.sound, ?_, ?_, h.led hs.led⟩
  · intro r hr
    rcases List.mem_append.mp (hperm.subset hr) with hr | hr
    · rcases hnew with rfl | ⟨url, hdeed⟩
      · exact absurd hr List.not_mem_nil
      · exact h.vouches_of_returned hs.sound hdeed hr
    · exact h.vouches hs.sound.isAddressed (hold hr)
  · obtain ⟨m, -, hserial, hchange⟩ := h.change hs.sound.isAddressed
    have hmade : (new.map (·.receipt)).Nodup ∧
        ∀ r ∈ new, ∃ index, r.receipt = m.id index := by
      rcases hnew with rfl | ⟨url, hdeed⟩
      · exact ⟨List.nodup_nil, nofun⟩
      · rw [hdeed] at hchange
        exact hchange.receipts
    rw [(hperm.map _).nodup_iff, List.map_append, List.nodup_append]
    refine ⟨hmade.1, hs.distinct.sublist (hkept.map _), ?_⟩
    intro receipt hreceipt other hother
    obtain ⟨r, hr, rfl⟩ := List.mem_map.mp hreceipt
    obtain ⟨r', hr', rfl⟩ := List.mem_map.mp hother
    obtain ⟨index, hindex⟩ := hmade.2 r hr
    have hbefore := (hold hr').made
    rw [← hserial] at hbefore
    rw [hindex]
    exact Moment.id_ne_of_isMadeBefore hbefore index

theorem Run.valid {P : Bus → Prop} {es : List Event} (h : RunWithin P s es t) (hs : s.Valid) :
    t.Valid := by
  induction h with
  | refl => exact hs
  | step _ hstep _ ih => exact hstep.valid ih

theorem Run.serial_le {P : Bus → Prop} {es : List Event} (h : RunWithin P s es t) (hs : s.Valid) :
    s.serial ≤ t.serial := by
  induction h with
  | refl => exact Nat.le_refl _
  | step hrun hstep _ ih =>
    exact Nat.le_trans ih (hstep.serial_le (Run.valid hrun hs).sound.isAddressed)

theorem Reachable.valid (h : s.Reachable) : s.Valid := by
  obtain ⟨identity, es, hrun⟩ := h
  exact Run.valid hrun (valid_start identity)

end MessageBus.Bus
