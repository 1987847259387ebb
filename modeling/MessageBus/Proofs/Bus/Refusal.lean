import MessageBus.Proofs.Broker.Refusal
import MessageBus.Proofs.Bus.Client
import MessageBus.Proofs.Bus.Consistency
import MessageBus.Scenario.Client
/-!
Operations that fail on a bus (`failed_operation`): what the broker holds is the same as before.

A receive that waits is a series of passes (`Receiving`), and anything may happen in between. It
fails at its first pass or not at all: a pass fails only where there is no queue, and queues are
never removed. As long as the queue is there, the receive of a scenario goes on in the same way
whatever would be done about an error (`poll_sameWhile`).
-/

set_option autoImplicit false
set_option relaxedAutoImplicit false

namespace MessageBus

/-- Whether two flows go on in the same way, as long as the state has a property whenever they look
at it. -/
inductive Flow.SameWhile {σ : Type} (P : σ → Prop) : Flow σ → Flow σ → Prop
  | refl (f : Flow σ) : SameWhile P f f
  | look {k k' : Nat → σ → Flow σ} (h : ∀ now s, P s → SameWhile P (k now s) (k' now s)) :
    SameWhile P (.look k) (.look k')
  | become (s : σ) {k k' : Flow σ} (h : SameWhile P k k') :
    SameWhile P (.become s k) (.become s k')
  | wait (due : Option Nat) (ready : σ → Bool) {k k' : Flow σ} (h : SameWhile P k k') :
    SameWhile P (.wait due ready k) (.wait due ready k')

/-- A receive fails only where there is no queue. -/
theorem Broker.contains_of_refuses {b : Broker} {request : ReceiveRequest} {e : Error}
    (h : b.Refuses (.call (.receiveMessage request)) e) :
    e = noQueue "ReceiveMessage" request.queueUrl ∧
      b.queues.contains request.queueUrl = false := by
  cases h with
  | fault h => cases h
  | topic _ h => cases h
  | queue _ h hnone =>
    cases h
    exact ⟨rfl, by rw [Table.contains, hnone]; rfl⟩

theorem Broker.exists_received {b : Broker} {request : ReceiveRequest}
    (h : b.queues.contains request.queueUrl) (m : Moment) :
    ∃ messages b', b.receive m request = .ok (messages, b') := by
  cases hreceive : b.receive m request with
  | ok result => exact ⟨result.1, result.2, rfl⟩
  | error e =>
    have hperform : b.perform m (.call (.receiveMessage request)) = .error e := hreceive
    rw [(contains_of_refuses (refuses_of_perform hperform)).2] at h
    cases h

namespace Scenario

/-- Whether the queue of a receive is there. -/
def HasQueue (request : ReceiveRequest) (w : World) : Prop :=
  w.broker.queues.contains request.queueUrl

/-- As long as its queue is there, a receive until a deadline does not fail: what would be done
about an error does not matter to it. The induction is on the passes that are to come. -/
theorem pollUntil_sameWhile (abandoned : World → Bool) (request : ReceiveRequest)
    (deadline passes : Nat) {k k' : Option (Except Error (List Received)) → Flow World}
    (hk : ∀ r, (∀ e, r ≠ some (.error e)) → k r = k' r) :
    Flow.SameWhile (HasQueue request) (pollUntil abandoned request deadline passes k)
      (pollUntil abandoned request deadline passes k') := by
  have hreturned (messages : List Received) :
      Flow.SameWhile (HasQueue request) (k (some (.ok messages))) (k' (some (.ok messages))) := by
    rw [hk (some (.ok messages)) nofun]
    exact .refl _
  induction passes with
  | zero =>
    refine .look fun now w hqueue ↦ ?_
    obtain ⟨messages, b', hreceive⟩ := Broker.exists_received hqueue ⟨now, w.date, w.serial⟩
    simp only [World.moment, World.operate, hreceive]
    exact .become _ (hreturned messages)
  | succ passes ih =>
    refine .look fun now w hqueue ↦ ?_
    obtain ⟨messages, b', hreceive⟩ := Broker.exists_received hqueue ⟨now, w.date, w.serial⟩
    simp only [World.moment, World.operate, hreceive]
    refine .become _ (.look fun now _ _ ↦ ?_)
    by_cases hends : endsReceive deadline now (.ok messages)
    · simp only [if_pos hends]
      exact hreturned messages
    · simp only [if_neg hends]
      refine .look fun now _ _ ↦ .wait _ _ (.look fun _ w _ ↦ ?_)
      by_cases habandoned : abandoned w
      · simp only [if_pos habandoned]
        show Flow.SameWhile _ (k none) (k' none)
        rw [hk none nofun]
        exact .refl _
      · simp only [if_neg habandoned]
        exact ih

theorem poll_sameWhile (abandoned : World → Bool) (request : ReceiveRequest) (passes : Nat)
    {k k' : Option (Except Error (List Received)) → Flow World}
    (hk : ∀ r, (∀ e, r ≠ some (.error e)) → k r = k' r) :
    Flow.SameWhile (HasQueue request) (poll abandoned request passes k)
      (poll abandoned request passes k') :=
  .look fun now _ _ ↦
    pollUntil_sameWhile abandoned request (now + passes * pollInterval) passes hk

end Scenario

namespace Bus

variable {s t u : Bus} {es : List Event} {request : ReceiveRequest}

/-- A receive that waits, with how many of its passes have found nothing, and its reply. Anything
may happen between its passes. -/
inductive Receiving (request : ReceiveRequest) :
    Bus → Nat → Except Error (List Received) → Bus → Prop
  | last (s : Bus) (time : Instant) :
    Receiving request s 0 (s.answer time (.receiveMessage request)).1
      (s.answer time (.receiveMessage request)).2
  | again {s t u : Bus} {es : List Event} {passes : Nat} {reply : Except Error (List Received)}
    (time : Instant) (hnothing : (s.answer time (.receiveMessage request)).1 = .ok [])
    (hrun : Run (s.answer time (.receiveMessage request)).2 es t)
    (h : Receiving request t passes reply u) : Receiving request s (passes + 1) reply u

/-- An operation that fails uses up its moment, and changes nothing else. -/
theorem eq_of_operate {α : Type} {time : Instant} {f : Moment → Broker → Broker.Result α}
    {e : Error} (h : s.operate time f = (.error e, t)) :
    t = { s with serial := s.serial + 1 } ∧
      f ⟨s.clock, time, s.serial⟩ s.broker = .error e := by
  rw [operate] at h
  split at h <;> cases h
  exact ⟨rfl, ‹_›⟩

theorem contains_of_received {time : Instant} {messages : List Received}
    (h : (s.answer time (.receiveMessage request)).1 = .ok messages) :
    s.broker.queues.contains request.queueUrl := by
  cases hfind : s.broker.queues.find? request.queueUrl with
  | some queue => exact Table.contains_of_find? hfind
  | none =>
    have hfails : s.broker.answer ⟨s.clock, time, s.serial⟩ (.receiveMessage request) =
        .error (Broker.noQueue "ReceiveMessage" request.queueUrl) := by
      rw [Broker.answer, Broker.receive, hfind]
    rw [answer, operate, hfails] at h
    cases h

/-- A queue is still there when a receive goes on after a pass. -/
theorem contains_again {url : String} {time : Instant}
    (hrun : Run (s.answer time (.receiveMessage request)).2 es t)
    (hqueue : s.broker.queues.contains url) : t.broker.queues.contains url := by
  have hcall : Run s _ (s.answer time (.receiveMessage request)).2 :=
    (RunWithin.refl trivial).step (.call s time _) trivial
  exact hrun.contains_queues (hcall.contains_queues hqueue)

/-- A receive whose queue is there does not fail. The induction is on its passes. -/
theorem Receiving.ok {passes : Nat} {reply : Except Error (List Received)}
    (h : Receiving request s passes reply t)
    (hqueue : s.broker.queues.contains request.queueUrl) : reply.isOk := by
  induction h with
  | last s time =>
    obtain ⟨messages, b', hreceive⟩ := Broker.exists_received hqueue ⟨s.clock, time, s.serial⟩
    rw [answer, operate, Broker.answer, hreceive]
    rfl
  | again time hnothing hrun _ ih => exact ih (contains_again hrun hqueue)

/-- A receive that fails has failed at its first pass. -/
theorem Receiving.of_error {passes : Nat} {e : Error}
    (h : Receiving request s passes (.error e) t) :
    passes = 0 ∧ ∃ time, s.answer time (.receiveMessage request) = (.error e, t) := by
  generalize hreply : (.error e : Except Error (List Received)) = reply at h
  cases h with
  | last s time => exact ⟨rfl, time, rfl⟩
  | again time hnothing hrun h =>
    subst hreply
    cases h.ok (contains_again hrun (contains_of_received hnothing))

/-- Operations that fail change nothing. Take any operation of a broker, and store into the broker
one thing after another, as the operation does; its reply and the broker are the same as if it had
been done at once. If it fails, it has stored nothing, and the reason was there before: something
was wrong with what it asked for, or there was no such topic, queue or message. So the bus is as it
was, but for the moment that the operation has used up. A receive that waits fails at its first pass
or not at all, whatever happens between its passes; and as long as its queue is there, it makes no
difference to the receive of a scenario what would be done about an error. -/
theorem failed_operation (s : Bus) :
    (∀ m o, Broker.Stepwise.run (Broker.Stepwise.perform m o) s.broker =
        Broker.Stepwise.atOnce s.broker (s.broker.perform m o) ∧
      ∀ e b, Broker.Stepwise.run (Broker.Stepwise.perform m o) s.broker = (.error e, b) →
        b = s.broker ∧ s.broker.Refuses o e) ∧
    (∀ time o e t, s.operate time (fun m b ↦ b.perform m o) = (.error e, t) →
      t = { s with serial := s.serial + 1 } ∧ s.broker.Refuses o e) ∧
    (∀ request passes e t, Receiving request s passes (.error e) t →
      passes = 0 ∧ t = { s with serial := s.serial + 1 }) ∧
    ∀ abandoned request passes k k',
      (∀ r : Option (Except Error (List Received)), (∀ e, r ≠ some (.error e)) → k r = k' r) →
      Flow.SameWhile (Scenario.HasQueue request) (Scenario.poll abandoned request passes k)
        (Scenario.poll abandoned request passes k') := by
  refine ⟨fun m o ↦ ⟨?_, fun e b h ↦ ?_⟩, ?_, ?_, ?_⟩
  · exact Broker.Stepwise.run_perform m o
  · exact Broker.Stepwise.refuses_of_run h
  · intro time o e t h
    obtain ⟨ht, hperform⟩ := eq_of_operate h
    exact ⟨ht, Broker.refuses_of_perform hperform⟩
  · intro request passes e t h
    obtain ⟨hpasses, time, hanswer⟩ := h.of_error
    exact ⟨hpasses, (eq_of_operate hanswer).1⟩
  · exact fun abandoned request passes k k' hk ↦
      Scenario.poll_sameWhile abandoned request passes hk

/-- Two attributes are set, one of them a redrive policy that cannot be read, and a receive waits at
a queue that is not there. -/
theorem failed_operation_sample :
    let m : Moment := ⟨0, .epoch, 9⟩
    let set : Broker.Operation := .call (.setQueueAttributes sampleUrl
      (.ofList [("DelaySeconds", "5"), (Broker.redriveAttribute, "\x7b\x7d")]))
    let request : ReceiveRequest := ⟨"nowhere", 1, 20, 30⟩
    (∃ e b, Broker.Stepwise.run (Broker.Stepwise.perform m set) sampleBus.broker =
      (.error e, b) ∧ b = sampleBus.broker) ∧
    ∃ e t, Receiving request sampleBus 0 (.error e) t ∧
      t = { sampleBus with serial := sampleBus.serial + 1 } := by
  intro m set request
  obtain ⟨hstores, -, hreceives, -⟩ := failed_operation sampleBus
  have hfault : set.fault? = some (Broker.invalidRedrive "\x7b\x7d") := by decide +kernel
  have hset : Broker.Stepwise.run (Broker.Stepwise.perform m set) sampleBus.broker =
      (.error (Broker.invalidRedrive "\x7b\x7d"), sampleBus.broker) := by
    rw [Broker.Stepwise.run_perform, (Broker.Refuses.fault hfault).perform]
    rfl
  have hnone : sampleBus.broker.queues.find? "nowhere" = none := by decide +kernel
  have hfails : sampleBus.broker.answer ⟨sampleBus.clock, .epoch, sampleBus.serial⟩
      (.receiveMessage request) = .error (Broker.noQueue "ReceiveMessage" "nowhere") :=
    Broker.Refuses.perform (o := .call (.receiveMessage request)) (.queue rfl rfl hnone) _
  have hreceive : Receiving request sampleBus 0
      (.error (Broker.noQueue "ReceiveMessage" "nowhere"))
      (sampleBus.answer .epoch (.receiveMessage request)).2 := by
    have hanswer : (sampleBus.answer .epoch (.receiveMessage request)).1 =
        .error (Broker.noQueue "ReceiveMessage" "nowhere") := by
      rw [answer, operate, hfails]
    exact hanswer ▸ .last sampleBus .epoch
  exact ⟨⟨_, _, hset, ((hstores m set).2 _ _ hset).1⟩, _, _, hreceive,
    (hreceives request 0 _ _ hreceive).2⟩

end Bus

end MessageBus
