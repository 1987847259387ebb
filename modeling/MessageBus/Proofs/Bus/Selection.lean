import MessageBus.Proofs.Broker.Selection
import MessageBus.Proofs.Bus.Consistency
/-!
One pass of a receive, from the state before it to the state after it (`pass_selects`). What the
pass selects is said place by place (`Sweep.select`), the redrive policy that it goes by is the one
that the attributes of the queue spell out (`Broker.IsIndexed.redrive?_eq_some_iff`), and nothing
else changes.
-/

set_option autoImplicit false
set_option relaxedAutoImplicit false

namespace MessageBus

namespace Broker

variable {b : Broker} {queue : Queue}

/-- The messages of a queue move where its redrive policy can be read and has the ARN of a queue
that exists. -/
theorem IsIndexed.redrive?_eq_some_iff (h : b.IsIndexed) {target : String} {limit : Nat} :
    b.redrive? queue = some (target, limit) ↔
      ∃ policy name, queue.attributes.find? redriveAttribute = some policy ∧
        Redrive.read? policy = some ⟨b.queueArnFor name, limit⟩ ∧
        target = b.queueUrlFor name ∧ b.queues.contains target := by
  unfold redrive?
  simp only [Option.bind_eq_bind, Option.bind_eq_some_iff]
  constructor
  · rintro ⟨policy, hpolicy, ⟨arn, limit⟩, hread, url, hurl, ⟨⟩⟩
    obtain ⟨name, rfl, rfl, hcontains⟩ := h.found_iff.mp hurl
    exact ⟨policy, name, hpolicy, hread, rfl, hcontains⟩
  · rintro ⟨policy, name, hpolicy, hread, rfl, hcontains⟩
    exact ⟨policy, hpolicy, _, hread, _, h.found_iff.mpr ⟨name, rfl, rfl, hcontains⟩, rfl⟩

end Broker

namespace Bus

variable {s : Bus} {url : String} {queue : Queue} {m : Moment}

/-- One pass of a receive over a queue, with room for so many messages, at a moment of its own. Of
the visible messages that have receives left it hands out the first ones, as many as there is room
for, in the order of the queue and each under a new receipt; they stay at their places, received
once more and out of sight for the time that was asked for. The visible messages whose receives are
used up and that have fewer messages to be handed out in front of them than there is room for are
removed: all of them, if the pass does not use its room. If the redrive policy of the queue can be
read and has the ARN of a queue that exists, this queue has them at its end afterwards, in their
order, as messages that have just arrived; without such a policy no receives are used up. All other
messages stay as they are and in their order, on this queue and on the others, and so do attributes,
ARNs and topics. Working on the queue in place comes to the same. Counts that are below the largest
half word are half words afterwards. -/
theorem pass_selects (hs : s.Reachable) (hqueue : s.broker.queues.find? url = some queue)
    (hserial : s.serial ≤ m.serial) (room visibilityMs : Nat) :
    let redrive := s.broker.redrive? queue
    let t : Sweep.Terms := ⟨m, visibilityMs, redrive.map Prod.snd⟩
    let chosen := Sweep.select t room 0 queue.messages
    let after := s.broker.sweepQueue m url queue room visibilityMs
    after.1 = chosen.received ∧
      (∀ other, after.2.messages other =
        (if url = other then chosen.kept else s.broker.messages other) ++
          if redrive.map Prod.fst = some other then chosen.dead.map (·.moved m.millis) else []) ∧
      (chosen.received.length < room → chosen.dead = queue.messages.filter t.removes) ∧
      (∀ target limit, redrive = some (target, limit) ↔
        ∃ policy name, queue.attributes.find? Broker.redriveAttribute = some policy ∧
          Redrive.read? policy = some ⟨s.broker.queueArnFor name, limit⟩ ∧
          target = s.broker.queueUrlFor name ∧ s.broker.queues.contains target) ∧
      ((after.1.map (·.receipt)).Nodup ∧ ∀ r ∈ after.1, ¬ IsMadeBefore s.serial r.receipt) ∧
      (Broker.SameDirectory s.broker after.2 ∧ after.2.topics = s.broker.topics) ∧
      ((Sweep.Walk.behind [] queue.messages [] []).run t room).result = chosen ∧
      ((∀ x ∈ queue.messages, x.receiveCount + 1 < halfWordBound) →
        ∀ x ∈ chosen.kept, x.receiveCount < halfWordBound) ∧
      ∀ request : ReceiveRequest, request.queueUrl = url → s.broker.receive m request =
        .ok (s.broker.sweepQueue m url queue (max request.maxNumberOfMessages 1)
          (request.visibilityTimeoutSeconds * 1000)) := by
  intro redrive t chosen after
  have hindexed := hs.isIndexed
  have hscan : Sweep.scan t room 0 queue.messages = chosen := Sweep.scan_eq_select ..
  have hreceived : after.1 = chosen.received := congrArg Sweep.received hscan
  have hmessages := Broker.messages_sweepQueue hindexed.isAddressed hqueue m room visibilityMs
  refine ⟨hreceived, hscan ▸ hmessages, Sweep.dead_select_of_lt, fun target limit ↦
    hindexed.redrive?_eq_some_iff, ⟨Sweep.nodup_receipts_scan, ?_⟩,
    ⟨.sweepQueue hqueue .., Broker.topics_sweepQueue ..⟩, Sweep.Walk.result_run_eq_select ..,
    ?_, ?_⟩
  · intro r hr hmade
    obtain ⟨-, -, -, ⟨i, -, hreceipt⟩, -⟩ := Sweep.exists_of_mem_received hr
    exact Moment.id_ne_of_isMadeBefore (hmade.mono hserial) i hreceipt.symm
  · intro hcounts x hx
    rw [← hscan] at hx
    rcases Sweep.mem_of_mem_kept hx with hx | ⟨old, hold, r, -, -, rfl⟩
    · exact Nat.lt_of_succ_lt (hcounts x hx)
    · exact hcounts old hold
  · rintro request rfl
    rw [Broker.receive, hqueue]

/-- A bus with a queue whose messages move to its own end after one receive. Its first message was
received once, two others were not. -/
def sampleReturning : Bus :=
  let s := ((start {}).answer .epoch (.createQueue "orders")).2
  let s := (s.answer .epoch (.setQueueAttributes sampleUrl (.ofList
    [(Broker.redriveAttribute, Redrive.text ⟨s.broker.queueArnFor "orders", 1⟩)]))).2
  let s := (s.operate .epoch fun m b ↦ b.enqueue m sampleUrl "first").2
  let s := (s.answer .epoch sampleReceive).2
  let s := (s.operate .epoch fun m b ↦ b.enqueue m sampleUrl "second").2
  (s.operate .epoch fun m b ↦ b.enqueue m sampleUrl "third").2

theorem reachable_sampleReturning : sampleReturning.Reachable :=
  ((((((reachable_start {}).step (.call _ _ _)).step (.call _ _ _)).step
    (.enqueue _ _ _ _)).step (.call _ _ _)).step (.enqueue _ _ _ _)).step (.enqueue _ _ _ _)

theorem isSome_sampleReturning : (sampleReturning.broker.queues.find? sampleUrl).isSome := by
  decide +kernel

/-- A pass with room for one message moves the first one to the end of the same queue, and returns
the second one; the third one, behind it, is not reached. -/
theorem pass_selects_sample :
    let s := sampleReturning
    let m : Moment := ⟨0, .epoch, s.serial⟩
    ∃ queue, s.Reachable ∧ s.broker.queues.find? sampleUrl = some queue ∧ s.serial ≤ m.serial ∧
      (let after := s.broker.sweepQueue m sampleUrl queue 1 30000
      after.1.map (·.body) = ["second"] ∧
        (after.2.messages sampleUrl).map (fun x ↦ (x.body, x.receiveCount, x.visibleAt)) =
          [("second", 1, 30000), ("third", 0, 0), ("first", 0, 0)]) := by
  intro s m
  have hs : s.Reachable := reachable_sampleReturning
  have hqueue : s.broker.queues.find? sampleUrl = some _ :=
    (Option.some_get isSome_sampleReturning).symm
  obtain ⟨hreceived, hmessages, -⟩ := pass_selects hs hqueue (Nat.le_refl s.serial) (m := m) 1 30000
  refine ⟨_, hs, hqueue, Nat.le_refl _, ?_, ?_⟩
  · rw [hreceived]
    decide +kernel
  · rw [hmessages]
    decide +kernel

end Bus

end MessageBus
