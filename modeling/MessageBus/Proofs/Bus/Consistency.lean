import MessageBus.Proofs.Bus.Conservation
import MessageBus.Proofs.Bus.Directory
import MessageBus.Proofs.Bus.Subscription
/-!
What the tables of a broker have to do with each other (`Broker.IsConsistent`), on every bus that
can come to be (`Bus.consistent`). Queues and ARNs correspond by their names, topics have each
endpoint once, and neither two messages nor two messages that were received share an identifier or a
receipt. Queues and topics stay, so the target that a receive has found takes what the receive
removes.
-/

set_option autoImplicit false
set_option relaxedAutoImplicit false

namespace MessageBus

namespace Broker

variable {b : Broker}

/-- Whether a message is at a place: on a queue, behind so many others. -/
def IsAt (b : Broker) (url : String) (index : Nat) (x : StoredMessage) : Prop :=
  (b.messages url)[index]? = some x

/-- Whether the queues, ARNs, topics and messages of a broker fit together. -/
structure IsConsistent (b : Broker) : Prop where
  queue : ∀ {url}, b.queues.contains url → ∃ name, isResourceName name ∧ url = b.queueUrlFor name ∧
    ∀ arn, b.urlByArn.find? arn = some url ↔ arn = b.queueArnFor name
  arn : ∀ {arn url}, b.urlByArn.find? arn = some url → b.queues.contains url
  endpoint : ∀ topicArn, (b.endpoints topicArn).Nodup
  id : ∀ {url other i j x y}, b.IsAt url i x → b.IsAt other j y → x.id = y.id →
    url = other ∧ i = j
  receipt : ∀ {url other i j x y receipt}, b.IsAt url i x → b.IsAt other j y →
    x.receipt = some receipt → y.receipt = some receipt → url = other ∧ i = j

theorem IsAt.mem {url : String} {i : Nat} {x : StoredMessage} (h : b.IsAt url i x) :
    x ∈ b.messages url :=
  List.mem_of_getElem? h

/-- Messages of one identifier are at one place. -/
theorem Sound.place_eq {serial : Nat} (h : b.Sound serial) {url other : String} {i j : Nat}
    {x y : StoredMessage} (hx : b.IsAt url i x) (hy : b.IsAt other j y) (hid : x.id = y.id) :
    url = other ∧ i = j := by
  obtain rfl := h.unique hx.mem hy.mem hid
  refine ⟨rfl, (List.getElem?_inj ?_ (h.nodup url)).mp ?_⟩
  · rw [List.length_map]
    exact (List.getElem?_eq_some_iff.mp hx).1
  · unfold IsAt at hx hy
    rw [List.getElem?_map, List.getElem?_map, hx, hy, Option.map_some, Option.map_some, hid]

theorem IsIndexed.isConsistent (h : b.IsIndexed) {serial : Nat} (hsound : b.Sound serial)
    (honce : b.SubscribesOnce) (hreceipts : b.HasDistinctReceipts) : b.IsConsistent where
  queue {url} hurl := by
    obtain ⟨name, hname, rfl⟩ := h.named hurl
    exact ⟨name, hname, rfl, h.found_iff_of_contains hurl⟩
  arn {arn url} harn := h.isAddressed arn url harn
  endpoint := honce
  id hx hy hid := hsound.place_eq hx hy hid
  receipt hx hy hreceipt hother := by
    apply hsound.place_eq hx hy
    exact hreceipts _ _ _ _ _ hx.mem hy.mem hreceipt hother

end Broker

namespace Bus

variable {s t : Bus} {es : List Event}

theorem Reachable.isIndexed (h : s.Reachable) : s.broker.IsIndexed := by
  refine h.broker_of_operations (fun hanswer hb ↦ hb.answer hanswer) ?_ Broker.IsIndexed.start
  intro b m url body id b' henqueue hb
  obtain ⟨-, -, rfl⟩ := Broker.enqueue_eq henqueue
  exact hb.of_sameDirectory (.append ..)

theorem Run.hasDistinctReceipts {P : Bus → Prop} (hrun : RunWithin P s es t) (hs : s.Valid)
    (hreceipts : s.broker.HasDistinctReceipts) : t.broker.HasDistinctReceipts := by
  induction hrun with
  | refl => exact hreceipts
  | step hrun hstep _ ih =>
    have hvalid := Run.valid hrun hs
    obtain ⟨m, -, hserial, hchange⟩ := hstep.change hvalid.sound.isAddressed
    exact ih.change (hserial ▸ hvalid.sound) hchange

theorem Run.identity (hrun : Run s es t) : t.broker.identity = s.broker.identity :=
  hrun.keeps.identity

/-- Queues are never removed. -/
theorem Run.contains_queues (hrun : Run s es t) {url : String}
    (hurl : s.broker.queues.contains url) : t.broker.queues.contains url :=
  hrun.keeps.contains hurl

/-- Topics are never removed. -/
theorem Run.contains_topics (hrun : Run s es t) {topicArn : String}
    (htopic : s.broker.topics.contains topicArn) : t.broker.topics.contains topicArn := by
  refine Run.broker_of_operations (P := fun b ↦ b.topics.contains topicArn) hrun ?_ ?_ htopic
  · intro b m c reply b' hanswer hb
    exact Broker.contains_topics_answer c hanswer hb
  · intro b m other body id b' henqueue hb
    obtain ⟨-, -, rfl⟩ := Broker.enqueue_eq henqueue
    rwa [Broker.topics_append]

theorem Reachable.isConsistent (h : s.Reachable) : s.broker.IsConsistent := by
  have hreceipts : s.broker.HasDistinctReceipts := by
    obtain ⟨identity, es, hrun⟩ := h
    exact Run.hasDistinctReceipts hrun (valid_start identity) fun _ _ _ _ _ hx ↦
      absurd hx List.not_mem_nil
  exact h.isIndexed.isConsistent h.valid.sound h.subscribesOnce hreceipts

/-- The tables of a broker fit together whatever has happened. Take a bus on which nothing has
happened yet, of any identity, and any run of it. Then the broker has this identity; every queue is
found under the ARN of its own name and under no other, and every ARN leads to a queue; no topic has
an endpoint twice; two messages, on one queue or on two, differ in their identifiers, and in their
receipts if they have any. Whatever happens next, the queues and topics are still there. And where
the redrive policy of a queue leads to a target, that is a queue, so what a receive removes is at
the end of it afterwards. -/
theorem consistent (identity : BrokerIdentity) (hrun : Run (start identity) es s) :
    s.broker.identity = identity ∧ s.broker.IsConsistent ∧
      (∀ more t, Run s more t →
        (∀ url, s.broker.queues.contains url → t.broker.queues.contains url) ∧
        ∀ topicArn, s.broker.topics.contains topicArn → t.broker.topics.contains topicArn) ∧
      ∀ m request target limit messages b,
        s.broker.redriveAt? request.queueUrl = some (target, limit) →
        s.broker.receive m request = .ok (messages, b) →
        s.broker.queues.contains target ∧
          b.messages target =
            (if request.queueUrl = target then (s.broker.pass m request).kept
              else s.broker.messages target) ++
            (s.broker.pass m request).dead.map (·.moved m.millis) := by
  have hs : s.Reachable := ⟨identity, es, hrun⟩
  refine ⟨hrun.identity, hs.isConsistent, ?_, ?_⟩
  · intro more t hmore
    exact ⟨fun url ↦ hmore.contains_queues, fun topicArn ↦ hmore.contains_topics⟩
  · intro m request target limit messages b hredrive hreceive
    have haddressed := hs.isIndexed.isAddressed
    obtain ⟨arn, harn⟩ := Broker.urlByArn_of_redriveAt? hredrive
    refine ⟨haddressed arn target harn, ?_⟩
    rw [Broker.messages_receive haddressed hreceive, hredrive, Option.map_some, if_pos rfl]

/-- A message that was received once, on a queue whose messages move after that: one more receive
puts it on the other queue. -/
theorem consistent_sample :
    let s := ((sampleBus.operate .epoch fun m b ↦ b.enqueue m sampleUrl "text").2.answer .epoch
      sampleReceive).2
    ∃ es, Run (start {}) es s ∧ s.broker.IsConsistent ∧ ∃ target limit messages b,
      s.broker.redriveAt? sampleUrl = some (target, limit) ∧
      s.broker.receive ⟨0, .epoch, 5⟩ ⟨sampleUrl, 1, 0, 0⟩ = .ok (messages, b) ∧
      s.broker.queues.contains target ∧ (b.messages target).map (·.body) = ["text"] := by
  intro s
  have hrun : Run (start {}) _ s :=
    (((((RunWithin.refl trivial).step (.call _ .epoch (.createQueue "orders")) trivial).step
      (.call _ .epoch (.createQueue "failed")) trivial).step (.call _ .epoch _) trivial).step
      (.enqueue _ .epoch sampleUrl "text") trivial).step (.call _ .epoch sampleReceive) trivial
  obtain ⟨-, hconsistent, -, hdead⟩ := consistent {} hrun
  have hredrive : s.broker.redriveAt? sampleUrl =
      some (s.broker.queueUrlFor "failed", 1) := by
    decide +kernel
  have hok : (s.broker.receive ⟨0, .epoch, 5⟩ ⟨sampleUrl, 1, 0, 0⟩).isOk := by
    decide +kernel
  cases hreceive : s.broker.receive ⟨0, .epoch, 5⟩ ⟨sampleUrl, 1, 0, 0⟩ with
  | error e =>
    rw [hreceive] at hok
    cases hok
  | ok result =>
    obtain ⟨messages, b⟩ := result
    obtain ⟨hcontains, hmessages⟩ :=
      hdead ⟨0, .epoch, 5⟩ ⟨sampleUrl, 1, 0, 0⟩ _ _ messages b hredrive hreceive
    refine ⟨_, hrun, hconsistent, _, _, messages, b, hredrive, rfl, hcontains, ?_⟩
    rw [hmessages]
    decide +kernel

end Bus

end MessageBus
