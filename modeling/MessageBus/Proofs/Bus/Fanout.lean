import MessageBus.Proofs.Bus.Consistency
import MessageBus.Proofs.Bus.Publication
/-!
What is published reaches each queue that is subscribed once. No topic has an endpoint twice, and a
queue is found under one ARN alone, so of the copies that go to the endpoints of a topic a queue
gets one, if its ARN is among them, and none otherwise (`Broker.copies_eq`). From this follows the
whole effect of a publishing, on every bus that can come to be (`Bus.published_to_each`).
-/

set_option autoImplicit false
set_option relaxedAutoImplicit false

namespace MessageBus

namespace Broker

variable {b : Broker} {m : Moment} {url arn : String}

/-- The number of the copy of a queue, when one goes to each endpoint and the first one has the
number 1. -/
def copyIndex (endpoints : List String) (arn : String) : Nat := 1 + endpoints.idxOf arn

theorem copyIndex_injective {endpoints : List String} {other : String} (harn : arn ∈ endpoints)
    (h : copyIndex endpoints arn = copyIndex endpoints other) : arn = other :=
  (List.idxOf_inj harn).mp (Nat.add_left_cancel h)

/-- A queue that no endpoint leads to gets no copy. -/
theorem copies_eq_nil {endpoints : List String}
    (h : ∀ endpoint ∈ endpoints, b.urlByArn.find? endpoint ≠ some url) (body : String)
    (index : Nat) : b.copies m body url index endpoints = [] := by
  refine List.eq_nil_iff_forall_not_mem.mpr fun x hx ↦ ?_
  obtain ⟨endpoint, i, hmem, hurl, -⟩ := mem_copies hx
  exact h endpoint (List.fst_mem_of_mem_zipIdx hmem) hurl

/-- A queue that is found under one ARN alone gets one copy, if this ARN is among the endpoints. -/
theorem copies_eq {endpoints : List String} (hnodup : endpoints.Nodup)
    (hfound : ∀ endpoint, b.urlByArn.find? endpoint = some url ↔ endpoint = arn) (body : String)
    (index : Nat) :
    b.copies m body url index endpoints =
      if arn ∈ endpoints then
        [.arrived (m.id (index + endpoints.idxOf arn)) body m.millis]
      else [] := by
  induction endpoints generalizing index with
  | nil => rfl
  | cons endpoint rest ih =>
    obtain ⟨hnew, hrest⟩ := List.nodup_cons.mp hnodup
    by_cases hsame : endpoint = arn
    · subst hsame
      have hnone : b.copies m body url (index + 1) rest = [] :=
        copies_eq_nil (fun other hother hurl ↦ hnew ((hfound other).mp hurl ▸ hother)) body _
      rw [copies] at hnone ⊢
      rw [List.zipIdx_cons, List.filterMap_cons, if_pos ((hfound endpoint).mpr rfl), hnone]
      simp
    · have htail := ih hrest (index + 1)
      rw [copies] at htail ⊢
      rw [List.zipIdx_cons, List.filterMap_cons, if_neg (mt (hfound endpoint).mp hsame), htail,
        List.idxOf_cons_ne _ hsame]
      simp [Ne.symm hsame, Nat.add_assoc, Nat.add_comm 1]

end Broker

namespace Bus

variable {s : Bus} {topicArn : String}

/-- A publishing to a topic that does not exist fails, and all that changes is the serial number of
the bus. -/
theorem publish_eq_error (htopic : s.broker.topics.contains topicArn = false) (time : Instant)
    (text : String) :
    s.answer time (.publish topicArn text) =
      (.error (Broker.noTopic "Publish" topicArn), { s with serial := s.serial + 1 }) := by
  have hnone : s.broker.topics.find? topicArn = none :=
    Option.not_isSome_iff_eq_none.mp (Bool.eq_false_iff.mp htopic)
  simp [answer, operate, Broker.answer, Broker.publish, hnone]

/-- A publishing to a topic that exists is answered. -/
theorem publish_eq_ok (htopic : s.broker.topics.contains topicArn) (time : Instant)
    (text : String) :
    let m : Moment := ⟨s.clock, time, s.serial⟩
    let n := Notification.ofMessage (m.id 0) topicArn text (Notification.timeText time)
    s.answer time (.publish topicArn text) =
      (.ok n.messageId, { s with
        broker := Broker.deliver m n.text 1 (s.broker.endpoints topicArn) s.broker
        serial := s.serial + 1 }) := by
  obtain ⟨topic, hfind⟩ := Option.isSome_iff_exists.mp htopic
  simp [answer, operate, Broker.answer, Broker.publish, hfind, Notification.ofMessage]

/-- What a publishing does, to whatever topic and of whatever text. If there is no such topic, it
fails and nothing changes. Otherwise it returns the new identifier of a notification, which names
the topic and from which the text is extracted as it was. Every queue whose ARN is among the
endpoints of the topic has one message more then, at its end: a copy of the notification under a new
identifier of its own, visible at once, not received yet and without a receipt. Every other queue
has the messages that it had. Endpoints without a queue play no part in this, and whatever else
there is stays: attributes, ARNs and identity, topics with their subscriptions, and the
subscriptions that poll the broker with the deliveries under way. -/
theorem published_to_each (hs : s.Reachable) (time : Instant) (topicArn text : String) :
    let reply := (s.answer time (.publish topicArn text)).1
    let t := (s.answer time (.publish topicArn text)).2
    let subscribed := fun name ↦ s.broker.queueArnFor name ∈ s.broker.endpoints topicArn
    (s.broker.topics.contains topicArn = false →
      reply = .error (Broker.noTopic "Publish" topicArn) ∧ t = { s with serial := s.serial + 1 }) ∧
    (s.broker.topics.contains topicArn → ∃ (id : String) (copyId : String → String),
      let n := Notification.ofMessage id topicArn text (Notification.timeText time)
      reply = .ok id ∧ ¬ IsMadeBefore s.serial id ∧
      Notification.read? n.text = some n ∧ Notification.extract n.text = .ok text ∧
      (∀ url, s.broker.queues.contains url → ∃ name, url = s.broker.queueUrlFor name) ∧
      (∀ name, s.broker.queues.contains (s.broker.queueUrlFor name) →
        t.broker.messages (s.broker.queueUrlFor name) =
          s.broker.messages (s.broker.queueUrlFor name) ++
            if subscribed name then
              [{ id := copyId name, body := n.text, receiveCount := 0, receipt := none,
                 visibleAt := s.clock }]
            else []) ∧
      (∀ name, ¬ IsMadeBefore s.serial (copyId name) ∧ copyId name ≠ id) ∧
      (∀ name other, subscribed name → copyId name = copyId other → name = other) ∧
      Broker.SameDirectory s.broker t.broker ∧ t.broker.topics = s.broker.topics ∧
      t = { s with broker := t.broker, serial := s.serial + 1 }) := by
  intro reply t subscribed
  constructor
  · intro htopic
    have hanswer := publish_eq_error htopic time text
    exact ⟨congrArg Prod.fst hanswer, congrArg Prod.snd hanswer⟩
  · intro htopic
    have hanswer := publish_eq_ok htopic time text
    have hreply := congrArg Prod.fst hanswer
    have hbus : t = _ := congrArg Prod.snd hanswer
    have hindexed := hs.isIndexed
    let m : Moment := ⟨s.clock, time, s.serial⟩
    let copyId name :=
      m.id (Broker.copyIndex (s.broker.endpoints topicArn) (s.broker.queueArnFor name))
    have hnew (index : Nat) : ¬ IsMadeBefore s.serial (m.id index) :=
      fun hmade ↦ Moment.id_ne_of_isMadeBefore (m := m) hmade index rfl
    refine ⟨m.id 0, copyId, hreply, hnew 0, Notification.read?_text _, Notification.extract_text _,
      ?_, ?_, ?_, ?_, ?_, ?_, ?_⟩
    · intro url hurl
      obtain ⟨name, -, hname⟩ := hindexed.named hurl
      exact ⟨name, hname⟩
    · intro name hname
      rw [hbus, Broker.messages_deliver hindexed.isAddressed,
        Broker.copies_eq (hs.subscribesOnce topicArn) (hindexed.found_iff_of_contains hname)]
      rfl
    · intro name
      refine ⟨hnew _, fun hid ↦ ?_⟩
      have := Moment.id_injective hid
      simp [Broker.copyIndex] at this
    · intro name other hname hid
      exact Broker.queueArnFor_injective _
        (Broker.copyIndex_injective hname (Moment.id_injective hid))
    · rw [hbus]
      exact .deliver ..
    · rw [hbus]
      exact Broker.topics_deliver ..
    · rw [hbus]

/-- A bus with a topic and three queues. Two of them are subscribed to the topic, one of them by two
calls, and so is an endpoint that no queue has. -/
def sampleAudience : Bus :=
  let s := ((start {}).answer .epoch (.createTopic "samples")).2
  let s := (s.answer .epoch (.createQueue "samples")).2
  let s := (s.answer .epoch (.createQueue "orders")).2
  let s := (s.answer .epoch (.createQueue "failed")).2
  let s := (s.answer .epoch (.subscribe sampleTopicArn Broker.protocol sampleEndpoint)).2
  let s := (s.answer .epoch (.subscribe sampleTopicArn Broker.protocol "nowhere")).2
  let s := (s.answer .epoch (.subscribe sampleTopicArn Broker.protocol sampleEndpoint)).2
  (s.answer .epoch
    (.subscribe sampleTopicArn Broker.protocol (s.broker.queueArnFor "orders"))).2

theorem reachable_sampleAudience : sampleAudience.Reachable :=
  ((((((((reachable_start {}).step (.call _ _ _)).step (.call _ _ _)).step (.call _ _ _)).step
    (.call _ _ _)).step (.call _ _ _)).step (.call _ _ _)).step (.call _ _ _)).step (.call _ _ _)

/-- The two queues that are subscribed have a copy each, under different identifiers, and the third
queue has none. -/
theorem published_to_each_sample :
    let s := sampleAudience
    let t := (s.answer .epoch (.publish sampleTopicArn "a \"text\"\n")).2
    s.Reachable ∧ ∃ body id other, id ≠ other ∧
      Notification.extract body = .ok "a \"text\"\n" ∧
      t.broker.messages (s.broker.queueUrlFor "samples") = [.arrived id body 0] ∧
      t.broker.messages (s.broker.queueUrlFor "orders") = [.arrived other body 0] ∧
      t.broker.messages (s.broker.queueUrlFor "failed") = [] := by
  intro s t
  have hs : s.Reachable := reachable_sampleAudience
  obtain ⟨id, copyId, -, -, -, hextract, -, hmessages, -, hinjective, -⟩ :=
    (published_to_each hs .epoch sampleTopicArn "a \"text\"\n").2 (by decide +kernel)
  have hne : copyId "samples" ≠ copyId "orders" :=
    fun hsame ↦ absurd (hinjective "samples" "orders" (by decide +kernel) hsame) (by decide)
  have hempty : ∀ name ∈ ["samples", "orders", "failed"],
      s.broker.messages (s.broker.queueUrlFor name) = [] := by
    decide +kernel
  refine ⟨hs, _, copyId "samples", copyId "orders", hne, hextract, ?_, ?_, ?_⟩
  · rw [hmessages "samples" (by decide +kernel), hempty _ (by decide), if_pos (by decide +kernel)]
    rfl
  · rw [hmessages "orders" (by decide +kernel), hempty _ (by decide), if_pos (by decide +kernel)]
    rfl
  · rw [hmessages "failed" (by decide +kernel), hempty _ (by decide), if_neg (by decide +kernel)]
    rfl

end Bus

end MessageBus
