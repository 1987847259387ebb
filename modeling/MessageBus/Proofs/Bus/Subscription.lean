import MessageBus.Proofs.Broker.Operation
import MessageBus.Proofs.Bus.Basic
/-!
The subscriptions of the topics of a bus. What a call does to topics is said once (`topics_answer`):
nothing, or it makes or replaces one. So topics stay. What every operation of a broker keeps holds
of every bus that can come to be (`Bus.Reachable.broker_of_operations`); one such thing is that no
topic has two subscriptions to one endpoint (`Broker.SubscribesOnce`).
-/

set_option autoImplicit false
set_option relaxedAutoImplicit false

namespace MessageBus

namespace Broker

variable {b b' : Broker} {m : Moment}

theorem topics_append (b : Broker) (url : String) (new : List StoredMessage) :
    (b.append url new).topics = b.topics := by
  rw [append]
  split
  · rfl
  · rfl

theorem topics_deliver (b : Broker) (m : Moment) (body : String) (index : Nat)
    (endpoints : List String) : (deliver m body index endpoints b).topics = b.topics := by
  induction endpoints generalizing b index with
  | nil => rfl
  | cons endpoint rest ih =>
    rw [deliver, ih]
    split
    · exact topics_append ..
    · rfl

theorem topics_sweepQueue (b : Broker) (m : Moment) (url : String) (queue : Queue)
    (room visibilityMs : Nat) :
    (b.sweepQueue m url queue room visibilityMs).2.topics = b.topics := by
  unfold sweepQueue
  dsimp only
  split
  · exact topics_append ..
  · rfl

theorem endpoints_setTopic (b : Broker) (topicArn other : String) (topic : Topic) :
    (b.setTopic topicArn topic).endpoints other =
      if topicArn = other then topic.subscriptions.map (·.endpoint) else b.endpoints other := by
  rw [endpoints, setTopic, Table.find?_insert]
  by_cases h : topicArn = other
  · rw [if_pos h, if_pos h]
  · rw [if_neg h, if_neg h, endpoints]

theorem endpoints_of_find? {topicArn : String} {topic : Topic}
    (h : b.topics.find? topicArn = some topic) :
    b.endpoints topicArn = topic.subscriptions.map (·.endpoint) := by
  rw [endpoints, h]

/-- An answered call leaves the topics as they are, or makes or replaces one, which keeps the
subscriptions that it had in front, and has no endpoint twice unless it had one twice before. -/
theorem topics_answer (c : Call) {reply : c.Reply} (hanswer : b.answer m c = .ok (reply, b')) :
    b'.topics = b.topics ∨
      ∃ topicArn topic, b'.topics = (b.setTopic topicArn topic).topics ∧
        (∀ old, b.topics.find? topicArn = some old → old.subscriptions <+: topic.subscriptions) ∧
        ((b.endpoints topicArn).Nodup → (topic.subscriptions.map (·.endpoint)).Nodup) := by
  have hold {topicArn : String} {topic : Topic} {subscriptions : List Subscription}
      (htopic : b.topics.find? topicArn = some topic) (h : topic.subscriptions <+: subscriptions)
      (old : Topic) (hfind : b.topics.find? topicArn = some old) :
      old.subscriptions <+: subscriptions := by
    rw [htopic] at hfind
    rwa [← Option.some.inj hfind]
  cases c with
  | createTopic name =>
    obtain ⟨-, ⟨-, rfl⟩ | ⟨hnone, rfl⟩⟩ := createTopic_eq hanswer
    · exact .inl rfl
    · refine .inr ⟨_, _, rfl, fun old hfind ↦ ?_, fun _ ↦ List.nodup_nil⟩
      rw [hnone] at hfind
      cases hfind
  | setTopicAttributes topicArn name value =>
    obtain ⟨topic, htopic, rfl⟩ := setTopicAttribute_eq hanswer
    refine .inr ⟨_, _, rfl, hold htopic (List.prefix_refl _), fun hnodup ↦ ?_⟩
    rwa [endpoints_of_find? htopic] at hnodup
  | subscribe topicArn protocol endpoint =>
    obtain ⟨-, topic, htopic, ⟨s, -, -, -, rfl⟩ | ⟨hnew, -, rfl⟩⟩ := subscribe_eq hanswer
    · exact .inl rfl
    · refine .inr ⟨_, _, rfl, hold htopic (List.prefix_append _ _), fun hnodup ↦ ?_⟩
      rw [endpoints_of_find? htopic] at hnodup
      rw [List.map_append, List.map_singleton, List.nodup_append]
      refine ⟨hnodup, List.nodup_singleton _, ?_⟩
      simpa using hnew
  | publish topicArn message =>
    obtain ⟨-, -, rfl⟩ := publish_eq hanswer
    exact .inl (topics_deliver ..)
  | createQueue name =>
    obtain ⟨-, ⟨-, rfl⟩ | ⟨-, rfl⟩⟩ := createQueue_eq hanswer
    · exact .inl rfl
    · exact .inl rfl
  | getQueueAttributes queueUrl names =>
    obtain ⟨all, -, -, rfl⟩ := getQueueAttributes_eq hanswer
    exact .inl rfl
  | setQueueAttributes queueUrl attributes =>
    obtain ⟨-, queue, -, rfl⟩ := setQueueAttributes_eq hanswer
    exact .inl rfl
  | receiveMessage request =>
    obtain ⟨queue, -, -, rfl⟩ := receive_eq hanswer
    exact .inl (topics_sweepQueue ..)
  | deleteMessage queueUrl receipt =>
    obtain ⟨queue, -, -, rfl⟩ := deleteMessage_eq hanswer
    exact .inl rfl

/-- Topics stay, and so do their subscriptions, in front of new ones. -/
theorem subscriptions_answer (c : Call) {reply : c.Reply}
    (hanswer : b.answer m c = .ok (reply, b')) {topicArn : String} {topic : Topic}
    (h : b.topics.find? topicArn = some topic) :
    ∃ next, b'.topics.find? topicArn = some next ∧ topic.subscriptions <+: next.subscriptions := by
  rcases topics_answer c hanswer with htopics | ⟨other, next, htopics, hprefix, -⟩
  · exact ⟨topic, htopics ▸ h, List.prefix_refl _⟩
  · rw [htopics, setTopic, Table.find?_insert]
    by_cases hother : other = topicArn
    · subst hother
      exact ⟨next, if_pos rfl, hprefix topic h⟩
    · exact ⟨topic, (if_neg hother).trans h, List.prefix_refl _⟩

theorem contains_topics_answer (c : Call) {reply : c.Reply}
    (hanswer : b.answer m c = .ok (reply, b')) {topicArn : String}
    (h : b.topics.contains topicArn) : b'.topics.contains topicArn := by
  obtain ⟨topic, htopic⟩ := Option.isSome_iff_exists.mp h
  obtain ⟨next, hnext, -⟩ := subscriptions_answer c hanswer htopic
  exact Table.contains_of_find? hnext

/-- Whether no topic has two subscriptions to one endpoint. -/
def SubscribesOnce (b : Broker) : Prop := ∀ topicArn, (b.endpoints topicArn).Nodup

namespace SubscribesOnce

theorem congr (h : b.SubscribesOnce) (htopics : b'.topics = b.topics) : b'.SubscribesOnce := by
  intro topicArn
  rw [endpoints, htopics]
  exact h topicArn

theorem answer (h : b.SubscribesOnce) {c : Call} {reply : c.Reply}
    (hanswer : b.answer m c = .ok (reply, b')) : b'.SubscribesOnce := by
  rcases topics_answer c hanswer with htopics | ⟨topicArn, topic, htopics, -, hnodup⟩
  · exact h.congr htopics
  · refine congr (fun other ↦ ?_) htopics
    rw [endpoints_setTopic]
    split
    · exact hnodup (h topicArn)
    · exact h other

end SubscribesOnce

end Broker

namespace Bus

variable {s t : Bus} {e : Event} {P : Broker → Prop}

theorem operate_broker {α : Type} {time : Instant} {f : Moment → Broker → Broker.Result α}
    (hf : ∀ {m a b}, f m s.broker = .ok (a, b) → P b) (hs : P s.broker) :
    P (s.operate time f).2.broker := by
  rw [operate]
  split
  · next hoperated => exact hf hoperated
  · exact hs

/-- What calls and messages that are put on queues keep of a broker is kept by every step. -/
theorem Step.broker_of_operations (h : Step s e t)
    (hanswer : ∀ {b m c reply b'}, Broker.answer b m c = .ok (reply, b') → P b → P b')
    (henqueue : ∀ {b m url body id b'}, Broker.enqueue b m url body = .ok (id, b') → P b → P b')
    (hs : P s.broker) : P t.broker := by
  have hcall (time : Instant) (c : Call) : P (s.answer time c).2.broker :=
    operate_broker (fun hanswered ↦ hanswer hanswered hs) hs
  cases h with
  | wait | subscribe | signal | dispatch | perform | finish => exact hs
  | call time c => exact hcall time c
  | enqueue => exact operate_broker (fun henqueued ↦ henqueue henqueued hs) hs
  | receive _ _ time | receiveNothing _ _ time | performCall _ _ time => exact hcall time _

theorem Run.broker_of_operations {Q : Bus → Prop} {es : List Event} (h : RunWithin Q s es t)
    (hanswer : ∀ {b m c reply b'}, Broker.answer b m c = .ok (reply, b') → P b → P b')
    (henqueue : ∀ {b m url body id b'}, Broker.enqueue b m url body = .ok (id, b') → P b → P b')
    (hs : P s.broker) : P t.broker := by
  induction h with
  | refl => exact hs
  | step _ hstep _ ih => exact hstep.broker_of_operations hanswer henqueue ih

theorem Reachable.broker_of_operations (h : s.Reachable)
    (hanswer : ∀ {b m c reply b'}, Broker.answer b m c = .ok (reply, b') → P b → P b')
    (henqueue : ∀ {b m url body id b'}, Broker.enqueue b m url body = .ok (id, b') → P b → P b')
    (hstart : ∀ identity, P { identity := identity }) : P s.broker := by
  obtain ⟨identity, es, hrun⟩ := h
  exact Run.broker_of_operations hrun hanswer henqueue (hstart identity)

theorem Reachable.subscribesOnce (h : s.Reachable) : s.broker.SubscribesOnce := by
  refine h.broker_of_operations (fun hanswer hb ↦ hb.answer hanswer) ?_ fun identity ↦ ?_
  · intro b m url body id b' henqueue hb
    obtain ⟨-, -, rfl⟩ := Broker.enqueue_eq henqueue
    exact hb.congr (Broker.topics_append ..)
  · exact fun _ ↦ List.nodup_nil

end Bus

end MessageBus
