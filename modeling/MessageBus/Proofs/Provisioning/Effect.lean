import MessageBus.Proofs.Provisioning.Completion
import MessageBus.Proofs.Provisioning.Execution
/-!
What the courses of provisioning do to the broker that they are played on. One that succeeds has
made what it is for: a topic with its access policy (`TopicCourse.of_ok`), a queue that reports an
ARN (`QueueCourse.of_ok`), the whole wiring of a queue (`SubscriptionCourse.of_ok`). One that fails
has begun it, whether or not the call that failed took effect.
-/

set_option autoImplicit false
set_option relaxedAutoImplicit false

namespace MessageBus

variable {line : Line} {b b' : Broker} {past : List Performed}

/-- A call that failed has changed nothing, or it has done what it is for. -/
theorem Line.Carries.left_of_error {c : Call} {e : Error} (h : line.Carries b c (.error e) b') :
    b' = b ∨ ∃ m, b' = b.left (b.answer m c) := by
  obtain hsame | ⟨m, reply, hanswer⟩ := h.of_error
  · exact .inl hsame
  · exact .inr ⟨m, (Broker.left_of_ok hanswer).symm⟩

/-- To read attributes changes nothing, whether it succeeds or not. -/
theorem Line.Carries.eq_of_getQueueAttributes {url : String} {names : List String}
    {reply : Except Error (Table String String)}
    (h : line.Carries b (.getQueueAttributes url names) reply b') : b' = b := by
  cases reply with
  | ok attributes =>
    obtain ⟨m, hanswer⟩ := h.of_ok
    obtain ⟨-, -, -, hsame⟩ := Broker.getQueueAttributes_eq hanswer
    exact hsame
  | error e =>
    obtain hsame | ⟨m, reply, hanswer⟩ := h.of_error
    · exact hsame
    · obtain ⟨-, -, -, hsame⟩ := Broker.getQueueAttributes_eq hanswer
      exact hsame

namespace Provisioning

theorem TopicCourse.of_ok {name arn : String} (h : TopicCourse name past (.ok arn))
    (hplays : line.Plays b past b') :
    arn = b.topicArnFor name ∧ b'.topics.contains arn ∧ ∃ ids, b' = b.topicMade ids name := by
  cases h with
  | @made _ first sid policy hpolicy =>
    obtain ⟨u, hcreate, hrest⟩ := hplays.of_call
    obtain ⟨v, hset, hrest⟩ := (hrest.of_other not_false).of_call
    obtain rfl := (hrest.of_other not_false).of_nil
    obtain ⟨m, hcreated⟩ := hcreate.of_ok
    obtain ⟨m', hgiven⟩ := hset.of_ok
    obtain ⟨harn, -⟩ := Broker.createTopic_eq hcreated
    obtain ⟨topic, -, hmade⟩ := Broker.setTopicAttribute_eq hgiven
    refine ⟨harn, hmade ▸ Table.contains_insert_self .., (first, sid), ?_⟩
    have hwith : b.withTopic name = u := Broker.left_of_ok hcreated
    rw [Broker.topicMade, hwith, ← harn, Broker.withTopicAccess, hpolicy]
    exact (Broker.left_of_ok hgiven).symm

theorem TopicCourse.of_error {name : String} {e : Error} (h : TopicCourse name past (.error e))
    (hplays : line.Plays b past b') : b.TopicBegun name b' := by
  cases h with
  | refused e =>
    obtain ⟨u, hcreate, hrest⟩ := hplays.of_call
    obtain rfl := hrest.of_nil
    obtain rfl | ⟨m, rfl⟩ := hcreate.left_of_error
    · exact .untouched
    · exact .created
  | unowned hpolicy =>
    obtain ⟨u, hcreate, hrest⟩ := hplays.of_call
    obtain rfl := (hrest.of_other not_false).of_nil
    obtain ⟨m, hcreated⟩ := hcreate.of_ok
    have hwith : b.withTopic name = b' := Broker.left_of_ok hcreated
    exact hwith ▸ .created
  | @unset arn first sid policy hpolicy e =>
    obtain ⟨u, hcreate, hrest⟩ := hplays.of_call
    obtain ⟨v, hset, hrest⟩ := (hrest.of_other not_false).of_call
    obtain rfl := hrest.of_nil
    obtain ⟨m, hcreated⟩ := hcreate.of_ok
    have hwith : b.withTopic name = u := Broker.left_of_ok hcreated
    obtain hsame | ⟨m, hleft⟩ := hset.left_of_error
    · rw [hsame, ← hwith]
      exact .created
    · have hmade : b.topicMade (first, sid) name = b' := by
        rw [Broker.topicMade, hwith, ← (Broker.createTopic_eq hcreated).1, Broker.withTopicAccess,
          hpolicy, hleft]
        rfl
      rw [← hmade]
      exact .made (first, sid)

theorem QueueCourse.of_ok {name : String} {queue : String × String}
    (h : QueueCourse name past (.ok queue)) (hplays : line.Plays b past b') :
    queue.1 = b.queueUrlFor name ∧ b' = b.withQueue name ∧
      b'.reported? queue.1 = some queue.2 := by
  cases h with
  | @made url arn attributes hfound =>
    obtain ⟨u, hcreate, hrest⟩ := hplays.of_call
    obtain ⟨v, hread, hrest⟩ := hrest.of_call
    obtain rfl := (hrest.of_other not_false).of_nil
    obtain ⟨m, hcreated⟩ := hcreate.of_ok
    obtain ⟨m', hanswered⟩ := hread.of_ok
    obtain ⟨all, hall, rfl, rfl⟩ := Broker.getQueueAttributes_eq hanswered
    refine ⟨(Broker.createQueue_eq hcreated).1, (Broker.left_of_ok hcreated).symm, ?_⟩
    rw [Broker.reported?, hall]
    exact (Table.find?_restrict all (List.mem_singleton_self _)).symm.trans hfound

theorem QueueCourse.of_error {name : String} {e : Error} (h : QueueCourse name past (.error e))
    (hplays : line.Plays b past b') : b' = b ∨ b' = b.withQueue name := by
  cases h with
  | refused e =>
    obtain ⟨u, hcreate, hrest⟩ := hplays.of_call
    obtain rfl := hrest.of_nil
    obtain rfl | ⟨m, rfl⟩ := hcreate.left_of_error
    · exact .inl rfl
    · exact .inr rfl
  | unread | nameless =>
    obtain ⟨u, hcreate, hrest⟩ := hplays.of_call
    obtain ⟨v, hread, hrest⟩ := hrest.of_call
    obtain rfl := hrest.of_nil
    obtain rfl := hread.eq_of_getQueueAttributes
    obtain ⟨m, hcreated⟩ := hcreate.of_ok
    exact .inr (Broker.left_of_ok hcreated).symm

end Provisioning

open Provisioning

namespace Wiring

/-- Both queues of a wiring have been made, and their ARNs were read. -/
structure Read (w : Wiring) (b v : Broker) (errorQueue queue : String × String) : Prop where
  broker : v = w.queues b
  url : queue.1 = v.queueUrlFor w.queueName
  arn : v.reported? queue.1 = some queue.2
  errorArn : v.reported? (v.queueUrlFor w.errorQueueName) = some errorQueue.2

variable {w : Wiring} {first second : List Performed} {errorQueue queue : String × String}
  {u v : Broker}

theorem read_of_ok (hfirst : QueueCourse w.errorQueueName first (.ok errorQueue))
    (hsecond : QueueCourse w.queueName second (.ok queue)) (hu : line.Plays b first u)
    (hv : line.Plays u second v) : w.Read b v errorQueue queue := by
  obtain ⟨herrorUrl, rfl, herrorArn⟩ := hfirst.of_ok hu
  obtain ⟨hurl, rfl, harn⟩ := hsecond.of_ok hv
  have hextends := (b.withQueue w.errorQueueName).extends_withQueue w.queueName
  have hidentity := hextends.identity
  refine ⟨rfl, hurl.trans (Broker.queueUrlFor_congr hidentity _).symm, harn, ?_⟩
  rw [Broker.queueUrlFor_congr hidentity,
    Broker.queueUrlFor_congr (b.extends_withQueue w.errorQueueName).identity, ← herrorUrl]
  exact hextends.reported herrorArn

namespace Read

variable (h : w.Read b v errorQueue queue)
include h

theorem arn_eq : w.arn v = queue.2 := by
  rw [Wiring.arn, ← h.url, h.arn, Option.getD_some]

theorem errorArn_eq : w.errorArn v = errorQueue.2 := by
  rw [Wiring.errorArn, h.errorArn, Option.getD_some]

/-- The attributes that the queue is given are those of the wiring. -/
theorem attributed_eq (ids : String × String) (m : Moment) :
    w.attributed ids (w.queues b) = v.left (v.answer m (.setQueueAttributes queue.1
      (queueAttributes ids w.topicArn queue.2 errorQueue.2 w.limit))) := by
  rw [← h.broker, attributed, h.arn_eq, h.errorArn_eq, ← h.url]
  rfl

/-- What is subscribed to the topic is the queue. -/
theorem whole_eq (ids : String × String) (m : Moment) :
    w.whole ids m b = (w.attributed ids (w.queues b)).left
      ((w.attributed ids (w.queues b)).answer m
        (.subscribe w.topicArn Broker.protocol queue.2)) := by
  have harn : w.arn (w.attributed ids (w.queues b)) = queue.2 := by
    rw [arn_congr (w.extends_attributed ids _).identity (w.reported?_attributed ids _),
      ← h.broker, h.arn_eq]
  rw [whole, subscribed, harn]
  rfl

end Read

end Wiring

namespace Provisioning

variable {w : Wiring}

/-- A queue that was made is wired, and subscribed under the ARN that it reports. -/
theorem SubscriptionCourse.of_ok {url : String}
    (h : SubscriptionCourse w.topicArn w.queueName w.errorQueueName w.limit past (.ok url))
    (hplays : line.Plays b past b') :
    url = b.queueUrlFor w.queueName ∧ (∃ ids m, b' = w.whole ids m b) ∧
      ∃ arn ∈ b'.endpoints w.topicArn, b'.reported? url = some arn := by
  cases h with
  | @made first second errorQueue queue hfirst hsecond ids subscriptionArn =>
    obtain ⟨u, hu, hrest⟩ := hplays.of_append
    obtain ⟨v, hv, hrest⟩ := hrest.of_append
    obtain ⟨x, hset, hrest⟩ := (hrest.of_other not_false).of_call
    obtain ⟨y, hsubscribe, hrest⟩ := hrest.of_call
    obtain rfl := (hrest.of_other not_false).of_nil
    have hread := Wiring.read_of_ok hfirst hsecond hu hv
    obtain ⟨m, hgiven⟩ := hset.of_ok
    obtain ⟨m', hsubscribed⟩ := hsubscribe.of_ok
    have hattributed := (hread.attributed_eq ids m).trans (Broker.left_of_ok hgiven)
    have hwhole := hread.whole_eq ids m'
    rw [hattributed, Broker.left_of_ok hsubscribed] at hwhole
    have hidentity : v.identity = b.identity := hread.broker ▸ (w.extends_queues b).identity
    refine ⟨hread.url.trans (Broker.queueUrlFor_congr hidentity _), ⟨ids, m', hwhole.symm⟩,
      queue.2, ?_, ?_⟩
    · obtain ⟨-, topic, htopic, -⟩ := Broker.subscribe_eq hsubscribed
      have hy : x.withSubscription m' w.topicArn queue.2 = b' := Broker.left_of_ok hsubscribed
      rw [← hy]
      exact Broker.mem_endpoints_withSubscription (by rw [Table.contains, htopic]; rfl)
    · rw [← hwhole, w.reported?_whole, ← hread.broker]
      exact hread.arn

/-- A queue that was not made has been begun. -/
theorem SubscriptionCourse.of_error {e : Error}
    (h : SubscriptionCourse w.topicArn w.queueName w.errorQueueName w.limit past (.error e))
    (hplays : line.Plays b past b') : w.Begun b b' := by
  cases h with
  | noErrorQueue hfirst =>
    obtain rfl | rfl := hfirst.of_error hplays
    · exact .untouched
    · exact .errorQueue
  | noQueue hfirst hsecond =>
    obtain ⟨u, hu, hrest⟩ := hplays.of_append
    obtain ⟨-, rfl, -⟩ := hfirst.of_ok hu
    obtain rfl | rfl := hsecond.of_error hrest
    · exact .errorQueue
    · exact .queues
  | unset hfirst hsecond ids e =>
    obtain ⟨u, hu, hrest⟩ := hplays.of_append
    obtain ⟨v, hv, hrest⟩ := hrest.of_append
    obtain ⟨x, hset, hrest⟩ := (hrest.of_other not_false).of_call
    obtain rfl := hrest.of_nil
    have hread := Wiring.read_of_ok hfirst hsecond hu hv
    obtain hsame | ⟨m, hleft⟩ := hset.left_of_error
    · rw [hsame, hread.broker]
      exact .queues
    · rw [hleft, ← hread.attributed_eq ids m]
      exact .attributed ids
  | unsubscribed hfirst hsecond ids e =>
    obtain ⟨u, hu, hrest⟩ := hplays.of_append
    obtain ⟨v, hv, hrest⟩ := hrest.of_append
    obtain ⟨x, hset, hrest⟩ := (hrest.of_other not_false).of_call
    obtain ⟨y, hsubscribe, hrest⟩ := hrest.of_call
    obtain rfl := hrest.of_nil
    have hread := Wiring.read_of_ok hfirst hsecond hu hv
    obtain ⟨m, hgiven⟩ := hset.of_ok
    have hattributed := (hread.attributed_eq ids m).trans (Broker.left_of_ok hgiven)
    have hwhole := hread.whole_eq ids
    rw [hattributed] at hwhole
    obtain hsame | ⟨m', hleft⟩ := hsubscribe.left_of_error
    · rw [hsame, ← hattributed]
      exact .attributed ids
    · rw [hleft, ← hwhole]
      exact .whole ids m'

end Provisioning

end MessageBus
