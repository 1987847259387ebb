import MessageBus.Proofs.Bus.Subscription
import MessageBus.Proofs.Provisioning.Feasible
import MessageBus.Proofs.Text.Split
/-!
A queue that is fully wired. Its topic is owned by the account of the broker; the queue and its
error queue are there, the queue lets the topic send to it, sends what was received too often to the
error queue and is subscribed to the topic once (`Broker.Wired`). The steps of provisioning leave
nothing less behind (`Wiring.wired_whole`), and change nothing but the topic and the two queues
(`Wiring.sameOutside_whole`).
-/

set_option autoImplicit false
set_option relaxedAutoImplicit false

namespace MessageBus

/-- Where region and account hold no colon, the account field of a topic ARN is the account. -/
theorem Broker.accountOfArn_topicArnFor {b : Broker} (hregion : ':' ∉ b.identity.region.toList)
    (haccount : ':' ∉ b.identity.accountId.toList) (name : String) :
    accountOfArn (b.topicArnFor name) = .ok b.identity.accountId := by
  have hprefix : ("arn:aws:sns:" : String).toList =
      ['a', 'r', 'n'] ++ ':' :: (['a', 'w', 's'] ++ ':' :: (['s', 'n', 's'] ++ [':'])) := rfl
  have hcolon : (":" : String).toList = [':'] := rfl
  have hfields : (b.topicArnFor name).toList =
      ['a', 'r', 'n'] ++ ':' :: (['a', 'w', 's'] ++ ':' :: (['s', 'n', 's'] ++ ':' ::
        (b.identity.region.toList ++ ':' :: (b.identity.accountId.toList ++ ':' ::
          name.toList)))) := by
    show ("arn:aws:sns:" ++ b.identity.region ++ ":" ++ b.identity.accountId ++ ":" ++
      name).toList = _
    simp only [String.toList_append, hprefix, hcolon, List.append_assoc, List.cons_append,
      List.nil_append]
  rw [accountOfArn, hfields, splitAtChar_append (by decide), splitAtChar_append (by decide),
    splitAtChar_append (by decide), splitAtChar_append hregion, splitAtChar_append haccount]
  show Except.ok (String.ofList b.identity.accountId.toList) = _
  rw [String.ofList_toList]

namespace Broker

variable {b x y : Broker} {α : Type}

/-- The access policy of a topic. -/
def topicPolicy? (b : Broker) (topicArn : String) : Option String :=
  (b.topicAttributes? topicArn).bind (·.find? policyAttribute)

/-- An attribute of a queue. -/
def queueAttribute? (b : Broker) (url name : String) : Option String :=
  (b.queueAttributes? url).bind (·.find? name)

/-- What there is on a broker once the queue of a type was resolved. -/
structure Wired (b : Broker) (names : ResourceNames) (limit : Nat) : Prop where
  owned : ∃ policy, b.topicPolicy? (b.topicArnFor names.topic) = some policy ∧
    Policy.resource? policy = some (b.topicArnFor names.topic) ∧
    Policy.condition? policy "StringEquals" "AWS:SourceOwner" = some b.identity.accountId
  queue : b.reported? (b.queueUrlFor names.queue) = some (b.queueArnFor names.queue)
  errorQueue : b.reported? (b.queueUrlFor names.errorQueue) = some (b.queueArnFor names.errorQueue)
  redrives : ∃ policy,
    b.queueAttribute? (b.queueUrlFor names.queue) redriveAttribute = some policy ∧
    Redrive.read? policy = some ⟨b.queueArnFor names.errorQueue, limit⟩
  found : b.urlByArn.find? (b.queueArnFor names.errorQueue) = some (b.queueUrlFor names.errorQueue)
  accepts : ∃ policy, b.queueAttribute? (b.queueUrlFor names.queue) policyAttribute = some policy ∧
    Policy.resource? policy = some (b.queueArnFor names.queue) ∧
    Policy.condition? policy "ArnEquals" "AWS:SourceArn" = some (b.topicArnFor names.topic)
  subscribed : (b.endpoints (b.topicArnFor names.topic)).count (b.queueArnFor names.queue) = 1

/-- Whether nothing but a topic and some queues differs, and no messages do. -/
structure SameOutside (topicArn : String) (urls : List String) (b x : Broker) : Prop where
  identity : x.identity = b.identity
  topics : ∀ {arn}, arn ≠ topicArn → x.topics.find? arn = b.topics.find? arn
  queues : ∀ {url}, url ∉ urls → x.queues.find? url = b.queues.find? url
  messages : ∀ url, x.messages url = b.messages url

section SameOutside

variable {topicArn : String} {urls : List String}

namespace SameOutside

theorem refl (b : Broker) : SameOutside topicArn urls b b :=
  ⟨rfl, fun _ ↦ rfl, fun _ ↦ rfl, fun _ ↦ rfl⟩

theorem trans (h : SameOutside topicArn urls b x) (h' : SameOutside topicArn urls x y) :
    SameOutside topicArn urls b y where
  identity := h'.identity.trans h.identity
  topics harn := (h'.topics harn).trans (h.topics harn)
  queues hurl := (h'.queues hurl).trans (h.queues hurl)
  messages url := (h'.messages url).trans (h.messages url)

theorem setTopic (b : Broker) (topicArn : String) (topic : Topic) :
    SameOutside topicArn urls b (b.setTopic topicArn topic) where
  identity := rfl
  topics harn := by rw [Broker.setTopic, Table.find?_insert, if_neg (Ne.symm harn)]
  queues _ := rfl
  messages _ := rfl

end SameOutside

theorem sameOutside_withTopic (b : Broker) (name : String) :
    SameOutside (b.topicArnFor name) urls b (b.withTopic name) := by
  refine left_of (P := SameOutside _ _ b) (.refl b) fun hcreate ↦ ?_
  obtain ⟨rfl, ⟨-, rfl⟩ | ⟨-, rfl⟩⟩ := createTopic_eq hcreate
  · exact .refl _
  · exact .setTopic ..

theorem sameOutside_withTopicAccess (b : Broker) (ids : String × String) (topicArn : String) :
    SameOutside topicArn urls b (b.withTopicAccess ids topicArn) := by
  unfold withTopicAccess
  cases Policy.topicAccess ids.1 ids.2 topicArn with
  | error e => exact .refl b
  | ok policy =>
    refine left_of (P := SameOutside _ _ b) (.refl b) fun hset ↦ ?_
    obtain ⟨topic, -, rfl⟩ := setTopicAttribute_eq hset
    exact .setTopic ..

theorem sameOutside_topicMade (b : Broker) (ids : String × String) (name : String) :
    SameOutside (b.topicArnFor name) urls b (b.topicMade ids name) :=
  (b.sameOutside_withTopic name).trans (sameOutside_withTopicAccess ..)

theorem find?_setQueue_of_mem {url other : String} (hurl : url ∈ urls) (hother : other ∉ urls)
    (queue : Queue) : (b.setQueue url queue).queues.find? other = b.queues.find? other := by
  rw [setQueue, Table.find?_insert, if_neg]
  rintro rfl
  exact hother hurl

theorem sameOutside_withQueue (b : Broker) {name : String} (h : b.queueUrlFor name ∈ urls) :
    SameOutside topicArn urls b (b.withQueue name) := by
  have hextends := b.extends_withQueue name
  refine ⟨hextends.identity, fun _ ↦ ?_, fun {url} hurl ↦ ?_, hextends.messages⟩
  · rw [topics_withQueue]
  · refine left_of (P := fun x ↦ x.queues.find? url = b.queues.find? url) rfl fun hcreate ↦ ?_
    obtain ⟨rfl, ⟨-, rfl⟩ | ⟨-, rfl⟩⟩ := createQueue_eq hcreate
    · rfl
    · exact find?_setQueue_of_mem (b := b) h hurl _

theorem sameOutside_withQueueAttributes (b : Broker) {url : String}
    {attributes : Table String String} (h : url ∈ urls)
    (hnone : attributes.find? queueArnAttribute = none) :
    SameOutside topicArn urls b (b.withQueueAttributes url attributes) := by
  have hextends := b.extends_withQueueAttributes url hnone
  refine ⟨hextends.identity, fun _ ↦ ?_, fun {other} hother ↦ ?_, hextends.messages⟩
  · rw [topics_withQueueAttributes]
  · refine left_of (P := fun x ↦ x.queues.find? other = b.queues.find? other) rfl fun hset ↦ ?_
    obtain ⟨-, queue, -, rfl⟩ := setQueueAttributes_eq hset
    exact find?_setQueue_of_mem h hother _

theorem sameOutside_withSubscription (b : Broker) (m : Moment) (topicArn endpoint : String) :
    SameOutside topicArn urls b (b.withSubscription m topicArn endpoint) := by
  obtain ⟨-, hidle⟩ | ⟨topic, -, -, hsubscribed⟩ := b.withSubscription_cases topicArn endpoint
  · rw [hidle b m rfl]
    exact .refl b
  · rw [hsubscribed b m rfl]
    exact .setTopic ..

end SameOutside

/-- A topic that is made has an access policy for itself, which asks for the account in its ARN. -/
theorem exists_topicPolicy_topicMade {name account : String} (hname : isResourceName name)
    (haccount : accountOfArn (b.topicArnFor name) = .ok account) (ids : String × String) :
    ∃ policy, (b.topicMade ids name).topicPolicy? (b.topicArnFor name) = some policy ∧
      Policy.resource? policy = some (b.topicArnFor name) ∧
      Policy.condition? policy "StringEquals" "AWS:SourceOwner" = some account := by
  obtain ⟨policy, hpolicy, hsays⟩ := Policy.exists_topicAccess haccount ids.1 ids.2
  obtain ⟨topic, htopic⟩ := Option.isSome_iff_exists.mp (contains_withTopic (b := b) hname)
  refine ⟨policy, ?_, hsays.resource, hsays.condition⟩
  have hmade : b.topicMade ids name = (b.withTopic name).setTopic (b.topicArnFor name)
      { topic with attributes := topic.attributes.insert policyAttribute policy } := by
    rw [topicMade, withTopicAccess, hpolicy]
    dsimp only
    rw [setTopicAttribute, htopic]
    rfl
  rw [hmade, topicPolicy?, topicAttributes?, setTopic, Table.find?_insert_self, Option.map_some,
    Option.bind_some, Table.find?_insert_self]

theorem topicPolicy?_withSubscription (b : Broker) (m : Moment) (topicArn endpoint arn : String) :
    (b.withSubscription m topicArn endpoint).topicPolicy? arn = b.topicPolicy? arn := by
  obtain ⟨-, hidle⟩ | ⟨topic, htopic, -, hsubscribed⟩ := b.withSubscription_cases topicArn endpoint
  · rw [hidle b m rfl]
  · rw [hsubscribed b m rfl, topicPolicy?, topicAttributes?, setTopic, Table.find?_insert]
    split
    · next harn => rw [topicPolicy?, topicAttributes?, ← harn, htopic]; rfl
    · rfl

end Broker

namespace Wiring

variable {w : Wiring} {b : Broker}

theorem sameOutside_queues (w : Wiring) {topicArn : String} {urls : List String}
    (hqueue : b.queueUrlFor w.queueName ∈ urls) (herror : b.queueUrlFor w.errorQueueName ∈ urls) :
    Broker.SameOutside topicArn urls b (w.queues b) := by
  have hfirst : Broker.SameOutside topicArn urls b (b.withQueue w.errorQueueName) :=
    b.sameOutside_withQueue herror
  refine hfirst.trans (Broker.sameOutside_withQueue _ ?_)
  rw [Broker.queueUrlFor_congr hfirst.identity]
  exact hqueue

theorem sameOutside_attributed (w : Wiring) (ids : String × String) {topicArn : String}
    {urls : List String} (h : b.queueUrlFor w.queueName ∈ urls) :
    Broker.SameOutside topicArn urls b (w.attributed ids b) :=
  b.sameOutside_withQueueAttributes h (Provisioning.find?_queueAttributes ..)

theorem sameOutside_subscribed (w : Wiring) (m : Moment) {urls : List String} :
    Broker.SameOutside w.topicArn urls b (w.subscribed m b) :=
  b.sameOutside_withSubscription ..

theorem sameOutside_whole (w : Wiring) (ids : String × String) (m : Moment) {urls : List String}
    (hqueue : b.queueUrlFor w.queueName ∈ urls) (herror : b.queueUrlFor w.errorQueueName ∈ urls) :
    Broker.SameOutside w.topicArn urls b (w.whole ids m b) := by
  have hqueues : Broker.SameOutside w.topicArn urls b (w.queues b) :=
    w.sameOutside_queues hqueue herror
  rw [← Broker.queueUrlFor_congr hqueues.identity] at hqueue
  exact (hqueues.trans (w.sameOutside_attributed ids hqueue)).trans (w.sameOutside_subscribed m)

theorem topicPolicy?_whole (w : Wiring) (ids : String × String) (m : Moment) (b : Broker)
    (arn : String) : (w.whole ids m b).topicPolicy? arn = b.topicPolicy? arn := by
  rw [whole, subscribed, Broker.topicPolicy?_withSubscription, Broker.topicPolicy?,
    Broker.topicAttributes?, topics_attributed]
  rfl

section Attributes

variable (hb : b.IsNamed) (h : w.Feasible b)
include hb h

theorem arn_queues : w.arn (w.queues b) = b.queueArnFor w.queueName := by
  have hqueues := w.extends_queues b
  rw [arn, (hqueues.isNamed hb).reported?_eq (w.contains_queues b h.queueName), Option.getD_some,
    Broker.queueArnFor_congr hqueues.identity]

theorem errorArn_queues : w.errorArn (w.queues b) = b.queueArnFor w.errorQueueName := by
  have hqueues := w.extends_queues b
  rw [errorArn, (hqueues.isNamed hb).reported?_eq (w.contains_queues_error b h.errorQueueName),
    Option.getD_some, Broker.queueArnFor_congr hqueues.identity]

/-- The queue is given the policies of the wiring, and keeps what other attributes it has. -/
theorem exists_queueAttributes?_whole (ids : String × String) (m : Moment) :
    ∃ old : Table String String,
      (w.whole ids m b).queueAttributes? (b.queueUrlFor w.queueName) =
        some ((old.insert Broker.policyAttribute
          (Policy.queueAccess ids.1 ids.2 w.topicArn (b.queueArnFor w.queueName))).insert
            Broker.redriveAttribute (Redrive.text ⟨b.queueArnFor w.errorQueueName, w.limit⟩)) := by
  obtain ⟨queue, hqueue⟩ := Broker.exists_queue_of_contains (w.contains_queues b h.queueName)
  have hset := Broker.withQueueAttributes_eq (h.settable ids) hqueue
  rw [arn_queues hb h, errorArn_queues hb h] at hset
  refine ⟨queue.attributes, ?_⟩
  rw [whole, subscribed, Broker.queueAttributes?, Broker.queues_withSubscription, attributed,
    arn_queues hb h, errorArn_queues hb h, hset,
    ← Broker.queueUrlFor_congr (w.extends_queues b).identity, Broker.setQueue,
    Table.find?_insert_self, Option.map_some, Provisioning.insertAll_queueAttributes]

end Attributes

/-- The queue is subscribed to its topic. -/
theorem mem_endpoints_whole (hb : b.IsNamed) (h : w.Feasible b)
    (htopic : b.topics.contains w.topicArn) (ids : String × String) (m : Moment) :
    b.queueArnFor w.queueName ∈ (w.whole ids m b).endpoints w.topicArn := by
  have harn : w.arn (w.attributed ids (w.queues b)) = b.queueArnFor w.queueName := by
    rw [arn_congr (w.extends_attributed ids _).identity (w.reported?_attributed ids _),
      arn_queues hb h]
  rw [whole, subscribed, harn]
  apply Broker.mem_endpoints_withSubscription
  rw [topics_attributed]
  exact htopic

/-- What is wired when the steps of provisioning have been taken, where queues report the ARNs of
their names and no topic has two subscriptions to one endpoint. -/
theorem wired_whole {topicName policy : String} {ids : String × String} {m : Moment}
    (hb : b.IsNamed) (hfeasible : w.Feasible b) (hlimit : w.limit < halfWordBound)
    (htopicArn : w.topicArn = b.topicArnFor topicName) (htopic : b.topics.contains w.topicArn)
    (hpolicy : b.topicPolicy? w.topicArn = some policy)
    (hresource : Policy.resource? policy = some w.topicArn)
    (howner : Policy.condition? policy "StringEquals" "AWS:SourceOwner" =
      some b.identity.accountId)
    (honce : (w.whole ids m b).SubscribesOnce) :
    (w.whole ids m b).Wired ⟨topicName, w.queueName, w.errorQueueName⟩ w.limit := by
  have hwhole := w.extends_whole ids m b
  -- The addresses are those of the broker at the end, so the facts are moved there.
  have hidentity := hwhole.identity
  have hnamed := hwhole.isNamed hb
  have hlast : (w.queues b).Extends (w.whole ids m b) :=
    (w.extends_attributed ids _).trans (w.extends_subscribed m _)
  have hqueue := hlast.queues (w.contains_queues b hfeasible.queueName)
  have herror := hlast.queues (w.contains_queues_error b hfeasible.errorQueueName)
  rw [← Broker.queueUrlFor_congr hlast.identity] at hqueue herror
  obtain ⟨old, hold⟩ := exists_queueAttributes?_whole hb hfeasible ids m
  rw [← Broker.queueUrlFor_congr hidentity] at hold
  refine {
    owned := ?_
    queue := hnamed.reported?_eq hqueue
    errorQueue := hnamed.reported?_eq herror
    redrives := ?_
    found := hnamed.find?_urlByArn herror
    accepts := ?_
    subscribed := ?_ }
  · rw [Broker.topicArnFor_congr hidentity, ← htopicArn, topicPolicy?_whole, hidentity]
    exact ⟨policy, hpolicy, hresource, howner⟩
  · refine ⟨_, ?_, Redrive.read?_text _ hlimit⟩
    rw [Broker.queueAttribute?, hold, Option.bind_some, Table.find?_insert_self,
      Broker.queueArnFor_congr hidentity]
  · rw [Broker.queueAttribute?, hold, Option.bind_some, Table.find?_insert, if_neg (by decide),
      Table.find?_insert_self, Broker.topicArnFor_congr hidentity, ← htopicArn,
      Broker.queueArnFor_congr hidentity]
    exact ⟨_, rfl, (Policy.says_queueAccess ..).resource, (Policy.says_queueAccess ..).condition⟩
  · rw [Broker.topicArnFor_congr hidentity, ← htopicArn, Broker.queueArnFor_congr hidentity]
    exact List.count_eq_one_of_mem (honce _) (mem_endpoints_whole hb hfeasible htopic ids m)

end Wiring

end MessageBus
