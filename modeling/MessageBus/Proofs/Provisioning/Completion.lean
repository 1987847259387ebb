import MessageBus.Proofs.Broker.Directory
import MessageBus.Proofs.Policy
import MessageBus.Proofs.Provisioning.Course
import MessageBus.Proofs.Table
/-!
What provisioning makes of a broker: a topic with its access policy (`Broker.topicMade`), and an
error queue and a queue that is given its attributes and subscribed to a topic (`Wiring.whole`).
No step undoes what was there before (`Broker.Extends`), and a step that has been taken is idle when
it is taken again, except that a policy gets new identifiers. So whoever was cut off after some of
the steps can start again from the first one and comes to the same end
(`Broker.TopicBegun.topicMade_eq`, `Wiring.Begun.exists_whole_eq`).
-/

set_option autoImplicit false
set_option relaxedAutoImplicit false

namespace MessageBus

namespace Broker

variable {b x y : Broker} {α : Type}

/-- The broker that an operation leaves; one that fails changes nothing. -/
def left (b : Broker) : Result α → Broker
  | .ok (_, next) => next
  | .error _ => b

theorem left_of_ok {result : Result α} {a : α} (h : result = .ok (a, x)) : b.left result = x := by
  rw [h, left]

/-- What holds before an operation, and after it if it succeeds, holds of what it leaves. -/
theorem left_of {P : Broker → Prop} {result : Result α} (hb : P b)
    (hok : ∀ {a x}, result = .ok (a, x) → P x) : P (b.left result) := by
  cases result with
  | ok answer => exact hok rfl
  | error e => exact hb

/-- The ARN that a queue reports as its own. -/
def reported? (b : Broker) (url : String) : Option String :=
  (b.queueAttributes? url).bind (·.find? queueArnAttribute)

theorem topicArnFor_congr (h : x.identity = b.identity) (name : String) :
    x.topicArnFor name = b.topicArnFor name :=
  congrArg (fun identity ↦ topicArnFor { identity := identity } name) h

/-- What a step of provisioning leaves as it was. -/
structure Extends (b x : Broker) : Prop where
  identity : x.identity = b.identity
  topics : ∀ {arn}, b.topics.contains arn → x.topics.contains arn
  queues : ∀ {url}, b.queues.contains url → x.queues.contains url
  reported : ∀ {url arn}, b.reported? url = some arn → x.reported? url = some arn
  messages : ∀ url, x.messages url = b.messages url
  isNamed : b.IsNamed → x.IsNamed

namespace Extends

theorem refl (b : Broker) : b.Extends b := ⟨rfl, id, id, id, fun _ ↦ rfl, id⟩

theorem trans (h : b.Extends x) (h' : x.Extends y) : b.Extends y where
  identity := h'.identity.trans h.identity
  topics hb := h'.topics (h.topics hb)
  queues hb := h'.queues (h.queues hb)
  reported hb := h'.reported (h.reported hb)
  messages url := (h'.messages url).trans (h.messages url)
  isNamed hb := h'.isNamed (h.isNamed hb)

theorem setTopic (b : Broker) (topicArn : String) (topic : Topic) :
    b.Extends (b.setTopic topicArn topic) where
  identity := rfl
  topics {arn} hb := by
    rw [Broker.setTopic, Table.contains, Table.find?_insert]
    split
    · rfl
    · exact hb
  queues hb := hb
  reported hb := hb
  messages _ := rfl
  isNamed := (SameDirectory.setTopic ..).isNamed

end Extends

section Topic

/-- A broker after it was asked for a topic. -/
def withTopic (b : Broker) (name : String) : Broker := b.left (b.createTopic name)

/-- A broker after a topic was given its access policy. -/
def withTopicAccess (b : Broker) (ids : String × String) (topicArn : String) : Broker :=
  match Policy.topicAccess ids.1 ids.2 topicArn with
  | .ok policy => b.left (b.setTopicAttribute topicArn policyAttribute policy)
  | .error _ => b

/-- A broker with a topic that has its access policy. -/
def topicMade (b : Broker) (ids : String × String) (name : String) : Broker :=
  (b.withTopic name).withTopicAccess ids (b.topicArnFor name)

theorem extends_withTopic (b : Broker) (name : String) : b.Extends (b.withTopic name) := by
  refine left_of (P := b.Extends) (.refl b) fun hcreate ↦ ?_
  obtain ⟨-, ⟨-, rfl⟩ | ⟨-, rfl⟩⟩ := createTopic_eq hcreate
  · exact .refl _
  · exact .setTopic ..

theorem extends_withTopicAccess (b : Broker) (ids : String × String) (topicArn : String) :
    b.Extends (b.withTopicAccess ids topicArn) := by
  unfold withTopicAccess
  cases Policy.topicAccess ids.1 ids.2 topicArn with
  | error e => exact .refl b
  | ok policy =>
    refine left_of (P := b.Extends) (.refl b) fun hset ↦ ?_
    obtain ⟨topic, -, rfl⟩ := setTopicAttribute_eq hset
    exact .setTopic ..

theorem extends_topicMade (b : Broker) (ids : String × String) (name : String) :
    b.Extends (b.topicMade ids name) :=
  (b.extends_withTopic name).trans (extends_withTopicAccess ..)

theorem queues_withTopic (b : Broker) (name : String) : (b.withTopic name).queues = b.queues := by
  refine left_of (P := fun x ↦ x.queues = b.queues) rfl fun hcreate ↦ ?_
  obtain ⟨-, ⟨-, rfl⟩ | ⟨-, rfl⟩⟩ := createTopic_eq hcreate
  · rfl
  · rfl

theorem queues_topicMade (b : Broker) (ids : String × String) (name : String) :
    (b.topicMade ids name).queues = b.queues := by
  have hcreated := b.queues_withTopic name
  unfold topicMade withTopicAccess
  cases Policy.topicAccess ids.1 ids.2 (b.topicArnFor name) with
  | error e => exact hcreated
  | ok policy =>
    refine left_of (P := fun x ↦ x.queues = b.queues) hcreated fun hset ↦ ?_
    obtain ⟨topic, -, rfl⟩ := setTopicAttribute_eq hset
    exact hcreated

theorem contains_withTopic {name : String} (h : isResourceName name) :
    (b.withTopic name).topics.contains (b.topicArnFor name) := by
  unfold withTopic createTopic
  rw [if_pos h]
  unfold left
  dsimp only
  split
  · assumption
  · exact Table.contains_insert_self ..

/-- To ask again for a topic that was asked for changes nothing. -/
theorem withTopic_of_extends {name : String} (h : (b.withTopic name).Extends x) :
    x.withTopic name = x := by
  have hidentity : x.identity = b.identity := h.identity.trans (b.extends_withTopic name).identity
  unfold withTopic createTopic
  by_cases hname : isResourceName name
  · have hcontains := h.topics (contains_withTopic hname)
    rw [← topicArnFor_congr hidentity] at hcontains
    rw [if_pos hname]
    unfold left
    dsimp only
    rw [if_pos hcontains]
  · rw [if_neg hname]
    rfl

theorem withTopicAccess_withTopicAccess (b : Broker) (ids ids' : String × String)
    (topicArn : String) :
    (b.withTopicAccess ids topicArn).withTopicAccess ids' topicArn =
      b.withTopicAccess ids' topicArn := by
  unfold withTopicAccess Policy.topicAccess
  cases accountOfArn topicArn with
  | error e => rfl
  | ok account =>
    simp only [Except.map]
    cases htopic : b.topics.find? topicArn with
    | none => simp only [setTopicAttribute, htopic, left]
    | some topic =>
      simp only [setTopicAttribute, htopic, left, setTopic, Table.find?_insert, if_pos,
        Table.insert_insert]

/-- What is left of a topic that was begun and cut off after one of its steps. -/
inductive TopicBegun (name : String) (b : Broker) : Broker → Prop
  | untouched : TopicBegun name b b
  | created : TopicBegun name b (b.withTopic name)
  | made (ids : String × String) : TopicBegun name b (b.topicMade ids name)

theorem TopicBegun.toExtends {name : String} (h : b.TopicBegun name x) : b.Extends x := by
  cases h with
  | untouched => exact .refl b
  | created => exact b.extends_withTopic name
  | made ids => exact b.extends_topicMade ids name

theorem TopicBegun.queues_eq {name : String} (h : b.TopicBegun name x) : x.queues = b.queues := by
  cases h with
  | untouched => rfl
  | created => exact b.queues_withTopic name
  | made ids => exact b.queues_topicMade ids name

/-- Whoever was cut off while making a topic can start again. -/
theorem TopicBegun.topicMade_eq {name : String} (h : b.TopicBegun name x) (ids : String × String) :
    x.topicMade ids name = b.topicMade ids name := by
  have hagain {x : Broker} (hx : (b.withTopic name).Extends x) :
      x.topicMade ids name = x.withTopicAccess ids (b.topicArnFor name) := by
    have hidentity := hx.identity.trans (b.extends_withTopic name).identity
    rw [topicMade, withTopic_of_extends hx, topicArnFor_congr hidentity]
  cases h with
  | untouched => rfl
  | created => exact hagain (.refl _)
  | made before =>
    refine (hagain (extends_withTopicAccess ..)).trans ?_
    exact withTopicAccess_withTopicAccess ..

end Topic

section Queue

/-- A broker after it was asked for a queue. -/
def withQueue (b : Broker) (name : String) : Broker := b.left (b.createQueue name)

/-- A broker after a queue was given attributes. -/
def withQueueAttributes (b : Broker) (url : String) (attributes : Table String String) : Broker :=
  b.left (b.setQueueAttributes url attributes)

/-- A broker after a queue was subscribed to a topic. -/
def withSubscription (b : Broker) (m : Moment) (topicArn endpoint : String) : Broker :=
  b.left (b.subscribe m topicArn protocol endpoint)

theorem extends_withQueue (b : Broker) (name : String) : b.Extends (b.withQueue name) := by
  refine left_of (P := b.Extends) (.refl b) fun hcreate ↦ ?_
  have hkeeps := keeps_createQueue hcreate True
  obtain ⟨-, ⟨-, rfl⟩ | ⟨hnone, rfl⟩⟩ := createQueue_eq hcreate
  · exact .refl _
  refine ⟨rfl, id, hkeeps.contains, fun {other arn} harn ↦ ?_, fun other ↦ ?_,
    hkeeps.isNamed trivial⟩
  · show ((b.setQueue ..).queueAttributes? other).bind _ = _
    rw [queueAttributes?_setQueue]
    split
    · next hurl =>
      rw [reported?, queueAttributes?, ← hurl, hnone] at harn
      cases harn
    · exact harn
  · refine (messages_setQueue b _ other _).trans ?_
    split
    · next hurl => rw [← hurl, messages, hnone]
    · rfl

theorem contains_withQueue {name : String} (h : isResourceName name) :
    (b.withQueue name).queues.contains (b.queueUrlFor name) := by
  unfold withQueue createQueue
  rw [if_pos h]
  dsimp only
  by_cases hcontains : b.queues.contains (b.queueUrlFor name)
  · rw [if_pos hcontains]
    exact hcontains
  · rw [if_neg hcontains]
    exact Table.contains_insert_self ..

/-- To ask again for a queue that was asked for changes nothing. -/
theorem withQueue_of_extends {name : String} (h : (b.withQueue name).Extends x) :
    x.withQueue name = x := by
  have hidentity : x.identity = b.identity := h.identity.trans (b.extends_withQueue name).identity
  unfold withQueue createQueue
  by_cases hname : isResourceName name
  · have hcontains := h.queues (contains_withQueue hname)
    rw [← queueUrlFor_congr hidentity] at hcontains
    rw [if_pos hname]
    dsimp only
    rw [if_pos hcontains]
    rfl
  · rw [if_neg hname]
    rfl

theorem withQueueAttributes_eq {url : String} {attributes : Table String String} {queue : Queue}
    (hfault : attributeFault? attributes = none) (hqueue : b.queues.find? url = some queue) :
    b.withQueueAttributes url attributes =
      b.setQueue url { queue with attributes := queue.attributes.insertAll attributes } := by
  rw [withQueueAttributes, setQueueAttributes, hfault, hqueue]
  rfl

/-- To give a queue attributes depends on nothing but the queues, and changes nothing else. -/
theorem withQueueAttributes_cases (b : Broker) (url : String) (attributes : Table String String) :
    (∀ x : Broker, x.queues = b.queues → x.withQueueAttributes url attributes = x) ∨
      attributeFault? attributes = none ∧ ∃ queue, b.queues.find? url = some queue ∧
        ∀ x : Broker, x.queues = b.queues → x.withQueueAttributes url attributes =
          x.setQueue url { queue with attributes := queue.attributes.insertAll attributes } := by
  unfold withQueueAttributes setQueueAttributes
  cases hfault : attributeFault? attributes with
  | some e => exact .inl fun x _ ↦ rfl
  | none =>
    cases hqueue : b.queues.find? url with
    | none =>
      refine .inl fun x hx ↦ ?_
      rw [hx, hqueue]
      rfl
    | some queue =>
      refine .inr ⟨rfl, queue, rfl, fun x hx ↦ ?_⟩
      rw [hx, hqueue]
      rfl

/-- To subscribe a queue depends on nothing but the topics, and changes nothing else. -/
theorem withSubscription_cases (b : Broker) (topicArn endpoint : String) :
    ((b.topics.find? topicArn = none ∨ endpoint ∈ b.endpoints topicArn) ∧
      ∀ (x : Broker) (m : Moment), x.topics = b.topics →
        x.withSubscription m topicArn endpoint = x) ∨
    ∃ topic, b.topics.find? topicArn = some topic ∧ endpoint ∉ b.endpoints topicArn ∧
      ∀ (x : Broker) (m : Moment), x.topics = b.topics →
        x.withSubscription m topicArn endpoint = x.setTopic topicArn
          { topic with subscriptions :=
            topic.subscriptions ++ [⟨topicArn ++ ":" ++ m.id 0, endpoint⟩] } := by
  unfold withSubscription subscribe
  simp only [ne_eq, not_true_eq_false, ↓reduceIte]
  cases htopic : b.topics.find? topicArn with
  | none =>
    refine .inl ⟨.inl rfl, fun x m hx ↦ ?_⟩
    rw [hx, htopic]
    rfl
  | some topic =>
    cases hfound : topic.subscriptions.find? fun s ↦ s.endpoint = endpoint with
    | some s =>
      have hs := List.find?_some hfound
      refine .inl ⟨.inr ?_, fun x m hx ↦ ?_⟩
      · rw [endpoints, htopic]
        exact List.mem_map.mpr ⟨s, List.mem_of_find?_eq_some hfound, by simpa using hs⟩
      · rw [hx, htopic]
        dsimp only
        rw [hfound]
        rfl
    | none =>
      refine .inr ⟨topic, rfl, ?_, fun x m hx ↦ ?_⟩
      · simpa [endpoints, htopic] using List.find?_eq_none.mp hfound
      · rw [hx, htopic]
        dsimp only
        rw [hfound]
        rfl

theorem mem_endpoints_withSubscription {m : Moment} {topicArn endpoint : String}
    (h : b.topics.contains topicArn) :
    endpoint ∈ (b.withSubscription m topicArn endpoint).endpoints topicArn := by
  obtain ⟨hnone | hmem, hidle⟩ | ⟨topic, -, -, hsubscribed⟩ :=
    b.withSubscription_cases topicArn endpoint
  · rw [Table.contains, hnone] at h
    cases h
  · rwa [hidle b m rfl]
  · rw [hsubscribed b m rfl, endpoints, setTopic, Table.find?_insert_self]
    simp

theorem contains_of_withSubscription {m : Moment} {topicArn endpoint arn : String}
    (h : (b.withSubscription m topicArn endpoint).topics.contains arn) : b.topics.contains arn := by
  obtain ⟨-, hidle⟩ | ⟨topic, htopic, -, hsubscribed⟩ := b.withSubscription_cases topicArn endpoint
  · rwa [hidle b m rfl] at h
  · rw [hsubscribed b m rfl, setTopic, Table.contains, Table.find?_insert] at h
    split at h
    · next harn =>
      rw [← harn, Table.contains, htopic]
      rfl
    · exact h

/-- To subscribe a queue again changes nothing. -/
theorem withSubscription_withSubscription (b : Broker) (m m' : Moment)
    (topicArn endpoint : String) :
    (b.withSubscription m topicArn endpoint).withSubscription m' topicArn endpoint =
      b.withSubscription m topicArn endpoint := by
  obtain ⟨-, hidle⟩ | ⟨topic, htopic, -, -⟩ := b.withSubscription_cases topicArn endpoint
  · rw [hidle b m rfl, hidle b m' rfl]
  · have hcontains : b.topics.contains topicArn := by rw [Table.contains, htopic]; rfl
    have hmem : endpoint ∈ (b.withSubscription m topicArn endpoint).endpoints topicArn :=
      mem_endpoints_withSubscription hcontains
    obtain ⟨-, hidle⟩ | ⟨-, -, hnew, -⟩ :=
      (b.withSubscription m topicArn endpoint).withSubscription_cases topicArn endpoint
    · exact hidle _ m' rfl
    · exact absurd hmem hnew

theorem topics_withQueue (b : Broker) (name : String) : (b.withQueue name).topics = b.topics := by
  refine left_of (P := fun x ↦ x.topics = b.topics) rfl fun hcreate ↦ ?_
  obtain ⟨-, ⟨-, rfl⟩ | ⟨-, rfl⟩⟩ := createQueue_eq hcreate
  · rfl
  · rfl

theorem topics_withQueueAttributes (b : Broker) (url : String)
    (attributes : Table String String) :
    (b.withQueueAttributes url attributes).topics = b.topics := by
  obtain hidle | ⟨-, queue, -, hset⟩ := b.withQueueAttributes_cases url attributes
  · rw [hidle b rfl]
  · rw [hset b rfl]
    rfl

theorem queues_withSubscription (b : Broker) (m : Moment) (topicArn endpoint : String) :
    (b.withSubscription m topicArn endpoint).queues = b.queues := by
  obtain ⟨-, hidle⟩ | ⟨topic, -, -, hsubscribed⟩ := b.withSubscription_cases topicArn endpoint
  · rw [hidle b m rfl]
  · rw [hsubscribed b m rfl]
    rfl

theorem reported?_withSubscription (b : Broker) (m : Moment) (topicArn endpoint url : String) :
    (b.withSubscription m topicArn endpoint).reported? url = b.reported? url := by
  rw [reported?, queueAttributes?, queues_withSubscription]
  rfl

/-- The attributes of a queue and the subscriptions of a topic are set apart from each other. -/
theorem withQueueAttributes_withSubscription (b : Broker) (url : String)
    (attributes : Table String String) (m : Moment) (topicArn endpoint : String) :
    (b.withSubscription m topicArn endpoint).withQueueAttributes url attributes =
      (b.withQueueAttributes url attributes).withSubscription m topicArn endpoint := by
  have hqueues := b.queues_withSubscription m topicArn endpoint
  have htopics := b.topics_withQueueAttributes url attributes
  obtain hidle | ⟨-, queue, -, hset⟩ := b.withQueueAttributes_cases url attributes
  · rw [hidle b rfl, hidle _ hqueues]
  · rw [hset _ hqueues]
    obtain ⟨-, hidle⟩ | ⟨topic, -, -, hsubscribed⟩ := b.withSubscription_cases topicArn endpoint
    · rw [hidle b m rfl, hidle _ m htopics, hset b rfl]
    · rw [hsubscribed b m rfl, hsubscribed _ m htopics, hset b rfl]
      rfl

theorem reported?_withQueueAttributes (b : Broker) (url : String)
    {attributes : Table String String} (h : attributes.find? queueArnAttribute = none)
    (other : String) :
    (b.withQueueAttributes url attributes).reported? other = b.reported? other := by
  obtain hidle | ⟨-, queue, hqueue, hset⟩ := b.withQueueAttributes_cases url attributes
  · rw [hidle b rfl]
  · rw [hset b rfl, reported?, queueAttributes?_setQueue]
    split
    · next hurl =>
      rw [reported?, queueAttributes?_of_find? (hurl ▸ hqueue)]
      exact queue.attributes.find?_insertAll_of_none h
    · rfl

theorem extends_withQueueAttributes (b : Broker) (url : String)
    {attributes : Table String String} (h : attributes.find? queueArnAttribute = none) :
    b.Extends (b.withQueueAttributes url attributes) := by
  have hreported := b.reported?_withQueueAttributes url h
  refine left_of (P := fun x ↦ (∀ other, x.reported? other = b.reported? other) → b.Extends x)
    (fun _ ↦ .refl b) (fun hset hreported ↦ ?_) hreported
  have hkeeps := keeps_setQueueAttributes hset
  have hallowed : (Call.setQueueAttributes url attributes).keepsArns := by
    rw [Call.keepsArns, Table.contains, h]
    rfl
  obtain ⟨-, queue, hqueue, rfl⟩ := setQueueAttributes_eq hset
  refine ⟨rfl, id, hkeeps.contains, fun harn ↦ (hreported _).trans harn, fun other ↦ ?_,
    hkeeps.isNamed hallowed⟩
  rw [messages_setQueue]
  split
  · next hurl => rw [messages_of_find? (hurl ▸ hqueue)]
  · rfl

theorem extends_withSubscription (b : Broker) (m : Moment) (topicArn endpoint : String) :
    b.Extends (b.withSubscription m topicArn endpoint) := by
  obtain ⟨-, hidle⟩ | ⟨topic, -, -, hsubscribed⟩ := b.withSubscription_cases topicArn endpoint
  · rw [hidle b m rfl]
    exact .refl b
  · rw [hsubscribed b m rfl]
    exact .setTopic ..

end Queue

end Broker

namespace Provisioning

theorem find?_queueAttributes (ids : String × String) (topicArn arn errorQueueArn : String)
    (limit : Nat) :
    (queueAttributes ids topicArn arn errorQueueArn limit).find? Broker.queueArnAttribute =
      none := by
  rfl

theorem insertAll_queueAttributes (t : Table String String) (ids : String × String)
    (topicArn arn errorQueueArn : String) (limit : Nat) :
    t.insertAll (queueAttributes ids topicArn arn errorQueueArn limit) =
      (t.insert Broker.policyAttribute (Policy.queueAccess ids.1 ids.2 topicArn arn)).insert
        Broker.redriveAttribute (Redrive.text ⟨errorQueueArn, limit⟩) := by
  rfl

/-- Whether attributes can be set does not depend on the identifiers of their policy. -/
theorem attributeFault?_queueAttributes (ids : String × String)
    (topicArn arn errorQueueArn : String) (limit : Nat) :
    Broker.attributeFault? (queueAttributes ids topicArn arn errorQueueArn limit) =
      if (Redrive.read? (Redrive.text ⟨errorQueueArn, limit⟩)).isNone then
        some (Broker.invalidRedrive (Redrive.text ⟨errorQueueArn, limit⟩))
      else none := by
  have hredrive : (queueAttributes ids topicArn arn errorQueueArn limit).find?
      Broker.redriveAttribute = some (Redrive.text ⟨errorQueueArn, limit⟩) := rfl
  have hpolicy : (queueAttributes ids topicArn arn errorQueueArn limit).find?
      Broker.policyAttribute = some (Policy.queueAccess ids.1 ids.2 topicArn arn) := rfl
  have hvalid := (Policy.says_queueAccess ids.1 ids.2 topicArn arn).isSome_readValue?
  rw [Broker.attributeFault?, hredrive]
  dsimp only
  split
  · rfl
  · rw [Broker.attributeFault?.policyFault?, hpolicy]
    dsimp only
    rw [if_neg (by simpa using Option.isSome_iff_ne_none.mp hvalid)]

/-- To set the attributes of a queue again replaces the identifiers of the policy. -/
theorem withQueueAttributes_again (b : Broker) (url : String) (ids ids' : String × String)
    (topicArn arn errorQueueArn : String) (limit : Nat) :
    (b.withQueueAttributes url (queueAttributes ids topicArn arn errorQueueArn limit)
      ).withQueueAttributes url (queueAttributes ids' topicArn arn errorQueueArn limit) =
      b.withQueueAttributes url (queueAttributes ids' topicArn arn errorQueueArn limit) := by
  obtain hidle | ⟨hfault, queue, hqueue, hset⟩ := b.withQueueAttributes_cases url
    (queueAttributes ids topicArn arn errorQueueArn limit)
  · rw [hidle b rfl]
  have hfault' : Broker.attributeFault?
      (queueAttributes ids' topicArn arn errorQueueArn limit) = none := by
    rw [attributeFault?_queueAttributes] at hfault ⊢
    exact hfault
  have hne : Broker.policyAttribute ≠ Broker.redriveAttribute := by decide
  rw [hset b rfl, Broker.withQueueAttributes_eq hfault' hqueue,
    Broker.withQueueAttributes_eq hfault' (b.queues.find?_insert_self url _)]
  simp only [Broker.setQueue, insertAll_queueAttributes, Table.insert_insert,
    Table.replace_insert _ hne]

end Provisioning

/-- What a queue is wired to: the topic that it is subscribed to, and the queue that takes its
messages after so many receives. -/
structure Wiring where
  topicArn : String
  queueName : String
  errorQueueName : String
  limit : Nat

namespace Wiring

variable (w : Wiring) {b x : Broker}

/-- The ARN that the queue reports. -/
def arn (b : Broker) : String := (b.reported? (b.queueUrlFor w.queueName)).getD ""

def errorArn (b : Broker) : String := (b.reported? (b.queueUrlFor w.errorQueueName)).getD ""

/-- A broker with both queues. -/
def queues (b : Broker) : Broker := (b.withQueue w.errorQueueName).withQueue w.queueName

def attributed (ids : String × String) (b : Broker) : Broker :=
  b.withQueueAttributes (b.queueUrlFor w.queueName)
    (Provisioning.queueAttributes ids w.topicArn (w.arn b) (w.errorArn b) w.limit)

def subscribed (m : Moment) (b : Broker) : Broker := b.withSubscription m w.topicArn (w.arn b)

/-- A broker with the whole wiring. -/
def whole (ids : String × String) (m : Moment) (b : Broker) : Broker :=
  w.subscribed m (w.attributed ids (w.queues b))

/-- What is left of a wiring that was begun and cut off after one of its steps. -/
inductive Begun (w : Wiring) (b : Broker) : Broker → Prop
  | untouched : Begun w b b
  | errorQueue : Begun w b (b.withQueue w.errorQueueName)
  | queues : Begun w b (w.queues b)
  | attributed (ids : String × String) : Begun w b (w.attributed ids (w.queues b))
  | whole (ids : String × String) (m : Moment) : Begun w b (w.whole ids m b)

variable {w}

theorem arn_congr (hidentity : x.identity = b.identity)
    (hreported : ∀ url, x.reported? url = b.reported? url) : w.arn x = w.arn b := by
  rw [arn, hreported, Broker.queueUrlFor_congr hidentity, arn]

theorem errorArn_congr (hidentity : x.identity = b.identity)
    (hreported : ∀ url, x.reported? url = b.reported? url) : w.errorArn x = w.errorArn b := by
  rw [errorArn, hreported, Broker.queueUrlFor_congr hidentity, errorArn]

theorem extends_queues (w : Wiring) (b : Broker) : b.Extends (w.queues b) :=
  (b.extends_withQueue _).trans (Broker.extends_withQueue ..)

theorem extends_attributed (w : Wiring) (ids : String × String) (b : Broker) :
    b.Extends (w.attributed ids b) :=
  b.extends_withQueueAttributes _ (Provisioning.find?_queueAttributes ..)

theorem extends_subscribed (w : Wiring) (m : Moment) (b : Broker) : b.Extends (w.subscribed m b) :=
  b.extends_withSubscription ..

theorem reported?_attributed (w : Wiring) (ids : String × String) (b : Broker) (url : String) :
    (w.attributed ids b).reported? url = b.reported? url :=
  b.reported?_withQueueAttributes _ (Provisioning.find?_queueAttributes ..) url

theorem reported?_whole (w : Wiring) (ids : String × String) (m : Moment) (b : Broker)
    (url : String) : (w.whole ids m b).reported? url = (w.queues b).reported? url := by
  rw [whole, subscribed, Broker.reported?_withSubscription, reported?_attributed]

theorem extends_whole (w : Wiring) (ids : String × String) (m : Moment) (b : Broker) :
    b.Extends (w.whole ids m b) :=
  (w.extends_queues b).trans ((w.extends_attributed ids _).trans (w.extends_subscribed m _))

theorem queues_of_extends (h : (w.queues b).Extends x) : w.queues x = x := by
  have herror : x.withQueue w.errorQueueName = x :=
    Broker.withQueue_of_extends ((Broker.extends_withQueue ..).trans h)
  rw [queues, herror]
  exact Broker.withQueue_of_extends h

theorem queues_withQueue (w : Wiring) (b : Broker) :
    w.queues (b.withQueue w.errorQueueName) = w.queues b := by
  have herror : (b.withQueue w.errorQueueName).withQueue w.errorQueueName =
      b.withQueue w.errorQueueName := Broker.withQueue_of_extends (.refl _)
  rw [queues, herror, queues]

theorem queues_queues (w : Wiring) (b : Broker) : w.queues (w.queues b) = w.queues b :=
  queues_of_extends (.refl _)

theorem queues_attributed (w : Wiring) (ids : String × String) (b : Broker) :
    w.queues (w.attributed ids (w.queues b)) = w.attributed ids (w.queues b) :=
  queues_of_extends (w.extends_attributed ids _)

theorem queues_whole (w : Wiring) (ids : String × String) (m : Moment) (b : Broker) :
    w.queues (w.whole ids m b) = w.whole ids m b :=
  queues_of_extends ((w.extends_attributed ids _).trans (w.extends_subscribed m _))

theorem attributed_attributed (w : Wiring) (ids ids' : String × String) (b : Broker) :
    w.attributed ids' (w.attributed ids b) = w.attributed ids' b := by
  have hextends := w.extends_attributed ids b
  have hreported := w.reported?_attributed ids b
  rw [attributed, Broker.queueUrlFor_congr hextends.identity,
    arn_congr hextends.identity hreported, errorArn_congr hextends.identity hreported]
  exact Provisioning.withQueueAttributes_again ..

theorem topics_attributed (w : Wiring) (ids : String × String) (b : Broker) :
    (w.attributed ids (w.queues b)).topics = b.topics := by
  rw [attributed, Broker.topics_withQueueAttributes, queues, Broker.topics_withQueue,
    Broker.topics_withQueue]

/-- Whether the queue was subscribed before it was given attributes makes no difference. -/
theorem attributed_subscribed (w : Wiring) (ids : String × String) (m : Moment) (b : Broker) :
    w.attributed ids (w.subscribed m b) = w.subscribed m (w.attributed ids b) := by
  have hsubscribed := (w.extends_subscribed m b).identity
  have hreported (url : String) : (w.subscribed m b).reported? url = b.reported? url :=
    b.reported?_withSubscription ..
  have hattributed := arn_congr (w := w) (w.extends_attributed ids b).identity
    (w.reported?_attributed ids b)
  rw [attributed, Broker.queueUrlFor_congr hsubscribed, arn_congr hsubscribed hreported,
    errorArn_congr hsubscribed hreported, subscribed, subscribed, hattributed]
  exact b.withQueueAttributes_withSubscription ..

theorem subscribed_subscribed (w : Wiring) (m m' : Moment) (b : Broker) :
    w.subscribed m' (w.subscribed m b) = w.subscribed m b := by
  have harn : w.arn (w.subscribed m b) = w.arn b :=
    arn_congr (w.extends_subscribed m b).identity fun url ↦ b.reported?_withSubscription ..
  rw [subscribed, harn]
  exact b.withSubscription_withSubscription ..

namespace Begun

/-- Whoever was cut off while wiring a queue can start again; of the moments of subscribing, the
first one counts. -/
theorem exists_whole_eq (h : w.Begun b x) (ids : String × String) (m : Moment) :
    ∃ m', w.whole ids m x = w.whole ids m' b := by
  cases h with
  | untouched => exact ⟨m, rfl⟩
  | errorQueue =>
    refine ⟨m, ?_⟩
    rw [Wiring.whole, queues_withQueue, Wiring.whole]
  | queues =>
    refine ⟨m, ?_⟩
    rw [Wiring.whole, queues_queues, Wiring.whole]
  | attributed before =>
    refine ⟨m, ?_⟩
    rw [Wiring.whole, queues_attributed, attributed_attributed, Wiring.whole]
  | whole before m' =>
    refine ⟨m', ?_⟩
    calc
      w.whole ids m (w.whole before m' b)
        = w.subscribed m (w.attributed ids (w.whole before m' b)) := by
          rw [Wiring.whole, queues_whole]
      _ = w.subscribed m (w.subscribed m' (w.attributed ids (w.queues b))) := by
          rw [Wiring.whole, attributed_subscribed, attributed_attributed]
      _ = w.whole ids m' b := by rw [subscribed_subscribed, Wiring.whole]

theorem toExtends (h : w.Begun b x) : b.Extends x := by
  cases h with
  | untouched => exact .refl b
  | errorQueue => exact b.extends_withQueue _
  | queues => exact w.extends_queues b
  | attributed ids => exact (w.extends_queues b).trans (w.extends_attributed ids _)
  | whole ids m => exact w.extends_whole ids m b

/-- A wiring makes no topics. -/
theorem contains_topics (h : w.Begun b x) {arn : String} (harn : x.topics.contains arn) :
    b.topics.contains arn := by
  cases h with
  | untouched => exact harn
  | errorQueue => rwa [Broker.topics_withQueue] at harn
  | queues => rwa [Wiring.queues, Broker.topics_withQueue, Broker.topics_withQueue] at harn
  | attributed ids => rwa [topics_attributed] at harn
  | whole ids m =>
    rw [Wiring.whole, subscribed] at harn
    have hattributed := Broker.contains_of_withSubscription harn
    rwa [topics_attributed] at hattributed

/-- What the queues report once both are there does not depend on what was begun. -/
theorem reported?_queues (h : w.Begun b x) (url : String) :
    (w.queues x).reported? url = (w.queues b).reported? url := by
  cases h with
  | untouched => rfl
  | errorQueue => rw [queues_withQueue]
  | queues => rw [queues_queues]
  | attributed ids => rw [queues_attributed, reported?_attributed]
  | whole ids m => rw [queues_whole, reported?_whole]

end Begun

end Wiring

end MessageBus
