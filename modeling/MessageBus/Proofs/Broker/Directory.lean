import MessageBus.Proofs.Broker.Messages
/-!
The directory of a broker: which queues there are, under which ARNs they are found, and which
attributes they have. What a call does to it is said once (`directory_answer`): nothing, or it makes
a queue, or it sets attributes. So the identity of the broker stays, queues stay, and as long as
clients leave the ARN attribute alone a queue is found under the ARN of its name, which is also the
one that it reports (`Broker.IsNamed`). Whatever attributes are set, queues and ARNs correspond by
their names (`Broker.IsIndexed`).
-/

set_option autoImplicit false
set_option relaxedAutoImplicit false

namespace MessageBus

namespace Broker

section Names

variable (b : Broker)

theorem queueUrlFor_injective {name other : String}
    (h : b.queueUrlFor name = b.queueUrlFor other) : name = other :=
  (String.append_right_inj _).mp h

theorem queueArnFor_injective {name other : String}
    (h : b.queueArnFor name = b.queueArnFor other) : name = other :=
  (String.append_right_inj _).mp h

variable {b}

theorem queueUrlFor_congr {b' : Broker} (h : b'.identity = b.identity) (name : String) :
    b'.queueUrlFor name = b.queueUrlFor name :=
  congrArg (fun identity ↦ queueUrlFor { identity := identity } name) h

theorem queueArnFor_congr {b' : Broker} (h : b'.identity = b.identity) (name : String) :
    b'.queueArnFor name = b.queueArnFor name :=
  congrArg (fun identity ↦ queueArnFor { identity := identity } name) h

end Names

/-- Whether the queues of a broker report the ARNs of their names, and are found under them. -/
structure IsNamed (b : Broker) : Prop where
  reported : ∀ {name attributes}, b.queueAttributes? (b.queueUrlFor name) = some attributes →
    attributes.find? queueArnAttribute = some (b.queueArnFor name)
  found : ∀ {name attributes}, b.queueAttributes? (b.queueUrlFor name) = some attributes →
    b.urlByArn.find? (b.queueArnFor name) = some (b.queueUrlFor name)

end Broker

/-- Whether a call leaves the ARN attributes of queues alone. -/
def Call.keepsArns : Call → Bool
  | .setQueueAttributes _ attributes => !attributes.contains Broker.queueArnAttribute
  | _ => true

namespace Broker

/-- What is left of the directory, where ARN attributes have been left alone or not. -/
structure Keeps (b : Broker) (keepsArns : Prop) (b' : Broker) : Prop where
  identity : b'.identity = b.identity
  contains : ∀ {url}, b.queues.contains url → b'.queues.contains url
  isNamed : keepsArns → b.IsNamed → b'.IsNamed

theorem Keeps.trans {b b' b'' : Broker} {p q : Prop} (h : Keeps b p b') (h' : Keeps b' q b'') :
    Keeps b (p ∧ q) b'' where
  identity := h'.identity.trans h.identity
  contains hurl := h'.contains (h.contains hurl)
  isNamed hkeeps hb := h'.isNamed hkeeps.2 (h.isNamed hkeeps.1 hb)

variable {b b' : Broker} {m : Moment}

/-- Two brokers with one directory. -/
structure SameDirectory (b b' : Broker) : Prop where
  identity : b'.identity = b.identity
  urlByArn : b'.urlByArn = b.urlByArn
  attributes : ∀ url, b'.queueAttributes? url = b.queueAttributes? url

namespace SameDirectory

theorem refl (b : Broker) : SameDirectory b b := ⟨rfl, rfl, fun _ ↦ rfl⟩

theorem trans {b'' : Broker} (h : SameDirectory b b') (h' : SameDirectory b' b'') :
    SameDirectory b b'' :=
  ⟨h'.identity.trans h.identity, h'.urlByArn.trans h.urlByArn,
    fun url ↦ (h'.attributes url).trans (h.attributes url)⟩

theorem contains_eq (h : SameDirectory b b') (url : String) :
    b'.queues.contains url = b.queues.contains url := by
  have hattributes := congrArg Option.isSome (h.attributes url)
  rwa [queueAttributes?, queueAttributes?, Option.isSome_map, Option.isSome_map] at hattributes

theorem isNamed (h : SameDirectory b b') (hb : b.IsNamed) : b'.IsNamed where
  reported {name attributes} hname := by
    rw [h.attributes, queueUrlFor_congr h.identity] at hname
    rw [queueArnFor_congr h.identity]
    exact hb.reported hname
  found {name attributes} hname := by
    rw [h.attributes, queueUrlFor_congr h.identity] at hname
    rw [h.urlByArn, queueArnFor_congr h.identity, queueUrlFor_congr h.identity]
    exact hb.found hname

theorem keeps (h : SameDirectory b b') (p : Prop) : Keeps b p b' where
  identity := h.identity
  contains {url} hurl := (h.contains_eq url).trans hurl
  isNamed _ := h.isNamed

theorem setTopic (b : Broker) (topicArn : String) (topic : Topic) :
    SameDirectory b (b.setTopic topicArn topic) :=
  ⟨rfl, rfl, fun _ ↦ rfl⟩

/-- To change the messages of a queue does not change the directory. -/
theorem setQueue {url : String} {queue : Queue} (h : b.queues.find? url = some queue)
    (messages : List StoredMessage) :
    SameDirectory b (b.setQueue url { queue with messages := messages }) where
  identity := rfl
  urlByArn := rfl
  attributes other := by
    rw [queueAttributes?, queueAttributes?, Broker.setQueue, Table.find?_insert]
    split
    · next hurl => rw [← hurl, h, Option.map_some, Option.map_some]
    · rfl

theorem append (b : Broker) (url : String) (new : List StoredMessage) :
    SameDirectory b (b.append url new) := by
  rw [Broker.append]
  split
  · next queue hqueue => exact .setQueue hqueue _
  · exact .refl b

theorem deliver (m : Moment) (body : String) (index : Nat) (endpoints : List String)
    (b : Broker) : SameDirectory b (deliver m body index endpoints b) := by
  induction endpoints generalizing b index with
  | nil => exact .refl b
  | cons endpoint rest ih =>
    rw [Broker.deliver]
    split
    · exact (append b _ _).trans (ih _ _)
    · exact ih _ _

/-- A pass over a queue does not change the directory. -/
theorem sweepQueue {url : String} {queue : Queue} (hqueue : b.queues.find? url = some queue)
    (m : Moment) (room visibilityMs : Nat) :
    SameDirectory b (b.sweepQueue m url queue room visibilityMs).2 := by
  unfold Broker.sweepQueue
  dsimp only
  split
  · exact (setQueue hqueue _).trans (append ..)
  · exact setQueue hqueue _

end SameDirectory

theorem queueAttributes?_setQueue (b : Broker) (url other : String) (queue : Queue) :
    (b.setQueue url queue).queueAttributes? other =
      if url = other then some queue.attributes else b.queueAttributes? other := by
  rw [queueAttributes?, setQueue, Table.find?_insert]
  split <;> rfl

theorem keeps_createQueue {name url : String} (hcreate : b.createQueue name = .ok (url, b'))
    (p : Prop) : Keeps b p b' := by
  obtain ⟨rfl, ⟨-, rfl⟩ | ⟨-, rfl⟩⟩ := createQueue_eq hcreate
  · exact (SameDirectory.refl b').keeps _
  refine ⟨rfl, contains_setQueue _, fun _ hb ↦ ⟨?_, ?_⟩⟩
  all_goals
    intro other attributes hother
    change (b.setQueue _ _).queueAttributes? (b.queueUrlFor other) = _ at hother
    rw [queueAttributes?_setQueue] at hother
  · split at hother
    · next hurl =>
      obtain rfl := queueUrlFor_injective b hurl
      cases hother
      rfl
    · exact hb.reported hother
  · change (b.urlByArn.insert _ _).find? (b.queueArnFor other) = some (b.queueUrlFor other)
    rw [Table.find?_insert]
    split
    · next harn => rw [queueArnFor_injective b harn]
    · next harn =>
      rw [if_neg fun hurl ↦ harn (congrArg b.queueArnFor (queueUrlFor_injective b hurl))] at hother
      exact hb.found hother

theorem keeps_setQueueAttributes {url : String} {attributes : Table String String}
    (hset : b.setQueueAttributes url attributes = .ok ((), b')) :
    Keeps b (Call.setQueueAttributes url attributes).keepsArns b' := by
  obtain ⟨-, queue, hqueue, rfl⟩ := setQueueAttributes_eq hset
  refine ⟨rfl, contains_setQueue _, fun hkeeps hb ↦ ?_⟩
  have hnone : attributes.find? queueArnAttribute = none := by
    simpa [Call.keepsArns, Table.contains] using hkeeps
  constructor
  all_goals
    intro name new hname
    change (b.setQueue _ _).queueAttributes? (b.queueUrlFor name) = _ at hname
    rw [queueAttributes?_setQueue] at hname
    split at hname
  · next hurl =>
    cases hname
    have hold := queueAttributes?_of_find? (hurl ▸ hqueue)
    exact (queue.attributes.find?_insertAll_of_none hnone).trans (hb.reported hold)
  · exact hb.reported hname
  · next hurl =>
    have hold := queueAttributes?_of_find? (hurl ▸ hqueue)
    exact hb.found hold
  · exact hb.found hname

/-- An answered call leaves the directory as it is, or makes a queue, or sets attributes of one. -/
theorem directory_answer (c : Call) {reply : c.Reply} (hanswer : b.answer m c = .ok (reply, b')) :
    SameDirectory b b' ∨
      (∃ name, c = .createQueue name ∧ ∃ url, b.createQueue name = .ok (url, b')) ∨
      ∃ url attributes, c = .setQueueAttributes url attributes ∧
        b.setQueueAttributes url attributes = .ok ((), b') := by
  cases c with
  | createTopic name =>
    obtain ⟨-, ⟨-, rfl⟩ | ⟨-, rfl⟩⟩ := createTopic_eq hanswer
    · exact .inl (.refl b')
    · exact .inl (.setTopic ..)
  | setTopicAttributes topicArn name value =>
    obtain ⟨topic, -, rfl⟩ := setTopicAttribute_eq hanswer
    exact .inl (.setTopic ..)
  | subscribe topicArn protocol endpoint =>
    obtain ⟨-, topic, -, ⟨s, -, -, -, rfl⟩ | ⟨-, -, rfl⟩⟩ := subscribe_eq hanswer
    · exact .inl (.refl b')
    · exact .inl (.setTopic ..)
  | publish topicArn message =>
    obtain ⟨-, -, rfl⟩ := publish_eq hanswer
    exact .inl (.deliver ..)
  | createQueue name => exact .inr (.inl ⟨name, rfl, reply, hanswer⟩)
  | getQueueAttributes queueUrl names =>
    obtain ⟨all, -, -, rfl⟩ := getQueueAttributes_eq hanswer
    exact .inl (.refl b')
  | setQueueAttributes queueUrl attributes =>
    exact .inr (.inr ⟨queueUrl, attributes, rfl, hanswer⟩)
  | receiveMessage request =>
    obtain ⟨queue, hqueue, -, rfl⟩ := receive_eq hanswer
    exact .inl (.sweepQueue hqueue ..)
  | deleteMessage queueUrl receipt =>
    obtain ⟨queue, hqueue, -, rfl⟩ := deleteMessage_eq hanswer
    exact .inl (.setQueue hqueue _)

/-- What an answered call leaves of the directory. -/
theorem keeps_answer (c : Call) {reply : c.Reply} (hanswer : b.answer m c = .ok (reply, b')) :
    Keeps b c.keepsArns b' := by
  rcases directory_answer c hanswer with hsame | ⟨name, rfl, url, hcreate⟩ | ⟨url, _, rfl, hset⟩
  · exact hsame.keeps _
  · exact keeps_createQueue hcreate _
  · exact keeps_setQueueAttributes hset

/-- Whether queues and ARNs correspond: every queue has a name, and an ARN leads to a queue exactly
if it is the ARN of the name of the queue. -/
structure IsIndexed (b : Broker) : Prop where
  named : ∀ {url}, b.queues.contains url → ∃ name, isResourceName name ∧ url = b.queueUrlFor name
  found_iff : ∀ {arn url}, b.urlByArn.find? arn = some url ↔
    ∃ name, arn = b.queueArnFor name ∧ url = b.queueUrlFor name ∧ b.queues.contains url

namespace IsIndexed

theorem start (identity : BrokerIdentity) : IsIndexed { identity := identity } where
  named h := absurd h nofun
  found_iff {arn url} := by
    constructor
    · intro h
      cases h
    · rintro ⟨name, -, -, h⟩
      cases h

theorem isAddressed (h : b.IsIndexed) : b.IsAddressed := by
  intro arn url hurl
  obtain ⟨name, -, -, hcontains⟩ := h.found_iff.mp hurl
  exact hcontains

/-- The ARNs that lead to a queue: the one of its name, and no other. -/
theorem found_iff_of_contains (h : b.IsIndexed) {name : String}
    (hcontains : b.queues.contains (b.queueUrlFor name)) (arn : String) :
    b.urlByArn.find? arn = some (b.queueUrlFor name) ↔ arn = b.queueArnFor name := by
  rw [h.found_iff]
  constructor
  · rintro ⟨other, rfl, hurl, -⟩
    rw [queueUrlFor_injective b hurl]
  · rintro rfl
    exact ⟨name, rfl, rfl, hcontains⟩

theorem congr (h : b.IsIndexed) (hidentity : b'.identity = b.identity)
    (hcontains : ∀ url, b'.queues.contains url = b.queues.contains url)
    (hurlByArn : b'.urlByArn = b.urlByArn) : b'.IsIndexed where
  named {url} hurl := by
    rw [hcontains] at hurl
    simpa only [queueUrlFor_congr hidentity] using h.named hurl
  found_iff {arn url} := by
    rw [hurlByArn, hcontains]
    simpa only [queueUrlFor_congr hidentity, queueArnFor_congr hidentity] using h.found_iff

theorem of_sameDirectory (h : b.IsIndexed) (hsame : SameDirectory b b') : b'.IsIndexed :=
  h.congr hsame.identity hsame.contains_eq hsame.urlByArn

theorem createQueue (h : b.IsIndexed) {name url : String}
    (hcreate : b.createQueue name = .ok (url, b')) : b'.IsIndexed := by
  have hname := isResourceName_of_createQueue hcreate
  obtain ⟨rfl, ⟨-, rfl⟩ | ⟨-, rfl⟩⟩ := createQueue_eq hcreate
  · exact h
  constructor
  · intro url hurl
    rcases contains_setQueue_iff.mp hurl with rfl | hurl
    · exact ⟨name, hname, rfl⟩
    · exact h.named hurl
  · intro arn url
    show (b.urlByArn.insert _ _).find? arn = some url ↔ ∃ other, arn = b.queueArnFor other ∧
      url = b.queueUrlFor other ∧ (b.setQueue _ _).queues.contains url
    rw [Table.find?_insert]
    by_cases harn : b.queueArnFor name = arn
    · rw [if_pos harn]
      constructor
      · rintro ⟨rfl⟩
        exact ⟨name, harn.symm, rfl, contains_setQueue_iff.mpr (.inl rfl)⟩
      · rintro ⟨other, rfl, rfl, -⟩
        rw [queueArnFor_injective b harn]
    · rw [if_neg harn, h.found_iff]
      apply exists_congr
      intro other
      rw [contains_setQueue_iff]
      constructor
      · rintro ⟨rfl, rfl, hurl⟩
        exact ⟨rfl, rfl, .inr hurl⟩
      · rintro ⟨rfl, rfl, hsame | hurl⟩
        · exact absurd (congrArg b.queueArnFor (queueUrlFor_injective b hsame)) harn
        · exact ⟨rfl, rfl, hurl⟩

theorem setQueueAttributes (h : b.IsIndexed) {url : String} {attributes : Table String String}
    (hset : b.setQueueAttributes url attributes = .ok ((), b')) : b'.IsIndexed := by
  obtain ⟨-, queue, hqueue, rfl⟩ := setQueueAttributes_eq hset
  exact h.congr rfl (contains_setQueue_of_find? hqueue _) rfl

/-- Queues and ARNs correspond after every answered call. -/
theorem answer (h : b.IsIndexed) {c : Call} {reply : c.Reply}
    (hanswer : b.answer m c = .ok (reply, b')) : b'.IsIndexed := by
  rcases directory_answer c hanswer with hsame | ⟨name, rfl, url, hcreate⟩ | ⟨url, _, rfl, hset⟩
  · exact h.of_sameDirectory hsame
  · exact h.createQueue hcreate
  · exact h.setQueueAttributes hset

end IsIndexed

/-- Whether the messages of a queue move to another queue after so many receives. -/
structure InForce (b : Broker) (url target : String) (limit : Nat) : Prop where
  redrive : b.redriveAt? url = some (target, limit)
  target_ne : target ≠ url

theorem isNamed_start (identity : BrokerIdentity) : IsNamed { identity := identity } where
  reported h := absurd h nofun
  found h := absurd h nofun

end Broker

end MessageBus
