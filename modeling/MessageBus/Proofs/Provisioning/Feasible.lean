import MessageBus.Proofs.Provisioning.Effect
/-!
When provisioning succeeds. On a sound line a topic is made exactly if its name is one
(`TopicCourse.of_sound_error`), and a queue is wired exactly if the wiring is feasible
(`Wiring.Feasible`): the queues have names and report ARNs, the attributes can be set and the topic
is there. A wiring that was feasible once it was begun was feasible before
(`Wiring.feasible_of_begun`), so attempts that were cut off do not matter for this.
-/

set_option autoImplicit false
set_option relaxedAutoImplicit false

namespace MessageBus

variable {line : Line} {b b' x : Broker} {past : List Performed}

namespace Broker

theorem not_isResourceName_of_createTopic {name : String} {e : Error}
    (h : b.createTopic name = .error e) : ¬ isResourceName name := by
  intro hname
  rw [createTopic, if_pos hname] at h
  cases h

theorem not_isResourceName_of_createQueue {name : String} {e : Error}
    (h : b.createQueue name = .error e) : ¬ isResourceName name := by
  intro hname
  rw [createQueue, if_pos hname] at h
  dsimp only at h
  split at h
  · cases h
  · cases h

theorem setTopicAttribute_ne_error {topicArn name value : String} {e : Error}
    (h : b.topics.contains topicArn) : b.setTopicAttribute topicArn name value ≠ .error e := by
  intro hset
  obtain ⟨topic, htopic⟩ := Option.isSome_iff_exists.mp h
  rw [setTopicAttribute, htopic] at hset
  cases hset

theorem subscribe_ne_error {m : Moment} {topicArn endpoint : String} {e : Error}
    (h : b.topics.contains topicArn) : b.subscribe m topicArn protocol endpoint ≠ .error e := by
  intro hsubscribe
  obtain ⟨topic, htopic⟩ := Option.isSome_iff_exists.mp h
  rw [subscribe, if_neg (not_not_intro rfl), htopic] at hsubscribe
  dsimp only at hsubscribe
  split at hsubscribe
  · cases hsubscribe
  · cases hsubscribe

theorem getQueueAttributes_ne_error {url : String} {names : List String} {e : Error}
    (h : b.queues.contains url) : b.getQueueAttributes url names ≠ .error e := by
  intro hget
  obtain ⟨queue, hqueue⟩ := exists_queue_of_contains h
  rw [getQueueAttributes, hqueue] at hget
  cases hget

theorem setQueueAttributes_ne_error {url : String} {attributes : Table String String} {e : Error}
    (hfault : attributeFault? attributes = none) (h : b.queues.contains url) :
    b.setQueueAttributes url attributes ≠ .error e := by
  intro hset
  obtain ⟨queue, hqueue⟩ := exists_queue_of_contains h
  rw [setQueueAttributes, hfault, hqueue] at hset
  cases hset

theorem IsNamed.reported?_eq (h : b.IsNamed) {name : String}
    (hqueue : b.queues.contains (b.queueUrlFor name)) :
    b.reported? (b.queueUrlFor name) = some (b.queueArnFor name) := by
  obtain ⟨queue, hfound⟩ := exists_queue_of_contains hqueue
  have hattributes := queueAttributes?_of_find? hfound
  rw [reported?, hattributes]
  exact h.reported hattributes

theorem IsNamed.find?_urlByArn (h : b.IsNamed) {name : String}
    (hqueue : b.queues.contains (b.queueUrlFor name)) :
    b.urlByArn.find? (b.queueArnFor name) = some (b.queueUrlFor name) := by
  obtain ⟨queue, hfound⟩ := exists_queue_of_contains hqueue
  exact h.found (queueAttributes?_of_find? hfound)

/-- The ARN of a topic has an account field. -/
theorem exists_accountOfArn (b : Broker) (name : String) :
    ∃ account, accountOfArn (b.topicArnFor name) = .ok account := by
  have hlength : 4 < (splitAtChar ':' (b.topicArnFor name).toList).length := by
    have hprefix : ("arn:aws:sns:" : String).toList.count ':' = 3 := by decide
    have hcolon : (":" : String).toList.count ':' = 1 := by decide
    unfold topicArnFor
    rw [length_splitAtChar, String.toList_append, String.toList_append, String.toList_append,
      String.toList_append, String.toList_append]
    simp only [List.count_append, hprefix, hcolon]
    omega
  rw [accountOfArn, List.getElem?_eq_getElem hlength]
  exact ⟨_, rfl⟩

/-- Which queues there are after one was asked for does not depend on topics. -/
theorem queues_withQueue_congr (hidentity : x.identity = b.identity)
    (hqueues : x.queues = b.queues) (name : String) :
    (x.withQueue name).queues = (b.withQueue name).queues := by
  unfold withQueue createQueue
  dsimp only
  rw [queueUrlFor_congr hidentity, queueArnFor_congr hidentity, hqueues]
  by_cases hname : isResourceName name
  · rw [if_pos hname, if_pos hname]
    by_cases hcontains : b.queues.contains (b.queueUrlFor name)
    · rw [if_pos hcontains, if_pos hcontains]
      exact hqueues
    · rw [if_neg hcontains, if_neg hcontains]
      show x.queues.insert _ _ = b.queues.insert _ _
      rw [hqueues]
  · rw [if_neg hname, if_neg hname]
    exact hqueues

/-- What the other queues report stays. -/
theorem reported?_withQueue_of_ne {name url : String} (h : url ≠ b.queueUrlFor name) :
    (b.withQueue name).reported? url = b.reported? url := by
  refine left_of (P := fun x ↦ x.reported? url = b.reported? url) rfl fun hcreate ↦ ?_
  obtain ⟨rfl, ⟨-, rfl⟩ | ⟨-, rfl⟩⟩ := createQueue_eq hcreate
  · rfl
  · show ((b.setQueue ..).queueAttributes? url).bind _ = _
    rw [queueAttributes?_setQueue, if_neg h.symm]
    rfl

end Broker

namespace Wiring

variable {w : Wiring}

theorem contains_queues (b : Broker) (h : isResourceName w.queueName) :
    (w.queues b).queues.contains ((w.queues b).queueUrlFor w.queueName) := by
  have hcontains := Broker.contains_withQueue (b := b.withQueue w.errorQueueName) h
  rwa [← Broker.queueUrlFor_congr (Broker.extends_withQueue _ w.queueName).identity] at hcontains

theorem contains_queues_error (b : Broker) (h : isResourceName w.errorQueueName) :
    (w.queues b).queues.contains ((w.queues b).queueUrlFor w.errorQueueName) := by
  have hcontains := Broker.contains_withQueue (b := b) h
  rw [← Broker.queueUrlFor_congr (w.extends_queues b).identity] at hcontains
  exact (Broker.extends_withQueue _ w.queueName).queues hcontains

/-- Whether both queues can be made and wired to each other. -/
structure Feasible (w : Wiring) (b : Broker) : Prop where
  errorQueueName : isResourceName w.errorQueueName
  queueName : isResourceName w.queueName
  reported : ∃ arn, (w.queues b).reported? (b.queueUrlFor w.queueName) = some arn
  errorReported : ∃ arn, (w.queues b).reported? (b.queueUrlFor w.errorQueueName) = some arn
  settable : ∀ ids, Broker.attributeFault? (Provisioning.queueAttributes ids w.topicArn
    (w.arn (w.queues b)) (w.errorArn (w.queues b)) w.limit) = none

theorem Feasible.congr (h : w.Feasible b) (hidentity : x.identity = b.identity)
    (hreported : ∀ url, (w.queues x).reported? url = (w.queues b).reported? url) :
    w.Feasible x where
  errorQueueName := h.errorQueueName
  queueName := h.queueName
  reported := by
    rw [hreported, Broker.queueUrlFor_congr hidentity]
    exact h.reported
  errorReported := by
    rw [hreported, Broker.queueUrlFor_congr hidentity]
    exact h.errorReported
  settable ids := by
    have hqueues : (w.queues x).identity = (w.queues b).identity :=
      (w.extends_queues x).identity.trans
        (hidentity.trans (w.extends_queues b).identity.symm)
    rw [arn_congr hqueues hreported, errorArn_congr hqueues hreported]
    exact h.settable ids

theorem reported?_queues_congr (hidentity : x.identity = b.identity)
    (hqueues : x.queues = b.queues) (url : String) :
    (w.queues x).reported? url = (w.queues b).reported? url := by
  have herror := Broker.queues_withQueue_congr hidentity hqueues w.errorQueueName
  have hidentity : (x.withQueue w.errorQueueName).identity =
      (b.withQueue w.errorQueueName).identity :=
    (x.extends_withQueue _).identity.trans
      (hidentity.trans (b.extends_withQueue _).identity.symm)
  rw [queues, Broker.reported?, Broker.queueAttributes?,
    Broker.queues_withQueue_congr hidentity herror w.queueName]
  rfl

/-- Whether a wiring is feasible depends on nothing but the queues. -/
theorem Feasible.congr_queues (h : w.Feasible b) (hidentity : x.identity = b.identity)
    (hqueues : x.queues = b.queues) : w.Feasible x :=
  h.congr hidentity (reported?_queues_congr hidentity hqueues)

theorem feasible_of_begun (h : w.Begun b x) (hx : w.Feasible x) : w.Feasible b :=
  hx.congr h.toExtends.identity.symm fun url ↦ (h.reported?_queues url).symm

/-- Where queues report the ARNs of their names, two names and a count in range make a wiring
feasible. -/
theorem feasible_of_isNamed (hb : b.IsNamed) (herror : isResourceName w.errorQueueName)
    (hqueue : isResourceName w.queueName) (hlimit : w.limit < halfWordBound) : w.Feasible b := by
  have hextends := w.extends_queues b
  have hnamed := hextends.isNamed hb
  refine ⟨herror, hqueue, ?_, ?_, fun ids ↦ ?_⟩
  · rw [← Broker.queueUrlFor_congr hextends.identity]
    exact ⟨_, hnamed.reported?_eq (contains_queues b hqueue)⟩
  · rw [← Broker.queueUrlFor_congr hextends.identity]
    exact ⟨_, hnamed.reported?_eq (contains_queues_error b herror)⟩
  · rw [Provisioning.attributeFault?_queueAttributes, Redrive.read?_text _ hlimit]
    rfl

end Wiring

namespace Provisioning

theorem TopicCourse.isResourceName_of_ok {name arn : String} (h : TopicCourse name past (.ok arn))
    (hplays : line.Plays b past b') : isResourceName name := by
  cases h with
  | made hpolicy =>
    obtain ⟨u, hcreate, -⟩ := hplays.of_call
    obtain ⟨m, hcreated⟩ := hcreate.of_ok
    exact Broker.isResourceName_of_createTopic hcreated

/-- On a sound line only a name that is none keeps a topic from being made. -/
theorem TopicCourse.of_sound_error {name : String} {e : Error}
    (h : TopicCourse name past (.error e)) (hplays : Line.sound.Plays b past b') :
    ¬ isResourceName name ∧ b' = b := by
  cases h with
  | refused e =>
    obtain ⟨u, hcreate, hrest⟩ := hplays.of_call
    obtain rfl := hrest.of_nil
    obtain ⟨rfl, m, hcreated⟩ := hcreate.of_sound
    exact ⟨Broker.not_isResourceName_of_createTopic hcreated, rfl⟩
  | @unowned arn first sid e hpolicy =>
    obtain ⟨u, hcreate, -⟩ := hplays.of_call
    obtain ⟨m, hcreated⟩ := hcreate.of_ok
    obtain ⟨account, haccount⟩ := b.exists_accountOfArn name
    rw [← (Broker.createTopic_eq hcreated).1] at haccount
    rw [Policy.topicAccess, haccount] at hpolicy
    cases hpolicy
  | @unset arn first sid policy hpolicy e =>
    obtain ⟨u, hcreate, hrest⟩ := hplays.of_call
    obtain ⟨v, hset, hrest⟩ := (hrest.of_other not_false).of_call
    obtain ⟨m, hcreated⟩ := hcreate.of_ok
    obtain ⟨-, m', hrefused⟩ := hset.of_sound
    refine absurd hrefused (Broker.setTopicAttribute_ne_error ?_)
    obtain ⟨-, ⟨hcontains, rfl⟩ | ⟨-, rfl⟩⟩ := Broker.createTopic_eq hcreated
    · exact hcontains
    · exact Table.contains_insert_self ..

theorem QueueCourse.isResourceName_of_ok {name : String} {queue : String × String}
    (h : QueueCourse name past (.ok queue)) (hplays : line.Plays b past b') :
    isResourceName name := by
  cases h with
  | made url hfound =>
    obtain ⟨u, hcreate, -⟩ := hplays.of_call
    obtain ⟨m, hcreated⟩ := hcreate.of_ok
    exact Broker.isResourceName_of_createQueue hcreated

/-- A queue whose name is none is not made. -/
theorem QueueCourse.of_not_isResourceName {name : String} {outcome : Except Error (String × String)}
    (h : QueueCourse name past outcome) (hplays : line.Plays b past b')
    (hname : ¬ isResourceName name) : b' = b ∧ ∃ e, outcome = .error e := by
  have hnever {m : Moment} {url : String} {u : Broker}
      (hcreated : b.answer m (.createQueue name) = .ok (url, u)) : False :=
    hname (Broker.isResourceName_of_createQueue hcreated)
  cases h with
  | refused e =>
    obtain ⟨u, hcreate, hrest⟩ := hplays.of_call
    obtain rfl := hrest.of_nil
    obtain hsame | ⟨m, url, hcreated⟩ := hcreate.of_error
    · exact ⟨hsame, e, rfl⟩
    · exact (hnever hcreated).elim
  | unread | nameless | made =>
    obtain ⟨u, hcreate, hrest⟩ := hplays.of_call
    obtain ⟨m, hcreated⟩ := hcreate.of_ok
    exact (hnever hcreated).elim

/-- On a sound line a queue that has a name and reports an ARN is made. -/
theorem QueueCourse.of_sound_error {name : String} {e : Error}
    (h : QueueCourse name past (.error e)) (hplays : Line.sound.Plays b past b')
    (hname : isResourceName name)
    (hreported : ∃ arn, (b.withQueue name).reported? (b.queueUrlFor name) = some arn) : False := by
  obtain ⟨arn, hreported⟩ := hreported
  cases h with
  | refused e =>
    obtain ⟨u, hcreate, hrest⟩ := hplays.of_call
    obtain ⟨-, m, hrefused⟩ := hcreate.of_sound
    exact Broker.not_isResourceName_of_createQueue hrefused hname
  | unread url e =>
    obtain ⟨u, hcreate, hrest⟩ := hplays.of_call
    obtain ⟨v, hread, -⟩ := hrest.of_call
    obtain ⟨m, hcreated⟩ := hcreate.of_ok
    obtain ⟨-, m', hrefused⟩ := hread.of_sound
    have hwith : b.withQueue name = u := Broker.left_of_ok hcreated
    refine Broker.getQueueAttributes_ne_error ?_ hrefused
    rw [← hwith, (Broker.createQueue_eq hcreated).1]
    exact Broker.contains_withQueue hname
  | @nameless url attributes hnone =>
    obtain ⟨u, hcreate, hrest⟩ := hplays.of_call
    obtain ⟨v, hread, -⟩ := hrest.of_call
    obtain ⟨m, hcreated⟩ := hcreate.of_ok
    obtain ⟨m', hanswered⟩ := hread.of_ok
    have hwith : b.withQueue name = u := Broker.left_of_ok hcreated
    obtain ⟨all, hall, rfl, -⟩ := Broker.getQueueAttributes_eq hanswered
    rw [hwith, ← (Broker.createQueue_eq hcreated).1, Broker.reported?, hall, Option.bind_some,
      ← Table.find?_restrict all (List.mem_singleton_self _), hnone] at hreported
    cases hreported

variable {w : Wiring}

/-- A queue that was made could be made. -/
theorem SubscriptionCourse.feasible_of_ok {url : String}
    (h : SubscriptionCourse w.topicArn w.queueName w.errorQueueName w.limit past (.ok url))
    (hplays : line.Plays b past b') : w.Feasible b ∧ b.topics.contains w.topicArn := by
  cases h with
  | @made first second errorQueue queue hfirst hsecond ids subscriptionArn =>
    obtain ⟨u, hu, hrest⟩ := hplays.of_append
    obtain ⟨v, hv, hrest⟩ := hrest.of_append
    obtain ⟨x, hset, hrest⟩ := (hrest.of_other not_false).of_call
    obtain ⟨y, hsubscribe, -⟩ := hrest.of_call
    have hread := Wiring.read_of_ok hfirst hsecond hu hv
    have hidentity : v.identity = b.identity := hread.broker ▸ (w.extends_queues b).identity
    obtain ⟨m, hgiven⟩ := hset.of_ok
    obtain ⟨m', hsubscribed⟩ := hsubscribe.of_ok
    have hattributed := (hread.attributed_eq ids m).trans (Broker.left_of_ok hgiven)
    rw [Broker.answer] at hgiven
    have hfault := (Broker.setQueueAttributes_eq hgiven).1
    rw [attributeFault?_queueAttributes] at hfault
    constructor
    · constructor
      · exact hfirst.isResourceName_of_ok hu
      · exact hsecond.isResourceName_of_ok hv
      · rw [← hread.broker, ← Broker.queueUrlFor_congr hidentity, ← hread.url]
        exact ⟨_, hread.arn⟩
      · rw [← hread.broker, ← Broker.queueUrlFor_congr hidentity]
        exact ⟨_, hread.errorArn⟩
      · intro other
        rw [← hread.broker, hread.arn_eq, hread.errorArn_eq, attributeFault?_queueAttributes]
        exact hfault
    · obtain ⟨-, topic, htopic, -⟩ := Broker.subscribe_eq hsubscribed
      rw [← hattributed, w.topics_attributed] at htopic
      rw [Table.contains, htopic]
      rfl

/-- On a sound line a queue is made whose wiring is feasible and whose topic is there. -/
theorem SubscriptionCourse.of_sound_error {e : Error}
    (h : SubscriptionCourse w.topicArn w.queueName w.errorQueueName w.limit past (.error e))
    (hplays : Line.sound.Plays b past b') (hne : w.errorQueueName ≠ w.queueName)
    (hfeasible : w.Feasible b) (htopic : b.topics.contains w.topicArn) : False := by
  have hidentity := (b.extends_withQueue w.errorQueueName).identity
  cases h with
  | noErrorQueue hfirst =>
    obtain ⟨errorArn, herrorArn⟩ := hfeasible.errorReported
    refine hfirst.of_sound_error hplays hfeasible.errorQueueName ⟨errorArn, ?_⟩
    rw [← herrorArn]
    refine (Broker.reported?_withQueue_of_ne fun hurl ↦ hne ?_).symm
    rw [Broker.queueUrlFor_congr hidentity] at hurl
    exact b.queueUrlFor_injective hurl
  | noQueue hfirst hsecond =>
    obtain ⟨u, hu, hv⟩ := hplays.of_append
    obtain ⟨-, rfl, -⟩ := hfirst.of_ok hu
    refine hsecond.of_sound_error hv hfeasible.queueName ?_
    rw [Broker.queueUrlFor_congr hidentity]
    exact hfeasible.reported
  | unset hfirst hsecond ids e =>
    obtain ⟨u, hu, hrest⟩ := hplays.of_append
    obtain ⟨v, hv, hrest⟩ := hrest.of_append
    obtain ⟨x, hset, hrest⟩ := (hrest.of_other not_false).of_call
    have hread := Wiring.read_of_ok hfirst hsecond hu hv
    obtain ⟨-, m, hrefused⟩ := hset.of_sound
    have hfault := hfeasible.settable ids
    rw [← hread.broker, hread.arn_eq, hread.errorArn_eq] at hfault
    have hcontains := w.contains_queues b hfeasible.queueName
    rw [← hread.broker, ← hread.url] at hcontains
    exact Broker.setQueueAttributes_ne_error hfault hcontains hrefused
  | unsubscribed hfirst hsecond ids e =>
    obtain ⟨u, hu, hrest⟩ := hplays.of_append
    obtain ⟨v, hv, hrest⟩ := hrest.of_append
    obtain ⟨x, hset, hrest⟩ := (hrest.of_other not_false).of_call
    obtain ⟨y, hsubscribe, hrest⟩ := hrest.of_call
    have hread := Wiring.read_of_ok hfirst hsecond hu hv
    obtain ⟨m, hgiven⟩ := hset.of_ok
    obtain ⟨-, m', hrefused⟩ := hsubscribe.of_sound
    have hattributed := (hread.attributed_eq ids m).trans (Broker.left_of_ok hgiven)
    refine Broker.subscribe_ne_error ?_ hrefused
    rw [← hattributed, w.topics_attributed]
    exact htopic

end Provisioning

end MessageBus
