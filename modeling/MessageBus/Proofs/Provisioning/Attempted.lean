import MessageBus.Proofs.Bus.Provisioning
import MessageBus.Proofs.Bus.Subscription
import MessageBus.Proofs.Provisioning.Feasible
/-!
Attempts to resolve a queue. Where no initialization is under way, an attempt finds the address of
the topic in the store or makes the topic, and then finds or makes the queue; each of the two can
fail (`Site.Attempted`, `Site.Executes.attempted`). One that succeeds leaves a broker that is
determined up to what is drawn at random (`Site.completed`, `Site.Executes.completed_of_ok`). On a
sound line it succeeds if the queue can be resolved at all (`Site.Feasible.ne_error`).
-/

set_option autoImplicit false
set_option relaxedAutoImplicit false

namespace MessageBus

/-- What an attempt draws at random: the identifiers of the two access policies, and the moment of
subscribing, which the ARN of the subscription comes from. -/
structure Marks where
  topicIds : String × String
  queueIds : String × String
  subscribed : Moment

/-- What the queue of a type is wired to, if its topic has the given ARN. -/
def Registry.wiring (r : Registry) (typeName topicArn : String) : Wiring where
  topicArn := topicArn
  queueName := r.naming.queueName typeName
  errorQueueName := r.naming.errorQueueName typeName
  limit := r.settings.maxReceiveCount

namespace Site

section Completion

variable (s : Site) (r : Registry) (typeName : String)

/-- The address of a type's topic or queue: the one in the store, or the one that it gets. -/
def address : ResourceKind → String
  | .topic => (s.store.get? (r.key typeName .topic)).getD
      (s.broker.topicArnFor (r.naming.topicName typeName))
  | .queue => (s.store.get? (r.key typeName .queue)).getD
      (s.broker.queueUrlFor (r.naming.queueName typeName))

/-- The wiring of a type's queue. -/
def wiring : Wiring := r.wiring typeName (s.address r typeName .topic)

/-- The broker once the topic of a type was resolved, which makes the topic if its address is not in
the store. -/
def withTopic (ids : String × String) : Broker :=
  match s.store.get? (r.key typeName .topic) with
  | some _ => s.broker
  | none => s.broker.topicMade ids (r.naming.topicName typeName)

/-- The broker once the queue of a type was resolved. -/
def completed (marks : Marks) : Broker :=
  match s.store.get? (r.key typeName .queue) with
  | some _ => s.withTopic r typeName marks.topicIds
  | none => (s.wiring r typeName).whole marks.queueIds marks.subscribed
      (s.withTopic r typeName marks.topicIds)

/-- Whether the queue of a type can be resolved. -/
structure Feasible : Prop where
  topicName : s.store.get? (r.key typeName .topic) = none →
    isResourceName (r.naming.topicName typeName)
  topic : s.store.get? (r.key typeName .queue) = none →
    s.store.get? (r.key typeName .topic) ≠ none →
    s.broker.topics.contains (s.address r typeName .topic)
  wiring : s.store.get? (r.key typeName .queue) = none → (s.wiring r typeName).Feasible s.broker

/-- A site where the topic of a type was resolved. -/
structure TopicResolved (s : Site) (r : Registry) (typeName : String) (t : Site) : Prop where
  atRest : t.store.AtRest
  get? : ∀ key, t.store.get? key = if r.key typeName .topic = key then
    some (s.address r typeName .topic) else s.store.get? key
  broker : ∃ ids, t.broker = s.withTopic r typeName ids
  topicName : s.store.get? (r.key typeName .topic) = none →
    isResourceName (r.naming.topicName typeName)
  contains : s.store.get? (r.key typeName .topic) = none →
    t.broker.topics.contains (s.address r typeName .topic)

end Completion

end Site

namespace Registry

open Provisioning

variable {r : Registry} {typeName : String} {line : Line} {past : List Performed} {s t : Site}

theorem key_topic_ne (r : Registry) (typeName : String) :
    r.key typeName .topic ≠ r.key typeName .queue := by
  intro h
  cases congrArg ResourceKey.kind h

theorem eq_ok_of_mapError {made : Except Error String} {f : Error → Error} {a : String}
    (h : .ok a = made.mapError f) : made = .ok a := by
  cases made with
  | ok b =>
    cases h
    rfl
  | error e => cases h

theorem eq_error_of_mapError {made : Except Error String} {f : Error → Error} {e : Error}
    (h : .error e = made.mapError f) : ∃ cause, made = .error cause := by
  cases made with
  | ok b => cases h
  | error cause => exact ⟨cause, rfl⟩

theorem Resolves.of_topic {outcome : Except Error String}
    (h : r.Resolves typeName .topic past outcome) :
    ∃ made, Obtains r.store (r.key typeName .topic) (TopicCourse (r.naming.topicName typeName))
      past made ∧
      outcome = made.mapError (Error.asResolution "topic" (r.naming.topicName typeName)) := by
  cases h with
  | topic h => exact ⟨_, h, rfl⟩

theorem Resolves.of_queue {outcome : Except Error String}
    (h : r.Resolves typeName .queue past outcome) :
    (∃ e, r.Resolves typeName .topic past (.error e) ∧ outcome = .error e) ∨
    ∃ before after topicArn made, past = before ++ after ∧
      r.Resolves typeName .topic before (.ok topicArn) ∧
      Obtains r.store (r.key typeName .queue) (r.QueueMade typeName topicArn) after made ∧
      outcome = made.mapError (Error.asResolution "queue" (r.naming.queueName typeName)) := by
  cases h with
  | noTopic h => exact .inl ⟨_, h, rfl⟩
  | queue htopic h => exact .inr ⟨_, _, _, _, rfl, htopic, h, rfl⟩

end Registry

namespace Site

open Provisioning

variable {r : Registry} {typeName : String} {line : Line} {past : List Performed} {s t u : Site}

theorem provisions_of_topicCourse {name : String} {outcome : Except Error String}
    (h : TopicCourse name past outcome) : ∀ p ∈ past, p.effect.Provisions :=
  ((all_ensureTopic name).of_leads h.leads).1

theorem provisions_of_queueMade {arn : String} {outcome : Except Error String}
    (h : r.QueueMade typeName arn past outcome) : ∀ p ∈ past, p.effect.Provisions :=
  ((all_ensureSubscription ..).of_leads (SubscriptionCourse.leads h)).1

/-- Who resolves a topic finds its address, or makes it. -/
theorem topicResolved_of_ok {arn : String} (h : r.Resolves typeName .topic past (.ok arn))
    (hplays : s.Plays line r.store past t) (hs : s.store.AtRest) :
    arn = s.address r typeName .topic ∧ s.TopicResolved r typeName t := by
  obtain ⟨made, hobtains, hmade⟩ := h.of_topic
  obtain rfl := Registry.eq_ok_of_mapError hmade
  obtain ⟨address, hget, houtcome, hstore, hline⟩ | ⟨hget, hrest, hstore, during, hcourse, hline⟩ :=
    hobtains.of_atRest provisions_of_topicCourse hs hplays.store
  · obtain rfl := Except.ok.inj houtcome
    have harn : arn = s.address r typeName .topic := by rw [Site.address, hget, Option.getD_some]
    refine ⟨harn, hstore ▸ hs, fun key ↦ ?_, ⟨("", ""), ?_⟩, fun hnone ↦ ?_, fun hnone ↦ ?_⟩
    · rw [hstore, ← harn]
      split
      · next hkey => rw [← hkey, hget]
      · rfl
    · rw [hline hplays.broker, withTopic, hget]
    · rw [hget] at hnone
      cases hnone
    · rw [hget] at hnone
      cases hnone
  · have hplayed := hline hplays.broker
    obtain ⟨harnFor, hcontains, ids, hbroker⟩ := hcourse.of_ok hplayed
    have harn : arn = s.address r typeName .topic := by
      rw [Site.address, hget, Option.getD_none, harnFor]
    refine ⟨harn, hrest, fun key ↦ ?_, ⟨ids, ?_⟩, fun _ ↦ ?_, fun _ ↦ ?_⟩
    · rw [hstore, ← harn]
      rfl
    · rw [hbroker, withTopic, hget]
    · exact hcourse.isResourceName_of_ok hplayed
    · exact harn ▸ hcontains

/-- How an attempt to resolve a queue can go. -/
inductive Attempted (line : Line) (r : Registry) (typeName : String) (s t : Site) :
    Except Error String → Prop
  /-- The topic is not made. -/
  | noTopic {during : List Performed} {cause : Error} (e : Error)
    (hvacant : s.store.get? (r.key typeName .topic) = none) (hrest : t.store.AtRest)
    (hstore : ∀ key, t.store.get? key = s.store.get? key)
    (hcourse : TopicCourse (r.naming.topicName typeName) during (.error cause))
    (hplays : line.Plays s.broker during t.broker) : Attempted line r typeName s t (.error e)
  | found {url : String} (hfound : s.store.get? (r.key typeName .queue) = some url)
    (htopic : s.TopicResolved r typeName t) : Attempted line r typeName s t (.ok url)
  /-- The topic is resolved, but the queue is not made. -/
  | noQueue {v : Site} {during : List Performed} {cause : Error} (e : Error)
    (htopic : s.TopicResolved r typeName v)
    (hvacant : s.store.get? (r.key typeName .queue) = none) (hrest : t.store.AtRest)
    (hstore : ∀ key, t.store.get? key = v.store.get? key)
    (hcourse : r.QueueMade typeName (s.address r typeName .topic) during (.error cause))
    (hplays : line.Plays v.broker during t.broker) : Attempted line r typeName s t (.error e)
  | made {v : Site} {during : List Performed} {url : String}
    (htopic : s.TopicResolved r typeName v)
    (hvacant : s.store.get? (r.key typeName .queue) = none) (hrest : t.store.AtRest)
    (hstore : ∀ key, t.store.get? key =
      if r.key typeName .queue = key then some url else v.store.get? key)
    (hcourse : r.QueueMade typeName (s.address r typeName .topic) during (.ok url))
    (hplays : line.Plays v.broker during t.broker) : Attempted line r typeName s t (.ok url)

theorem attempted_of_topic_error {e : Error} (h : r.Resolves typeName .topic past (.error e))
    (hplays : s.Plays line r.store past t) (hs : s.store.AtRest) :
    s.Attempted line r typeName t (.error e) := by
  obtain ⟨made, hobtains, hmade⟩ := h.of_topic
  obtain ⟨cause, rfl⟩ := Registry.eq_error_of_mapError hmade
  obtain ⟨address, -, houtcome, -, -⟩ | ⟨hvacant, hrest, hstore, during, hcourse, hline⟩ :=
    hobtains.of_atRest provisions_of_topicCourse hs hplays.store
  · cases houtcome
  · refine .noTopic e hvacant hrest (fun key ↦ ?_) hcourse (hline hplays.broker)
    rw [hstore]
    split
    · next hkey => rw [← hkey, hvacant, Except.toOption]
    · rfl

theorem attempted_of_queue {before after : List Performed} {arn : String}
    {made outcome : Except Error String} {v : Site}
    (htopic : r.Resolves typeName .topic before (.ok arn))
    (hbefore : s.Plays line r.store before v) (hs : s.store.AtRest)
    (h : Obtains r.store (r.key typeName .queue) (r.QueueMade typeName arn) after made)
    (hafter : v.Plays line r.store after t)
    (houtcome : outcome =
      made.mapError (Error.asResolution "queue" (r.naming.queueName typeName))) :
    s.Attempted line r typeName t outcome := by
  obtain ⟨rfl, hv⟩ := topicResolved_of_ok htopic hbefore hs
  have hother : v.store.get? (r.key typeName .queue) = s.store.get? (r.key typeName .queue) := by
    rw [hv.get?, if_neg (r.key_topic_ne typeName)]
  obtain ⟨url, hfound, rfl, hstore, hline⟩ | ⟨hvacant, hrest, hstore, during, hcourse, hline⟩ :=
    h.of_atRest provisions_of_queueMade hv.atRest hafter.store
  · rw [houtcome]
    have ht : t = v := by
      cases t
      cases v
      exact congrArg₂ _ (hline hafter.broker) hstore
    exact .found (hother ▸ hfound) (ht ▸ hv)
  · rw [hother] at hvacant
    cases made with
    | ok url => exact houtcome ▸ .made hv hvacant hrest hstore hcourse (hline hafter.broker)
    | error cause =>
      rw [houtcome]
      refine .noQueue _ hv hvacant hrest (fun key ↦ ?_) hcourse (hline hafter.broker)
      rw [hstore]
      split
      · next hkey => rw [← hkey, hother, hvacant, Except.toOption]
      · rfl

/-- Every attempt to resolve a queue goes in one of these ways. -/
theorem Executes.attempted {outcome : Except Error String}
    (h : s.Executes line r typeName .queue t outcome) (hs : s.store.AtRest) :
    s.Attempted line r typeName t outcome := by
  obtain ⟨past, hleads, hplays⟩ := h
  obtain ⟨e, hfailed, rfl⟩ | ⟨before, after, arn, made, rfl, htopic, hobtains, houtcome⟩ :=
    (Registry.resolves_of_leads hleads).of_queue
  · exact attempted_of_topic_error hfailed hplays hs
  · obtain ⟨v, hbefore, hafter⟩ := hplays.of_append
    exact attempted_of_queue htopic hbefore hs hobtains hafter houtcome

theorem extends_withTopic (s : Site) (r : Registry) (typeName : String) (ids : String × String) :
    s.broker.Extends (s.withTopic r typeName ids) := by
  rw [withTopic]
  split
  · exact .refl _
  · exact Broker.extends_topicMade ..

theorem queues_withTopic (s : Site) (r : Registry) (typeName : String) (ids : String × String) :
    (s.withTopic r typeName ids).queues = s.broker.queues := by
  rw [withTopic]
  split
  · rfl
  · exact Broker.queues_topicMade ..

theorem withTopic_of_ne_none {ids : String × String}
    (h : s.store.get? (r.key typeName .topic) ≠ none) : s.withTopic r typeName ids = s.broker := by
  obtain ⟨arn, hget⟩ := Option.ne_none_iff_exists'.mp h
  rw [withTopic, hget]

theorem TopicResolved.extends_broker (h : s.TopicResolved r typeName t) :
    s.broker.Extends t.broker := by
  obtain ⟨ids, hbroker⟩ := h.broker
  rw [hbroker]
  exact s.extends_withTopic r typeName ids

theorem TopicResolved.queues_eq (h : s.TopicResolved r typeName t) :
    t.broker.queues = s.broker.queues := by
  obtain ⟨ids, hbroker⟩ := h.broker
  rw [hbroker, queues_withTopic]

/-- A queue that was resolved has its address, and the broker is as it is to be. -/
theorem Executes.completed_of_ok {url : String}
    (h : s.Executes line r typeName .queue t (.ok url)) (hs : s.store.AtRest) :
    url = s.address r typeName .queue ∧ ∃ marks, t.broker = s.completed r typeName marks := by
  cases h.attempted hs with
  | found hfound htopic =>
    obtain ⟨ids, hbroker⟩ := htopic.broker
    refine ⟨?_, ⟨ids, ("", ""), ⟨0, .epoch, 0⟩⟩, ?_⟩
    · rw [address, hfound, Option.getD_some]
    · rw [completed, hfound, hbroker]
  | @made v during _ htopic hvacant hrest hstore hcourse hplays =>
    obtain ⟨hurl, ⟨ids, m, hwhole⟩, -⟩ :=
      SubscriptionCourse.of_ok (w := s.wiring r typeName) hcourse hplays
    obtain ⟨topicIds, hbroker⟩ := htopic.broker
    refine ⟨?_, ⟨topicIds, ids, m⟩, ?_⟩
    · rw [address, hvacant, hurl, Broker.queueUrlFor_congr htopic.extends_broker.identity]
      rfl
    · rw [completed, hvacant, hwhole, hbroker]

/-- A queue that was not in the store and was resolved is subscribed under the ARN that it
reports. -/
theorem Executes.subscribed_of_ok {url : String}
    (h : s.Executes line r typeName .queue t (.ok url)) (hs : s.store.AtRest)
    (hvacant : s.store.get? (r.key typeName .queue) = none) :
    ∃ arn ∈ t.broker.endpoints (s.address r typeName .topic),
      t.broker.reported? url = some arn := by
  cases h.attempted hs with
  | found hfound htopic =>
    rw [hvacant] at hfound
    cases hfound
  | made htopic hvacant hrest hstore hcourse hplays =>
    obtain ⟨-, -, hsubscribed⟩ := SubscriptionCourse.of_ok (w := s.wiring r typeName) hcourse hplays
    exact hsubscribed

theorem Executes.feasible_of_ok {url : String}
    (h : s.Executes line r typeName .queue t (.ok url)) (hs : s.store.AtRest) :
    s.Feasible r typeName := by
  cases h.attempted hs with
  | found hfound htopic =>
    have hnever {P : Prop} (hvacant : s.store.get? (r.key typeName .queue) = none) : P := by
      rw [hfound] at hvacant
      cases hvacant
    exact ⟨htopic.topicName, hnever, hnever⟩
  | @made v during _ htopic hvacant hrest hstore hcourse hplays =>
    obtain ⟨hfeasible, hcontains⟩ :=
      SubscriptionCourse.feasible_of_ok (w := s.wiring r typeName) hcourse hplays
    refine ⟨htopic.topicName, fun _ hcached ↦ ?_, fun _ ↦ ?_⟩
    · obtain ⟨ids, hbroker⟩ := htopic.broker
      rw [withTopic_of_ne_none hcached] at hbroker
      rw [← hbroker]
      exact hcontains
    · exact hfeasible.congr_queues htopic.extends_broker.identity.symm htopic.queues_eq.symm

theorem Executes.subscribesOnce {kind : ResourceKind} {outcome : Except Error String}
    (h : s.Executes line r typeName kind t outcome) (hs : s.broker.SubscribesOnce) :
    t.broker.SubscribesOnce := by
  obtain ⟨past, -, hplays⟩ := h
  exact hplays.broker.keeps (fun hanswer hb ↦ hb.answer hanswer) hs

/-- On a sound line a queue is resolved if it can be. -/
theorem Feasible.ne_error (h : s.Feasible r typeName) (hs : s.store.AtRest) {e : Error} :
    ¬ s.Executes .sound r typeName .queue t (.error e) := by
  intro hexecutes
  cases hexecutes.attempted hs with
  | noTopic e hvacant hrest hstore hcourse hplays =>
    exact (hcourse.of_sound_error hplays).1 (h.topicName hvacant)
  | @noQueue v during cause e htopic hvacant hrest hstore hcourse hplays =>
    have hfeasible := (h.wiring hvacant).congr_queues htopic.extends_broker.identity
      htopic.queues_eq
    refine SubscriptionCourse.of_sound_error (w := s.wiring r typeName) hcourse hplays
      (r.naming.errorQueueName_ne typeName) hfeasible ?_
    by_cases hcached : s.store.get? (r.key typeName .topic) = none
    · exact htopic.contains hcached
    · exact htopic.extends_broker.topics (h.topic hvacant hcached)

/-- Where the queue can be resolved, an attempt on a sound line resolves it. -/
theorem Feasible.exists_executes_ok (h : s.Feasible r typeName) (hs : s.store.AtRest) :
    ∃ t url, s.Executes .sound r typeName .queue t (.ok url) := by
  obtain ⟨t, outcome, hexecutes⟩ := exists_executes (s := s) .sound r typeName .queue hs
  cases outcome with
  | ok url => exact ⟨t, url, hexecutes⟩
  | error e => exact absurd hexecutes (h.ne_error hs)

theorem Feasible.congr (h : s.Feasible r typeName) (hbroker : t.broker = s.broker)
    (hstore : ∀ key, t.store.get? key = s.store.get? key) : t.Feasible r typeName := by
  have haddress : t.address r typeName .topic = s.address r typeName .topic := by
    rw [address, hstore, hbroker, address]
  refine ⟨?_, ?_, ?_⟩
  · rw [hstore]
    exact h.topicName
  · rw [hstore, hstore, haddress, hbroker]
    exact h.topic
  · rw [hstore, Site.wiring, haddress, hbroker]
    exact h.wiring

end Site

end MessageBus
