import MessageBus.Proofs.Bus.Subscription
import MessageBus.Proofs.Provisioning.Attempted
/-!
Attempts to resolve a queue that are cut off, one after the other, and then one that succeeds. An
attempt that fails on a faulty line leaves a site from which the same can be reached as from the one
where it began (`Site.CutOff`, `Site.Executes.cutOff`), and so do any number of them
(`Site.Retried.cutOff`). So the one that succeeds leaves the broker that a single attempt on a sound
line would have left, but for what is drawn at random (`Site.retried_converges`).
-/

set_option autoImplicit false
set_option relaxedAutoImplicit false

namespace MessageBus

namespace Broker

/-- A topic that is made has no subscriptions, and one that was there keeps them. -/
theorem endpoints_topicMade (b : Broker) (ids : String × String) (name topicArn : String) :
    (b.topicMade ids name).endpoints topicArn = b.endpoints topicArn := by
  have hcreated : (b.withTopic name).endpoints topicArn = b.endpoints topicArn := by
    refine left_of (P := fun x ↦ x.endpoints topicArn = b.endpoints topicArn) rfl fun hcreate ↦ ?_
    obtain ⟨-, ⟨-, rfl⟩ | ⟨hnone, rfl⟩⟩ := createTopic_eq hcreate
    · rfl
    · rw [endpoints_setTopic]
      split
      · next harn =>
        rw [← harn, endpoints, hnone]
        rfl
      · rfl
  unfold topicMade withTopicAccess
  cases Policy.topicAccess ids.1 ids.2 (b.topicArnFor name) with
  | error e => exact hcreated
  | ok policy =>
    refine left_of (P := fun x ↦ x.endpoints topicArn = b.endpoints topicArn) hcreated fun hset ↦ ?_
    obtain ⟨topic, htopic, rfl⟩ := setTopicAttribute_eq hset
    rw [endpoints_setTopic, ← hcreated]
    split
    · next harn => rw [← harn, endpoints_of_find? htopic]
    · rfl

end Broker

namespace Site

open Provisioning

variable {line : Line} {r : Registry} {typeName : String} {s t u : Site}

/-- Whether the same can be reached from a site where attempts to resolve a queue were cut off as
from the one where they began. -/
structure CutOff (r : Registry) (typeName : String) (s t : Site) : Prop where
  atRest : t.store.AtRest
  address : ∀ kind, t.address r typeName kind = s.address r typeName kind
  vacant : t.store.get? (r.key typeName .queue) = none ↔
    s.store.get? (r.key typeName .queue) = none
  completed : ∀ marks, ∃ marks', t.completed r typeName marks = s.completed r typeName marks'
  feasible : t.Feasible r typeName → s.Feasible r typeName

namespace CutOff

theorem refl (hs : s.store.AtRest) : s.CutOff r typeName s :=
  ⟨hs, fun _ ↦ rfl, Iff.rfl, fun marks ↦ ⟨marks, rfl⟩, id⟩

theorem trans (h : s.CutOff r typeName t) (h' : t.CutOff r typeName u) :
    s.CutOff r typeName u where
  atRest := h'.atRest
  address kind := (h'.address kind).trans (h.address kind)
  vacant := h'.vacant.trans h.vacant
  completed marks := by
    obtain ⟨marks', hu⟩ := h'.completed marks
    obtain ⟨marks'', ht⟩ := h.completed marks'
    exact ⟨marks'', hu.trans ht⟩
  feasible hu := h.feasible (h'.feasible hu)

end CutOff

theorem cutOff_of_topicBegun (hvacant : s.store.get? (r.key typeName .topic) = none)
    (hrest : t.store.AtRest) (hstore : ∀ key, t.store.get? key = s.store.get? key)
    (h : s.broker.TopicBegun (r.naming.topicName typeName) t.broker) : s.CutOff r typeName t := by
  have hidentity := h.toExtends.identity
  have htopic : t.address r typeName .topic = s.address r typeName .topic := by
    rw [address, hstore, Broker.topicArnFor_congr hidentity, address]
  have hwiring : t.wiring r typeName = s.wiring r typeName := by rw [wiring, htopic, wiring]
  refine ⟨hrest, fun kind ↦ ?_, by rw [hstore], fun marks ↦ ⟨marks, ?_⟩, fun ht ↦ ?_⟩
  · cases kind with
    | topic => exact htopic
    | queue => rw [address, hstore, Broker.queueUrlFor_congr hidentity, address]
  · have hwith : t.withTopic r typeName marks.topicIds = s.withTopic r typeName marks.topicIds := by
      rw [withTopic, hstore, hvacant, withTopic, hvacant]
      exact h.topicMade_eq marks.topicIds
    rw [completed, hstore, hwiring, hwith, completed]
  · refine ⟨fun _ ↦ ht.topicName ((hstore _).trans hvacant), fun _ hne ↦ absurd hvacant hne,
      fun hqueue ↦ ?_⟩
    have hfeasible := ht.wiring ((hstore _).trans hqueue)
    rw [hwiring] at hfeasible
    exact hfeasible.congr_queues hidentity.symm h.queues_eq.symm

theorem cutOff_of_begun {v : Site} (htopic : s.TopicResolved r typeName v)
    (hvacant : s.store.get? (r.key typeName .queue) = none) (hrest : t.store.AtRest)
    (hstore : ∀ key, t.store.get? key = v.store.get? key)
    (h : (s.wiring r typeName).Begun v.broker t.broker) : s.CutOff r typeName t := by
  have hextends := htopic.extends_broker.trans h.toExtends
  have hcached : t.store.get? (r.key typeName .topic) = some (s.address r typeName .topic) := by
    rw [hstore, htopic.get?, if_pos rfl]
  have hqueue : t.store.get? (r.key typeName .queue) = s.store.get? (r.key typeName .queue) := by
    rw [hstore, htopic.get?, if_neg (r.key_topic_ne typeName)]
  have haddress : t.address r typeName .topic = s.address r typeName .topic := by
    rw [address, hcached, Option.getD_some]
  have hwiring : t.wiring r typeName = s.wiring r typeName := by rw [wiring, haddress, wiring]
  refine ⟨hrest, fun kind ↦ ?_, by rw [hqueue], fun marks ↦ ?_, fun ht ↦ ?_⟩
  · cases kind with
    | topic => exact haddress
    | queue => rw [address, hqueue, Broker.queueUrlFor_congr hextends.identity, address]
  · obtain ⟨ids, hbroker⟩ := htopic.broker
    obtain ⟨m, hm⟩ := h.exists_whole_eq marks.queueIds marks.subscribed
    refine ⟨⟨ids, marks.queueIds, m⟩, ?_⟩
    rw [completed, hqueue, hvacant, hwiring, withTopic, hcached, completed, hvacant, ← hbroker]
    exact hm
  · refine ⟨htopic.topicName, fun _ hne ↦ ?_, fun _ ↦ ?_⟩
    · have hcontains := ht.topic (hqueue.trans hvacant) (hcached ▸ Option.some_ne_none _)
      obtain ⟨ids, hbroker⟩ := htopic.broker
      rw [withTopic_of_ne_none hne] at hbroker
      rw [haddress] at hcontains
      exact hbroker ▸ h.contains_topics hcontains
    · have hfeasible := ht.wiring (hqueue.trans hvacant)
      rw [hwiring] at hfeasible
      exact (Wiring.feasible_of_begun h hfeasible).congr_queues
        htopic.extends_broker.identity.symm htopic.queues_eq.symm

/-- An attempt that fails leaves a site from which the same can be reached. -/
theorem Executes.cutOff {e : Error} (h : s.Executes line r typeName .queue t (.error e))
    (hs : s.store.AtRest) : s.CutOff r typeName t := by
  cases h.attempted hs with
  | noTopic e hvacant hrest hstore hcourse hplays =>
    exact cutOff_of_topicBegun hvacant hrest hstore (hcourse.of_error hplays)
  | noQueue e htopic hvacant hrest hstore hcourse hplays =>
    exact cutOff_of_begun htopic hvacant hrest hstore
      (SubscriptionCourse.of_error (w := s.wiring r typeName) hcourse hplays)

/-- Attempts to resolve a queue, all of which fail. -/
inductive Retried (line : Line) (r : Registry) (typeName : String) : Site → Site → Prop
  | refl (s : Site) : Retried line r typeName s s
  | step {s t u : Site} {e : Error} (h : Retried line r typeName s t)
    (hfailed : t.Executes line r typeName .queue u (.error e)) : Retried line r typeName s u

theorem Retried.cutOff (h : s.Retried line r typeName t) (hs : s.store.AtRest) :
    s.CutOff r typeName t := by
  induction h with
  | refl => exact .refl hs
  | step _ hfailed ih => exact ih.trans (hfailed.cutOff ih.atRest)

theorem extends_completed (s : Site) (r : Registry) (typeName : String) (marks : Marks) :
    s.broker.Extends (s.completed r typeName marks) := by
  have hwith := s.extends_withTopic r typeName marks.topicIds
  rw [completed]
  split
  · exact hwith
  · exact hwith.trans (Wiring.extends_whole ..)

/-- If the address of the queue is in the store, no subscriptions are made. -/
theorem endpoints_completed (marks : Marks)
    (h : s.store.get? (r.key typeName .queue) ≠ none) (topicArn : String) :
    (s.completed r typeName marks).endpoints topicArn = s.broker.endpoints topicArn := by
  obtain ⟨url, hfound⟩ := Option.ne_none_iff_exists'.mp h
  rw [completed, hfound]
  show (s.withTopic r typeName marks.topicIds).endpoints topicArn = _
  rw [withTopic]
  split
  · rfl
  · exact Broker.endpoints_topicMade ..

theorem Retried.subscribesOnce (h : s.Retried line r typeName t) (hs : s.broker.SubscribesOnce) :
    t.broker.SubscribesOnce := by
  induction h with
  | refl => exact hs
  | step _ hfailed ih => exact hfailed.subscribesOnce ih

/-- After any attempts that failed, an attempt that succeeds leaves the broker that a single one on
a sound line would have left, up to what is drawn at random; such an attempt would have succeeded.
No message is touched. If the queue was not in the store before, it is subscribed once, and
otherwise no subscriptions are made. -/
theorem retried_converges {bus : Bus} (hbus : bus.Reachable) {store : Store} (hstore : store.AtRest)
    {r : Registry} {typeName : String} {t u : Site} {url : String}
    (hretried : Retried .faulty r typeName ⟨bus.broker, store⟩ t)
    (hok : t.Executes .faulty r typeName .queue u (.ok url)) :
    let s : Site := ⟨bus.broker, store⟩
    (∃ v, s.Executes .sound r typeName .queue v (.ok url)) ∧
    (∀ v outcome, s.Executes .sound r typeName .queue v outcome → outcome = .ok url ∧
      ∃ marks marks', u.broker = s.completed r typeName marks ∧
        v.broker = s.completed r typeName marks') ∧
    (∀ queueUrl, u.broker.messages queueUrl = bus.broker.messages queueUrl) ∧
    (store.get? (r.key typeName .queue) = none → ∃ arn, u.broker.reported? url = some arn ∧
      (u.broker.endpoints (s.address r typeName .topic)).count arn = 1) ∧
    (store.get? (r.key typeName .queue) ≠ none → ∀ topicArn,
      u.broker.endpoints topicArn = bus.broker.endpoints topicArn) := by
  intro s
  have hcut : s.CutOff r typeName t := hretried.cutOff hstore
  obtain ⟨hurl, last, hlast⟩ := hok.completed_of_ok hcut.atRest
  obtain ⟨marks, hmarks⟩ := hcut.completed last
  have hbroker : u.broker = s.completed r typeName marks := hlast.trans hmarks
  have hfeasible := hcut.feasible (hok.feasible_of_ok hcut.atRest)
  have hsound (v : Site) (outcome : Except Error String)
      (h : s.Executes .sound r typeName .queue v outcome) : outcome = .ok url ∧
        ∃ marks marks', u.broker = s.completed r typeName marks ∧
          v.broker = s.completed r typeName marks' := by
    cases outcome with
    | error e => exact absurd h (hfeasible.ne_error hstore)
    | ok other =>
      obtain ⟨rfl, marks', hv⟩ := h.completed_of_ok hstore
      rw [hurl, hcut.address]
      exact ⟨rfl, marks, marks', hbroker, hv⟩
  refine ⟨?_, hsound, fun queueUrl ↦ ?_, fun hvacant ↦ ?_, fun hfound topicArn ↦ ?_⟩
  · obtain ⟨v, other, hv⟩ := hfeasible.exists_executes_ok hstore
    exact ⟨v, (hsound v _ hv).1 ▸ hv⟩
  · rw [hbroker]
    exact (s.extends_completed r typeName marks).messages queueUrl
  · obtain ⟨arn, hmem, hreported⟩ :=
      hok.subscribed_of_ok hcut.atRest (hcut.vacant.mpr hvacant)
    rw [hcut.address] at hmem
    have honce := hok.subscribesOnce (hretried.subscribesOnce hbus.subscribesOnce)
    exact ⟨arn, hreported, List.count_eq_one_of_mem (honce _) hmem⟩
  · rw [hbroker]
    exact endpoints_completed marks hfound topicArn

/-! ### One attempt that is cut off, and one that is not -/

/-- An attempt that has to make the topic can be cut off at its first call. -/
theorem exists_executes_lost (hs : s.store.AtRest) (r : Registry) (typeName : String)
    (hvacant : s.store.get? (r.key typeName .topic) = none) :
    ∃ store e, store.AtRest ∧ (∀ key, store.get? key = s.store.get? key) ∧
      s.Executes .faulty r typeName .queue ⟨s.broker, store⟩ (.error e) := by
  have hcause : TopicCourse (r.naming.topicName typeName) _ (.error (.transport "" "")) :=
    .refused _
  have hlookup := hs.lookup_eq hvacant
  have hplays : s.Plays .faulty r.store
      (⟨.lookup r.store (r.key typeName .topic), .vacant s.store.tickets⟩ ::
        ([⟨.call (.createTopic (r.naming.topicName typeName)), .error (.transport "" "")⟩] ++
          [⟨.settle r.store (r.key typeName .topic) s.store.tickets
            (.error (.transport "" "")), ()⟩]))
      ⟨s.broker, (s.store.lookup (r.key typeName .topic)).2.settle (r.key typeName .topic)
        s.store.tickets (.error (.transport "" ""))⟩ := by
    refine ⟨.other id (.call (.lost ..) (.other id (.nil _))), .step ?_
      (.step (.other _ trivial) (.step (.settle ..) (.nil _)))⟩
    have hacts : s.store.Acts r.store _ _ := .lookup s.store (r.key typeName .topic)
    rwa [hlookup] at hacts ⊢
  refine ⟨_, _, hs.settle_lookup _ _ _ hvacant, fun key ↦ ?_, _,
    (Registry.Resolves.noTopic (.topic (.made _ hcause))).leads, hplays⟩
  rw [hs.get?_settle_lookup _ _ _ hvacant]
  split
  · next hkey => rw [← hkey, hvacant, Except.toOption]
  · rfl

theorem isResourceName_sample : isResourceName (sampleRegistry.naming.topicName "orders") ∧
    isResourceName (sampleRegistry.naming.queueName "orders") ∧
    isResourceName (sampleRegistry.naming.errorQueueName "orders") := by
  decide +kernel

/-- On an empty broker, one attempt is cut off at its first call, and the next one succeeds. -/
theorem retried_converges_sample :
    let s : Site := ⟨(Bus.start {}).broker, {}⟩
    ∃ t u url arn e, s.Executes .faulty sampleRegistry "orders" .queue t (.error e) ∧
      t.Executes .faulty sampleRegistry "orders" .queue u (.ok url) ∧
      (∃ v marks marks', s.Executes .sound sampleRegistry "orders" .queue v (.ok url) ∧
        u.broker = s.completed sampleRegistry "orders" marks ∧
        v.broker = s.completed sampleRegistry "orders" marks') ∧
      u.broker.reported? url = some arn ∧
      (u.broker.endpoints (s.address sampleRegistry "orders" .topic)).count arn = 1 := by
  intro s
  have hs : s.store.AtRest := fun _ ↦ rfl
  obtain ⟨htopic, hqueue, herror⟩ := isResourceName_sample
  have hfeasible : s.Feasible sampleRegistry "orders" :=
    ⟨fun _ ↦ htopic, fun _ hcached ↦ absurd rfl hcached, fun _ ↦
      Wiring.feasible_of_isNamed (Broker.isNamed_start {}) herror hqueue (by decide)⟩
  obtain ⟨store, e, hrest, hstore, hlost⟩ := exists_executes_lost hs sampleRegistry "orders" rfl
  have hagain : Feasible ⟨s.broker, store⟩ sampleRegistry "orders" := hfeasible.congr rfl hstore
  obtain ⟨u, url, hok⟩ := hagain.exists_executes_ok hrest
  obtain ⟨⟨v, hv⟩, hsame, -, honce, -⟩ := retried_converges (Bus.reachable_start {}) hs
    ((Retried.refl s).step hlost) hok.faulty
  obtain ⟨arn, hreported, hcount⟩ := honce rfl
  obtain ⟨-, marks, marks', hu, hclean⟩ := hsame v _ hv
  exact ⟨_, u, url, arn, e, hlost, hok.faulty, ⟨v, marks, marks', hv, hu, hclean⟩, hreported,
    hcount⟩

def ordersQueueArn : String := "arn:aws:sqs:eu-west-1:111122223333:orders"

/-- A bus on which someone has made a queue. -/
def ordersBus : Bus := ((Bus.start {}).answer .epoch (.createQueue "orders")).2

/-- A store in which someone has put the address of the queue. -/
def sampleStore : Store :=
  (({} : Store).lookup (sampleRegistry.key "orders" .queue)).2.settle
    (sampleRegistry.key "orders" .queue) 0 (.ok Bus.sampleUrl)

/-- A queue whose address was in the store is not subscribed by the attempt that succeeds. -/
theorem unsubscribed_if_stored :
    let s : Site := ⟨ordersBus.broker, sampleStore⟩
    ∃ t u e, ordersBus.Reachable ∧ sampleStore.AtRest ∧
      s.Executes .faulty sampleRegistry "orders" .queue t (.error e) ∧
      t.Executes .faulty sampleRegistry "orders" .queue u (.ok Bus.sampleUrl) ∧
      u.broker.reported? Bus.sampleUrl = some ordersQueueArn ∧
      ∀ topicArn, (u.broker.endpoints topicArn).count ordersQueueArn = 0 := by
  intro s
  have hs : sampleStore.AtRest :=
    Store.AtRest.settle_lookup (s := {}) (fun _ ↦ rfl) _ _ _ rfl
  have hget (key : ResourceKey) : sampleStore.get? key =
      if sampleRegistry.key "orders" .queue = key then some Bus.sampleUrl else none :=
    Store.AtRest.get?_settle_lookup (s := {}) (fun _ ↦ rfl) _ _ _ rfl key
  have hqueue : s.store.get? (sampleRegistry.key "orders" .queue) = some Bus.sampleUrl := by
    rw [hget, if_pos rfl]
  have htopic : s.store.get? (sampleRegistry.key "orders" .topic) = none := by
    rw [hget, if_neg (sampleRegistry.key_topic_ne "orders").symm]
  have hfeasible : s.Feasible sampleRegistry "orders" :=
    ⟨fun _ ↦ isResourceName_sample.1, fun hvacant ↦ (by rw [hqueue] at hvacant; cases hvacant),
      fun hvacant ↦ (by rw [hqueue] at hvacant; cases hvacant)⟩
  obtain ⟨store, e, hrest, hstore, hlost⟩ := exists_executes_lost hs sampleRegistry "orders" htopic
  have hagain : Feasible ⟨s.broker, store⟩ sampleRegistry "orders" := hfeasible.congr rfl hstore
  obtain ⟨u, url, hok⟩ := hagain.exists_executes_ok hrest
  obtain ⟨hurl, marks, hu⟩ := hok.completed_of_ok hrest
  rw [← hstore] at hqueue
  have hreported : ordersBus.broker.reported? Bus.sampleUrl = some ordersQueueArn := by
    decide +kernel
  have htopics : ordersBus.broker.topics = ∅ := rfl
  rw [address, hqueue, Option.getD_some] at hurl
  subst hurl
  refine ⟨_, u, e, (Bus.reachable_start {}).step (.call ..), hs, hlost, hok.faulty, ?_,
    fun topicArn ↦ ?_⟩
  · rw [hu]
    exact (extends_completed ..).reported hreported
  · rw [hu, endpoints_completed marks (hqueue ▸ Option.some_ne_none _), Broker.endpoints, htopics]
    rfl

end Site

end MessageBus
