import MessageBus.Proofs.Broker.Operation
import MessageBus.Proofs.Envelope.RoundTrip
import MessageBus.Proofs.Provisioning.Execution
import MessageBus.Proofs.Registry
import MessageBus.Proofs.Subscriber.Batch
import MessageBus.Publisher
/-!
What publishing does to a broker whose calls can fail, and how it is counted. A publishing has no
resolver, or it resolves no topic, or its call fails, or it has published (`Publisher.Course`); what
it does to find the topic concerns topics alone (`Resolver.all_topic`). So a publishing that fails
leaves every queue as it is, one that succeeds has published once, and either is counted once
(`Publisher.published_or_unchanged`).
-/

set_option autoImplicit false
set_option relaxedAutoImplicit false

namespace MessageBus

open Delivery

/-- What becomes of a broker by a call that may fail, with any error. One that fails changes
nothing. -/
def Broker.Attempts (b : Broker) (c : Call) : Except Error c.Reply → Broker → Prop
  | .ok reply, b' => ∃ m, b.answer m c = .ok (reply, b')
  | .error _, b' => b' = b

/-- What becomes of a broker while effects are performed, where any call may fail. -/
inductive Broker.Undergoes : Broker → List Performed → Broker → Prop
  | nil (b : Broker) : Undergoes b [] b
  | call {b u b' : Broker} {c : Call} {reply : Except Error c.Reply} {rest : List Performed}
    (h : b.Attempts c reply u) (hrest : Undergoes u rest b') :
    Undergoes b (⟨.call c, reply⟩ :: rest) b'
  | other {b b' : Broker} {p : Performed} {rest : List Performed} (hp : ¬ p.effect.IsCall)
    (hrest : Undergoes b rest b') : Undergoes b (p :: rest) b'

/-- Whether a call publishes a message. -/
def Call.isPublish : Call → Bool
  | publish _ _ => true
  | _ => false

/-- Whether a counter is one of publishings. -/
def Counter.isOfPublishing : Counter → Bool
  | published _ => true
  | publishFailed _ _ => true
  | _ => false

/-- Whether an effect concerns topics alone, and is not counted as a publishing. -/
def Effect.ConcernsTopics : Effect → Prop
  | .call (.createTopic _) | .call (.setTopicAttributes ..) => True
  | .call _ => False
  | .count c => ¬ c.isOfPublishing
  | _ => True

namespace Broker.Undergoes

variable {b b' : Broker} {past rest : List Performed}

theorem of_nil (h : b.Undergoes [] b') : b' = b := by
  cases h
  rfl

theorem of_append (h : b.Undergoes (past ++ rest) b') :
    ∃ u, b.Undergoes past u ∧ u.Undergoes rest b' := by
  induction past generalizing b with
  | nil => exact ⟨b, .nil b, h⟩
  | cons p past ih =>
    cases h with
    | call h hrest =>
      obtain ⟨u, hpast, hlast⟩ := ih hrest
      exact ⟨u, .call h hpast, hlast⟩
    | other hp hrest =>
      obtain ⟨u, hpast, hlast⟩ := ih hrest
      exact ⟨u, .other hp hpast, hlast⟩

theorem of_call {c : Call} {reply : Except Error c.Reply}
    (h : b.Undergoes (⟨.call c, reply⟩ :: rest) b') :
    ∃ u, b.Attempts c reply u ∧ u.Undergoes rest b' := by
  cases h with
  | call h hrest => exact ⟨_, h, hrest⟩
  | other hp => exact absurd trivial hp

theorem of_other {p : Performed} (h : b.Undergoes (p :: rest) b')
    (hp : ¬ p.effect.IsCall) : b.Undergoes rest b' := by
  cases h with
  | call => exact absurd trivial hp
  | other _ hrest => exact hrest

end Broker.Undergoes

/-- A call that concerns topics alone leaves every queue as it is. -/
theorem Broker.Attempts.queues_eq {b b' : Broker} {c : Call} {reply : Except Error c.Reply}
    (h : b.Attempts c reply b') (hc : Effect.ConcernsTopics (.call c)) :
    b'.queues = b.queues := by
  cases reply with
  | error e => exact congrArg Broker.queues h
  | ok reply =>
    obtain ⟨m, h⟩ := h
    cases c with
    | createTopic name =>
      obtain ⟨-, ⟨-, rfl⟩ | ⟨-, rfl⟩⟩ := Broker.createTopic_eq h
      · rfl
      · rfl
    | setTopicAttributes topicArn name value =>
      obtain ⟨topic, -, rfl⟩ := Broker.setTopicAttribute_eq h
      rfl
    | subscribe | publish | createQueue | getQueueAttributes | setQueueAttributes
    | receiveMessage | deleteMessage => exact absurd hc id

theorem Broker.Undergoes.queues_eq {b b' : Broker} {past : List Performed}
    (h : b.Undergoes past b') (hpast : ∀ p ∈ past, p.effect.ConcernsTopics) :
    b'.queues = b.queues := by
  induction h with
  | nil => rfl
  | call h _ ih =>
    obtain ⟨hfirst, hrest⟩ := List.forall_mem_cons.mp hpast
    exact (ih hrest).trans (h.queues_eq hfirst)
  | other _ _ ih => exact ih (List.forall_mem_cons.mp hpast).2

open Attempt in
/-- To find the topic of a type concerns topics alone. -/
theorem Resolver.all_topic (resolver : Resolver) (typeName : String) :
    (resolver.topic typeName).run.All Effect.ConcernsTopics := by
  cases resolver with
  | fixed address => trivial
  | registry r =>
    refine all_mapError (all_getOrSet trivial (fun _ ↦ trivial) (fun _ _ ↦ trivial) ?_) _
    refine all_bind (all_call trivial) fun arn ↦ ?_
    refine all_bind (all_ofProgram (Program.all_effect trivial)) fun (id, sid) ↦ ?_
    refine all_bind trivial fun policy ↦ ?_
    refine all_bind (all_call trivial) fun _ ↦ ?_
    exact all_bind (all_count Bool.false_ne_true) fun _ ↦ trivial

namespace Publisher

/-- The counter that an outcome of publishing increases. -/
def outcomeCounter (typeName : String) : Except Error String → Counter
  | .ok _ => .published typeName
  | .error e => .publishFailed typeName e.kind

/-- The text that is published of a payload. -/
def sentText (type : PayloadType) (payload : Payload) (overrides : MetadataOverrides)
    (stamp : Stamp) : String :=
  Envelope.publishedText (Envelope.sealed type payload overrides stamp).1

/-- The courses that a publishing can take, each with its outcome. -/
inductive Course (type : PayloadType) (payload : Payload) (overrides : MetadataOverrides) :
    Option Resolver → List Performed → Except Error String → Prop
  | unresolvable (stamp : Stamp) : Course type payload overrides none
      [⟨.stamp, stamp⟩, ⟨.count (.publishFailed type.fullName .resolution), ()⟩]
      (.error (noResolver type.fullName))
  | unresolved (stamp : Stamp) {resolver : Resolver} {before : List Performed} {e : Error}
    (h : (resolver.topic type.fullName).run.Leads before (.done (.error e))) :
    Course type payload overrides (some resolver)
      (⟨.stamp, stamp⟩ :: (before ++ [⟨.count (.publishFailed type.fullName e.kind), ()⟩]))
      (.error e)
  | unpublished (stamp : Stamp) {resolver : Resolver} {before : List Performed} {topicArn : String}
    (h : (resolver.topic type.fullName).run.Leads before (.done (.ok topicArn))) (e : Error) :
    Course type payload overrides (some resolver)
      (⟨.stamp, stamp⟩ :: (before ++
        [⟨.call (.publish topicArn (sentText type payload overrides stamp)), .error e⟩,
          ⟨.count (.publishFailed type.fullName e.kind), ()⟩])) (.error e)
  | published (stamp : Stamp) {resolver : Resolver} {before : List Performed} {topicArn : String}
    (h : (resolver.topic type.fullName).run.Leads before (.done (.ok topicArn))) (id : String) :
    Course type payload overrides (some resolver)
      (⟨.stamp, stamp⟩ :: (before ++
        [⟨.call (.publish topicArn (sentText type payload overrides stamp)), .ok id⟩,
          ⟨.count (.published type.fullName), ()⟩])) (.ok id)

variable {type : PayloadType} {payload : Payload} {overrides : MetadataOverrides}
  {resolver : Option Resolver} {past : List Performed} {outcome : Except Error String}

theorem leads_count {c : Counter} {r : Except Error String} {rest : List Performed}
    (h : ((Program.count c).bind fun _ ↦ .done r).Leads rest (.done outcome)) :
    rest = [⟨.count c, ()⟩] ∧ outcome = r := by
  obtain ⟨⟨⟩, rest, rfl, hrest⟩ := h.perform_of_done
  obtain ⟨rfl, hdone⟩ := Program.Leads.of_done hrest
  exact ⟨rfl, Program.done.inj hdone⟩

theorem course_of_leads
    (h : (publish type resolver payload overrides).Leads past (.done outcome)) :
    Course type payload overrides resolver past outcome := by
  obtain ⟨sent, during, last, rfl, hsend, hlast⟩ := Program.Leads.of_bind h
  obtain ⟨stamp, rest, rfl, hrest⟩ := Program.Leads.perform_of_done hsend
  cases resolver with
  | none =>
    obtain ⟨rfl, hsent⟩ := Program.Leads.of_done hrest
    cases hsent
    obtain ⟨rfl, rfl⟩ := leads_count hlast
    exact .unresolvable stamp
  | some resolver =>
    obtain ⟨e, hfailed, rfl⟩ | ⟨topicArn, before, after, rfl, hbefore, hafter⟩ :=
      Attempt.andThen_of_leads hrest
    · obtain ⟨rfl, rfl⟩ := leads_count hlast
      exact .unresolved stamp hfailed
    obtain ⟨reply, rest, rfl, hreply⟩ := Program.Leads.perform_of_done hafter
    cases reply with
    | error e =>
      obtain ⟨rfl, hsent⟩ := Program.Leads.of_done hreply
      cases hsent
      obtain ⟨rfl, rfl⟩ := leads_count hlast
      rw [List.cons_append, List.append_assoc]
      exact .unpublished stamp hbefore e
    | ok id =>
      obtain ⟨⟨⟩, rest, rfl, hcounted⟩ := Program.Leads.perform_of_done hreply
      obtain ⟨rfl, hsent⟩ := Program.Leads.of_done hcounted
      cases hsent
      obtain ⟨rfl, hdone⟩ := Program.Leads.of_done hlast
      cases hdone
      rw [List.append_nil]
      exact .published stamp hbefore id

theorem leads_send (stamp : Stamp) {resolver : Resolver} {rest : List Performed}
    {sent : Except Error String}
    (h : (resolver.topic type.fullName >>= fun topicArn ↦ do
      let id ← Attempt.call (.publish topicArn (sentText type payload overrides stamp))
      Attempt.count (.published type.fullName)
      return id).run.Leads rest (.done sent)) :
    (send type (some resolver) payload overrides).run.Leads (⟨.stamp, stamp⟩ :: rest)
      (.done sent) :=
  .step h

theorem leads_publish_of_error {sent : List Performed} {e : Error}
    (h : (send type resolver payload overrides).run.Leads sent (.done (.error e))) :
    (publish type resolver payload overrides).Leads
      (sent ++ [⟨.count (.publishFailed type.fullName e.kind), ()⟩]) (.done (.error e)) :=
  h.bind (.step (.refl _))

theorem leads_publish_of_ok {sent : List Performed} {id : String}
    (h : (send type resolver payload overrides).run.Leads sent (.done (.ok id))) :
    (publish type resolver payload overrides).Leads sent (.done (.ok id)) := by
  rw [← List.append_nil sent]
  exact h.bind (.refl _)

/-- Every course of a publishing can be taken. -/
theorem Course.leads (h : Course type payload overrides resolver past outcome) :
    (publish type resolver payload overrides).Leads past (.done outcome) := by
  cases h with
  | unresolvable stamp => exact .step (.step (.refl _))
  | unresolved stamp h =>
    exact leads_publish_of_error (leads_send stamp (Attempt.leads_andThen_of_error h))
  | unpublished stamp h e =>
    rw [List.append_cons, ← List.cons_append]
    exact leads_publish_of_error
      (leads_send stamp (Attempt.leads_andThen h (.step (.refl _))))
  | published stamp h id =>
    exact leads_publish_of_ok
      (leads_send stamp (Attempt.leads_andThen h (.step (.step (.refl _)))))

/-- What was done to find a topic is not counted as a publishing. -/
theorem counted_of_topic {resolver : Resolver} {typeName : String} {q : Program _}
    (h : (resolver.topic typeName).run.Leads past q) :
    (counted past).filter Counter.isOfPublishing = [] := by
  refine List.filter_eq_nil_iff.mpr fun c hc hpublishing ↦ ?_
  obtain ⟨⟨effect, result⟩, hmem, hcount⟩ := List.mem_filterMap.mp hc
  have hconcerns := ((resolver.all_topic typeName).of_leads h).1 _ hmem
  cases effect with
  | count c =>
    cases hcount
    exact hconcerns hpublishing
  | call | lookup | await | settle | stamp | policyIds | pause | handle | report => cases hcount

/-- No call that was made to find a topic has published. -/
theorem calls_of_topic {resolver : Resolver} {typeName : String} {q : Program _}
    (h : (resolver.topic typeName).run.Leads past q) :
    (calls past).filter Call.isPublish = [] := by
  refine List.filter_eq_nil_iff.mpr fun c hc hpublish ↦ ?_
  obtain ⟨reply, hmem⟩ := exists_mem_of_mem_calls hc
  have hconcerns := ((resolver.all_topic typeName).of_leads h).1 _ hmem
  cases c with
  | publish topicArn message => exact hconcerns
  | createTopic | setTopicAttributes | subscribe | createQueue | getQueueAttributes
  | setQueueAttributes | receiveMessage | deleteMessage => cases hpublish

/-- A publishing is counted once, by its outcome. -/
theorem Course.counted_eq (h : Course type payload overrides resolver past outcome) :
    (counted past).filter Counter.isOfPublishing = [outcomeCounter type.fullName outcome] := by
  have hcounted {before after : List Performed} {stamp : Stamp} :
      counted (⟨.stamp, stamp⟩ :: (before ++ after)) = counted before ++ counted after :=
    List.filterMap_append
  cases h with
  | unresolvable stamp => rfl
  | unresolved stamp h | unpublished stamp h e | published stamp h id =>
    rw [hcounted, List.filter_append, counted_of_topic h]
    rfl

/-- A publishing that fails leaves every queue as it is. -/
theorem Course.queues_eq {e : Error} {b b' : Broker}
    (h : Course type payload overrides resolver past (.error e)) (hb : b.Undergoes past b') :
    b'.queues = b.queues := by
  cases h with
  | unresolvable stamp => rw [((hb.of_other not_false).of_other not_false).of_nil]
  | unresolved stamp h =>
    obtain ⟨u, hbefore, hlast⟩ := (hb.of_other not_false).of_append
    rw [(hlast.of_other not_false).of_nil]
    exact hbefore.queues_eq ((Resolver.all_topic ..).of_leads h).1
  | unpublished stamp h e =>
    obtain ⟨u, hbefore, hlast⟩ := (hb.of_other not_false).of_append
    obtain ⟨v, rfl, hcounted⟩ := hlast.of_call
    rw [(hcounted.of_other not_false).of_nil]
    exact hbefore.queues_eq ((Resolver.all_topic ..).of_leads h).1

/-- Whether the topic was resolved first, leaving every queue as it is, and the only call to publish
was one for this topic, which the broker answered. -/
def PublishedOnce (type : PayloadType) (payload : Payload) (overrides : MetadataOverrides)
    (resolver : Option Resolver) (past : List Performed) (id : String) (b b' : Broker) : Prop :=
  ∃ (found : Resolver) (stamp : Stamp) (before after : List Performed) (topicArn : String)
      (u : Broker) (m : Moment),
    let text := sentText type payload overrides stamp
    resolver = some found ∧
      past = ⟨.stamp, stamp⟩ ::
        (before ++ ⟨.call (.publish topicArn text), .ok id⟩ :: after) ∧
      (found.topic type.fullName).run.Leads before (.done (.ok topicArn)) ∧
      (calls past).filter Call.isPublish = [.publish topicArn text] ∧
      u.queues = b.queues ∧ u.answer m (.publish topicArn text) = .ok (id, b')

theorem Course.of_ok {id : String} {b b' : Broker}
    (h : Course type payload overrides resolver past (.ok id)) (hb : b.Undergoes past b') :
    PublishedOnce type payload overrides resolver past id b b' := by
  cases h with
  | @published stamp found before topicArn h id =>
    obtain ⟨u, hbefore, hlast⟩ := (hb.of_other not_false).of_append
    obtain ⟨v, ⟨m, hanswer⟩, hlast⟩ := hlast.of_call
    obtain rfl := (hlast.of_other not_false).of_nil
    refine ⟨found, stamp, before, _, topicArn, u, m, rfl, rfl, h, ?_,
      hbefore.queues_eq ((Resolver.all_topic ..).of_leads h).1, hanswer⟩
    have hcalls {after : List Performed} :
        calls (⟨.stamp, stamp⟩ :: (before ++ after)) = calls before ++ calls after :=
      List.filterMap_append
    rw [hcalls, List.filter_append, calls_of_topic h]
    rfl

/-- What publishing comes to on a broker whose calls may fail. Whatever the store knows of the
topic, whoever else is making it, and whichever calls fail: a publishing that fails leaves every
queue as it is, with all its messages. Without a resolver it fails to resolve the topic and makes no
call. One that succeeds has called the broker to publish exactly once, for the topic that was
resolved, and the broker has answered. Of the counters of publishings, exactly one is increased, and
by one: the successes of the payload's type, or its failures of the kind of the error. -/
theorem published_or_unchanged {b b' : Broker}
    (h : (publish type resolver payload overrides).Leads past (.done outcome))
    (hb : b.Undergoes past b') :
    (∀ e, outcome = .error e → b'.queues = b.queues) ∧
      (resolver = none → outcome = .error (noResolver type.fullName) ∧
        (noResolver type.fullName).kind = .resolution ∧ calls past = []) ∧
      (∀ id, outcome = .ok id → PublishedOnce type payload overrides resolver past id b b') ∧
      ∀ (t : Counters) (c : Counter), c.isOfPublishing →
        Table.find? ((counted past).foldl Counters.increase t) c =
          if c = outcomeCounter type.fullName outcome then some ((Table.find? t c).getD 0 + 1)
          else Table.find? t c := by
  have hcourse := course_of_leads h
  refine ⟨?_, ?_, ?_, ?_⟩
  · rintro e rfl
    exact hcourse.queues_eq hb
  · rintro rfl
    cases hcourse with
    | unresolvable stamp => exact ⟨rfl, rfl, rfl⟩
  · rintro id rfl
    exact hcourse.of_ok hb
  · intro t c hc
    have hcount : (counted past).count c = [outcomeCounter type.fullName outcome].count c := by
      rw [← hcourse.counted_eq, List.count_filter hc]
    rw [Counters.find?_foldl_increase, hcount, List.count_singleton]
    by_cases hsame : outcomeCounter type.fullName outcome = c
    · rw [if_pos hsame.symm, if_neg (by simp [hsame]), beq_iff_eq.mpr hsame, if_pos rfl]
    · rw [if_neg (Ne.symm hsame), if_pos (by simp [hsame])]

/-- A broker with a message on a queue, and no topics. -/
def sampleBroker : Broker := { queues := .ofList [("orders", ⟨∅, [.arrived "id" "body" 0]⟩)] }

def payloadTopicArn : String := "arn:aws:sns:eu-west-1:111122223333:sample-v1-Sample"

/-- A publisher that finds its topic by a registry. -/
def samplePublishing : Program (Except Error String) :=
  publish Envelope.sampleType (some (.registry sampleRegistry)) Envelope.samplePayload {}

/-- The topic is created, but its policy cannot be set: nothing is published, and the queue stays as
it is. Where the topic is known, the payload is published once. -/
theorem published_or_unchanged_sample :
    (∃ past e b', samplePublishing.Leads past (.done (.error e)) ∧
      sampleBroker.Undergoes past b' ∧ b'.topics.contains payloadTopicArn ∧
      b'.queues = sampleBroker.queues ∧
      Table.find? ((counted past).foldl Counters.increase ∅)
        (.publishFailed Envelope.sampleType.fullName .resolution) = some 1) ∧
    ∃ past id b', samplePublishing.Leads past (.done (.ok id)) ∧
      (sampleBroker.setTopic payloadTopicArn {}).Undergoes past b' ∧
      PublishedOnce Envelope.sampleType Envelope.samplePayload {}
        (some (.registry sampleRegistry)) past id (sampleBroker.setTopic payloadTopicArn {}) b' ∧
      Table.find? ((counted past).foldl Counters.increase ∅)
        (.published Envelope.sampleType.fullName) = some 1 := by
  obtain ⟨policy, hpolicy⟩ : ∃ policy, Policy.topicAccess "id" "sid" payloadTopicArn = .ok policy :=
    ⟨_, rfl⟩
  let type := Envelope.sampleType
  let key := sampleRegistry.key type.fullName .topic
  let stamp : Stamp := ⟨"id", .epoch⟩
  constructor
  · let e : Error := .transport "SetTopicAttributes" "injected failure"
    let during : List Performed := [⟨.lookup (.own 0) key, .vacant 0⟩,
      ⟨.call (.createTopic (sampleRegistry.naming.topicName type.fullName)), .ok payloadTopicArn⟩,
      ⟨.policyIds, ("id", "sid")⟩,
      ⟨.call (.setTopicAttributes payloadTopicArn Broker.policyAttribute policy), .error e⟩,
      ⟨.settle (.own 0) key 0 (.error e), ()⟩]
    let past : List Performed := ⟨.stamp, stamp⟩ ::
      (during ++ [⟨.count (.publishFailed type.fullName .resolution), ()⟩])
    have hresolves : sampleRegistry.Resolves type.fullName .topic during (.error _) :=
      .topic (.made 0 (.unset hpolicy e))
    have hfailed : ((Resolver.registry sampleRegistry).topic type.fullName).run.Leads during
        (.done (.error _)) := hresolves.leads
    have hleads : samplePublishing.Leads past (.done (.error _)) :=
      Course.leads (.unresolved stamp hfailed)
    have hcreated : sampleBroker.answer ⟨0, .epoch, 0⟩
        (.createTopic (sampleRegistry.naming.topicName type.fullName)) =
          .ok (payloadTopicArn, sampleBroker.setTopic payloadTopicArn {}) := by
      have hname : isResourceName (sampleRegistry.naming.topicName type.fullName) := by
        decide +kernel
      have harn : sampleBroker.topicArnFor (sampleRegistry.naming.topicName type.fullName) =
          payloadTopicArn := by
        decide +kernel
      simp only [Broker.answer, Broker.createTopic, if_pos hname, harn]
      rfl
    have hundergoes : sampleBroker.Undergoes past (sampleBroker.setTopic payloadTopicArn {}) :=
      .other not_false <| .other not_false <| .call ⟨_, hcreated⟩ <| .other not_false <|
        .call rfl <| .other not_false <| .other not_false <| .nil _
    obtain ⟨hqueues, -, -, hcounted⟩ := published_or_unchanged hleads hundergoes
    exact ⟨_, _, _, hleads, hundergoes, Table.contains_insert_self .., hqueues _ rfl,
      (hcounted ∅ _ rfl).trans (if_pos rfl)⟩
  · let b := sampleBroker.setTopic payloadTopicArn {}
    let text := sentText type Envelope.samplePayload {} stamp
    let during : List Performed := [⟨.lookup (.own 0) key, .found payloadTopicArn⟩]
    let past : List Performed := ⟨.stamp, stamp⟩ :: (during ++
      [⟨.call (.publish payloadTopicArn text), .ok ((⟨0, .epoch, 0⟩ : Moment).id 0)⟩,
        ⟨.count (.published type.fullName), ()⟩])
    have hresolves : sampleRegistry.Resolves type.fullName .topic during (.ok payloadTopicArn) :=
      .topic (.found payloadTopicArn)
    have hfound : ((Resolver.registry sampleRegistry).topic type.fullName).run.Leads during
        (.done (.ok payloadTopicArn)) := hresolves.leads
    have hleads : samplePublishing.Leads past (.done (.ok _)) :=
      Course.leads (.published stamp hfound _)
    obtain ⟨b', hanswer⟩ : ∃ b', b.answer ⟨0, .epoch, 0⟩ (.publish payloadTopicArn text) =
        .ok ((⟨0, .epoch, 0⟩ : Moment).id 0, b') := by
      have htopic : b.topics.find? payloadTopicArn = some {} := Table.find?_insert_self ..
      exact ⟨_, by simp only [Broker.answer, Broker.publish, htopic]; rfl⟩
    have hundergoes : b.Undergoes past b' :=
      .other not_false <| .other not_false <| .call ⟨_, hanswer⟩ <| .other not_false <| .nil _
    obtain ⟨-, -, hpublished, hcounted⟩ := published_or_unchanged hleads hundergoes
    exact ⟨_, _, _, hleads, hundergoes, hpublished _ rfl,
      (hcounted ∅ _ rfl).trans (if_pos rfl)⟩

end Publisher

end MessageBus
