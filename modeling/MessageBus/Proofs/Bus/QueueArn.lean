import MessageBus.Proofs.Bus.Consistency
import MessageBus.Proofs.Bus.Provisioning
import MessageBus.Proofs.Provisioning.Completion
/-!
The ARN that a queue reports. A new queue has the ARN of its name among its attributes, and a client
that sets attributes may replace it, so a queue reports the ARN that it was given last
(`Run.reportsArn`). Publishing and redrive policies find it by the ARN of its name all the same.

What provisioning reads back from a queue therefore leads to this queue exactly if nobody has given
it another ARN (`reported_arn`). Where it was given the ARN of another queue, that queue is found
instead (`foreign_arn_reported`).
-/

set_option autoImplicit false
set_option relaxedAutoImplicit false

namespace MessageBus

/-- The ARN that a call has given to a queue, by the reply to it. -/
def Call.arnGiven? (url : String) : (c : Call) → Except Error c.Reply → Option String
  | .setQueueAttributes queueUrl attributes, .ok _ =>
    if queueUrl = url then attributes.latest? Broker.queueArnAttribute else none
  | _, _ => none

namespace Broker

variable {b b' : Broker} {m : Moment} {name url arn : String} {given : Option String}

theorem contains_of_reported? (h : b.reported? url = some arn) : b.queues.contains url := by
  obtain ⟨attributes, hattributes, -⟩ := Option.bind_eq_some_iff.mp h
  obtain ⟨queue, hqueue, -⟩ := Option.map_eq_some_iff.mp hattributes
  exact Table.contains_of_find? hqueue

theorem reported?_setQueueAttributes {attributes : Table String String}
    (hset : b.setQueueAttributes url attributes = .ok ((), b')) (other : String) :
    b'.reported? other =
      ((Call.setQueueAttributes url attributes).arnGiven? other (.ok ())).or
        (b.reported? other) := by
  rw [Call.arnGiven?]
  split
  · next hurl =>
    obtain ⟨old, hold, new, hnew, hfind⟩ := find?_setQueueAttributes hset
    rw [← hurl, reported?, reported?, hold, hnew, Option.bind_some, Option.bind_some, hfind]
  · next hurl =>
    obtain ⟨-, queue, -, rfl⟩ := setQueueAttributes_eq hset
    rw [reported?, queueAttributes?_setQueue, if_neg hurl, Option.none_or, reported?]

/-- Whether a queue that is there reports the ARN that it was given, or else the one of its name. A
queue that was given an ARN is there. -/
structure ReportsArn (b : Broker) (name : String) (given : Option String) : Prop where
  reported : b.queues.contains (b.queueUrlFor name) →
    b.reported? (b.queueUrlFor name) = some (given.getD (b.queueArnFor name))
  contains : given.isSome → b.queues.contains (b.queueUrlFor name)

namespace ReportsArn

theorem of_sameDirectory (h : b.ReportsArn name given) (hsame : SameDirectory b b') :
    b'.ReportsArn name given := by
  have hurl := queueUrlFor_congr hsame.identity name
  constructor
  · rw [hurl, hsame.contains_eq, reported?, hsame.attributes, queueArnFor_congr hsame.identity]
    exact h.reported
  · rw [hurl, hsame.contains_eq]
    exact h.contains

theorem createQueue (h : b.ReportsArn name given) {other : String}
    (hcreate : b.createQueue other = .ok (url, b')) : b'.ReportsArn name given := by
  obtain ⟨rfl, ⟨-, rfl⟩ | ⟨hnew, rfl⟩⟩ := createQueue_eq hcreate
  · exact h
  refine ⟨fun hcontains ↦ ?_, fun hgiven ↦ contains_setQueue _ (h.contains hgiven)⟩
  change ((b.setQueue _ _).queueAttributes? (b.queueUrlFor name)).bind _ = _
  rw [queueAttributes?_setQueue]
  split
  · next hurl =>
    obtain rfl := queueUrlFor_injective b hurl
    cases given with
    | none => rfl
    | some arn =>
      have hcontains := h.contains rfl
      rw [Table.contains, hnew] at hcontains
      cases hcontains
  · next hurl => exact h.reported ((contains_setQueue_iff.mp hcontains).resolve_left hurl)

theorem setQueueAttributes (h : b.ReportsArn name given) {attributes : Table String String}
    (hset : b.setQueueAttributes url attributes = .ok ((), b')) :
    b'.ReportsArn name (((Call.setQueueAttributes url attributes).arnGiven? (b.queueUrlFor name)
      (.ok ())).or given) := by
  have hkeeps := keeps_setQueueAttributes hset
  have hreported := reported?_setQueueAttributes hset (b.queueUrlFor name)
  rw [← queueUrlFor_congr hkeeps.identity] at hreported ⊢
  constructor
  · intro hcontains
    obtain ⟨-, queue, hqueue, rfl⟩ := setQueueAttributes_eq hset
    rw [contains_setQueue_of_find? hqueue] at hcontains
    rw [hreported]
    cases (Call.setQueueAttributes url attributes).arnGiven? _ (.ok ()) with
    | none => exact h.reported hcontains
    | some arn => rfl
  · intro hgiven
    cases harn : (Call.setQueueAttributes url attributes).arnGiven? (b'.queueUrlFor name) (.ok ())
      with
    | none =>
      rw [harn, Option.none_or] at hgiven
      rw [queueUrlFor_congr hkeeps.identity]
      exact hkeeps.contains (h.contains hgiven)
    | some arn =>
      rw [harn, Option.some_or] at hreported
      exact contains_of_reported? hreported

theorem answer (h : b.ReportsArn name given) (c : Call) {reply : c.Reply}
    (hanswer : b.answer m c = .ok (reply, b')) :
    b'.ReportsArn name ((c.arnGiven? (b.queueUrlFor name) (.ok reply)).or given) := by
  by_cases hset : ∃ url attributes, c = .setQueueAttributes url attributes
  · obtain ⟨url, attributes, rfl⟩ := hset
    exact h.setQueueAttributes hanswer
  · have hnone : c.arnGiven? (b.queueUrlFor name) (.ok reply) = none := by
      unfold Call.arnGiven?
      split
      · exact absurd ⟨_, _, rfl⟩ hset
      · rfl
    rw [hnone, Option.none_or]
    obtain hsame | ⟨other, rfl, url, hcreate⟩ | ⟨url, attributes, rfl, -⟩ :=
      directory_answer c hanswer
    · exact h.of_sameDirectory hsame
    · exact h.createQueue hcreate
    · exact absurd ⟨_, _, rfl⟩ hset

end ReportsArn

end Broker

namespace Bus

variable {s t : Bus} {e : Event} {es : List Event} {identity : BrokerIdentity} {name url : String}

/-- The ARN that an event has given to a queue. -/
def Event.arnGiven? (url : String) (e : Event) : Option String :=
  e.call?.bind fun ⟨c, reply⟩ ↦ c.arnGiven? url reply

/-- The ARN that a queue was given last. -/
def lastArn? (url : String) (es : List Event) : Option String :=
  (es.filterMap (Event.arnGiven? url)).getLast?

/-- The ARN that a queue reports after a run: the one that it was given last, or else the one of its
name. -/
def reportedArn (b : Broker) (name : String) (es : List Event) : String :=
  (lastArn? (b.queueUrlFor name) es).getD (b.queueArnFor name)

theorem lastArn?_append_singleton (url : String) (es : List Event) (e : Event) :
    lastArn? url (es ++ [e]) = (e.arnGiven? url).or (lastArn? url es) := by
  rw [lastArn?, List.filterMap_append, List.getLast?_append]
  cases h : e.arnGiven? url <;> simp [h, lastArn?]

theorem Step.reportsArn (h : Step s e t) {given : Option String}
    (hs : s.broker.ReportsArn name given) :
    t.broker.ReportsArn name ((e.arnGiven? (s.broker.queueUrlFor name)).or given) := by
  obtain ⟨time, c, hcall, hbroker⟩ | ⟨hcall, hsame⟩ := h.directory
  · rw [hbroker, Event.arnGiven?, hcall, Option.bind_some]
    obtain ⟨reply, hreply, hanswer⟩ | ⟨error, herror, hsame⟩ := s.answer_cases time c
    · rw [hreply]
      exact hs.answer c hanswer
    · rw [herror, hsame]
      cases c <;> exact hs
  · rw [Event.arnGiven?, hcall, Option.bind_none, Option.none_or]
    exact hs.of_sameDirectory hsame

/-- A queue reports the ARN that it was given last. -/
theorem Run.reportsArn (h : Run (start identity) es s) (name : String) :
    s.broker.ReportsArn name (lastArn? (s.broker.queueUrlFor name) es) := by
  generalize hs : start identity = s at h
  induction h with
  | refl =>
    subst hs
    exact ⟨nofun, nofun⟩
  | step hrun hstep _ ih =>
    rw [lastArn?_append_singleton, Broker.queueUrlFor_congr hstep.keeps.identity]
    exact hstep.reportsArn ih

/-- Who asks a queue for its ARN is told the one that it reports. -/
theorem answer_getQueueAttributes {arn : String} (h : s.broker.reported? url = some arn)
    (time : Instant) : ∃ attributes,
      (s.answer time (.getQueueAttributes url [Broker.queueArnAttribute])).1 = .ok attributes ∧
        attributes.find? Broker.queueArnAttribute = some arn := by
  obtain ⟨attributes, hattributes, harn⟩ := Option.bind_eq_some_iff.mp h
  obtain ⟨queue, hqueue, rfl⟩ := Option.map_eq_some_iff.mp hattributes
  refine ⟨queue.attributes.restrict [Broker.queueArnAttribute], ?_, ?_⟩
  · rw [answer, operate, Broker.answer, Broker.getQueueAttributes, hqueue]
  · rw [Table.find?_restrict _ (List.mem_singleton_self _), harn]

theorem Run.reported? (h : Run (start identity) es s)
    (hqueue : s.broker.queues.contains (s.broker.queueUrlFor name)) :
    s.broker.reported? (s.broker.queueUrlFor name) = some (reportedArn s.broker name es) :=
  (h.reportsArn name).reported hqueue

theorem reportedArn_congr {b b' : Broker} (h : b'.identity = b.identity) (name : String)
    (es : List Event) : reportedArn b' name es = reportedArn b name es := by
  rw [reportedArn, reportedArn, Broker.queueUrlFor_congr h, Broker.queueArnFor_congr h]

/-- The ARN that provisioning reads back is the one that the queue was given last before. -/
theorem Completes.reported_of_ensureQueue {past : List Event} {arn : String}
    (hpast : Run (start identity) past s)
    (h : Completes s (Provisioning.ensureQueue name).run es t (.ok (url, arn))) :
    url = s.broker.queueUrlFor name ∧
      ∃ before, before <+: es ∧ arn = reportedArn s.broker name (past ++ before) := by
  obtain ⟨before, u, after, rfl, hbefore, -, rfl, attributes, hattributes, harn⟩ := h.of_ensureQueue
  have hidentity := hbefore.keeps.identity
  rw [← Broker.queueUrlFor_congr hidentity] at hattributes
  have hreported : u.broker.reported? (u.broker.queueUrlFor name) = some arn := by
    rw [Broker.reported?, hattributes, Option.bind_some, harn]
  refine ⟨rfl, before, List.prefix_append .., ?_⟩
  rw [← reportedArn_congr hidentity]
  have hqueue := Broker.contains_of_reported? hreported
  exact Option.some.inj (hreported.symm.trans ((hpast.append hbefore).reported? hqueue))

/-- What a queue reports as its ARN, on every bus that can come to be: the ARN that it was given
last, and where it was given none the one of its name. Publishing and redrive policies find the
queue by the ARN of its name and by no other, so what the queue reports leads to it exactly if it
was not given another ARN last.

Who provisions a subscription subscribes what the queue reported before, and points the redrive
policy to what the error queue reported before. -/
theorem reported_arn (identity : BrokerIdentity) (hrun : Run (start identity) es s) :
    (∀ url, s.broker.queues.contains url → ∃ name, isResourceName name ∧
      url = s.broker.queueUrlFor name ∧
      (∀ time, ∃ attributes,
        (s.answer time (.getQueueAttributes url [Broker.queueArnAttribute])).1 = .ok attributes ∧
          attributes.find? Broker.queueArnAttribute = some (reportedArn s.broker name es)) ∧
      (∀ arn, s.broker.urlByArn.find? arn = some url ↔ arn = s.broker.queueArnFor name) ∧
      (s.broker.urlByArn.find? (reportedArn s.broker name es) = some url ↔
        ∀ arn, lastArn? url es = some arn → arn = s.broker.queueArnFor name)) ∧
    ∀ topicArn queueName errorQueueName url limit more t, limit < halfWordBound →
      Completes s (Provisioning.ensureSubscription topicArn queueName errorQueueName limit).run
        more t (.ok url) →
      url = s.broker.queueUrlFor queueName ∧ ∃ first second third u reply, first <+: more ∧
        second <+: more ∧ third <+: more ∧ Run s third u ∧
        u.broker.redriveAt? url =
          (u.broker.urlByArn.find? (reportedArn s.broker errorQueueName (es ++ first))).map
            (·, limit) ∧
        .call (.subscribe topicArn Broker.protocol
          (reportedArn s.broker queueName (es ++ second))) (.ok reply) ∈ more := by
  have hs : s.Reachable := ⟨identity, es, hrun⟩
  constructor
  · intro url hurl
    obtain ⟨name, hname, rfl⟩ := hs.isIndexed.named hurl
    have hfound := hs.isIndexed.found_iff_of_contains hurl
    refine ⟨name, hname, rfl, answer_getQueueAttributes (hrun.reported? hurl), hfound, ?_⟩
    rw [hfound, reportedArn]
    cases lastArn? (s.broker.queueUrlFor name) es with
    | none => simp
    | some arn => simp
  · intro topicArn queueName errorQueueName url limit more t hlimit h
    obtain ⟨first, v, second, w, third, u, fourth, errorUrl, errorArn, arn, reply, rfl, herror,
      hqueue, hthird, hredrive, -, hsubscribe⟩ := h.steps_of_ensureSubscription hlimit
    obtain ⟨-, before, hbefore, rfl⟩ := herror.reported_of_ensureQueue hrun
    obtain ⟨rfl, between, hbetween, rfl⟩ :=
      hqueue.reported_of_ensureQueue (hrun.append herror.run)
    have hidentity := herror.run.identity
    rw [reportedArn_congr hidentity, List.append_assoc] at hsubscribe
    refine ⟨Broker.queueUrlFor_congr hidentity _, before, first ++ between,
      first ++ (second ++ third), u, reply, hbefore.trans (List.prefix_append ..), ?_, ?_,
      herror.run.append (hqueue.run.append hthird), hredrive, by simp [hsubscribe]⟩
    · rw [List.prefix_append_right_inj]
      exact hbetween.trans (List.prefix_append ..)
    · simp

/-- A bus with a topic and two queues, one of which was given the ARN of the other. -/
def sampleMisnamedBus : Bus :=
  let s := ((start {}).answer .epoch (.createTopic "orders")).2
  let s := (s.answer .epoch (.createQueue "audit")).2
  let s := (s.answer .epoch (.createQueue "orders")).2
  (s.answer .epoch (.setQueueAttributes sampleUrl
    (.ofList [(Broker.queueArnAttribute, s.broker.queueArnFor "audit")]))).2

/-- The provisioning of a subscription of this queue to the topic. -/
def sampleMisnamedProvisioning : Attempt String :=
  Provisioning.ensureSubscription "arn:aws:sns:eu-west-1:111122223333:orders" "orders" "failed" 5

/-- A queue that was given the ARN of another one reports it, and the other one is found by it. -/
theorem foreign_arn_reported :
    sampleMisnamedBus.Reachable ∧ sampleMisnamedBus.broker.queues.contains sampleUrl ∧
      ∃ attributes arn other,
        (sampleMisnamedBus.answer .epoch
          (.getQueueAttributes sampleUrl [Broker.queueArnAttribute])).1 = .ok attributes ∧
        attributes.find? Broker.queueArnAttribute = some arn ∧
        sampleMisnamedBus.broker.urlByArn.find? arn = some other ∧ other ≠ sampleUrl := by
  have hreached : sampleMisnamedBus.Reachable :=
    ((((reachable_start {}).step (.call _ _ _)).step (.call _ _ _)).step (.call _ _ _)).step
      (.call _ _ _)
  obtain ⟨hqueue, hreported, hfound, hne⟩ :
      sampleMisnamedBus.broker.queues.contains sampleUrl ∧
      sampleMisnamedBus.broker.reported? sampleUrl =
        some (sampleMisnamedBus.broker.queueArnFor "audit") ∧
      sampleMisnamedBus.broker.urlByArn.find? (sampleMisnamedBus.broker.queueArnFor "audit") =
        some (sampleMisnamedBus.broker.queueUrlFor "audit") ∧
      sampleMisnamedBus.broker.queueUrlFor "audit" ≠ sampleUrl := by
    decide +kernel
  obtain ⟨attributes, hread, harn⟩ := answer_getQueueAttributes hreported .epoch
  exact ⟨hreached, hqueue, attributes, _, _, hread, harn, hfound, hne⟩

/-- On this bus, provisioning subscribes what the misnamed queue reports. -/
theorem reported_arn_sample :
    ∃ es, Run (start {}) es sampleMisnamedBus ∧
      sampleMisnamedBus.broker.urlByArn.find?
        (reportedArn sampleMisnamedBus.broker "orders" es) ≠ some sampleUrl ∧
      ∃ (more second : List Event) (t : Bus) (reply : String),
        Completes sampleMisnamedBus sampleMisnamedProvisioning.run more t (.ok sampleUrl) ∧
        second <+: more ∧
        .call (.subscribe "arn:aws:sns:eu-west-1:111122223333:orders" Broker.protocol
          (reportedArn sampleMisnamedBus.broker "orders" (es ++ second))) (.ok reply) ∈ more := by
  have hrun : Run (start {}) _ sampleMisnamedBus :=
    ((((RunWithin.refl trivial).step (.call _ .epoch (.createTopic "orders")) trivial).step
      (.call _ .epoch (.createQueue "audit")) trivial).step
      (.call _ .epoch (.createQueue "orders")) trivial).step (.call _ .epoch _) trivial
  obtain ⟨hqueue, hurl⟩ : sampleMisnamedBus.broker.queues.contains sampleUrl ∧
      sampleUrl = sampleMisnamedBus.broker.queueUrlFor "orders" := by
    decide +kernel
  obtain ⟨hqueues, hprovisioned⟩ := reported_arn {} hrun
  refine ⟨_, hrun, ?_, ?_⟩
  · obtain ⟨name, -, hname, -, -, hleads⟩ := hqueues _ hqueue
    obtain rfl := Broker.queueUrlFor_injective _ (hurl.symm.trans hname)
    intro hfound
    have hown := hleads.mp hfound (sampleMisnamedBus.broker.queueArnFor "audit") (by decide +kernel)
    revert hown
    decide +kernel
  · have hresult : (carryOut sampleWorld sampleMisnamedBus sampleMisnamedProvisioning.run).2.2 =
        .ok sampleUrl := by
      decide +kernel
    have hcompletes :=
      completes_carryOut sampleWorld sampleMisnamedBus sampleMisnamedProvisioning.run
    rw [hresult] at hcompletes
    obtain ⟨-, -, second, -, -, reply, -, hprefix, -, -, -, hsubscribed⟩ :=
      hprovisioned _ _ _ _ _ _ _ (by decide) hcompletes
    exact ⟨_, second, _, reply, hcompletes, hprefix, hsubscribed⟩

end Bus

end MessageBus
