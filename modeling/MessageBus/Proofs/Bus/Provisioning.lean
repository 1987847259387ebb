import MessageBus.Proofs.Broker.Attributes
import MessageBus.Proofs.Bus.Client
import MessageBus.Proofs.Bus.Directory
import MessageBus.Proofs.Bus.Invariant
import MessageBus.Registry.Basic
/-!
A subscription that has been provisioned. The client that provisions it reads the ARN of the error
queue and then gives the queue a redrive policy with that ARN and the count of the registry
(`Completes.of_ensureSubscription`). Where clients have left ARN attributes alone, this policy is in
force right after it was set, and its target is the error queue (`inForce_of_reports`).
-/

set_option autoImplicit false
set_option relaxedAutoImplicit false

namespace MessageBus

theorem Naming.errorQueueName_ne (naming : Naming) (typeName : String) :
    naming.errorQueueName typeName ≠ naming.queueName typeName := by
  intro h
  have hlength := congrArg String.length h
  rw [errorQueueName, String.length_append] at hlength
  have : errorSuffix.length = 6 := rfl
  omega

namespace Bus

variable {s t u : Bus} {es : List Event}

/-- Whether a queue reports an ARN as its own. -/
def Reports (s : Bus) (url arn : String) : Prop :=
  ∃ attributes, s.broker.queueAttributes? url = some attributes ∧
    attributes.find? Broker.queueArnAttribute = some arn

namespace Completes

/-- Who makes sure of a queue learns its URL, and the ARN that it reports. -/
theorem of_ensureQueue {name url arn : String}
    (h : Completes s (Provisioning.ensureQueue name).run es t (.ok (url, arn))) :
    ∃ before u after, es = before ++ after ∧ Run s before u ∧ Run u after t ∧
      url = s.broker.queueUrlFor name ∧ u.Reports url arn := by
  obtain ⟨before, u, time, made, rest, hbefore, hcreate, rfl, hrest⟩ := h.of_callThen
  obtain ⟨between, v, time', attributes, last, hbetween, hread, rfl, hlast⟩ := hrest.of_callThen
  obtain ⟨b, hcreated, -⟩ := answer_eq_ok hcreate
  obtain ⟨b', hanswered, -⟩ := answer_eq_ok hread
  obtain ⟨all, hall, rfl, -⟩ := Broker.getQueueAttributes_eq hanswered
  have hrun : Run s (before ++ .call (.createQueue name) (.ok made) :: between) v :=
    hbefore.append (.call hcreate hbetween)
  cases hfound : (all.restrict [Broker.queueArnAttribute]).find? Broker.queueArnAttribute with
  | none =>
    rw [hfound] at hlast
    exact absurd hlast.of_done.1 nofun
  | some found =>
    rw [hfound] at hlast
    obtain ⟨_, counted, w, after, rfl, hcounted, hreturned⟩ := hlast.of_andThen
    obtain ⟨hresult, hafter⟩ := hreturned.of_done
    obtain ⟨rfl, rfl⟩ := Prod.mk.inj (Except.ok.inj hresult)
    refine ⟨_, v, _, by simp, hrun, .call hread (hcounted.run.append hafter), ?_, all, hall,
      (Table.find?_restrict all (List.mem_singleton_self _)).symm.trans hfound⟩
    rw [(Broker.createQueue_eq hcreated).1, Broker.queueUrlFor_congr hbefore.keeps.identity]

/-- Who provisions a subscription makes sure of the error queue and of the queue, sets the redrive
policy of the queue with the ARN of the first, and subscribes the ARN of the second. -/
theorem steps_of_ensureSubscription {topicArn queueName errorQueueName url : String} {limit : Nat}
    (hlimit : limit < halfWordBound)
    (h : Completes s
      (Provisioning.ensureSubscription topicArn queueName errorQueueName limit).run es t
      (.ok url)) :
    ∃ first u second v third w fourth errorUrl errorArn arn reply,
      es = first ++ (second ++ (third ++ fourth)) ∧
      Completes s (Provisioning.ensureQueue errorQueueName).run first u (.ok (errorUrl, errorArn)) ∧
      Completes u (Provisioning.ensureQueue queueName).run second v (.ok (url, arn)) ∧
      Run v third w ∧ w.broker.redriveAt? url = (w.broker.urlByArn.find? errorArn).map (·, limit) ∧
      Run w fourth t ∧ .call (.subscribe topicArn Broker.protocol arn) (.ok reply) ∈ fourth := by
  obtain ⟨⟨errorUrl, errorArn⟩, first, u, rest, rfl, herror, hrest⟩ := h.of_andThen
  obtain ⟨⟨url', arn⟩, second, v, more, rfl, hqueue, hmore⟩ := hrest.of_andThen
  obtain ⟨⟨id, sid⟩, third, v₁, last, rfl, hids, hlast⟩ := hmore.of_andThen
  obtain ⟨fourth, v₂, time, ⟨⟩, after, hfourth, hset, rfl, hafter⟩ := hlast.of_callThen
  obtain ⟨fifth, x, time', reply, counting, hfifth, hsubscribe, rfl, hcounting⟩ :=
    hafter.of_callThen
  obtain ⟨_, sixth, y, returning, rfl, hcounted, hreturned⟩ := hcounting.of_andThen
  obtain ⟨hresult, hreturning⟩ := hreturned.of_done
  obtain rfl := Except.ok.inj hresult
  obtain ⟨b, hanswered, hw⟩ := answer_eq_ok hset
  rw [Broker.answer] at hanswered
  have hredrive :=
    Broker.redriveAt?_setQueueAttributes (r := ⟨errorArn, limit⟩) hlimit hanswered rfl
  have hset := (hids.run.append hfourth).append (.call hset (.refl trivial))
  have hreturning := hfifth.append (.call hsubscribe (hcounted.run.append hreturning))
  rw [hw] at hset hreturning
  refine ⟨first, u, second, v, _, _, _, errorUrl, errorArn, arn, reply, ?_, herror, hqueue, hset,
    hredrive, hreturning, by simp⟩
  simp

/-- Who provisions a subscription reads the ARN of the error queue, and then sets the redrive policy
of the queue. -/
theorem of_ensureSubscription {topicArn queueName errorQueueName url : String} {limit : Nat}
    (hlimit : limit < halfWordBound)
    (h : Completes s
      (Provisioning.ensureSubscription topicArn queueName errorQueueName limit).run es t
      (.ok url)) :
    ∃ before u between v after errorArn, es = before ++ between ++ after ∧ Run s before u ∧
      Run u between v ∧ Run v after t ∧ url = s.broker.queueUrlFor queueName ∧
      u.Reports (s.broker.queueUrlFor errorQueueName) errorArn ∧
      v.broker.redriveAt? url = (v.broker.urlByArn.find? errorArn).map (·, limit) := by
  obtain ⟨_, s₁, second, s₂, third, v, after, _, errorArn, _, _, rfl, herror, hqueue, hthird,
    hredrive, hafter, -⟩ := h.steps_of_ensureSubscription hlimit
  obtain ⟨before, u, between, rfl, hbefore, hbetween, rfl, hreports⟩ := herror.of_ensureQueue
  obtain ⟨_, _, _, _, _, _, rfl, -⟩ := hqueue.of_ensureQueue
  refine ⟨before, u, between ++ (second ++ third), v, after, errorArn, by simp, hbefore,
    hbetween.append (hqueue.run.append hthird), hafter, ?_, hreports, hredrive⟩
  exact Broker.queueUrlFor_congr (hbefore.append hbetween).keeps.identity queueName

end Completes

/-- A redrive policy with the ARN that the error queue reported is in force, with the error queue as
its target. -/
theorem inForce_of_reports {identity : BrokerIdentity} {past before between : List Event} {v : Bus}
    (hpast : Run (start identity) past s) (hbefore : Run s before u) (hbetween : Run u between v)
    (hkeeps : ∀ e ∈ past ++ (before ++ between), e.keepsArns) {name url arn : String} {limit : Nat}
    (hreports : u.Reports (s.broker.queueUrlFor name) arn)
    (hredrive : v.broker.redriveAt? url = (v.broker.urlByArn.find? arn).map (·, limit))
    (hne : s.broker.queueUrlFor name ≠ url) :
    v.broker.InForce url (s.broker.queueUrlFor name) limit := by
  have hidentity : u.broker.identity = s.broker.identity := hbefore.keeps.identity
  have hsame : v.broker.identity = u.broker.identity := hbetween.keeps.identity
  have hnamed {w : Bus} {es : List Event} (hw : Run (start identity) es w)
      (hes : ∀ e ∈ es, e.keepsArns) : w.broker.IsNamed :=
    hw.keeps.isNamed hes (Broker.isNamed_start identity)
  have hu := hnamed (hpast.append hbefore) fun e he ↦ hkeeps e (by simp at he ⊢; tauto)
  have hv := hnamed (hpast.append (hbefore.append hbetween)) hkeeps
  obtain ⟨attributes, hattributes, harn⟩ := hreports
  rw [← Broker.queueUrlFor_congr hidentity] at hattributes
  obtain rfl := Option.some.inj (harn.symm.trans (hu.reported hattributes))
  have hcontains : v.broker.queues.contains (u.broker.queueUrlFor name) := by
    apply hbetween.keeps.contains
    have hsome := congrArg Option.isSome hattributes
    rwa [Broker.queueAttributes?, Option.isSome_map] at hsome
  obtain ⟨queue, hqueue⟩ := Broker.exists_queue_of_contains hcontains
  rw [← Broker.queueUrlFor_congr hsame] at hqueue
  have hfound := hv.found (Broker.queueAttributes?_of_find? hqueue)
  rw [Broker.queueArnFor_congr hsame, Broker.queueUrlFor_congr hsame,
    Broker.queueUrlFor_congr hidentity] at hfound
  refine ⟨?_, hne⟩
  rw [hredrive, hfound, Option.map_some]

end Bus

end MessageBus
