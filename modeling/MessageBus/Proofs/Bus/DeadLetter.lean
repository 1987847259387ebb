import MessageBus.Proofs.Bus.Attempts
import MessageBus.Proofs.Bus.Conservation
import MessageBus.Proofs.Bus.Provisioning
import MessageBus.Proofs.Registry
/-!
Bounded attempts and exact dead-lettering, for a queue whose redrive policy stays in force and for a
subscription whose queue was provisioned with one.
-/

set_option autoImplicit false
set_option relaxedAutoImplicit false

namespace MessageBus.Bus

/-- Bounded attempts and exact dead-lettering. Let a message come to a queue, by a publishing, by an
enqueue or by a redrive move, and let anything happen while it is there under a redrive policy that
is in force. Then at most as many receives have returned it as the policy allows, each of them once.
If the next step takes it from the queue, the step either deletes it, or is a pass over the queue
after exactly as many receives as the policy allows, and puts it at the end of the target once, as
a message that has just arrived there, with its identifier and its body. The deliveries of the
message that were begun meanwhile have called handlers at most as often as the policy allows, and so
have, however long they take, those of what these receives returned; of a new message there are no
other deliveries.

A queue that was provisioned as the registry does it has such a policy right after it was set: its
count is the one of the registry and, where clients leave ARN attributes alone, its target is the
error queue. -/
theorem attempts_bounded_and_dead_lettered :
    (∀ {s₀ s t : Bus} {e₀ : Event} {es : List Event} {url target : String} {limit : Nat}
      {x : StoredMessage}, s₀.Reachable → Step s₀ e₀ s → ¬ s₀.broker.Holds url x.id →
      x ∈ s.broker.messages url → RunWithin (Stays url target limit x.id) s es t →
      (receives url x.id es ≤ limit ∧
        (es.flatMap (Event.returned url x.id)).length = receives url x.id es) ∧
      (∀ {e : Event} {u : Bus}, Step t e u → ¬ u.broker.Holds url x.id →
        (∃ receipt, e.deed = .deleted url receipt ∧ ∀ other, ¬ u.broker.Holds other x.id) ∨
          ((∃ messages, e.deed = .returned url messages) ∧ receives url x.id es = limit ∧
            u.broker.IsHeldOnce target x.id x.body ∧
            ∃ front back, u.broker.messages target =
              t.broker.messages target ++ front ++ .arrived x.id x.body t.clock :: back)) ∧
      t.handlings (fun r ↦ r.id = x.id ∧ r ∉ s.inHand) ≤ limit ∧
      (∀ {more : List Event} {u : Bus}, Run t more u →
        u.handlings (· ∈ es.flatMap (Event.returned url x.id)) ≤ limit) ∧
      ((∀ other, ¬ s₀.broker.Holds other x.id) → ∀ r ∈ s.inHand, r.id ≠ x.id)) ∧
    ∀ {identity : BrokerIdentity} {past es : List Event} {s t : Bus} {r : Registry}
      {typeName topicArn url : String}, r.settings.violation? = none →
      Run (start identity) past s →
      Completes s (Provisioning.ensureSubscription topicArn (r.naming.queueName typeName)
        (r.naming.errorQueueName typeName) r.settings.maxReceiveCount).run es t (.ok url) →
      ∃ before u between v after errorArn, es = before ++ between ++ after ∧ Run s before u ∧
        Run u between v ∧ Run v after t ∧
        u.Reports (s.broker.queueUrlFor (r.naming.errorQueueName typeName)) errorArn ∧
        v.broker.redriveAt? url =
          (v.broker.urlByArn.find? errorArn).map (·, r.settings.maxReceiveCount) ∧
        ((∀ e ∈ past ++ es, e.keepsArns) → v.broker.InForce url
          (s.broker.queueUrlFor (r.naming.errorQueueName typeName))
          r.settings.maxReceiveCount) := by
  constructor
  · intro s₀ s t e₀ es url target limit x hs₀ harrives hnew hx hstays
    have hs := harrives.valid hs₀.valid
    have hcount := harrives.receiveCount_eq_zero hs₀.valid hnew hx
    obtain ⟨-, -, -, -, -, hle, hlength⟩ := hstays.receiveCount hs hx hcount
    have hreturned : (es.flatMap (Event.returned url x.id)).length ≤ limit := hlength ▸ hle
    refine ⟨⟨hle, hlength⟩, fun hstep hgone ↦ hstays.leaves hs hx hcount hstep hgone, ?_, ?_,
      fun hunheld ↦ harrives.id_ne_of_new hs₀.valid hx hunheld⟩
    · refine Nat.le_trans ((Run.valid hstays hs).handlings_le ?_) hreturned
      intro r hr hnewly
      obtain ⟨hid, hfresh⟩ := of_decide_eq_true hnewly
      exact (hstays.mem_inHand hs hr hid).resolve_left hfresh
    · intro more u hmore
      have hu := Run.valid hmore (Run.valid hstays hs)
      exact Nat.le_trans (hu.handlings_le fun r _ hr ↦ of_decide_eq_true hr) hreturned
  · intro identity past es s t r typeName topicArn url hsettings hpast h
    have hlimit : r.settings.maxReceiveCount < halfWordBound := by
      rw [RegistrySettings.violation?] at hsettings
      split at hsettings
      · next hrange =>
        have : halfWordBound = 4294967296 := rfl
        omega
      · cases hsettings
    obtain ⟨before, u, between, v, after, errorArn, rfl, hbefore, hbetween, hafter, rfl, hreports,
      hredrive⟩ := h.of_ensureSubscription hlimit
    refine ⟨before, u, between, v, after, errorArn, rfl, hbefore, hbetween, hafter, hreports,
      hredrive, fun hkeeps ↦ inForce_of_reports hpast hbefore hbetween (fun e he ↦ hkeeps e ?_)
        hreports hredrive fun hurl ↦ ?_⟩
    · simp at he ⊢
      tauto
    · exact r.naming.errorQueueName_ne typeName (Broker.queueUrlFor_injective _ hurl)

/-- A bus with a topic. -/
def sampleTopicBus : Bus := ((start {}).answer .epoch (.createTopic "orders")).2

/-- The provisioning of a queue for that topic. -/
def sampleProvisioning : Attempt String :=
  Provisioning.ensureSubscription (sampleTopicBus.broker.topicArnFor "orders")
    (sampleRegistry.naming.queueName "orders") (sampleRegistry.naming.errorQueueName "orders")
    sampleRegistry.settings.maxReceiveCount

/-- A message is put on a queue, received once, and moved by the next receive; a queue is
provisioned and has its policy in force. -/
theorem attempts_bounded_and_dead_lettered_sample :
    (let s := (sampleBus.operate .epoch fun m b ↦ b.enqueue m sampleUrl "text").2
      let t := (s.answer .epoch sampleReceive).2
      let u := (t.answer .epoch sampleReceive).2
      let target := sampleBus.broker.queueUrlFor "failed"
      ∃ x es, x ∈ s.broker.messages sampleUrl ∧ RunWithin (Stays sampleUrl target 1 x.id) s es t ∧
        receives sampleUrl x.id es = 1 ∧ u.broker.IsHeldOnce target x.id x.body) ∧
      ∃ es t v, Completes sampleTopicBus sampleProvisioning.run es t (.ok sampleUrl) ∧
        Broker.InForce v sampleUrl
          (sampleTopicBus.broker.queueUrlFor (sampleRegistry.naming.errorQueueName "orders"))
          5 := by
  constructor
  · intro s t u target
    obtain ⟨hx, hempty, hpolicy, htarget, htaken, hpolicy', hpass, hempty'⟩ :
        .arrived (Uuid.text 3 0) "text" 0 ∈ s.broker.messages sampleUrl ∧
        sampleBus.broker.messages sampleUrl = [] ∧
        s.broker.redriveAt? sampleUrl = some (target, 1) ∧ target ≠ sampleUrl ∧
        .taken (.arrived (Uuid.text 3 0) "text" 0) (Uuid.text 4 0) 0 ∈
          t.broker.messages sampleUrl ∧
        t.broker.redriveAt? sampleUrl = some (target, 1) ∧
        Event.deed (.call sampleReceive (t.answer .epoch sampleReceive).1) =
          .returned sampleUrl [] ∧
        u.broker.messages sampleUrl = [] := by
      decide +kernel
    have hnew : ¬ sampleBus.broker.Holds sampleUrl (Uuid.text 3 0) :=
      fun ⟨_, hy, _⟩ ↦ absurd (hempty ▸ hy) List.not_mem_nil
    have hgone : ¬ u.broker.Holds sampleUrl (Uuid.text 3 0) :=
      fun ⟨_, hy, _⟩ ↦ absurd (hempty' ▸ hy) List.not_mem_nil
    have hs : Stays sampleUrl target 1 (Uuid.text 3 0) s := ⟨⟨hpolicy, htarget⟩, _, hx, rfl⟩
    have ht : Stays sampleUrl target 1 (Uuid.text 3 0) t :=
      ⟨⟨hpolicy', htarget⟩, _, htaken, rfl⟩
    have hrun := (RunWithin.refl hs).step (.call s .epoch sampleReceive) ht
    obtain ⟨-, hleaves, -⟩ := attempts_bounded_and_dead_lettered.1 reachable_sampleBus
      (.enqueue _ _ _ _) hnew hx hrun
    rcases hleaves (.call t .epoch sampleReceive) hgone with
      ⟨receipt, hdeed, -⟩ | ⟨-, hcount, hheld, -⟩
    · exact absurd (hpass.symm.trans hdeed) nofun
    · exact ⟨_, _, hx, hrun, hcount, hheld⟩
  · have hout : let out := carryOut sampleWorld sampleTopicBus sampleProvisioning.run
        out.2.2 = .ok sampleUrl ∧ ∀ e ∈ out.1, e.keepsArns := by
      decide +kernel
    have hcompletes := completes_carryOut sampleWorld sampleTopicBus sampleProvisioning.run
    generalize carryOut sampleWorld sampleTopicBus sampleProvisioning.run = out at hout hcompletes
    obtain ⟨hurl, hkeeps⟩ := hout
    rw [hurl, sampleProvisioning] at hcompletes
    have hpast : Run (start {}) _ sampleTopicBus :=
      (RunWithin.refl trivial).step (.call _ .epoch (.createTopic "orders")) trivial
    obtain ⟨before, u, between, v, after, errorArn, -, -, -, -, -, -, hforce⟩ :=
      attempts_bounded_and_dead_lettered.2 (r := sampleRegistry) rfl hpast hcompletes
    exact ⟨_, _, v.broker, hcompletes, hforce (by simpa [Event.keepsArns, Call.keepsArns])⟩

end MessageBus.Bus
