import MessageBus.Proofs.Registry
import MessageBus.Proofs.Session.Trace
import MessageBus.Proofs.Subscriber.Outcome
/-!
How a subscription ends. It returns an error only if it finds no queue, and then it has done nothing
but look for one (`Refused`). Or it returns because it was cancelled, and then every delivery has
come to its end, and the deletion of every message whose handler succeeded has been answered
(`Drained`). Either way nothing happens after it has returned (`drained_at_return`).
-/

set_option autoImplicit false
set_option relaxedAutoImplicit false

namespace MessageBus.Session

variable {c : Setup} {s t : Session c} {e : Event} {es : List Event} {result : Except Error Unit}

theorem Step.of_returned (h : Step s e t) (hs : s.Sound) (hlife : s.life = .returned result) :
    e = .cancelled ∧ t.life = .returned result := by
  obtain ⟨hduty, hdispatches⟩ := hs.of_returned hlife
  cases h with
  | cancel => exact ⟨rfl, hlife⟩
  | report hperform r => exact absurd (hperform.symm.trans hduty) nofun
  | perform hd hrest r =>
    exact absurd (hrest.symm.trans (hdispatches _ (List.mem_of_getElem? hd))) nofun
  | resolve hother | refuse hother | begin hother | breakDown hother
  | finish _ _ _ hother => exact absurd (hother.symm.trans hlife) nofun
  | skip hready | ask hready | receive hready | receiveFailed hready | dispatch hready
  | stop hready | leave hready => exact absurd (hready.life.symm.trans hlife) nofun

theorem Run.of_returned (h : Run s es t) (hs : s.Sound) (hlife : s.life = .returned result) :
    (∀ e ∈ es, e = .cancelled) ∧ t.life = .returned result := by
  induction h with
  | refl => exact ⟨List.forall_mem_nil _, hlife⟩
  | step hrun hstep ih =>
    obtain ⟨hes, hbefore⟩ := ih
    obtain ⟨he, hafter⟩ := hstep.of_returned (hrun.sound hs) hbefore
    exact ⟨List.forall_mem_append.mpr ⟨hes, List.forall_mem_singleton.mpr he⟩, hafter⟩

theorem mem_resolved_of_mem {p : Performed} (h : .resolved p ∈ es) : p ∈ resolved es :=
  List.mem_filterMap.mpr ⟨_, h, rfl⟩

/-- What finding the queue has come to. -/
theorem Setup.of_queueUrl {past : List Performed} {error : Error}
    (h : c.queueUrl.run.Leads past (.done (.error error))) :
    (c.resolver = none ∧ error = Subscriber.noResolver c.type.fullName) ∨
      ∃ resolver, c.resolver = some resolver ∧ resolver.run.Leads past (.done (.error error)) := by
  rw [Setup.queueUrl] at h
  cases hresolver : c.resolver with
  | none =>
    rw [hresolver] at h
    exact .inl ⟨rfl, (Except.error.inj (Program.done.inj h.of_done.2))⟩
  | some resolver =>
    rw [hresolver] at h
    exact .inr ⟨resolver, rfl, h⟩

/-- Whether a session has found no queue, and has done nothing but look for one. -/
structure Refused (c : Setup) (es : List Event) (error : Error) : Prop where
  unresolved : (c.resolver = none ∧ error = Subscriber.noResolver c.type.fullName) ∨
    ∃ resolver, c.resolver = some resolver ∧
      resolver.run.Leads (resolved es) (.done (.error error))
  preparing : ∀ e ∈ es, e.IsPreparation
  /-- To look for a queue is not to consume messages. -/
  unconsumed : ∀ subscriber, c = .ofSubscriber subscriber c.type →
    ∀ p, .resolved p ∈ es → ¬ p.effect.Consumes

/-- Whether a session was cancelled, and the deliveries of all messages that it handed out have come
to their ends. -/
structure Drained (es : List Event) (s : Session c) : Prop where
  cancelled : .cancelled ∈ es
  messages : s.dispatches.map (·.message) = handedOut es
  ended : ∀ d ∈ s.dispatches, d.rest = .done () ∧ d.finished
  deleted : ∀ {j payload metadata}, .performed j ⟨.handle payload metadata, .success⟩ ∈ es →
    ∃ d reply, s.dispatches[j]? = some d ∧
      .performed j ⟨.call (.deleteMessage d.queueUrl d.message.receipt), reply⟩ ∈ es

theorem Run.refused (h : Run (start c) es s) {error : Error}
    (hlife : s.life = .resolving (.done (.error error))) : Refused c es error := by
  obtain ⟨hleads, hes⟩ := h.of_resolving hlife
  refine ⟨Setup.of_queueUrl hleads, hes, ?_⟩
  intro subscriber hc p hp
  rw [hc, queueUrl_ofSubscriber] at hleads
  exact ((subscriber.all_queueUrl _).of_leads hleads).1 p (mem_resolved_of_mem hp)

/-- A session in which no delivery is left has dealt with every message that it handed out. -/
theorem Run.drained (h : Run (start c) es s) (hcancelled : s.cancelled) (hnone : s.inFlight = 0) :
    Drained es s := by
  have hs := h.sound (sound_start c)
  have hended : ∀ d ∈ s.dispatches, d.rest = .done () ∧ d.finished := by
    intro d hd
    have hfinished := finished_of_inFlight hnone hd
    exact ⟨hs.finished d hd hfinished, hfinished⟩
  refine ⟨h.mem_of_cancelled hcancelled, h.traced.messages, hended, ?_⟩
  intro j payload metadata hhandled
  have hdone := mem_doneBy.mpr hhandled
  have hj : j < s.dispatches.length :=
    h.traced.begun (j, _) (List.mem_filterMap.mpr ⟨_, hhandled, rfl⟩)
  have hd : s.dispatches[j]? = some s.dispatches[j] := List.getElem?_eq_getElem hj
  have hpast := h.traced.past hd
  obtain ⟨reply, hdeletion⟩ := Delivery.exists_deletion
    ((hended _ (List.getElem_mem hj)).1 ▸ s.dispatches[j].led) ⟨payload, metadata, hpast ▸ hdone⟩
  exact ⟨_, reply, hd, mem_doneBy.mp (hpast ▸ hdeletion)⟩

/-- Startup and drain. A subscription returns an error only if there is no resolver or the resolver
fails, and then it has neither received nor handled nor deleted a message. Otherwise it returns with
success, and only after it was cancelled; then every delivery that it began has come to its end, and
the deletion of every message whose handler succeeded has been answered. After it has returned
nothing happens but that it may be cancelled. -/
theorem drained_at_return (h : Run (start c) es s) (hreturn : Step s (.returned result) t) :
    ((∃ error, result = .error error ∧ Refused c es error) ∨ (result = .ok () ∧ Drained es t)) ∧
      ∀ {more u}, Run t more u → ∀ e ∈ more, e = .cancelled := by
  have hs := h.sound (sound_start c)
  refine ⟨?_, ?_⟩
  · cases hreturn with
    | refuse hlife => exact .inl ⟨_, rfl, h.refused hlife⟩
    | leave hready hp =>
      obtain ⟨hdraining, hnone, -⟩ := Polling.drained_eq hp
      have hl := hs.loop hready.life
      have hdrained := h.drained (hl.draining hdraining) (hl.running.symm.trans hnone)
      exact .inr ⟨rfl, ⟨hdrained.cancelled, hdrained.messages, hdrained.ended, hdrained.deleted⟩⟩
  · intro more u hmore
    have ht : t.life = .returned result := by cases hreturn <;> rfl
    exact (hmore.of_returned (hreturn.sound hs) ht).1

/-- A subscription without a resolver is refused. One that has a queue hands a message out and is
cancelled; then the message is handled and deleted, and the subscription returns. -/
theorem drained_at_return_sample :
    let refused : Setup := { sampleSetup with resolver := none }
    let error := Subscriber.noResolver "sample.v1.Sample"
    ∃ (u : Session refused) (es : List Event) (t : Session sampleSetup) (m : Received)
      (metadata : Metadata),
      Step (start refused) (.returned (.error error)) u ∧ Refused refused [] error ∧
      Run (start sampleSetup) (es ++ [.returned (.ok ())]) t ∧ Drained es t ∧
      handedOut es = [m] ∧
      .performed 0 ⟨.handle Envelope.samplePayload metadata, .success⟩ ∈ es ∧
      .performed 0 ⟨.call (.deleteMessage "samples" m.receipt), .ok ()⟩ ∈ es := by
  intro refused error
  have hrefuse : Step (start refused) (.returned (.error error)) _ := .refuse rfl
  obtain ⟨m, metadata, hbody⟩ : ∃ (m : Received) (metadata : Metadata),
      Envelope.ofBody Envelope.sampleType [] m.body = .ok ⟨Envelope.samplePayload, metadata⟩ :=
    ⟨⟨"first", Envelope.sampleBody, "receipt"⟩, Envelope.ofBody_sampleBody⟩
  let polling : Polling := { settings := { maxInFlight := 2 }, queueUrl := "samples", due := 1000 }
  let session (cancelled : Bool) (p : Polling) (ds : List (Dispatch sampleSetup.type)) :
    Session sampleSetup := ⟨cancelled, .polling ⟨p, none⟩, .done (), ds⟩
  let begun : Dispatch sampleSetup.type := .start [] "samples" m
  have hpolling : Run (start sampleSetup) [.silent] (session false { polling with due := 0 } []) :=
    (Run.refl _).step (.begin rfl 0 rfl)
  have hreceived : Run (start sampleSetup)
      [.silent, .asked sampleRequest, .replied sampleRequest (.ok [m])]
      (session false { polling with phase := .dispatching [m] } []) :=
    (hpolling.step (.ask ⟨rfl, rfl⟩ 0 rfl)).step (.receive ⟨rfl, rfl⟩ rfl rfl)
  have hcancelled := (hreceived.step (.dispatch ⟨rfl, rfl⟩ rfl [])).step (.cancel _)
  have hstopped := hcancelled.step
    (u := session true { polling with phase := .draining, running := 1 } [begun])
    (.stop ⟨rfl, rfl⟩ rfl rfl)
  obtain ⟨d, hrest, hopen, hdelivered⟩ := hstopped.deliver (j := 0) (d := begun) rfl
    (Delivery.Course.acknowledged hbody).leads
  have hfinished := hdelivered.step (.finish (j := 0) rfl hrest hopen rfl rfl)
  obtain ⟨⟨_, ⟨⟩, hrefused⟩ | ⟨hok, -⟩, -⟩ := drained_at_return (.refl (start refused)) hrefuse
  · obtain ⟨⟨_, herror, -⟩ | ⟨-, hdrained⟩, -⟩ :=
      drained_at_return hfinished (.leave ⟨rfl, rfl⟩ rfl)
    · contradiction
    · refine ⟨_, _, _, m, metadata, hrefuse, hrefused,
        hfinished.step (.leave ⟨rfl, rfl⟩ rfl), hdrained, rfl, ?_, ?_⟩
      · simp [Delivery.handling]
      · simp [Delivery.handling]
  · contradiction

end MessageBus.Session
