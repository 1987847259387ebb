import MessageBus.Proofs.Bus.Client
import MessageBus.Proofs.Bus.Invariant
import MessageBus.Proofs.Envelope.Body
import MessageBus.Publisher
/-!
What is published is what is handled. A publishing that succeeds has put a copy of the notification
on every queue that is subscribed to the topic (`messages_of_publish`). The body of a message does
not change while it is received or moved (`Run.carries`), and so every delivery of the message
handles the payload and the metadata that were sealed.
-/

set_option autoImplicit false
set_option relaxedAutoImplicit false

namespace MessageBus.Bus

variable {s t u v : Bus} {e : Event} {es : List Event}

/-- Whether a client came to a result among the events of a run. -/
def Resolves (s : Bus) (attempt : MessageBus.Attempt String) (es : List Event) (u : Bus)
    (address : String) : Prop :=
  ∃ first p second q third, es = first ++ second ++ third ∧ Run s first p ∧
    Completes p attempt.run second q (.ok address) ∧ Run q third u

/-- Whether a receive that asks for enough messages of a queue returns a certain one. -/
def Offers (s : Bus) (url id : String) : Prop :=
  ∀ time request, request.queueUrl = url →
    (s.broker.messages url).length ≤ request.maxNumberOfMessages →
    ∃ messages, (s.answer time (.receiveMessage request)).1 = .ok messages ∧
      ∃ r ∈ messages, r.id = id

/-- Whether the length of a published text is a word. -/
def Event.isSized : Event → Bool
  | .call (.publish _ text) _ => text.length < wordBound
  | _ => true

/-- A publishing that succeeded has sealed the payload, resolved the topic and called the broker. -/
theorem Completes.of_publish {type : PayloadType} {resolver : Resolver} {payload : Payload}
    {overrides : MetadataOverrides} {id : String}
    (h : Completes s (Publisher.publish type (some resolver) payload overrides) es t (.ok id)) :
    ∃ stamp topicArn text before u time after,
      text = Envelope.publishedText (Envelope.sealed type payload overrides stamp).1 ∧
      es = before ++ .call (.publish topicArn text) (.ok id) :: after ∧ Run s before u ∧
      Resolves s (resolver.topic type.fullName) before u topicArn ∧
      (u.answer time (.publish topicArn text)).1 = .ok id ∧
      Run (u.answer time (.publish topicArn text)).2 after t := by
  obtain ⟨result, sending, w, rest, rfl, hsend, hrest⟩ := h.of_bind
  cases result with
  | error e =>
    obtain ⟨_, _, _, _, _, _, hfailed⟩ := hrest.of_bind
    exact absurd hfailed.of_done.1 nofun
  | ok sent =>
    obtain ⟨hid, hend⟩ := hrest.of_done
    obtain rfl := Except.ok.inj hid
    obtain ⟨stamp, first, p, sending, rfl, hstamp, hsend⟩ := hsend.of_andThen
    obtain ⟨topicArn, second, q, sending, rfl, htopic, hsend⟩ := hsend.of_andThen
    obtain ⟨third, u, time, id', after, hthird, hpublish, rfl, hsent⟩ := hsend.of_callThen
    obtain ⟨_, fourth, x, last, rfl, hcounted, hreturned⟩ := hsent.of_andThen
    obtain ⟨hid, hlast⟩ := hreturned.of_done
    obtain rfl := Except.ok.inj hid
    refine ⟨stamp, topicArn, _, first ++ second ++ third, u, time, fourth ++ last ++ rest,
      by rfl, ?_, (hstamp.run.append htopic.run).append hthird,
      ⟨first, p, second, q, third, rfl, hstamp.run, htopic, hthird⟩, hpublish,
      (hcounted.run.append hlast).append hend⟩
    simp

/-- While anything happens, the body of a message stays, and it is what receives return. -/
theorem Run.carries (h : Run s es t) (hs : s.Valid) {id body : String}
    (hmade : IsMadeBefore s.serial id) (hbody : s.broker.Carries id body) :
    t.broker.Carries id body ∧ ∀ e ∈ es, ∀ queueUrl messages,
      e.deed = .returned queueUrl messages → ∀ r ∈ messages, r.id = id → r.body = body := by
  induction h with
  | refl => exact ⟨hbody, List.forall_mem_nil _⟩
  | @step t u es e hrun hstep _ ih =>
    obtain ⟨hcarries, hreturned⟩ := ih
    have ht := Run.valid hrun hs
    have hbefore : IsMadeBefore t.serial id := hmade.mono (Run.serial_le hrun hs)
    obtain ⟨m, -, hserial, hchange⟩ := hstep.change ht.sound.isAddressed
    refine ⟨hcarries.change (hserial ▸ hbefore) hchange, ?_⟩
    intro event hevent queueUrl messages hdeed r hr hid
    rcases List.mem_append.mp hevent with hevent | hevent
    · exact hreturned event hevent queueUrl messages hdeed r hr hid
    · obtain rfl := List.mem_singleton.mp hevent
      rw [hdeed] at hchange
      exact hcarries.returned hchange hr hid

/-- A message that has just arrived is offered, but where the policy of its queue allows no
receive. -/
theorem offers_of_arrived {url : String} {x : StoredMessage} (hx : x ∈ s.broker.messages url)
    (harrived : x.receiveCount = 0 ∧ x.visibleAt = s.clock)
    (husable : ∀ target limit, s.broker.redriveAt? url = some (target, limit) → 0 < limit) :
    s.Offers url x.id := by
  rintro time request rfl hroom
  have hvisible : x.isVisible s.clock := by simp [StoredMessage.isVisible, harrived.2]
  obtain ⟨messages, b, hreceive, hreturned⟩ := Broker.exists_receive
    (m := ⟨s.clock, time, s.serial⟩) hx hroom hvisible fun target limit hredrive ↦
      harrived.1 ▸ husable target limit hredrive
  refine ⟨messages, ?_, hreturned⟩
  have hanswer : s.broker.answer ⟨s.clock, time, s.serial⟩ (.receiveMessage request) =
      .ok (messages, b) := hreceive
  rw [answer, operate, hanswer]

/-- What a publishing that was answered has put on queues: every endpoint that leads to one has a
new message there, and all new messages have the notification of the text as their body. -/
theorem messages_of_publish (hs : s.broker.Sound s.serial) {time : Instant}
    {topicArn text id : String} (h : (s.answer time (.publish topicArn text)).1 = .ok id) :
    ∃ n : Notification, n.message = text ∧
      (∀ endpoint ∈ s.broker.endpoints topicArn, ∀ url,
        s.broker.urlByArn.find? endpoint = some url →
        ∃ x ∈ (s.answer time (.publish topicArn text)).2.broker.messages url,
          ¬ s.broker.Holds url x.id ∧ x.receiveCount = 0 ∧ x.visibleAt = s.clock) ∧
      ∀ {url x}, x ∈ (s.answer time (.publish topicArn text)).2.broker.messages url →
        ¬ s.broker.Holds url x.id → x.body = n.text := by
  obtain ⟨b, hanswer, hbus⟩ := answer_eq_ok h
  let m : Moment := ⟨s.clock, time, s.serial⟩
  let n := Notification.ofMessage (m.id 0) topicArn text (Notification.timeText time)
  have hmessages (url : String) : (s.answer time (.publish topicArn text)).2.broker.messages url =
      s.broker.messages url ++ s.broker.copies m n.text url 1 (s.broker.endpoints topicArn) := by
    rw [hbus, (Broker.publish_eq hanswer).2.2]
    exact Broker.messages_deliver hs.isAddressed ..
  refine ⟨n, rfl, ?_, ?_⟩
  · intro endpoint hendpoint url hurl
    obtain ⟨index, hcopy⟩ := Broker.exists_mem_copies (m := m) hendpoint hurl n.text 1
    refine ⟨_, hmessages url ▸ List.mem_append_right _ hcopy, ?_, rfl, rfl⟩
    rintro ⟨y, hy, hid⟩
    exact Moment.id_ne_of_isMadeBefore (m := m) (hs.id_made hy) index hid.symm
  · intro url x hx hnew
    rw [hmessages, List.mem_append] at hx
    rcases hx with hx | hx
    · exact absurd ⟨x, hx, rfl⟩ hnew
    · obtain ⟨_, _, _, _, rfl⟩ := Broker.mem_copies hx
      rfl

/-- What is published is what is handled. Let a publisher seal a payload that nests at most a
hundred deep, and publish it with success. Then it has called the broker with the sealed envelope
and the topic that was resolved for the payload type, and the broker has put a new message on every
queue that was subscribed to this topic, which a receive returns from there. Whenever such a message
is returned by a later receive, whatever has happened to it and whatever queue it was moved to, its
delivery calls the handler exactly once, with the payload that was published and the metadata that
were sealed: the full name of the type, and the generated identifier, correlation identifier and
time, but for what was overridden. The payload has every field with its bits, but for a plain
negative zero, which comes as zero. -/
theorem handled_as_published {type : PayloadType} (htype : type.IsNamed) {payload : Payload}
    (hpayload : type.IsPayload payload) (hnesting : payload.nesting ≤ 100)
    {overrides : MetadataOverrides} {resolver : Resolver} {id : String} (hs : s.Reachable)
    (hpublish : Completes s (Publisher.publish type (some resolver) payload overrides) es t
      (.ok id)) (hsized : ∀ e ∈ es, e.isSized) :
    ∃ stamp topicArn text before u v after,
      text = Envelope.publishedText (Envelope.sealed type payload overrides stamp).1 ∧
      es = before ++ .call (.publish topicArn text) (.ok id) :: after ∧ Run s before u ∧
      Step u (.call (.publish topicArn text) (.ok id)) v ∧ Run v after t ∧
      Resolves s (resolver.topic type.fullName) before u topicArn ∧
      (∀ endpoint ∈ u.broker.endpoints topicArn, ∀ url,
        u.broker.urlByArn.find? endpoint = some url →
        ∃ x ∈ v.broker.messages url, ¬ u.broker.Holds url x.id ∧
          ((∀ target limit, v.broker.redriveAt? url = some (target, limit) → 0 < limit) →
            v.Offers url x.id)) ∧
      ∀ {url x}, x ∈ v.broker.messages url → ¬ u.broker.Holds url x.id →
        ∀ {more w}, Run v more w → ∀ e ∈ more, ∀ {queueUrl messages},
          e.deed = .returned queueUrl messages → ∀ r ∈ messages, r.id = x.id →
          ∀ prototype, type.IsPayload prototype →
            ∃ (handled : Payload) (metadata : Metadata),
              Delivery.HandlesOnce (Delivery.run type prototype queueUrl r) handled metadata ∧
              type.Same handled payload ∧
              (payload.hasNegativeZero type.schema type.spec = false → handled = payload) ∧
              metadata = overrides.apply (.generate stamp type.fullName) ∧
              metadata.messageType = type.fullName := by
  obtain ⟨stamp, topicArn, text, before, u, time, after, htext, rfl, hbefore, hresolves, hanswer,
    hafter⟩ := hpublish.of_publish
  have hu : u.Valid := Run.valid hbefore hs.valid
  have hstep : Step u (.call (.publish topicArn text) (.ok id))
      (u.answer time (.publish topicArn text)).2 := hanswer ▸ .call u time _
  have hv := hstep.valid hu
  obtain ⟨n, hmessage, hcopies, hbodies⟩ := messages_of_publish hu.sound hanswer
  have hsize : (Envelope.sealed type payload overrides stamp).1.length < wordBound := by
    have hfits : text.length < wordBound := of_decide_eq_true
      (hsized (.call (.publish topicArn text) (.ok id)) (by simp))
    rw [htext] at hfits
    exact Nat.lt_of_le_of_lt (Envelope.length_le_publishedText _) hfits
  refine ⟨stamp, topicArn, text, before, u, _, after, htext, rfl, hbefore, hstep, hafter,
    hresolves, ?_, ?_⟩
  · intro endpoint hendpoint url hurl
    obtain ⟨x, hx, hnew, harrived⟩ := hcopies endpoint hendpoint url hurl
    have hclock : (u.answer time (.publish topicArn text)).2.clock = u.clock :=
      (operated_answer hu.sound.isAddressed time _).clock
    exact ⟨x, hx, hnew, offers_of_arrived hx (hclock ▸ harrived)⟩
  intro url x hx hnew more w hmore e he queueUrl messages hdeed r hr hid prototype hprototype
  have hcarries : (u.answer time (.publish topicArn text)).2.broker.Carries x.id n.text :=
    hbodies hx hnew ▸ hv.sound.carries hx
  have hbody : r.body = n.text :=
    (Run.carries hmore hv (hv.sound.id_made hx) hcarries).2 e he queueUrl messages hdeed r hr hid
  have hread := Envelope.ofBody_sealed htype hprototype hpayload hnesting hsize
    (hmessage.trans htext)
  rw [← hbody] at hread
  exact ⟨_, _, Delivery.handlesOnce_run hread, type.same_written payload,
    type.written_eq_self hpayload, rfl, rfl⟩

def sampleTopicArn : String := "arn:aws:sns:eu-west-1:111122223333:samples"

def sampleEndpoint : String := "arn:aws:sqs:eu-west-1:111122223333:samples"

/-- A bus with a queue that is subscribed to a topic. -/
def sampleSubscribed : Bus :=
  let s := ((start {}).answer .epoch (.createTopic "samples")).2
  let s := (s.answer .epoch (.createQueue "samples")).2
  (s.answer .epoch (.subscribe sampleTopicArn Broker.protocol sampleEndpoint)).2

theorem reachable_sampleSubscribed : sampleSubscribed.Reachable :=
  (((reachable_start {}).step (.call _ _ _)).step (.call _ _ _)).step (.call _ _ _)

/-- A publisher that sends the sample payload to that topic. -/
def samplePublishing : Program (Except Error String) :=
  Publisher.publish Envelope.sampleType (some (.fixed sampleTopicArn)) Envelope.samplePayload
    ({} : MetadataOverrides)

/-- A payload with a field of every kind is published, and then there is a new message whose
deliveries all handle it. -/
theorem handled_as_published_sample :
    let s := sampleSubscribed
    let url := s.broker.queueUrlFor "samples"
    Envelope.sampleType.IsNamed ∧ s.Reachable ∧
      ∃ es t id v x, Completes s samplePublishing es t (.ok id) ∧ (∀ e ∈ es, e.isSized) ∧
        x ∈ v.broker.messages url ∧ ∀ {more w}, Run v more w → ∀ e ∈ more,
          ∀ {queueUrl messages}, e.deed = .returned queueUrl messages →
          ∀ r ∈ messages, r.id = x.id →
          ∀ prototype, Envelope.sampleType.IsPayload prototype → ∃ metadata,
            Delivery.HandlesOnce (Delivery.run Envelope.sampleType prototype queueUrl r)
              Envelope.samplePayload metadata := by
  intro s url
  have hs : s.Reachable := reachable_sampleSubscribed
  obtain ⟨hid, hsized, hlength, hendpoint, hurl⟩ :
      let out := carryOut sampleWorld s samplePublishing
      out.2.2 = .ok (Uuid.text 3 0) ∧ (∀ e ∈ out.1, e.isSized) ∧ out.1.length = 1 ∧
        sampleEndpoint ∈ s.broker.endpoints sampleTopicArn ∧
        s.broker.urlByArn.find? sampleEndpoint = some url := by
    decide +kernel
  have hcompletes := completes_carryOut sampleWorld s samplePublishing
  generalize carryOut sampleWorld s samplePublishing = out at hid hsized hlength hcompletes
  rw [hid] at hcompletes
  obtain ⟨stamp, topicArn, text, before, u, v, after, -, hes, hbefore, hstep, -, hresolves,
    hcopies, hhandled⟩ := handled_as_published Envelope.isNamed_sampleType
      Envelope.isPayload_samplePayload (by decide) hs hcompletes hsized
  have hbefore : u = s := by
    have hnil : before = [] := by
      rw [hes, List.length_append, List.length_cons] at hlength
      exact List.length_eq_zero_iff.mp (by omega)
    exact Run.eq_of_nil (hnil ▸ hbefore)
  have htopic : topicArn = sampleTopicArn := by
    obtain ⟨_, p, _, _, _, -, -, hresolved, -⟩ := hresolves
    exact Except.ok.inj hresolved.of_done.1
  subst hbefore htopic
  obtain ⟨x, hx, hnew, -⟩ := hcopies sampleEndpoint hendpoint url hurl
  refine ⟨Envelope.isNamed_sampleType, hs, _, _, _, v, x, hcompletes, hsized, hx, ?_⟩
  intro more w hmore e he queueUrl messages hdeed r hr hid prototype hprototype
  obtain ⟨handled, metadata, honce, -, hhandled, -⟩ :=
    hhandled hx hnew hmore e he hdeed r hr hid prototype hprototype
  exact ⟨metadata, hhandled (by decide +kernel) ▸ honce⟩

end MessageBus.Bus
