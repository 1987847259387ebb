import MessageBus.Proofs.Session.Trace
import MessageBus.Proofs.Subscriber.Tally
/-!
The accounts of a subscription. Every message that is handed out was received from the queue that
its delivery deletes it from (`Run.vouched`), and what its delivery does is accounted for, at any
time and at its end (`Accounted`). What was done is what the deliveries and the loop have done
(`Run.effects_perm`), and the loop counts and reports the failed receives, each of them once
(`Run.reporting`); so the counters balance when the subscription has returned (`Balanced`).
-/

set_option autoImplicit false
set_option relaxedAutoImplicit false

namespace MessageBus.Session

open Delivery

namespace Event

/-- An effect of a delivery or of the loop. -/
def effect? : Event → Option Performed
  | performed _ p | reported p => some p
  | _ => none

/-- An effect of the loop. -/
def reported? : Event → Option Performed
  | reported p => some p
  | _ => none

/-- The error of a failed receive. -/
def receiveError? : Event → Option Error
  | replied _ (.error e) => some e
  | _ => none

end Event

def effects (es : List Event) : List Performed := es.filterMap Event.effect?

def reports (es : List Event) : List Performed := es.filterMap Event.reported?

def receiveErrors (es : List Event) : List Error := es.filterMap Event.receiveError?

variable {c : Setup} {s t : Session c} {e : Event} {es : List Event}

/-- Whether a message was received from a queue. -/
def CameFrom (es : List Event) (queueUrl : String) (m : Received) : Prop :=
  ∃ request messages, .replied request (.ok messages) ∈ es ∧ m ∈ messages ∧
    request.queueUrl = queueUrl

theorem CameFrom.append {queueUrl : String} {m : Received} (h : CameFrom es queueUrl m)
    (more : List Event) : CameFrom (es ++ more) queueUrl m := by
  obtain ⟨request, messages, hreplied, hm, hurl⟩ := h
  exact ⟨request, messages, List.mem_append_left _ hreplied, hm, hurl⟩

/-- Whether all messages that a session has in hand were received from their queues. -/
structure Vouched (es : List Event) (s : Session c) : Prop where
  waiting : ∀ {l waiting}, s.life = .polling l → l.polling.phase = .dispatching waiting →
    ∀ m ∈ waiting, CameFrom es l.polling.queueUrl m
  dispatches : ∀ d ∈ s.dispatches, CameFrom es d.queueUrl d.message

/-- A delivery after a step was there before, or has just begun with the first message that
waited. -/
theorem Progress.origin {ds : List (Dispatch c.type)} (h : Progress s e ds) {d : Dispatch c.type}
    (hd : d ∈ ds) :
    (∃ old ∈ s.dispatches, d.message = old.message ∧ d.queueUrl = old.queueUrl) ∨
      ∃ l rest, s.life = .polling l ∧ l.polling.phase = .dispatching (d.message :: rest) ∧
        d.queueUrl = l.polling.queueUrl := by
  cases h with
  | untouched hsame hhanded hperformed => exact .inl ⟨d, hsame ▸ hd, rfl, rfl⟩
  | begun prototype hlife hphase he hds =>
    rcases List.mem_append.mp (hds ▸ hd) with hold | hnew
    · exact .inl ⟨d, hold, rfl, rfl⟩
    · obtain rfl := List.mem_singleton.mp hnew
      exact .inr ⟨_, _, hlife, hphase, rfl⟩
  | taken hbefore hrest r he hds =>
    rcases List.mem_or_eq_of_mem_set (hds ▸ hd) with hold | rfl
    · exact .inl ⟨d, hold, rfl, rfl⟩
    · exact .inl ⟨_, List.mem_of_getElem? hbefore, rfl, rfl⟩
  | ended hbefore hrest he hds =>
    rcases List.mem_or_eq_of_mem_set (hds ▸ hd) with hold | rfl
    · exact .inl ⟨d, hold, rfl, rfl⟩
    · exact .inl ⟨_, List.mem_of_getElem? hbefore, rfl, rfl⟩

theorem Vouched.step (h : Vouched es s) (hstep : Step s e t) (hs : s.Sound) :
    Vouched (es ++ [e]) t := by
  refine ⟨?_, ?_⟩
  · intro loop waiting hlife hphase m hm
    cases hstep.waits hlife hphase with
    | kept hbefore hwaiting hurl hfree => exact hurl ▸ (h.waiting hbefore hwaiting m hm).append [e]
    | received hbefore hrequest he hurl hfree =>
      subst he
      refine ⟨_, waiting, List.mem_append_right _ (List.mem_singleton_self _), hm, ?_⟩
      exact hurl ▸ ((hs.loop hbefore).request _ hrequest).1
    | next hbefore hwaiting hurl hfree =>
      exact hurl ▸ (h.waiting hbefore hwaiting m (List.mem_cons_of_mem _ hm)).append [e]
  · intro d hd
    rcases hstep.progress.origin hd with ⟨old, hold, hm, hurl⟩ | ⟨l, rest, hlife, hphase, hurl⟩
    · rw [hm, hurl]
      exact (h.dispatches old hold).append [e]
    · rw [hurl]
      exact (h.waiting hlife hphase _ List.mem_cons_self).append [e]

theorem Run.vouched (h : Run (start c) es s) : Vouched es s := by
  induction h with
  | refl =>
    refine ⟨fun hlife ↦ ?_, fun _ hd ↦ absurd hd List.not_mem_nil⟩
    cases hlife
  | step hrun hstep ih => exact ih.step hstep (hrun.sound (sound_start c))

theorem effects_append (es more : List Event) : effects (es ++ more) = effects es ++ effects more :=
  List.filterMap_append

theorem reports_append (es more : List Event) : reports (es ++ more) = reports es ++ reports more :=
  List.filterMap_append

theorem receiveErrors_append (es more : List Event) :
    receiveErrors (es ++ more) = receiveErrors es ++ receiveErrors more :=
  List.filterMap_append

/-- What was done is what the deliveries have done and what the loop has done. -/
theorem Run.effects_perm (h : Run (start c) es s) :
    (effects es).Perm (s.dispatches.flatMap (·.past) ++ reports es) := by
  induction h with
  | refl => exact .nil
  | @step s t es e hrun hstep ih =>
    rw [effects_append, reports_append]
    cases hstep.progress with
    | untouched hsame hhanded hperformed =>
      have hloop : effects [e] = reports [e] := by
        cases e <;> first | rfl | cases hperformed
      rw [hsame, hloop, ← List.append_assoc]
      exact ih.append_right _
    | begun prototype hlife hphase he hds =>
      subst he
      rw [hds, List.flatMap_append]
      change (effects es ++ []).Perm (_ ++ [] ++ (reports es ++ []))
      simpa only [List.append_nil] using ih
    | @taken j d effect next hd hrest r he hds =>
      subst he
      let p : Performed := ⟨effect, r⟩
      have hmore : (t.dispatches.flatMap (·.past)).Perm (p :: s.dispatches.flatMap (·.past)) :=
        hds ▸ flatMap_set_perm hd (·.past) (rfl : (d.after hrest r).past = d.past ++ [p])
      change (effects es ++ [p]).Perm (_ ++ (reports es ++ []))
      rw [List.append_nil]
      calc
        (effects es ++ [p]).Perm (p :: effects es) := List.perm_append_singleton ..
        List.Perm _ (p :: (s.dispatches.flatMap (·.past) ++ reports es)) := ih.cons p
        List.Perm _ (t.dispatches.flatMap (·.past) ++ reports es) := (hmore.append_right _).symm
    | @ended j d hd hrest he hds =>
      subst he
      have hsame : t.dispatches.flatMap (·.past) = s.dispatches.flatMap (·.past) :=
        hds ▸ flatMap_set_of_eq hd (·.past) (rfl : d.finish.past = d.past)
      rw [hsame]
      change (effects es ++ []).Perm (_ ++ (reports es ++ []))
      simpa only [List.append_nil] using ih

/-- How far the loop is with counting and reporting the failed receives: done with all of them, or
with all but the last. -/
inductive Reporting (es : List Event) (s : Session c) : Prop
  | done (hduty : s.duty = .done ())
    (hreports : reports es = (receiveErrors es).flatMap (failure c.type.fullName .receive))
  | underWay {earlier : List Error} {e : Error} {past : List Performed}
    (herrors : receiveErrors es = earlier ++ [e])
    (hreports : reports es = earlier.flatMap (failure c.type.fullName .receive) ++ past)
    (hleads : (fail c.type.fullName .receive e).Leads past s.duty)

/-- A loop that has nothing to report has counted and reported every failed receive. -/
theorem Reporting.reports_eq (h : Reporting es s) (hduty : s.duty = .done ()) :
    reports es = (receiveErrors es).flatMap (failure c.type.fullName .receive) := by
  cases h with
  | done _ hreports => exact hreports
  | underWay herrors hreports hleads =>
    rw [hduty] at hleads
    rw [hreports, herrors, eq_failure_of_leads hleads, List.flatMap_append, List.flatMap_singleton]

theorem Reporting.step (h : Reporting es s) (hstep : Step s e t) : Reporting (es ++ [e]) t := by
  -- Other steps change neither what is to be reported nor what was.
  have hkeeps (hduty : t.duty = s.duty) (hreports : reports [e] = [])
      (herrors : receiveErrors [e] = []) : Reporting (es ++ [e]) t := by
    have hreportsAll : reports (es ++ [e]) = reports es := by
      rw [reports_append, hreports, List.append_nil]
    have herrorsAll : receiveErrors (es ++ [e]) = receiveErrors es := by
      rw [receiveErrors_append, herrors, List.append_nil]
    cases h with
    | done hdone hsame =>
      exact .done (hduty.trans hdone) (hreportsAll.trans (herrorsAll ▸ hsame))
    | underWay hlast hsame hleads =>
      exact .underWay (herrorsAll.trans hlast) (hreportsAll.trans hsame) (hduty ▸ hleads)
  cases hstep with
  | receiveFailed hready hrequest hp =>
    obtain ⟨-, rfl, ⟨⟩⟩ := Polling.receiveFailed_eq hp
    refine .underWay (receiveErrors_append ..) ?_ (.refl _)
    rw [reports_append, h.reports_eq hready.duty]
    rfl
  | report hduty r =>
    cases h with
    | done hdone => exact absurd (hduty.symm.trans hdone) nofun
    | @underWay earlier e past hlast hsame hleads =>
      have herrors : receiveErrors (es ++ [.reported ⟨_, r⟩]) = earlier ++ [e] :=
        (receiveErrors_append ..).trans ((List.append_nil _).trans hlast)
      refine .underWay herrors ?_ ((hduty ▸ hleads).perform r)
      rw [reports_append, hsame, List.append_assoc]
      rfl
  | cancel | resolve | refuse | begin | breakDown | skip | ask | receive | dispatch | stop | perform
  | finish | leave => exact hkeeps rfl rfl rfl

theorem Run.reporting (h : Run (start c) es s) : Reporting es s := by
  induction h with
  | refl => exact .done rfl rfl
  | step _ hstep ih => exact ih.step hstep

/-- What the delivery of a message has done, and what it has done in all when it has come to its
end. -/
structure Accounted (es : List Event) (d : Dispatch c.type) : Prop where
  received : CameFrom es d.queueUrl d.message
  handled_once : handlings d.past ≤ 1
  handled : ∀ payload metadata outcome, ⟨.handle payload metadata, outcome⟩ ∈ d.past →
    Envelope.ofBody c.type d.prototype d.message.body = .ok ⟨payload, metadata⟩
  deleted : calls d.past = [] ∨
    calls d.past = [.deleteMessage d.queueUrl d.message.receipt] ∧ Succeeded d.past
  handled_iff : d.rest = .done () →
    (handlings d.past = 1 ↔ Envelope.IsReadable c.type d.prototype d.message.body)
  deleted_iff : d.rest = .done () →
    (calls d.past = [.deleteMessage d.queueUrl d.message.receipt] ↔ Succeeded d.past)
  ending : d.rest = .done () → EndsOnce c.type d.prototype d.queueUrl d.message d.past

/-- Whether the counters add up to the messages that were handed out and to the failed receives, and
the calls of the error sink to the failures. -/
structure Balanced (name : String) (es : List Event) : Prop where
  handedOut : (handedOut es).length = consumed name (effects es) +
    failed name .decode (effects es) + failed name .handle (effects es) +
    failed name .delete (effects es)
  /-- Every failed receive is counted and reported, before the loop goes on. -/
  reports : reports es = (receiveErrors es).flatMap (failure name .receive)
  received : (receiveErrors es).length = failed name .receive (effects es)
  reported : (reported (effects es)).length = failed name .receive (effects es) +
    failed name .decode (effects es) + failed name .handle (effects es) +
    failed name .delete (effects es)

/-- Whether the errors of all calls of deliveries are transport errors. -/
def HasTransportErrors (es : List Event) : Prop :=
  ∀ j call e, .performed j ⟨.call call, .error e⟩ ∈ es → e.kind = .transport

theorem Run.accounted (h : Run (start c) es s) (hclient : HasTransportErrors es) {j : Nat}
    {d : Dispatch c.type} (hd : s.dispatches[j]? = some d) : Accounted es d := by
  obtain ⟨hhandlings, hhandled, hdeleted⟩ := account_under_way d.led
  have hend (hdone : d.rest = .done ()) := account_at_end (hdone ▸ d.led) fun call e he ↦
    hclient j call e (mem_doneBy.mp (h.traced.past hd ▸ he))
  exact {
    received := h.vouched.dispatches d (List.mem_of_getElem? hd)
    handled_once := hhandlings
    handled := hhandled
    deleted := hdeleted
    handled_iff := fun hdone ↦ (hend hdone).1
    deleted_iff := fun hdone ↦ (hend hdone).2.1
    ending := fun hdone ↦ (hend hdone).2.2 }

/-- What deliveries that have come to their ends add to the accounts. -/
theorem tally_dispatches {ds : List (Dispatch c.type)}
    (h : ∀ d ∈ ds, EndsOnce c.type d.prototype d.queueUrl d.message d.past) :
    let name := c.type.fullName
    let past := ds.flatMap (·.past)
    consumed name past + failed name .decode past + failed name .handle past +
        failed name .delete past = ds.length ∧
      failed name .receive past = 0 ∧
      (reported past).length =
        failed name .decode past + failed name .handle past + failed name .delete past := by
  induction ds with
  | nil => exact ⟨rfl, rfl, rfl⟩
  | cons d ds ih =>
    obtain ⟨hd, hds⟩ := List.forall_mem_cons.mp h
    have hone := tally_ending hd
    have hrest := ih hds
    simp only [List.flatMap_cons, consumed_append, failed_append, length_reported_append,
      List.length_cons]
    omega

/-- When a subscription has returned, its accounts balance. -/
theorem Run.balanced (h : Run (start c) es s) (hclient : HasTransportErrors es)
    {result : Except Error Unit} (hlife : s.life = .returned result) :
    Balanced c.type.fullName es := by
  obtain ⟨hduty, hended⟩ := (h.sound (sound_start c)).of_returned hlife
  have hreports := h.reporting.reports_eq hduty
  have hendings : ∀ d ∈ s.dispatches,
      EndsOnce c.type d.prototype d.queueUrl d.message d.past := by
    intro d hd
    obtain ⟨j, hj⟩ := List.getElem?_of_mem hd
    exact (h.accounted hclient hj).ending (hended d hd)
  obtain ⟨hsettled, hnone, hsink⟩ := tally_dispatches hendings
  obtain ⟨hconsumed, hdecode, hhandle, hdelete, hreceive, hsinkLoop⟩ :=
    tally_receive c.type.fullName (receiveErrors es)
  have hperm := hreports ▸ h.effects_perm
  have hhanded : (handedOut es).length = s.dispatches.length := by
    rw [← h.traced.messages, List.length_map]
  constructor
  case reports => exact hreports
  all_goals
    simp only [hhanded, consumed_perm hperm, failed_perm hperm, length_reported_perm hperm,
      consumed_append, failed_append, length_reported_append]
    omega

/-- The accounts of a subscription, whatever its client and its handlers do, and in whatever order.
The errors of the client are transport errors. At any time the delivery of a message has called the
handler at most once, with what its body reads as, and made no call but to delete that message from
the queue it was received from, once and after the handler succeeded. A delivery that has come to
its end has called the handler if and only if the body can be read, has called for the deletion if
and only if the handler succeeded, and has ended in one way: it has counted the message as consumed
and reported nothing, or it has counted one failure at the stage that failed and reported its error.
When the subscription has returned, all deliveries have come to their ends, the messages that were
handed out are those that were consumed and those that failed, and every failed receive was counted
and reported once. -/
theorem accounted_and_balanced (h : Run (start c) es s) (hclient : HasTransportErrors es) :
    s.dispatches.map (·.message) = handedOut es ∧
      (∀ j d, s.dispatches[j]? = some d → d.past = doneBy j es ∧ Accounted es d) ∧
      ∀ result, s.life = .returned result →
        (∀ d ∈ s.dispatches, d.rest = .done ()) ∧ Balanced c.type.fullName es :=
  ⟨h.traced.messages, fun _ _ hd ↦ ⟨h.traced.past hd, h.accounted hclient hd⟩,
    fun _ hlife ↦ ⟨((h.sound (sound_start c)).of_returned hlife).2, h.balanced hclient hlife⟩⟩

/-- A receive fails and is reported. The next one brings a message, which is handled but cannot be
deleted. -/
theorem accounted_and_balanced_sample :
    let name := "sample.v1.Sample"
    let e : Error := .transport "" ""
    ∃ (m : Received) (metadata : Metadata) (s : Session sampleSetup),
      let done : List Performed := [
        ⟨.handle Envelope.samplePayload metadata, .success⟩, ⟨.count (.handled name), ()⟩,
        ⟨.call (.deleteMessage "samples" m.receipt), .error e⟩,
        ⟨.count (.consumeFailed name .delete), ()⟩, ⟨.report e, ()⟩]
      let es : List Event := [.silent, .asked sampleRequest, .replied sampleRequest (.error e),
        .reported ⟨.count (.consumeFailed name .receive), ()⟩, .reported ⟨.report e, ()⟩,
        .asked sampleRequest, .replied sampleRequest (.ok [m]), .dispatched m, .cancelled,
        .silent] ++ done.map (.performed 0) ++ [.silent, .returned (.ok ())]
      Run (start sampleSetup) es s ∧ HasTransportErrors es ∧ s.life = .returned (.ok ()) ∧
      Balanced name es ∧ failed name .delete (effects es) = 1 ∧
      failed name .receive (effects es) = 1 ∧ (reported (effects es)).length = 2 := by
  intro name e
  obtain ⟨m, metadata, hbody⟩ : ∃ (m : Received) (metadata : Metadata),
      Envelope.ofBody Envelope.sampleType [] m.body = .ok ⟨Envelope.samplePayload, metadata⟩ :=
    ⟨⟨"first", Envelope.sampleBody, "receipt"⟩, Envelope.ofBody_sampleBody⟩
  let polling : Polling := { settings := { maxInFlight := 2 }, queueUrl := "samples", due := 1000 }
  let later : Polling := { polling with due := 2000 }
  let session (cancelled : Bool) (p : Polling) (duty : Program Unit)
      (ds : List (Dispatch sampleSetup.type)) : Session sampleSetup :=
    ⟨cancelled, .polling ⟨p, none⟩, duty, ds⟩
  let begun : Dispatch sampleSetup.type := .start [] "samples" m
  have hpolling : Run (start sampleSetup) [.silent]
      (session false { polling with due := 0 } (.done ()) []) :=
    (Run.refl _).step (.begin rfl 0 rfl)
  have hfailed := (hpolling.step (.ask ⟨rfl, rfl⟩ 0 rfl)).step
    (u := session false polling (Delivery.fail name .receive e) [])
    (.receiveFailed ⟨rfl, rfl⟩ rfl rfl)
  have hreported := (hfailed.step (.report rfl ())).step (.report rfl ())
  have hreceived := (hreported.step (.ask ⟨rfl, rfl⟩ 1000 rfl)).step
    (e := .replied sampleRequest (.ok [m]))
    (u := session false { later with phase := .dispatching [m] } (.done ()) [])
    (.receive ⟨rfl, rfl⟩ rfl rfl)
  have hstopped := ((hreceived.step (.dispatch ⟨rfl, rfl⟩ rfl [])).step (.cancel _)).step
    (u := session true { later with phase := .draining, running := 1 } (.done ()) [begun])
    (.stop ⟨rfl, rfl⟩ rfl rfl)
  obtain ⟨d, hrest, hopen, hdelivered⟩ := hstopped.deliver (j := 0) (d := begun) rfl
    (Delivery.Course.undeleted hbody e).leads
  have hreturned := (hdelivered.step (.finish (j := 0) rfl hrest hopen rfl rfl)).step
    (.leave ⟨rfl, rfl⟩ rfl)
  refine ⟨m, metadata, ⟨true, .returned (.ok ()), .done (), [d.finish]⟩, ?_⟩
  intro done es
  have hclient : HasTransportErrors es := by
    intro j call error hmem
    simp [es, done] at hmem
    obtain ⟨-, rfl, herror⟩ := hmem
    cases herror
    rfl
  have hrun : Run (start sampleSetup) es ⟨true, _, _, [d.finish]⟩ := hreturned
  obtain ⟨-, -, hbalanced⟩ := accounted_and_balanced hrun hclient
  exact ⟨hrun, hclient, rfl, (hbalanced _ rfl).2, rfl, rfl, rfl⟩

end MessageBus.Session
