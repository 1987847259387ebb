import MessageBus.Proofs.Bus.Consistency
import MessageBus.Proofs.Subscriber.Batch
/-!
Batches on a bus. A receipt is handed out once (`Run.eq_of_receipt`), so messages that have been
received from a queue can be delivered side by side, and it does not matter in which order that is
done (`batch_sameEnd`).
-/

set_option autoImplicit false
set_option relaxedAutoImplicit false

namespace MessageBus.Bus

variable {s t : Bus} {es : List Event}

/-- Whether a message was received from a queue. -/
def Returned (es : List Event) (url : String) (r : Received) : Prop :=
  ∃ e ∈ es, ∃ messages, e.deed = .returned url messages ∧ r ∈ messages

theorem returned_append_singleton {e : Event} {url : String} {r : Received}
    (h : Returned (es ++ [e]) url r) :
    Returned es url r ∨ ∃ messages, e.deed = .returned url messages ∧ r ∈ messages := by
  obtain ⟨e', he', hreturned⟩ := h
  rcases List.mem_append.mp he' with he' | he'
  · exact .inl ⟨e', he', hreturned⟩
  · obtain rfl := List.mem_singleton.mp he'
    exact .inr hreturned

theorem Run.vouches_of_returned (hrun : Run s es t) (hs : s.Valid) {url : String} {r : Received}
    (hr : Returned es url r) : t.broker.Vouches t.serial r := by
  induction hrun with
  | refl =>
    obtain ⟨e, he, -⟩ := hr
    cases he
  | step hrun hstep _ ih =>
    have ht := Run.valid hrun hs
    rcases returned_append_singleton hr with hr | ⟨messages, hdeed, hr⟩
    · exact hstep.vouches ht.sound.isAddressed (ih hr)
    · exact hstep.vouches_of_returned ht.sound hdeed hr

/-- The receipts that a step hands out are different, and they have not been handed out before. -/
theorem Step.receipts {e : Event} (h : Step s e t) (hs : s.Valid) {url : String}
    {messages : List Received} (hdeed : e.deed = .returned url messages) :
    (messages.map (·.receipt)).Nodup ∧ ∀ r ∈ messages, ¬ IsMadeBefore s.serial r.receipt := by
  obtain ⟨m, -, hserial, hchange⟩ := h.change hs.sound.isAddressed
  rw [hdeed] at hchange
  obtain ⟨hnodup, hmade⟩ := hchange.receipts
  refine ⟨hnodup, fun r hr hbefore ↦ ?_⟩
  obtain ⟨index, hindex⟩ := hmade r hr
  rw [hindex, ← hserial] at hbefore
  exact Moment.id_ne_of_isMadeBefore hbefore index rfl

/-- No receipt is handed out twice. -/
theorem Run.eq_of_receipt (hrun : Run s es t) (hs : s.Valid) {url other : String}
    {r r' : Received} (hr : Returned es url r) (hr' : Returned es other r')
    (hreceipt : r.receipt = r'.receipt) : r = r' := by
  induction hrun with
  | refl =>
    obtain ⟨e, he, -⟩ := hr
    cases he
  | step hrun hstep _ ih =>
    have ht := Run.valid hrun hs
    have hfresh {here : String} {messages : List Received} {old new : Received} {past : String}
        (hdeed : _ = Deed.returned here messages) (hnew : new ∈ messages)
        (hold : Returned _ past old) (hsame : old.receipt = new.receipt) : False :=
      (hstep.receipts ht hdeed).2 new hnew (hsame ▸ (Run.vouches_of_returned hrun hs hold).made)
    rcases returned_append_singleton hr with hr | ⟨messages, hdeed, hr⟩
    · rcases returned_append_singleton hr' with hr' | ⟨messages, hdeed, hr'⟩
      · exact ih hr hr'
      · exact (hfresh hdeed hr' hr hreceipt).elim
    · rcases returned_append_singleton hr' with hr' | ⟨messages', hdeed', hr'⟩
      · exact (hfresh hdeed hr hr' hreceipt.symm).elim
      · cases hdeed.symm.trans hdeed'
        exact List.inj_on_of_nodup_map (hstep.receipts ht hdeed).1 hr hr' hreceipt

theorem Reachable.hasOwnReceipts (h : s.Reachable) {url : String} {queue : Queue}
    (hqueue : s.broker.queues.find? url = some queue) : Batch.HasOwnReceipts queue := by
  intro receipt
  have hmessages : s.broker.messages url = queue.messages := by
    rw [Broker.messages, hqueue]
  rw [List.pairwise_iff_getElem]
  rintro i j hi hj hlt ⟨hx, hy⟩
  have hat {k : Nat} (hk : k < queue.messages.length) :
      s.broker.IsAt url k queue.messages[k] := by
    rw [Broker.IsAt, hmessages]
    exact List.getElem?_eq_getElem hk
  exact Nat.ne_of_lt hlt (h.isConsistent.receipt (hat hi) (hat hj) hx hy).2

/-- Messages that have been received are apart, for they have different receipts. -/
theorem Run.isApart {identity : BrokerIdentity} (hrun : Run (start identity) es s) {url : String}
    {jobs : List Batch.Job} (hreturned : ∀ job ∈ jobs, Returned es url job.message)
    (hdistinct : (jobs.map (·.message)).Nodup) (counters : Counters) (sink : List Error) :
    Batch.IsApart url ⟨s.broker, counters, sink⟩ jobs where
  receipts := by
    have hinjective : ∀ m ∈ jobs.map (·.message), ∀ m' ∈ jobs.map (·.message),
        m.receipt = m'.receipt → m = m' := by
      intro m hm m' hm'
      obtain ⟨job, hjob, rfl⟩ := List.mem_map.mp hm
      obtain ⟨job', hjob', rfl⟩ := List.mem_map.mp hm'
      exact Run.eq_of_receipt hrun (valid_start identity) (hreturned job hjob)
        (hreturned job' hjob')
    have hnodup := hdistinct.map_on hinjective
    rwa [List.map_map] at hnodup
  own _ hqueue := Reachable.hasOwnReceipts ⟨identity, es, hrun⟩ hqueue

/-- The order in which messages are handled does not matter. Take any run of a bus, and any messages
that were received from one queue in it, no two of them the same, each with the way in which its
handler ends. Now they are all delivered, and anything may happen to the broker in between that
leaves the queue alone. They can be delivered one after another, and in whichever order it is done,
it can be brought to an end. At the end the queue is the same as after they were delivered one after
another, the same messages are acknowledged, the error sink has been given the same errors in some
order, and every counter is the same. -/
theorem batch_sameEnd (identity : BrokerIdentity) (hrun : Run (start identity) es s)
    (type : PayloadType) {url : String} {jobs : List Batch.Job}
    (hreturned : ∀ job ∈ jobs, Returned es url job.message)
    (hdistinct : (jobs.map (·.message)).Nodup) (counters : Counters) (sink : List Error) :
    let batch := Batch.start type url ⟨s.broker, counters, sink⟩ jobs
    ∃ (order : List Nat) (ordered : Batch), order.Pairwise (· ≤ ·) ∧
      Batch.Run url batch (order.map some) ordered ∧ ordered.IsDone ∧
      ∀ places other, Batch.Run url batch places other →
        (∃ more done, Batch.Run url other more done ∧ done.IsDone) ∧
        (other.IsDone → Batch.SameEnd url other ordered) := by
  intro batch
  have hapart := hrun.isApart hreturned hdistinct counters sink
  have hends {other : Batch} {places : List (Option Nat)}
      (hother : Batch.Run url batch places other) : ∃ (order : List Nat) (done : Batch),
        Batch.Run url other (order.map some) done ∧ order.Pairwise (· ≤ ·) ∧ done.IsDone :=
    Batch.exists_run_in_order url (hother.traced hapart (Batch.traced_start ..)).all_rest
  obtain ⟨order, ordered, hordered, hsorted, hdone⟩ := hends (.refl batch)
  refine ⟨order, ordered, hsorted, hordered, hdone, fun places other hother ↦ ⟨?_, ?_⟩⟩
  · obtain ⟨more, done, hmore, -, hdone⟩ := hends hother
    exact ⟨_, done, hmore, hdone⟩
  · exact fun hdone' ↦ Batch.Run.sameEnd hapart hother hordered hdone' hdone

/-- Two messages are received at once, and only one of them has a body that can be read. -/
theorem batch_sameEnd_sample :
    let s := (sampleBus.operate .epoch fun m b ↦ b.enqueue m sampleUrl Envelope.sampleBody).2
    let s := (s.operate .epoch fun m b ↦ b.enqueue m sampleUrl "text").2
    let answered := s.answer .epoch (.receiveMessage ⟨sampleUrl, 10, 0, 30⟩)
    let jobs : List Batch.Job := (answered.1.toOption.getD []).map (⟨·, [], .success⟩)
    let batch := Batch.start Envelope.sampleType sampleUrl ⟨answered.2.broker, ∅, []⟩ jobs
    jobs.length = 2 ∧ (jobs.map (·.message)).Nodup ∧ ∃ identity es,
      Run (start identity) es answered.2 ∧
      (∀ job ∈ jobs, Returned es sampleUrl job.message) ∧
      ∃ (order : List Nat) (ordered : Batch), order.Pairwise (· ≤ ·) ∧
        Batch.Run sampleUrl batch (order.map some) ordered ∧ ordered.IsDone ∧
        ∀ places other, Batch.Run sampleUrl batch places other →
          (∃ more done, Batch.Run sampleUrl other more done ∧ done.IsDone) ∧
          (other.IsDone → Batch.SameEnd sampleUrl other ordered) := by
  intro s s' answered jobs batch
  obtain ⟨hok, hlength, hids⟩ : answered.1.isOk ∧ jobs.length = 2 ∧
      (jobs.map (·.message.id)).Nodup := by
    decide +kernel
  have hdistinct : (jobs.map (·.message)).Nodup := by
    refine .of_map (·.id) ?_
    rwa [List.map_map]
  obtain ⟨identity, es, hrun⟩ : s'.Reachable :=
    (reachable_sampleBus.step (.enqueue _ .epoch sampleUrl _)).step (.enqueue _ .epoch sampleUrl _)
  let receive : Call := .receiveMessage ⟨sampleUrl, 10, 0, 30⟩
  have hanswered : Run (start identity) (es ++ [.call receive answered.1]) answered.2 :=
    hrun.step (.call s' .epoch receive) trivial
  have hreturned :
      ∀ job ∈ jobs, Returned (es ++ [.call receive answered.1]) sampleUrl job.message := by
    intro job hjob
    obtain ⟨m, hm, rfl⟩ := List.mem_map.mp hjob
    refine ⟨_, List.mem_append_right _ (List.mem_singleton_self _), answered.1.toOption.getD [],
      ?_, hm⟩
    cases hanswer : answered.1 with
    | error e =>
      rw [hanswer] at hok
      cases hok
    | ok messages => rfl
  exact ⟨hlength, hdistinct, identity, _, hanswered, hreturned,
    batch_sameEnd identity hanswered Envelope.sampleType hreturned hdistinct ∅ []⟩

end MessageBus.Bus
