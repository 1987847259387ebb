import MessageBus.Proofs.Bus.Invariant
/-!
Messages are conserved. Where clients leave deletions to the subscriptions, a message that is on a
queue is, whatever happens later, held once by one queue, which it reached by redrive moves, or it
was deleted by a delivery of that message whose handler succeeded on what the body of the message
says.
-/

set_option autoImplicit false
set_option relaxedAutoImplicit false

namespace MessageBus.Bus

/-- The way of a message along a run, from a queue to a queue. It changes queues only by a pass over
its queue, and then to the target of the redrive policy of that queue. -/
inductive Trail (id : String) : Bus → String → List Event → Bus → String → Prop
  | start {s : Bus} {url : String} (h : s.broker.Holds url id) : Trail id s url [] s url
  | stay {s t u : Bus} {url here : String} {es : List Event} {e : Event}
    (h : Trail id s url es t here) (hstep : Step t e u) (hu : u.broker.Holds here id) :
    Trail id s url (es ++ [e]) u here
  | move {s t u : Bus} {url here target : String} {es : List Event} {e : Event}
    (h : Trail id s url es t here) (hstep : Step t e u) {limit : Nat}
    (hredrive : t.broker.redriveAt? here = some (target, limit))
    (hpass : ∃ messages, e.deed = .returned here messages) (hu : u.broker.Holds target id) :
    Trail id s url (es ++ [e]) u target

/-- Whether an event is the deletion of a message by a delivery of that message, whose handler
succeeded on what was read from the body. -/
def Acknowledges (s : Bus) (e : Event) (url id body : String) : Prop :=
  ∃ j d payload metadata, s.dispatches[j]? = some d ∧ d.queueUrl = url ∧ d.message.id = id ∧
    e = .performed j ⟨.call (.deleteMessage url d.message.receipt), .ok ()⟩ ∧
    Envelope.ofBody d.type d.prototype body = .ok ⟨payload, metadata⟩ ∧
    ⟨.handle payload metadata, .success⟩ ∈ d.past

/-- Whether a message was acknowledged on its way along a run, and deleted by it. -/
def WasAcknowledged (id body : String) (s : Bus) (url : String) (es : List Event) (t : Bus) :
    Prop :=
  ∃ before e after u v here, es = before ++ e :: after ∧ Trail id s url before u here ∧
    Step u e v ∧ Acknowledges u e here id body ∧ (∀ other, ¬ v.broker.Holds other id) ∧
    Run v after t

variable {s t u : Bus} {e : Event} {es : List Event}

theorem Event.eq_of_deleted {url receipt : String} (h : e.deed = .deleted url receipt) :
    e = .call (.deleteMessage url receipt) (.ok ()) ∨
      ∃ j, e = .performed j ⟨.call (.deleteMessage url receipt), .ok ()⟩ := by
  rcases e with _ | ⟨c, reply⟩ | ⟨j, effect, reply⟩
  · cases h
  · cases c <;> cases reply <;> cases h
    exact .inl rfl
  · cases effect with
    | call c =>
      cases c <;> cases reply <;> cases h
      exact .inr ⟨j, rfl⟩
    | lookup | await | settle | stamp | policyIds | count | pause | handle | report =>
      cases h

/-- An effect that was performed was the next one of its delivery. -/
theorem Step.exists_dispatch (h : Step s e t) {j : Nat} {p : Performed}
    (he : e = .performed j p) :
    ∃ d next, s.dispatches[j]? = some d ∧ d.rest = .perform p.effect next := by
  cases h with
  | wait | call | enqueue | subscribe | signal | receive | receiveNothing | dispatch | finish =>
    cases he
  | performCall hd hrest time =>
    obtain ⟨rfl, rfl⟩ := Event.performed.inj he
    exact ⟨_, _, hd, hrest⟩
  | perform hd hlocal hrest r =>
    obtain ⟨rfl, rfl⟩ := Event.performed.inj he
    exact ⟨_, _, hd, hrest⟩

/-- A deletion that no client asked for acknowledges the message that it deletes. -/
theorem Step.acknowledges (h : Step s e t) (hs : s.Valid) {url receipt : String}
    (hdeed : e.deed = .deleted url receipt)
    (hclient : ∀ reply, e ≠ .call (.deleteMessage url receipt) reply) {x : StoredMessage}
    (hx : x ∈ s.broker.messages url) (hreceipt : x.receipt = some receipt) :
    Acknowledges s e url x.id x.body := by
  rcases Event.eq_of_deleted hdeed with rfl | ⟨j, he⟩
  · exact absurd rfl (hclient (.ok ()))
  obtain ⟨d, next, hd, hrest⟩ := h.exists_dispatch he
  have hled := hs.led d (List.mem_of_getElem? hd)
  rw [hrest] at hled
  obtain ⟨hcall, envelope, hbody, hhandled⟩ := Delivery.handled_of_call hled
  obtain ⟨rfl, rfl⟩ := Call.deleteMessage.inj hcall
  have hhand : d.message ∈ s.inHand :=
    List.mem_append_right _ (List.mem_map_of_mem (List.mem_of_getElem? hd))
  obtain ⟨hid, hsame⟩ := (hs.vouched d.message hhand).names hx hreceipt
  exact ⟨j, d, envelope.payload, envelope.metadata, hd, rfl, hid.symm, he, hsame ▸ hbody, hhandled⟩

/-- What a step does to a message that is held: it goes on, or is acknowledged and gone. -/
theorem Trail.step {id body url here : String} (h : Trail id s url es t here) (ht : t.Valid)
    (hstep : Step t e u) (hclient : ∀ queueUrl receipt reply,
      e ≠ .call (.deleteMessage queueUrl receipt) reply)
    (hheld : t.broker.IsHeldOnce here id body) :
    (∃ next, Trail id s url (es ++ [e]) u next ∧ u.broker.IsHeldOnce next id body) ∨
      (Acknowledges t e here id body ∧ ∀ other, ¬ u.broker.Holds other id) := by
  obtain ⟨⟨x, hfilter, rfl⟩, -⟩ := hheld
  have hmem : x ∈ (t.broker.messages here).filter (·.id = id) := hfilter ▸ List.mem_singleton_self x
  obtain ⟨hx, hid⟩ := List.mem_filter.mp hmem
  obtain rfl : x.id = id := of_decide_eq_true hid
  have hu := (hstep.valid ht).sound
  obtain ⟨m, -, hserial, hchange⟩ := hstep.change ht.sound.isAddressed
  cases Broker.Sound.fate (hserial ▸ ht.sound) hchange hx with
  | untouched hstays => exact .inl ⟨here, h.stay hstep ⟨x, hstays, rfl⟩, hu.isHeldOnce hstays⟩
  | handedOut r messages hdeed hr hid hbody visibleAt hstays =>
    exact .inl ⟨here, h.stay hstep ⟨_, hstays, rfl⟩,
      hu.isHeldOnce (x := x.taken r.receipt visibleAt) hstays⟩
  | moved target limit hredrive hexhausted messages hdeed hunread front back happended =>
    obtain ⟨before, happended, -⟩ := happended
    have hstays : x.moved m.millis ∈ u.broker.messages target := by
      rw [happended]
      exact List.mem_append_right _ List.mem_cons_self
    exact .inl ⟨target, h.move hstep hredrive ⟨messages, hdeed⟩ ⟨_, hstays, rfl⟩,
      hu.isHeldOnce (x := x.moved m.millis) hstays⟩
  | deleted receipt hdeed hreceipt hgone =>
    exact .inr ⟨hstep.acknowledges ht hdeed (hclient here receipt) hx hreceipt, hgone⟩

/-- No message is lost, duplicated or wrongly acknowledged. Take a bus that can come to be and a
message on one of its queues, and let anything happen, but no deletion by a client: then one queue,
which is the one it was on or was reached from it by redrive moves, holds the message once, with its
identifier and its body, and no other queue holds it; or it is gone, and then it was deleted by a
delivery of this message, whose handler had succeeded on the payload that was read from its
body. -/
theorem held_once_or_acknowledged (hs : s.Reachable) (hrun : Run s es t)
    (hclient : ∀ queueUrl receipt reply, .call (.deleteMessage queueUrl receipt) reply ∉ es)
    {url : String} {x : StoredMessage} (hx : x ∈ s.broker.messages url) :
    (∃ here, Trail x.id s url es t here ∧ t.broker.IsHeldOnce here x.id x.body) ∨
      ((∀ other, ¬ t.broker.Holds other x.id) ∧ WasAcknowledged x.id x.body s url es t) := by
  have hvalid := hs.valid
  induction hrun with
  | refl => exact .inl ⟨url, .start ⟨x, hx, rfl⟩, hvalid.sound.isHeldOnce hx⟩
  | @step t u es e hrun hstep _ ih =>
    have ht := Run.valid hrun hvalid
    have hbefore queueUrl receipt reply : .call (.deleteMessage queueUrl receipt) reply ∉ es :=
      fun hmem ↦ hclient queueUrl receipt reply (List.mem_append_left _ hmem)
    have hnow queueUrl receipt reply : e ≠ .call (.deleteMessage queueUrl receipt) reply :=
      fun heq ↦ hclient queueUrl receipt reply (heq ▸ List.mem_append_right _ (by simp))
    rcases ih hbefore with ⟨here, htrail, hheld⟩ | ⟨hgone, hack⟩
    · rcases htrail.step ht hstep hnow hheld with hheld | ⟨hack, hgone⟩
      · exact .inl hheld
      · exact .inr ⟨hgone, es, e, [], t, u, here, rfl, htrail, hstep, hack, hgone, .refl trivial⟩
    · obtain ⟨m, -, hserial, hchange⟩ := hstep.change ht.sound.isAddressed
      have hmade : IsMadeBefore m.serial x.id :=
        (hvalid.sound.id_made hx).mono (hserial ▸ Run.serial_le hrun hvalid)
      obtain ⟨before, event, after, v, w, here, rfl, htrail, hdelete, hack, hdeleted, hrest⟩ := hack
      refine .inr ⟨hchange.not_holds hmade hgone, before, event, after ++ [e], v, w, here, by simp,
        htrail, hdelete, hack, hdeleted, hrest.step hstep trivial⟩

/-- A receive that leaves messages visible. -/
def sampleReceive : Call := .receiveMessage ⟨sampleUrl, 1, 0, 0⟩

/-- A message is put on the queue, received twice, and moved by the second receive. -/
theorem held_once_or_acknowledged_sample :
    let s := (sampleBus.operate .epoch fun m b ↦ b.enqueue m sampleUrl "text").2
    let t := ((s.answer .epoch sampleReceive).2.answer .epoch sampleReceive).2
    ∃ x es, x ∈ s.broker.messages sampleUrl ∧ s.Reachable ∧ Run s es t ∧
      (∀ queueUrl receipt reply, .call (.deleteMessage queueUrl receipt) reply ∉ es) ∧
      ((∃ here, Trail x.id s sampleUrl es t here ∧ t.broker.IsHeldOnce here x.id x.body) ∨
        ((∀ other, ¬ t.broker.Holds other x.id) ∧
          WasAcknowledged x.id x.body s sampleUrl es t)) ∧
      ¬ t.broker.Holds sampleUrl x.id := by
  intro s t
  obtain ⟨hx, hempty⟩ : .arrived (Uuid.text 3 0) "text" 0 ∈ s.broker.messages sampleUrl ∧
      t.broker.messages sampleUrl = [] := by
    decide +kernel
  have hs : s.Reachable := reachable_sampleBus.step (.enqueue _ _ _ _)
  have hrun : Run s _ t :=
    ((RunWithin.refl trivial).step (.call s .epoch sampleReceive) trivial).step
      (.call _ .epoch sampleReceive) trivial
  have hclient : ∀ queueUrl receipt reply, .call (.deleteMessage queueUrl receipt) reply ∉
      [] ++ [Event.call sampleReceive (s.answer .epoch sampleReceive).1] ++
        [.call sampleReceive
          ((s.answer .epoch sampleReceive).2.answer .epoch sampleReceive).1] := by
    simp [sampleReceive]
  exact ⟨_, _, hx, hs, hrun, hclient, held_once_or_acknowledged hs hrun hclient hx,
    fun ⟨_, hy, _⟩ ↦ absurd (hempty ▸ hy) List.not_mem_nil⟩

end MessageBus.Bus
