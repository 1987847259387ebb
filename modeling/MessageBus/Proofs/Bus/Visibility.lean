import MessageBus.Proofs.Bus.Client
import MessageBus.Proofs.Bus.Conservation
/-!
Exclusive delivery. A receive puts what it returns out of sight until its visibility timeout is
over. Whatever happens to the broker before that moment leaves such a message exactly as it is, or
deletes it under its receipt (`Broker.Sound.hidden`), so no other receive returns it and no pass
moves it (`hidden_until_timeout`).
-/

set_option autoImplicit false
set_option relaxedAutoImplicit false

namespace MessageBus

namespace Broker

variable {b b' : Broker} {m : Moment} {deed : Deed} {url : String} {x : StoredMessage}

/-- A message that is out of sight stays as it is, unless it is deleted under its receipt. -/
theorem Sound.hidden (h : b.Sound m.serial) (hchange : Change m b deed b')
    (hx : x ∈ b.messages url) (hhidden : m.millis < x.visibleAt) :
    x ∈ b'.messages url ∨
      ∃ receipt, deed = .deleted url receipt ∧ x.receipt = some receipt ∧
        ∀ other, ¬ b'.Holds other x.id := by
  have hinvisible : ¬ x.isVisible m.millis := by simpa [StoredMessage.isVisible] using hhidden
  cases h.fate hchange hx with
  | untouched hstays => exact .inl hstays
  | handedOut _ _ _ _ _ _ _ _ _ hvisible => exact absurd hvisible hinvisible
  | moved _ _ _ _ _ _ _ _ _ _ hvisible => exact absurd hvisible hinvisible
  | deleted receipt hdeed hreceipt hgone => exact .inr ⟨receipt, hdeed, hreceipt, hgone⟩

/-- What a pass hands out was visible on its queue. -/
theorem Change.visible_of_returned {messages : List Received}
    (hchange : Change m b (.returned url messages) b') {r : Received} (hr : r ∈ messages) :
    ∃ y ∈ b.messages url, y.id = r.id ∧ y.visibleAt ≤ m.millis := by
  cases hchange with
  | pass request hmessages =>
    obtain ⟨y, hy, htakes, -⟩ := Sweep.exists_of_mem_received hr
    exact ⟨y, hy, htakes.id_eq.symm, by simpa [StoredMessage.isVisible] using htakes.visible⟩

/-- What a receive returns is kept under its new receipt, out of sight for the time that was asked
for. -/
theorem taken_of_receive {request : ReceiveRequest} {messages : List Received}
    (h : b.IsAddressed) (hreceive : b.receive m request = .ok (messages, b')) {r : Received}
    (hr : r ∈ messages) :
    ∃ old : StoredMessage, old.id = r.id ∧
      old.taken r.receipt (m.millis + request.visibilityTimeoutSeconds * 1000) ∈
        b'.messages request.queueUrl := by
  obtain ⟨-, -, hreceived, -⟩ := receive_eq hreceive
  rw [hreceived] at hr
  obtain ⟨old, -, htakes, -, hkept⟩ := Sweep.exists_of_mem_received hr
  refine ⟨old, htakes.id_eq.symm, ?_⟩
  rw [messages_receive h hreceive, if_pos rfl]
  exact List.mem_append_left _ hkept

end Broker

namespace Bus

/-- Whether a step is a pass that moves a message to the target of a redrive policy. -/
def Moves (s : Bus) (e : Event) (id : String) : Prop :=
  ∃ request reply time, e = .call (.receiveMessage request) reply ∧
    ∃ x ∈ (s.broker.pass ⟨s.clock, time, s.serial⟩ request).dead, x.id = id

variable {s t u : Bus} {e : Event} {es : List Event} {url : String} {x : StoredMessage}

theorem clock_operate {α : Type} (time : Instant) (f : Moment → Broker → Broker.Result α) :
    (s.operate time f).2.clock = s.clock := by
  rw [operate]
  split <;> rfl

theorem Step.clock_le (h : Step s e t) : s.clock ≤ t.clock := by
  cases h with
  | wait millis => exact Nat.le_add_right _ _
  | call | enqueue | receive | receiveNothing | performCall =>
    exact Nat.le_of_eq (clock_operate _ _).symm
  | subscribe | signal | dispatch | perform | finish => exact Nat.le_refl _

/-- A call is answered by the broker. -/
theorem Step.exists_answer {c : Call} {reply : Except Error c.Reply}
    (h : Step s (.call c reply) t) :
    ∃ time, (s.answer time c).1 = reply ∧ t.broker = (s.answer time c).2.broker := by
  cases h with
  | call time => exact ⟨time, rfl, rfl⟩
  | receive _ _ time => exact ⟨time, rfl, rfl⟩
  | receiveNothing _ _ time => exact ⟨time, rfl, rfl⟩

/-- What a receive returns is on its queue afterwards, out of sight. -/
theorem Step.exists_hidden {request : ReceiveRequest} {messages : List Received}
    (h : Step s (.call (.receiveMessage request) (.ok messages)) t) (hs : s.Valid) {r : Received}
    (hr : r ∈ messages) :
    ∃ x ∈ t.broker.messages request.queueUrl, x.id = r.id ∧ x.receipt = some r.receipt ∧
      x.visibleAt = s.clock + request.visibilityTimeoutSeconds * 1000 := by
  obtain ⟨time, hreply, hbroker⟩ := h.exists_answer
  obtain ⟨b, hanswer, hafter⟩ := answer_eq_ok hreply
  obtain ⟨old, hid, htaken⟩ := Broker.taken_of_receive hs.sound.isAddressed hanswer hr
  refine ⟨old.taken r.receipt _, ?_, hid, rfl, rfl⟩
  rw [hbroker, hafter]
  exact htaken

/-- A message that is out of sight is neither handed out nor moved by a step. -/
theorem Step.spares_hidden (h : Step s e t) (hs : s.Valid) (hx : x ∈ s.broker.messages url)
    (hhidden : s.clock < x.visibleAt) :
    (∀ queueUrl messages, e.deed = .returned queueUrl messages → ∀ r ∈ messages, r.id ≠ x.id) ∧
      ¬ Moves s e x.id := by
  -- Whatever is handed out or moved under the identifier would be this message, and visible.
  have hsame {other : String} {y : StoredMessage} (hy : y ∈ s.broker.messages other)
      (hid : y.id = x.id) (hvisible : y.visibleAt ≤ s.clock) : False := by
    obtain rfl := hs.sound.unique hy hx hid
    obtain rfl := hs.sound.eq_of_id_eq hy hx hid
    omega
  constructor
  · intro queueUrl messages hdeed r hr hid
    obtain ⟨m, hmillis, -, hchange⟩ := h.change hs.sound.isAddressed
    rw [hdeed] at hchange
    obtain ⟨y, hy, hyid, hvisible⟩ := hchange.visible_of_returned hr
    exact hsame hy (hyid.trans hid) (hmillis ▸ hvisible)
  · rintro ⟨request, reply, time, -, y, hdead, hid⟩
    obtain ⟨hy, hvisible, -⟩ := Sweep.mem_of_mem_dead hdead
    exact hsame hy hid (by simpa [StoredMessage.isVisible] using hvisible)

/-- As long as a message is out of sight it stays as it is, or has been deleted under its
receipt. -/
theorem Run.hidden {P : Bus → Prop} (h : RunWithin P s es t) (hs : s.Valid)
    (hx : x ∈ s.broker.messages url) (hhidden : t.clock < x.visibleAt) :
    x ∈ t.broker.messages url ∨
      (∀ other, ¬ t.broker.Holds other x.id) ∧
        ∃ receipt, x.receipt = some receipt ∧ ∃ e ∈ es, e.deed = .deleted url receipt := by
  induction h with
  | refl => exact .inl hx
  | @step t u es e hrun hstep _ ih =>
    have ht := Run.valid hrun hs
    have hbefore : t.clock < x.visibleAt := Nat.lt_of_le_of_lt hstep.clock_le hhidden
    obtain ⟨m, hmillis, hserial, hchange⟩ := hstep.change ht.sound.isAddressed
    rcases ih hbefore with hstays | ⟨hgone, receipt, hreceipt, event, hevent, hdeed⟩
    · rcases Broker.Sound.hidden (hserial ▸ ht.sound) hchange hstays (hmillis ▸ hbefore) with
        hstays | ⟨receipt, hdeed, hreceipt, hgone⟩
      · exact .inl hstays
      · exact .inr ⟨hgone, receipt, hreceipt, e, by simp, hdeed⟩
    · have hmade : IsMadeBefore m.serial x.id :=
        (hs.sound.id_made hx).mono (hserial ▸ Run.serial_le hrun hs)
      exact .inr ⟨hchange.not_holds hmade hgone, receipt, hreceipt, event,
        List.mem_append_left _ hevent, hdeed⟩

/-- Exclusive delivery. A receive returns no message twice. Let a receive with some visibility
timeout return a message, and let anything happen for a shorter time: then the message is on its
queue exactly as the receive left it, or has been deleted under the receipt that was given out, and
whatever happens next, on this queue or on another one, neither returns the message nor moves it to
a dead-letter queue. -/
theorem hidden_until_timeout (hs : s.Reachable) {request : ReceiveRequest}
    {messages : List Received}
    (hreceive : Step s (.call (.receiveMessage request) (.ok messages)) t) :
    (messages.map (·.id)).Nodup ∧
      ∀ r ∈ messages, ∃ x ∈ t.broker.messages request.queueUrl,
        x.id = r.id ∧ x.receipt = some r.receipt ∧
        ∀ {es : List Event} {u : Bus}, Run t es u →
          u.clock < s.clock + request.visibilityTimeoutSeconds * 1000 →
          (x ∈ u.broker.messages request.queueUrl ∨
            (∀ other, ¬ u.broker.Holds other r.id) ∧
              ∃ e ∈ es, e.deed = .deleted request.queueUrl r.receipt) ∧
          ∀ {e : Event} {v : Bus}, Step u e v →
            (∀ queueUrl others, e.deed = .returned queueUrl others →
              ∀ other ∈ others, other.id ≠ r.id) ∧
            ¬ Moves u e r.id := by
  have hvalid := hs.valid
  have ht := hreceive.valid hvalid
  constructor
  · obtain ⟨m, -, -, hchange⟩ := hreceive.change hvalid.sound.isAddressed
    exact hvalid.sound.nodup_returned hchange
  intro r hr
  obtain ⟨x, hx, hid, hreceipt, hvisible⟩ := hreceive.exists_hidden hvalid hr
  refine ⟨x, hx, hid, hreceipt, ?_⟩
  intro es u hrun hbefore
  rw [← hvisible] at hbefore
  have hu := Run.valid hrun ht
  rcases Run.hidden hrun ht hx hbefore with hstays | ⟨hgone, receipt, hsame, e, he, hdeed⟩
  · exact ⟨.inl hstays, fun hstep ↦ hid ▸ hstep.spares_hidden hu hstays hbefore⟩
  · obtain rfl := Option.some.inj (hsame.symm.trans hreceipt)
    rw [hid] at hgone
    refine ⟨.inr ⟨hgone, e, he, hdeed⟩, fun hstep ↦ ⟨?_, ?_⟩⟩
    · intro queueUrl others hreturned other hother hsameId
      obtain ⟨m, -, -, hchange⟩ := hstep.change hu.sound.isAddressed
      rw [hreturned] at hchange
      exact hgone queueUrl (hsameId ▸ hchange.holds_of_returned hother)
    · rintro ⟨request, reply, time, -, y, hdead, hsameId⟩
      exact hgone _ ⟨y, (Sweep.mem_of_mem_dead hdead).1, hsameId⟩

/-- A message is received for thirty seconds. One millisecond before they are over a receive
neither returns nor moves it, though its receives are used up; when they are over it is moved. -/
theorem hidden_until_timeout_sample :
    let receive : Call := .receiveMessage ⟨sampleUrl, 10, 0, 30⟩
    let s := (sampleBus.operate .epoch fun m b ↦ b.enqueue m sampleUrl "text").2
    let t := (s.answer .epoch receive).2
    let u : Bus := { t with clock := t.clock + 29999 }
    let late : Bus := { t with clock := t.clock + 30000 }
    ∃ r x, (s.answer .epoch receive).1 = .ok [r] ∧ x.id = r.id ∧ s.Reachable ∧
      Step s (.call receive (.ok [r])) t ∧ Run t [.silent] u ∧ u.clock < s.clock + 30 * 1000 ∧
      x ∈ u.broker.messages sampleUrl ∧
      (∀ others, (u.answer .epoch receive).1 = .ok others → ∀ other ∈ others, other.id ≠ r.id) ∧
      ¬ Moves u (.call receive (u.answer .epoch receive).1) r.id ∧
      (late.answer .epoch receive).2.broker.messages sampleUrl = [] := by
  intro receive s t u late
  obtain ⟨hanswer, hlate⟩ : (s.answer .epoch receive).1 =
        .ok [⟨Uuid.text 3 0, "text", Uuid.text 4 0⟩] ∧
      (late.answer .epoch receive).2.broker.messages sampleUrl = [] := by
    decide +kernel
  have hs : s.Reachable := reachable_sampleBus.step (.enqueue _ _ _ _)
  have hreceive : Step s (.call receive (.ok [⟨Uuid.text 3 0, "text", Uuid.text 4 0⟩])) t :=
    hanswer ▸ .call s .epoch receive
  have hrun : Run t [.silent] u := (RunWithin.refl trivial).step (.wait t 29999) trivial
  have hclock : u.clock < s.clock + 30 * 1000 := by decide +kernel
  obtain ⟨-, hhidden⟩ := hidden_until_timeout hs hreceive
  obtain ⟨x, -, hid, -, hrest⟩ := hhidden _ (List.mem_singleton_self _)
  obtain ⟨hstays, hspared⟩ := hrest hrun hclock
  obtain ⟨hreturned, hmoves⟩ := hspared (.call u .epoch receive)
  refine ⟨_, x, hanswer, hid, hs, hreceive, hrun, hclock, ?_, ?_, hmoves, hlate⟩
  · refine hstays.resolve_right ?_
    rintro ⟨-, e, he, hdeed⟩
    rw [List.mem_singleton.mp he] at hdeed
    exact absurd hdeed nofun
  · intro others hothers
    exact hreturned sampleUrl others (by rw [hothers]; rfl)

end Bus

end MessageBus
