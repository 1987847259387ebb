import MessageBus.Proofs.Broker.Sound
/-!
What becomes of one message when the messages of a broker change (`Sound.fate`): it stays as it is,
or is handed out and stays, or is moved by a pass because its receives are used up, or is deleted
under its receipt. One that is gone does not come back (`Change.not_holds`), and a receipt that was
handed out keeps naming its message (`Vouches.change`).
-/

set_option autoImplicit false
set_option relaxedAutoImplicit false

namespace MessageBus.Broker

variable {b b' : Broker} {m : Moment} {deed : Deed}

/-- What becomes of a message of a queue. -/
inductive Fate (m : Moment) (b : Broker) (deed : Deed) (b' : Broker) (url : String)
    (x : StoredMessage) : Prop
  | untouched (hstays : x ∈ b'.messages url)
    (hdeed : ∀ messages, deed = .returned url messages → ∀ r ∈ messages, r.id ≠ x.id)
  | handedOut (r : Received) (messages : List Received) (hdeed : deed = .returned url messages)
    (hr : r ∈ messages) (hid : r.id = x.id) (hbody : r.body = x.body) (visibleAt : Nat)
    (hstays : x.taken r.receipt visibleAt ∈ b'.messages url)
    (husable : ∀ target limit, b.redriveAt? url = some (target, limit) → x.receiveCount < limit)
    (hvisible : x.isVisible m.millis)
  | moved (target : String) (limit : Nat) (hredrive : b.redriveAt? url = some (target, limit))
    (hexhausted : limit ≤ x.receiveCount) (messages : List Received)
    (hdeed : deed = .returned url messages) (hunread : ∀ r ∈ messages, r.id ≠ x.id)
    (front back : List StoredMessage)
    (happended : ∃ before, b'.messages target = before ++ front ++ x.moved m.millis :: back ∧
      (url ≠ target → before = b.messages target))
    (hvisible : x.isVisible m.millis)
  | deleted (receipt : String) (hdeed : deed = .deleted url receipt)
    (hreceipt : x.receipt = some receipt) (hgone : ∀ other, ¬ b'.Holds other x.id)

theorem Sound.eq_of_mem_received {serial : Nat} (h : b.Sound serial) {request : ReceiveRequest}
    {x : StoredMessage} (hx : x ∈ b.messages request.queueUrl) {r : Received}
    (hr : r ∈ (b.pass m request).received) (hid : r.id = x.id) :
    ∃ visibleAt, x.taken r.receipt visibleAt ∈ (b.pass m request).kept := by
  obtain ⟨old, hold, htakes, -, hkept⟩ := Sweep.exists_of_mem_received hr
  obtain rfl := h.eq_of_id_eq hold hx (htakes.id_eq.symm.trans hid)
  exact ⟨_, hkept⟩

theorem Sound.fate_pass {serial : Nat} (h : b.Sound serial) {request : ReceiveRequest}
    (hmessages : ∀ url, b'.messages url =
      (if request.queueUrl = url then (b.pass m request).kept else b.messages url) ++
        if (b.redriveAt? request.queueUrl).map Prod.fst = some url then
          (b.pass m request).dead.map (·.moved m.millis)
        else []) {x : StoredMessage} (hx : x ∈ b.messages request.queueUrl) :
    Fate m b (.returned request.queueUrl (b.pass m request).received) b' request.queueUrl x := by
  have hkeeps {y : StoredMessage} (hy : y ∈ (b.pass m request).kept) :
      y ∈ b'.messages request.queueUrl := by
    rw [hmessages, if_pos rfl]
    exact List.mem_append_left _ hy
  rcases Sweep.mem_scan hx with hkept | ⟨r, hr, htakes, hkept⟩ | hdead
  · refine .untouched (hkeeps hkept) ?_
    rintro messages hdeed r hr hid
    cases hdeed
    obtain ⟨visibleAt, htaken⟩ := h.eq_of_mem_received hx hr hid
    have hsame := List.inj_on_of_nodup_map (List.nodup_append.mp (h.nodup_pass (m := m))).1
      htaken hkept rfl
    exact Nat.succ_ne_self _ (congrArg StoredMessage.receiveCount hsame)
  · refine .handedOut r _ rfl hr htakes.id_eq htakes.body_eq _ (hkeeps hkept) ?_ htakes.visible
    intro target limit hredrive
    have husable := htakes.usable
    rw [hredrive] at husable
    simpa [Sweep.Terms.isExhausted] using husable
  · obtain ⟨-, hvisible, hexhausted⟩ := Sweep.mem_of_mem_dead hdead
    cases hredrive : b.redriveAt? request.queueUrl with
    | none =>
      rw [hredrive] at hexhausted
      exact absurd hexhausted Bool.false_ne_true
    | some redrive =>
      obtain ⟨target, limit⟩ := redrive
      rw [hredrive] at hexhausted
      obtain ⟨front, back, hsplit⟩ := List.append_of_mem hdead
      change (b.pass m request).dead = front ++ x :: back at hsplit
      refine .moved target limit hredrive (by simpa [Sweep.Terms.isExhausted] using hexhausted)
        _ rfl ?_ (front.map (·.moved m.millis)) (back.map (·.moved m.millis))
        ⟨if request.queueUrl = target then (b.pass m request).kept else b.messages target, ?_, ?_⟩
        hvisible
      · intro r hr hid
        obtain ⟨visibleAt, htaken⟩ := h.eq_of_mem_received hx hr hid
        exact h.id_ne_of_mem_pass htaken (List.mem_map_of_mem hdead) rfl
      · rw [hmessages, hredrive, Option.map_some, if_pos rfl, hsplit, List.map_append,
          List.map_cons, List.append_assoc]
      · intro hother
        rw [if_neg hother]

/-- A message stays as it is, or is handed out, moved or deleted. -/
theorem Sound.fate (h : b.Sound m.serial) (hchange : Change m b deed b') {url : String}
    {x : StoredMessage} (hx : x ∈ b.messages url) : Fate m b deed b' url x := by
  cases hchange with
  | arrivals new hnew hmessages =>
    refine .untouched ?_ nofun
    rw [hmessages]
    exact List.mem_append_left _ hx
  | pass request hmessages =>
    by_cases hurl : request.queueUrl = url
    · subst hurl
      exact h.fate_pass hmessages hx
    · refine .untouched ?_ ?_
      · rw [hmessages, if_neg hurl]
        exact List.mem_append_left _ hx
      · rintro messages hdeed
        exact absurd (Deed.returned.inj hdeed).1 hurl
  | deletion source receipt hreceipt hmessages =>
    by_cases hstays : x ∈ b'.messages url
    · exact .untouched hstays nofun
    · have hurl : source = url := by
        by_contra hother
        rw [hmessages, if_neg hother] at hstays
        exact hstays hx
      subst hurl
      have heq : b'.messages source =
          (b.messages source).eraseP fun x ↦ x.receipt = some receipt := by
        rw [hmessages, if_pos rfl]
      refine .deleted receipt rfl ?_ ?_
      · by_contra hother
        rw [heq] at hstays
        exact hstays ((List.mem_eraseP_of_neg (by simpa using hother)).mpr hx)
      · rintro other ⟨y, hy, hid⟩
        by_cases hother : source = other
        · subst hother
          rw [heq] at hy
          obtain rfl := h.eq_of_id_eq (List.mem_of_mem_eraseP hy) hx hid
          exact hstays (heq ▸ hy)
        · rw [hmessages, if_neg hother] at hy
          exact hother (h.unique hx hy hid.symm)

/-- A message that is not held, though its identifier was made before, does not come back. -/
theorem Change.not_holds {id : String} (hid : IsMadeBefore m.serial id)
    (hchange : Change m b deed b') (h : ∀ url, ¬ b.Holds url id) (url : String) :
    ¬ b'.Holds url id := by
  rintro ⟨x, hx, rfl⟩
  cases hchange.origin hx with
  | untouched hx => exact h url ⟨x, hx, rfl⟩
  | arrival index body hx => exact Moment.id_ne_of_isMadeBefore hid index (hx ▸ rfl)
  | handedOut old hold _ _ _ _ _ _ _ _ hx => exact h url ⟨old, hold, hx ▸ rfl⟩
  | move old source hold hx => exact h source ⟨old, hold, hx ▸ rfl⟩

/-- Whether the messages of an identifier have a body. -/
def Carries (b : Broker) (id body : String) : Prop :=
  ∀ {url x}, x ∈ b.messages url → x.id = id → x.body = body

theorem Sound.carries {serial : Nat} (h : b.Sound serial) {url : String} {x : StoredMessage}
    (hx : x ∈ b.messages url) : b.Carries x.id x.body := by
  intro other y hy hid
  obtain rfl := h.unique hy hx hid
  rw [h.eq_of_id_eq hy hx hid]

/-- The body of a message that was made before does not change. -/
theorem Carries.change {id body : String} (h : b.Carries id body) (hmade : IsMadeBefore m.serial id)
    (hchange : Change m b deed b') : b'.Carries id body := by
  intro url x hx hid
  cases hchange.origin hx with
  | untouched hold => exact h hold hid
  | arrival index other hx =>
    subst hx
    exact absurd hid (Moment.id_ne_of_isMadeBefore hmade index)
  | handedOut old hold _ _ _ _ _ _ _ _ hx =>
    subst hx
    have hbody : old.body = body := h hold hid
    exact hbody
  | move old source hold hx =>
    subst hx
    have hbody : old.body = body := h hold hid
    exact hbody

/-- What a pass hands out of a message has the body of the message. -/
theorem Carries.returned {id body : String} (h : b.Carries id body) {url : String}
    {messages : List Received} (hchange : Change m b (.returned url messages) b') {r : Received}
    (hr : r ∈ messages) (hid : r.id = id) : r.body = body := by
  cases hchange with
  | pass request hmessages =>
    obtain ⟨old, hold, htakes, -⟩ := Sweep.exists_of_mem_received hr
    rw [htakes.body_eq]
    exact h hold (htakes.id_eq.symm.trans hid)

/-- A receipt that was handed out names the message that it was handed out for, if any. -/
structure Vouches (b : Broker) (serial : Nat) (r : Received) : Prop where
  made : IsMadeBefore serial r.receipt
  id_made : IsMadeBefore serial r.id
  names : ∀ {url x}, x ∈ b.messages url → x.receipt = some r.receipt →
    x.id = r.id ∧ x.body = r.body

theorem Vouches.change {r : Received} (h : b.Vouches m.serial r) (hchange : Change m b deed b') :
    b'.Vouches (m.serial + 1) r where
  made := h.made.mono (Nat.le_succ _)
  id_made := h.id_made.mono (Nat.le_succ _)
  names hx hreceipt := by
    rcases (hchange.origin hx).of_receipt hreceipt with hold | ⟨_, _, _, _, _, _, _, index, hindex⟩
    · exact h.names hold hreceipt
    · exact absurd hindex.symm (Moment.id_ne_of_isMadeBefore h.made index)

/-- What a pass hands out of a queue was on that queue. -/
theorem Change.holds_of_returned {url : String} {messages : List Received}
    (hchange : Change m b (.returned url messages) b') {r : Received} (hr : r ∈ messages) :
    b.Holds url r.id := by
  cases hchange with
  | pass request hmessages =>
    obtain ⟨old, hold, htakes, -⟩ := Sweep.exists_of_mem_received hr
    exact ⟨old, hold, htakes.id_eq.symm⟩

/-- A pass hands out each message once. -/
theorem Sound.nodup_returned {serial : Nat} (h : b.Sound serial) {url : String}
    {messages : List Received} (hchange : Change m b (.returned url messages) b') :
    (messages.map (·.id)).Nodup := by
  cases hchange with
  | pass request hmessages =>
    exact (h.nodup request.queueUrl).sublist (Sweep.received_sublist_scan ..)

/-- The receipts of a pass are made at its moment, and they are different. -/
theorem Change.receipts {url : String} {messages : List Received}
    (hchange : Change m b (.returned url messages) b') :
    (messages.map (·.receipt)).Nodup ∧ ∀ r ∈ messages, ∃ index, r.receipt = m.id index := by
  cases hchange with
  | pass request hmessages =>
    refine ⟨Sweep.nodup_receipts_scan, ?_⟩
    intro r hr
    obtain ⟨_, _, _, ⟨index, _, hmade⟩, _⟩ := Sweep.exists_of_mem_received hr
    exact ⟨index, hmade⟩

/-- The receipts of a pass name the messages that they are handed out for. -/
theorem Sound.vouches_of_mem (h : b.Sound m.serial) (hchange : Change m b deed b')
    {url : String} {messages : List Received} (hdeed : deed = .returned url messages)
    {r : Received} (hr : r ∈ messages) : b'.Vouches (m.serial + 1) r := by
  cases hchange with
  | arrivals | deletion => cases hdeed
  | pass request hmessages =>
    obtain ⟨rfl, rfl⟩ := Deed.returned.inj hdeed
    obtain ⟨held, hheld, htakes, ⟨index, _, hmade⟩, _⟩ := Sweep.exists_of_mem_received hr
    refine ⟨hmade ▸ m.isMadeBefore_id index,
      htakes.id_eq ▸ (h.id_made hheld).mono (Nat.le_succ _), ?_⟩
    intro url x hx hreceipt
    rcases ((Change.pass request hmessages).origin hx).of_receipt hreceipt with
      hold | ⟨_, other, hother, hmem, hid, hbody, hsame, -⟩
    · exact absurd hmade.symm (Moment.id_ne_of_isMadeBefore (h.receipt_made hold hreceipt) index)
    · obtain ⟨-, rfl⟩ := Deed.returned.inj hother
      obtain rfl := List.inj_on_of_nodup_map Sweep.nodup_receipts_scan hmem hr hsame
      exact ⟨hid.symm, hbody.symm⟩

/-- Whether the messages under one receipt are one message. -/
def HasDistinctReceipts (b : Broker) : Prop :=
  ∀ url other x y receipt, x ∈ b.messages url → y ∈ b.messages other →
    x.receipt = some receipt → y.receipt = some receipt → x.id = y.id

theorem HasDistinctReceipts.change (h : b.HasDistinctReceipts) (hs : b.Sound m.serial)
    (hchange : Change m b deed b') : b'.HasDistinctReceipts := by
  intro url other x y receipt hx hy hreceipt hother
  -- A receipt of this moment is on no message that had one before.
  have hfresh {url : String} {x : StoredMessage} (hold : x ∈ b.messages url)
      (hreceipt : x.receipt = some receipt) : ¬ ∃ index, receipt = m.id index := by
    rintro ⟨index, hindex⟩
    exact Moment.id_ne_of_isMadeBefore (hs.receipt_made hold hreceipt) index hindex.symm
  rcases (hchange.origin hx).of_receipt hreceipt with
    hxold | ⟨messages, r, hdeed, hr, hrid, -, hrreceipt, hmade⟩ <;>
  rcases (hchange.origin hy).of_receipt hother with
    hyold | ⟨messages', r', hdeed', hr', hrid', -, hrreceipt', hmade'⟩
  · exact h _ _ _ _ _ hxold hyold hreceipt hother
  · exact absurd hmade' (hfresh hxold hreceipt)
  · exact absurd hmade (hfresh hyold hother)
  · subst hdeed
    obtain ⟨-, rfl⟩ := Deed.returned.inj hdeed'
    obtain rfl := List.inj_on_of_nodup_map hchange.receipts.1 hr hr'
      (hrreceipt.trans hrreceipt'.symm)
    exact hrid.symm.trans hrid'

end MessageBus.Broker
