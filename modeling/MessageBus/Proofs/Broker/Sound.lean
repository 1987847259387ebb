import Mathlib.Data.List.Nodup
import MessageBus.Proofs.Broker.Messages
/-!
What holds of a broker at all times. Its addresses lead to queues, a message is in one queue and
there once, and the identifiers and receipts of its messages were made before (`Broker.Sound`); each
of the three changes of messages preserves this (`Sound.change`). A receipt that was handed out
names the message that it was handed out for, or no message (`Broker.Vouches`).
-/

set_option autoImplicit false
set_option relaxedAutoImplicit false

namespace MessageBus

namespace Broker

/-- Whether a queue holds a message. -/
def Holds (b : Broker) (url id : String) : Prop := ∃ x ∈ b.messages url, x.id = id

/-- Whether a queue holds a message once, with this body, and no other queue holds it. -/
def IsHeldOnce (b : Broker) (url id body : String) : Prop :=
  (∃ x, (b.messages url).filter (·.id = id) = [x] ∧ x.body = body) ∧
    ∀ other, other ≠ url → ¬ b.Holds other id

/-- A broker whose messages are in one place each. -/
structure Sound (b : Broker) (serial : Nat) : Prop where
  isAddressed : b.IsAddressed
  nodup : ∀ url, ((b.messages url).map (·.id)).Nodup
  unique : ∀ {url other x y}, x ∈ b.messages url → y ∈ b.messages other → x.id = y.id →
    url = other
  id_made : ∀ {url x}, x ∈ b.messages url → IsMadeBefore serial x.id
  receipt_made : ∀ {url x receipt}, x ∈ b.messages url → x.receipt = some receipt →
    IsMadeBefore serial receipt

variable {b b' : Broker} {m : Moment} {deed : Deed}

/-- Messages of one identifier are one message. -/
theorem Sound.eq_of_id_eq {serial : Nat} (h : b.Sound serial) {url : String}
    {x y : StoredMessage} (hx : x ∈ b.messages url) (hy : y ∈ b.messages url)
    (hid : x.id = y.id) : x = y :=
  List.inj_on_of_nodup_map (h.nodup url) hx hy hid

theorem Sound.isHeldOnce {serial : Nat} (h : b.Sound serial) {url : String} {x : StoredMessage}
    (hx : x ∈ b.messages url) : b.IsHeldOnce url x.id x.body := by
  refine ⟨⟨x, ?_, rfl⟩, ?_⟩
  · have hnodup := (h.nodup url).of_map
    have hfilter : (b.messages url).filter (·.id = x.id) = (b.messages url).filter (· = x) := by
      apply List.filter_congr
      intro y hy
      exact decide_eq_decide.mpr ⟨fun hid ↦ h.eq_of_id_eq hy hx hid, fun heq ↦ heq ▸ rfl⟩
    rw [hfilter, List.filter_eq, hnodup.count, if_pos hx, List.replicate_one]
  · rintro other hother ⟨y, hy, hid⟩
    exact hother (h.unique hy hx hid)

theorem sound_start (identity : BrokerIdentity) (serial : Nat) :
    Sound { identity := identity } serial where
  isAddressed _ _ h := absurd h nofun
  nodup _ := List.nodup_nil
  unique h := absurd h List.not_mem_nil
  id_made h := absurd h List.not_mem_nil
  receipt_made h := absurd h List.not_mem_nil

/-- Where a message comes from: it was there, or has just arrived, or was handed out, or was moved
by a pass. -/
inductive Origin (m : Moment) (b : Broker) (deed : Deed) (url : String) (x : StoredMessage) : Prop
  | untouched (h : x ∈ b.messages url)
  | arrival (index : Nat) (body : String) (hx : x = .arrived (m.id index) body m.millis)
  | handedOut (old : StoredMessage) (hold : old ∈ b.messages url) (messages : List Received)
    (hdeed : deed = .returned url messages) (r : Received) (hr : r ∈ messages)
    (hid : r.id = old.id) (hbody : r.body = old.body)
    (hreceipt : ∃ index, r.receipt = m.id index) (visibleAt : Nat)
    (hx : x = old.taken r.receipt visibleAt)
  | move (old : StoredMessage) (source : String) (hold : old ∈ b.messages source)
    (hx : x = old.moved m.millis)

theorem Change.origin (h : Change m b deed b') {url : String} {x : StoredMessage}
    (hx : x ∈ b'.messages url) : Origin m b deed url x := by
  cases h with
  | arrivals new hnew hmessages =>
    rw [hmessages, List.mem_append] at hx
    rcases hx with hx | hx
    · exact .untouched hx
    · obtain ⟨index, body, rfl⟩ := hnew.arrived hx
      exact .arrival index body rfl
  | pass request hmessages =>
    rw [hmessages, List.mem_append] at hx
    rcases hx with hx | hx
    · split at hx
      · next hurl =>
        subst hurl
        rcases Sweep.mem_of_mem_kept hx with hx | ⟨old, hold, r, hr, htakes, hx⟩
        · exact .untouched hx
        · obtain ⟨_, _, _, ⟨index, _, hreceipt⟩, _⟩ := Sweep.exists_of_mem_received hr
          exact .handedOut old hold _ rfl r hr htakes.id_eq htakes.body_eq ⟨index, hreceipt⟩ _ hx
      · exact .untouched hx
    · split at hx
      · obtain ⟨old, hold, rfl⟩ := List.mem_map.mp hx
        exact .move old request.queueUrl (Sweep.mem_of_mem_dead hold).1 rfl
      · exact absurd hx List.not_mem_nil
  | deletion source receipt hreceipt hmessages =>
    rw [hmessages] at hx
    split at hx
    · next hurl => exact .untouched (hurl ▸ List.mem_of_mem_eraseP hx)
    · exact .untouched hx

/-- A message that has a receipt had it before, or is handed out under it. -/
theorem Origin.of_receipt {url : String} {x : StoredMessage} (h : Origin m b deed url x)
    {receipt : String} (hreceipt : x.receipt = some receipt) :
    x ∈ b.messages url ∨ ∃ messages r, deed = .returned url messages ∧ r ∈ messages ∧
      r.id = x.id ∧ r.body = x.body ∧ r.receipt = receipt ∧ ∃ index, receipt = m.id index := by
  cases h with
  | untouched hx => exact .inl hx
  | arrival index body hx => exact absurd (hx ▸ hreceipt) nofun
  | move old source hold hx => exact absurd (hx ▸ hreceipt) nofun
  | handedOut old hold messages hdeed r hr hid hbody hmade visibleAt hx =>
    subst hx
    obtain rfl := Option.some.inj hreceipt
    exact .inr ⟨messages, r, hdeed, hr, hid, hbody, rfl, hmade⟩

section Pass

variable {request : ReceiveRequest}

/-- What a pass keeps and what it removes has no identifier twice. -/
theorem Sound.nodup_pass {serial : Nat} (h : b.Sound serial) :
    ((b.pass m request).kept.map (·.id) ++
      ((b.pass m request).dead.map (·.moved m.millis)).map (·.id)).Nodup := by
  rw [List.map_map]
  exact (Sweep.perm_scan ..).nodup_iff.mpr (h.nodup request.queueUrl)

theorem exists_of_mem_kept {x : StoredMessage} (h : x ∈ (b.pass m request).kept) :
    ∃ old ∈ b.messages request.queueUrl, old.id = x.id :=
  List.mem_map.mp ((Sweep.kept_sublist_scan ..).subset (List.mem_map_of_mem h))

theorem exists_of_mem_moved {x : StoredMessage}
    (h : x ∈ (b.pass m request).dead.map (·.moved m.millis)) :
    ∃ old ∈ b.messages request.queueUrl, old.id = x.id := by
  obtain ⟨old, hold, rfl⟩ := List.mem_map.mp h
  exact ⟨old, (Sweep.mem_of_mem_dead hold).1, rfl⟩

/-- No message is both kept and removed. -/
theorem Sound.id_ne_of_mem_pass {serial : Nat} (h : b.Sound serial) {x y : StoredMessage}
    (hx : x ∈ (b.pass m request).kept)
    (hy : y ∈ (b.pass m request).dead.map (·.moved m.millis)) : x.id ≠ y.id :=
  (List.nodup_append.mp h.nodup_pass).2.2 _ (List.mem_map_of_mem hx) _ (List.mem_map_of_mem hy)

/-- Where messages are after a pass: in their queue, or in the target of its redrive policy. -/
theorem Change.nodup_pass {serial : Nat} (h : b.Sound serial) (target : Option String)
    (hmessages : ∀ url, b'.messages url =
      (if request.queueUrl = url then (b.pass m request).kept else b.messages url) ++
        if target = some url then (b.pass m request).dead.map (·.moved m.millis) else [])
    (url : String) : ((b'.messages url).map (·.id)).Nodup := by
  rw [hmessages, List.map_append]
  by_cases hurl : request.queueUrl = url
  · rw [if_pos hurl]
    split
    · exact h.nodup_pass
    · rw [List.map_nil, List.append_nil]
      exact (List.nodup_append.mp h.nodup_pass).1
  · rw [if_neg hurl]
    split
    · refine List.nodup_append.mpr
        ⟨h.nodup url, (List.nodup_append.mp h.nodup_pass).2.1, ?_⟩
      intro id hid other hother hsame
      obtain ⟨x, hx, rfl⟩ := List.mem_map.mp hid
      obtain ⟨y, hy, rfl⟩ := List.mem_map.mp hother
      obtain ⟨old, hold, hid⟩ := exists_of_mem_moved hy
      exact hurl (h.unique hold hx (hid.trans hsame.symm))
    · rw [List.map_nil, List.append_nil]
      exact h.nodup url

theorem Change.unique_pass {serial : Nat} (h : b.Sound serial) (target : Option String)
    (hmessages : ∀ url, b'.messages url =
      (if request.queueUrl = url then (b.pass m request).kept else b.messages url) ++
        if target = some url then (b.pass m request).dead.map (·.moved m.millis) else [])
    {url other : String} {x y : StoredMessage} (hx : x ∈ b'.messages url)
    (hy : y ∈ b'.messages other) (hid : x.id = y.id) : url = other := by
  -- A message that stays has its old queue; those that are moved have one target.
  have hstays {url : String} {x : StoredMessage}
      (hx : x ∈ if request.queueUrl = url then (b.pass m request).kept else b.messages url) :
      ∃ old ∈ b.messages url, old.id = x.id := by
    split at hx
    · next hurl => exact hurl ▸ exists_of_mem_kept hx
    · exact ⟨x, hx, rfl⟩
  have hapart {url : String} {x y : StoredMessage}
      (hx : x ∈ if request.queueUrl = url then (b.pass m request).kept else b.messages url)
      (hy : y ∈ (b.pass m request).dead.map (·.moved m.millis)) : x.id ≠ y.id := by
    split at hx
    · exact h.id_ne_of_mem_pass hx hy
    · next hurl =>
      intro hid
      obtain ⟨old, hold, hsame⟩ := exists_of_mem_moved hy
      exact hurl (h.unique hold hx (hsame.trans hid.symm))
  rw [hmessages, List.mem_append] at hx hy
  rcases hx with hx | hx <;> rcases hy with hy | hy
  · obtain ⟨old, hold, hx⟩ := hstays hx
    obtain ⟨old', hold', hy⟩ := hstays hy
    exact h.unique hold hold' (hx.trans (hid.trans hy.symm))
  · split at hy
    · exact absurd hid (hapart hx hy)
    · exact absurd hy List.not_mem_nil
  · split at hx
    · exact absurd hid.symm (hapart hy hx)
    · exact absurd hx List.not_mem_nil
  · split at hx
    · next hurl =>
      split at hy
      · next hother => exact Option.some.inj (hurl.symm.trans hother)
      · exact absurd hy List.not_mem_nil
    · exact absurd hx List.not_mem_nil

end Pass

theorem Arrivals.id_ne {new : String → List StoredMessage} (hnew : Arrivals m new)
    (h : b.Sound m.serial) {url other : String} {x y : StoredMessage} (hx : x ∈ b.messages url)
    (hy : y ∈ new other) : x.id ≠ y.id := by
  obtain ⟨index, body, rfl⟩ := hnew.arrived hy
  exact (Moment.id_ne_of_isMadeBefore (h.id_made hx) index).symm

theorem Sound.nodup_change (h : b.Sound m.serial) (hchange : Change m b deed b') (url : String) :
    ((b'.messages url).map (·.id)).Nodup := by
  cases hchange with
  | arrivals new hnew hmessages =>
    rw [hmessages, List.map_append]
    refine List.nodup_append.mpr ⟨h.nodup url, hnew.nodup url, ?_⟩
    intro id hid other hother
    obtain ⟨x, hx, rfl⟩ := List.mem_map.mp hid
    obtain ⟨y, hy, rfl⟩ := List.mem_map.mp hother
    exact hnew.id_ne h hx hy
  | pass request hmessages => exact Change.nodup_pass h _ hmessages url
  | deletion source receipt hreceipt hmessages =>
    rw [hmessages]
    split
    · next hurl => exact (h.nodup source).sublist (List.eraseP_sublist.map _)
    · exact h.nodup url

theorem Sound.unique_change (h : b.Sound m.serial) (hchange : Change m b deed b')
    {url other : String} {x y : StoredMessage} (hx : x ∈ b'.messages url)
    (hy : y ∈ b'.messages other) (hid : x.id = y.id) : url = other := by
  cases hchange with
  | arrivals new hnew hmessages =>
    rw [hmessages, List.mem_append] at hx hy
    rcases hx with hx | hx <;> rcases hy with hy | hy
    · exact h.unique hx hy hid
    · exact absurd hid (hnew.id_ne h hx hy)
    · exact absurd hid.symm (hnew.id_ne h hy hx)
    · exact hnew.unique hx hy hid
  | pass request hmessages => exact Change.unique_pass h _ hmessages hx hy hid
  | deletion source receipt hreceipt hmessages =>
    have hold {url : String} {x : StoredMessage} (hx : x ∈ b'.messages url) :
        x ∈ b.messages url := by
      rw [hmessages] at hx
      split at hx
      · next hurl => exact hurl ▸ List.mem_of_mem_eraseP hx
      · exact hx
    exact h.unique (hold hx) (hold hy) hid

theorem Sound.change (h : b.Sound m.serial) (haddressed : b'.IsAddressed)
    (hchange : Change m b deed b') : b'.Sound (m.serial + 1) where
  isAddressed := haddressed
  nodup := h.nodup_change hchange
  unique := h.unique_change hchange
  id_made hx := by
    cases hchange.origin hx with
    | untouched hx => exact (h.id_made hx).mono (Nat.le_succ _)
    | arrival index body hx => exact hx ▸ m.isMadeBefore_id index
    | handedOut old hold _ _ _ _ _ _ _ _ hx => exact hx ▸ (h.id_made hold).mono (Nat.le_succ _)
    | move old source hold hx => exact hx ▸ (h.id_made hold).mono (Nat.le_succ _)
  receipt_made hx hreceipt := by
    rcases (hchange.origin hx).of_receipt hreceipt with hold | ⟨_, _, _, _, _, _, _, index, rfl⟩
    · exact (h.receipt_made hold hreceipt).mono (Nat.le_succ _)
    · exact m.isMadeBefore_id index

end Broker

end MessageBus
