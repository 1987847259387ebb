import Mathlib.Algebra.Order.BigOperators.Group.List
import Mathlib.Algebra.Order.Ring.Nat
import Mathlib.Data.List.Perm.Subperm
import MessageBus.Proofs.Broker.Directory
import MessageBus.Proofs.Bus.Invariant
/-!
Bounded attempts. While a redrive policy is in force, a message that arrived on the queue is handed
out by at most as many receives as the policy allows, and is moved after exactly as many.
-/

set_option autoImplicit false
set_option relaxedAutoImplicit false

namespace MessageBus

/-- What has been handed out of a message of a queue. -/
def Deed.handedOut (url id : String) : Deed → List Received
  | .returned queueUrl messages => if queueUrl = url then messages.filter (·.id = id) else []
  | _ => []

namespace Bus

/-- What a step has handed out of a message of a queue. -/
def Event.returned (url id : String) (e : Event) : List Received := e.deed.handedOut url id

/-- How many receives have returned a message of a queue. -/
def receives (url id : String) (es : List Event) : Nat :=
  es.countP fun e ↦ e.returned url id ≠ []

/-- How often handlers were called in the deliveries of certain messages. -/
def handlings (t : Bus) (p : Received → Bool) : Nat :=
  ((t.dispatches.filter (p ·.message)).map (Delivery.handlings ·.past)).sum

variable {s t u : Bus} {e : Event} {es : List Event} {url target id : String} {limit : Nat}

/-- A bus in which a message is on a queue, under a policy that is in force. -/
structure Stays (url target : String) (limit : Nat) (id : String) (s : Bus) : Prop where
  inForce : s.broker.InForce url target limit
  holds : s.broker.Holds url id

theorem RunWithin.last {P : Bus → Prop} (h : RunWithin P s es t) : P t := by
  cases h with
  | refl h => exact h
  | step _ _ h => exact h

/-- A step hands out a message of a queue at most once. -/
theorem Step.length_returned_le (h : Step s e t) (hs : s.Valid) (url id : String) :
    (e.returned url id).length ≤ 1 := by
  obtain ⟨m, -, -, hchange⟩ := h.change hs.sound.isAddressed
  rw [Event.returned]
  cases hdeed : e.deed with
  | deleted | other => exact Nat.zero_le 1
  | returned queueUrl messages =>
    rw [Deed.handedOut]
    split
    · rw [hdeed] at hchange
      have hnodup : ((messages.filter (·.id = id)).map (·.id)).Nodup :=
        (hs.sound.nodup_returned hchange).sublist (List.filter_sublist.map _)
      have hsame : ∀ other ∈ (messages.filter (·.id = id)).map (·.id), other = id := by
        simp only [List.mem_map, List.mem_filter, decide_eq_true_eq]
        rintro other ⟨r, ⟨-, hid⟩, rfl⟩
        exact hid
      rw [List.eq_replicate_of_mem hsame, List.nodup_replicate, List.length_map] at hnodup
      exact hnodup
    · exact Nat.zero_le 1

theorem returned_eq_nil
    (hdeed : ∀ messages, e.deed = .returned url messages → ∀ r ∈ messages, r.id ≠ id) :
    e.returned url id = [] := by
  rw [Event.returned]
  cases heq : e.deed with
  | deleted | other => rfl
  | returned queueUrl messages =>
    rw [Deed.handedOut]
    split
    · next hurl =>
      subst hurl
      rw [List.filter_eq_nil_iff]
      intro r hr
      simpa using hdeed messages heq r hr
    · rfl

theorem mem_returned {messages : List Received} (hdeed : e.deed = .returned url messages)
    {r : Received} (hr : r ∈ messages) (hid : r.id = id) : r ∈ e.returned url id := by
  rw [Event.returned, hdeed, Deed.handedOut, if_pos rfl]
  exact List.mem_filter.mpr ⟨hr, decide_eq_true hid⟩

/-- A message that comes to a queue has not been received there. -/
theorem Step.receiveCount_eq_zero (h : Step s e t) (hs : s.Valid) {x : StoredMessage}
    (hbefore : ¬ s.broker.Holds url x.id) (hx : x ∈ t.broker.messages url) :
    x.receiveCount = 0 := by
  obtain ⟨m, -, -, hchange⟩ := h.change hs.sound.isAddressed
  cases hchange.origin hx with
  | untouched hold => exact absurd ⟨x, hold, rfl⟩ hbefore
  | arrival index body hx => exact hx ▸ rfl
  | handedOut old hold _ _ _ _ _ _ _ _ hx => exact absurd ⟨old, hold, hx ▸ rfl⟩ hbefore
  | move old source hold hx => exact hx ▸ rfl

/-- What becomes of a message of a queue whose policy is in force. -/
inductive Turn (t : Bus) (e : Event) (u : Bus) (url target : String) (limit : Nat)
    (x : StoredMessage) : Prop
  | stays (y : StoredMessage) (hy : y ∈ u.broker.messages url) (hid : y.id = x.id)
    (hbody : y.body = x.body)
    (hcount : y.receiveCount = x.receiveCount + (e.returned url x.id).length)
    (husable : e.returned url x.id ≠ [] → x.receiveCount < limit)
  | moved (hexhausted : limit ≤ x.receiveCount) (messages : List Received)
    (hdeed : e.deed = .returned url messages) (front back : List StoredMessage)
    (happended : u.broker.messages target =
      t.broker.messages target ++ front ++ x.moved t.clock :: back)
  | deleted (receipt : String) (hdeed : e.deed = .deleted url receipt)
    (hreceipt : x.receipt = some receipt) (hgone : ∀ other, ¬ u.broker.Holds other x.id)

theorem Step.turn (h : Step s e t) (hs : s.Valid) (hforce : s.broker.InForce url target limit)
    {x : StoredMessage} (hx : x ∈ s.broker.messages url) : Turn s e t url target limit x := by
  obtain ⟨m, hmillis, hserial, hchange⟩ := h.change hs.sound.isAddressed
  cases Broker.Sound.fate (hserial ▸ hs.sound) hchange hx with
  | untouched hstays hdeed =>
    have hnil := returned_eq_nil hdeed
    exact .stays x hstays rfl rfl (by rw [hnil]; rfl) (absurd hnil)
  | handedOut r messages hdeed hr hid hbody visibleAt hstays husable =>
    have hmem := mem_returned hdeed hr hid
    have hone : (e.returned url x.id).length = 1 :=
      Nat.le_antisymm (h.length_returned_le hs url x.id) (List.length_pos_of_mem hmem)
    exact .stays _ hstays rfl rfl (by rw [hone]; rfl) fun _ ↦ husable _ _ hforce.redrive
  | moved target' limit' hredrive hexhausted messages hdeed hunread front back happended =>
    obtain ⟨rfl, rfl⟩ := Prod.mk.inj (Option.some.inj (hforce.redrive.symm.trans hredrive))
    obtain ⟨before, happended, hbefore⟩ := happended
    rw [hbefore hforce.target_ne.symm, hmillis] at happended
    exact .moved hexhausted messages hdeed front back happended
  | deleted receipt hdeed hreceipt hgone => exact .deleted receipt hdeed hreceipt hgone

/-- While a message stays, its count is the number of the receives that have returned it, each of
them once. -/
theorem RunWithin.receiveCount {x : StoredMessage}
    (h : RunWithin (Stays url target limit x.id) s es t) (hs : s.Valid)
    (hx : x ∈ s.broker.messages url) (hcount : x.receiveCount = 0) :
    ∃ y ∈ t.broker.messages url, y.id = x.id ∧ y.body = x.body ∧
      y.receiveCount = receives url x.id es ∧ receives url x.id es ≤ limit ∧
      (es.flatMap (Event.returned url x.id)).length = receives url x.id es := by
  induction h with
  | refl => exact ⟨x, hx, rfl, rfl, hcount, Nat.zero_le _, rfl⟩
  | @step t u es e hrun hstep hu ih =>
    obtain ⟨y, hy, hid, hbody, hreceives, hle, hlength⟩ := ih
    have ht := Run.valid hrun hs
    have hlast := hstep.length_returned_le ht url x.id
    have hsnoc : receives url x.id (es ++ [e]) =
        receives url x.id es + (e.returned url x.id).length := by
      rw [receives, receives, List.countP_append, List.countP_singleton]
      cases hreturned : e.returned url x.id with
      | nil => rfl
      | cons r rest =>
        rw [hreturned, List.length_cons] at hlast
        rw [List.length_cons, Nat.le_zero.mp (Nat.le_of_succ_le_succ hlast)]
        rfl
    have hall : ((es ++ [e]).flatMap (Event.returned url x.id)).length =
        receives url x.id (es ++ [e]) := by
      rw [hsnoc, List.flatMap_append, List.length_append, hlength, List.flatMap_singleton]
    obtain ⟨z, hz, hzid⟩ := hu.holds
    cases hstep.turn ht hrun.last.inForce hy with
    | stays y' hy' hid' hbody' hcount' husable =>
      rw [hid] at hcount' husable hid'
      refine ⟨y', hy', hid', hbody'.trans hbody, by rw [hcount', hreceives, hsnoc], ?_, hall⟩
      rw [hsnoc]
      by_cases hnil : e.returned url x.id = []
      · rw [hnil]
        exact hle
      · have := husable hnil
        omega
    | moved hexhausted messages hdeed front back happended =>
      have hmoved : y.moved t.clock ∈ u.broker.messages target := by
        rw [happended]
        exact List.mem_append_right _ List.mem_cons_self
      exact absurd ((hstep.valid ht).sound.unique hmoved hz (hid.trans hzid.symm))
        hu.inForce.target_ne
    | deleted receipt hdeed hreceipt hgone => exact absurd ⟨z, hz, hzid.trans hid.symm⟩ (hgone url)

/-- A message leaves the queue by a deletion, or by a move after as many receives as the policy
allows. -/
theorem RunWithin.leaves {x : StoredMessage} (h : RunWithin (Stays url target limit x.id) s es t)
    (hs : s.Valid) (hx : x ∈ s.broker.messages url) (hcount : x.receiveCount = 0)
    (hstep : Step t e u) (hgone : ¬ u.broker.Holds url x.id) :
    (∃ receipt, e.deed = .deleted url receipt ∧ ∀ other, ¬ u.broker.Holds other x.id) ∨
      ((∃ messages, e.deed = .returned url messages) ∧ receives url x.id es = limit ∧
        u.broker.IsHeldOnce target x.id x.body ∧
        ∃ front back, u.broker.messages target =
          t.broker.messages target ++ front ++ .arrived x.id x.body t.clock :: back) := by
  obtain ⟨y, hy, hid, hbody, hreceives, hle, -⟩ := h.receiveCount hs hx hcount
  have ht := Run.valid h hs
  cases hstep.turn ht h.last.inForce hy with
  | stays z hz hzid => exact absurd ⟨z, hz, hzid.trans hid⟩ hgone
  | moved hexhausted messages hdeed front back happended =>
    have hmoved : y.moved t.clock = .arrived x.id x.body t.clock := by
      rw [StoredMessage.moved, hid, hbody]
    rw [hmoved] at happended
    have hmem : .arrived x.id x.body t.clock ∈ u.broker.messages target := by
      rw [happended]
      exact List.mem_append_right _ List.mem_cons_self
    exact .inr ⟨⟨messages, hdeed⟩, by omega,
      (hstep.valid ht).sound.isHeldOnce (x := .arrived x.id x.body t.clock) hmem,
      front, back, happended⟩
  | deleted receipt hdeed hreceipt hnowhere => exact .inl ⟨receipt, hdeed, hid ▸ hnowhere⟩

/-- Handlers are called at most once for each message in hand. -/
theorem Valid.handlings_le (h : t.Valid) {p : Received → Bool} {messages : List Received}
    (hp : ∀ r ∈ t.inHand, p r → r ∈ messages) : t.handlings p ≤ messages.length := by
  have hdistinct : ((t.dispatches.filter (p ·.message)).map (·.message)).Nodup := by
    have hhand : (t.dispatches.map (·.message)).Nodup :=
      (h.distinct.of_map (·.receipt)).sublist (List.sublist_append_right _ _)
    exact hhand.sublist (List.filter_sublist.map _)
  have hsubset : (t.dispatches.filter (p ·.message)).map (·.message) ⊆ messages := by
    intro r hr
    obtain ⟨d, hd, rfl⟩ := List.mem_map.mp hr
    obtain ⟨hd, hmessage⟩ := List.mem_filter.mp hd
    exact hp d.message (List.mem_append_right _ (List.mem_map_of_mem hd)) hmessage
  have hsum : t.handlings p ≤ (t.dispatches.filter (p ·.message)).length := by
    have hone : ∀ n ∈ (t.dispatches.filter (p ·.message)).map (Delivery.handlings ·.past),
        n ≤ 1 := by
      intro n hn
      obtain ⟨d, hd, rfl⟩ := List.mem_map.mp hn
      exact Delivery.handlings_le (h.led d (List.mem_filter.mp hd).1)
    simpa [handlings] using List.sum_le_card_nsmul _ 1 hone
  calc t.handlings p
      ≤ ((t.dispatches.filter (p ·.message)).map (·.message)).length := by
        rwa [List.length_map]
    _ ≤ messages.length := (List.subperm_of_subset hdistinct hsubset).length_le

/-- What is in hand after a step was in hand before, or has just been received from a queue that
held it. -/
theorem Step.mem_inHand (h : Step s e t) (hs : s.Valid) {r : Received} (hr : r ∈ t.inHand) :
    r ∈ s.inHand ∨ ∃ queueUrl messages, e.deed = .returned queueUrl messages ∧ r ∈ messages ∧
      s.broker.Holds queueUrl r.id := by
  obtain ⟨new, kept, hperm, hkept, hnew⟩ := h.inHand hs.sound.isAddressed
  rcases List.mem_append.mp (hperm.subset hr) with hr | hr
  · rcases hnew with rfl | ⟨queueUrl, hdeed⟩
    · exact absurd hr List.not_mem_nil
    · obtain ⟨m, -, -, hchange⟩ := h.change hs.sound.isAddressed
      rw [hdeed] at hchange
      exact .inr ⟨queueUrl, new, hdeed, hr, hchange.holds_of_returned hr⟩
  · exact .inl (hkept.subset hr)

/-- While a message stays on a queue, what comes into hand of it was returned by receives from
there. -/
theorem RunWithin.mem_inHand (h : RunWithin (Stays url target limit id) s es t) (hs : s.Valid)
    {r : Received} (hr : r ∈ t.inHand) (hid : r.id = id) :
    r ∈ s.inHand ∨ r ∈ es.flatMap (Event.returned url id) := by
  induction h with
  | refl => exact .inl hr
  | @step t u es e hrun hstep _ ih =>
    have ht := Run.valid hrun hs
    rw [List.flatMap_append, List.mem_append, List.flatMap_singleton]
    rcases hstep.mem_inHand ht hr with hr | ⟨queueUrl, messages, hdeed, hr, x, hx, hxid⟩
    · rcases ih hr with hr | hr
      · exact .inl hr
      · exact .inr (.inl hr)
    · obtain ⟨y, hy, hyid⟩ := hrun.last.holds
      obtain rfl := ht.sound.unique hx hy (hxid.trans (hid.trans hyid.symm))
      exact .inr (.inr (mem_returned hdeed hr hid))

/-- Nobody has a message in hand that has just come to be. -/
theorem Step.id_ne_of_new (h : Step s e t) (hs : s.Valid) {x : StoredMessage}
    (hx : x ∈ t.broker.messages url) (hnew : ∀ other, ¬ s.broker.Holds other x.id) :
    ∀ r ∈ t.inHand, r.id ≠ x.id := by
  intro r hr hid
  obtain ⟨m, -, hserial, hchange⟩ := h.change hs.sound.isAddressed
  rcases h.mem_inHand hs hr with hr | ⟨queueUrl, messages, -, -, hholds⟩
  · have hmade := (hs.vouched r hr).id_made
    rw [← hserial, hid] at hmade
    cases hchange.origin hx with
    | untouched hold => exact hnew url ⟨x, hold, rfl⟩
    | arrival index body hx =>
      exact Moment.id_ne_of_isMadeBefore hmade index (congrArg StoredMessage.id hx).symm
    | handedOut old hold _ _ _ _ _ _ _ _ hx => exact hnew url ⟨old, hold, hx ▸ rfl⟩
    | move old source hold hx => exact hnew source ⟨old, hold, hx ▸ rfl⟩
  · exact hnew queueUrl (hid ▸ hholds)

end Bus

end MessageBus
