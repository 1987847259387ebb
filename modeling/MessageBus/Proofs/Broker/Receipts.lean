import Mathlib.Data.List.Induction
import MessageBus.Proofs.Broker.Directory
import MessageBus.Proofs.Broker.Fate
import MessageBus.Proofs.Broker.History
import MessageBus.Proofs.Replace
/-!
Which receipts delete. A deletion is decided by what is on the queue now, and this is compared with
the history of the broker: the receipt on a message is the one of the entry that returned it last,
unless it was moved since (`Broker.Sound.isLatest_of_receipt`), it stays there while nothing happens
to the message (`Broker.Sound.mem_after`), and as soon as something does no message has it any more
(`Broker.Vouches.not_hasReceipt_after`). So the receipts that delete are those of the latest returns
of the messages that are held (`Broker.deletes_iff_latest`).
-/

set_option autoImplicit false
set_option relaxedAutoImplicit false

namespace MessageBus.Broker

/-- What an operation that had this reply has done to messages. -/
def Operation.deed : (o : Operation) → Except Error o.Reply → Deed
  | .call c, reply => c.deed reply
  | .enqueue _ _, _ => .other

def deedOf (b : Broker) (e : Entry) : Deed := e.operation.deed (b.replyTo e)

section InOrder

/-- Whether the moments of a history have rising serial numbers, from one on. -/
def InOrder : Nat → List Entry → Prop
  | _, [] => True
  | serial, e :: es => serial ≤ e.moment.serial ∧ InOrder (e.moment.serial + 1) es

/-- The least serial number that may follow a history. -/
def serialAfter : Nat → List Entry → Nat
  | serial, [] => serial
  | _, e :: es => serialAfter (e.moment.serial + 1) es

theorem inOrder_of_pairwise {es : List Entry}
    (h : es.Pairwise fun e f ↦ e.moment.serial < f.moment.serial) {serial : Nat}
    (hfrom : ∀ e ∈ es, serial ≤ e.moment.serial) : InOrder serial es := by
  induction h generalizing serial with
  | nil => trivial
  | cons hfirst _ ih => exact ⟨hfrom _ List.mem_cons_self, ih hfirst⟩

theorem inOrder_append {serial : Nat} {es es' : List Entry} :
    InOrder serial (es ++ es') ↔ InOrder serial es ∧ InOrder (serialAfter serial es) es' := by
  induction es generalizing serial with
  | nil => exact (true_and _).to_iff.symm
  | cons e es ih => exact (and_congr_right fun _ ↦ ih).trans and_assoc.symm

end InOrder

section Occurs

/-- Whether an entry of a history has a property, at the broker that it meets. -/
def Occurs (P : Broker → Entry → Prop) (b : Broker) (es : List Entry) : Prop :=
  ∃ before e after, es = before ++ e :: after ∧ P (b.after before) e

variable {P Q : Broker → Entry → Prop} {b : Broker} {e : Entry} {es : List Entry}

theorem after_append (b : Broker) (es es' : List Entry) :
    b.after (es ++ es') = (b.after es).after es' :=
  List.foldl_append

theorem not_occurs_nil : ¬ Occurs P b [] := by
  rintro ⟨before, e, after, hes, -⟩
  simp at hes

theorem occurs_cons : Occurs P b (e :: es) ↔ P b e ∨ Occurs P (b.next e) es := by
  constructor
  · rintro ⟨_ | ⟨first, before⟩, e', after, hes, h⟩
    · obtain ⟨rfl, -⟩ := List.cons.inj hes
      exact .inl h
    · obtain ⟨rfl, rfl⟩ := List.cons.inj hes
      exact .inr ⟨before, e', after, rfl, h⟩
  · rintro (h | ⟨before, e', after, rfl, h⟩)
    · exact ⟨[], e, es, rfl, h⟩
    · exact ⟨e :: before, e', after, rfl, h⟩

theorem occurs_append {es' : List Entry} :
    Occurs P b (es ++ es') ↔ Occurs P b es ∨ Occurs P (b.after es) es' := by
  induction es generalizing b with
  | nil => exact (or_iff_right not_occurs_nil).symm
  | cons e es ih => rw [List.cons_append, occurs_cons, occurs_cons, ih, or_assoc, after_cons]

theorem Occurs.imp (h : Occurs P b es) (himp : ∀ b e, P b e → Q b e) : Occurs Q b es := by
  obtain ⟨before, e, after, hes, hP⟩ := h
  exact ⟨before, e, after, hes, himp _ _ hP⟩

end Occurs

section Happenings

/-- Whether an entry returns a message of a queue, under a receipt. -/
def Returns (b : Broker) (e : Entry) (url id receipt : String) : Prop :=
  ∃ messages, b.deedOf e = .returned url messages ∧ ∃ r ∈ messages, r.id = id ∧ r.receipt = receipt

/-- Whether a pass moves a message, to the end of whatever queue. -/
def Moves (b : Broker) (e : Entry) (id : String) : Prop :=
  ∃ request, e.operation = .call (.receiveMessage request) ∧
    ∃ x ∈ (b.pass e.moment request).dead, x.id = id

/-- Whether an entry takes a message from the broker. -/
def Removes (b : Broker) (e : Entry) (id : String) : Prop :=
  (∃ url, b.Holds url id) ∧ ∀ url, ¬ (b.next e).Holds url id

/-- Whether a message is returned or moved. -/
def Supersedes (id : String) (b : Broker) (e : Entry) : Prop :=
  (∃ url receipt, b.Returns e url id receipt) ∨ b.Moves e id

/-- Whether a message is returned, moved or removed. -/
def Voids (id : String) (b : Broker) (e : Entry) : Prop :=
  Supersedes id b e ∨ b.Removes e id

/-- Whether a receipt is the one of the latest return of a message since it arrived on a queue: the
message was returned from there under it, and was neither returned nor moved later. -/
def IsLatest (b : Broker) (es : List Entry) (url id receipt : String) : Prop :=
  ∃ before e after, es = before ++ e :: after ∧ (b.after before).Returns e url id receipt ∧
    ¬ Occurs (Supersedes id) ((b.after before).next e) after

/-- Whether a message of a queue is deleted under a receipt. -/
def Deletes (b : Broker) (url receipt : String) : Prop :=
  ∃ b', b.deleteMessage url receipt = .ok ((), b')

/-- Whether a message has a receipt, on whatever queue. -/
def HasReceipt (b : Broker) (receipt : String) : Prop :=
  ∃ url, ∃ x ∈ b.messages url, x.receipt = some receipt

end Happenings

section Step

variable {b : Broker} {e : Entry} {serial : Nat} {url id receipt : String} {x : StoredMessage}

theorem Operation.deed_error (o : Operation) (error : Error) : o.deed (.error error) = .other := by
  cases o with
  | call c => cases c <;> rfl
  | enqueue url body => rfl

theorem change_next (h : b.IsAddressed) (e : Entry) :
    (b.next e).IsAddressed ∧ Change e.moment b (b.deedOf e) (b.next e) := by
  obtain ⟨m, o⟩ := e
  cases hperform : b.perform m o with
  | error error =>
    have hdeed : b.deedOf ⟨m, o⟩ = .other := by
      rw [deedOf, replyTo, hperform]
      exact o.deed_error error
    rw [next_of_error hperform, hdeed]
    exact ⟨h, .none m fun _ ↦ rfl⟩
  | ok result =>
    obtain ⟨reply, b'⟩ := result
    rw [next_of_ok hperform, deedOf, replyTo, hperform]
    cases o with
    | call c => exact change_answer h c hperform
    | enqueue url body => exact change_enqueue h hperform

theorem Sound.mono {later : Nat} (h : b.Sound serial) (hle : serial ≤ later) : b.Sound later where
  isAddressed := h.isAddressed
  nodup := h.nodup
  unique := h.unique
  id_made hx := (h.id_made hx).mono hle
  receipt_made hx hreceipt := (h.receipt_made hx hreceipt).mono hle

theorem Sound.next (h : b.Sound e.moment.serial) : (b.next e).Sound (e.moment.serial + 1) :=
  have hchange := change_next h.isAddressed e
  h.change hchange.1 hchange.2

/-- What returns messages is a pass of a receive. -/
theorem exists_request {messages : List Received} (h : b.deedOf e = .returned url messages) :
    ∃ request, e.operation = .call (.receiveMessage request) ∧ request.queueUrl = url ∧
      messages = (b.pass e.moment request).received := by
  obtain ⟨m, o⟩ := e
  rw [deedOf, replyTo] at h
  cases hperform : b.perform m o with
  | error error =>
    rw [hperform] at h
    exact absurd ((o.deed_error error).symm.trans h) nofun
  | ok result =>
    rw [hperform] at h
    cases o with
    | call c =>
      cases c <;> cases h
      obtain ⟨queue, -, hmessages, -⟩ := receive_eq hperform
      exact ⟨_, rfl, rfl, hmessages⟩
    | enqueue url body => cases h

/-- What a pass of a history leaves on each queue, also if its queue does not exist. -/
theorem messages_next_of_receive {request : ReceiveRequest} (h : b.IsAddressed)
    (hrequest : e.operation = .call (.receiveMessage request)) (other : String) :
    (b.next e).messages other =
      (if request.queueUrl = other then (b.pass e.moment request).kept else b.messages other) ++
        if (b.redriveAt? request.queueUrl).map Prod.fst = some other then
          (b.pass e.moment request).dead.map (·.moved e.moment.millis)
        else [] := by
  obtain ⟨m, o⟩ := e
  subst hrequest
  cases hreceive : b.receive m request with
  | ok result =>
    have hnext : b.next ⟨m, .call (.receiveMessage request)⟩ = result.2 := next_of_ok hreceive
    rw [hnext, messages_receive h hreceive]
  | error error =>
    have hnext : b.next ⟨m, .call (.receiveMessage request)⟩ = b := next_of_error hreceive
    have hnone : b.queues.find? request.queueUrl = none := by
      rw [receive] at hreceive
      split at hreceive
      · assumption
      · cases hreceive
    have hempty : b.messages request.queueUrl = [] := by rw [messages, hnone]
    have hredrive : b.redriveAt? request.queueUrl = none := by rw [redriveAt?, hnone]; rfl
    have hkept : (b.pass m request).kept = [] :=
      List.eq_nil_iff_forall_not_mem.mpr fun x hx ↦ by
        obtain ⟨old, hold, -⟩ := exists_of_mem_kept hx
        exact absurd (hempty ▸ hold) List.not_mem_nil
    rw [hnext, hkept, hredrive]
    by_cases hother : request.queueUrl = other
    · simp [← hother, hempty]
    · simp [hother]

theorem mem_next_of_mem_kept {request : ReceiveRequest} (h : b.IsAddressed)
    (hrequest : e.operation = .call (.receiveMessage request))
    (hx : x ∈ (b.pass e.moment request).kept) : x ∈ (b.next e).messages request.queueUrl := by
  rw [messages_next_of_receive h hrequest, if_pos rfl]
  exact List.mem_append_left _ hx

/-- What is returned stays on its queue, under the receipt that it was returned under. -/
theorem Returns.exists_mem (h : b.Returns e url id receipt) (hb : b.IsAddressed) :
    ∃ x ∈ (b.next e).messages url, x.id = id ∧ x.receipt = some receipt := by
  obtain ⟨messages, hdeed, r, hr, rfl, rfl⟩ := h
  obtain ⟨request, hrequest, rfl, rfl⟩ := exists_request hdeed
  obtain ⟨old, -, htakes, -, hkept⟩ := Sweep.exists_of_mem_received hr
  have hstays := mem_next_of_mem_kept hb hrequest hkept
  exact ⟨_, hstays, htakes.id_eq.symm, rfl⟩

/-- A receipt that is returned is new. -/
theorem Returns.receipt_eq (h : b.Returns e url id receipt) (hb : b.IsAddressed) :
    ∃ index, receipt = e.moment.id index := by
  obtain ⟨messages, hdeed, r, hr, -, rfl⟩ := h
  exact (hdeed ▸ (change_next hb e).2).receipts.2 r hr

theorem Returns.vouches (h : b.Returns e url id receipt) (hb : b.Sound e.moment.serial) :
    ∃ body, (b.next e).Vouches (e.moment.serial + 1) ⟨id, body, receipt⟩ := by
  obtain ⟨messages, hdeed, r, hr, rfl, rfl⟩ := h
  exact ⟨r.body, hb.vouches_of_mem (change_next hb.isAddressed e).2 hdeed hr⟩

/-- A message that is moved has just arrived on some queue. -/
theorem Moves.exists_mem (h : b.Moves e id) (hb : b.IsAddressed) :
    ∃ url, ∃ x ∈ (b.next e).messages url, x.id = id ∧ x.receipt = none := by
  obtain ⟨request, hrequest, x, hx, rfl⟩ := h
  obtain ⟨-, -, hexhausted⟩ := Sweep.mem_of_mem_dead hx
  cases hredrive : b.redriveAt? request.queueUrl with
  | none =>
    rw [hredrive] at hexhausted
    exact absurd hexhausted Bool.false_ne_true
  | some redrive =>
    refine ⟨redrive.1, x.moved e.moment.millis, ?_, rfl, rfl⟩
    rw [messages_next_of_receive hb hrequest, hredrive, Option.map_some, if_pos rfl]
    exact List.mem_append_right _ (List.mem_map_of_mem hx)

/-- While a message keeps its receipt nothing happens to it. -/
theorem Sound.not_voids (h : b.Sound e.moment.serial) (hx : x ∈ b.messages url)
    (hstays : x ∈ (b.next e).messages url) (hreceipt : x.receipt = some receipt) :
    ¬ Voids x.id b e := by
  have hsame {other : String} {y : StoredMessage} (hy : y ∈ (b.next e).messages other)
      (hid : y.id = x.id) : y = x := by
    obtain rfl := h.next.unique hy hstays hid
    exact h.next.eq_of_id_eq hy hstays hid
  rintro ((⟨source, latest, hreturns⟩ | hmoves) | ⟨-, hgone⟩)
  · obtain ⟨y, hy, hid, hlatest⟩ := hreturns.exists_mem h.isAddressed
    obtain rfl := hsame hy hid
    obtain ⟨index, hnew⟩ := hreturns.receipt_eq h.isAddressed
    exact Moment.id_ne_of_isMadeBefore (h.receipt_made hx hlatest) index hnew.symm
  · obtain ⟨source, y, hy, hid, hnone⟩ := hmoves.exists_mem h.isAddressed
    obtain rfl := hsame hy hid
    exact absurd (hnone.symm.trans hreceipt) nofun
  · exact hgone url ⟨x, hstays, rfl⟩

/-- A message to which nothing happens stays as it is. -/
theorem Sound.mem_next (h : b.Sound e.moment.serial) (hx : x ∈ b.messages url)
    (hvoids : ¬ Voids x.id b e) : x ∈ (b.next e).messages url := by
  have hchange := (change_next h.isAddressed e).2
  cases h.fate hchange hx with
  | untouched hstays => exact hstays
  | handedOut r messages hdeed hr hid =>
    exact absurd (.inl (.inl ⟨url, r.receipt, messages, hdeed, r, hr, hid, rfl⟩)) hvoids
  | moved target limit hredrive hexhausted messages hdeed hunread =>
    obtain ⟨request, hrequest, rfl, rfl⟩ := exists_request hdeed
    rcases Sweep.mem_scan hx with hkept | ⟨r, hr, htakes, -⟩ | hdead
    · exact mem_next_of_mem_kept h.isAddressed hrequest hkept
    · exact absurd htakes.id_eq (hunread r hr)
    · exact absurd (.inl (.inr ⟨request, hrequest, x, hdead, rfl⟩)) hvoids
  | deleted receipt hdeed hreceipt hgone =>
    exact absurd (.inr ⟨⟨url, x, hx, rfl⟩, hgone⟩) hvoids

/-- A receipt that was made before is on the messages that had it. -/
theorem mem_of_receipt (h : b.IsAddressed) (hx : x ∈ (b.next e).messages url)
    (hreceipt : x.receipt = some receipt) (hmade : IsMadeBefore e.moment.serial receipt) :
    x ∈ b.messages url := by
  rcases ((change_next h e).2.origin hx).of_receipt hreceipt with
    hold | ⟨_, _, _, _, _, _, _, index, hnew⟩
  · exact hold
  · exact absurd hnew.symm (Moment.id_ne_of_isMadeBefore hmade index)

/-- When something happens to a message, its receipt is on no message any more. -/
theorem Vouches.not_hasReceipt_next {r : Received} (hr : b.Vouches e.moment.serial r)
    (h : b.Sound e.moment.serial) (hvoids : Voids r.id b e) :
    ¬ (b.next e).HasReceipt r.receipt := by
  rintro ⟨url, x, hx, hreceipt⟩
  have hold := mem_of_receipt h.isAddressed hx hreceipt hr.made
  rw [← (hr.names hold hreceipt).1] at hvoids
  exact h.not_voids hold hx hreceipt hvoids

theorem Vouches.mono {later : Nat} {r : Received} (h : b.Vouches serial r) (hle : serial ≤ later) :
    b.Vouches later r where
  made := h.made.mono hle
  id_made := h.id_made.mono hle
  names := h.names

theorem Vouches.next {r : Received} (hr : b.Vouches e.moment.serial r) (h : b.IsAddressed) :
    (b.next e).Vouches (e.moment.serial + 1) r :=
  hr.change (change_next h e).2

end Step

section History

variable {b : Broker} {e : Entry} {es : List Entry} {serial : Nat} {url id receipt : String}
  {x : StoredMessage} {r : Received}

theorem Sound.after (h : b.Sound serial) (horder : InOrder serial es) :
    (b.after es).Sound (serialAfter serial es) := by
  induction es generalizing b serial with
  | nil => exact h
  | cons e es ih => exact ih (h.mono horder.1).next horder.2

/-- While nothing happens to a message it stays as it is, and keeps its receipt. -/
theorem Sound.mem_after (h : b.Sound serial) (horder : InOrder serial es)
    (hx : x ∈ b.messages url) (hvoids : ¬ Occurs (Voids x.id) b es) :
    x ∈ (b.after es).messages url := by
  induction es generalizing b serial with
  | nil => exact hx
  | cons e es ih =>
    rw [occurs_cons, not_or] at hvoids
    have hb := h.mono horder.1
    exact ih hb.next horder.2 (hb.mem_next hx hvoids.1) hvoids.2

/-- A receipt that is on no message, though it was made before, does not come back. -/
theorem Sound.not_hasReceipt_after (h : b.Sound serial) (horder : InOrder serial es)
    (hmade : IsMadeBefore serial receipt) (hnone : ¬ b.HasReceipt receipt) :
    ¬ (b.after es).HasReceipt receipt := by
  induction es generalizing b serial with
  | nil => exact hnone
  | cons e es ih =>
    have hmade := hmade.mono horder.1
    refine ih (h.mono horder.1).next horder.2 (hmade.mono (Nat.le_succ _)) ?_
    rintro ⟨url, x, hx, hreceipt⟩
    exact hnone ⟨url, x, mem_of_receipt h.isAddressed hx hreceipt hmade, hreceipt⟩

/-- Once something has happened to a message, its receipt is on no message any more. -/
theorem Vouches.not_hasReceipt_after (hr : b.Vouches serial r) (h : b.Sound serial)
    (horder : InOrder serial es) (hvoids : Occurs (Voids r.id) b es) :
    ¬ (b.after es).HasReceipt r.receipt := by
  induction es generalizing b serial with
  | nil => exact absurd hvoids not_occurs_nil
  | cons e es ih =>
    have hb := h.mono horder.1
    have hr := hr.mono horder.1
    rcases occurs_cons.mp hvoids with hfirst | hrest
    · exact hb.next.not_hasReceipt_after horder.2 (hr.next hb.isAddressed).made
        (hr.not_hasReceipt_next hb hfirst)
    · exact ih (hr.next hb.isAddressed) hb.next horder.2 hrest

/-- A message that is not held, though its identifier was made before, does not come back. -/
theorem Sound.not_holds_after (h : b.Sound serial) (horder : InOrder serial es)
    (hmade : IsMadeBefore serial id) (hnone : ∀ url, ¬ b.Holds url id) (url : String) :
    ¬ (b.after es).Holds url id := by
  induction es generalizing b serial with
  | nil => exact hnone url
  | cons e es ih =>
    have hmade := hmade.mono horder.1
    exact ih (h.mono horder.1).next horder.2 (hmade.mono (Nat.le_succ _))
      ((change_next h.isAddressed e).2.not_holds hmade hnone)

/-- A message that is held has not been removed. -/
theorem Sound.not_occurs_removes (h : b.Sound serial) (horder : InOrder serial es)
    (hholds : (b.after es).Holds url id) : ¬ Occurs (fun b e ↦ b.Removes e id) b es := by
  induction es generalizing b serial with
  | nil => exact not_occurs_nil
  | cons e es ih =>
    have hb := h.mono horder.1
    rw [occurs_cons, not_or]
    refine ⟨?_, ih hb.next horder.2 hholds⟩
    rintro ⟨⟨source, x, hx, rfl⟩, hnone⟩
    exact hb.next.not_holds_after horder.2 ((hb.id_made hx).mono (Nat.le_succ _)) hnone url hholds

theorem occurs_voids :
    Occurs (Voids id) b es ↔
      Occurs (Supersedes id) b es ∨ Occurs (fun b e ↦ b.Removes e id) b es := by
  constructor
  · rintro ⟨before, e, after, hes, hsupersedes | hremoves⟩
    · exact .inl ⟨before, e, after, hes, hsupersedes⟩
    · exact .inr ⟨before, e, after, hes, hremoves⟩
  · rintro (h | h)
    · exact h.imp fun _ _ ↦ .inl
    · exact h.imp fun _ _ ↦ .inr

/-- A receipt is the latest one of a message after one more entry that neither returns nor moves
it. -/
theorem IsLatest.concat (h : b.IsLatest es url id receipt)
    (hsupersedes : ¬ Supersedes id (b.after es) e) : b.IsLatest (es ++ [e]) url id receipt := by
  obtain ⟨before, first, after, rfl, hreturns, hlatest⟩ := h
  refine ⟨before, first, after ++ [e], by simp, hreturns, ?_⟩
  rw [occurs_append, occurs_cons, not_or, not_or]
  rw [after_append, after_cons] at hsupersedes
  exact ⟨hlatest, hsupersedes, not_occurs_nil⟩

/-- The receipt of a message is the one of its latest return since it arrived. The induction is on
the history from its end. -/
theorem Sound.isLatest_of_receipt (h : b.Sound serial) (horder : InOrder serial es)
    (hnone : ¬ b.HasReceipt receipt) (hx : x ∈ (b.after es).messages url)
    (hreceipt : x.receipt = some receipt) : b.IsLatest es url x.id receipt := by
  induction es using List.reverseRecOn with
  | nil => exact absurd ⟨url, x, hx, hreceipt⟩ hnone
  | append_singleton es e ih =>
    obtain ⟨hes, hle, -⟩ := inOrder_append.mp horder
    have hb := (h.after hes).mono hle
    rw [after_append] at hx
    rcases ((change_next hb.isAddressed e).2.origin hx).of_receipt hreceipt with
      hold | ⟨messages, r, hdeed, hr, hid, -, hsame, -⟩
    · refine (ih hes hold).concat fun hsupersedes ↦ ?_
      exact hb.not_voids hold hx hreceipt (.inl hsupersedes)
    · exact ⟨es, e, [], rfl, ⟨messages, hdeed, r, hr, hid, hsame⟩, not_occurs_nil⟩

theorem contains_of_mem (hx : x ∈ b.messages url) : b.queues.contains url := by
  rw [messages] at hx
  split at hx
  · next queue hqueue => exact Table.contains_of_find? hqueue
  · exact absurd hx List.not_mem_nil

/-- A receipt deletes on a queue if a message there has it. -/
theorem deletes_iff : b.Deletes url receipt ↔ ∃ x ∈ b.messages url, x.receipt = some receipt := by
  constructor
  · rintro ⟨b', hdelete⟩
    obtain ⟨queue, hqueue, hreceipt, -⟩ := deleteMessage_eq hdelete
    rwa [messages_of_find? hqueue]
  · rintro ⟨x, hx, hreceipt⟩
    obtain ⟨queue, hqueue⟩ := exists_queue_of_contains (contains_of_mem hx)
    rw [messages_of_find? hqueue] at hx
    have hfound : (queue.messages.find? fun s ↦ s.receipt = some receipt).isSome :=
      List.find?_isSome.mpr ⟨x, hx, decide_eq_true hreceipt⟩
    obtain ⟨y, hy⟩ := Option.isSome_iff_exists.mp hfound
    simp only [Deletes, deleteMessage, hqueue, hy]
    exact ⟨_, rfl⟩

theorem not_deletes (h : ¬ b.Deletes url receipt) :
    b.deleteMessage url receipt = .error
      (if b.queues.contains url then invalidReceipt receipt else noQueue "DeleteMessage" url) := by
  cases hdelete : b.deleteMessage url receipt with
  | ok result => exact absurd ⟨result.2, hdelete⟩ h
  | error error =>
    rw [deleteMessage] at hdelete
    split at hdelete
    · next hqueue =>
      cases hdelete
      simp [Table.contains, hqueue]
    · next queue hqueue =>
      split at hdelete <;> cases hdelete
      rw [if_pos (Table.contains_of_find? hqueue)]

theorem Vouches.after (hr : b.Vouches serial r) (h : b.Sound serial) (horder : InOrder serial es) :
    (b.after es).Vouches (serialAfter serial es) r := by
  induction es generalizing b serial with
  | nil => exact hr
  | cons e es ih =>
    have hb := h.mono horder.1
    exact ih ((hr.mono horder.1).next hb.isAddressed) hb.next horder.2

/-- While nothing happens to a message after it was returned, it stays on its queue under the
receipt that it was returned under. -/
theorem Returns.exists_mem_after (hreturns : b.Returns e url id receipt)
    (h : b.Sound e.moment.serial) (horder : InOrder (e.moment.serial + 1) es)
    (hvoids : ¬ Occurs (Voids id) (b.next e) es) :
    ∃ x ∈ ((b.next e).after es).messages url, x.id = id ∧ x.receipt = some receipt := by
  obtain ⟨x, hx, rfl, hreceipt⟩ := hreturns.exists_mem h.isAddressed
  exact ⟨x, h.next.mem_after horder hx hvoids, rfl, hreceipt⟩

/-- A receipt that was returned deletes exactly on the queue that it was returned from, and as long
as nothing has happened to the message that it was returned for. -/
theorem Returns.deletes_after {source : String} (hreturns : b.Returns e source id receipt)
    (h : b.Sound e.moment.serial) (horder : InOrder (e.moment.serial + 1) es) :
    ((b.next e).after es).Deletes url receipt ↔
      url = source ∧ ¬ Occurs (Voids id) (b.next e) es := by
  obtain ⟨body, hvouches⟩ := hreturns.vouches h
  rw [deletes_iff]
  constructor
  · rintro ⟨y, hy, hsame⟩
    have hvoids : ¬ Occurs (Voids id) (b.next e) es := fun hvoids ↦
      hvouches.not_hasReceipt_after h.next horder hvoids ⟨url, y, hy, hsame⟩
    obtain ⟨x, hx, hid, -⟩ := hreturns.exists_mem_after h horder hvoids
    have hyid : y.id = id := ((hvouches.after h.next horder).names hy hsame).1
    exact ⟨(h.next.after horder).unique hy hx (hyid.trans hid.symm), hvoids⟩
  · rintro ⟨rfl, hvoids⟩
    obtain ⟨x, hx, -, hreceipt⟩ := hreturns.exists_mem_after h horder hvoids
    exact ⟨x, hx, hreceipt⟩

/-- Where a receipt is the latest one of a message that is held, it is on this message alone. -/
theorem IsLatest.receipt_iff (hlatest : b.IsLatest es url x.id receipt) (h : b.Sound serial)
    (horder : InOrder serial es) (hx : x ∈ (b.after es).messages url) {y : StoredMessage}
    (hy : y ∈ (b.after es).messages url) : y.receipt = some receipt ↔ y.id = x.id := by
  obtain ⟨before, e, after, rfl, hreturns, hsupersedes⟩ := hlatest
  obtain ⟨hbefore, hle, hafter⟩ := inOrder_append.mp horder
  have hb := (h.after hbefore).mono hle
  rw [after_append, after_cons] at hx hy
  have hsound := hb.next.after hafter
  obtain ⟨body, hvouches⟩ := hreturns.vouches hb
  have hvoids : ¬ Occurs (Voids x.id) ((b.after before).next e) after := by
    rw [occurs_voids, not_or]
    exact ⟨hsupersedes, hb.next.not_occurs_removes hafter ⟨x, hx, rfl⟩⟩
  constructor
  · intro hreceipt
    exact ((hvouches.after hb.next hafter).names hy hreceipt).1
  · intro hid
    obtain ⟨z, hz, hzid, hreceipt⟩ := hreturns.exists_mem_after hb hafter hvoids
    rwa [hsound.eq_of_id_eq hy hz (hid.trans hzid.symm)]

/-- To delete a message takes it out of its queue and leaves everything else as it is. -/
theorem Sound.exists_deleteMessage (h : b.Sound serial) (hx : x ∈ b.messages url)
    (hreceipt : x.receipt = some receipt)
    (hown : ∀ y ∈ b.messages url, y.receipt = some receipt → y.id = x.id) :
    ∃ b', b.deleteMessage url receipt = .ok ((), b') ∧
      (∀ other, b'.messages other =
        if url = other then (b.messages url).filter (·.id ≠ x.id) else b.messages other) ∧
      SameDirectory b b' ∧ b'.topics = b.topics := by
  obtain ⟨b', hdelete⟩ := deletes_iff.mpr ⟨x, hx, hreceipt⟩
  obtain ⟨queue, hqueue, -, rfl⟩ := deleteMessage_eq hdelete
  have hmessages := messages_of_find? hqueue
  have herase : (queue.messages.eraseP fun y ↦ y.receipt = some receipt) =
      queue.messages.filter (·.id ≠ x.id) := by
    rw [← hmessages]
    have hiff {y : StoredMessage} (hy : y ∈ b.messages url) :
        y.receipt = some receipt ↔ y.id = x.id :=
      ⟨hown y hy, fun hid ↦ h.eq_of_id_eq hy hx hid ▸ hreceipt⟩
    rw [eraseP_eq_filter]
    · exact List.filter_congr fun y hy ↦ by simp [hiff hy]
    · refine (List.pairwise_map.mp (h.nodup url)).imp_of_mem fun {y z} hy hz hne ↦ ?_
      simpa [hiff hy, hiff hz] using fun hyid hzid ↦ hne (hyid.trans hzid.symm)
  refine ⟨_, hdelete, ?_, .setQueue hqueue _, rfl⟩
  intro other
  rw [messages_setQueue, hmessages, herase]

/-- Only the current receipt deletes. Take any history of a broker that starts empty, whose moments
follow one another, so that no identifier is made twice. Then a receipt deletes on a queue exactly
if the queue exists and holds a message whose latest return, since it arrived there, was under this
receipt. Exactly this message is removed then: the others stay as they are and in their order, on
all queues, and so do attributes, ARNs and topics. A deletion that fails says whether the queue is
missing or the receipt is invalid, and changes nothing. So a receipt that was once returned deletes
as long as its message is not returned again, moved or removed, and only on the queue that it was
returned from. How much time has passed, and whether the message is in sight again, is all the
same. -/
theorem deletes_iff_latest (identity : BrokerIdentity)
    (horder : es.Pairwise fun e f ↦ e.moment.serial < f.moment.serial) (url receipt : String) :
    let start : Broker := { identity := identity }
    let b := start.after es
    (b.Deletes url receipt ↔
      b.queues.contains url ∧ ∃ x ∈ b.messages url, start.IsLatest es url x.id receipt) ∧
    (∀ x ∈ b.messages url, start.IsLatest es url x.id receipt →
      ∃ b', b.deleteMessage url receipt = .ok ((), b') ∧
        (∀ other, b'.messages other =
          if url = other then (b.messages url).filter (·.id ≠ x.id) else b.messages other) ∧
        SameDirectory b b' ∧ b'.topics = b.topics) ∧
    (¬ b.Deletes url receipt →
      b.deleteMessage url receipt = .error
        (if b.queues.contains url then invalidReceipt receipt
          else noQueue "DeleteMessage" url) ∧
      ∀ m, b.next ⟨m, .call (.deleteMessage url receipt)⟩ = b) ∧
    ∀ before e after source id, es = before ++ e :: after →
      (start.after before).Returns e source id receipt →
      (b.Deletes url receipt ↔
        url = source ∧ ¬ Occurs (Voids id) ((start.after before).next e) after) := by
  intro start b
  have horder : InOrder 0 es := inOrder_of_pairwise horder fun _ _ ↦ Nat.zero_le _
  have hstart : start.Sound 0 := sound_start identity 0
  have hsound : b.Sound (serialAfter 0 es) := hstart.after horder
  have hreturned before e after source id (hes : es = before ++ e :: after)
      (hreturns : (start.after before).Returns e source id receipt) :
      b.Deletes url receipt ↔
        url = source ∧ ¬ Occurs (Voids id) ((start.after before).next e) after := by
    subst hes
    obtain ⟨hbefore, hle, hafter⟩ := inOrder_append.mp horder
    have hb : b = ((start.after before).next e).after after := after_append ..
    rw [hb]
    exact hreturns.deletes_after ((hstart.after hbefore).mono hle) hafter
  have hempty : ¬ start.HasReceipt receipt :=
    fun ⟨_, _, hx, _⟩ ↦ absurd hx List.not_mem_nil
  refine ⟨?_, ?_, ?_, hreturned⟩
  · rw [deletes_iff]
    constructor
    · rintro ⟨x, hx, hreceipt⟩
      exact ⟨contains_of_mem hx, x, hx, hstart.isLatest_of_receipt horder hempty hx hreceipt⟩
    · rintro ⟨-, x, hx, hlatest⟩
      exact ⟨x, hx, (hlatest.receipt_iff hstart horder hx hx).mpr rfl⟩
  · intro x hx hlatest
    have hown {y : StoredMessage} (hy : y ∈ b.messages url) :
        y.receipt = some receipt ↔ y.id = x.id :=
      hlatest.receipt_iff hstart horder hx hy
    exact hsound.exists_deleteMessage hx ((hown hx).mpr rfl) fun y hy ↦ (hown hy).mp
  · intro hnot
    have hdelete := not_deletes hnot
    exact ⟨hdelete, fun m ↦ next_of_error hdelete⟩

/-- A message is received twice, and a second queue is there. -/
def sampleReceives : List Entry :=
  [⟨⟨0, .epoch, 0⟩, .call (.createQueue "orders")⟩,
    ⟨⟨0, .epoch, 1⟩, .call (.createQueue "failed")⟩,
    ⟨⟨0, .epoch, 2⟩, .enqueue (queueUrlFor {} "orders") "text"⟩,
    ⟨⟨0, .epoch, 3⟩, .call (.receiveMessage ⟨queueUrlFor {} "orders", 1, 0, 30⟩)⟩,
    ⟨⟨60000, .epoch, 4⟩, .call (.receiveMessage ⟨queueUrlFor {} "orders", 1, 0, 30⟩)⟩]

/-- The receipt of the second receive deletes, on the queue of the message alone, and that of the
first one deletes nowhere. -/
theorem deletes_iff_latest_sample :
    let b := after {} sampleReceives
    (sampleReceives.Pairwise fun e f ↦ e.moment.serial < f.moment.serial) ∧
      b.Deletes (queueUrlFor {} "orders") (Uuid.text 4 0) ∧
      ¬ b.Deletes (queueUrlFor {} "failed") (Uuid.text 4 0) ∧
      ∀ url, ¬ b.Deletes url (Uuid.text 3 0) := by
  intro b
  have horder : sampleReceives.Pairwise fun e f ↦ e.moment.serial < f.moment.serial := by
    decide +kernel
  have hreturns (i : Fin 2) :
      (after {} (sampleReceives.take (3 + i))).Returns
        ⟨⟨60000 * i, .epoch, 3 + i⟩, .call (.receiveMessage ⟨queueUrlFor {} "orders", 1, 0, 30⟩)⟩
        (queueUrlFor {} "orders") (Uuid.text 2 0) (Uuid.text (3 + i) 0) := by
    refine ⟨[⟨Uuid.text 2 0, "text", Uuid.text (3 + i) 0⟩], ?_, _, List.mem_singleton_self _,
      rfl, rfl⟩
    revert i
    decide +kernel
  have hfirst url := (deletes_iff_latest {} horder url (Uuid.text 3 0)).2.2.2
    (sampleReceives.take 3) _ (sampleReceives.drop 4) _ _ rfl (hreturns 0)
  have hsecond url := (deletes_iff_latest {} horder url (Uuid.text 4 0)).2.2.2
    (sampleReceives.take 4) _ [] _ _ rfl (hreturns 1)
  refine ⟨horder, (hsecond _).mpr ⟨rfl, not_occurs_nil⟩, ?_, ?_⟩
  · intro hdeletes
    exact absurd ((hsecond _).mp hdeletes).1 (by decide +kernel)
  · intro url hdeletes
    exact ((hfirst url).mp hdeletes).2 (occurs_cons.mpr (.inl (.inl (.inl ⟨_, _, hreturns 1⟩))))

end History

end MessageBus.Broker
