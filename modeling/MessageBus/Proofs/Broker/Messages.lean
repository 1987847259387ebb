import MessageBus.Proofs.Broker.Operation
import MessageBus.Proofs.Broker.Sweep
/-!
How the operations of a broker change the messages of its queues. There are three ways
(`Broker.Change`): messages arrive at the ends of queues, a receive passes over a queue, and one
message is deleted. Every call that is answered, and every body that is put on a queue, is one of
them (`change_answer`, `change_enqueue`), given that the addresses of the broker lead to queues,
which they do afterwards.
-/

set_option autoImplicit false
set_option relaxedAutoImplicit false

namespace MessageBus

/-- What an answered call has done to messages. -/
inductive Deed where
  | returned (queueUrl : String) (messages : List Received)
  | deleted (queueUrl receipt : String)
  | other
deriving DecidableEq, Repr

def Call.deed : (c : Call) → Except Error c.Reply → Deed
  | .receiveMessage request, .ok messages => .returned request.queueUrl messages
  | .deleteMessage queueUrl receipt, .ok _ => .deleted queueUrl receipt
  | _, _ => .other

namespace Broker

section Messages

variable (b : Broker)

@[simp]
theorem messages_setQueue (url other : String) (queue : Queue) :
    (b.setQueue url queue).messages other =
      if url = other then queue.messages else b.messages other := by
  rw [messages, setQueue, Table.find?_insert]
  by_cases h : url = other
  · rw [if_pos h, if_pos h]
  · rw [if_neg h, if_neg h, messages]

variable {b}

theorem exists_queue_of_contains {url : String} (h : b.queues.contains url) :
    ∃ queue, b.queues.find? url = some queue :=
  Option.isSome_iff_exists.mp h

theorem messages_append {url : String} (h : b.queues.contains url) (other : String)
    (new : List StoredMessage) :
    (b.append url new).messages other =
      b.messages other ++ if url = other then new else [] := by
  obtain ⟨queue, hqueue⟩ := exists_queue_of_contains h
  rw [append, hqueue, messages_setQueue]
  by_cases hurl : url = other
  · subst hurl
    rw [if_pos rfl, if_pos rfl, messages_of_find? hqueue]
  · rw [if_neg hurl, if_neg hurl, List.append_nil]

theorem mem_of_mem_append {url other : String} {new : List StoredMessage} {x : StoredMessage}
    (h : x ∈ (b.append url new).messages other) : x ∈ b.messages other ∨ x ∈ new := by
  unfold append at h
  split at h
  · next queue hqueue =>
    rw [messages_setQueue] at h
    split at h
    · next hurl =>
      rw [← hurl, messages_of_find? hqueue]
      exact List.mem_append.mp h
    · exact .inl h
  · exact .inl h

end Messages

section Queues

variable {b : Broker}

theorem contains_setQueue_iff {url other : String} {queue : Queue} :
    (b.setQueue url queue).queues.contains other ↔ url = other ∨ b.queues.contains other :=
  Table.contains_insert_iff

theorem contains_setQueue {url other : String} (queue : Queue) (h : b.queues.contains other) :
    (b.setQueue url queue).queues.contains other :=
  contains_setQueue_iff.mpr (.inr h)

/-- To change a queue that is there neither makes nor removes one. -/
theorem contains_setQueue_of_find? {url : String} {queue : Queue}
    (hqueue : b.queues.find? url = some queue) (changed : Queue) (other : String) :
    (b.setQueue url changed).queues.contains other = b.queues.contains other := by
  rw [Bool.eq_iff_iff, contains_setQueue_iff]
  constructor
  · rintro (rfl | hother)
    · exact Table.contains_of_find? hqueue
    · exact hother
  · exact .inr

theorem contains_append {url other : String} (new : List StoredMessage)
    (h : b.queues.contains other) : (b.append url new).queues.contains other := by
  rw [append]
  split
  · exact contains_setQueue _ h
  · exact h

theorem urlByArn_append (url : String) (new : List StoredMessage) :
    (b.append url new).urlByArn = b.urlByArn := by
  rw [append]
  split <;> rfl

end Queues

/-- Every ARN leads to a queue that exists. -/
def IsAddressed (b : Broker) : Prop :=
  ∀ arn url, b.urlByArn.find? arn = some url → b.queues.contains url

namespace IsAddressed

variable {b : Broker}

theorem setQueue (h : b.IsAddressed) (url : String) (queue : Queue) :
    (b.setQueue url queue).IsAddressed :=
  fun arn other hurl ↦ contains_setQueue queue (h arn other hurl)

theorem append (h : b.IsAddressed) (url : String) (new : List StoredMessage) :
    (b.append url new).IsAddressed := by
  intro arn other hurl
  rw [urlByArn_append] at hurl
  exact contains_append new (h arn other hurl)

theorem sweepQueue (h : b.IsAddressed) (m : Moment) (url : String) (queue : Queue)
    (room visibilityMs : Nat) : (b.sweepQueue m url queue room visibilityMs).2.IsAddressed := by
  unfold Broker.sweepQueue
  dsimp only
  split
  · exact (h.setQueue _ _).append _ _
  · exact h.setQueue _ _

end IsAddressed

/-- The copies of a body that arrive on a queue, when one goes to each endpoint. -/
def copies (b : Broker) (m : Moment) (body url : String) (index : Nat)
    (endpoints : List String) : List StoredMessage :=
  (endpoints.zipIdx index).filterMap fun e ↦
    if b.urlByArn.find? e.1 = some url then some (.arrived (m.id e.2) body m.millis) else none

/-- Messages that arrive at a moment, each under an identifier of its own. -/
structure Arrivals (m : Moment) (new : String → List StoredMessage) : Prop where
  arrived : ∀ {url x}, x ∈ new url → ∃ index body, x = .arrived (m.id index) body m.millis
  nodup : ∀ url, ((new url).map (·.id)).Nodup
  unique : ∀ {url other x y}, x ∈ new url → y ∈ new other → x.id = y.id → url = other

/-- How the messages of queues change at a moment. -/
inductive Change (m : Moment) (b : Broker) : Deed → Broker → Prop
  | arrivals {b' : Broker} (new : String → List StoredMessage) (hnew : Arrivals m new)
    (hmessages : ∀ url, b'.messages url = b.messages url ++ new url) : Change m b .other b'
  | pass {b' : Broker} (request : ReceiveRequest)
    (hmessages : ∀ url, b'.messages url =
      (if request.queueUrl = url then (b.pass m request).kept else b.messages url) ++
        if (b.redriveAt? request.queueUrl).map Prod.fst = some url then
          (b.pass m request).dead.map (·.moved m.millis)
        else []) : Change m b (.returned request.queueUrl (b.pass m request).received) b'
  | deletion {b' : Broker} (url receipt : String)
    (hreceipt : ∃ x ∈ b.messages url, x.receipt = some receipt)
    (hmessages : ∀ other, b'.messages other =
      if url = other then (b.messages url).eraseP fun x ↦ x.receipt = some receipt
      else b.messages other) : Change m b (.deleted url receipt) b'

theorem Arrivals.none (m : Moment) : Arrivals m fun _ ↦ [] where
  arrived h := absurd h List.not_mem_nil
  nodup _ := List.nodup_nil
  unique h := absurd h List.not_mem_nil

theorem Arrivals.single (m : Moment) (index : Nat) (body url : String) :
    Arrivals m fun other ↦ if url = other then [.arrived (m.id index) body m.millis] else [] where
  arrived h := by
    split at h
    · exact ⟨index, body, List.mem_singleton.mp h⟩
    · exact absurd h List.not_mem_nil
  nodup other := by
    split <;> simp
  unique hx hy _ := by
    split at hx
    · split at hy
      · next hurl hother => exact hurl.symm.trans hother
      · exact absurd hy List.not_mem_nil
    · exact absurd hx List.not_mem_nil

theorem Change.none (m : Moment) {b b' : Broker} (h : ∀ url, b'.messages url = b.messages url) :
    Change m b .other b' :=
  .arrivals (fun _ ↦ []) (.none m) fun url ↦ by rw [h, List.append_nil]

theorem mem_copies {b : Broker} {m : Moment} {body url : String} {index : Nat}
    {endpoints : List String} {x : StoredMessage} (h : x ∈ b.copies m body url index endpoints) :
    ∃ endpoint i, (endpoint, i) ∈ endpoints.zipIdx index ∧ b.urlByArn.find? endpoint = some url ∧
      x = .arrived (m.id i) body m.millis := by
  obtain ⟨⟨endpoint, i⟩, hmem, hx⟩ := List.mem_filterMap.mp h
  split at hx
  · next hurl => exact ⟨endpoint, i, hmem, hurl, (Option.some.inj hx).symm⟩
  · cases hx

/-- An endpoint that leads to a queue has a copy there. -/
theorem exists_mem_copies {b : Broker} {m : Moment} {endpoints : List String}
    {endpoint url : String} (hendpoint : endpoint ∈ endpoints)
    (hurl : b.urlByArn.find? endpoint = some url) (body : String) (index : Nat) :
    ∃ i, .arrived (m.id i) body m.millis ∈ b.copies m body url index endpoints := by
  obtain ⟨i, hi⟩ := List.mem_iff_getElem?.mp hendpoint
  refine ⟨index + i, List.mem_filterMap.mpr
    ⟨(endpoint, index + i), List.mk_add_mem_zipIdx_iff_getElem?.mpr hi, ?_⟩⟩
  rw [if_pos hurl]

theorem Arrivals.copies (b : Broker) (m : Moment) (body : String) (index : Nat)
    (endpoints : List String) : Arrivals m fun url ↦ b.copies m body url index endpoints where
  arrived h := by
    obtain ⟨_, i, _, _, rfl⟩ := mem_copies h
    exact ⟨i, body, rfl⟩
  nodup url := by
    induction endpoints generalizing index with
    | nil => simp [Broker.copies]
    | cons endpoint rest ih =>
      have hrest := ih (index + 1)
      rw [Broker.copies, List.zipIdx_cons, List.filterMap_cons]
      split
      · exact hrest
      · next x hx =>
        split at hx
        · obtain rfl := Option.some.inj hx
          rw [List.map_cons, List.nodup_cons]
          refine ⟨?_, hrest⟩
          intro hmem
          obtain ⟨y, hy, hid⟩ := List.mem_map.mp hmem
          obtain ⟨_, i, hi, _, rfl⟩ := mem_copies hy
          have hle := (List.mem_zipIdx hi).1
          have := Moment.id_injective hid
          omega
        · cases hx
  unique hx hy hid := by
    obtain ⟨endpoint, i, hi, hurl, rfl⟩ := mem_copies hx
    obtain ⟨endpoint', i', hi', hurl', rfl⟩ := mem_copies hy
    obtain rfl := Moment.id_injective hid
    have hsame : endpoint = endpoint' :=
      (List.mem_zipIdx hi).2.2.trans (List.mem_zipIdx hi').2.2.symm
    rw [hsame, hurl'] at hurl
    exact (Option.some.inj hurl).symm

section Operations

variable {b b' : Broker} {m : Moment}

theorem deliver_isAddressed (h : b.IsAddressed) (body : String) (index : Nat)
    (endpoints : List String) : (deliver m body index endpoints b).IsAddressed := by
  induction endpoints generalizing b index with
  | nil => exact h
  | cons endpoint rest ih =>
    rw [deliver]
    apply ih
    split
    · exact h.append _ _
    · exact h

theorem messages_deliver (h : b.IsAddressed) (body : String) (index : Nat)
    (endpoints : List String) (url : String) :
    (deliver m body index endpoints b).messages url =
      b.messages url ++ b.copies m body url index endpoints := by
  induction endpoints generalizing b index with
  | nil => rw [deliver, copies, List.zipIdx_nil, List.filterMap_nil, List.append_nil]
  | cons endpoint rest ih =>
    rw [deliver, copies, List.zipIdx_cons, List.filterMap_cons]
    cases hendpoint : b.urlByArn.find? endpoint with
    | none => simpa [copies] using ih h (index + 1)
    | some target =>
      have hcopies : (b.append target [.arrived (m.id index) body m.millis]).copies m body url
          (index + 1) rest = b.copies m body url (index + 1) rest := by
        simp only [copies, urlByArn_append]
      simp only [ih (h.append _ _), hcopies, messages_append (h endpoint target hendpoint)]
      by_cases hurl : target = url
      · simp [hurl, copies]
      · simp [hurl, copies]

theorem change_createQueue {name url : String} (h : b.IsAddressed)
    (hcreate : b.createQueue name = .ok (url, b')) :
    b'.IsAddressed ∧ Change m b .other b' := by
  obtain ⟨-, ⟨-, rfl⟩ | ⟨hnone, rfl⟩⟩ := createQueue_eq hcreate
  · exact ⟨h, .none m fun _ ↦ rfl⟩
  · constructor
    · intro other target htarget
      rw [Table.find?_insert] at htarget
      split at htarget
      · obtain rfl := Option.some.inj htarget
        simp [setQueue, Table.contains]
      · exact contains_setQueue _ (h other target htarget)
    · apply Change.none m
      intro other
      have hempty : b.messages url = [] := by rw [messages, hnone]
      by_cases hother : url = other
      · rw [← hother, hempty]
        exact (messages_setQueue ..).trans (if_pos rfl)
      · exact (messages_setQueue ..).trans (if_neg hother)

/-- A receive that asks for enough messages returns each that can be taken. -/
theorem exists_receive {x : StoredMessage} {request : ReceiveRequest}
    (hx : x ∈ b.messages request.queueUrl)
    (hroom : (b.messages request.queueUrl).length ≤ request.maxNumberOfMessages)
    (hvisible : x.isVisible m.millis)
    (husable : ∀ target limit, b.redriveAt? request.queueUrl = some (target, limit) →
      x.receiveCount < limit) :
    ∃ messages b', b.receive m request = .ok (messages, b') ∧ ∃ r ∈ messages, r.id = x.id := by
  cases hqueue : b.queues.find? request.queueUrl with
  | none =>
    rw [messages, hqueue] at hx
    exact absurd hx List.not_mem_nil
  | some queue =>
    refine ⟨_, _, by rw [receive, hqueue], ?_⟩
    rw [messages_of_find? hqueue] at hx hroom
    rw [redriveAt?_of_find? hqueue] at husable
    refine Sweep.exists_mem_received hx (Nat.le_trans hroom (Nat.le_max_left ..)) hvisible ?_
    cases hredrive : b.redrive? queue with
    | none => rfl
    | some redrive => simpa [Sweep.Terms.isExhausted] using husable redrive.1 redrive.2 hredrive

theorem urlByArn_of_redriveAt? {url target : String} {limit : Nat}
    (h : b.redriveAt? url = some (target, limit)) :
    ∃ arn, b.urlByArn.find? arn = some target := by
  obtain ⟨queue, _, hredrive⟩ := Option.bind_eq_some_iff.mp h
  rw [redrive?] at hredrive
  obtain ⟨policy, _, hredrive⟩ := Option.bind_eq_some_iff.mp hredrive
  obtain ⟨redrive, _, hredrive⟩ := Option.bind_eq_some_iff.mp hredrive
  obtain ⟨found, hfound, hredrive⟩ := Option.bind_eq_some_iff.mp hredrive
  cases hredrive
  exact ⟨redrive.target, hfound⟩

/-- What a pass leaves on each queue. -/
theorem messages_sweepQueue {url : String} {queue : Queue} (h : b.IsAddressed)
    (hqueue : b.queues.find? url = some queue) (m : Moment) (room visibilityMs : Nat)
    (other : String) :
    let s := Sweep.scan ⟨m, visibilityMs, (b.redrive? queue).map Prod.snd⟩ room 0 queue.messages
    (b.sweepQueue m url queue room visibilityMs).2.messages other =
      (if url = other then s.kept else b.messages other) ++
        if (b.redrive? queue).map Prod.fst = some other then s.dead.map (·.moved m.millis)
        else [] := by
  unfold sweepQueue
  cases hredrive : b.redrive? queue with
  | none => simp
  | some redrive =>
    obtain ⟨arn, harn⟩ := urlByArn_of_redriveAt? ((redriveAt?_of_find? hqueue).trans hredrive)
    have htarget (kept : List StoredMessage) :
        (b.setQueue url { queue with messages := kept }).queues.contains redrive.1 :=
      contains_setQueue _ (h arn redrive.1 harn)
    simp [messages_append (htarget _)]

/-- What a receive leaves on each queue. -/
theorem messages_receive {request : ReceiveRequest} {messages : List Received}
    (h : b.IsAddressed) (hreceive : b.receive m request = .ok (messages, b')) (url : String) :
    b'.messages url =
      (if request.queueUrl = url then (b.pass m request).kept else b.messages url) ++
        if (b.redriveAt? request.queueUrl).map Prod.fst = some url then
          (b.pass m request).dead.map (·.moved m.millis)
        else [] := by
  obtain ⟨queue, hqueue, -, rfl⟩ := receive_eq hreceive
  rw [messages_sweepQueue h hqueue, pass_of_find? hqueue, redriveAt?_of_find? hqueue]

theorem change_receive {request : ReceiveRequest} {messages : List Received}
    (h : b.IsAddressed) (hreceive : b.receive m request = .ok (messages, b')) :
    b'.IsAddressed ∧ Change m b (.returned request.queueUrl messages) b' := by
  have hmessages := messages_receive h hreceive
  obtain ⟨queue, -, rfl, rfl⟩ := receive_eq hreceive
  exact ⟨h.sweepQueue _ _ _ _ _, .pass request hmessages⟩

theorem change_deleteMessage {url receipt : String} (h : b.IsAddressed)
    (hdelete : b.deleteMessage url receipt = .ok ((), b')) :
    b'.IsAddressed ∧ Change m b (.deleted url receipt) b' := by
  obtain ⟨queue, hqueue, hreceipt, rfl⟩ := deleteMessage_eq hdelete
  rw [← messages_of_find? hqueue] at hreceipt
  refine ⟨h.setQueue _ _, .deletion url receipt hreceipt fun other ↦ ?_⟩
  rw [messages_setQueue, messages_of_find? hqueue]

theorem messages_setAttributes {url : String} {queue : Queue}
    (hqueue : b.queues.find? url = some queue) (attributes : Table String String) (other : String) :
    (b.setQueue url { queue with attributes := attributes }).messages other =
      b.messages other := by
  rw [messages_setQueue]
  split
  · next hurl => rw [← hurl, messages_of_find? hqueue]
  · rfl

/-- An answered call changes messages in one of the three ways, and addresses still lead to
queues. -/
theorem change_answer (h : b.IsAddressed) (c : Call) {reply : c.Reply}
    (hanswer : b.answer m c = .ok (reply, b')) :
    b'.IsAddressed ∧ Change m b (c.deed (.ok reply)) b' := by
  cases c with
  | createTopic name =>
    obtain ⟨-, ⟨-, rfl⟩ | ⟨-, rfl⟩⟩ := createTopic_eq hanswer <;>
      exact ⟨h, .none m fun _ ↦ rfl⟩
  | setTopicAttributes topicArn name value =>
    obtain ⟨topic, -, rfl⟩ := setTopicAttribute_eq hanswer
    exact ⟨h, .none m fun _ ↦ rfl⟩
  | subscribe topicArn protocol endpoint =>
    obtain ⟨-, topic, -, ⟨s, -, -, -, rfl⟩ | ⟨-, -, rfl⟩⟩ := subscribe_eq hanswer <;>
      exact ⟨h, .none m fun _ ↦ rfl⟩
  | publish topicArn message =>
    obtain ⟨-, -, rfl⟩ := publish_eq hanswer
    exact ⟨deliver_isAddressed h _ 1 _, .arrivals _ (.copies b m _ 1 _) (messages_deliver h _ 1 _)⟩
  | createQueue name => exact change_createQueue h hanswer
  | getQueueAttributes queueUrl names =>
    obtain ⟨all, -, -, rfl⟩ := getQueueAttributes_eq hanswer
    exact ⟨h, .none m fun _ ↦ rfl⟩
  | setQueueAttributes queueUrl attributes =>
    obtain ⟨-, queue, hqueue, rfl⟩ := setQueueAttributes_eq hanswer
    exact ⟨h.setQueue _ _, .none m (messages_setAttributes hqueue _)⟩
  | receiveMessage request => exact change_receive h hanswer
  | deleteMessage queueUrl receipt => exact change_deleteMessage h hanswer

theorem change_enqueue {url body id : String} (h : b.IsAddressed)
    (henqueue : b.enqueue m url body = .ok (id, b')) :
    b'.IsAddressed ∧ Change m b .other b' := by
  obtain ⟨hcontains, -, rfl⟩ := enqueue_eq henqueue
  exact ⟨h.append _ _,
    .arrivals _ (.single m 0 body url) fun other ↦ messages_append hcontains other _⟩

end Operations

end Broker

end MessageBus
