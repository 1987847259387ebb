import Mathlib.Data.List.Flatten
import Mathlib.Data.List.Nodup
import MessageBus.Proofs.Broker.History
import MessageBus.Proofs.Replace
import MessageBus.Proofs.Subscriber.Outcome
/-!
Batches: messages of one queue that are delivered side by side. At any time any of the deliveries
may perform its next effect, each handler ends in its own way, and what else happens to the broker
leaves the queue alone. The order does not matter (`Run.sameEnd`): whichever way a batch comes to
its end, the queue holds the same messages, the same messages are acknowledged, the error sink has
been given the same errors, though in another order, and every counter is the same.

Nothing but the deletions of the batch changes the queue, and the receipts of its messages are
different. So each deletion is answered as it would have been at the beginning (`Traced`), and a
delivery whose effects have fixed results goes through one trace only (`Program.Leads.unique`).
-/

set_option autoImplicit false
set_option relaxedAutoImplicit false

namespace MessageBus

/-- A program goes through one trace, where the results of its effects are fixed. -/
theorem Program.Leads.unique {α : Type} {p : Program α} {past past' : List Performed} {a a' : α}
    {Fixed : (e : Effect) → e.Result → Prop}
    (hfixed : ∀ {e r r'}, Fixed e r → Fixed e r' → r = r')
    (h : p.Leads past (.done a)) (h' : p.Leads past' (.done a'))
    (hpast : ∀ x ∈ past, Fixed x.effect x.result)
    (hpast' : ∀ x ∈ past', Fixed x.effect x.result) : past = past' := by
  induction p generalizing past past' with
  | done b => rw [h.of_done.1, h'.of_done.1]
  | perform e next ih =>
    obtain ⟨r, rest, rfl, hrest⟩ := h.perform_of_done
    obtain ⟨r', rest', rfl, hrest'⟩ := h'.perform_of_done
    obtain ⟨hr, hpastRest⟩ := List.forall_mem_cons.mp hpast
    obtain ⟨hr', hpastRest'⟩ := List.forall_mem_cons.mp hpast'
    have hsame : r = r' := hfixed hr hr'
    subst hsame
    rw [ih r hrest hrest' hpastRest hpastRest']

/-- A counter after some increases. -/
theorem Counters.find?_foldl_increase (t : Counters) (cs : List Counter) (c : Counter) :
    Table.find? (cs.foldl Counters.increase t) c =
      if cs.count c = 0 then Table.find? t c
      else some ((Table.find? t c).getD 0 + cs.count c) := by
  induction cs generalizing t with
  | nil => simp
  | cons first rest ih =>
    rw [List.foldl_cons, ih, increase, Table.find?_insert, List.count_cons]
    by_cases hfirst : first = c
    · subst hfirst
      by_cases hrest : rest.count first = 0 <;> simp [hrest]
      omega
    · simp [hfirst]

theorem Counters.find?_foldl_perm (t : Counters) {cs cs' : List Counter} (h : cs.Perm cs')
    (c : Counter) : Table.find? (cs.foldl Counters.increase t) c =
      Table.find? (cs'.foldl Counters.increase t) c := by
  rw [find?_foldl_increase, find?_foldl_increase, h.count_eq]

namespace Delivery

/-- The receipt of a deletion that was answered. -/
def deletion? : Performed → Option String
  | ⟨.call (.deleteMessage _ receipt), .ok _⟩ => some receipt
  | _ => none

/-- The receipts under which messages were deleted. -/
def deletions (past : List Performed) : List String := past.filterMap deletion?

/-- The effects that deliveries have. -/
def IsCarriedOut : Effect → Prop
  | .call _ | .handle _ _ | .count _ | .report _ => True
  | _ => False

theorem isCarriedOut_of_isQuiet (e : Effect) (h : IsQuiet e) : IsCarriedOut e := by
  cases e with
  | call | handle | count | report => trivial
  | lookup | await | settle | stamp | policyIds | pause => exact h

theorem all_run (type : PayloadType) (prototype : Payload) (queueUrl : String) (m : Received) :
    (run type prototype queueUrl m).All IsCarriedOut := by
  cases hbody : Envelope.ofBody type prototype m.body with
  | error e =>
    rw [run_of_error hbody]
    exact (all_fail ..).mono isCarriedOut_of_isQuiet
  | ok e =>
    rw [run_of_ok hbody]
    refine ⟨trivial, fun outcome ↦ ⟨trivial, fun _ ↦ ?_⟩⟩
    by_cases houtcome : outcome = .success
    · subst houtcome
      rw [respond_success]
      exact ⟨trivial, fun r ↦ (all_acknowledged _ r).mono isCarriedOut_of_isQuiet⟩
    · exact (all_respond houtcome).mono isCarriedOut_of_isQuiet

end Delivery

namespace Batch

open Delivery

/-- A message that is to be delivered, and what its delivery depends on: the prototype that the
handler chooses, and how the handler ends. -/
structure Job where
  message : Received
  prototype : Payload
  outcome : Handling

/-- A delivery of a batch: what it has done, and what is left to do. -/
structure Task where
  job : Job
  past : List Performed := []
  rest : Program Unit

def Task.start (type : PayloadType) (queueUrl : String) (j : Job) : Task where
  job := j
  rest := Delivery.run type j.prototype queueUrl j.message

/-- A delivery after one more effect. -/
def Task.after (k : Task) (e : Effect) (r : e.Result) (rest : Program Unit) : Task :=
  { k with past := k.past ++ [⟨e, r⟩], rest := rest }

/-- What the deliveries share: the broker, the counters, and what the error sink was given. -/
structure Shared where
  broker : Broker
  counters : Counters
  sink : List Error := []

/-- The result of an effect of a delivery whose handler ends in a given way, and what the effect
does. -/
inductive Shared.Answers (outcome : Handling) (w : Shared) : (e : Effect) → e.Result → Shared → Prop
  | call (m : Moment) (c : Call) : Answers outcome w (.call c) (w.broker.replyTo ⟨m, .call c⟩)
      { w with broker := w.broker.next ⟨m, .call c⟩ }
  | handle (payload : Payload) (metadata : Metadata) :
    Answers outcome w (.handle payload metadata) outcome w
  | count (c : Counter) :
    Answers outcome w (.count c) () { w with counters := w.counters.increase c }
  | report (e : Error) : Answers outcome w (.report e) () { w with sink := w.sink ++ [e] }

end Batch

structure Batch where
  shared : Batch.Shared
  tasks : List Batch.Task

namespace Batch

open Delivery

/-- A batch of which nothing has been delivered yet. -/
def start (type : PayloadType) (queueUrl : String) (w : Shared) (jobs : List Job) : Batch where
  shared := w
  tasks := jobs.map (Task.start type queueUrl)

/-- What may happen next, with the place of the delivery that goes on. -/
inductive Step (queueUrl : String) : Batch → Option Nat → Batch → Prop
  /-- Something else happens to the broker, which leaves the queue alone. -/
  | aside {s : Batch} (e : Broker.Entry)
    (hqueue : (s.shared.broker.next e).queues.find? queueUrl =
      s.shared.broker.queues.find? queueUrl) :
    Step queueUrl s none { s with shared := { s.shared with broker := s.shared.broker.next e } }
  | perform {s : Batch} {j : Nat} {k : Task} (hk : s.tasks[j]? = some k) {e : Effect}
    {next : e.Result → Program Unit} (hrest : k.rest = .perform e next) {r : e.Result} {w : Shared}
    (h : s.shared.Answers k.job.outcome e r w) :
    Step queueUrl s (some j) ⟨w, s.tasks.set j (k.after e r (next r))⟩

/-- A sequence of steps. -/
inductive Run (queueUrl : String) : Batch → List (Option Nat) → Batch → Prop
  | refl (s : Batch) : Run queueUrl s [] s
  | step {s t u : Batch} {place : Option Nat} {places : List (Option Nat)}
    (hstep : Step queueUrl s place t) (h : Run queueUrl t places u) :
    Run queueUrl s (place :: places) u

/-- Whether all deliveries have come to their end. -/
def IsDone (s : Batch) : Prop := ∀ k ∈ s.tasks, k.rest = .done ()

/-- The receipts under which the deliveries have deleted messages. -/
def gone (s : Batch) : List String := s.tasks.flatMap fun k ↦ deletions k.past

/-- The messages whose deletion was answered. -/
def acknowledged (s : Batch) : List Received :=
  (s.tasks.filter fun k ↦ k.job.message.receipt ∈ deletions k.past).map (·.job.message)

/-- Whether two batches have come to the same end, as far as their queue, the error sink and the
counters go. -/
structure SameEnd (queueUrl : String) (s t : Batch) : Prop where
  queue : s.shared.broker.queues.find? queueUrl = t.shared.broker.queues.find? queueUrl
  acknowledged : s.acknowledged = t.acknowledged
  errors : s.shared.sink.Perm t.shared.sink
  counters : ∀ c, Table.find? s.shared.counters c = Table.find? t.shared.counters c

section Runs

variable {queueUrl : String} {s t u : Batch} {places : List (Option Nat)}

theorem Run.append {more : List (Option Nat)} (h : Run queueUrl s places t)
    (hmore : Run queueUrl t more u) : Run queueUrl s (places ++ more) u := by
  induction h with
  | refl => exact hmore
  | step hstep _ ih => exact .step hstep (ih hmore)

theorem Shared.exists_answer {e : Effect} (he : IsCarriedOut e) (w : Shared) (outcome : Handling) :
    ∃ r w', w.Answers outcome e r w' := by
  cases e with
  | call c => exact ⟨_, _, .call ⟨0, .epoch, 0⟩ c⟩
  | handle payload metadata => exact ⟨_, _, .handle payload metadata⟩
  | count c => exact ⟨_, _, .count c⟩
  | report e => exact ⟨_, _, .report e⟩
  | lookup | await | settle | stamp | policyIds | pause => exact he.elim

/-- A delivery can be brought to its end while the others wait. The induction is on what is left of
the delivery. -/
theorem exists_run_task (queueUrl : String) {j : Nat} {k : Task} (hk : s.tasks[j]? = some k)
    (hall : k.rest.All IsCarriedOut) :
    ∃ n t k', Run queueUrl s (List.replicate n (some j)) t ∧ k'.rest = .done () ∧
      t.tasks = s.tasks.set j k' := by
  obtain ⟨job, past, rest⟩ := k
  induction rest generalizing s past with
  | done a =>
    refine ⟨0, s, ⟨job, past, .done a⟩, .refl s, rfl, ?_⟩
    obtain ⟨hj, hget⟩ := List.getElem?_eq_some_iff.mp hk
    rw [← hget, List.set_getElem_self]
  | perform e next ih =>
    obtain ⟨he, hnext⟩ := hall
    obtain ⟨r, w, hanswer⟩ := s.shared.exists_answer he job.outcome
    let after : Batch := ⟨w, s.tasks.set j ⟨job, past ++ [⟨e, r⟩], next r⟩⟩
    have hstep : Step queueUrl s (some j) after := .perform hk rfl hanswer
    have hafter : after.tasks[j]? = some ⟨job, past ++ [⟨e, r⟩], next r⟩ :=
      List.getElem?_set_self (List.getElem?_eq_some_iff.mp hk).1
    obtain ⟨n, t, k', hrun, hdone, htasks⟩ := ih r (past ++ [⟨e, r⟩]) hafter (hnext r)
    refine ⟨n + 1, t, k', ?_, hdone, ?_⟩
    · rw [List.replicate_succ]
      exact .step hstep hrun
    · rw [htasks, List.set_set]

/-- A batch can be brought to its end by one delivery after the other. The induction is on the
number of deliveries that have come to their end. -/
theorem exists_run_in_order (queueUrl : String) (hall : ∀ k ∈ s.tasks, k.rest.All IsCarriedOut) :
    ∃ (order : List Nat) (t : Batch), Run queueUrl s (order.map some) t ∧
      order.Pairwise (· ≤ ·) ∧ t.IsDone := by
  have hfirst : ∀ n ≤ s.tasks.length, ∃ (order : List Nat) (t : Batch),
      Run queueUrl s (order.map some) t ∧ order.Pairwise (· ≤ ·) ∧ (∀ j ∈ order, j < n) ∧
      t.tasks.length = s.tasks.length ∧
      ∀ j k, t.tasks[j]? = some k → (j < n → k.rest = .done ()) ∧
        (n ≤ j → s.tasks[j]? = some k) := by
    intro n hn
    induction n with
    | zero => exact ⟨[], s, .refl s, .nil, by simp, rfl, fun j k hk ↦ ⟨by simp, fun _ ↦ hk⟩⟩
    | succ n ih =>
      obtain ⟨order, t, hrun, hsorted, hlt, hlength, htasks⟩ := ih (Nat.le_of_succ_le hn)
      have hbound : n < t.tasks.length := hlength ▸ hn
      have hk : t.tasks[n]? = some t.tasks[n] := List.getElem?_eq_getElem hbound
      have hsame := (htasks n _ hk).2 (Nat.le_refl n)
      obtain ⟨count, u, k', hmore, hdone, hset⟩ :=
        exists_run_task queueUrl hk (hall _ (List.mem_of_getElem? hsame))
      refine ⟨order ++ List.replicate count n, u, ?_, ?_, ?_, ?_, ?_⟩
      · rw [List.map_append, List.map_replicate]
        exact hrun.append hmore
      · refine List.pairwise_append.mpr ⟨hsorted, List.pairwise_replicate.mpr (.inr (by simp)), ?_⟩
        intro i hi j hj
        rw [List.eq_of_mem_replicate hj]
        exact Nat.le_of_lt (hlt i hi)
      · intro j hj
        rcases List.mem_append.mp hj with hj | hj
        · exact Nat.lt_succ_of_lt (hlt j hj)
        · rw [List.eq_of_mem_replicate hj]
          exact Nat.lt_succ_self n
      · rw [hset, List.length_set, hlength]
      · intro j k hj
        rw [hset] at hj
        rcases getElem?_set_cases hj with ⟨rfl, rfl⟩ | ⟨hne, hj⟩
        · exact ⟨fun _ ↦ hdone, fun h ↦ absurd h (Nat.not_succ_le_self n)⟩
        · obtain ⟨hbefore, hbehind⟩ := htasks j k hj
          exact ⟨fun h ↦ hbefore (by omega), fun h ↦ hbehind (by omega)⟩
  obtain ⟨order, t, hrun, hsorted, -, hlength, htasks⟩ := hfirst _ (Nat.le_refl _)
  refine ⟨order, t, hrun, hsorted, fun k hk ↦ ?_⟩
  obtain ⟨j, hj⟩ := List.mem_iff_getElem?.mp hk
  exact (htasks j k hj).1 (hlength ▸ (List.getElem?_eq_some_iff.mp hj).1)

end Runs

/-! ### Deletions side by side -/

/-- The results that the effects of a delivery have. The handler ends in its way, and a deletion is
answered as a broker would answer it. -/
def IsFixed (b : Broker) (outcome : Handling) : (e : Effect) → e.Result → Prop
  | .call (.deleteMessage queueUrl receipt), reply =>
    reply = (b.deleteMessage queueUrl receipt).map Prod.fst
  | .handle _ _, r => r = outcome
  | .count _, _ | .report _, _ => True
  | _, _ => False

theorem IsFixed.unique {b : Broker} {outcome : Handling} {e : Effect} {r r' : e.Result}
    (h : IsFixed b outcome e r) (h' : IsFixed b outcome e r') : r = r' := by
  cases e with
  | call c => cases c <;> first | exact h.elim | exact Eq.trans h (Eq.symm h')
  | handle => exact Eq.trans h (Eq.symm h')
  | count | report => rfl
  | lookup | await | settle | stamp | policyIds | pause => exact h.elim

/-- A queue without the messages under some receipts. -/
def without (queue : Queue) (receipts : List String) : Queue :=
  { queue with messages := queue.messages.filter fun x ↦ ∀ r ∈ receipts, x.receipt ≠ some r }

section Without

variable {queue : Queue} {receipts : List String} {receipt : String}

theorem without_nil : without queue [] = queue := by
  have hall : queue.messages.filter (fun x ↦ ∀ r ∈ ([] : List String), x.receipt ≠ some r) =
      queue.messages := List.filter_eq_self.mpr (by simp)
  rw [without, hall]

theorem without_perm {others : List String} (h : receipts.Perm others) :
    without queue receipts = without queue others := by
  simp only [without, h.mem_iff]

/-- Whether no two messages of a queue are under one receipt. -/
def HasOwnReceipts (queue : Queue) : Prop :=
  ∀ receipt,
    queue.messages.Pairwise fun x y ↦ ¬ (x.receipt = some receipt ∧ y.receipt = some receipt)

/-- What is deleted under a receipt of its own is gone with those that are gone already. -/
theorem without_cons (h : HasOwnReceipts queue) :
    { without queue receipts with messages :=
      (without queue receipts).messages.eraseP fun x ↦ x.receipt = some receipt } =
        without queue (receipt :: receipts) := by
  have hpairs : (without queue receipts).messages.Pairwise fun x y ↦
      ¬ (decide (x.receipt = some receipt) = true ∧ decide (y.receipt = some receipt) = true) := by
    simpa [without] using (h receipt).sublist List.filter_sublist
  rw [eraseP_eq_filter hpairs]
  simp only [without, List.filter_filter]
  congr 1
  apply List.filter_congr
  simp

/-- What else is gone does not matter to what is found under a receipt. -/
theorem find?_without (h : receipt ∉ receipts) :
    (without queue receipts).messages.find? (fun x ↦ x.receipt = some receipt) =
      queue.messages.find? fun x ↦ x.receipt = some receipt := by
  rw [without, List.find?_filter]
  congr 1
  funext x
  by_cases hx : x.receipt = some receipt
  · have hne : ∀ r ∈ receipts, receipt ≠ r := fun r hr hsame ↦ h (hsame ▸ hr)
    simpa [hx] using hne
  · simp [hx]

end Without

section Deletion

variable {b w : Broker} {queueUrl receipt : String} {gone : List String}

/-- A deletion is answered as if nothing were gone, as long as its own receipt is not. -/
theorem deleteMessage_without
    (hqueue : b.queues.find? queueUrl = (w.queues.find? queueUrl).map (without · gone))
    (hreceipt : receipt ∉ gone) :
    (b.deleteMessage queueUrl receipt).map Prod.fst =
      (w.deleteMessage queueUrl receipt).map Prod.fst := by
  unfold Broker.deleteMessage
  cases hfind : w.queues.find? queueUrl with
  | none =>
    rw [hfind] at hqueue
    simp only [hqueue, Option.map_none]
  | some queue =>
    rw [hfind] at hqueue
    simp only [hqueue, Option.map_some, find?_without hreceipt]
    cases queue.messages.find? fun x ↦ x.receipt = some receipt <;> rfl

/-- The queue after a deletion, which may have been answered or not. -/
theorem find?_next_deletion (m : Moment)
    (hown : ∀ queue, w.queues.find? queueUrl = some queue → HasOwnReceipts queue)
    (hqueue : b.queues.find? queueUrl = (w.queues.find? queueUrl).map (without · gone)) :
    (b.next ⟨m, .call (.deleteMessage queueUrl receipt)⟩).queues.find? queueUrl =
      (w.queues.find? queueUrl).map (without · (deletions
        [⟨.call (.deleteMessage queueUrl receipt),
          b.replyTo ⟨m, .call (.deleteMessage queueUrl receipt)⟩⟩] ++ gone)) := by
  have hreply : b.replyTo ⟨m, .call (.deleteMessage queueUrl receipt)⟩ =
    (b.deleteMessage queueUrl receipt).map Prod.fst := rfl
  cases hdelete : b.deleteMessage queueUrl receipt with
  | error e =>
    rw [hreply, hdelete,
      Broker.next_of_error (e := ⟨m, .call (.deleteMessage queueUrl receipt)⟩) hdelete]
    exact hqueue
  | ok result =>
    obtain ⟨⟨⟩, b'⟩ := result
    rw [hreply, hdelete,
      Broker.next_of_ok (e := ⟨m, .call (.deleteMessage queueUrl receipt)⟩) hdelete]
    obtain ⟨queue, hfind, -, rfl⟩ := Broker.deleteMessage_eq hdelete
    rw [hfind] at hqueue
    obtain ⟨old, hold, rfl⟩ := Option.map_eq_some_iff.mp hqueue.symm
    rw [hold, Option.map_some]
    exact (Table.find?_insert_self ..).trans (congrArg some (without_cons (hown old hold)))

end Deletion

/-! ### Traces of a batch -/

/-- Whether a batch has come about from jobs, each delivery by a trace of fixed results: what it
has deleted is gone from the queue, and what it has counted and reported is in the counters and in
the sink. -/
structure Traced (type : PayloadType) (queueUrl : String) (w : Shared) (jobs : List Job)
    (s : Batch) : Prop where
  jobs : s.tasks.map (·.job) = jobs
  led : ∀ k ∈ s.tasks,
    (Delivery.run type k.job.prototype queueUrl k.job.message).Leads k.past k.rest
  fixed : ∀ k ∈ s.tasks, ∀ x ∈ k.past, IsFixed w.broker k.job.outcome x.effect x.result
  queue : s.shared.broker.queues.find? queueUrl =
    (w.broker.queues.find? queueUrl).map (without · s.gone)
  sink : s.shared.sink.Perm (w.sink ++ s.tasks.flatMap fun k ↦ reported k.past)
  counters : ∃ cs : List Counter, cs.Perm (s.tasks.flatMap fun k ↦ counted k.past) ∧
    s.shared.counters = cs.foldl Counters.increase w.counters

/-- What is asked of a batch at its beginning: the receipts of its messages are different, and so
are those on the queue. -/
structure IsApart (queueUrl : String) (w : Shared) (jobs : List Job) : Prop where
  receipts : (jobs.map (·.message.receipt)).Nodup
  own : ∀ queue, w.broker.queues.find? queueUrl = some queue → HasOwnReceipts queue

section Traces

variable {type : PayloadType} {queueUrl : String} {w : Shared} {jobs : List Job} {s t : Batch}
  {places : List (Option Nat)}

/-- Nothing has been yielded at the beginning. -/
theorem flatMap_start {α : Type} (f : List Performed → List α) (hf : f [] = []) :
    ((start type queueUrl w jobs).tasks.flatMap fun k ↦ f k.past) = [] := by
  refine List.flatMap_eq_nil_iff.mpr fun k hk ↦ ?_
  obtain ⟨j, -, rfl⟩ := List.mem_map.mp hk
  exact hf

theorem traced_start (type : PayloadType) (queueUrl : String) (w : Shared) (jobs : List Job) :
    Traced type queueUrl w jobs (start type queueUrl w jobs) where
  jobs := by simp [start, Task.start, Function.comp_def]
  led k hk := by
    obtain ⟨j, -, rfl⟩ := List.mem_map.mp hk
    exact .refl _
  fixed k hk x hx := by
    obtain ⟨j, -, rfl⟩ := List.mem_map.mp hk
    cases hx
  queue := by
    rw [gone, flatMap_start _ rfl]
    simp [start, without_nil]
  sink := by
    rw [flatMap_start _ rfl, List.append_nil]
    exact .refl _
  counters := by
    rw [flatMap_start _ rfl]
    exact ⟨[], .refl _, rfl⟩

theorem exists_call_of_mem_deletions {past : List Performed} {receipt : String}
    (h : receipt ∈ deletions past) : ∃ url, .deleteMessage url receipt ∈ calls past := by
  obtain ⟨⟨effect, reply⟩, hmem, hdeletion⟩ := List.mem_filterMap.mp h
  unfold deletion? at hdeletion
  split at hdeletion
  · next url other reply heq =>
    cases heq
    obtain rfl := Option.some.inj hdeletion
    exact ⟨url, List.mem_filterMap.mpr ⟨_, hmem, rfl⟩⟩
  · cases hdeletion

/-- A delivery deletes under its own receipt. -/
theorem Traced.eq_receipt (h : Traced type queueUrl w jobs s) {k : Task} (hk : k ∈ s.tasks)
    {receipt : String} (hreceipt : receipt ∈ deletions k.past) :
    receipt = k.job.message.receipt := by
  obtain ⟨url, hcall⟩ := exists_call_of_mem_deletions hreceipt
  rcases (account_under_way (h.led k hk)).2.2 with hnone | ⟨hone, -⟩
  · rw [hnone] at hcall
    cases hcall
  · rw [hone, List.mem_singleton] at hcall
    exact (Call.deleteMessage.inj hcall).2

/-- A delivery that is about to call has not deleted anything. -/
theorem Traced.deletions_eq_nil (h : Traced type queueUrl w jobs s) {k : Task}
    (hk : k ∈ s.tasks) {c : Call} {next : Except Error c.Reply → Program Unit}
    (hrest : k.rest = .perform (.call c) next) : deletions k.past = [] := by
  have hled := h.led k hk
  rw [hrest] at hled
  have hcalls := (account_under_way (hled.perform (.error (.transport "" "")))).2.2
  rw [calls_append] at hcalls
  have hnone : calls k.past = [] := by
    rcases hcalls with hnone | ⟨hone, -⟩
    · exact (List.append_eq_nil_iff.mp hnone).1
    · rcases List.append_eq_singleton_iff.mp hone with ⟨hnone, -⟩ | ⟨-, hnone⟩
      · exact hnone
      · cases hnone
  refine List.eq_nil_iff_forall_not_mem.mpr fun receipt hreceipt ↦ ?_
  obtain ⟨url, hcall⟩ := exists_call_of_mem_deletions hreceipt
  rw [hnone] at hcall
  cases hcall

/-- The receipt of a delivery that is about to call is not gone. -/
theorem Traced.receipt_not_mem_gone (h : Traced type queueUrl w jobs s)
    (hapart : IsApart queueUrl w jobs) {k : Task} (hk : k ∈ s.tasks) {c : Call}
    {next : Except Error c.Reply → Program Unit} (hrest : k.rest = .perform (.call c) next) :
    k.job.message.receipt ∉ s.gone := by
  intro hgone
  obtain ⟨other, hother, hreceipt⟩ := List.mem_flatMap.mp hgone
  have hnodup : (s.tasks.map (·.job.message.receipt)).Nodup := by
    have hreceipts := hapart.receipts
    rwa [← h.jobs, List.map_map] at hreceipts
  obtain rfl := List.inj_on_of_nodup_map hnodup hk hother (h.eq_receipt hother hreceipt)
  rw [h.deletions_eq_nil hk hrest] at hreceipt
  cases hreceipt

theorem Shared.Answers.sink {outcome : Handling} {v v' : Shared} {e : Effect} {r : e.Result}
    (h : v.Answers outcome e r v') : v'.sink = v.sink ++ reported [⟨e, r⟩] := by
  cases h with
  | call | handle | count => exact (List.append_nil _).symm
  | report => rfl

theorem Shared.Answers.counters {outcome : Handling} {v v' : Shared} {e : Effect} {r : e.Result}
    (h : v.Answers outcome e r v') :
    v'.counters = (counted [⟨e, r⟩]).foldl Counters.increase v.counters := by
  cases h <;> rfl

/-- An effect of a delivery has the result that it would have had at the beginning, and the queue
is the one of the beginning without what is gone by then. -/
theorem Traced.answer (h : Traced type queueUrl w jobs s) (hapart : IsApart queueUrl w jobs)
    {k : Task} (hk : k ∈ s.tasks) {e : Effect} {next : e.Result → Program Unit}
    (hrest : k.rest = .perform e next) {r : e.Result} {v : Shared}
    (hanswer : s.shared.Answers k.job.outcome e r v) :
    IsFixed w.broker k.job.outcome e r ∧ v.broker.queues.find? queueUrl =
      (w.broker.queues.find? queueUrl).map (without · (deletions [⟨e, r⟩] ++ s.gone)) := by
  cases hanswer with
  | call m c =>
    have hled := h.led k hk
    rw [hrest] at hled
    obtain ⟨rfl, -⟩ := handled_of_call hled
    exact ⟨deleteMessage_without h.queue (h.receipt_not_mem_gone hapart hk hrest),
      find?_next_deletion m hapart.own h.queue⟩
  | handle => exact ⟨rfl, h.queue⟩
  | count | report => exact ⟨trivial, h.queue⟩

theorem Traced.step (h : Traced type queueUrl w jobs s) (hapart : IsApart queueUrl w jobs)
    {place : Option Nat} (hstep : Step queueUrl s place t) : Traced type queueUrl w jobs t := by
  cases hstep with
  | aside e hqueue => exact ⟨h.jobs, h.led, h.fixed, hqueue.trans h.queue, h.sink, h.counters⟩
  | @perform j k hk e next hrest r v hanswer =>
    have hmem := List.mem_of_getElem? hk
    have hled := h.led k hmem
    rw [hrest] at hled
    have hjob : (k.after e r (next r)).job = k.job := rfl
    obtain ⟨hfixed, hqueue⟩ := h.answer hapart hmem hrest hanswer
    have hyield {α : Type} (f : List Performed → List α)
        (hf : ∀ past rest, f (past ++ rest) = f past ++ f rest) :
        ((s.tasks.set j (k.after e r (next r))).flatMap fun k ↦ f k.past).Perm
          (f [⟨e, r⟩] ++ s.tasks.flatMap fun k ↦ f k.past) :=
      flatMap_set_append_perm hk (fun k ↦ f k.past) (hf k.past [⟨e, r⟩])
    refine ⟨(map_set_of_eq hk (·.job) hjob).trans h.jobs, ?_, ?_, ?_, ?_, ?_⟩
    · intro k' hk'
      rcases List.mem_or_eq_of_mem_set hk' with hk' | rfl
      · exact h.led k' hk'
      · exact hled.perform r
    · intro k' hk' x hx
      rcases List.mem_or_eq_of_mem_set hk' with hk' | rfl
      · exact h.fixed k' hk' x hx
      · rcases List.mem_append.mp hx with hx | hx
        · exact h.fixed k hmem x hx
        · rw [List.mem_singleton.mp hx]
          exact hfixed
    · have hgone := hyield deletions fun _ _ ↦ List.filterMap_append
      rw [hqueue]
      congr 1
      funext queue
      exact without_perm hgone.symm
    · have hreports := hyield reported fun _ _ ↦ List.filterMap_append
      calc v.sink = s.shared.sink ++ reported [⟨e, r⟩] := hanswer.sink
        List.Perm _ ((w.sink ++ s.tasks.flatMap fun k ↦ reported k.past) ++ reported [⟨e, r⟩]) :=
          h.sink.append_right _
        List.Perm _ (w.sink ++ (reported [⟨e, r⟩] ++ s.tasks.flatMap fun k ↦ reported k.past)) := by
          rw [List.append_assoc]
          exact List.perm_append_comm.append_left _
        List.Perm _ _ := hreports.symm.append_left _
    · obtain ⟨cs, hcs, hcounters⟩ := h.counters
      have hcounts := hyield counted fun _ _ ↦ List.filterMap_append
      refine ⟨cs ++ counted [⟨e, r⟩], ?_, ?_⟩
      · exact (List.perm_append_comm.trans (hcs.append_left _)).trans hcounts.symm
      · rw [hanswer.counters, hcounters, List.foldl_append]

theorem Run.traced (h : Run queueUrl s places t) (hapart : IsApart queueUrl w jobs)
    (hs : Traced type queueUrl w jobs s) : Traced type queueUrl w jobs t := by
  induction h with
  | refl => exact hs
  | step hstep _ ih => exact ih (hs.step hapart hstep)

theorem Traced.all_rest (h : Traced type queueUrl w jobs s) :
    ∀ k ∈ s.tasks, k.rest.All IsCarriedOut :=
  fun k hk ↦ ((all_run ..).of_leads (h.led k hk)).2

/-- The deliveries of a batch that is done are the same, whatever their order. -/
theorem Traced.tasks_eq (hs : Traced type queueUrl w jobs s) (ht : Traced type queueUrl w jobs t)
    (hdone : s.IsDone) (hdone' : t.IsDone) : s.tasks = t.tasks := by
  refine List.ext_getElem? fun j ↦ ?_
  have hjobs : (s.tasks.map (·.job))[j]? = (t.tasks.map (·.job))[j]? := by rw [hs.jobs, ht.jobs]
  rw [List.getElem?_map, List.getElem?_map] at hjobs
  cases hk : s.tasks[j]? with
  | none =>
    rw [hk, Option.map_none] at hjobs
    exact (Option.map_eq_none_iff.mp hjobs.symm).symm
  | some k =>
    rw [hk, Option.map_some] at hjobs
    obtain ⟨k', hk', hjob⟩ := Option.map_eq_some_iff.mp hjobs.symm
    have hmem := List.mem_of_getElem? hk
    have hmem' := List.mem_of_getElem? hk'
    have hled := hs.led k hmem
    have hled' := ht.led k' hmem'
    have hfixed' := ht.fixed k' hmem'
    rw [hdone k hmem] at hled
    rw [hdone' k' hmem', hjob] at hled'
    rw [hjob] at hfixed'
    have hpast : k.past = k'.past :=
      Program.Leads.unique IsFixed.unique hled hled' (hs.fixed k hmem) hfixed'
    obtain ⟨job, past, rest⟩ := k
    obtain ⟨job', past', rest'⟩ := k'
    obtain rfl : rest = .done () := hdone _ hmem
    obtain rfl : rest' = .done () := hdone' _ hmem'
    cases hjob
    cases hpast
    exact hk'.symm

theorem Traced.sameEnd (hs : Traced type queueUrl w jobs s) (ht : Traced type queueUrl w jobs t)
    (hdone : s.IsDone) (hdone' : t.IsDone) : SameEnd queueUrl s t := by
  have htasks := hs.tasks_eq ht hdone hdone'
  refine ⟨?_, ?_, ?_, ?_⟩
  · rw [hs.queue, ht.queue, gone, gone, htasks]
  · rw [acknowledged, acknowledged, htasks]
  · exact hs.sink.trans (htasks ▸ ht.sink.symm)
  · intro c
    obtain ⟨cs, hcs, hcounters⟩ := hs.counters
    obtain ⟨cs', hcs', hcounters'⟩ := ht.counters
    rw [hcounters, hcounters']
    exact Counters.find?_foldl_perm _ (hcs.trans (htasks ▸ hcs'.symm)) c

/-- A batch whose receipts are different comes to one end, in whatever order its deliveries go
on. -/
theorem Run.sameEnd {others : List (Option Nat)} (hapart : IsApart queueUrl w jobs)
    (hs : Run queueUrl (start type queueUrl w jobs) places s)
    (ht : Run queueUrl (start type queueUrl w jobs) others t) (hdone : s.IsDone)
    (hdone' : t.IsDone) : SameEnd queueUrl s t :=
  (hs.traced hapart (traced_start ..)).sameEnd (ht.traced hapart (traced_start ..)) hdone hdone'

end Traces

end Batch

end MessageBus
