import Mathlib.Data.Nat.Find
import MessageBus.Proofs.Broker.Selection
import MessageBus.Proofs.Bus.Consistency
import MessageBus.Scenario.Client
/-!
A receive that waits for messages. It is a series of passes with sleeps between them, and anything
may happen while it sleeps. A pass that hands out nothing has found nothing to deliver
(`Broker.receive_eq_nil_iff`); it has moved the dead letters of its queue, and left all other
messages as they were (`Broker.movesDeadLetters_of_receive`). So a receive that sleeps has marked
nothing, and may be abandoned. After a pass it sleeps while there is nothing to deliver and its time
is not over (`Scenario.turn_pollUntil_succ`); as the clock goes on, it comes to its end before it
runs out of passes (`Scenario.endsReceive_last`), and what it has done by then is
`Scenario.long_polling`.
-/

set_option autoImplicit false
set_option relaxedAutoImplicit false

namespace MessageBus

/-! ### Passes that find nothing -/

/-- A pass that hands out nothing takes out the messages that are there to be removed, and leaves
the others alone. -/
theorem Sweep.scan_of_received_eq_nil {t : Terms} {room index : Nat}
    {messages : List StoredMessage}
    (h : (scan t (room + 1) index messages).received = []) :
    (scan t (room + 1) index messages).kept = messages.filter (!t.removes ·) ∧
      (scan t (room + 1) index messages).dead = messages.filter t.removes := by
  induction messages with
  | nil => exact ⟨rfl, rfl⟩
  | cons x rest ih =>
    rw [scan] at h ⊢
    by_cases hvisible : x.isVisible t.moment.millis
    · by_cases hexhausted : t.isExhausted x
      · have hremoves : t.removes x := by simp [Terms.removes_eq, hvisible, hexhausted]
        simp only [hvisible, hexhausted, Bool.not_true, Bool.false_eq_true, if_false, if_true]
          at h ⊢
        obtain ⟨hkept, hdead⟩ := ih h
        simp [remove, hkept, hdead, hremoves]
      · simp [hvisible, hexhausted, take] at h
    · have hremoves : ¬ t.removes x := by simp [Terms.removes_eq, hvisible]
      simp only [hvisible, Bool.not_false, if_true] at h ⊢
      obtain ⟨hkept, hdead⟩ := ih h
      simp [keep, hkept, hdead, hremoves]

namespace Broker

variable {b b' : Broker} {m : Moment} {request : ReceiveRequest} {messages : List Received}

/-- Whether a message of a queue is there to be delivered: it is visible, and has receives left. -/
def delivers (b : Broker) (url : String) (now : Nat) (x : StoredMessage) : Bool :=
  x.isVisible now && (b.redriveAt? url).all (x.receiveCount < ·.2)

/-- Whether a message of a queue is a dead letter: it is visible, and its receives are used up. -/
def isDeadLetter (b : Broker) (url : String) (now : Nat) (x : StoredMessage) : Bool :=
  x.isVisible now && (b.redriveAt? url).any (·.2 ≤ x.receiveCount)

/-- Whether the dead letters of a queue have been moved to the end of the queue that takes them, as
messages that have just arrived there, and nothing else has become of any message. -/
structure MovesDeadLetters (b : Broker) (url : String) (now : Nat) (b' : Broker) : Prop where
  messages : ∀ other, b'.messages other =
    (if url = other then (b.messages url).filter (!b.isDeadLetter url now ·)
      else b.messages other) ++
    if (b.redriveAt? url).map Prod.fst = some other then
      ((b.messages url).filter (b.isDeadLetter url now)).map (·.moved now)
    else []
  /-- A message that is out of sight has been so before. -/
  hidden : ∀ other, ∀ x ∈ b'.messages other, ¬ x.isVisible now → x ∈ b.messages other

/-- The terms of the pass of a receive. -/
def passTerms (b : Broker) (m : Moment) (request : ReceiveRequest) : Sweep.Terms :=
  ⟨m, request.visibilityTimeoutSeconds * 1000, (b.redriveAt? request.queueUrl).map Prod.snd⟩

theorem takes_passTerms :
    (b.passTerms m request).takes = b.delivers request.queueUrl m.millis := by
  funext x
  rw [Sweep.Terms.takes, passTerms, Option.all_map]
  rfl

theorem removes_passTerms :
    (b.passTerms m request).removes = b.isDeadLetter request.queueUrl m.millis := by
  funext x
  rw [Sweep.Terms.removes, passTerms, Option.any_map]
  rfl

theorem pass_eq_select (b : Broker) (m : Moment) (request : ReceiveRequest) :
    b.pass m request = Sweep.select (b.passTerms m request) (max request.maxNumberOfMessages 1) 0
      (b.messages request.queueUrl) :=
  Sweep.scan_eq_select ..

/-- A receive returns no more messages than it asks for, but at least one. -/
theorem length_le_of_receive (h : b.receive m request = .ok (messages, b')) :
    messages.length ≤ max 1 request.maxNumberOfMessages := by
  obtain ⟨-, -, rfl, -⟩ := receive_eq h
  rw [pass_eq_select, Sweep.select, List.length_mapIdx, List.length_take, Nat.max_comm]
  exact Nat.min_le_left ..

/-- A pass hands out nothing exactly if there is nothing to deliver. -/
theorem receive_eq_nil_iff (h : b.receive m request = .ok (messages, b')) :
    messages = [] ↔ ∀ x ∈ b.messages request.queueUrl,
      ¬ b.delivers request.queueUrl m.millis x := by
  have hroom : max request.maxNumberOfMessages 1 ≠ 0 := by omega
  obtain ⟨-, -, rfl, -⟩ := receive_eq h
  rw [pass_eq_select, Sweep.select, List.mapIdx_eq_nil_iff, List.take_eq_nil_iff,
    or_iff_right hroom, List.filter_eq_nil_iff, takes_passTerms]

/-- A pass that hands out nothing has moved dead letters at most. -/
theorem movesDeadLetters_of_receive (hb : b.IsAddressed) (h : b.receive m request = .ok ([], b')) :
    b.MovesDeadLetters request.queueUrl m.millis b' := by
  obtain ⟨queue, hqueue, hnil, -⟩ := receive_eq h
  obtain ⟨room, hroom⟩ : ∃ room, max request.maxNumberOfMessages 1 = room + 1 :=
    Nat.exists_eq_add_one.mpr (by omega)
  have hpass : b.pass m request = Sweep.scan (b.passTerms m request) (room + 1) 0
      (b.messages request.queueUrl) := by
    rw [← hroom]
    rfl
  rw [hpass] at hnil
  obtain ⟨hkept, hdead⟩ := Sweep.scan_of_received_eq_nil hnil.symm
  have hmessages := messages_receive hb h
  simp only [hpass, hkept, hdead, removes_passTerms] at hmessages
  refine ⟨hmessages, fun other x hx hhidden ↦ ?_⟩
  rw [hmessages, List.mem_append] at hx
  rcases hx with hx | hx
  · split at hx
    · next hurl => exact hurl ▸ List.mem_of_mem_filter hx
    · exact hx
  · -- What was moved is visible.
    split at hx
    · obtain ⟨y, -, rfl⟩ := List.mem_map.mp hx
      exact absurd (by simp [StoredMessage.isVisible, StoredMessage.moved, StoredMessage.arrived])
        hhidden
    · cases hx

end Broker

namespace Scenario

variable {abandoned : World → Bool} {request : ReceiveRequest} {deadline passes now due : Nat}
  {w : World} {k : Option (Except Error (List Received)) → Flow World}

/-! ### Turns of a receive -/

/-- A pass of a receive in a world, at some time: its reply, and the world after it. -/
def pass (request : ReceiveRequest) (now : Nat) (w : World) :
    Except Error (List Received) × World :=
  let (m, w) := w.moment now
  w.operate fun b ↦ b.receive m request

/-- What is left of a receive that sleeps, with at most so many passes to come after the next. -/
def sleeping (abandoned : World → Bool) (request : ReceiveRequest) (deadline due passes : Nat)
    (k : Option (Except Error (List Received)) → Flow World) : Flow World :=
  .wait (some due) abandoned <| .look fun _ w ↦
    (if abandoned w then pure none else pollUntil abandoned request deadline passes : Task ..) k

theorem receive_of_pass {messages : List Received} (h : (pass request now w).1 = .ok messages) :
    w.broker.receive ⟨now, w.date, w.serial⟩ request =
      .ok (messages, (pass request now w).2.broker) := by
  unfold pass World.moment World.operate at h ⊢
  dsimp only at h ⊢
  split at h
  · next reply b hreceive =>
    cases h
    rw [hreceive]
  · cases h

theorem eq_nil_of_not_ends {reply : Except Error (List Received)}
    (h : ¬ endsReceive deadline now reply) : reply = .ok [] ∧ now < deadline := by
  unfold endsReceive at h
  split at h
  · exact ⟨rfl, by simpa using h⟩
  · exact absurd rfl h

theorem turn_pollUntil_zero : (pollUntil abandoned request deadline 0 k).turn now w =
    (k (some (pass request now w).1)).turn now (pass request now w).2 := rfl

/-- After a pass the receive returns, or it sleeps. -/
theorem turn_pollUntil_succ : (pollUntil abandoned request deadline (passes + 1) k).turn now w =
    if endsReceive deadline now (pass request now w).1 then
      (k (some (pass request now w).1)).turn now (pass request now w).2
    else
      (sleeping abandoned request deadline (now + pollInterval) passes k).turn now
        (pass request now w).2 := by
  have hshort : min pollInterval Task.longestSleep = pollInterval := by decide
  let goOn : Task World (Option (Except Error (List Received))) := do
    Task.sleepUnless abandoned pollInterval
    if abandoned (← Task.get) then return none
    pollUntil abandoned request deadline passes
  have hstep : (pollUntil abandoned request deadline (passes + 1) k).turn now w =
      Flow.turn now ((if endsReceive deadline now (pass request now w).1 then
        pure (some (pass request now w).1) else goOn : Task World _) k) (pass request now w).2 :=
    rfl
  have hsleep : (goOn k).turn now (pass request now w).2 =
      (sleeping abandoned request deadline (now + min pollInterval Task.longestSleep) passes
        k).turn now (pass request now w).2 := rfl
  rw [hstep, ← hshort, ← hsleep]
  split
  · rfl
  · rfl

/-- A receive that is abandoned while it sleeps leaves the world as it is. -/
theorem turn_sleeping_of_abandoned (h : abandoned w) :
    (sleeping abandoned request deadline due passes k).turn now w = (k none).turn now w := by
  simp only [sleeping, Flow.turn, h, Bool.or_true, if_true]
  rfl

/-- A receive sleeps until it is due. -/
theorem turn_sleeping_of_lt (hdue : now < due) (h : ¬ abandoned w) :
    (sleeping abandoned request deadline due passes k).turn now w =
      ⟨w, [], [sleeping abandoned request deadline due passes k]⟩ := by
  have hwaits : ¬ (Flow.isDue now (some due) || abandoned w) := by
    simp [Flow.isDue, h, hdue]
  simp only [sleeping, Flow.turn, if_neg hwaits]

/-- A receive that is due makes its next pass. -/
theorem turn_sleeping_of_le (hdue : due ≤ now) (h : ¬ abandoned w) :
    (sleeping abandoned request deadline due passes k).turn now w =
      (pollUntil abandoned request deadline passes k).turn now w := by
  simp [sleeping, Flow.turn, Flow.isDue, h, hdue]

/-! ### The whole receive -/

/-- Whether a receive makes a pass that finds nothing to deliver, and then sleeps: its time is not
over, and it has marked no message. Until it is due it does nothing, and if it is abandoned, be it
right after the pass, it leaves everything as it is. -/
structure FallsAsleep (abandoned : World → Bool) (request : ReceiveRequest) (deadline : Nat)
    (k : Option (Except Error (List Received)) → Flow World) (now : Nat) (w : World)
    (f g : Flow World) : Prop where
  turn : f.turn now w = g.turn now (pass request now w).2
  early : now < deadline
  nothing : ∀ x ∈ w.broker.messages request.queueUrl,
    ¬ w.broker.delivers request.queueUrl now x
  marks : w.broker.MovesDeadLetters request.queueUrl now (pass request now w).2.broker
  asleep : ∀ {t v}, t < now + pollInterval → ¬ abandoned v → g.turn t v = ⟨v, [], [g]⟩
  leaves : ∀ {t v}, abandoned v → g.turn t v = (k none).turn t v

/-- Whether a receive makes a pass and returns its reply, with no more messages than there is room
for. It returns none only if there is nothing to deliver and its time is over. -/
structure Returns (request : ReceiveRequest) (deadline : Nat)
    (k : Option (Except Error (List Received)) → Flow World) (now : Nat) (w : World)
    (f : Flow World) : Prop where
  turn : f.turn now w = (k (some (pass request now w).1)).turn now (pass request now w).2
  length_le : ∀ {messages}, (pass request now w).1 = .ok messages →
    messages.length ≤ max 1 request.maxNumberOfMessages
  eq_nil_iff : ∀ {messages}, (pass request now w).1 = .ok messages →
    (messages = [] ↔ ∀ x ∈ w.broker.messages request.queueUrl,
      ¬ w.broker.delivers request.queueUrl now x)
  late : (pass request now w).1 = .ok [] → deadline ≤ now

/-- What is left of a receive after so many passes, where it sleeps after each. -/
def receiveAfter (abandoned : World → Bool) (request : ReceiveRequest)
    (k : Option (Except Error (List Received)) → Flow World) (time : Nat → Nat) : Nat → Flow World
  | 0 => receive abandoned request k
  | i + 1 => sleeping abandoned request (time 0 + request.waitTimeSeconds * 1000)
    (time i + pollInterval) (100 * request.waitTimeSeconds - (i + 1)) k

variable {f g : Flow World} {time : Nat → Nat} {world : Nat → World}

theorem turn_receive : (receive abandoned request k).turn now w =
    (pollUntil abandoned request (now + request.waitTimeSeconds * 1000)
      (100 * request.waitTimeSeconds) k).turn now w := by
  have hpasses : request.waitTimeSeconds * 1000 / pollInterval = 100 * request.waitTimeSeconds := by
    rw [pollInterval]
    omega
  have htime : request.waitTimeSeconds * 1000 =
      100 * request.waitTimeSeconds * pollInterval := by
    rw [pollInterval]
    omega
  rw [receive, hpasses, htime]
  rfl

/-- A receive that has slept makes its next pass. -/
theorem turn_receiveAfter (hclock : ∀ i, time i + pollInterval ≤ time (i + 1))
    (hstays : ∀ i, ¬ abandoned (world (i + 1))) (i : Nat) :
    (receiveAfter abandoned request k time i).turn (time i) (world i) =
      (pollUntil abandoned request (time 0 + request.waitTimeSeconds * 1000)
        (100 * request.waitTimeSeconds - i) k).turn (time i) (world i) := by
  cases i with
  | zero => exact turn_receive
  | succ i => exact turn_sleeping_of_le (hclock i) (hstays i)

theorem returns_of_ends (h : endsReceive deadline now (pass request now w).1)
    (hturn : f.turn now w = (pollUntil abandoned request deadline passes k).turn now w) :
    Returns request deadline k now w f where
  turn := by
    cases passes with
    | zero => rw [hturn, turn_pollUntil_zero]
    | succ passes => rw [hturn, turn_pollUntil_succ, if_pos h]
  length_le hreply := Broker.length_le_of_receive (receive_of_pass hreply)
  eq_nil_iff hreply := Broker.receive_eq_nil_iff (receive_of_pass hreply)
  late hreply := by
    rw [hreply] at h
    exact of_decide_eq_true h

theorem fallsAsleep_of_not_ends (h : ¬ endsReceive deadline now (pass request now w).1)
    (hbroker : w.broker.IsAddressed)
    (hturn : f.turn now w = (pollUntil abandoned request deadline (passes + 1) k).turn now w) :
    FallsAsleep abandoned request deadline k now w f
      (sleeping abandoned request deadline (now + pollInterval) passes k) := by
  obtain ⟨hreply, hearly⟩ := eq_nil_of_not_ends h
  have hreceive := receive_of_pass hreply
  exact {
    turn := by rw [hturn, turn_pollUntil_succ, if_neg h]
    early := hearly
    nothing := (Broker.receive_eq_nil_iff hreceive).mp rfl
    marks := Broker.movesDeadLetters_of_receive hbroker hreceive
    asleep := turn_sleeping_of_lt
    leaves := turn_sleeping_of_abandoned }

/-- The clock goes on by the length of all sleeps. -/
theorem le_time (hclock : ∀ i, time i + pollInterval ≤ time (i + 1)) (i : Nat) :
    time 0 + i * pollInterval ≤ time i := by
  induction i with
  | zero => simp
  | succ i ih =>
    have := hclock i
    rw [Nat.succ_mul]
    omega

/-- At the last pass that a receive has in store, its time is over. -/
theorem endsReceive_last (hclock : ∀ i, time i + pollInterval ≤ time (i + 1))
    (reply : Except Error (List Received)) :
    endsReceive (time 0 + request.waitTimeSeconds * 1000)
      (time (100 * request.waitTimeSeconds)) reply := by
  have htime := le_time hclock (100 * request.waitTimeSeconds)
  rw [pollInterval] at htime
  unfold endsReceive
  split
  · exact decide_eq_true (by omega)
  · rfl

/-- A receive that waits comes to its end. Let it take its turns at any times, of which each is at
least ten milliseconds after the one before, in any worlds whose brokers can come about, so that
anything may have happened while it slept. If it is not abandoned, it returns, after at most as many
passes as there are hundredths of a second in its time, and one more. Each of its passes but the
last one found nothing to deliver before the deadline; then it slept, and had marked no message:
dead letters had moved to the end of their queue, where they are visible, and all others were as
before. Had it been abandoned there, it would have left everything as it was. The last pass is the
first one that finds messages to deliver, of which it returns at least one, but no more than it has
room for; or the deadline is reached and there is nothing to deliver; or it failed. -/
theorem long_polling (abandoned : World → Bool) (request : ReceiveRequest)
    (k : Option (Except Error (List Received)) → Flow World)
    (hclock : ∀ i, time i + pollInterval ≤ time (i + 1))
    (hbroker : ∀ i, ∃ s : Bus, s.Reachable ∧ (world i).broker = s.broker)
    (hstays : ∀ i, ¬ abandoned (world (i + 1))) :
    let deadline := time 0 + request.waitTimeSeconds * 1000
    let left := receiveAfter abandoned request k time
    ∃ n ≤ 100 * request.waitTimeSeconds, left 0 = receive abandoned request k ∧
      (∀ i < n, FallsAsleep abandoned request deadline k (time i) (world i) (left i)
        (left (i + 1))) ∧
      Returns request deadline k (time n) (world n) (left n) := by
  intro deadline left
  have hturn (i : Nat) : (left i).turn (time i) (world i) =
      (pollUntil abandoned request deadline (100 * request.waitTimeSeconds - i) k).turn (time i)
        (world i) :=
    turn_receiveAfter hclock hstays i
  have hlast : ∃ i, endsReceive deadline (time i) (pass request (time i) (world i)).1 :=
    ⟨_, endsReceive_last hclock _⟩
  -- The receive ends at the first pass that ends it.
  refine ⟨Nat.find hlast, Nat.find_min' hlast (endsReceive_last hclock _), rfl, fun i hi ↦ ?_,
    returns_of_ends (Nat.find_spec hlast) (hturn _)⟩
  have hgoesOn := Nat.find_min hlast hi
  have hpasses : 100 * request.waitTimeSeconds - i =
      100 * request.waitTimeSeconds - (i + 1) + 1 := by
    have hle := Nat.find_min' hlast (endsReceive_last hclock _)
    omega
  obtain ⟨s, hs, hsame⟩ := hbroker i
  refine fallsAsleep_of_not_ends hgoesOn ?_ (hpasses ▸ hturn i)
  rw [hsame]
  exact hs.isIndexed.isAddressed

def sampleRequest : ReceiveRequest := ⟨Bus.sampleUrl, 10, 1, 30⟩

/-- A bus on which a message was put on the queue. -/
def sampleFilled : Bus :=
  (Bus.sampleBus.operate .epoch fun m b ↦ b.enqueue m Bus.sampleUrl "text").2

/-- The worlds of a receive while whose first sleep a message arrives. -/
def sampleWorld (i : Nat) : World where
  date := .epoch
  broker := if i = 0 then Bus.sampleBus.broker else sampleFilled.broker

/-- A receive waits for a second, and a message arrives while it sleeps for the first time. The
second pass returns it. -/
theorem long_polling_sample :
    let time (i : Nat) := i * 10
    let left := receiveAfter (fun _ ↦ false) sampleRequest (fun _ ↦ .halt) time
    (∀ i, time i + pollInterval ≤ time (i + 1)) ∧
      (∀ i, ∃ s : Bus, s.Reachable ∧ (sampleWorld i).broker = s.broker) ∧
      FallsAsleep (fun _ ↦ false) sampleRequest 1000 (fun _ ↦ .halt) 0 (sampleWorld 0) (left 0)
        (left 1) ∧
      Returns sampleRequest 1000 (fun _ ↦ .halt) 10 (sampleWorld 1) (left 1) ∧
      ∃ r, (pass sampleRequest 10 (sampleWorld 1)).1 = .ok [r] ∧ r.body = "text" := by
  intro time left
  have hclock (i : Nat) : time i + pollInterval ≤ time (i + 1) := by
    simp only [time, pollInterval]
    omega
  have hbroker (i : Nat) : ∃ s : Bus, s.Reachable ∧ (sampleWorld i).broker = s.broker := by
    by_cases hi : i = 0
    · exact ⟨_, Bus.reachable_sampleBus, if_pos hi⟩
    · exact ⟨_, Bus.reachable_sampleBus.step (.enqueue ..), if_neg hi⟩
  have hempty : (pass sampleRequest 0 (sampleWorld 0)).1 = .ok [] := by decide +kernel
  have hfilled : (pass sampleRequest 10 (sampleWorld 1)).1 =
      .ok [⟨Uuid.text 3 0, "text", Uuid.text 0 0⟩] := by decide +kernel
  obtain ⟨n, -, -, hsleeps, hreturns⟩ := long_polling (fun _ ↦ false) sampleRequest
    (fun _ ↦ .halt) hclock hbroker fun _ ↦ Bool.false_ne_true
  have hnotFirst : n ≠ 0 := by
    rintro rfl
    exact absurd (hreturns.late hempty) (by decide)
  have hnotLater : ¬ 1 < n := fun hlater ↦
    absurd ((Broker.receive_eq_nil_iff (receive_of_pass hfilled)).mpr (hsleeps 1 hlater).nothing)
      (List.cons_ne_nil _ _)
  obtain rfl : n = 1 := by omega
  exact ⟨hclock, hbroker, hsleeps 0 Nat.one_pos, hreturns, _, hfilled, rfl⟩

end Scenario

end MessageBus
