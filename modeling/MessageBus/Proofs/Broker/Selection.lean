import Mathlib.Data.List.ReduceOption
import MessageBus.Broker.Sweep
/-!
What a pass selects, said place by place (`Sweep.select`). How many messages in front of a place are
there to be taken decides whether the pass comes to it; where it does, the message is handed out, or
removed, or left alone, and all other messages are left alone too. The walk over the messages finds
exactly this (`Sweep.scan_eq_select`).

A pass may also work on the queue in place, with an index that stays where it is when a message is
removed (`Sweep.Walk`). It comes to the same (`Sweep.Walk.result_run`): at every moment the messages
in front of the index are settled, and those from the index on are as they were.
-/

set_option autoImplicit false
set_option relaxedAutoImplicit false

namespace MessageBus.Sweep

namespace Terms

variable (t : Terms) (x : StoredMessage)

/-- Whether a message is there to be taken: it is visible, and has receives left. -/
def takes : Bool := x.visibleAt ≤ t.moment.millis && t.maxReceives.all (x.receiveCount < ·)

/-- Whether a message is there to be removed: it is visible, and its receives are used up. -/
def removes : Bool := x.visibleAt ≤ t.moment.millis && t.maxReceives.any (· ≤ x.receiveCount)

theorem takes_eq : t.takes x = (x.isVisible t.moment.millis && !t.isExhausted x) := by
  unfold takes isExhausted
  cases t.maxReceives with
  | none => rfl
  | some limit =>
    have hleft : decide (x.receiveCount < limit) = !decide (limit ≤ x.receiveCount) := by
      rw [← decide_not, decide_eq_decide]
      exact Nat.not_le.symm
    rw [Option.all_some, hleft]
    rfl

theorem removes_eq : t.removes x = (x.isVisible t.moment.millis && t.isExhausted x) := by
  unfold removes isExhausted
  cases t.maxReceives <;> rfl

end Terms

/-- How many messages in front of a place are there to be taken. -/
def rank (t : Terms) (messages : List StoredMessage) (place : Nat) : Nat :=
  (messages.take place).countP t.takes

section Select

variable (t : Terms) (room index : Nat) (messages : List StoredMessage)

/-- What a pass with so much room leaves of the message at a place. -/
def leftAt (place : Nat) (x : StoredMessage) : Option StoredMessage :=
  if rank t messages place < room then
    if t.removes x then none
    else if t.takes x then
      some (x.taken (t.moment.id (index + rank t messages place))
        (t.moment.millis + t.visibilityMs))
    else some x
  else some x

/-- What a pass with so much room removes at a place. -/
def removedAt (place : Nat) (x : StoredMessage) : Option StoredMessage :=
  if rank t messages place < room ∧ t.removes x then some x else none

/-- What a pass with so much room leaves, removes and hands out. Its receipts are numbered from
`index` on. -/
def select : Sweep where
  kept := (messages.mapIdx (leftAt t room index messages)).reduceOption
  dead := (messages.mapIdx (removedAt t room messages)).reduceOption
  received := ((messages.filter t.takes).take room).mapIdx fun i x ↦
    ⟨x.id, x.body, t.moment.id (index + i)⟩

variable {t room index messages} {x : StoredMessage} {place : Nat}

@[simp]
theorem rank_zero : rank t messages 0 = 0 := rfl

theorem rank_cons_of_takes (h : t.takes x) :
    rank t (x :: messages) (place + 1) = rank t messages place + 1 := by
  rw [rank, List.take_succ_cons, List.countP_cons_of_pos h, rank]

theorem rank_cons_of_not_takes (h : ¬ t.takes x) :
    rank t (x :: messages) (place + 1) = rank t messages place := by
  rw [rank, List.take_succ_cons, List.countP_cons_of_neg h, rank]

theorem not_takes_of_removes (h : t.removes x) : ¬ t.takes x := by
  rw [Terms.removes_eq, Bool.and_eq_true] at h
  simp [Terms.takes_eq, h]

theorem not_removes_of_takes (h : t.takes x) : ¬ t.removes x :=
  fun hremoves ↦ not_takes_of_removes hremoves h

/-- Behind a message that is taken there is room for one less. -/
theorem leftAt_succ_of_takes (h : t.takes x) :
    (fun place ↦ leftAt t (room + 1) index (x :: messages) (place + 1)) =
      leftAt t room (index + 1) messages := by
  funext place y
  simp only [leftAt, rank_cons_of_takes h, Nat.add_lt_add_iff_right]
  rw [Nat.add_right_comm index 1, Nat.add_assoc index]

theorem leftAt_succ_of_not_takes (h : ¬ t.takes x) :
    (fun place ↦ leftAt t room index (x :: messages) (place + 1)) =
      leftAt t room index messages := by
  funext place y
  simp only [leftAt, rank_cons_of_not_takes h]

theorem removedAt_succ_of_takes (h : t.takes x) :
    (fun place ↦ removedAt t (room + 1) (x :: messages) (place + 1)) =
      removedAt t room messages := by
  funext place y
  simp only [removedAt, rank_cons_of_takes h, Nat.add_lt_add_iff_right]

theorem removedAt_succ_of_not_takes (h : ¬ t.takes x) :
    (fun place ↦ removedAt t room (x :: messages) (place + 1)) = removedAt t room messages := by
  funext place y
  simp only [removedAt, rank_cons_of_not_takes h]

theorem mapIdx_const {α β : Type} (f : α → β) (l : List α) : l.mapIdx (fun _ ↦ f) = l.map f :=
  List.mapIdx_eq_iff.mpr fun _ ↦ List.getElem?_map

theorem select_zero : select t 0 index messages = ⟨messages, [], []⟩ := by
  have hleft : leftAt t 0 index messages = fun _ ↦ some := by
    funext place y
    exact if_neg (Nat.not_lt_zero _)
  have hremoved : removedAt t 0 messages = fun _ _ ↦ none := by
    funext place y
    exact if_neg fun h ↦ Nat.not_lt_zero _ h.1
  simp [select, hleft, hremoved, mapIdx_const, List.reduceOption, List.filterMap_map]

theorem select_nil : select t room index [] = ⟨[], [], []⟩ := by
  simp [select]

theorem select_cons_of_takes (h : t.takes x) :
    select t (room + 1) index (x :: messages) =
      take x (t.moment.id index) (t.moment.millis + t.visibilityMs)
        (select t room (index + 1) messages) := by
  simp only [select, List.mapIdx_cons, leftAt_succ_of_takes h, removedAt_succ_of_takes h]
  simp [take, leftAt, removedAt, h, not_removes_of_takes h, Nat.add_assoc, Nat.add_comm 1]

theorem select_cons_of_removes (h : t.removes x) :
    select t (room + 1) index (x :: messages) = remove x (select t (room + 1) index messages) := by
  have htakes := not_takes_of_removes h
  simp only [select, List.mapIdx_cons, leftAt_succ_of_not_takes htakes,
    removedAt_succ_of_not_takes htakes]
  simp [remove, leftAt, removedAt, h, htakes]

theorem select_cons_of_hidden (h : x.isVisible t.moment.millis = false) :
    select t (room + 1) index (x :: messages) = keep x (select t (room + 1) index messages) := by
  have htakes : ¬ t.takes x := by simp [Terms.takes_eq, h]
  have hremoves : ¬ t.removes x := by simp [Terms.removes_eq, h]
  simp only [select, List.mapIdx_cons, leftAt_succ_of_not_takes htakes,
    removedAt_succ_of_not_takes htakes]
  simp [keep, leftAt, removedAt, hremoves, htakes]

/-- A pass that hands out fewer messages than it has room for removes all that are there to be
removed. -/
theorem dead_select_of_lt (h : (select t room index messages).received.length < room) :
    (select t room index messages).dead = messages.filter t.removes := by
  have hall : (messages.filter t.takes).length < room := by
    simp only [select, List.length_mapIdx, List.length_take] at h
    omega
  have hrank (place : Nat) : rank t messages place < room := by
    rw [← List.countP_eq_length_filter] at hall
    exact Nat.lt_of_le_of_lt ((List.take_sublist _ _).countP_le) hall
  have hremoved : removedAt t room messages = fun _ ↦ Option.guard t.removes := by
    funext place x
    simp [removedAt, hrank, Option.guard]
  simp only [select, hremoved, mapIdx_const, List.reduceOption, List.filterMap_map]
  exact congrFun List.filterMap_eq_filter messages

variable (t room index messages)

/-- The walk over the messages selects what a pass is to select. -/
theorem scan_eq_select : scan t room index messages = select t room index messages := by
  fun_induction scan t room index messages with
  | case1 => exact select_zero.symm
  | case2 => exact select_nil.symm
  | case3 room index m rest hvisible ih =>
    rw [select_cons_of_hidden (by simpa using hvisible), ih]
  | case4 room index m rest hvisible hexhausted ih =>
    rw [select_cons_of_removes (by simp_all [Terms.removes_eq]), ih]
  | case5 room index m rest hvisible hexhausted ih =>
    rw [select_cons_of_takes (by simp_all [Terms.takes_eq]), ih]

end Select

/-- A pass under way: the queue as it is, the place in it that the pass has come to, and what the
pass has removed and handed out. -/
structure Walk where
  index : Nat
  queue : List StoredMessage
  dead : List StoredMessage
  received : List Received

namespace Walk

variable (t : Terms) (room : Nat)

/-- What a pass does at its place, unless it is over. A message that is removed makes place for the
next one. -/
def step? (w : Walk) : Option Walk :=
  match w.queue[w.index]? with
  | none => none
  | some x =>
    if room ≤ w.received.length then none
    else if !x.isVisible t.moment.millis then some { w with index := w.index + 1 }
    else if t.isExhausted x then
      some { w with queue := w.queue.eraseIdx w.index, dead := w.dead ++ [x] }
    else
      let receipt := t.moment.id w.received.length
      some {
        index := w.index + 1
        queue := w.queue.set w.index (x.taken receipt (t.moment.millis + t.visibilityMs))
        dead := w.dead
        received := w.received ++ [⟨x.id, x.body, receipt⟩] }

variable {t room}

/-- Every step takes the pass nearer to the end of the queue. -/
theorem left_lt_of_step? {w w' : Walk} (h : w.step? t room = some w') :
    w'.queue.length - w'.index < w.queue.length - w.index := by
  unfold step? at h
  split at h
  · cases h
  · next x hx =>
    have hindex : w.index < w.queue.length := (List.getElem?_eq_some_iff.mp hx).1
    split_ifs at h <;> cases h <;> dsimp only
    · omega
    · rw [List.length_eraseIdx_of_lt hindex]
      omega
    · rw [List.length_set]
      omega

variable (t room)

/-- Goes on with a pass until it is over. -/
def run (w : Walk) : Walk :=
  match _ : w.step? t room with
  | none => w
  | some w' => run w'
termination_by w.queue.length - w.index
decreasing_by exact left_lt_of_step? ‹_›

variable {t room}

theorem run_of_none {w : Walk} (h : w.step? t room = none) : w.run t room = w := by
  rw [run]
  split
  · rfl
  · next h' => rw [h] at h'; cases h'

theorem run_of_some {w w' : Walk} (h : w.step? t room = some w') :
    w.run t room = w'.run t room := by
  rw [run]
  split
  · next h' => rw [h] at h'; cases h'
  · next h' => rw [Option.some.inj (h'.symm.trans h)]

variable (t room) (front rest dead : List StoredMessage) (received : List Received)

/-- A pass whose place is behind the messages that it has settled. -/
def behind : Walk := ⟨front.length, front ++ rest, dead, received⟩

theorem step?_behind_nil : (behind front [] dead received).step? t room = none := by
  simp [step?, behind]

theorem step?_behind_cons (x : StoredMessage) :
    (behind front (x :: rest) dead received).step? t room =
      if room ≤ received.length then none
      else if !x.isVisible t.moment.millis then some (behind (front ++ [x]) rest dead received)
      else if t.isExhausted x then some (behind front rest (dead ++ [x]) received)
      else
        let receipt := t.moment.id received.length
        some (behind (front ++ [x.taken receipt (t.moment.millis + t.visibilityMs)]) rest dead
          (received ++ [⟨x.id, x.body, receipt⟩])) := by
  simp [step?, behind, List.eraseIdx_append_of_length_le]

/-- What a pass has come to. -/
def result (w : Walk) : Sweep := ⟨w.queue, w.dead, w.received⟩

/-- A pass that has settled the messages in front of its place does with the others what a pass over
them alone does. The induction is on these others. -/
theorem result_run :
    ((behind front rest dead received).run t room).result =
      let s := scan t (room - received.length) received.length rest
      ⟨front ++ s.kept, dead ++ s.dead, received ++ s.received⟩ := by
  induction rest generalizing front dead received with
  | nil =>
    rw [run_of_none (step?_behind_nil ..)]
    cases room - received.length <;> simp [result, behind, scan]
  | cons x rest ih =>
    have hstep := step?_behind_cons t room front rest dead received x
    split_ifs at hstep with hfull hhidden hexhausted
    · rw [run_of_none hstep, Nat.sub_eq_zero_of_le hfull]
      simp [result, behind, scan]
    all_goals
      obtain ⟨left, hleft⟩ : ∃ left, room - received.length = left + 1 :=
        ⟨room - received.length - 1, by omega⟩
      rw [run_of_some hstep, ih, hleft, scan]
    · rw [if_pos hhidden]
      simp [keep]
    · rw [if_neg hhidden, if_pos hexhausted]
      simp [remove]
    · have hnext : room - (received.length + 1) = left := by omega
      rw [if_neg hhidden, if_neg hexhausted, List.length_append, List.length_singleton, hnext]
      simp [take]

/-- A pass that works on the queue in place selects what a pass is to select. -/
theorem result_run_eq_select (messages : List StoredMessage) :
    ((behind [] messages [] []).run t room).result = select t room 0 messages := by
  have hwalk := result_run t room [] messages [] []
  rw [List.length_nil, Nat.sub_zero, scan_eq_select] at hwalk
  exact hwalk

end Walk

end MessageBus.Sweep
