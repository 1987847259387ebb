/-!
Flows over a shared state on a virtual clock. A flow looks at the state, replaces it, waits until a
time or until the state allows it to go on, and starts other flows. The clock stands still while any
flow can go on, and then moves to the next time that a flow waits for.

Flows take turns in a fixed order: first those in the front lane in the order in which they were
started, then the others, a flow right before those that it started.
-/

set_option autoImplicit false
set_option relaxedAutoImplicit false

namespace MessageBus

inductive Flow (σ : Type) where
  | halt
  | look (k : Nat → σ → Flow σ)
  | become (s : σ) (k : Flow σ)
  /-- Goes on when the time is due or the state is ready. -/
  | wait (due : Option Nat) (ready : σ → Bool) (k : Flow σ)
  /-- Starts a flow in the front lane. -/
  | launch (child : Flow σ) (k : Flow σ)
  /-- Starts a flow that takes its first turn right after this one. -/
  | fork (child : Flow σ) (k : Flow σ)

namespace Flow

variable {σ : Type}

/-- The state after a turn, the flows that were started in the front lane, and what is left of the
flow and of those that it started, each of them waiting. -/
structure Turn (σ : Type) where
  state : σ
  launched : List (Flow σ)
  waiting : List (Flow σ)

def Turn.add (first second : Turn σ) : Turn σ where
  state := second.state
  launched := first.launched ++ second.launched
  waiting := first.waiting ++ second.waiting

def isDue (now : Nat) : Option Nat → Bool
  | some t => t ≤ now
  | none => false

/-- Runs a flow until it waits. -/
def turn (now : Nat) : Flow σ → σ → Turn σ
  | halt, s => ⟨s, [], []⟩
  | look k, s => turn now (k now s) s
  | become s k, _ => turn now k s
  | wait due ready k, s =>
    if isDue now due || ready s then turn now k s else ⟨s, [], [wait due ready k]⟩
  | launch child k, s =>
    let t := turn now k s
    { t with launched := child :: t.launched }
  | fork child k, s =>
    let t := turn now k s
    t.add (turn now child t.state)

def isBlocked (now : Nat) (s : σ) : Flow σ → Bool
  | wait due ready _ => !(isDue now due || ready s)
  | _ => false

def due? : Flow σ → Option Nat
  | wait due _ _ => due
  | _ => none

/-- Gives every flow of a list its turn; tells whether any of them went on. -/
def turns (now : Nat) : List (Flow σ) → σ → Bool × Turn σ
  | [], s => (false, ⟨s, [], []⟩)
  | f :: rest, s =>
    let t := f.turn now s
    let (moved, u) := turns now rest t.state
    (moved || !f.isBlocked now s, t.add u)

end Flow

/-- Flows that run together. -/
structure Schedule (σ : Type) where
  now : Nat
  state : σ
  front : List (Flow σ)
  others : List (Flow σ)

namespace Schedule

variable {σ : Type}

/-- Gives every flow its turn. -/
def pass (r : Schedule σ) : Bool × Schedule σ :=
  let (movedFront, t) := Flow.turns r.now r.front r.state
  let (movedOthers, u) := Flow.turns r.now r.others t.state
  (movedFront || movedOthers, {
    now := r.now
    state := u.state
    front := t.waiting ++ t.launched ++ u.launched
    others := u.waiting })

def earliest : List (Option Nat) → Option Nat
  | [] => none
  | none :: rest => earliest rest
  | some t :: rest =>
    match earliest rest with
    | some u => some (min t u)
    | none => some t

/-- The next time that a flow waits for. -/
def nextDue (r : Schedule σ) : Option Nat := earliest ((r.front ++ r.others).map Flow.due?)

/-- Runs passes, and moves the clock when no flow goes on, until no flow waits for a time. -/
def run : Nat → Schedule σ → Schedule σ
  | 0, r => r
  | fuel + 1, r =>
    let (moved, next) := r.pass
    if moved then run fuel next
    else
      match next.nextDue with
      | some t => run fuel { next with now := max next.now t }
      | none => next

end Schedule

/-- A flow that yields a value to the rest of the flow. -/
def Task (σ α : Type) : Type := (α → Flow σ) → Flow σ

namespace Task

variable {σ α β : Type}

instance : Monad (Task σ) where
  pure a := fun k ↦ k a
  bind t f := fun k ↦ t fun a ↦ f a k

def now : Task σ Nat := fun k ↦ .look fun now _ ↦ k now

def get : Task σ σ := fun k ↦ .look fun _ s ↦ k s

def set (s : σ) : Task σ Unit := fun k ↦ .become s (k ())

def modify (f : σ → σ) : Task σ Unit := fun k ↦ .look fun _ s ↦ .become (f s) (k ())

/-- Changes the state and yields a value. -/
def modifyGet (f : Nat → σ → α × σ) : Task σ α :=
  fun k ↦ .look fun now s ↦
    let (a, s) := f now s
    .become s (k a)

def waitUntil (ready : σ → Bool) : Task σ Unit := fun k ↦ .wait none ready (k ())

/-- Waits until a time, or until the state allows to go on before it. -/
def waitUnless (ready : σ → Bool) (time : Nat) : Task σ Unit :=
  fun k ↦ .wait (some time) ready (k ())

/-- Thirty years of 365 days. No sleep for some time lasts longer; a sleep until some time may. -/
def longestSleep : Nat := 30 * 365 * 24 * 60 * 60 * 1000

/-- Waits for some time, or until the state allows to go on before that. -/
def sleepUnless (ready : σ → Bool) (millis : Nat) : Task σ Unit := do
  waitUnless ready ((← now) + min millis longestSleep)

def sleep (millis : Nat) : Task σ Unit := sleepUnless (fun _ ↦ false) millis

def sleepUntil (time : Nat) : Task σ Unit := waitUnless (fun _ ↦ false) time

def flow (t : Task σ Unit) : Flow σ := t fun _ ↦ .halt

def launch (t : Task σ Unit) : Task σ Unit := fun k ↦ .launch t.flow (k ())

def fork (t : Task σ Unit) : Task σ Unit := fun k ↦ .fork t.flow (k ())

/-- Starts tasks that take their first turns in their order. -/
def forkAll : List (Task σ Unit) → Task σ Unit
  | [] => pure ()
  | t :: rest => do
    forkAll rest
    t.fork

end Task

end MessageBus
