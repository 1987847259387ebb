import MessageBus.Broker.Basic
import MessageBus.Policy
/-!
One pass of a receive over a queue. It walks from the front and takes visible messages until it has
as many as asked for. A message that is taken stays where it is, out of sight for a time, under a
new receipt. Where the queue has a redrive policy, a visible message whose receives are used up is
not taken: it leaves the queue and is put at the end of the target, as if it had just arrived there.
-/

set_option autoImplicit false
set_option relaxedAutoImplicit false

namespace MessageBus

/-- A message as a receive hands it out. -/
structure Received where
  id : String
  body : String
  receipt : String
deriving DecidableEq, Repr

namespace StoredMessage

/-- A message that has just arrived. -/
def arrived (id body : String) (now : Nat) : StoredMessage where
  id := id
  body := body
  visibleAt := now

/-- The message after it was moved to another queue. -/
def moved (m : StoredMessage) (now : Nat) : StoredMessage := arrived m.id m.body now

/-- The message after a receive. -/
def taken (m : StoredMessage) (receipt : String) (visibleAt : Nat) : StoredMessage where
  id := m.id
  body := m.body
  receiveCount := m.receiveCount + 1
  receipt := some receipt
  visibleAt := visibleAt

def isVisible (m : StoredMessage) (now : Nat) : Bool := m.visibleAt ≤ now

end StoredMessage

/-- What a pass leaves in the queue, what it removes from it, and what it hands out. -/
structure Sweep where
  kept : List StoredMessage
  dead : List StoredMessage
  received : List Received
deriving Repr

namespace Sweep

/-- The terms of a pass: the moment, how long messages stay out of sight, and how many receives a
message has. -/
structure Terms where
  moment : Moment
  visibilityMs : Nat
  maxReceives : Option Nat

def Terms.isExhausted (t : Terms) (m : StoredMessage) : Bool :=
  match t.maxReceives with
  | some limit => limit ≤ m.receiveCount
  | none => false

def keep (m : StoredMessage) (s : Sweep) : Sweep := { s with kept := m :: s.kept }

def remove (m : StoredMessage) (s : Sweep) : Sweep := { s with dead := m :: s.dead }

def take (m : StoredMessage) (receipt : String) (visibleAt : Nat) (s : Sweep) : Sweep where
  kept := m.taken receipt visibleAt :: s.kept
  dead := s.dead
  received := ⟨m.id, m.body, receipt⟩ :: s.received

/-- Walks over messages with `room` for so many more; `index` counts those that were taken. -/
def scan (t : Terms) : Nat → Nat → List StoredMessage → Sweep
  | 0, _, messages => ⟨messages, [], []⟩
  | _ + 1, _, [] => ⟨[], [], []⟩
  | room + 1, index, m :: rest =>
    if !m.isVisible t.moment.millis then keep m (scan t (room + 1) index rest)
    else if t.isExhausted m then remove m (scan t (room + 1) index rest)
    else
      take m (t.moment.id index) (t.moment.millis + t.visibilityMs) (scan t room (index + 1) rest)

end Sweep

namespace Broker

/-- The queue that takes the dead letters of a queue, and after how many receives. -/
def redrive? (b : Broker) (queue : Queue) : Option (String × Nat) := do
  let policy ← queue.attributes.find? redriveAttribute
  let redrive ← Redrive.read? policy
  let target ← b.urlByArn.find? redrive.target
  some (target, redrive.maxReceiveCount)

/-- One pass over a queue that exists. -/
def sweepQueue (b : Broker) (m : Moment) (queueUrl : String) (queue : Queue)
    (room visibilityMs : Nat) : List Received × Broker :=
  let redrive := b.redrive? queue
  let s := Sweep.scan ⟨m, visibilityMs, redrive.map Prod.snd⟩ room 0 queue.messages
  let b := b.setQueue queueUrl { queue with messages := s.kept }
  let b := match redrive with
    | some (target, _) => b.append target (s.dead.map (·.moved m.millis))
    | none => b
  (s.received, b)

end Broker

end MessageBus
