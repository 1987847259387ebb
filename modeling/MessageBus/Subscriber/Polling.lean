import MessageBus.Settings.Basic
import MessageBus.Transport
/-!
The polling loop of a subscription. On a tick it asks for at most as many messages as there are free
slots for handlers, hands the messages it receives out one by one as slots are free, and waits for
the next tick. Once the subscription is cancelled it only waits for the handlers that are running.

The loop is a machine: an event that is possible in its phase leads to the next state and says what
has to be done.
-/

set_option autoImplicit false
set_option relaxedAutoImplicit false

namespace MessageBus

namespace Polling

inductive Phase where
  /-- Waits for the next tick. -/
  | idle
  /-- Waits for the reply to a receive. -/
  | receiving
  /-- Has messages to hand out. -/
  | dispatching (waiting : List Received)
  /-- Is cancelled and waits for the running handlers. -/
  | draining
  | stopped
deriving DecidableEq, Repr

inductive Event where
  | tick (now : Nat)
  | received (messages : List Received)
  | receiveFailed (e : Error)
  /-- A slot is taken for the next message. -/
  | slotTaken
  | cancelled
  | handlerFinished
  /-- The last handler has finished. -/
  | drained
deriving DecidableEq, Repr

inductive Command where
  | receive (request : ReceiveRequest)
  | dispatch (m : Received)
  | report (e : Error)
deriving DecidableEq, Repr

end Polling

structure Polling where
  settings : SubscriberSettings
  queueUrl : String
  phase : Polling.Phase := .idle
  /-- How many handlers are running. -/
  running : Nat := 0
  /-- When the next tick is due. -/
  due : Nat
deriving DecidableEq, Repr

namespace Polling

/-- How late a tick may be taken without moving those after it. -/
def tickSlack : Nat := 5

def free (p : Polling) : Nat := p.settings.maxInFlight - p.running

/-- How many messages the next receive asks for. -/
def batch (p : Polling) : Nat := min p.settings.maxNumberOfMessages (min p.free (halfWordBound - 1))

def request (p : Polling) : ReceiveRequest where
  queueUrl := p.queueUrl
  maxNumberOfMessages := p.batch
  waitTimeSeconds := p.settings.waitTimeSeconds
  visibilityTimeoutSeconds := p.settings.visibilityTimeoutSeconds

/-- When the tick after one that is taken `now` is due. -/
def nextDue (p : Polling) (now : Nat) : Nat :=
  (if p.due + tickSlack < now then now else p.due) + p.settings.receiveIntervalMs

/-- The phase in which messages are handed out, if there are any. -/
def dispatchPhase : List Received → Phase
  | [] => .idle
  | messages => .dispatching messages

def step (p : Polling) : Event → Option (Polling × Option Command)
  | .tick now =>
    if p.phase = .idle ∧ p.due ≤ now then
      let p := { p with due := p.nextDue now }
      if p.batch = 0 then some (p, none)
      else some ({ p with phase := .receiving }, some (.receive p.request))
    else none
  | .received messages =>
    if p.phase = .receiving then some ({ p with phase := dispatchPhase messages }, none) else none
  | .receiveFailed e =>
    if p.phase = .receiving then some ({ p with phase := .idle }, some (.report e)) else none
  | .slotTaken =>
    match p.phase with
    | .dispatching (m :: rest) =>
      if 0 < p.free then
        some ({ p with phase := dispatchPhase rest, running := p.running + 1 }, some (.dispatch m))
      else none
    | _ => none
  | .cancelled =>
    match p.phase with
    | .idle | .receiving | .dispatching _ => some ({ p with phase := .draining }, none)
    | _ => none
  | .handlerFinished =>
    if 0 < p.running then some ({ p with running := p.running - 1 }, none) else none
  | .drained =>
    if p.phase = .draining ∧ p.running = 0 then some ({ p with phase := .stopped }, none) else none

/-- The most slots that a subscription can have. -/
def maxSlots : Nat := 0x1fffffffffffffff

/-- A subscription that starts `now`. One that is set to more slots than it can have, or to no time
from tick to tick, breaks down. -/
def start? (settings : SubscriberSettings) (queueUrl : String) (now : Nat) : Option Polling :=
  if settings.maxInFlight ≤ maxSlots ∧ 0 < settings.receiveIntervalMs then
    some { settings := settings, queueUrl := queueUrl, due := now }
  else none

end Polling

end MessageBus
