import MessageBus.Scenario.Client
import MessageBus.Subscriber.Basic
import MessageBus.Subscriber.Delivery
/-!
Subscriptions in a world. A subscription resolves its queue, and then its polling loop runs: it
waits for the events that are possible in its phase and obeys the commands of the machine. Every
message that is handed out is delivered by a flow of its own in the front lane.
-/

set_option autoImplicit false
set_option relaxedAutoImplicit false

namespace MessageBus.Scenario

structure Consumer where
  type : PayloadType
  prototype : Payload
  subscriber : Subscriber
  surroundings : Surroundings

namespace Consumer

/-- Takes an event to the polling loop of a subscription. -/
def signal (id : Nat) (e : Polling.Event) : Task World (Option Polling.Command) :=
  Task.modifyGet fun _ w ↦
    match (w.subscribing id).polling.bind (·.step e) with
    | some (p, command) => (command, w.modifySubscribing id fun s ↦ { s with polling := some p })
    | none => (none, w)

def deliver (c : Consumer) (id : Nat) (queueUrl : String) (m : Received) : Task World Unit := do
  runProgram c.surroundings (Delivery.run c.type c.prototype queueUrl m)
  let _ ← signal id .handlerFinished

/-- Obeys a command; the reply to a receive is the next event. -/
def obey (c : Consumer) (id : Nat) (queueUrl : String) :
    Polling.Command → Task World (Option Polling.Event)
  | .receive request => do
    match ← callUnless (World.isCancelled id) (.receiveMessage request) with
    | none => return some .cancelled
    | some (.ok messages) => return some (.received messages)
    | some (.error e) => return some (.receiveFailed e)
  | .dispatch m => do
    (deliver c id queueUrl m).launch
    return none
  | .report e => do
    runProgram c.surroundings (Delivery.fail c.type.fullName .receive e)
    return none

/-- Waits for an event that is possible. Where a tick is due and the subscription is cancelled,
either of them may come first; here it is the tick. -/
def event (id : Nat) (p : Polling) : Task World Polling.Event := do
  match p.phase with
  | .idle =>
    Task.waitUnless (World.isCancelled id) p.due
    let now ← Task.now
    if p.due ≤ now then return .tick now else return .cancelled
  | .dispatching _ =>
    Task.waitUntil fun w ↦
      w.isCancelled id || (w.subscribing id).polling.any fun p ↦ 0 < p.free
    if (← Task.get).isCancelled id then return .cancelled else return .slotTaken
  | .draining =>
    Task.waitUntil fun w ↦ (w.subscribing id).polling.all fun p ↦ p.running = 0
    return .drained
  | .receiving | .stopped => return .cancelled

/-- Runs the polling loop, for at most so many events. -/
def loop (c : Consumer) (id : Nat) (queueUrl : String) :
    Nat → Option Polling.Event → Task World Unit
  | 0, _ => return ()
  | fuel + 1, pending => do
    match ((← Task.get).subscribing id).polling with
    | none => return ()
    | some p =>
      if p.phase = .stopped then return ()
      let e ← match pending with
        | some e => pure e
        | none => event id p
      let next ← match ← signal id e with
        | some command => obey c id queueUrl command
        | none => pure none
      loop c id queueUrl fuel next

/-- More events than any subscription of a scenario takes. -/
def loopBound : Nat := 0x10000000000

/-- The settings as a flow obeys them: from tick to tick is no longer than the longest sleep. -/
def timed (s : SubscriberSettings) : SubscriberSettings :=
  { s with receiveIntervalMs := min s.receiveIntervalMs Task.longestSleep }

/-- Runs a subscription until it is cancelled and drained, or has no queue. One that breaks down
has no result. -/
def run (c : Consumer) (id : Nat) : Task World (Option (Except Error Unit)) := do
  match ← runAction (c.subscriber.queueUrl c.type.fullName) with
  | .error e => return some (.error e)
  | .ok queueUrl =>
    match Polling.start? (timed c.subscriber.settings) queueUrl (← Task.now) with
    | none => return none
    | some p =>
      Task.modify fun w ↦ w.modifySubscribing id fun s ↦ { s with polling := some p }
      loop c id queueUrl loopBound none
      return some (.ok ())

/-- Cancels a subscription at a time, unless it has ended before. -/
def cancelAt (id time : Nat) : Task World Unit := do
  Task.waitUnless (fun w ↦ (w.subscribing id).ended) time
  Task.modify (World.cancel id)

end Consumer

/-- What a scripted handler does. -/
inductive Reaction where
  | succeed
  | panic
  /-- Fails with a cause and what is wrapped around it. -/
  | fail (texts : List String)
  | sleep (millis : Nat) (next : Reaction)
  /-- Waits until the subscription is cancelled. -/
  | waitStop (next : Reaction)
  /-- Cancels the subscription. -/
  | stop (next : Reaction)
deriving Repr, Inhabited

def Reaction.run (id : Nat) : Reaction → Task World Handling
  | succeed => return .success
  | panic => return .panic
  | fail texts => return .failure (if texts.isEmpty then [""] else texts.reverse)
  | sleep millis next => do
    Task.sleep millis
    next.run id
  | waitStop next => do
    Task.waitUntil (World.isCancelled id)
    next.run id
  | stop next => do
    Task.modify (World.cancel id)
    next.run id

/-- A subscription with a scripted handler. The script lists reactions under the keys of payloads,
one for each attempt, of which the last one stays; `*` stands for all other keys. -/
structure Consumption where
  type : PayloadType
  key : Payload → String
  resolver : Option Resolver
  settings : SubscriberSettings
  startAt : Nat := 0
  stopAt : Nat
  script : Table String (List Reaction) := ∅
  prototype : Payload := []
  /-- Whether errors are recorded. -/
  hasSink : Bool := true
  stopsOnError : Bool := false

namespace Consumption

def reaction (c : Consumption) (key : String) (attempt : Nat) : Reaction :=
  let reactions := (c.script.find? key <|> c.script.find? "*").getD []
  (reactions[attempt - 1]? <|> reactions.getLast?).getD .succeed

/-- Records a call of the handler, and yields its number and the attempt. -/
def noteHandled (c : Consumption) (id began : Nat) (payload : Payload) (metadata : Metadata) :
    Task World (Nat × Nat) :=
  Task.modifyGet fun now w ↦
    let key := c.key payload
    let (number, w) := w.reserve 1
    let attempt := ((w.subscribing id).handled.filter fun h ↦ h.key = key).length + 1
    let record : HandledRecord := {
      number := number
      time := now - began
      key := key
      attempt := attempt
      payload := payload
      metadata := metadata
      cancelled := w.isCancelled id }
    ((number, attempt),
      w.modifySubscribing id fun s ↦ { s with handled := s.handled ++ [record] })

def noteFinished (id began number : Nat) : Task World Unit :=
  Task.modifyGet fun now w ↦
    ((), w.modifySubscribing id fun s ↦ { s with handled := s.handled.map fun h ↦
      if h.number = number then { h with finished := some (now - began) } else h })

def surroundings (c : Consumption) (id began : Nat) : Surroundings where
  handle payload metadata := do
    let (number, attempt) ← noteHandled c id began payload metadata
    let handling ← (c.reaction (c.key payload) attempt).run id
    noteFinished id began number
    return handling
  report e := Task.modifyGet fun now w ↦
    let w := if c.hasSink then
        w.modifySubscribing id fun s ↦ { s with errors := s.errors ++ [⟨now - began, e⟩] }
      else w
    ((), if c.hasSink && c.stopsOnError then w.cancel id else w)

/-- Runs a subscription that belongs to a step which began at a time. -/
def run (c : Consumption) (began : Nat) : Task World Consumed := do
  match Subscriber.make c.settings c.resolver with
  | .error e => return .refused e
  | .ok subscriber =>
    Task.sleepUntil (began + c.startAt)
    let id ← Task.modifyGet fun _ w ↦ w.reserve 1
    (Consumer.cancelAt id (began + c.stopAt)).fork
    let consumer : Consumer := ⟨c.type, c.prototype, subscriber, c.surroundings id began⟩
    let result ← consumer.run id
    Task.modify fun w ↦ w.modifySubscribing id fun s ↦ { s with ended := true }
    let s := (← Task.get).subscribing id
    match result with
    | none => return .broken
    | some r => return .ended ((← Task.now) - began) r s.handled s.errors

end Consumption

end MessageBus.Scenario
