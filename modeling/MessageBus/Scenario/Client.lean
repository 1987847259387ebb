import MessageBus.Scenario.World
/-!
How programs run in a world. A call is recorded, takes its time, fails if it was told to, and is
then answered by the broker; a receive that waits comes back every ten milliseconds until there are
messages or its time is over. A call can be abandoned while it waits.
-/

set_option autoImplicit false
set_option relaxedAutoImplicit false

namespace MessageBus.Scenario

def injectedFailure (operation : String) : Error := .transport operation "injected failure"

/-- How many milliseconds lie between the passes of a receive. -/
def pollInterval : Nat := 10

/-- Runs an operation of the broker at the present moment. -/
def operate {α : Type} (f : Moment → Broker → Broker.Result α) : Task World (Except Error α) :=
  Task.modifyGet fun now w ↦
    let (m, w) := w.moment now
    w.operate (f m)

/-- Whether a pass at the present time ends its receive. One that finds nothing does so when the
deadline is reached. -/
def endsReceive (deadline now : Nat) : Except Error (List Received) → Bool
  | .ok [] => deadline ≤ now
  | _ => true

/-- A receive until a deadline, with at most so many passes to come after the next one. -/
def pollUntil (abandoned : World → Bool) (request : ReceiveRequest) (deadline : Nat) :
    Nat → Task World (Option (Except Error (List Received)))
  | 0 => do return some (← operate fun m b ↦ b.receive m request)
  | passes + 1 => do
    let reply ← operate fun m b ↦ b.receive m request
    if endsReceive deadline (← Task.now) reply then return some reply
    Task.sleepUnless abandoned pollInterval
    if abandoned (← Task.get) then return none
    pollUntil abandoned request deadline passes

/-- A receive that waits as long as so many passes take. -/
def poll (abandoned : World → Bool) (request : ReceiveRequest) (passes : Nat) :
    Task World (Option (Except Error (List Received))) := do
  pollUntil abandoned request ((← Task.now) + passes * pollInterval) passes

/-- A receive by the broker, which waits for messages. -/
def receive (abandoned : World → Bool) (request : ReceiveRequest) :
    Task World (Option (Except Error (List Received))) :=
  poll abandoned request (request.waitTimeSeconds * 1000 / pollInterval)

/-- Records a call that is made now. -/
def noteCall (c : Call) : Task World Nat :=
  Task.modifyGet fun now w ↦
    (w.serial, { w with
      serial := w.serial + 1
      calls := w.calls ++ [{ number := w.serial, time := now, call := c }] })

def noteReceipts (number : Nat) (messages : List Received) : Task World Unit :=
  Task.modify fun w ↦
    let receipts := messages.map (·.receipt)
    let w := receipts.foldl (fun w receipt ↦ w.see .receipt receipt) w
    { w with calls := w.calls.map fun r ↦
        if r.number = number then { r with got := some receipts } else r }

/-- The broker's answer to a call, as the interference lets it through. -/
def answer (abandoned : World → Bool) (number : Nat) :
    (c : Call) → Task World (Option (Except Error c.Reply))
  | .receiveMessage request => do
    let request := match (← Task.get).interference.greedy with
      | some n => { request with maxNumberOfMessages := n }
      | none => request
    match ← receive abandoned request with
    | some (.ok messages) =>
      noteReceipts number messages
      return some (.ok messages)
    | r => return r
  | .createTopic name => do
    let r ← operate fun m b ↦ b.answer m (.createTopic name)
    match (← Task.get).interference.topicArn with
    | some arn => return some (r.map fun _ ↦ arn)
    | none => return some r
  | .getQueueAttributes queueUrl names => do
    let r ← operate fun m b ↦ b.answer m (.getQueueAttributes queueUrl names)
    if (← Task.get).interference.hidesQueueArn then
      return some (r.map fun attributes ↦ attributes.erase Broker.queueArnAttribute)
    else return some r
  | c => do return some (← operate fun m b ↦ b.answer m c)

/-- Makes a call, which is abandoned when the state says so while the call waits. -/
def callUnless (abandoned : World → Bool) (c : Call) :
    Task World (Option (Except Error c.Reply)) := do
  let number ← noteCall c
  let latency := (← Task.get).interference.latency
  if latency ≠ 0 then
    Task.sleepUnless abandoned latency
    if abandoned (← Task.get) then return none
  if ← Task.modifyGet fun _ w ↦ w.takeFailure c.operation then
    return some (.error (injectedFailure c.operation))
  answer abandoned number c

def call (c : Call) : Task World (Except Error c.Reply) := do
  match ← callUnless (fun _ ↦ false) c with
  | some r => return r
  | none => return .error (injectedFailure c.operation)

/-- What a program leaves to its surroundings besides the broker and the stores. -/
structure Surroundings where
  handle : Payload → Metadata → Task World Handling
  report : Error → Task World Unit
  /-- Takes note that the initialization of a key begins. -/
  initializing : Task World Unit := return ()

/-- Surroundings in which nothing is handled or reported. -/
def Surroundings.none : Surroundings where
  handle _ _ := return .success
  report _ := return ()

/-- Performs an effect. -/
def perform (s : Surroundings) : (e : Effect) → Task World e.Result
  | .call c => call c
  | .lookup store key => do
    let found ← Task.modifyGet fun _ w ↦
      let (found, updated) := (w.store store).lookup key
      (found, w.setStore store updated)
    if found.isVacant then s.initializing
    return found
  | .await store ticket => do
    Task.waitUntil fun w ↦ (w.store store).outcomes.contains ticket
    match (← Task.get).store store |>.outcomes.find? ticket with
    | some outcome => return outcome
    | none => return .error (.resolution "")
  | .settle store key ticket outcome =>
    Task.modify fun w ↦ w.setStore store ((w.store store).settle key ticket outcome)
  | .stamp => Task.modifyGet fun now w ↦
    let (m, w) := w.moment now
    (⟨m.id 0, m.time⟩, w)
  | .policyIds => Task.modifyGet fun now w ↦
    let (m, w) := w.moment now
    ((Uuid.simple m.serial 0, Uuid.simple m.serial 1), w)
  | .count c => Task.modify fun w ↦ w.count c
  | .pause millis => Task.sleep millis
  | .handle payload metadata => s.handle payload metadata
  | .report e => s.report e

/-- Runs a program. -/
def runProgram {α : Type} (s : Surroundings) : Program α → Task World α
  | .done a => return a
  | .perform e next => do
    let r ← perform s e
    runProgram s (next r)

def runAction {α : Type} (a : Attempt α) : Task World (Except Error α) :=
  runProgram .none a.run

end MessageBus.Scenario
