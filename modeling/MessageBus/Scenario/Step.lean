import MessageBus.Publisher
import MessageBus.Scenario.Consumer
/-!
Scenarios: steps that are taken one after another in a world. Broker steps operate on the broker
itself; registries, publishers and subscriptions work through calls. A step may have others beside
it, each of which begins some time after the step began.
-/

set_option autoImplicit false
set_option relaxedAutoImplicit false

namespace MessageBus.Scenario

/-- Where a step takes addresses from: a registry of the scenario, an address, or nowhere. -/
inductive Source where
  | registry (name : String)
  | fixed (address : String)
  | nowhere
deriving DecidableEq, Repr

/-- What a step resolves. -/
inductive Target where
  | topic
  | queue
deriving DecidableEq, Repr

inductive Step where
  /-- A step that makes no sense. -/
  | invalid
  | createTopic (name : String)
  | createQueue (name : String)
  | setTopicAttribute (topicArn name value : String)
  | subscribe (topicArn protocol endpoint : String)
  | publishText (topicArn message : String)
  | enqueue (queueUrl body : String)
  | receive (request : ReceiveRequest) (meanwhile : List (Nat × Step))
  | delete (queueUrl receipt : String)
  | getQueueAttributes (queueUrl : String) (names : List String)
  | setQueueAttributes (queueUrl : String) (attributes : Table String String)
  | findTopic (name : String)
  | findQueue (name : String)
  | depth (queueUrl : String)
  | endpoints (topicArn : String)
  | topicAttributes (topicArn : String)
  | queueAttributes (queueUrl : String)
  | identity
  | advance (millis : Nat)
  | fail (operation : String) (times : Option Nat)
  | recover (operation : String)
  | interfere (i : Interference)
  | calls
  | storeGet (store : String) (key : ResourceKey)
  | storeCount (store : String)
  | storeGetOrSet (store : String) (key : ResourceKey) (outcome : Except Error String)
    (times takes : Nat)
  | makeRegistry (name : String) (naming : Naming) (settings : RegistrySettings)
    (store : Option String) (checksNaming : Bool)
  | resourceNames (registry typeName : String)
  | resolve (target : Target) (registry typeName : String) (times : Option Nat)
  | publish (type : PayloadType) (source : Source) (payload : Payload)
    (overrides : MetadataOverrides)
  | consume (source : Source) (c : Consumption) (during : List (Nat × Step))
  | consumeTogether (consumers : List (Option (Source × Consumption)))
    (during : List (Nat × Step))

/-- Runs tasks beside another one, and waits for all of them. -/
def beside {α : Type} (children : List (Task World Answer)) (main : Task World α) :
    Task World (α × List Answer) := do
  let first ← Task.modifyGet fun _ w ↦ w.reserve children.length
  Task.forkAll (children.zipIdx.map fun (child, i) ↦ do
    let a ← child
    Task.modify fun w ↦ { w with answers := w.answers.insert (first + i) a })
  let a ← main
  let slots := (List.range children.length).map (first + ·)
  Task.waitUntil fun w ↦ slots.all fun slot ↦ w.answers.contains slot
  let w ← Task.get
  return (a, slots.filterMap w.answers.find?)

/-- Runs a task several times at once. -/
def together (times : Nat) (task : Task World (Except Error String)) :
    Task World (List (Except Error String)) := do
  let child : Task World Answer := do return .text (← task)
  let (_, answers) ← beside (List.replicate times child) (return ())
  return answers.filterMap Answer.text?

/-- Records the identifier of a success. -/
def noteId (kind : IdKind) (r : Except Error String) : Task World Answer := do
  match r with
  | .ok id => Task.modify (World.see kind id)
  | .error _ => pure ()
  return .id kind r

def unitAnswer (f : Moment → Broker → Broker.Result Unit) : Task World Answer := do
  return .unit (← operate f)

def textAnswer (f : Moment → Broker → Broker.Result String) : Task World Answer := do
  return .text (← operate f)

def brokerAnswer (f : Broker → Answer) : Task World Answer := do
  return f (← Task.get).broker

def resolver? (w : World) : Source → Option (Option Resolver)
  | .registry name => (w.registries.find? name).map fun r ↦ some (.registry r)
  | .fixed address => some (some (.fixed address))
  | .nowhere => some none

/-- The messages that the broker has for a request, and when it answered. -/
def receiveTimed (request : ReceiveRequest) :
    Task World (Nat × Except Error (List Received)) := do
  let r := (← receive (fun _ ↦ false) request).getD (.ok [])
  return (← Task.now, r)

/-- Records the identifiers of received messages. -/
def noteMessages : Except Error (List Received) → Task World Unit
  | .ok messages =>
    Task.modify fun w ↦ messages.foldl
      (fun w m ↦ (w.see .message m.id).see .receipt m.receipt) w
  | .error _ => return ()

def getOrSetStep (store : String) (key : ResourceKey) (outcome : Except Error String)
    (times takes : Nat) : Task World Answer := do
  let name := StoreName.shared store
  let init : Attempt String := do
    if takes ≠ 0 then Attempt.ofProgram (Program.effect (.pause takes))
    Attempt.ofResult outcome
  let step ← Task.modifyGet fun _ w ↦ w.reserve 1
  let surroundings := { Surroundings.none with
    initializing := Task.modify (World.noteInitialization step) }
  let results ← together times (runProgram surroundings (Attempt.getOrSet name key init).run)
  return .initialized results ((← Task.get).initializationCount step)

def registryStep (name : String) (naming : Naming) (settings : RegistrySettings)
    (store : Option String) (checksNaming : Bool) : Task World Answer :=
  Task.modifyGet fun _ w ↦
    let (serial, w) := w.reserve 1
    let storeName := match store with
      | some s => StoreName.shared s
      | none => StoreName.own serial
    let made :=
      if checksNaming then Registry.ofSettings naming settings storeName
      else Registry.make naming settings storeName
    match made with
    | .ok r => (.unit (.ok ()), { w with registries := w.registries.insert name r })
    | .error e => (.unit (.error e), w)

def resolveStep (target : Target) (registry typeName : String) (times : Option Nat) :
    Task World Answer := do
  match (← Task.get).registries.find? registry with
  | none => return .invalid
  | some r =>
    let task := runAction (match target with
      | .topic => r.resolveTopic typeName
      | .queue => r.resolveQueue typeName)
    match times with
    | none => return .text (← task)
    | some n => return .addresses (← together n task)

def publishStep (type : PayloadType) (source : Source) (payload : Payload)
    (overrides : MetadataOverrides) : Task World Answer := do
  match resolver? (← Task.get) source with
  | none => return .invalid
  | some resolver =>
    noteId .published (← runProgram .none (Publisher.publish type resolver payload overrides))

/-- Receives come before deletions in the record of one instant, and deletions stand in the order of
their receipts. -/
def callOrder (a : Aliases) (r s : CallRecord) : Bool :=
  let rank (r : CallRecord) : Nat :=
    match r.call with
    | .deleteMessage _ receipt => (a.number? .receipt receipt).getD 0 + 1
    | _ => 0
  r.time < s.time || (r.time = s.time && rank r ≤ rank s)

/-- Takes the record of the calls since a time, in order. -/
def takeCallsSince (began : Nat) : Task World (List CallRecord) :=
  Task.modifyGet fun _ w ↦
    let (calls, w) := w.takeCalls
    ((calls.map fun r ↦ { r with time := r.time - began }).mergeSort (callOrder w.aliases), w)

def runConsumption (source : Source) (c : Consumption) (began : Nat) :
    Task World (Option Consumed) := do
  match resolver? (← Task.get) source with
  | none => return none
  | some resolver => return some (← { c with resolver := resolver }.run began)

def consumerAnswer (began : Nat) : Option (Source × Consumption) → Task World Answer
  | none => return .invalid
  | some (source, c) => do
    match ← runConsumption source c began with
    | none => return .invalid
    | some consumed => return .consumer consumed

mutual

/-- Takes a step. -/
def Step.run : Step → Task World Answer
  | .invalid => return .invalid
  | .createTopic name => textAnswer fun _ b ↦ b.createTopic name
  | .createQueue name => textAnswer fun _ b ↦ b.createQueue name
  | .setTopicAttribute topicArn name value =>
    unitAnswer fun _ b ↦ b.setTopicAttribute topicArn name value
  | .subscribe topicArn protocol endpoint => do
    let r ← operate fun m b ↦ b.subscribe m topicArn protocol endpoint
    noteId .subscription r
  | .publishText topicArn message => do
    noteId .published (← operate fun m b ↦ b.publish m topicArn message)
  | .enqueue queueUrl body => do
    noteId .message (← operate fun m b ↦ b.enqueue m queueUrl body)
  | .receive request meanwhile => do
    let began ← Task.now
    let ((time, r), answers) ← beside (Step.children began meanwhile) (receiveTimed request)
    noteMessages r
    return .received time r answers
  | .delete queueUrl receipt => do
    let receipt := ((← Task.get).aliases.id? .receipt receipt).getD receipt
    unitAnswer fun _ b ↦ b.deleteMessage queueUrl receipt
  | .getQueueAttributes queueUrl names => do
    return .attributes ((← operate fun _ b ↦ b.getQueueAttributes queueUrl names).map some)
  | .setQueueAttributes queueUrl attributes =>
    unitAnswer fun _ b ↦ b.setQueueAttributes queueUrl attributes
  | .findTopic name => brokerAnswer fun b ↦ .found (b.topicArn? name)
  | .findQueue name => brokerAnswer fun b ↦ .found (b.queueUrl? name)
  | .depth queueUrl => brokerAnswer fun b ↦ .number (b.depth queueUrl)
  | .endpoints topicArn => brokerAnswer fun b ↦ .texts (b.endpoints topicArn)
  | .topicAttributes topicArn =>
    brokerAnswer fun b ↦ .attributes (.ok (b.topicAttributes? topicArn))
  | .queueAttributes queueUrl =>
    brokerAnswer fun b ↦ .attributes (.ok (b.queueAttributes? queueUrl))
  | .identity => brokerAnswer fun b ↦ .identity b.identity
  | .advance millis => do
    Task.sleep millis
    return .number (← Task.now)
  | .fail operation times => do
    Task.modify fun w ↦ { w with failures := w.failures.insert operation times }
    return .unit (.ok ())
  | .recover operation => do
    Task.modify fun w ↦ { w with failures := w.failures.erase operation }
    return .unit (.ok ())
  | .interfere i => do
    Task.modify fun w ↦ { w with interference := i }
    return .unit (.ok ())
  | .calls => do return .calls (← Task.modifyGet fun _ w ↦ w.takeCalls)
  | .storeGet store key => do return .found (((← Task.get).store (.shared store)).get? key)
  | .storeCount store => do return .number ((← Task.get).store (.shared store)).count
  | .storeGetOrSet store key outcome times takes => getOrSetStep store key outcome times takes
  | .makeRegistry name naming settings store checksNaming =>
    registryStep name naming settings store checksNaming
  | .resourceNames registry typeName => do
    match (← Task.get).registries.find? registry with
    | none => return .invalid
    | some r => return .names (r.naming.resourceNames typeName)
  | .resolve target registry typeName times => resolveStep target registry typeName times
  | .publish type source payload overrides => publishStep type source payload overrides
  | .consume source c during => do
    let began ← Task.now
    let _ ← Task.modifyGet fun _ w ↦ w.takeCalls
    let (consumed, answers) ← beside (Step.children began during) (runConsumption source c began)
    match consumed with
    | none => return .invalid
    | some consumed => return .consumed consumed (← takeCallsSince began) answers
  | .consumeTogether consumers during => do
    let began ← Task.now
    let _ ← Task.modifyGet fun _ w ↦ w.takeCalls
    let (_, answers) ← beside
      (consumers.map (consumerAnswer began) ++ Step.children began during) (return ())
    return .consumedTogether (answers.take consumers.length) (← takeCallsSince began)
      (answers.drop consumers.length)

/-- The tasks of steps that begin some time after `began`. -/
def Step.children (began : Nat) : List (Nat × Step) → List (Task World Answer)
  | [] => []
  | (after, step) :: rest =>
    (do
      Task.sleepUntil (began + after)
      step.run) :: Step.children began rest

end

/-- Takes steps one after another, and keeps their answers in slots from `slot` on. -/
def runSteps : Nat → List Step → Task World Unit
  | _, [] => return ()
  | slot, step :: rest => do
    let a ← step.run
    Task.modify fun w ↦ { w with answers := w.answers.insert slot a }
    runSteps (slot + 1) rest

/-- More passes than any scenario takes. -/
def passBound : Nat := 0x10000000000

/-- The world after a task, when nothing is left to do. -/
def worldAfter (task : Task World Unit) (w : World) : World :=
  (Schedule.run passBound ⟨0, w, [], [task.flow]⟩).state

/-- The answers of a scenario, and the world after it. -/
def run (date : Instant) (identity : BrokerIdentity) (steps : List Step) :
    List Answer × World :=
  let w := worldAfter (runSteps 0 steps)
    { date := date, serial := steps.length, broker := { identity := identity } }
  ((List.range steps.length).filterMap w.answers.find?, w)

end MessageBus.Scenario
