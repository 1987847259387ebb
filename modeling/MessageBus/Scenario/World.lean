import MessageBus.Scenario.Answer
import MessageBus.Scenario.Flow
import MessageBus.Subscriber.Polling
/-!
The world that a scenario runs in: a broker, stores, registries and counters, the faults that calls
are made to meet with, and a record of the calls and of what subscriptions have done.
-/

set_option autoImplicit false
set_option relaxedAutoImplicit false

namespace MessageBus

/-- What happens to calls on their way to the broker and back. -/
structure Interference where
  /-- How many milliseconds a call takes before it reaches the broker. -/
  latency : Nat := 0
  /-- How many messages a receive asks for, whatever was requested. -/
  greedy : Option Nat := none
  /-- Whether the ARN of a queue is kept from who reads its attributes. -/
  hidesQueueArn : Bool := false
  /-- The ARN that creating a topic answers with. -/
  topicArn : Option String := none
deriving DecidableEq, Repr

/-- A subscription that has been started. -/
structure Subscribing where
  cancelled : Bool := false
  /-- Whether the subscription has ended. -/
  ended : Bool := false
  polling : Option Polling := none
  handled : List HandledRecord := []
  errors : List ErrorRecord := []

structure World where
  date : Instant
  serial : Nat := 0
  broker : Broker
  interference : Interference := {}
  /-- The operations that are to fail, and how often; without a number they always fail. -/
  failures : Table String (Option Nat) := ∅
  calls : List CallRecord := []
  stores : Table StoreName Store := ∅
  registries : Table String Registry := ∅
  counters : Counters := ∅
  aliases : Aliases := {}
  subscribings : Table Nat Subscribing := ∅
  /-- How often steps have initialized keys. -/
  initializations : Table Nat Nat := ∅
  /-- The answers of steps that run beside others. -/
  answers : Table Nat Answer := ∅

namespace World

/-- The present moment; its serial number is not used again. Dates do not follow the clock of the
flows: a scenario takes place on one date, however long its flows wait. -/
def moment (now : Nat) (w : World) : Moment × World :=
  (⟨now, w.date, w.serial⟩, { w with serial := w.serial + 1 })

/-- The first of so many serial numbers that are not used again. -/
def reserve (count : Nat) (w : World) : Nat × World :=
  (w.serial, { w with serial := w.serial + count })

def store (name : StoreName) (w : World) : Store := (w.stores.find? name).getD {}

def setStore (name : StoreName) (s : Store) (w : World) : World :=
  { w with stores := w.stores.insert name s }

def count (c : Counter) (w : World) : World := { w with counters := w.counters.increase c }

def see (kind : IdKind) (id : String) (w : World) : World :=
  { w with aliases := w.aliases.see kind id }

/-- Runs an operation of the broker; one that fails changes nothing. -/
def operate {α : Type} (f : Broker → Broker.Result α) (w : World) : Except Error α × World :=
  match f w.broker with
  | .ok (a, b) => (.ok a, { w with broker := b })
  | .error e => (.error e, w)

def subscribing (id : Nat) (w : World) : Subscribing := (w.subscribings.find? id).getD {}

def modifySubscribing (id : Nat) (f : Subscribing → Subscribing) (w : World) : World :=
  { w with subscribings := w.subscribings.insert id (f (w.subscribing id)) }

def isCancelled (id : Nat) (w : World) : Bool := (w.subscribing id).cancelled

def cancel (id : Nat) (w : World) : World :=
  w.modifySubscribing id fun s ↦ { s with cancelled := true }

def initializationCount (step : Nat) (w : World) : Nat := (w.initializations.find? step).getD 0

def noteInitialization (step : Nat) (w : World) : World :=
  { w with initializations := w.initializations.insert step (w.initializationCount step + 1) }

/-- Whether the next call of an operation is to fail; a failure that was ordered is used up. -/
def takeFailure (operation : String) (w : World) : Bool × World :=
  match w.failures.find? operation with
  | none => (false, w)
  | some none => (true, w)
  | some (some 0) => (false, w)
  | some (some (n + 1)) => (true, { w with failures := w.failures.insert operation (some n) })

/-- Takes the record of the calls. -/
def takeCalls (w : World) : List CallRecord × World := (w.calls, { w with calls := [] })

end World

end MessageBus
