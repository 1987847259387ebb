import MessageBus.Demo.Arguments
import MessageBus.Demo.Filter
import MessageBus.Scenario.Step
import MessageBus.Settings.Load
/-!
The demo: greetings are published through a broker and consumed again. The subscription is set up
before the first greeting is published, so that none is missed, and is cancelled when all of them
have been received.
-/

set_option autoImplicit false
set_option relaxedAutoImplicit false

namespace MessageBus.Demo

open Scenario

def greetingType : PayloadType :=
  PayloadType.ofSchema "demo.v1.Greeting" [⟨"Greeting", [
    ⟨1, "sequence", .plain .uint64⟩,
    ⟨2, "text", .plain .string⟩]⟩] "Greeting"

def greeting (sequence : Nat) (text : String) : Payload :=
  Wire.Message.ofFields [
    Wire.Message.plain 1 (.int sequence),
    Wire.Message.plain 2 (.text text)]

/-- The subscription of the demo in its world. -/
def subscription : Nat := 0

def receivedCount (w : World) : Nat := (w.subscribing subscription).handled.length

/-- Records every greeting, and cancels the subscription with the last one that is expected. -/
def surroundings (expected : Nat) : Surroundings where
  handle payload metadata := do
    Task.modifyGet fun now w ↦
      let record : HandledRecord := {
        number := receivedCount w
        time := now
        key := payload.text 2
        attempt := 1
        payload := payload
        metadata := metadata
        cancelled := w.isCancelled subscription }
      let w := w.modifySubscribing subscription fun s ↦ { s with handled := s.handled ++ [record] }
      ((), if expected ≤ receivedCount w then w.cancel subscription else w)
    return .success
  report _ := return ()

/-- Publishes greetings until all are published or the subscription is cancelled. A greeting that
cannot be published cancels it. -/
def publishAll (a : Arguments) (resolver : Resolver) (correlationId : String) :
    Nat → Nat → Task World (Except Error Unit)
  | _, 0 => return .ok ()
  | sequence, rest + 1 => do
    if (← Task.get).isCancelled subscription then return .ok ()
    let payload := greeting sequence ("hello from " ++ a.service)
    let overrides := MetadataOverrides.withCorrelationId {} correlationId
    match ← runProgram .none (Publisher.publish greetingType (some resolver) payload overrides) with
    | .error e =>
      Task.modify (World.cancel subscription)
      return .error e
    | .ok _ =>
      Task.sleepUnless (World.isCancelled subscription) a.intervalMs
      publishAll a resolver correlationId (sequence + 1) rest

/-- Runs the demo, and answers with the URL of the queue that the greetings were consumed from. -/
def play (a : Arguments) (s : Settings) : Task World Answer := do
  match (do
    let registry ← Registry.ofSettings s.naming s.registry (.own 0)
    let subscriber ← Subscriber.make s.subscriber (some (.registry registry))
    return (registry, subscriber)) with
  | .error e => return .text (.error e)
  | .ok (registry, subscriber) =>
    match ← runAction (registry.resolveQueue greetingType.fullName) with
    | .error e => return .text (.error e)
    | .ok queueUrl =>
      let correlationId ← Task.modifyGet fun now w ↦
        let (m, w) := w.moment now
        (m.id 0, w)
      let consumer : Consumer := ⟨greetingType, [], subscriber, surroundings a.count⟩
      let consuming : Task World Answer := do
        match ← consumer.run subscription with
        | none => return .consumer .broken
        | some r => return .unit r
      let (published, consumed) ← beside [consuming]
        (publishAll a (.registry registry) correlationId 1 a.count)
      match published, consumed with
      | .error e, _ => return .text (.error e)
      | .ok (), [.consumer .broken] => return .consumer .broken
      | .ok (), _ => return .text (.ok queueUrl)

def entryOf (h : HandledRecord) : Entry :=
  .greeting (h.payload.int 1).toNat (h.payload.text 2) h.metadata.id h.metadata.correlationId

inductive Outcome where
  | refused (r : Refusal)
  /-- The filter of the log cannot be taken apart. -/
  | brokenFilter
  | failed (e : Error)
  /-- The subscription broke down. -/
  | broken
  /-- What is logged, whether as JSON, and the counters if they are asked for. -/
  | completed (log : List Entry) (jsonLogs : Bool) (counters : Option Counters)

/-- The variable that holds the filter of the log. -/
def filterVariable : String := "RUST_LOG"

/-- The variable that asks for the counters. -/
def metricsVariable : String := "BUS_PRINT_METRICS"

/-- The settings of the demo, and what is logged when they cannot be loaded. -/
def settings (a : Arguments) (file? : String → Option String) (env : Environment) :
    Settings × List Entry :=
  let naming := Naming.scoped a.stage a.service
  match Settings.loadDefault file? env with
  | .ok s => ({ s with naming := naming }, [])
  | .error f => ({ naming := naming }, [.noSettings f.error.message, .usingDefaults])

/-- The slot that the answer of the demo is kept in. -/
def answerSlot : Nat := 1

/-- Runs the demo with arguments and a filter that were read. -/
def runWith (date : Instant) (file? : String → Option String) (env : Environment) (a : Arguments)
    (filter : Filter) : Outcome :=
  let (s, warnings) := settings a file? env
  match s.violation? with
  | some v => .failed v.error
  | none =>
    let task : Task World Unit := do
      let r ← play a s
      Task.modify fun w ↦ { w with answers := w.answers.insert answerSlot r }
    let w := worldAfter task { date := date, serial := answerSlot + 1, broker := {} }
    match w.answers.find? answerSlot with
    | some (.text (.error e)) => .failed e
    | some (.text (.ok queueUrl)) =>
      let greetings := (w.subscribing subscription).handled.map entryOf
      let log := warnings ++ .consuming queueUrl :: greetings
        ++ [.received (receivedCount w) a.count]
      let counters := if (env.find? metricsVariable).isSome then some w.counters else none
      .completed (log.filter filter.passes) a.jsonLogs counters
    | _ => .broken

/-- Runs the demo on a date, where `file?` reads files. -/
def run (date : Instant) (file? : String → Option String) (env : Environment)
    (arguments : List String) : Outcome :=
  match Arguments.read arguments env with
  | .error r => .refused r
  | .ok a =>
    match Filter.ofText? (env.find? filterVariable) with
    | none => .brokenFilter
    | some filter => runWith date file? env a filter

end MessageBus.Demo
