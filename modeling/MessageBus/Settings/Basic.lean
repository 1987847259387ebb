import MessageBus.Error
import MessageBus.Naming
import MessageBus.Text.Decimal
import MessageBus.Word
/-!
The settings of the bus and the ranges that they have to lie in. Numbers of messages, seconds and
receives are half words, numbers of milliseconds and of handlers are words. Each section has a
default; the sections are checked in the order naming, registry, subscriber, and within a section
the first field out of range is named.
-/

set_option autoImplicit false
set_option relaxedAutoImplicit false

namespace MessageBus

inductive Violation where
  | noStage
  | noService
  | maxReceiveCount (given : Nat)
  | maxNumberOfMessages (given : Nat)
  | receiveInterval
  | waitTime (given : Nat)
  | visibilityTimeout (given : Nat)
  | maxInFlight
deriving DecidableEq, Repr

namespace Violation

def message : Violation → String
  | noStage => "prefix naming requires a stage"
  | noService => "prefix naming requires a service"
  | maxReceiveCount given =>
    "max_receive_count must be between 1 and 1000, got " ++ Decimal.text given
  | maxNumberOfMessages given =>
    "max_number_of_messages must be between 1 and 10, got " ++ Decimal.text given
  | receiveInterval => "receive_interval_ms must be greater than 0"
  | waitTime given => "wait_time_seconds must be at most 20, got " ++ Decimal.text given
  | visibilityTimeout given =>
    "visibility_timeout_seconds must be at most 43200, got " ++ Decimal.text given
  | maxInFlight => "max_in_flight must be greater than 0"

def error (v : Violation) : Error := .configuration v.message

end Violation

def Naming.violation? : Naming → Option Violation
  | .plain => none
  | .scoped stage service =>
    if stage = "" then some .noStage
    else if service = "" then some .noService
    else none

structure RegistrySettings where
  /-- How often a message is received before it moves to the error queue. -/
  maxReceiveCount : Nat := 5
deriving DecidableEq, Repr

def RegistrySettings.violation? (s : RegistrySettings) : Option Violation :=
  if 1 ≤ s.maxReceiveCount ∧ s.maxReceiveCount ≤ 1000 then none
  else some (.maxReceiveCount s.maxReceiveCount)

structure SubscriberSettings where
  /-- How many messages one receive asks for at most. -/
  maxNumberOfMessages : Nat := 10
  receiveIntervalMs : Nat := 1000
  waitTimeSeconds : Nat := 20
  visibilityTimeoutSeconds : Nat := 15
  /-- How many messages are handled at the same time. -/
  maxInFlight : Nat := 100
deriving DecidableEq, Repr

def SubscriberSettings.violation? (s : SubscriberSettings) : Option Violation :=
  if s.maxNumberOfMessages < 1 ∨ 10 < s.maxNumberOfMessages then
    some (.maxNumberOfMessages s.maxNumberOfMessages)
  else if s.receiveIntervalMs = 0 then some .receiveInterval
  else if 20 < s.waitTimeSeconds then some (.waitTime s.waitTimeSeconds)
  else if 43200 < s.visibilityTimeoutSeconds then
    some (.visibilityTimeout s.visibilityTimeoutSeconds)
  else if s.maxInFlight = 0 then some .maxInFlight
  else none

theorem SubscriberSettings.violation?_eq_none_iff {s : SubscriberSettings} :
    s.violation? = none ↔
      (1 ≤ s.maxNumberOfMessages ∧ s.maxNumberOfMessages ≤ 10) ∧ 0 < s.receiveIntervalMs ∧
        s.waitTimeSeconds ≤ 20 ∧ s.visibilityTimeoutSeconds ≤ 43200 ∧ 0 < s.maxInFlight := by
  grind [violation?]

structure Settings where
  naming : Naming := .plain
  registry : RegistrySettings := {}
  subscriber : SubscriberSettings := {}
deriving DecidableEq, Repr

def Settings.violation? (s : Settings) : Option Violation :=
  s.naming.violation? <|> s.registry.violation? <|> s.subscriber.violation?

/-- A value that violates nothing. -/
def Violation.check {α : Type} (violation : Option Violation) (a : α) : Except Error α :=
  match violation with
  | some v => .error v.error
  | none => .ok a

end MessageBus
