import MessageBus.Broker.Operation
import MessageBus.Registry.Basic
import MessageBus.Scenario.Alias
/-!
What a scenario tells: the record of the calls that were made, the record of what the handlers of a
subscription were given, and the answers of its steps.
-/

set_option autoImplicit false
set_option relaxedAutoImplicit false

namespace MessageBus

structure CallRecord where
  number : Nat
  time : Nat
  call : Call
  /-- The receipts that a receive got. -/
  got : Option (List String) := none
deriving Repr

/-- A call of a handler. -/
structure HandledRecord where
  number : Nat
  time : Nat
  key : String
  attempt : Nat
  payload : Payload
  metadata : Metadata
  /-- Whether the subscription was cancelled when the handler was called. -/
  cancelled : Bool
  /-- When the handler ended. -/
  finished : Option Nat := none
deriving Repr

structure ErrorRecord where
  time : Nat
  error : Error
deriving DecidableEq, Repr

/-- How a subscription went. One that is refused never starts. -/
inductive Consumed where
  | refused (e : Error)
  /-- The subscription broke down at its start. -/
  | broken
  | ended (time : Nat) (result : Except Error Unit) (handled : List HandledRecord)
    (errors : List ErrorRecord)

inductive Answer where
  /-- The step makes no sense. -/
  | invalid
  | unit (r : Except Error Unit)
  | text (r : Except Error String)
  /-- An identifier that has an alias. -/
  | id (kind : IdKind) (r : Except Error String)
  | found (value : Option String)
  | number (n : Nat)
  | texts (values : List String)
  | attributes (r : Except Error (Option (Table String String)))
  | identity (i : BrokerIdentity)
  | names (n : ResourceNames)
  | calls (records : List CallRecord)
  | received (time : Nat) (r : Except Error (List Received)) (meanwhile : List Answer)
  | initialized (results : List (Except Error String)) (runs : Nat)
  | addresses (results : List (Except Error String))
  | consumer (c : Consumed)
  | consumed (c : Consumed) (calls : List CallRecord) (during : List Answer)
  | consumedTogether (consumers : List Answer) (calls : List CallRecord) (during : List Answer)

def Answer.text? : Answer → Option (Except Error String)
  | .text r => some r
  | _ => none

end MessageBus
