import MessageBus.Json.Document
import MessageBus.Text.Decimal
/-!
The log of the demo command: its entries, their levels and fields, and the lines they are written
in.
-/

set_option autoImplicit false
set_option relaxedAutoImplicit false

namespace MessageBus.Demo

/-- Levels as numbers, from off to everything. -/
inductive Level where
  | off
  | error
  | warn
  | info
  | debug
  | trace
deriving DecidableEq, Repr

def Level.rank : Level → Nat
  | off => 0
  | error => 1
  | warn => 2
  | info => 3
  | debug => 4
  | trace => 5

inductive Entry where
  | noSettings (text : String)
  | usingDefaults
  | consuming (queueUrl : String)
  | greeting (sequence : Nat) (text envelopeId correlationId : String)
  | received (received expected : Nat)
deriving DecidableEq, Repr

namespace Entry

def level : Entry → Level
  | noSettings _ => .warn
  | usingDefaults => .warn
  | _ => .info

def message : Entry → String
  | noSettings text => "Failed to load configuration: " ++ text
  | usingDefaults => "Using default configuration"
  | consuming queueUrl => "Consuming from " ++ queueUrl
  | greeting _ text _ _ => text
  | received n expected =>
    "Received " ++ Decimal.text n ++ " of " ++ Decimal.text expected ++ " greetings"

end Entry

def logTarget : String := "bus_demo"

def Level.label : Level → String
  | .off => "OFF"
  | .error => "ERROR"
  | .warn => "WARN"
  | .info => "INFO"
  | .debug => "DEBUG"
  | .trace => "TRACE"

namespace Entry

/-- The field that holds the message of an entry. -/
def messageField : String := "message"

def quoted (s : String) : String := String.ofList (JsonDocument.literal s)

/-- The fields of an entry besides its message, as they are written in JSON. -/
def fields : Entry → List (String × String)
  | greeting sequence _ envelopeId correlationId => [
    ("sequence", Decimal.text sequence),
    ("envelope_id", quoted envelopeId),
    ("correlation_id", quoted correlationId)]
  | _ => []

def hasField (name : String) (e : Entry) : Bool :=
  name = messageField || e.fields.any (·.1 = name)

def objectText (members : List (String × String)) : String :=
  "\x7b" ++ ",".intercalate (members.map fun m ↦ quoted m.1 ++ ":" ++ m.2) ++ "\x7d"

def jsonLine (e : Entry) : String :=
  objectText [
    ("level", quoted e.level.label),
    ("fields", objectText ((messageField, quoted e.message) :: e.fields)),
    ("target", quoted logTarget)]

def plainLine (e : Entry) : String := e.level.label ++ " " ++ logTarget ++ ": " ++ e.message

end Entry

end MessageBus.Demo
