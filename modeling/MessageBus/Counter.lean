import MessageBus.Error
import MessageBus.Table
/-!
The counters of the bus. A counter has a name and labels; its text lists the labels in the order of
their names.
-/

set_option autoImplicit false
set_option relaxedAutoImplicit false

namespace MessageBus

/-- The steps at which the consumption of a message can fail. -/
inductive Stage where
  | receive
  | decode
  | handle
  | delete
deriving DecidableEq, Repr

def Stage.label : Stage → String
  | .receive => "receive"
  | .decode => "decode"
  | .handle => "handle"
  | .delete => "delete"

inductive Provisioned where
  | topic
  | queue
  | subscription
deriving DecidableEq, Repr

def Provisioned.label : Provisioned → String
  | .topic => "topic"
  | .queue => "queue"
  | .subscription => "subscription"

inductive Counter where
  | published (messageType : String)
  | publishFailed (messageType : String) (error : ErrorKind)
  | consumed (messageType : String)
  | consumeFailed (messageType : String) (stage : Stage)
  /-- Calls of handlers, whatever their outcome. -/
  | handled (messageType : String)
  | provisioned (what : Provisioned)
deriving DecidableEq, Repr

namespace Counter

def labelText (label : String × String) : String := label.1 ++ "=\"" ++ label.2 ++ "\""

def textWith (name : String) (labels : List (String × String)) : String :=
  name ++ "\x7b" ++ ",".intercalate (labels.map labelText) ++ "\x7d"

def text : Counter → String
  | published type => textWith "bus_messages_published_total" [("message_type", type)]
  | publishFailed type error =>
    textWith "bus_publish_failures_total" [("error", error.label), ("message_type", type)]
  | consumed type => textWith "bus_messages_consumed_total" [("message_type", type)]
  | consumeFailed type stage =>
    textWith "bus_consume_failures_total" [("message_type", type), ("stage", stage.label)]
  | handled type => textWith "bus_handle_latency_seconds_count" [("message_type", type)]
  | provisioned what => textWith "bus_resources_provisioned_total" [("kind", what.label)]

end Counter

abbrev Counters := Table Counter Nat

def Counters.increase (t : Counters) (c : Counter) : Counters :=
  t.insert c ((t.find? c).getD 0 + 1)

end MessageBus
