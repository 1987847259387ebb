import MessageBus.Broker.Sweep
/-!
The calls that clients make to a broker, each with the type of its reply.
-/

set_option autoImplicit false
set_option relaxedAutoImplicit false

namespace MessageBus

structure ReceiveRequest where
  queueUrl : String
  maxNumberOfMessages : Nat
  waitTimeSeconds : Nat
  visibilityTimeoutSeconds : Nat
deriving DecidableEq, Repr

inductive Call where
  | createTopic (name : String)
  | setTopicAttributes (topicArn name value : String)
  | subscribe (topicArn protocol endpoint : String)
  | publish (topicArn message : String)
  | createQueue (name : String)
  | getQueueAttributes (queueUrl : String) (names : List String)
  | setQueueAttributes (queueUrl : String) (attributes : Table String String)
  | receiveMessage (request : ReceiveRequest)
  | deleteMessage (queueUrl receipt : String)
deriving Repr

namespace Call

/-- The name of the operation, as errors report it. -/
def operation : Call → String
  | createTopic _ => "CreateTopic"
  | setTopicAttributes _ _ _ => "SetTopicAttributes"
  | subscribe _ _ _ => "Subscribe"
  | publish _ _ => "Publish"
  | createQueue _ => "CreateQueue"
  | getQueueAttributes _ _ => "GetQueueAttributes"
  | setQueueAttributes _ _ => "SetQueueAttributes"
  | receiveMessage _ => "ReceiveMessage"
  | deleteMessage _ _ => "DeleteMessage"

/-- An address, an identifier, attributes or messages, or nothing at all. -/
abbrev Reply : Call → Type
  | createTopic _ => String
  | setTopicAttributes _ _ _ => Unit
  | subscribe _ _ _ => String
  | publish _ _ => String
  | createQueue _ => String
  | getQueueAttributes _ _ => Table String String
  | setQueueAttributes _ _ => Unit
  | receiveMessage _ => List Received
  | deleteMessage _ _ => Unit

end Call

end MessageBus
