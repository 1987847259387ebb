/-!
Names of the broker resources that serve a payload type.

The message name of a payload type is its full name with every dot replaced by a hyphen. A plain
naming uses it as it is. A scoped naming puts the deployment stage in front, and for queues also
the consuming service, so that the services of one stage share a topic and own their queues. The
error queue of a queue is the queue's name followed by `_error`.
-/

set_option autoImplicit false
set_option relaxedAutoImplicit false

namespace MessageBus

def messageName (typeName : String) : String :=
  typeName.map fun c ↦ if c = '.' then '-' else c

inductive Naming where
  | plain
  | scoped (stage service : String)
deriving DecidableEq, Repr

structure ResourceNames where
  topic : String
  queue : String
  errorQueue : String
deriving DecidableEq, Repr

namespace Naming

def errorSuffix : String := "_error"

def topicName : Naming → String → String
  | .plain, typeName => messageName typeName
  | .scoped stage _, typeName => stage ++ "-" ++ messageName typeName

def queueName : Naming → String → String
  | .plain, typeName => messageName typeName
  | .scoped stage service, typeName => stage ++ "-" ++ service ++ "-" ++ messageName typeName

def errorQueueName (naming : Naming) (typeName : String) : String :=
  naming.queueName typeName ++ errorSuffix

def resourceNames (naming : Naming) (typeName : String) : ResourceNames where
  topic := naming.topicName typeName
  queue := naming.queueName typeName
  errorQueue := naming.errorQueueName typeName

end Naming

end MessageBus
