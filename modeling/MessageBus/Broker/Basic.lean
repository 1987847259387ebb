import MessageBus.Error
import MessageBus.Moment
import MessageBus.Table
/-!
The state of a broker. Topics have subscriptions, each to the endpoint of a queue; queues hold
messages, the one that arrived first in front. Topics and queues are found under their addresses,
which the name and the identity of the broker determine; a queue is also found under its ARN.
-/

set_option autoImplicit false
set_option relaxedAutoImplicit false

namespace MessageBus

structure BrokerIdentity where
  region : String := "eu-west-1"
  accountId : String := "111122223333"
deriving DecidableEq, Repr

structure StoredMessage where
  id : String
  body : String
  receiveCount : Nat := 0
  /-- The handle that the latest receive gave out. -/
  receipt : Option String := none
  visibleAt : Nat
deriving DecidableEq, Repr

structure Queue where
  attributes : Table String String := ∅
  messages : List StoredMessage := []
deriving Repr, Inhabited

structure Subscription where
  arn : String
  endpoint : String
deriving DecidableEq, Repr

structure Topic where
  attributes : Table String String := ∅
  subscriptions : List Subscription := []
deriving Repr, Inhabited

structure Broker where
  identity : BrokerIdentity := {}
  topics : Table String Topic := ∅
  queues : Table String Queue := ∅
  urlByArn : Table String String := ∅
deriving Repr

namespace Broker

def queueArnAttribute : String := "QueueArn"

def policyAttribute : String := "Policy"

def redriveAttribute : String := "RedrivePolicy"

def topicArnFor (b : Broker) (name : String) : String :=
  "arn:aws:sns:" ++ b.identity.region ++ ":" ++ b.identity.accountId ++ ":" ++ name

def queueUrlFor (b : Broker) (name : String) : String :=
  "https://sqs." ++ b.identity.region ++ ".amazonaws.com/" ++ b.identity.accountId ++ "/" ++ name

def queueArnFor (b : Broker) (name : String) : String :=
  "arn:aws:sqs:" ++ b.identity.region ++ ":" ++ b.identity.accountId ++ ":" ++ name

/-- The ARN of a topic that exists. -/
def topicArn? (b : Broker) (name : String) : Option String :=
  if b.topics.contains (b.topicArnFor name) then some (b.topicArnFor name) else none

/-- The URL of a queue that exists. -/
def queueUrl? (b : Broker) (name : String) : Option String :=
  if b.queues.contains (b.queueUrlFor name) then some (b.queueUrlFor name) else none

def endpoints (b : Broker) (topicArn : String) : List String :=
  match b.topics.find? topicArn with
  | some topic => topic.subscriptions.map (·.endpoint)
  | none => []

/-- The messages of a queue, received or not. -/
def messages (b : Broker) (queueUrl : String) : List StoredMessage :=
  match b.queues.find? queueUrl with
  | some queue => queue.messages
  | none => []

def depth (b : Broker) (queueUrl : String) : Nat := (b.messages queueUrl).length

def topicAttributes? (b : Broker) (topicArn : String) : Option (Table String String) :=
  (b.topics.find? topicArn).map (·.attributes)

def queueAttributes? (b : Broker) (queueUrl : String) : Option (Table String String) :=
  (b.queues.find? queueUrl).map (·.attributes)

def setTopic (b : Broker) (topicArn : String) (topic : Topic) : Broker :=
  { b with topics := b.topics.insert topicArn topic }

def setQueue (b : Broker) (queueUrl : String) (queue : Queue) : Broker :=
  { b with queues := b.queues.insert queueUrl queue }

/-- Puts messages behind those of a queue; without a queue they are lost. -/
def append (b : Broker) (queueUrl : String) (messages : List StoredMessage) : Broker :=
  match b.queues.find? queueUrl with
  | some queue => b.setQueue queueUrl { queue with messages := queue.messages ++ messages }
  | none => b

end Broker

end MessageBus
