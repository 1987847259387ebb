import MessageBus.Notification
import MessageBus.Text.Quoted
import MessageBus.Transport
/-!
What a broker does. An operation either fails, and then there is no new state, or it answers and
yields the next state. Creating what is there already, and subscribing an endpoint again, answers
with the address that is there and changes nothing.
-/

set_option autoImplicit false
set_option relaxedAutoImplicit false

namespace MessageBus

def maxNameLength : Nat := 80

def isNameChar (c : Char) : Bool :=
  ('a' ≤ c && c ≤ 'z') || ('A' ≤ c && c ≤ 'Z') || ('0' ≤ c && c ≤ '9') || c = '-' || c = '_'

/-- Names of topics and queues are 1 to 80 letters, digits, hyphens and underscores. -/
def isResourceName (name : String) : Bool :=
  name ≠ "" && name.length ≤ maxNameLength && name.toList.all isNameChar

namespace Broker

abbrev Result (α : Type) := Except Error (α × Broker)

def invalidName (operation name : String) : Error :=
  .transport operation ("invalid resource name: " ++ Quoted.text name)

def noTopic (operation topicArn : String) : Error :=
  .transport operation ("topic does not exist: " ++ topicArn)

def noQueue (operation queueUrl : String) : Error :=
  .transport operation ("queue does not exist: " ++ queueUrl)

def unsupportedProtocol (protocol : String) : Error :=
  .transport "Subscribe" ("unsupported protocol: " ++ protocol)

def invalidRedrive (policy : String) : Error :=
  .transport "SetQueueAttributes" ("invalid redrive policy: " ++ policy)

def invalidPolicy : Error := .transport "SetQueueAttributes" "access policy is not valid JSON"

def invalidReceipt (receipt : String) : Error :=
  .transport "DeleteMessage" ("receipt handle is invalid: " ++ receipt)

def createTopic (b : Broker) (name : String) : Result String :=
  if isResourceName name then
    let arn := b.topicArnFor name
    .ok (arn, if b.topics.contains arn then b else b.setTopic arn {})
  else .error (invalidName "CreateTopic" name)

def setTopicAttribute (b : Broker) (topicArn name value : String) : Result Unit :=
  match b.topics.find? topicArn with
  | none => .error (noTopic "SetTopicAttributes" topicArn)
  | some topic =>
    .ok ((), b.setTopic topicArn { topic with attributes := topic.attributes.insert name value })

def protocol : String := "sqs"

def subscribe (b : Broker) (m : Moment) (topicArn protocol endpoint : String) : Result String :=
  if protocol ≠ Broker.protocol then .error (unsupportedProtocol protocol)
  else
    match b.topics.find? topicArn with
    | none => .error (noTopic "Subscribe" topicArn)
    | some topic =>
      match topic.subscriptions.find? fun s ↦ s.endpoint = endpoint with
      | some s => .ok (s.arn, b)
      | none =>
        let arn := topicArn ++ ":" ++ m.id 0
        let subscriptions := topic.subscriptions ++ [⟨arn, endpoint⟩]
        .ok (arn, b.setTopic topicArn { topic with subscriptions := subscriptions })

/-- Puts a copy of a body on the queue of each endpoint that has one. -/
def deliver (m : Moment) (body : String) : Nat → List String → Broker → Broker
  | _, [], b => b
  | index, endpoint :: rest, b =>
    let b := match b.urlByArn.find? endpoint with
      | some url => b.append url [.arrived (m.id index) body m.millis]
      | none => b
    deliver m body (index + 1) rest b

def publish (b : Broker) (m : Moment) (topicArn message : String) : Result String :=
  match b.topics.find? topicArn with
  | none => .error (noTopic "Publish" topicArn)
  | some _ =>
    let id := m.id 0
    let notification := Notification.ofMessage id topicArn message (Notification.timeText m.time)
    .ok (id, deliver m notification.text 1 (b.endpoints topicArn) b)

def createQueue (b : Broker) (name : String) : Result String :=
  if isResourceName name then
    let url := b.queueUrlFor name
    let arn := b.queueArnFor name
    if b.queues.contains url then .ok (url, b)
    else
      let b := b.setQueue url { attributes := .ofList [(queueArnAttribute, arn)] }
      .ok (url, { b with urlByArn := b.urlByArn.insert arn url })
  else .error (invalidName "CreateQueue" name)

def getQueueAttributes (b : Broker) (queueUrl : String) (names : List String) :
    Result (Table String String) :=
  match b.queues.find? queueUrl with
  | none => .error (noQueue "GetQueueAttributes" queueUrl)
  | some queue => .ok (queue.attributes.restrict names, b)

/-- The fault of attributes that cannot be set. -/
def attributeFault? (attributes : Table String String) : Option Error :=
  match attributes.find? redriveAttribute with
  | some policy =>
    if (Redrive.read? policy).isNone then some (invalidRedrive policy)
    else policyFault? attributes
  | none => policyFault? attributes
where
  policyFault? (attributes : Table String String) : Option Error :=
    match attributes.find? policyAttribute with
    | some policy => if (JsonText.readValue? policy).isNone then some invalidPolicy else none
    | none => none

def setQueueAttributes (b : Broker) (queueUrl : String) (attributes : Table String String) :
    Result Unit :=
  match attributeFault? attributes with
  | some e => .error e
  | none =>
    match b.queues.find? queueUrl with
    | none => .error (noQueue "SetQueueAttributes" queueUrl)
    | some queue =>
      .ok ((), b.setQueue queueUrl
        { queue with attributes := queue.attributes.insertAll attributes })

/-- Puts a body on a queue, past all topics. -/
def enqueue (b : Broker) (m : Moment) (queueUrl body : String) : Result String :=
  match b.queues.find? queueUrl with
  | none => .error (noQueue "SendMessage" queueUrl)
  | some _ => .ok (m.id 0, b.append queueUrl [.arrived (m.id 0) body m.millis])

/-- One pass of a receive. -/
def receive (b : Broker) (m : Moment) (request : ReceiveRequest) : Result (List Received) :=
  match b.queues.find? request.queueUrl with
  | none => .error (noQueue "ReceiveMessage" request.queueUrl)
  | some queue =>
    .ok (b.sweepQueue m request.queueUrl queue (max request.maxNumberOfMessages 1)
      (request.visibilityTimeoutSeconds * 1000))

def deleteMessage (b : Broker) (queueUrl receipt : String) : Result Unit :=
  match b.queues.find? queueUrl with
  | none => .error (noQueue "DeleteMessage" queueUrl)
  | some queue =>
    match queue.messages.find? fun s ↦ s.receipt = some receipt with
    | none => .error (invalidReceipt receipt)
    | some _ =>
      let messages := queue.messages.eraseP fun s ↦ s.receipt = some receipt
      .ok ((), b.setQueue queueUrl { queue with messages := messages })

/-- Answers a call; a receive gets one pass. -/
def answer (b : Broker) (m : Moment) : (c : Call) → Result c.Reply
  | .createTopic name => b.createTopic name
  | .setTopicAttributes topicArn name value => b.setTopicAttribute topicArn name value
  | .subscribe topicArn protocol endpoint => b.subscribe m topicArn protocol endpoint
  | .publish topicArn message => b.publish m topicArn message
  | .createQueue name => b.createQueue name
  | .getQueueAttributes queueUrl names => b.getQueueAttributes queueUrl names
  | .setQueueAttributes queueUrl attributes => b.setQueueAttributes queueUrl attributes
  | .receiveMessage request => b.receive m request
  | .deleteMessage queueUrl receipt => b.deleteMessage queueUrl receipt

end Broker

end MessageBus
