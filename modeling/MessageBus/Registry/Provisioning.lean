import MessageBus.Broker.Operation
import MessageBus.Program
/-!
Making the resources of a payload type. Every step is one that can be taken again: a topic is
created and given its access policy; the error queue and the queue are created and their ARNs read
back, the queue is given its access and redrive policies, and then it is subscribed to the topic.
-/

set_option autoImplicit false
set_option relaxedAutoImplicit false

namespace MessageBus.Provisioning

open Attempt

def ensureTopic (name : String) : Attempt String := do
  let arn ← call (.createTopic name)
  let (id, sid) ← ofProgram (Program.effect .policyIds)
  let policy ← ofResult (Policy.topicAccess id sid arn)
  call (.setTopicAttributes arn Broker.policyAttribute policy)
  count (.provisioned .topic)
  return arn

def noQueueArn (queueUrl : String) : Error :=
  .resolution ("queue " ++ queueUrl ++ " has no " ++ Broker.queueArnAttribute ++ " attribute")

/-- The URL and the ARN of a queue that exists from now on. -/
def ensureQueue (name : String) : Attempt (String × String) := do
  let url ← call (.createQueue name)
  let attributes ← call (.getQueueAttributes url [Broker.queueArnAttribute])
  match attributes.find? Broker.queueArnAttribute with
  | none => fail (noQueueArn url)
  | some arn =>
    count (.provisioned .queue)
    return (url, arn)

def ensureSubscription (topicArn queueName errorQueueName : String) (maxReceiveCount : Nat) :
    Attempt String := do
  let (_, errorQueueArn) ← ensureQueue errorQueueName
  let (url, arn) ← ensureQueue queueName
  let (id, sid) ← ofProgram (Program.effect .policyIds)
  call (.setQueueAttributes url (.ofList [
    (Broker.policyAttribute, Policy.queueAccess id sid topicArn arn),
    (Broker.redriveAttribute, Redrive.text ⟨errorQueueArn, maxReceiveCount⟩)]))
  let _ ← call (.subscribe topicArn Broker.protocol arn)
  count (.provisioned .subscription)
  return url

end MessageBus.Provisioning
