import MessageBus.Error
import MessageBus.Json.Document
import MessageBus.Json.Reader
import MessageBus.Text.Split
/-!
Access and redrive policies. The access policy of a topic lets the owning account use it, the one of
a queue lets a topic send to it, and a redrive policy names the queue that takes the messages whose
receives are used up. Policies are written with their keys in order, the count as a string; reading
a redrive policy takes the count as a string or as a number.
-/

set_option autoImplicit false
set_option relaxedAutoImplicit false

namespace MessageBus

/-- The account that a resource name belongs to, which is its fifth field. -/
def accountOfArn (arn : String) : Except Error String :=
  match (splitAtChar ':' arn.toList)[4]? with
  | some account => .ok (String.ofList account)
  | none => .error (.resolution ("invalid arn: " ++ arn))

namespace Policy

def topicActions : List String := [
  "SNS:GetTopicAttributes",
  "SNS:SetTopicAttributes",
  "SNS:AddPermission",
  "SNS:RemovePermission",
  "SNS:DeleteTopic",
  "SNS:Subscribe",
  "SNS:ListSubscriptionsByTopic",
  "SNS:Publish",
  "SNS:Receive"]

/-- A policy of one statement that allows `actions` on `resource` under `condition`. -/
def document (version id sid : String) (actions : List String) (resource : String)
    (principal condition : JsonDocument) : JsonDocument :=
  .object [
    ("Id", .string id),
    ("Statement", .array [.object [
      ("Action", .array (actions.map .string)),
      ("Condition", condition),
      ("Effect", .string "Allow"),
      ("Principal", principal),
      ("Resource", .string resource),
      ("Sid", .string sid)]]),
    ("Version", .string version)]

def topicAccess (id sid topicArn : String) : Except Error String :=
  (accountOfArn topicArn).map fun account ↦
    (document "2008-10-17" id sid topicActions topicArn
      (.object [("AWS", .string "*")])
      (.object [("StringEquals", .object [("AWS:SourceOwner", .string account)])])).text

def queueAccess (id sid topicArn queueArn : String) : String :=
  (document "2012-10-17" id sid ["sqs:SendMessage"] queueArn
    (.object [("Service", .string "sns.amazonaws.com")])
    (.object [("ArnEquals", .object [("AWS:SourceArn", .string topicArn)])])).text

end Policy

structure Redrive where
  target : String
  maxReceiveCount : Nat
deriving DecidableEq, Repr

namespace Redrive

def text (r : Redrive) : String :=
  (JsonDocument.object [
    ("deadLetterTargetArn", .string r.target),
    ("maxReceiveCount", .string (Decimal.text r.maxReceiveCount))]).text

def count? : JsonText → Option Nat
  | .string (some text) => (Decimal.plusNat? text.toList).filter (· < halfWordBound)
  | .number n => n.word?.filter (· < halfWordBound)
  | _ => none

def read? (policy : String) : Option Redrive := do
  let t ← JsonText.readValue? policy
  let target ← (← t.member? "deadLetterTargetArn").string?
  let count ← count? (← t.member? "maxReceiveCount")
  some ⟨target, count⟩

end Redrive

end MessageBus
