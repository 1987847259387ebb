import MessageBus.Error
import MessageBus.Json.Document
import MessageBus.Json.Reader
import MessageBus.Json.Record
import MessageBus.Time.Rfc3339
/-!
The notification in which a published text reaches a subscribed queue: a JSON object around the
text. Reading one asks for the message alone; the other fields may be missing, and the time stamp is
kept as the text it is.
-/

set_option autoImplicit false
set_option relaxedAutoImplicit false

namespace MessageBus

structure Notification where
  kind : String
  messageId : String
  topicArn : String
  message : String
  timestamp : Option String
deriving DecidableEq, Repr

namespace Notification

/-- The notification of a message that was published to a topic. -/
def ofMessage (messageId topicArn message timestamp : String) : Notification where
  kind := "Notification"
  messageId := messageId
  topicArn := topicArn
  message := message
  timestamp := some timestamp

/-- How a notification writes the time at which it was made. -/
def timeText (t : Instant) : String := Rfc3339.write t "+00:00"

def fieldNames : List String := ["Type", "MessageId", "TopicArn", "Message", "Timestamp"]

def document (n : Notification) : JsonDocument :=
  .object [
    ("Type", .string n.kind),
    ("MessageId", .string n.messageId),
    ("TopicArn", .string n.topicArn),
    ("Message", .string n.message),
    ("Timestamp", match n.timestamp with | some t => .string t | none => .null)]

def text (n : Notification) : String := n.document.text

def timestamp? : Option JsonText → Option (Option String)
  | none => some none
  | some .null => some none
  | some t => t.string?.map some

def ofTree? (t : JsonText) : Option Notification := do
  match ← t.record? fieldNames with
  | [kind, messageId, topicArn, some message, timestamp] =>
    some {
      kind := ← JsonText.orDefault JsonText.string? "" kind
      messageId := ← JsonText.orDefault JsonText.string? "" messageId
      topicArn := ← JsonText.orDefault JsonText.string? "" topicArn
      message := ← message.string?
      timestamp := ← timestamp? timestamp }
  | _ => none

def read? (body : String) : Option Notification := JsonText.read? body >>= ofTree?

/-- A reader that is at fault with a body says more behind these words; this is left out. -/
def notNotification : Error := .decode "body is not a topic notification"

/-- The published text inside the body of a queue message. -/
def extract (body : String) : Except Error String :=
  match read? body with
  | some n => .ok n.message
  | none => .error notNotification

end Notification

end MessageBus
