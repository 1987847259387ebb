import MessageBus.Envelope.Metadata
import MessageBus.Json.Reader
import MessageBus.Json.Record
import MessageBus.Time.Rfc3339
/-!
Metadata as a JSON record of four texts, of which the last one is a date and time.
-/

set_option autoImplicit false
set_option relaxedAutoImplicit false

namespace MessageBus.Metadata

def fieldNames : List String := ["id", "message_type", "correlation_id", "timestamp"]

def ofTree? (t : JsonText) : Option Metadata := do
  match ← t.record? fieldNames with
  | [some id, some messageType, some correlationId, some timestamp] =>
    some {
      id := ← id.string?
      messageType := ← messageType.string?
      correlationId := ← correlationId.string?
      timestamp := ← Rfc3339.read? (← timestamp.string?) }
  | _ => none

def read? (text : String) : Option Metadata := JsonText.read? text >>= ofTree?

end MessageBus.Metadata
