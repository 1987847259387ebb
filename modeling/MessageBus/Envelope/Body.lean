import MessageBus.Base64
import MessageBus.Envelope.Codec
import MessageBus.Notification
/-!
Envelopes in message bodies. An envelope is published as the Base64 text of its bytes, which reaches
a queue inside a notification.
-/

set_option autoImplicit false
set_option relaxedAutoImplicit false

namespace MessageBus.Envelope

/-- The text under which the bytes of an envelope are published. -/
def publishedText (bytes : Bytes) : String := String.ofList (Base64.encode bytes)

def invalidBase64 : Error := .decode "invalid base64 body: invalid Base64 encoding"

def bytesOfPublished (text : String) : Except Error Bytes :=
  match Base64.decode text.toList with
  | some bytes => .ok bytes
  | none => .error invalidBase64

/-- Reads the envelope in the body of a queue message. -/
def ofBody (type : PayloadType) (prototype : Payload) (body : String) : Except Error Envelope := do
  let text ← Notification.extract body
  let bytes ← bytesOfPublished text
  (decodeInto type prototype bytes).mapError Failure.error

end MessageBus.Envelope
