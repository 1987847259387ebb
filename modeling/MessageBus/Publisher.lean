import MessageBus.Envelope.Body
import MessageBus.Registry.Basic
/-!
Publishing a payload: it is sealed into an envelope, the topic of its type is resolved, and the text
of the envelope is published there. Every publishing is counted once, as a success or a failure.
-/

set_option autoImplicit false
set_option relaxedAutoImplicit false

namespace MessageBus.Publisher

open Attempt

def noResolver (typeName : String) : Error :=
  .resolution ("no topic resolver configured for " ++ typeName)

def send (type : PayloadType) (resolver : Option Resolver) (payload : Payload)
    (overrides : MetadataOverrides) : Attempt String := do
  let stamp ← ofProgram (Program.effect .stamp)
  let (bytes, _) := Envelope.sealed type payload overrides stamp
  match resolver with
  | none => fail (noResolver type.fullName)
  | some resolver =>
    let topicArn ← resolver.topic type.fullName
    let id ← call (.publish topicArn (Envelope.publishedText bytes))
    count (.published type.fullName)
    return id

/-- Publishes a payload; the answer is the identifier of the message. -/
def publish (type : PayloadType) (resolver : Option Resolver) (payload : Payload)
    (overrides : MetadataOverrides) : Program (Except Error String) := do
  match ← (send type resolver payload overrides).run with
  | .ok id => return .ok id
  | .error e =>
    Program.count (.publishFailed type.fullName e.kind)
    return .error e

end MessageBus.Publisher
