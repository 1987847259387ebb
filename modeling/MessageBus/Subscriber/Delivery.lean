import MessageBus.Envelope.Body
import MessageBus.Program
/-!
The delivery of one received message: its body is decoded, the handler is called, and the message is
deleted if the handler succeeds. A delivery that fails is counted under the stage that failed and
reported, and the message stays in its queue.
-/

set_option autoImplicit false
set_option relaxedAutoImplicit false

namespace MessageBus.Delivery

/-- The error of a handler that did not succeed. -/
def handlingError : Handling → Option Error
  | .success => none
  | .failure causes => some (.handler (": ".intercalate causes))
  | .panic => some (.handler "handler panicked")

/-- The stage at which a delivery failed, as its error tells. -/
def failedStage : Error → Stage
  | .decode _ => .decode
  | .handler _ => .handle
  | _ => .delete

/-- Counts and reports a failure. -/
def fail (typeName : String) (stage : Stage) (e : Error) : Program Unit := do
  Program.count (.consumeFailed typeName stage)
  Program.effect (.report e)

/-- Decodes the body of a message, calls the handler, and deletes the message if the handler
succeeded. -/
def attempt (type : PayloadType) (prototype : Payload) (queueUrl : String) (m : Received) :
    Attempt Unit := do
  let envelope ← Attempt.ofResult (Envelope.ofBody type prototype m.body)
  let outcome ← Attempt.ofProgram
    (Program.effect (.handle envelope.payload envelope.metadata))
  Attempt.count (.handled type.fullName)
  match handlingError outcome with
  | some e => Attempt.fail e
  | none =>
    Attempt.call (.deleteMessage queueUrl m.receipt)
    Attempt.count (.consumed type.fullName)

def run (type : PayloadType) (prototype : Payload) (queueUrl : String) (m : Received) :
    Program Unit := do
  match ← (attempt type prototype queueUrl m).run with
  | .ok () => return ()
  | .error e => fail type.fullName (failedStage e) e

end MessageBus.Delivery
