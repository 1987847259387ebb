import MessageBus.Proofs.Envelope.RoundTrip
import MessageBus.Proofs.Subscriber.Delivery
import MessageBus.Proofs.Subscriber.Polling
import MessageBus.Subscriber.Basic
/-!
A session: one subscription, from the call that starts it to its return. First the queue is found;
then the polling loop runs, and beside it the deliveries of the messages that it hands out, until
the loop has seen that the subscription is cancelled and the last delivery has ended.

A step of a session is one thing that happens, and any possible thing may happen next. Nothing is
assumed of the surroundings: the resolver is any program, a receive may bring any messages or fail
with any error, the effects of a delivery may have any results, and the subscription may be
cancelled at any time. A loop that could see that it is cancelled may as well go on first.
-/

set_option autoImplicit false
set_option relaxedAutoImplicit false

namespace MessageBus

namespace Session

/-- What a session is started with. The resolver is what finding the queue takes. -/
structure Setup where
  type : PayloadType
  settings : SubscriberSettings
  resolver : Option (Attempt String)

/-- The setup of a subscription to a payload type. -/
def Setup.ofSubscriber (s : Subscriber) (type : PayloadType) : Setup where
  type := type
  settings := s.settings
  resolver := s.resolver.map (·.queue type.fullName)

/-- Finds the queue, where there is a resolver. -/
def Setup.queueUrl (c : Setup) : Attempt String :=
  match c.resolver with
  | none => .fail (Subscriber.noResolver c.type.fullName)
  | some resolve => resolve

theorem queueUrl_ofSubscriber (s : Subscriber) (type : PayloadType) :
    (Setup.ofSubscriber s type).queueUrl = s.queueUrl type.fullName := by
  obtain ⟨settings, resolver⟩ := s
  cases resolver <;> rfl

/-- The delivery of a message that was handed out: what it has done, and what is left to do. -/
structure Dispatch (type : PayloadType) where
  prototype : Payload
  queueUrl : String
  message : Received
  past : List Performed
  rest : Program Unit
  led : (Delivery.run type prototype queueUrl message).Leads past rest
  /-- Whether its slot is free again. -/
  finished : Bool := false

namespace Dispatch

variable {type : PayloadType}

/-- A delivery at its beginning. -/
def start (prototype : Payload) (queueUrl : String) (m : Received) : Dispatch type where
  prototype := prototype
  queueUrl := queueUrl
  message := m
  past := []
  rest := Delivery.run type prototype queueUrl m
  led := .refl _

/-- A delivery after one more effect. -/
def after (d : Dispatch type) {e : Effect} {next : e.Result → Program Unit}
    (h : d.rest = .perform e next) (r : e.Result) : Dispatch type where
  prototype := d.prototype
  queueUrl := d.queueUrl
  message := d.message
  past := d.past ++ [⟨e, r⟩]
  rest := next r
  led := Program.Leads.perform (h ▸ d.led) r
  finished := d.finished

/-- A delivery that has given its slot back. -/
def finish (d : Dispatch type) : Dispatch type := { d with finished := true }

end Dispatch

/-- A polling loop, and the receive that it waits for. -/
structure Loop where
  polling : Polling
  request : Option ReceiveRequest := none

inductive Life where
  /-- The queue is being found. -/
  | resolving (rest : Program (Except Error String))
  | polling (loop : Loop)
  /-- The subscription broke down at its start. -/
  | broken
  | returned (result : Except Error Unit)

/-- What can be seen of a step. -/
inductive Event where
  | silent
  /-- Someone cancels the subscription. -/
  | cancelled
  /-- An effect of the resolver. -/
  | resolved (p : Performed)
  /-- A receive begins. -/
  | asked (request : ReceiveRequest)
  | replied (request : ReceiveRequest) (reply : Except Error (List Received))
  | dispatched (m : Received)
  /-- An effect of the loop, which reports a failed receive. -/
  | reported (p : Performed)
  /-- An effect of a delivery. -/
  | performed (dispatch : Nat) (p : Performed)
  | returned (result : Except Error Unit)

end Session

structure Session (c : Session.Setup) where
  cancelled : Bool := false
  life : Session.Life
  /-- What is left of the report of a failed receive. -/
  duty : Program Unit := .done ()
  dispatches : List (Session.Dispatch c.type) := []

namespace Session

variable {c : Setup}

/-- A session at its beginning. -/
def start (c : Setup) : Session c where
  life := .resolving c.queueUrl.run

/-- How many messages are being handled. -/
def inFlight (s : Session c) : Nat := s.dispatches.countP (!·.finished)

def setDispatch (s : Session c) (j : Nat) (d : Dispatch c.type) : Session c :=
  { s with dispatches := s.dispatches.set j d }

/-- Whether the polling loop has come so far and has nothing else to do. -/
structure IsReady (s : Session c) (l : Loop) : Prop where
  life : s.life = .polling l
  duty : s.duty = .done ()

/-- What may happen next. -/
inductive Step : Session c → Event → Session c → Prop
  | cancel (s : Session c) : Step s .cancelled { s with cancelled := true }
  | resolve {s : Session c} {e : Effect} {next : e.Result → Program (Except Error String)}
    (hlife : s.life = .resolving (.perform e next)) (r : e.Result) :
    Step s (.resolved ⟨e, r⟩) { s with life := .resolving (next r) }
  | refuse {s : Session c} {e : Error} (hlife : s.life = .resolving (.done (.error e))) :
    Step s (.returned (.error e)) { s with life := .returned (.error e) }
  | begin {s : Session c} {url : String} (hlife : s.life = .resolving (.done (.ok url)))
    (now : Nat) {p : Polling} (hp : Polling.start? c.settings url now = some p) :
    Step s .silent { s with life := .polling ⟨p, none⟩ }
  | breakDown {s : Session c} {url : String} (hlife : s.life = .resolving (.done (.ok url)))
    (now : Nat) (hp : Polling.start? c.settings url now = none) :
    Step s .silent { s with life := .broken }
  /-- A tick finds no free slot. -/
  | skip {s : Session c} {l : Loop} (h : s.IsReady l) (now : Nat) {p : Polling}
    (hp : l.polling.step (.tick now) = some (p, none)) :
    Step s .silent { s with life := .polling ⟨p, none⟩ }
  | ask {s : Session c} {l : Loop} (h : s.IsReady l) (now : Nat) {p : Polling}
    {request : ReceiveRequest}
    (hp : l.polling.step (.tick now) = some (p, some (.receive request))) :
    Step s (.asked request) { s with life := .polling ⟨p, some request⟩ }
  | receive {s : Session c} {l : Loop} (h : s.IsReady l) {request : ReceiveRequest}
    (hrequest : l.request = some request) {messages : List Received} {p : Polling}
    (hp : l.polling.step (.received messages) = some (p, none)) :
    Step s (.replied request (.ok messages)) { s with life := .polling ⟨p, none⟩ }
  /-- A receive fails; the loop reports the failure before it goes on. -/
  | receiveFailed {s : Session c} {l : Loop} (h : s.IsReady l) {request : ReceiveRequest}
    (hrequest : l.request = some request) {e e' : Error} {p : Polling}
    (hp : l.polling.step (.receiveFailed e) = some (p, some (.report e'))) :
    Step s (.replied request (.error e)) { s with
      life := .polling ⟨p, none⟩
      duty := Delivery.fail c.type.fullName .receive e' }
  | report {s : Session c} {e : Effect} {next : e.Result → Program Unit}
    (hduty : s.duty = .perform e next) (r : e.Result) :
    Step s (.reported ⟨e, r⟩) { s with duty := next r }
  /-- A message is handed out; a handler may choose a prototype for each. -/
  | dispatch {s : Session c} {l : Loop} (h : s.IsReady l) {p : Polling} {m : Received}
    (hp : l.polling.step .slotTaken = some (p, some (.dispatch m))) (prototype : Payload) :
    Step s (.dispatched m) { s with
      life := .polling ⟨p, none⟩
      dispatches := s.dispatches ++ [.start prototype p.queueUrl m] }
  /-- The loop sees that the subscription is cancelled. -/
  | stop {s : Session c} {l : Loop} (h : s.IsReady l) (hcancelled : s.cancelled) {p : Polling}
    (hp : l.polling.step .cancelled = some (p, none)) :
    Step s .silent { s with life := .polling ⟨p, none⟩ }
  | perform {s : Session c} {j : Nat} {d : Dispatch c.type} (hd : s.dispatches[j]? = some d)
    {e : Effect} {next : e.Result → Program Unit} (hrest : d.rest = .perform e next)
    (r : e.Result) : Step s (.performed j ⟨e, r⟩) (s.setDispatch j (d.after hrest r))
  /-- A delivery has come to its end, and its slot is free again. -/
  | finish {s : Session c} {j : Nat} {d : Dispatch c.type} (hd : s.dispatches[j]? = some d)
    (hrest : d.rest = .done ()) (hopen : d.finished = false) {l : Loop}
    (hlife : s.life = .polling l) {p : Polling}
    (hp : l.polling.step .handlerFinished = some (p, none)) :
    Step s .silent
      ({ s with life := .polling { l with polling := p } }.setDispatch j d.finish)
  /-- The last delivery has ended. -/
  | leave {s : Session c} {l : Loop} (h : s.IsReady l) {p : Polling}
    (hp : l.polling.step .drained = some (p, none)) :
    Step s (.returned (.ok ())) { s with life := .returned (.ok ()) }

/-- A sequence of steps, with what could be seen of it. -/
inductive Run : Session c → List Event → Session c → Prop
  | refl (s : Session c) : Run s [] s
  | step {s t u : Session c} {es : List Event} {e : Event} (h : Run s es t) (hstep : Step t e u) :
    Run s (es ++ [e]) u

/-- A subscription with two slots to a queue that is known. -/
def sampleSetup : Setup where
  type := Envelope.sampleType
  settings := { maxInFlight := 2 }
  resolver := some (.ofResult (.ok "samples"))

/-- The receive that this subscription begins with. -/
def sampleRequest : ReceiveRequest where
  queueUrl := "samples"
  maxNumberOfMessages := 2
  waitTimeSeconds := 20
  visibilityTimeoutSeconds := 15

end Session

end MessageBus
