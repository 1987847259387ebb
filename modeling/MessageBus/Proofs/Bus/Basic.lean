import MessageBus.Proofs.Broker.Fate
import MessageBus.Proofs.Subscriber.Delivery
import MessageBus.Subscriber.Polling
/-!
A bus at work: one broker, the subscriptions whose loops poll it, and the deliveries of the messages
that they handed out. A step of a bus is one thing that happens, and any possible thing may happen
next: time passes, someone calls the broker or puts a body on a queue, a subscription starts, ticks,
receives, hands a message out or is cancelled, a delivery performs its next effect, a handler ends
in whatever way it likes. A run is a sequence of steps, with what could be seen of each.

A receive that waits is a series of passes; each of them is a step, and the environment decides when
the time of the receive is over.
-/

set_option autoImplicit false
set_option relaxedAutoImplicit false

namespace MessageBus

namespace Bus

/-- A subscription whose polling loop has started. -/
structure Consumer where
  type : PayloadType
  polling : Polling
  /-- The receive that the loop waits for. -/
  request : Option ReceiveRequest := none

/-- The messages that have been received and not been handed out yet. -/
def Consumer.waiting (c : Consumer) : List Received :=
  match c.polling.phase with
  | .dispatching waiting => waiting
  | _ => []

/-- The delivery of a message that was handed out: what it has done, and what is left to do. -/
structure Dispatch where
  consumer : Nat
  type : PayloadType
  prototype : Payload
  queueUrl : String
  message : Received
  past : List Performed := []
  rest : Program Unit
  finished : Bool := false

/-- A delivery at its beginning. -/
def Dispatch.start (consumer : Nat) (c : Consumer) (prototype : Payload) (m : Received) :
    Dispatch where
  consumer := consumer
  type := c.type
  prototype := prototype
  queueUrl := c.polling.queueUrl
  message := m
  rest := Delivery.run c.type prototype c.polling.queueUrl m

/-- A delivery after one more effect. -/
def Dispatch.after (d : Dispatch) (e : Effect) (r : e.Result) (rest : Program Unit) : Dispatch :=
  { d with past := d.past ++ [⟨e, r⟩], rest := rest }

/-- What can be seen of a step. -/
inductive Event where
  | silent
  /-- A call of a client, or a pass of a receive of a subscription. -/
  | call (c : Call) (reply : Except Error c.Reply)
  /-- An effect of a delivery. -/
  | performed (dispatch : Nat) (p : Performed)

def Event.deed : Event → Deed
  | .call c reply => c.deed reply
  | .performed _ ⟨.call c, reply⟩ => c.deed reply
  | _ => .other

end Bus

structure Bus where
  clock : Nat := 0
  serial : Nat := 0
  broker : Broker
  consumers : List Bus.Consumer := []
  dispatches : List Bus.Dispatch := []

namespace Bus

/-- A bus on which nothing has happened yet. -/
def start (identity : BrokerIdentity) : Bus where
  broker := { identity := identity }

/-- Runs an operation of the broker, at a moment of its own; one that fails changes nothing. -/
def operate {α : Type} (s : Bus) (time : Instant) (f : Moment → Broker → Broker.Result α) :
    Except Error α × Bus :=
  match f ⟨s.clock, time, s.serial⟩ s.broker with
  | .ok (a, b) => (.ok a, { s with broker := b, serial := s.serial + 1 })
  | .error e => (.error e, { s with serial := s.serial + 1 })

/-- The answer of the broker to a call. -/
def answer (s : Bus) (time : Instant) (c : Call) : Except Error c.Reply × Bus :=
  s.operate time fun m b ↦ b.answer m c

def setConsumer (s : Bus) (i : Nat) (c : Consumer) : Bus :=
  { s with consumers := s.consumers.set i c }

def setDispatch (s : Bus) (j : Nat) (d : Dispatch) : Bus :=
  { s with dispatches := s.dispatches.set j d }

/-- The receive that a command of a polling loop asks for. -/
def requestOf : Option Polling.Command → Option ReceiveRequest
  | some (.receive request) => some request
  | _ => none

/-- What the reply to a receive is to a polling loop. -/
def replyEvent : Except Error (List Received) → Polling.Event
  | .ok messages => .received messages
  | .error e => .receiveFailed e

/-- What may happen next. -/
inductive Step : Bus → Event → Bus → Prop
  | wait (s : Bus) (millis : Nat) : Step s .silent { s with clock := s.clock + millis }
  /-- A client calls the broker. -/
  | call (s : Bus) (time : Instant) (c : Call) :
    Step s (.call c (s.answer time c).1) (s.answer time c).2
  | enqueue (s : Bus) (time : Instant) (queueUrl body : String) :
    Step s .silent (s.operate time fun m b ↦ b.enqueue m queueUrl body).2
  | subscribe (s : Bus) (type : PayloadType) (settings : SubscriberSettings) (queueUrl : String)
    {p : Polling} (hp : Polling.start? settings queueUrl s.clock = some p) :
    Step s .silent { s with consumers := s.consumers ++ [⟨type, p, none⟩] }
  /-- A polling loop ticks, is cancelled, or stops when its last handler has ended. -/
  | signal {s : Bus} {i : Nat} {c : Consumer} (hc : s.consumers[i]? = some c)
    {e : Polling.Event} (he : e = .tick s.clock ∨ e = .cancelled ∨ e = .drained) {p : Polling}
    {command : Option Polling.Command} (hp : c.polling.step e = some (p, command)) :
    Step s .silent (s.setConsumer i { c with polling := p, request := requestOf command })
  /-- A pass of a receive ends it. -/
  | receive {s : Bus} {i : Nat} {c : Consumer} (hc : s.consumers[i]? = some c)
    {request : ReceiveRequest} (hrequest : c.request = some request) (time : Instant)
    {p : Polling} {command : Option Polling.Command}
    (hp : c.polling.step (replyEvent (s.answer time (.receiveMessage request)).1) =
      some (p, command)) :
    Step s (.call (.receiveMessage request) (s.answer time (.receiveMessage request)).1)
      ((s.answer time (.receiveMessage request)).2.setConsumer i
        { c with polling := p, request := none })
  /-- A pass of a receive finds nothing, and there is time for another one. -/
  | receiveNothing {s : Bus} {i : Nat} {c : Consumer} (hc : s.consumers[i]? = some c)
    {request : ReceiveRequest} (hrequest : c.request = some request) (time : Instant)
    (hnothing : (s.answer time (.receiveMessage request)).1 = .ok []) :
    Step s (.call (.receiveMessage request) (s.answer time (.receiveMessage request)).1)
      (s.answer time (.receiveMessage request)).2
  /-- A message is handed out; a handler may choose a prototype for each. -/
  | dispatch {s : Bus} {i : Nat} {c : Consumer} (hc : s.consumers[i]? = some c) {p : Polling}
    {m : Received} (hp : c.polling.step .slotTaken = some (p, some (.dispatch m)))
    (prototype : Payload) :
    Step s .silent { s.setConsumer i { c with polling := p } with
      dispatches := s.dispatches ++ [.start i c prototype m] }
  /-- A delivery calls the broker. -/
  | performCall {s : Bus} {j : Nat} {d : Dispatch} (hd : s.dispatches[j]? = some d) {c : Call}
    {next : Except Error c.Reply → Program Unit} (hrest : d.rest = .perform (.call c) next)
    (time : Instant) :
    Step s (.performed j ⟨.call c, (s.answer time c).1⟩)
      ((s.answer time c).2.setDispatch j
        (d.after (.call c) (s.answer time c).1 (next (s.answer time c).1)))
  /-- A delivery performs another effect, which may have any result. -/
  | perform {s : Bus} {j : Nat} {d : Dispatch} (hd : s.dispatches[j]? = some d) {e : Effect}
    (he : ∀ c, e ≠ .call c) {next : e.Result → Program Unit} (hrest : d.rest = .perform e next)
    (r : e.Result) : Step s (.performed j ⟨e, r⟩) (s.setDispatch j (d.after e r (next r)))
  /-- A delivery has ended, and its slot is free again. -/
  | finish {s : Bus} {j : Nat} {d : Dispatch} (hd : s.dispatches[j]? = some d)
    (hrest : d.rest = .done ()) (hopen : d.finished = false) {c : Consumer}
    (hc : s.consumers[d.consumer]? = some c) {p : Polling} {command : Option Polling.Command}
    (hp : c.polling.step .handlerFinished = some (p, command)) :
    Step s .silent
      ((s.setConsumer d.consumer { c with polling := p }).setDispatch j { d with finished := true })

/-- A run through buses that have a property, with what could be seen of it. -/
inductive RunWithin (P : Bus → Prop) : Bus → List Event → Bus → Prop
  | refl {s : Bus} (h : P s) : RunWithin P s [] s
  | step {s t u : Bus} {es : List Event} {e : Event} (h : RunWithin P s es t) (hstep : Step t e u)
    (hu : P u) : RunWithin P s (es ++ [e]) u

abbrev Run : Bus → List Event → Bus → Prop := RunWithin fun _ ↦ True

/-- Whether a bus can come to be. -/
def Reachable (s : Bus) : Prop := ∃ identity es, Run (start identity) es s

theorem reachable_start (identity : BrokerIdentity) : (start identity).Reachable :=
  ⟨identity, [], .refl trivial⟩

theorem Reachable.step {s t : Bus} {e : Event} (h : s.Reachable) (hstep : Step s e t) :
    t.Reachable := by
  obtain ⟨identity, es, hrun⟩ := h
  exact ⟨identity, es ++ [e], hrun.step hstep trivial⟩

/-- A bus with a queue whose messages move to another queue after one receive. -/
def sampleBus : Bus :=
  let s := ((start {}).answer .epoch (.createQueue "orders")).2
  let s := (s.answer .epoch (.createQueue "failed")).2
  (s.answer .epoch (.setQueueAttributes (s.broker.queueUrlFor "orders") (.ofList
    [(Broker.redriveAttribute, Redrive.text ⟨s.broker.queueArnFor "failed", 1⟩)]))).2

theorem reachable_sampleBus : sampleBus.Reachable :=
  (((reachable_start {}).step (.call _ _ _)).step (.call _ _ _)).step (.call _ _ _)

def sampleUrl : String := "https://sqs.eu-west-1.amazonaws.com/111122223333/orders"

end Bus

end MessageBus
