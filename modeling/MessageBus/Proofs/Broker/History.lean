import MessageBus.Proofs.Broker.Operation
/-!
Histories of a broker. A history is a list of operations, each with its moment, so the identifiers
and receipts that an operation makes do not depend on what else is in the history. An operation that
fails changes nothing, and so there is a broker after every history (`Broker.after`).

A receive that waits is a series of passes, and each of them is an operation of the history: other
operations may come in between, and the receive goes on only after a pass that has found nothing.
-/

set_option autoImplicit false
set_option relaxedAutoImplicit false

namespace MessageBus.Broker

/-- A call of a client, or a body that is put on a queue, past all topics. -/
inductive Operation where
  | call (c : Call)
  | enqueue (queueUrl body : String)

namespace Operation

abbrev Reply : Operation → Type
  | call c => c.Reply
  | enqueue _ _ => String

/-- The queue that an operation is addressed to. A queue is made by its name, and a topic puts what
is published on the queues that it knows, so these operations are not addressed to a queue. -/
def queue? : Operation → Option String
  | call (.getQueueAttributes queueUrl _) => some queueUrl
  | call (.setQueueAttributes queueUrl _) => some queueUrl
  | call (.receiveMessage request) => some request.queueUrl
  | call (.deleteMessage queueUrl _) => some queueUrl
  | enqueue queueUrl _ => some queueUrl
  | call (.createTopic _) | call (.setTopicAttributes _ _ _) | call (.subscribe _ _ _)
  | call (.publish _ _) | call (.createQueue _) => none

/-- The queue that an operation is addressed to and may change. -/
def changed? : Operation → Option String
  | call (.getQueueAttributes _ _) => none
  | o => o.queue?

theorem changed?_eq (o : Operation) :
    o.changed? = o.queue? ∨ ∃ queueUrl names, o = call (.getQueueAttributes queueUrl names) := by
  unfold changed?
  split
  · exact .inr ⟨_, _, rfl⟩
  · exact .inl rfl

end Operation

structure Entry where
  moment : Moment
  operation : Operation

def perform (b : Broker) (m : Moment) : (o : Operation) → Result o.Reply
  | .call c => b.answer m c
  | .enqueue queueUrl body => b.enqueue m queueUrl body

/-- The reply to an operation. -/
def replyTo (b : Broker) (e : Entry) : Except Error e.operation.Reply :=
  (b.perform e.moment e.operation).map Prod.fst

/-- The broker after an operation. -/
def next (b : Broker) (e : Entry) : Broker :=
  match b.perform e.moment e.operation with
  | .ok (_, b') => b'
  | .error _ => b

/-- The broker after a history. -/
def after (b : Broker) (es : List Entry) : Broker := es.foldl next b

variable {b : Broker} {e : Entry}

theorem next_of_ok {reply : e.operation.Reply} {b' : Broker}
    (h : b.perform e.moment e.operation = .ok (reply, b')) : b.next e = b' := by
  rw [next, h]

theorem next_of_error {error : Error} (h : b.perform e.moment e.operation = .error error) :
    b.next e = b := by
  rw [next, h]

theorem next_of_read {queueUrl : String} {names : List String}
    (h : e.operation = .call (.getQueueAttributes queueUrl names)) : b.next e = b := by
  obtain ⟨m, o⟩ := e
  subst h
  simp only [next, perform, answer, getQueueAttributes]
  cases b.queues.find? queueUrl with
  | none => rfl
  | some queue => rfl

theorem after_cons (b : Broker) (e : Entry) (es : List Entry) :
    b.after (e :: es) = (b.next e).after es := rfl

end MessageBus.Broker
