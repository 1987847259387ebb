import Mathlib.Data.List.Infix
import Mathlib.Data.Set.Defs
import MessageBus.Proofs.Broker.Directory
import MessageBus.Proofs.Broker.History
/-!
Queues do not interfere. Take some of the queues of a broker, such that no other queue moves
messages to them. What is done to the other queues could as well not happen: without it, these
queues are the same after a history, and the operations on them have the same replies (`isolated`).

The proof runs the two histories side by side. The two brokers agree (`Broker.Agrees`): they have
the same topics and ARNs, the same queues exist, and the queues of the set are the same. An
operation that is left out keeps a broker in agreement with what it was (`agrees_next`), and one
that happens in both histories gets the same reply and leaves brokers that agree (`Agrees.perform`).
-/

set_option autoImplicit false
set_option relaxedAutoImplicit false

namespace MessageBus.Broker

/-- Whether no queue outside a set moves messages into it. -/
def KeepsOut (b : Broker) (S : Set String) : Prop :=
  ∀ url, url ∉ S → ∀ target limit, b.redriveAt? url = some (target, limit) → target ∉ S

/-- Whether an operation changes no queue that it is addressed to, unless it is one of a set. -/
def Operation.IsWithin (S : Set String) (o : Operation) : Prop := ∀ url ∈ o.changed?, url ∈ S

instance (S : Set String) [DecidablePred (· ∈ S)] (o : Operation) : Decidable (o.IsWithin S) :=
  inferInstanceAs (Decidable (∀ url ∈ o.changed?, url ∈ S))

theorem Operation.isWithin_of_queue? {S : Set String} (o : Operation)
    (h : ∀ url ∈ o.queue?, url ∈ S) : o.IsWithin S := by
  unfold IsWithin
  rcases o.changed?_eq with hchanged | ⟨url, names, rfl⟩
  · rwa [hchanged]
  · intro other hother
    cases hother

/-- The operations of a history that are left when those that change queues outside a set are
removed. -/
def restrict (S : Set String) [DecidablePred (· ∈ S)] (es : List Entry) : List Entry :=
  es.filter (·.operation.IsWithin S)

section Restrict

variable {S : Set String} [DecidablePred (· ∈ S)] {e : Entry}

theorem restrict_cons_of_isWithin (h : e.operation.IsWithin S) (es : List Entry) :
    restrict S (e :: es) = e :: restrict S es :=
  List.filter_cons_of_pos (decide_eq_true h)

theorem restrict_cons_of_not_isWithin (h : ¬ e.operation.IsWithin S) (es : List Entry) :
    restrict S (e :: es) = restrict S es :=
  List.filter_cons_of_neg (by simpa using h)

end Restrict

/-- Whether two brokers differ at most in the queues outside a set. -/
structure Agrees (S : Set String) (b b' : Broker) : Prop where
  identity : b.identity = b'.identity
  topics : b.topics = b'.topics
  urlByArn : b.urlByArn = b'.urlByArn
  contains : ∀ url, b.queues.contains url = b'.queues.contains url
  find? : ∀ url ∈ S, b.queues.find? url = b'.queues.find? url

variable {S : Set String} {b b' : Broker} {m : Moment}

namespace Agrees

theorem refl (S : Set String) (b : Broker) : Agrees S b b :=
  ⟨rfl, rfl, rfl, fun _ ↦ rfl, fun _ _ ↦ rfl⟩

theorem symm (h : Agrees S b b') : Agrees S b' b :=
  ⟨h.identity.symm, h.topics.symm, h.urlByArn.symm, fun url ↦ (h.contains url).symm,
    fun url hurl ↦ (h.find? url hurl).symm⟩

theorem trans {b'' : Broker} (h : Agrees S b b') (h' : Agrees S b' b'') : Agrees S b b'' :=
  ⟨h.identity.trans h'.identity, h.topics.trans h'.topics, h.urlByArn.trans h'.urlByArn,
    fun url ↦ (h.contains url).trans (h'.contains url),
    fun url hurl ↦ (h.find? url hurl).trans (h'.find? url hurl)⟩

end Agrees

section Outside

/-- To change a queue outside the set is not seen in it. -/
theorem agrees_setQueue {url : String} (hurl : url ∉ S) {queue : Queue}
    (hqueue : b.queues.find? url = some queue) (changed : Queue) :
    Agrees S b (b.setQueue url changed) where
  identity := rfl
  topics := rfl
  urlByArn := rfl
  contains other := (contains_setQueue_of_find? hqueue changed other).symm
  find? other hother := by
    have hne : url ≠ other := fun hsame ↦ hurl (hsame ▸ hother)
    rw [setQueue, Table.find?_insert, if_neg hne]

theorem agrees_append {url : String} (hurl : url ∉ S) (new : List StoredMessage) :
    Agrees S b (b.append url new) := by
  rw [append]
  split
  · next queue hqueue => exact agrees_setQueue hurl hqueue _
  · exact .refl S b

/-- An operation that changes a queue outside the set changes nothing in it, as the messages of that
queue do not move there. -/
theorem agrees_perform (hb : b.KeepsOut S) {o : Operation} {url : String}
    (hchanged : o.changed? = some url) (hurl : url ∉ S) {reply : o.Reply}
    (hperform : b.perform m o = .ok (reply, b')) : Agrees S b b' := by
  cases o with
  | enqueue queueUrl body =>
    obtain rfl := Option.some.inj hchanged
    obtain ⟨-, -, rfl⟩ := enqueue_eq hperform
    exact agrees_append hurl _
  | call c =>
    cases c with
    | createTopic | setTopicAttributes | subscribe | publish | createQueue | getQueueAttributes =>
      cases hchanged
    | setQueueAttributes queueUrl attributes =>
      obtain rfl := Option.some.inj hchanged
      obtain ⟨-, queue, hqueue, rfl⟩ := setQueueAttributes_eq hperform
      exact agrees_setQueue hurl hqueue _
    | deleteMessage queueUrl receipt =>
      obtain rfl := Option.some.inj hchanged
      obtain ⟨queue, hqueue, -, rfl⟩ := deleteMessage_eq hperform
      exact agrees_setQueue hurl hqueue _
    | receiveMessage request =>
      obtain rfl := Option.some.inj hchanged
      obtain ⟨queue, hqueue, -, rfl⟩ := receive_eq hperform
      unfold sweepQueue
      dsimp only
      split
      · next target limit hredrive =>
        have htarget := hb _ hurl target limit ((redriveAt?_of_find? hqueue).trans hredrive)
        exact (agrees_setQueue hurl hqueue _).trans (agrees_append htarget _)
      · exact agrees_setQueue hurl hqueue _

theorem agrees_next (hb : b.KeepsOut S) {e : Entry} (he : ¬ e.operation.IsWithin S) :
    Agrees S b (b.next e) := by
  obtain ⟨url, hchanged, hurl⟩ : ∃ url, e.operation.changed? = some url ∧ url ∉ S := by
    simpa [Operation.IsWithin] using he
  cases hperform : b.perform e.moment e.operation with
  | error error =>
    rw [next_of_error hperform]
    exact .refl S b
  | ok result =>
    rw [next_of_ok hperform]
    exact agrees_perform hb hchanged hurl hperform

end Outside

/-- Whether two results are the same error, or the same reply and brokers that agree. -/
inductive SameResult (S : Set String) {α : Type} : Result α → Result α → Prop
  | ok (a : α) {b b' : Broker} (h : Agrees S b b') : SameResult S (.ok (a, b)) (.ok (a, b'))
  | error (e : Error) : SameResult S (.error e) (.error e)

namespace Agrees

theorem setTopic (h : Agrees S b b') (topicArn : String) (topic : Topic) :
    Agrees S (b.setTopic topicArn topic) (b'.setTopic topicArn topic) :=
  ⟨h.identity, congrArg (·.insert topicArn topic) h.topics, h.urlByArn, h.contains, h.find?⟩

theorem setQueue (h : Agrees S b b') (url : String) (queue : Queue) :
    Agrees S (b.setQueue url queue) (b'.setQueue url queue) where
  identity := h.identity
  topics := h.topics
  urlByArn := h.urlByArn
  contains other := by
    rw [Bool.eq_iff_iff, contains_setQueue_iff, contains_setQueue_iff, h.contains]
  find? other hother := by
    rw [Broker.setQueue, Broker.setQueue, Table.find?_insert, Table.find?_insert,
      h.find? other hother]

theorem insertArn (h : Agrees S b b') (arn url : String) :
    Agrees S { b with urlByArn := b.urlByArn.insert arn url }
      { b' with urlByArn := b'.urlByArn.insert arn url } :=
  ⟨h.identity, h.topics, congrArg (·.insert arn url) h.urlByArn, h.contains, h.find?⟩

theorem append (h : Agrees S b b') (url : String) (new : List StoredMessage) :
    Agrees S (b.append url new) (b'.append url new) := by
  by_cases hurl : url ∈ S
  · rw [Broker.append, Broker.append, h.find? url hurl]
    split
    · exact h.setQueue _ _
    · exact h
  · exact ((agrees_append hurl new).symm.trans h).trans (agrees_append hurl new)

theorem deliver (h : Agrees S b b') (m : Moment) (body : String) (index : Nat)
    (endpoints : List String) :
    Agrees S (deliver m body index endpoints b) (deliver m body index endpoints b') := by
  induction endpoints generalizing b b' index with
  | nil => exact h
  | cons endpoint rest ih =>
    rw [Broker.deliver, Broker.deliver, h.urlByArn]
    apply ih
    split
    · exact h.append _ _
    · exact h

theorem createTopic (h : Agrees S b b') (name : String) :
    SameResult S (b.createTopic name) (b'.createTopic name) := by
  unfold Broker.createTopic topicArnFor
  rw [h.identity, h.topics]
  split
  · apply SameResult.ok
    split
    · exact h
    · exact h.setTopic _ _
  · exact .error _

theorem setTopicAttribute (h : Agrees S b b') (topicArn name value : String) :
    SameResult S (b.setTopicAttribute topicArn name value)
      (b'.setTopicAttribute topicArn name value) := by
  unfold Broker.setTopicAttribute
  rw [h.topics]
  split
  · exact .error _
  · exact .ok () (h.setTopic _ _)

theorem subscribe (h : Agrees S b b') (m : Moment) (topicArn protocol endpoint : String) :
    SameResult S (b.subscribe m topicArn protocol endpoint)
      (b'.subscribe m topicArn protocol endpoint) := by
  unfold Broker.subscribe
  rw [h.topics]
  split
  · exact .error _
  split
  · exact .error _
  split
  · exact .ok _ h
  · exact .ok _ (h.setTopic _ _)

theorem publish (h : Agrees S b b') (m : Moment) (topicArn message : String) :
    SameResult S (b.publish m topicArn message) (b'.publish m topicArn message) := by
  unfold Broker.publish endpoints
  rw [h.topics]
  split
  · exact .error _
  · exact .ok _ (h.deliver ..)

theorem createQueue (h : Agrees S b b') (name : String) :
    SameResult S (b.createQueue name) (b'.createQueue name) := by
  unfold Broker.createQueue queueUrlFor queueArnFor
  dsimp only
  rw [h.identity, h.contains]
  split
  · split
    · exact .ok _ h
    · exact .ok _ ((h.setQueue _ _).insertArn _ _)
  · exact .error _

section Addressed

variable {url : String}

theorem getQueueAttributes (h : Agrees S b b') (hurl : url ∈ S) (names : List String) :
    SameResult S (b.getQueueAttributes url names) (b'.getQueueAttributes url names) := by
  unfold Broker.getQueueAttributes
  rw [h.find? url hurl]
  split
  · exact .error _
  · exact .ok _ h

theorem setQueueAttributes (h : Agrees S b b') (hurl : url ∈ S)
    (attributes : Table String String) :
    SameResult S (b.setQueueAttributes url attributes) (b'.setQueueAttributes url attributes) := by
  unfold Broker.setQueueAttributes
  rw [h.find? url hurl]
  split
  · exact .error _
  split
  · exact .error _
  · exact .ok () (h.setQueue _ _)

theorem enqueue (h : Agrees S b b') (hurl : url ∈ S) (m : Moment) (body : String) :
    SameResult S (b.enqueue m url body) (b'.enqueue m url body) := by
  unfold Broker.enqueue
  rw [h.find? url hurl]
  split
  · exact .error _
  · exact .ok _ (h.append _ _)

theorem receive (h : Agrees S b b') {request : ReceiveRequest} (hurl : request.queueUrl ∈ S)
    (m : Moment) : SameResult S (b.receive m request) (b'.receive m request) := by
  unfold Broker.receive
  rw [h.find? _ hurl]
  split
  · exact .error _
  · next queue _ =>
    unfold sweepQueue redrive?
    rw [h.urlByArn]
    apply SameResult.ok
    split
    · exact (h.setQueue _ _).append _ _
    · exact h.setQueue _ _

theorem deleteMessage (h : Agrees S b b') (hurl : url ∈ S) (receipt : String) :
    SameResult S (b.deleteMessage url receipt) (b'.deleteMessage url receipt) := by
  unfold Broker.deleteMessage
  rw [h.find? url hurl]
  split
  · exact .error _
  split
  · exact .error _
  · exact .ok () (h.setQueue _ _)

end Addressed

/-- Brokers that agree do the same, if the queue that they are to look at is in the set. -/
theorem perform (h : Agrees S b b') {o : Operation} (ho : ∀ url ∈ o.queue?, url ∈ S) :
    SameResult S (b.perform m o) (b'.perform m o) := by
  cases o with
  | enqueue queueUrl body => exact h.enqueue (ho queueUrl rfl) m body
  | call c =>
    cases c with
    | createTopic name => exact h.createTopic name
    | setTopicAttributes topicArn name value => exact h.setTopicAttribute topicArn name value
    | subscribe topicArn protocol endpoint => exact h.subscribe m topicArn protocol endpoint
    | publish topicArn message => exact h.publish m topicArn message
    | createQueue name => exact h.createQueue name
    | getQueueAttributes queueUrl names => exact h.getQueueAttributes (ho queueUrl rfl) names
    | setQueueAttributes queueUrl attributes =>
      exact h.setQueueAttributes (ho queueUrl rfl) attributes
    | receiveMessage request => exact h.receive (ho request.queueUrl rfl) m
    | deleteMessage queueUrl receipt => exact h.deleteMessage (ho queueUrl rfl) receipt

/-- Brokers that agree give the same reply and agree afterwards. -/
theorem step (h : Agrees S b b') {e : Entry} (he : ∀ url ∈ e.operation.queue?, url ∈ S) :
    b.replyTo e = b'.replyTo e ∧ Agrees S (b.next e) (b'.next e) := by
  have hsame := h.perform (m := e.moment) he
  unfold replyTo next
  generalize b.perform e.moment e.operation = result at hsame ⊢
  generalize b'.perform e.moment e.operation = result' at hsame ⊢
  cases hsame with
  | ok reply hafter => exact ⟨rfl, hafter⟩
  | error error => exact ⟨rfl, h⟩

/-- Brokers that agree still do so after an operation that happens to both. -/
theorem next (h : Agrees S b b') {e : Entry} (he : e.operation.IsWithin S) :
    Agrees S (b.next e) (b'.next e) := by
  rcases e.operation.changed?_eq with hchanged | ⟨url, names, hread⟩
  · unfold Operation.IsWithin at he
    rw [hchanged] at he
    exact (h.step he).2
  · -- A queue outside the set may be read. The replies may differ then, but neither broker changes.
    rwa [next_of_read hread, next_of_read hread]

theorem after [DecidablePred (· ∈ S)] (h : Agrees S b b') {es : List Entry}
    (hes : ∀ before, before <+: es → (b.after before).KeepsOut S) :
    Agrees S (b.after es) (b'.after (restrict S es)) := by
  induction es generalizing b b' with
  | nil => exact h
  | cons e rest ih =>
    have hrest before (hbefore : before <+: rest) : ((b.next e).after before).KeepsOut S :=
      hes (e :: before) (List.cons_prefix_cons.mpr ⟨rfl, hbefore⟩)
    by_cases he : e.operation.IsWithin S
    · rw [restrict_cons_of_isWithin he, after_cons, after_cons]
      exact ih (h.next he) hrest
    · rw [restrict_cons_of_not_isWithin he, after_cons]
      have hfirst : b.KeepsOut S := hes [] List.nil_prefix
      exact ih ((agrees_next hfirst he).symm.trans h) hrest

end Agrees

/-- Queues are isolated. Take a set of queues, and a history of any broker in which no queue outside
the set ever has a redrive policy that targets a queue in it. Remove from the history whatever is
put on, received from, deleted from or set on queues outside the set. Then the queues of the set
hold the same messages, with the same attributes, as after the whole history; and what is left of
the history is answered as in the whole of it, but for reading attributes of queues outside the set.
Where the queues of the set move their own messages to does not matter. -/
theorem isolated (S : Set String) [DecidablePred (· ∈ S)] (b : Broker) (es : List Entry)
    (hes : ∀ before, before <+: es → (b.after before).KeepsOut S) :
    (∀ url ∈ S, (b.after es).queues.find? url = (b.after (restrict S es)).queues.find? url) ∧
      ∀ before e rest, es = before ++ e :: rest → (∀ url ∈ e.operation.queue?, url ∈ S) →
        restrict S es = restrict S before ++ e :: restrict S rest ∧
          (b.after before).replyTo e = (b.after (restrict S before)).replyTo e := by
  constructor
  · intro url hurl
    exact ((Agrees.refl S b).after hes).find? url hurl
  · rintro before e rest rfl he
    constructor
    · have hwithin : e.operation.IsWithin S := e.operation.isWithin_of_queue? he
      rw [restrict, List.filter_append, ← restrict, ← restrict, restrict_cons_of_isWithin hwithin]
    · have hagrees : Agrees S (b.after before) (b.after (restrict S before)) := by
        apply (Agrees.refl S b).after
        intro earlier hearlier
        exact hes earlier (hearlier.trans (List.prefix_append _ _))
      exact (hagrees.step he).1

section Sample

def sampleUrlOf (name : String) : String := queueUrlFor {} name

/-- The queues of one of two services. -/
def sampleQueues : Set String :=
  {url | url = sampleUrlOf "billing" ∨ url = sampleUrlOf "billing-error"}

instance : DecidablePred (· ∈ sampleQueues) := fun url ↦
  inferInstanceAs (Decidable (url = sampleUrlOf "billing" ∨ url = sampleUrlOf "billing-error"))

/-- The queues of a service, whose messages move after one receive, and its subscription. -/
def sampleService (name : String) : List Call :=
  [.createQueue name, .createQueue (name ++ "-error"),
    .setQueueAttributes (sampleUrlOf name) (.ofList
      [(redriveAttribute, Redrive.text ⟨queueArnFor {} (name ++ "-error"), 1⟩)]),
    .subscribe (topicArnFor {} "orders") protocol (queueArnFor {} name)]

/-- Two services get a copy of a message each. One of them receives its copy until it is moved, and
then the other one receives its own. -/
def sampleCalls : List Call :=
  .createTopic "orders" :: sampleService "billing" ++ sampleService "shipping" ++
    [.publish (topicArnFor {} "orders") "text",
      .receiveMessage ⟨sampleUrlOf "shipping", 1, 0, 0⟩,
      .receiveMessage ⟨sampleUrlOf "shipping", 1, 0, 0⟩,
      .receiveMessage ⟨sampleUrlOf "billing", 1, 0, 30⟩]

def sampleHistory : List Entry :=
  sampleCalls.zipIdx.map fun c ↦ ⟨⟨100 * c.2, .epoch, c.2⟩, .call c.1⟩

/-- The policies of a broker can be read off its queues. -/
theorem keepsOut_of_entries (h : ∀ e ∈ b.queues.entries, e.1 ∉ S →
    ∀ redrive ∈ b.redrive? e.2, redrive.1 ∉ S) : b.KeepsOut S := by
  intro url hurl target limit hredrive
  obtain ⟨queue, hqueue, hredrive⟩ := Option.bind_eq_some_iff.mp hredrive
  exact h _ (Table.mem_entries_of_find? hqueue) hurl _ hredrive

theorem isolated_sample :
    (∀ before, before <+: sampleHistory → (after {} before).KeepsOut sampleQueues) ∧
      (restrict sampleQueues sampleHistory).length + 3 = sampleHistory.length ∧
      (after {} sampleHistory).depth (sampleUrlOf "billing") = 1 ∧
      ∀ url ∈ sampleQueues, (after {} sampleHistory).queues.find? url =
        (after {} (restrict sampleQueues sampleHistory)).queues.find? url := by
  have hentries : ∀ before ∈ sampleHistory.inits, ∀ e ∈ (after {} before).queues.entries,
      e.1 ∉ sampleQueues → ∀ redrive ∈ (after {} before).redrive? e.2,
        redrive.1 ∉ sampleQueues := by
    decide +kernel
  have hes before (hbefore : before <+: sampleHistory) : (after {} before).KeepsOut sampleQueues :=
    keepsOut_of_entries (hentries before ((List.mem_inits _ _).mpr hbefore))
  exact ⟨hes, by decide +kernel, by decide +kernel,
    (isolated sampleQueues {} sampleHistory hes).1⟩

end Sample

end MessageBus.Broker
