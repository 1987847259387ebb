import MessageBus.Proofs.Broker.History
/-!
Why an operation of a broker fails (`perform_error_iff`): it is refused for what it asks for, or for
the topic, queue or message that is not there.

The operations check before they store. To say so, each of them is written down store by store
(`Stepwise`), with its checks and stores in their order; what such a computation has stored before
it fails, stays. Yet store by store or at once, the reply and the broker afterwards are the same
(`Stepwise.run_perform`), so a failed operation has stored nothing (`Stepwise.refuses_of_run`).
-/

set_option autoImplicit false
set_option relaxedAutoImplicit false

namespace MessageBus.Broker

namespace Operation

/-- The name of an operation, as errors report it. -/
def name : Operation → String
  | call c => c.operation
  | enqueue _ _ => "SendMessage"

/-- The topic that an operation is addressed to. -/
def topic? : Operation → Option String
  | call (.setTopicAttributes topicArn _ _) => some topicArn
  | call (.subscribe topicArn _ _) => some topicArn
  | call (.publish topicArn _) => some topicArn
  | _ => none

/-- What is wrong with what an operation asks for, whatever there is. -/
def fault? : Operation → Option Error
  | call (.createTopic name) =>
    if isResourceName name then none else some (invalidName "CreateTopic" name)
  | call (.createQueue name) =>
    if isResourceName name then none else some (invalidName "CreateQueue" name)
  | call (.subscribe _ protocol _) =>
    if protocol = Broker.protocol then none else some (unsupportedProtocol protocol)
  | call (.setQueueAttributes _ attributes) => attributeFault? attributes
  | _ => none

end Operation

/-- Why an operation fails. -/
inductive Refuses (b : Broker) : Operation → Error → Prop
  | fault {o : Operation} {e : Error} (h : o.fault? = some e) : Refuses b o e
  | topic {o : Operation} {topicArn : String} (hfault : o.fault? = none)
    (h : o.topic? = some topicArn) (hnone : b.topics.find? topicArn = none) :
    Refuses b o (noTopic o.name topicArn)
  | queue {o : Operation} {queueUrl : String} (hfault : o.fault? = none)
    (h : o.queue? = some queueUrl) (hnone : b.queues.find? queueUrl = none) :
    Refuses b o (noQueue o.name queueUrl)
  | receipt {queueUrl receipt : String} {queue : Queue}
    (hqueue : b.queues.find? queueUrl = some queue)
    (hnone : ∀ x ∈ queue.messages, x.receipt ≠ some receipt) :
    Refuses b (.call (.deleteMessage queueUrl receipt)) (invalidReceipt receipt)

variable {b b' : Broker} {m : Moment} {o : Operation} {e : Error}

/-- An operation fails for a reason. -/
theorem refuses_of_perform (h : b.perform m o = .error e) : b.Refuses o e := by
  match o with
  | .enqueue queueUrl body =>
    simp only [perform, Broker.enqueue] at h
    split at h <;> cases h
    exact .queue rfl rfl ‹_›
  | .call (.createTopic name) =>
    simp only [perform, answer, createTopic] at h
    split at h <;> cases h
    exact .fault (if_neg ‹_›)
  | .call (.setTopicAttributes topicArn name value) =>
    simp only [perform, answer, setTopicAttribute] at h
    split at h <;> cases h
    exact .topic rfl rfl ‹_›
  | .call (.subscribe topicArn protocol endpoint) =>
    simp only [perform, answer, subscribe] at h
    split at h
    · next hprotocol =>
      cases h
      exact .fault (if_neg hprotocol)
    · next hprotocol =>
      split at h
      · cases h
        exact .topic (if_pos (Decidable.not_not.mp hprotocol)) rfl ‹_›
      · split at h <;> cases h
  | .call (.publish topicArn message) =>
    simp only [perform, answer, publish] at h
    split at h <;> cases h
    exact .topic rfl rfl ‹_›
  | .call (.createQueue name) =>
    simp only [perform, answer, createQueue] at h
    split at h
    · split at h <;> cases h
    · cases h
      exact .fault (if_neg ‹_›)
  | .call (.getQueueAttributes queueUrl names) =>
    simp only [perform, answer, getQueueAttributes] at h
    split at h <;> cases h
    exact .queue rfl rfl ‹_›
  | .call (.setQueueAttributes queueUrl attributes) =>
    simp only [perform, answer, setQueueAttributes] at h
    split at h
    · next hfault =>
      cases h
      exact .fault hfault
    · next hfault =>
      split at h <;> cases h
      exact .queue hfault rfl ‹_›
  | .call (.receiveMessage request) =>
    simp only [perform, answer, receive] at h
    split at h <;> cases h
    exact .queue rfl rfl ‹_›
  | .call (.deleteMessage queueUrl receipt) =>
    simp only [perform, answer, deleteMessage] at h
    split at h
    · cases h
      exact .queue rfl rfl ‹_›
    · next queue hqueue =>
      split at h <;> cases h
      next hnone => exact .receipt hqueue (by simpa using hnone)

theorem perform_of_fault (h : o.fault? = some e) : b.perform m o = .error e := by
  match o with
  | .call (.createTopic name) | .call (.createQueue name) =>
    simp only [Operation.fault?] at h
    split at h <;> cases h
    exact if_neg ‹_›
  | .call (.subscribe topicArn protocol endpoint) =>
    simp only [Operation.fault?] at h
    split at h <;> cases h
    exact if_pos ‹_›
  | .call (.setQueueAttributes queueUrl attributes) =>
    have hfault : attributeFault? attributes = some e := h
    simp only [Broker.perform, answer, setQueueAttributes, hfault]
  | .enqueue _ _ | .call (.setTopicAttributes _ _ _) | .call (.publish _ _)
  | .call (.getQueueAttributes _ _) | .call (.receiveMessage _) | .call (.deleteMessage _ _) =>
    cases h

theorem perform_of_no_topic {topicArn : String} (hfault : o.fault? = none)
    (h : o.topic? = some topicArn) (hnone : b.topics.find? topicArn = none) :
    b.perform m o = .error (noTopic o.name topicArn) := by
  match o with
  | .call (.setTopicAttributes _ _ _) | .call (.publish _ _) =>
    cases h
    simp only [Broker.perform, answer, setTopicAttribute, publish, hnone]
    rfl
  | .call (.subscribe _ protocol _) =>
    cases h
    simp only [Operation.fault?] at hfault
    split at hfault <;> cases hfault
    next hprotocol =>
      simp only [Broker.perform, answer, subscribe, hprotocol, hnone]
      rfl
  | .enqueue _ _ | .call (.createTopic _) | .call (.createQueue _)
  | .call (.setQueueAttributes _ _) | .call (.getQueueAttributes _ _)
  | .call (.receiveMessage _) | .call (.deleteMessage _ _) => cases h

theorem perform_of_no_queue {queueUrl : String} (hfault : o.fault? = none)
    (h : o.queue? = some queueUrl) (hnone : b.queues.find? queueUrl = none) :
    b.perform m o = .error (noQueue o.name queueUrl) := by
  match o with
  | .enqueue _ _ | .call (.getQueueAttributes _ _) | .call (.receiveMessage _)
  | .call (.deleteMessage _ _) =>
    cases h
    simp only [Broker.perform, Broker.enqueue, answer, getQueueAttributes, receive,
      deleteMessage, hnone]
    rfl
  | .call (.setQueueAttributes _ attributes) =>
    cases h
    have hfault : attributeFault? attributes = none := hfault
    simp only [Broker.perform, answer, setQueueAttributes, hfault, hnone]
    rfl
  | .call (.createTopic _) | .call (.createQueue _) | .call (.setTopicAttributes _ _ _)
  | .call (.subscribe _ _ _) | .call (.publish _ _) => cases h

/-- Where there is a reason, an operation fails. -/
theorem Refuses.perform (h : b.Refuses o e) (m : Moment) : b.perform m o = .error e := by
  cases h with
  | fault h => exact perform_of_fault h
  | topic hfault h hnone => exact perform_of_no_topic hfault h hnone
  | queue hfault h hnone => exact perform_of_no_queue hfault h hnone
  | @receipt queueUrl receipt queue hqueue hnone =>
    have hfind : queue.messages.find? (fun x ↦ x.receipt = some receipt) = none :=
      List.find?_eq_none.mpr fun x hx ↦ by simpa using hnone x hx
    simp only [Broker.perform, answer, deleteMessage, hqueue, hfind]

theorem perform_error_iff : b.perform m o = .error e ↔ b.Refuses o e :=
  ⟨refuses_of_perform, fun h ↦ h.perform m⟩

/-! ### Store by store -/

/-- A computation that stores into a broker one thing after another; when it fails, what it has
stored stays. -/
abbrev Stepwise (α : Type) := ExceptT Error (StateM Broker) α

namespace Stepwise

def check (condition : Bool) (e : Error) : Stepwise Unit := do
  if condition then return () else throw e

def findTopic (operation topicArn : String) : Stepwise Topic := do
  match (← get).topics.find? topicArn with
  | some topic => return topic
  | none => throw (noTopic operation topicArn)

def findQueue (operation queueUrl : String) : Stepwise Queue := do
  match (← get).queues.find? queueUrl with
  | some queue => return queue
  | none => throw (noQueue operation queueUrl)

def createTopic (name : String) : Stepwise String := do
  check (isResourceName name) (invalidName "CreateTopic" name)
  let arn := (← get).topicArnFor name
  if !(← get).topics.contains arn then modify (·.setTopic arn {})
  return arn

def setTopicAttribute (topicArn name value : String) : Stepwise Unit := do
  let topic ← findTopic "SetTopicAttributes" topicArn
  modify (·.setTopic topicArn { topic with attributes := topic.attributes.insert name value })

def subscribe (m : Moment) (topicArn protocol endpoint : String) : Stepwise String := do
  check (protocol = Broker.protocol) (unsupportedProtocol protocol)
  let topic ← findTopic "Subscribe" topicArn
  match topic.subscriptions.find? fun s ↦ s.endpoint = endpoint with
  | some s => return s.arn
  | none =>
    let arn := topicArn ++ ":" ++ m.id 0
    let subscriptions := topic.subscriptions ++ [⟨arn, endpoint⟩]
    modify (·.setTopic topicArn { topic with subscriptions := subscriptions })
    return arn

/-- Puts a copy of a body on the queue of each endpoint that has one. -/
def deliver (m : Moment) (body : String) : Nat → List String → Stepwise Unit
  | _, [] => return ()
  | index, endpoint :: rest => do
    match (← get).urlByArn.find? endpoint with
    | some url => modify (·.append url [.arrived (m.id index) body m.millis])
    | none => pure ()
    deliver m body (index + 1) rest

def publish (m : Moment) (topicArn message : String) : Stepwise String := do
  let endpoints := (← get).endpoints topicArn
  let _ ← findTopic "Publish" topicArn
  let id := m.id 0
  let notification := Notification.ofMessage id topicArn message (Notification.timeText m.time)
  deliver m notification.text 1 endpoints
  return id

def createQueue (name : String) : Stepwise String := do
  check (isResourceName name) (invalidName "CreateQueue" name)
  let url := (← get).queueUrlFor name
  let arn := (← get).queueArnFor name
  if !(← get).queues.contains url then
    modify (·.setQueue url { attributes := .ofList [(queueArnAttribute, arn)] })
    modify fun b ↦ { b with urlByArn := b.urlByArn.insert arn url }
  return url

def getQueueAttributes (queueUrl : String) (names : List String) :
    Stepwise (Table String String) := do
  let queue ← findQueue "GetQueueAttributes" queueUrl
  return queue.attributes.restrict names

/-- The redrive policy is checked first. -/
def checkAttributes (attributes : Table String String) : Stepwise Unit := do
  if let some policy := attributes.find? redriveAttribute then
    check (Redrive.read? policy).isSome (invalidRedrive policy)
  if let some policy := attributes.find? policyAttribute then
    check (JsonText.readValue? policy).isSome invalidPolicy

def setQueueAttributes (queueUrl : String) (attributes : Table String String) :
    Stepwise Unit := do
  checkAttributes attributes
  let queue ← findQueue "SetQueueAttributes" queueUrl
  modify (·.setQueue queueUrl { queue with attributes := queue.attributes.insertAll attributes })

def enqueue (m : Moment) (queueUrl body : String) : Stepwise String := do
  let _ ← findQueue "SendMessage" queueUrl
  modify (·.append queueUrl [.arrived (m.id 0) body m.millis])
  return m.id 0

def receive (m : Moment) (request : ReceiveRequest) : Stepwise (List Received) := do
  let queue ← findQueue "ReceiveMessage" request.queueUrl
  let redrive := (← get).redrive? queue
  let s := Sweep.scan ⟨m, request.visibilityTimeoutSeconds * 1000, redrive.map Prod.snd⟩
    (max request.maxNumberOfMessages 1) 0 queue.messages
  modify (·.setQueue request.queueUrl { queue with messages := s.kept })
  if let some (target, _) := redrive then
    modify (·.append target (s.dead.map (·.moved m.millis)))
  return s.received

def deleteMessage (queueUrl receipt : String) : Stepwise Unit := do
  let queue ← findQueue "DeleteMessage" queueUrl
  match queue.messages.find? fun s ↦ s.receipt = some receipt with
  | none => throw (invalidReceipt receipt)
  | some _ =>
    let messages := queue.messages.eraseP fun s ↦ s.receipt = some receipt
    modify (·.setQueue queueUrl { queue with messages := messages })

def answer (m : Moment) : (c : Call) → Stepwise c.Reply
  | .createTopic name => createTopic name
  | .setTopicAttributes topicArn name value => setTopicAttribute topicArn name value
  | .subscribe topicArn protocol endpoint => subscribe m topicArn protocol endpoint
  | .publish topicArn message => publish m topicArn message
  | .createQueue name => createQueue name
  | .getQueueAttributes queueUrl names => getQueueAttributes queueUrl names
  | .setQueueAttributes queueUrl attributes => setQueueAttributes queueUrl attributes
  | .receiveMessage request => receive m request
  | .deleteMessage queueUrl receipt => deleteMessage queueUrl receipt

def perform (m : Moment) : (o : Operation) → Stepwise o.Reply
  | .call c => answer m c
  | .enqueue queueUrl body => enqueue m queueUrl body

/-- The reply and the broker that a computation comes to. -/
def run {α : Type} (p : Stepwise α) (b : Broker) : Except Error α × Broker :=
  StateT.run (ExceptT.run p) b

/-- The reply and the broker of an operation that is done at once or not at all. -/
def atOnce {α : Type} (b : Broker) : Result α → Except Error α × Broker
  | .ok (a, b') => (.ok a, b')
  | .error e => (.error e, b)

section Run

variable {α β : Type}

theorem run_bind (p : Stepwise α) (f : α → Stepwise β) : run (p >>= f) b =
    match run p b with
    | (.ok a, b') => run (f a) b'
    | (.error e, b') => (.error e, b') := by
  rcases hp : run p b with ⟨_ | a, b'⟩
  all_goals
    have hp : p b = _ := hp
    simp only [run, ExceptT.run, bind, ExceptT.bind, ExceptT.mk, StateT.run, StateT.bind, hp]
    rfl

theorem run_get_bind (f : Broker → Stepwise β) : run (get >>= f) b = run (f b) b := rfl

theorem run_check_bind (condition : Bool) (f : Unit → Stepwise β) :
    run (check condition e >>= f) b =
      if condition then run (f ()) b else (.error e, b) := by
  cases condition <;> rfl

theorem run_findTopic_bind (operation topicArn : String) (f : Topic → Stepwise β) :
    run (findTopic operation topicArn >>= f) b =
      match b.topics.find? topicArn with
      | some topic => run (f topic) b
      | none => (.error (noTopic operation topicArn), b) := by
  rw [run_bind, findTopic, run_get_bind]
  cases b.topics.find? topicArn <;> rfl

theorem run_findQueue_bind (operation queueUrl : String) (f : Queue → Stepwise β) :
    run (findQueue operation queueUrl >>= f) b =
      match b.queues.find? queueUrl with
      | some queue => run (f queue) b
      | none => (.error (noQueue operation queueUrl), b) := by
  rw [run_bind, findQueue, run_get_bind]
  cases b.queues.find? queueUrl <;> rfl

end Run

theorem run_createTopic (b : Broker) (name : String) :
    run (createTopic name) b = atOnce b (b.createTopic name) := by
  rw [createTopic, run_check_bind, run_get_bind, run_get_bind, Broker.createTopic]
  cases isResourceName name with
  | false => rfl
  | true =>
    rw [if_pos rfl, if_pos rfl]
    dsimp only
    cases b.topics.contains (b.topicArnFor name) <;> rfl

theorem run_setTopicAttribute (b : Broker) (topicArn name value : String) :
    run (setTopicAttribute topicArn name value) b =
      atOnce b (b.setTopicAttribute topicArn name value) := by
  rw [setTopicAttribute, run_findTopic_bind, Broker.setTopicAttribute]
  cases b.topics.find? topicArn <;> rfl

theorem run_subscribe (b : Broker) (m : Moment) (topicArn protocol endpoint : String) :
    run (subscribe m topicArn protocol endpoint) b =
      atOnce b (b.subscribe m topicArn protocol endpoint) := by
  rw [subscribe, run_check_bind, run_findTopic_bind, Broker.subscribe]
  by_cases hprotocol : protocol = Broker.protocol
  · rw [if_pos (decide_eq_true hprotocol), if_neg (not_not_intro hprotocol)]
    cases b.topics.find? topicArn with
    | none => rfl
    | some topic =>
      dsimp only
      cases topic.subscriptions.find? fun s ↦ s.endpoint = endpoint <;> rfl
  · rw [if_pos hprotocol, if_neg (by simpa using hprotocol)]
    rfl

theorem run_deliver (m : Moment) (body : String) (index : Nat) (endpoints : List String) :
    run (deliver m body index endpoints) b = (.ok (), Broker.deliver m body index endpoints b) := by
  induction endpoints generalizing index b with
  | nil => rfl
  | cons endpoint rest ih =>
    rw [deliver, run_get_bind, Broker.deliver]
    cases b.urlByArn.find? endpoint with
    | none => exact ih ..
    | some url => exact ih ..

theorem run_publish (b : Broker) (m : Moment) (topicArn message : String) :
    run (publish m topicArn message) b = atOnce b (b.publish m topicArn message) := by
  rw [publish, run_get_bind, run_findTopic_bind, Broker.publish]
  cases b.topics.find? topicArn with
  | none => rfl
  | some topic =>
    dsimp only
    rw [run_bind, run_deliver]
    rfl

theorem run_createQueue (b : Broker) (name : String) :
    run (createQueue name) b = atOnce b (b.createQueue name) := by
  rw [createQueue, run_check_bind, run_get_bind, run_get_bind, run_get_bind, Broker.createQueue]
  cases isResourceName name with
  | false => rfl
  | true =>
    rw [if_pos rfl, if_pos rfl]
    dsimp only
    cases b.queues.contains (b.queueUrlFor name) <;> rfl

theorem run_checkAttributes_bind {α : Type} (attributes : Table String String)
    (f : Unit → Stepwise α) : run (checkAttributes attributes >>= f) b =
      match attributeFault? attributes with
      | some e => (.error e, b)
      | none => run (f ()) b := by
  have hpolicy (g : Unit → Stepwise α) : run ((do
      if let some policy := attributes.find? policyAttribute then
        check (JsonText.readValue? policy).isSome invalidPolicy) >>= g) b =
      match attributeFault?.policyFault? attributes with
      | some e => (.error e, b)
      | none => run (g ()) b := by
    unfold attributeFault?.policyFault?
    cases attributes.find? policyAttribute with
    | none => rfl
    | some policy => cases hread : JsonText.readValue? policy <;> simp [run_check_bind, hread]
  unfold checkAttributes attributeFault?
  cases attributes.find? redriveAttribute with
  | none => exact hpolicy f
  | some policy =>
    cases hread : Redrive.read? policy with
    | none => simp [run_check_bind, hread]
    | some redrive =>
      simp only [hread]
      exact hpolicy f

theorem run_getQueueAttributes (b : Broker) (queueUrl : String) (names : List String) :
    run (getQueueAttributes queueUrl names) b =
      atOnce b (b.getQueueAttributes queueUrl names) := by
  rw [getQueueAttributes, run_findQueue_bind, Broker.getQueueAttributes]
  cases b.queues.find? queueUrl <;> rfl

theorem run_setQueueAttributes (b : Broker) (queueUrl : String)
    (attributes : Table String String) : run (setQueueAttributes queueUrl attributes) b =
      atOnce b (b.setQueueAttributes queueUrl attributes) := by
  rw [setQueueAttributes, run_checkAttributes_bind, Broker.setQueueAttributes]
  cases attributeFault? attributes with
  | some e => rfl
  | none =>
    dsimp only
    rw [run_findQueue_bind]
    cases b.queues.find? queueUrl <;> rfl

theorem run_enqueue (b : Broker) (m : Moment) (queueUrl body : String) :
    run (enqueue m queueUrl body) b = atOnce b (b.enqueue m queueUrl body) := by
  rw [enqueue, run_findQueue_bind, Broker.enqueue]
  cases b.queues.find? queueUrl <;> rfl

theorem run_receive (b : Broker) (m : Moment) (request : ReceiveRequest) :
    run (receive m request) b = atOnce b (b.receive m request) := by
  rw [receive, run_findQueue_bind, Broker.receive]
  cases b.queues.find? request.queueUrl with
  | none => rfl
  | some queue =>
    dsimp only
    rw [run_get_bind, Broker.sweepQueue]
    cases b.redrive? queue <;> rfl

theorem run_deleteMessage (b : Broker) (queueUrl receipt : String) :
    run (deleteMessage queueUrl receipt) b = atOnce b (b.deleteMessage queueUrl receipt) := by
  rw [deleteMessage, run_findQueue_bind, Broker.deleteMessage]
  cases b.queues.find? queueUrl with
  | none => rfl
  | some queue =>
    dsimp only
    cases queue.messages.find? fun s ↦ s.receipt = some receipt <;> rfl

/-- Store by store or at once: the reply and the broker afterwards are the same. -/
theorem run_perform (m : Moment) : (o : Operation) →
    run (perform m o) b = atOnce b (b.perform m o)
  | .call (.createTopic name) => run_createTopic b name
  | .call (.setTopicAttributes topicArn name value) => run_setTopicAttribute b topicArn name value
  | .call (.subscribe topicArn protocol endpoint) => run_subscribe b m topicArn protocol endpoint
  | .call (.publish topicArn message) => run_publish b m topicArn message
  | .call (.createQueue name) => run_createQueue b name
  | .call (.getQueueAttributes queueUrl names) => run_getQueueAttributes b queueUrl names
  | .call (.setQueueAttributes queueUrl attributes) => run_setQueueAttributes b queueUrl attributes
  | .call (.receiveMessage request) => run_receive b m request
  | .call (.deleteMessage queueUrl receipt) => run_deleteMessage b queueUrl receipt
  | .enqueue queueUrl body => run_enqueue b m queueUrl body

/-- An operation that fails has stored nothing, and there is a reason for it. -/
theorem refuses_of_run (h : run (perform m o) b = (.error e, b')) : b' = b ∧ b.Refuses o e := by
  rw [run_perform] at h
  cases hperform : b.perform m o with
  | ok result =>
    rw [hperform] at h
    cases h
  | error other =>
    rw [hperform] at h
    cases h
    exact ⟨rfl, refuses_of_perform hperform⟩

end Stepwise

end MessageBus.Broker
