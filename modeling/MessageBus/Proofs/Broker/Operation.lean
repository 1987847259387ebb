import MessageBus.Broker.Operation
import MessageBus.Broker.Sweep
import MessageBus.Proofs.Table
/-!
What an operation of a broker has done when it has answered: one lemma for each operation says
which reply it has given, what was there for it to give it, and which state it has left. An
operation that creates has found what it was asked for and left everything as it was, or it has not
found it and made it.
-/

set_option autoImplicit false
set_option relaxedAutoImplicit false

namespace MessageBus.Broker

variable {b b' : Broker} {m : Moment}

theorem messages_of_find? {url : String} {queue : Queue} (h : b.queues.find? url = some queue) :
    b.messages url = queue.messages := by
  rw [messages, h]

theorem queueAttributes?_of_find? {url : String} {queue : Queue}
    (h : b.queues.find? url = some queue) : b.queueAttributes? url = some queue.attributes := by
  rw [queueAttributes?, h, Option.map_some]

/-- The redrive policy of a queue: the queue that takes its dead letters, and after how many
receives. -/
def redriveAt? (b : Broker) (queueUrl : String) : Option (String × Nat) :=
  (b.queues.find? queueUrl).bind b.redrive?

theorem redriveAt?_of_find? {url : String} {queue : Queue}
    (h : b.queues.find? url = some queue) : b.redriveAt? url = b.redrive? queue := by
  rw [redriveAt?, h, Option.bind_some]

/-- The pass of a receive. -/
def pass (b : Broker) (m : Moment) (request : ReceiveRequest) : Sweep :=
  Sweep.scan
    ⟨m, request.visibilityTimeoutSeconds * 1000, (b.redriveAt? request.queueUrl).map Prod.snd⟩
    (max request.maxNumberOfMessages 1) 0 (b.messages request.queueUrl)

theorem createTopic_eq {name arn : String} (hcreate : b.createTopic name = .ok (arn, b')) :
    arn = b.topicArnFor name ∧
      ((b.topics.contains arn ∧ b' = b) ∨
        (b.topics.find? arn = none ∧ b' = b.setTopic arn {})) := by
  unfold createTopic at hcreate
  split at hcreate
  · cases hcreate
    split
    · next hcontains => exact ⟨rfl, .inl ⟨hcontains, rfl⟩⟩
    · next hcontains => exact ⟨rfl, .inr ⟨Option.not_isSome_iff_eq_none.mp hcontains, rfl⟩⟩
  · cases hcreate

theorem setTopicAttribute_eq {topicArn name value : String}
    (hset : b.setTopicAttribute topicArn name value = .ok ((), b')) :
    ∃ topic, b.topics.find? topicArn = some topic ∧
      b' = b.setTopic topicArn
        { topic with attributes := topic.attributes.insert name value } := by
  unfold setTopicAttribute at hset
  split at hset
  · cases hset
  · next topic htopic =>
    cases hset
    exact ⟨topic, htopic, rfl⟩

theorem subscribe_eq {topicArn protocol endpoint arn : String}
    (hsubscribe : b.subscribe m topicArn protocol endpoint = .ok (arn, b')) :
    protocol = Broker.protocol ∧ ∃ topic, b.topics.find? topicArn = some topic ∧
      ((∃ s ∈ topic.subscriptions, s.endpoint = endpoint ∧ arn = s.arn ∧ b' = b) ∨
        ((∀ s ∈ topic.subscriptions, s.endpoint ≠ endpoint) ∧
          arn = topicArn ++ ":" ++ m.id 0 ∧
          b' = b.setTopic topicArn
            { topic with subscriptions := topic.subscriptions ++ [⟨arn, endpoint⟩] })) := by
  unfold subscribe at hsubscribe
  split at hsubscribe
  · cases hsubscribe
  · next hprotocol =>
    refine ⟨Decidable.not_not.mp hprotocol, ?_⟩
    split at hsubscribe
    · cases hsubscribe
    · next topic htopic =>
      refine ⟨topic, htopic, ?_⟩
      split at hsubscribe
      · next s hs =>
        cases hsubscribe
        have hendpoint : s.endpoint = endpoint := by simpa using List.find?_some hs
        exact .inl ⟨s, List.mem_of_find?_eq_some hs, hendpoint, rfl, rfl⟩
      · next hnone =>
        cases hsubscribe
        have hnew : ∀ s ∈ topic.subscriptions, s.endpoint ≠ endpoint := by
          simpa using List.find?_eq_none.mp hnone
        exact .inr ⟨hnew, rfl, rfl⟩

theorem publish_eq {topicArn message id : String}
    (hpublish : b.publish m topicArn message = .ok (id, b')) :
    b.topics.contains topicArn ∧ id = m.id 0 ∧
      b' = deliver m (Notification.ofMessage (m.id 0) topicArn message
        (Notification.timeText m.time)).text 1 (b.endpoints topicArn) b := by
  unfold publish at hpublish
  split at hpublish
  · cases hpublish
  · next topic htopic =>
    cases hpublish
    exact ⟨Table.contains_of_find? htopic, rfl, rfl⟩

/-- A queue that is made has no messages, and is found under its ARN. -/
theorem createQueue_eq {name url : String} (hcreate : b.createQueue name = .ok (url, b')) :
    url = b.queueUrlFor name ∧
      ((b.queues.contains url ∧ b' = b) ∨
        (b.queues.find? url = none ∧ b' =
          { b.setQueue url { attributes := .ofList [(queueArnAttribute, b.queueArnFor name)] } with
            urlByArn := b.urlByArn.insert (b.queueArnFor name) url })) := by
  unfold createQueue at hcreate
  split at hcreate
  · dsimp only at hcreate
    split at hcreate
    · next hcontains =>
      cases hcreate
      exact ⟨rfl, .inl ⟨hcontains, rfl⟩⟩
    · next hcontains =>
      cases hcreate
      exact ⟨rfl, .inr ⟨Option.not_isSome_iff_eq_none.mp hcontains, rfl⟩⟩
  · cases hcreate

theorem isResourceName_of_createTopic {name arn : String} (h : b.createTopic name = .ok (arn, b')) :
    isResourceName name := by
  unfold createTopic at h
  split at h
  · assumption
  · cases h

theorem isResourceName_of_createQueue {name url : String} (h : b.createQueue name = .ok (url, b')) :
    isResourceName name := by
  unfold createQueue at h
  split at h
  · assumption
  · cases h

theorem getQueueAttributes_eq {url : String} {names : List String}
    {attributes : Table String String}
    (hread : b.getQueueAttributes url names = .ok (attributes, b')) :
    ∃ all, b.queueAttributes? url = some all ∧ attributes = all.restrict names ∧ b' = b := by
  unfold getQueueAttributes at hread
  split at hread
  · cases hread
  · next queue hqueue =>
    cases hread
    exact ⟨queue.attributes, queueAttributes?_of_find? hqueue, rfl, rfl⟩

theorem setQueueAttributes_eq {url : String} {attributes : Table String String}
    (hset : b.setQueueAttributes url attributes = .ok ((), b')) :
    attributeFault? attributes = none ∧ ∃ queue, b.queues.find? url = some queue ∧
      b' = b.setQueue url { queue with attributes := queue.attributes.insertAll attributes } := by
  unfold setQueueAttributes at hset
  split at hset
  · cases hset
  · next hfault =>
    split at hset
    · cases hset
    · next queue hqueue =>
      cases hset
      exact ⟨hfault, queue, hqueue, rfl⟩

theorem enqueue_eq {url body id : String} (henqueue : b.enqueue m url body = .ok (id, b')) :
    b.queues.contains url ∧ id = m.id 0 ∧
      b' = b.append url [.arrived (m.id 0) body m.millis] := by
  unfold enqueue at henqueue
  split at henqueue
  · cases henqueue
  · next queue hqueue =>
    cases henqueue
    exact ⟨Table.contains_of_find? hqueue, rfl, rfl⟩

theorem pass_of_find? {request : ReceiveRequest} {queue : Queue}
    (hqueue : b.queues.find? request.queueUrl = some queue) :
    b.pass m request = Sweep.scan
      ⟨m, request.visibilityTimeoutSeconds * 1000, (b.redrive? queue).map Prod.snd⟩
      (max request.maxNumberOfMessages 1) 0 queue.messages := by
  rw [pass, redriveAt?_of_find? hqueue, messages_of_find? hqueue]

theorem receive_eq {request : ReceiveRequest} {messages : List Received}
    (hreceive : b.receive m request = .ok (messages, b')) :
    ∃ queue, b.queues.find? request.queueUrl = some queue ∧
      messages = (b.pass m request).received ∧
      b' = (b.sweepQueue m request.queueUrl queue (max request.maxNumberOfMessages 1)
        (request.visibilityTimeoutSeconds * 1000)).2 := by
  unfold receive at hreceive
  split at hreceive
  · cases hreceive
  · next queue hqueue =>
    cases hreceive
    rw [pass_of_find? hqueue]
    exact ⟨queue, hqueue, rfl, rfl⟩

/-- What goes is the first message under the receipt. -/
theorem deleteMessage_eq {url receipt : String}
    (hdelete : b.deleteMessage url receipt = .ok ((), b')) :
    ∃ queue, b.queues.find? url = some queue ∧
      (∃ x ∈ queue.messages, x.receipt = some receipt) ∧
      b' = b.setQueue url
        { queue with messages := queue.messages.eraseP fun x ↦ x.receipt = some receipt } := by
  unfold deleteMessage at hdelete
  split at hdelete
  · cases hdelete
  · next queue hqueue =>
    split at hdelete
    · cases hdelete
    · next x hx =>
      cases hdelete
      have hreceipt : x.receipt = some receipt := by simpa using List.find?_some hx
      exact ⟨queue, hqueue, ⟨x, List.mem_of_find?_eq_some hx, hreceipt⟩, rfl⟩

end MessageBus.Broker
