import MessageBus.Proofs.Broker.Messages
import MessageBus.Proofs.Policy
/-!
Attributes of queues. A queue that is there is given attributes if the policies among them can be
read (`exists_setQueueAttributes`), and has them all afterwards; a redrive policy among them is then
what its next receive goes by (`redriveAt?_setQueueAttributes`).

The policies that are written for topics and queues can be read, and are read as they were meant,
whatever the addresses in them hold (`policies_read_as_meant`).
-/

set_option autoImplicit false
set_option relaxedAutoImplicit false

namespace MessageBus.Broker

variable {b b' : Broker} {url : String} {attributes : Table String String}

theorem attributeFault?_eq_none_iff : attributeFault? attributes = none ↔
    (∀ policy, attributes.find? redriveAttribute = some policy → (Redrive.read? policy).isSome) ∧
      ∀ policy, attributes.find? policyAttribute = some policy →
        (JsonText.readValue? policy).isSome := by
  have hpolicy : attributeFault?.policyFault? attributes = none ↔
      ∀ policy, attributes.find? policyAttribute = some policy →
        (JsonText.readValue? policy).isSome := by
    unfold attributeFault?.policyFault?
    cases attributes.find? policyAttribute with
    | none => simp
    | some policy => cases hread : JsonText.readValue? policy <;> simp [hread]
  rw [attributeFault?, ← hpolicy]
  cases attributes.find? redriveAttribute with
  | none => simp
  | some policy => cases hread : Redrive.read? policy <;> simp [hread]

theorem exists_setQueueAttributes (hurl : b.queues.contains url)
    (hredrive : ∀ policy, attributes.find? redriveAttribute = some policy →
      (Redrive.read? policy).isSome)
    (hpolicy : ∀ policy, attributes.find? policyAttribute = some policy →
      (JsonText.readValue? policy).isSome) :
    ∃ b', b.setQueueAttributes url attributes = .ok ((), b') := by
  obtain ⟨queue, hqueue⟩ := exists_queue_of_contains hurl
  have hfault := attributeFault?_eq_none_iff.mpr ⟨hredrive, hpolicy⟩
  exact ⟨_, by rw [setQueueAttributes, hfault, hqueue]⟩

/-- What a queue has under a key after attributes were set. -/
theorem find?_setQueueAttributes (hset : b.setQueueAttributes url attributes = .ok ((), b')) :
    ∃ old, b.queueAttributes? url = some old ∧ ∃ new, b'.queueAttributes? url = some new ∧
      ∀ key, new.find? key = (attributes.latest? key).or (old.find? key) := by
  obtain ⟨-, queue, hqueue, rfl⟩ := setQueueAttributes_eq hset
  refine ⟨_, queueAttributes?_of_find? hqueue, _, ?_, fun key ↦ Table.find?_insertAll ..⟩
  rw [queueAttributes?, setQueue, Table.find?_insert_self, Option.map_some]

theorem redriveAt?_eq {policy : String} {r : Redrive} {old : Table String String}
    (hold : b.queueAttributes? url = some old) (hpolicy : old.find? redriveAttribute = some policy)
    (hr : Redrive.read? policy = some r) :
    b.redriveAt? url = (b.urlByArn.find? r.target).map (·, r.maxReceiveCount) := by
  obtain ⟨queue, hqueue, rfl⟩ := Option.map_eq_some_iff.mp hold
  rw [redriveAt?_of_find? hqueue, redrive?, hpolicy]
  simp only [Option.bind_eq_bind, Option.bind_some, hr]
  cases b.urlByArn.find? r.target <;> rfl

/-- A redrive policy is in force as soon as it was set. -/
theorem redriveAt?_setQueueAttributes {r : Redrive} (hr : r.maxReceiveCount < halfWordBound)
    (hset : b.setQueueAttributes url attributes = .ok ((), b'))
    (hpolicy : attributes.latest? redriveAttribute = some r.text) :
    b'.redriveAt? url = (b'.urlByArn.find? r.target).map (·, r.maxReceiveCount) := by
  obtain ⟨old, -, new, hnew, hfind⟩ := find?_setQueueAttributes hset
  have hfound : new.find? redriveAttribute = some r.text := by rw [hfind, hpolicy, Option.some_or]
  exact redriveAt?_eq hnew hfound (Redrive.read?_text r hr)

section Access

variable {id sid topicArn queueArn : String}

theorem exists_setQueueAttributes_queueAccess (hurl : b.queues.contains url)
    (hpolicy : attributes.find? policyAttribute =
      some (Policy.queueAccess id sid topicArn queueArn))
    (hredrive : ∀ policy, attributes.find? redriveAttribute = some policy →
      (Redrive.read? policy).isSome) :
    ∃ b', b.setQueueAttributes url attributes = .ok ((), b') := by
  refine exists_setQueueAttributes hurl hredrive fun policy hfound ↦ ?_
  obtain rfl := Option.some.inj (hpolicy.symm.trans hfound)
  exact (Policy.says_queueAccess ..).isSome_readValue?

/-- The policies that a queue is given when it is subscribed are accepted, and are in force then. -/
theorem exists_redriveAt?_queueAccess (hurl : b.queues.contains url) {r : Redrive}
    (hr : r.maxReceiveCount < halfWordBound) :
    ∃ b', b.setQueueAttributes url
        (.ofList [(policyAttribute, Policy.queueAccess id sid topicArn queueArn),
          (redriveAttribute, r.text)]) = .ok ((), b') ∧
      b'.redriveAt? url = (b.urlByArn.find? r.target).map (·, r.maxReceiveCount) := by
  let attributes : Table String String :=
    .ofList [(policyAttribute, Policy.queueAccess id sid topicArn queueArn),
      (redriveAttribute, r.text)]
  have hredrive (policy : String) (hfound : attributes.find? redriveAttribute = some policy) :
      (Redrive.read? policy).isSome := by
    obtain rfl : r.text = policy := Option.some.inj hfound
    rw [Redrive.read?_text r hr, Option.isSome_some]
  obtain ⟨b', hset⟩ : ∃ b', b.setQueueAttributes url attributes = .ok ((), b') :=
    exists_setQueueAttributes_queueAccess hurl rfl hredrive
  refine ⟨b', hset, ?_⟩
  rw [redriveAt?_setQueueAttributes hr hset rfl]
  obtain ⟨-, queue, -, rfl⟩ := setQueueAttributes_eq hset
  rfl

end Access

/-- The policies that the registry writes are read as they were meant, whatever the ARNs hold. A
redrive policy gives back its target and its count. The policy of a queue is JSON about the queue
that lets the topic in, and is accepted with every redrive policy that can be read; with the one
that the registry writes, messages then move to the queue that the target leads to. For a topic,
there is a policy exactly if its ARN has a fifth field, and it lets the account in this field in. -/
theorem policies_read_as_meant (id sid : String) :
    (∀ target, ∀ count < halfWordBound,
      Redrive.read? (Redrive.text ⟨target, count⟩) = some ⟨target, count⟩) ∧
    (∀ topicArn queueArn,
      let policy := Policy.queueAccess id sid topicArn queueArn
      Policy.Says policy queueArn "ArnEquals" "AWS:SourceArn" topicArn ∧
      ∀ (b : Broker) (url : String), b.queues.contains url →
        (∀ attributes, attributes.find? policyAttribute = some policy →
          (∀ redrive, attributes.find? redriveAttribute = some redrive →
            (Redrive.read? redrive).isSome) →
          ∃ b', b.setQueueAttributes url attributes = .ok ((), b')) ∧
        ∀ target, ∀ count < halfWordBound, ∃ b',
          b.setQueueAttributes url (.ofList [(policyAttribute, policy),
            (redriveAttribute, Redrive.text ⟨target, count⟩)]) = .ok ((), b') ∧
          b'.redriveAt? url = (b.urlByArn.find? target).map (·, count)) ∧
    ∀ topicArn,
      let fields := topicArn.toList.splitOn ':'
      (Policy.topicAccess id sid topicArn = .error (.resolution ("invalid arn: " ++ topicArn)) ↔
        fields.length < 5) ∧
      ∀ account, fields[4]? = some account →
        ∃ policy, Policy.topicAccess id sid topicArn = .ok policy ∧
          Policy.Says policy topicArn "StringEquals" "AWS:SourceOwner" (String.ofList account) := by
  refine ⟨fun target count ↦ Redrive.read?_text ⟨target, count⟩, fun topicArn queueArn ↦ ?_,
    fun topicArn ↦ ?_⟩
  · refine ⟨Policy.says_queueAccess .., fun b url hurl ↦ ⟨?_, fun target count hcount ↦ ?_⟩⟩
    · exact fun attributes ↦ exists_setQueueAttributes_queueAccess hurl
    · exact exists_redriveAt?_queueAccess hurl (r := ⟨target, count⟩) hcount
  · refine ⟨Policy.topicAccess_eq_error_iff, fun account haccount ↦ ?_⟩
    exact Policy.exists_topicAccess (Policy.accountOfArn_eq_ok haccount) id sid

/-- ARNs with a quotation mark, a backslash and a control character, and one that is too short. -/
theorem policies_read_as_meant_sample :
    Redrive.read? (Redrive.text ⟨"a\"\\\n", 7⟩) = some ⟨"a\"\\\n", 7⟩ ∧
    Policy.Says (Policy.queueAccess "p-1" "p-2" "t\"" "q\\") "q\\" "ArnEquals" "AWS:SourceArn"
      "t\"" ∧
    (∃ b', setQueueAttributes
        { queues := .ofList [("url", {})], urlByArn := .ofList [("e", "url")] } "url"
        (.ofList [(policyAttribute, Policy.queueAccess "p-1" "p-2" "t\"" "q\\"),
          (redriveAttribute, Redrive.text ⟨"e", 7⟩)]) = .ok ((), b') ∧
      b'.redriveAt? "url" = some ("url", 7)) ∧
    (∃ policy, Policy.topicAccess "p-1" "p-2" "a:b:c:d:\"\\:t" = .ok policy ∧
      Policy.Says policy "a:b:c:d:\"\\:t" "StringEquals" "AWS:SourceOwner" "\"\\") ∧
    Policy.topicAccess "p-1" "p-2" "a:b:c:d" = .error (.resolution "invalid arn: a:b:c:d") := by
  obtain ⟨hredrive, hqueue, htopic⟩ := policies_read_as_meant "p-1" "p-2"
  refine ⟨hredrive _ _ (by decide), (hqueue _ _).1, ?_, ?_, ?_⟩
  · exact ((hqueue _ _).2 _ _ (by decide)).2 _ _ (by decide)
  · exact (htopic _).2 _ (by decide +kernel)
  · exact (htopic _).1.mpr (by decide +kernel)

end MessageBus.Broker
