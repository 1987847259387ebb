import MessageBus.Proofs.Bus.Directory
import MessageBus.Proofs.Bus.Publication
import MessageBus.Proofs.Bus.Subscription
import MessageBus.Proofs.Naming
import MessageBus.Proofs.Provisioning.Completion
/-!
Asking for what is there already (`created_once`). A topic, a queue or a subscription that a call
has answered for is there from then on (`Broker.Provides`): no operation takes anything of it away
(`Broker.Remains`). So the same call gets the same address whenever it is made again, and changes
nothing. The name of a topic or queue is the last part of its address, and names have none of the
characters that separate the parts; so different names have different addresses, whatever the region
and the account of the broker are.
-/

set_option autoImplicit false
set_option relaxedAutoImplicit false

namespace MessageBus

/-- Whether a call asks for something that is to be there from then on. -/
def Call.creates : Call → Bool
  | .createTopic _ | .createQueue _ | .subscribe _ _ _ => true
  | _ => false

namespace Broker

variable {b b' : Broker} {m : Moment} {c : Call} {reply : c.Reply}

/-! ### What is there -/

/-- Whether what a call asks for is there, under an address. -/
inductive Provides (b : Broker) : (c : Call) → c.Reply → Prop
  | topic {name : String} (hname : isResourceName name)
    (h : b.topics.contains (b.topicArnFor name)) :
    Provides b (.createTopic name) (b.topicArnFor name)
  | queue {name : String} (hname : isResourceName name)
    (h : b.queues.contains (b.queueUrlFor name)) :
    Provides b (.createQueue name) (b.queueUrlFor name)
  | subscription {topicArn endpoint : String} {topic : Topic} {s : Subscription}
    (htopic : b.topics.find? topicArn = some topic)
    (hs : topic.subscriptions.find? (fun s ↦ s.endpoint = endpoint) = some s) :
    Provides b (.subscribe topicArn protocol endpoint) s.arn

/-- Who asks for what is there gets its address, and changes nothing. -/
theorem Provides.answer (h : b.Provides c reply) (m : Moment) :
    b.answer m c = .ok (reply, b) := by
  cases h with
  | topic hname h =>
    show b.createTopic _ = _
    rw [createTopic, if_pos hname]
    dsimp only
    rw [if_pos h]
  | queue hname h =>
    show b.createQueue _ = _
    rw [createQueue, if_pos hname]
    dsimp only
    rw [if_pos h]
  | subscription htopic hs =>
    show b.subscribe m _ _ _ = _
    rw [subscribe, if_neg (not_not_intro rfl), htopic]
    dsimp only
    rw [hs]

/-- What was asked for is there afterwards, under the address that was answered. -/
theorem provides_of_answer (hc : c.creates) (hanswer : b.answer m c = .ok (reply, b')) :
    b'.Provides c reply := by
  cases c with
  | createTopic name =>
    have hname := isResourceName_of_createTopic hanswer
    obtain ⟨rfl, ⟨hcontains, rfl⟩ | ⟨-, rfl⟩⟩ := createTopic_eq hanswer
    · exact .topic hname hcontains
    · exact .topic (b := b.setTopic _ {}) hname (Table.contains_insert_self ..)
  | createQueue name =>
    have hname := isResourceName_of_createQueue hanswer
    obtain ⟨rfl, ⟨hcontains, rfl⟩ | ⟨-, rfl⟩⟩ := createQueue_eq hanswer
    · exact .queue hname hcontains
    · refine .queue (b := { b.setQueue (b.queueUrlFor name) _ with urlByArn := _ }) hname ?_
      exact Table.contains_insert_self ..
  | subscribe topicArn protocol endpoint =>
    change b.subscribe m topicArn protocol endpoint = _ at hanswer
    rw [subscribe] at hanswer
    split at hanswer
    · cases hanswer
    · next hprotocol =>
      obtain rfl := Decidable.not_not.mp hprotocol
      split at hanswer
      · cases hanswer
      · next topic htopic =>
        split at hanswer
        · next s hs =>
          cases hanswer
          exact .subscription htopic hs
        · next hnone =>
          cases hanswer
          refine .subscription (Table.find?_insert_self ..) (s := ⟨_, endpoint⟩) ?_
          rw [List.find?_append, hnone]
          simp
  | _ => cases hc

/-- What stays of a broker whatever happens: its identity, its queues, and its topics with the
subscriptions that they have. -/
structure Remains (b b' : Broker) : Prop where
  identity : b'.identity = b.identity
  queues : ∀ {url}, b.queues.contains url → b'.queues.contains url
  topics : ∀ {arn topic}, b.topics.find? arn = some topic →
    ∃ next, b'.topics.find? arn = some next ∧ topic.subscriptions <+: next.subscriptions

theorem remains_answer (c : Call) {reply : c.Reply} (hanswer : b.answer m c = .ok (reply, b')) :
    b.Remains b' where
  identity := (keeps_answer c hanswer).identity
  queues := (keeps_answer c hanswer).contains
  topics := subscriptions_answer c hanswer

theorem remains_enqueue {url body id : String} (henqueue : b.enqueue m url body = .ok (id, b')) :
    b.Remains b' := by
  obtain ⟨-, -, rfl⟩ := enqueue_eq henqueue
  have hsame := SameDirectory.append b url [.arrived (m.id 0) body m.millis]
  refine ⟨hsame.identity, (hsame.keeps True).contains, fun {arn topic} htopic ↦ ?_⟩
  rw [topics_append]
  exact ⟨topic, htopic, List.prefix_refl _⟩

theorem Provides.mono (h : b.Provides c reply) (hremains : b.Remains b') :
    b'.Provides c reply := by
  cases h with
  | @topic name hname h =>
    obtain ⟨topic, htopic⟩ := Option.isSome_iff_exists.mp h
    obtain ⟨next, hnext, -⟩ := hremains.topics htopic
    have harn := topicArnFor_congr hremains.identity name
    rw [← harn] at hnext ⊢
    exact .topic hname (Table.contains_of_find? hnext)
  | @queue name hname h =>
    have hurl := queueUrlFor_congr hremains.identity name
    have hcontains := hremains.queues h
    rw [← hurl] at hcontains ⊢
    exact .queue hname hcontains
  | subscription htopic hs =>
    obtain ⟨next, hnext, more, hmore⟩ := hremains.topics htopic
    refine .subscription hnext ?_
    rw [← hmore, List.find?_append, hs, Option.some_or]

/-! ### Addresses -/

/-- Texts that end in a name behind a separator have the same name, if they are the same. -/
theorem eq_of_append_cons (separator : Char) (hseparator : isNameChar separator = false)
    {name other : String} (hname : isResourceName name) (hother : isResourceName other)
    (first first' : List Char)
    (h : first ++ separator :: name.toList = first' ++ separator :: other.toList) :
    name = other := by
  have hnot {name : String} (hname : isResourceName name) {part rest : List Char}
      (hpart : name.toList = part ++ separator :: rest) : False := by
    simp only [isResourceName, Bool.and_eq_true, List.all_eq_true] at hname
    have hchar := hname.2 separator (hpart ▸ by simp)
    rw [hseparator] at hchar
    cases hchar
  rcases append_cons_inj_iff.mp h with ⟨-, hsame⟩ | ⟨part, -, hpart⟩ | ⟨part, -, hpart⟩
  · exact String.toList_inj.mp hsame
  · exact (hnot hname hpart).elim
  · exact (hnot hother hpart).elim

/-- A topic ARN has its name behind the last colon. -/
theorem eq_of_createTopic {name other arn : String} {x x' : Broker}
    (h : b.createTopic name = .ok (arn, x)) (hother : b'.createTopic other = .ok (arn, x')) :
    name = other := by
  refine eq_of_append_cons ':' (by decide) (isResourceName_of_createTopic h)
    (isResourceName_of_createTopic hother)
    ("arn:aws:sns:" ++ b.identity.region ++ ":" ++ b.identity.accountId).toList
    ("arn:aws:sns:" ++ b'.identity.region ++ ":" ++ b'.identity.accountId).toList ?_
  have hsame := (createTopic_eq h).1.symm.trans (createTopic_eq hother).1
  simpa [topicArnFor] using congrArg String.toList hsame

/-- A queue URL has its name behind the last slash. -/
theorem eq_of_createQueue {name other url : String} {x x' : Broker}
    (h : b.createQueue name = .ok (url, x)) (hother : b'.createQueue other = .ok (url, x')) :
    name = other := by
  refine eq_of_append_cons '/' (by decide) (isResourceName_of_createQueue h)
    (isResourceName_of_createQueue hother)
    ("https://sqs." ++ b.identity.region ++ ".amazonaws.com/" ++ b.identity.accountId).toList
    ("https://sqs." ++ b'.identity.region ++ ".amazonaws.com/" ++ b'.identity.accountId).toList ?_
  have hsame := (createQueue_eq h).1.symm.trans (createQueue_eq hother).1
  simpa [queueUrlFor] using congrArg String.toList hsame

end Broker

namespace Bus

variable {s t : Bus} {es : List Event}

theorem Run.provides {c : Call} {reply : c.Reply} (hrun : Run s es t)
    (h : s.broker.Provides c reply) : t.broker.Provides c reply := by
  refine Run.broker_of_operations (P := fun b ↦ b.Provides c reply) hrun ?_ ?_ h
  · exact fun hanswer hb ↦ hb.mono (Broker.remains_answer _ hanswer)
  · exact fun henqueue hb ↦ hb.mono (Broker.remains_enqueue henqueue)

theorem answer_of_provides {c : Call} {reply : c.Reply} (h : s.broker.Provides c reply)
    (time : Instant) : s.answer time c = (.ok reply, { s with serial := s.serial + 1 }) := by
  rw [answer, operate, h.answer]

/-- Topics, queues and subscriptions are made once. Let a call that asks for one of them have been
answered on any bus, and let anything happen afterwards: then the same call is answered with the
same address, and all that it changes is that its moment is used up. Topics and queues are made for
the names that are valid, and for no others; and two calls with different names are not answered
with one address, be it on one broker or on two brokers of whatever region and account. -/
theorem created_once :
    (∀ {s t : Bus} {time : Instant} {c : Call} {reply : c.Reply} {es : List Event}, c.creates →
      (s.answer time c).1 = .ok reply → Run (s.answer time c).2 es t →
        ∀ later, t.answer later c = (.ok reply, { t with serial := t.serial + 1 })) ∧
      (∀ (s : Bus) (time : Instant) (name : String),
        ((s.answer time (.createTopic name)).1.isOk ↔ isResourceName name) ∧
          ((s.answer time (.createQueue name)).1.isOk ↔ isResourceName name)) ∧
      ∀ (s t : Bus) (time later : Instant) {name other address : String}, name ≠ other →
        ((s.answer time (.createTopic name)).1 = .ok address →
          (t.answer later (.createTopic other)).1 ≠ .ok address) ∧
        ((s.answer time (.createQueue name)).1 = .ok address →
          (t.answer later (.createQueue other)).1 ≠ .ok address) := by
  refine ⟨?_, fun s time name ↦ ⟨?_, ?_⟩, ?_⟩
  · intro s t time c reply es hc hanswer hrun later
    obtain ⟨b, hanswered, hbus⟩ := answer_eq_ok hanswer
    rw [hbus] at hrun
    exact answer_of_provides (hrun.provides (Broker.provides_of_answer hc hanswered)) later
  · rw [answer, operate, Broker.answer, Broker.createTopic]
    by_cases hname : isResourceName name <;> simp [hname, Except.isOk, Except.toBool]
  · rw [answer, operate, Broker.answer, Broker.createQueue]
    by_cases hname : isResourceName name
    · by_cases hcontains : s.broker.queues.contains (s.broker.queueUrlFor name) <;>
        simp [hname, hcontains, Except.isOk, Except.toBool]
    · simp [hname, Except.isOk, Except.toBool]
  · intro s t time later name other address hne
    refine ⟨fun h hsame ↦ hne ?_, fun h hsame ↦ hne ?_⟩
    · obtain ⟨_, hfirst, -⟩ := answer_eq_ok h
      obtain ⟨_, hsecond, -⟩ := answer_eq_ok hsame
      exact Broker.eq_of_createTopic hfirst hsecond
    · obtain ⟨_, hfirst, -⟩ := answer_eq_ok h
      obtain ⟨_, hsecond, -⟩ := answer_eq_ok hsame
      exact Broker.eq_of_createQueue hfirst hsecond

/-- Someone subscribes a queue to a topic. After a message was published and received, and the queue
was given an attribute, everyone who asks again for the topic, the queue or the subscription is told
what was answered then. -/
theorem created_once_sample :
    let subscribe : Call := .subscribe sampleTopicArn Broker.protocol sampleEndpoint
    let s := (((start {}).answer .epoch (.createTopic "samples")).2.answer .epoch
      (.createQueue "samples")).2
    let url := s.broker.queueUrlFor "samples"
    let published :=
      ((s.answer .epoch subscribe).2.answer .epoch (.publish sampleTopicArn "text")).2
    let received := (published.answer .epoch (.receiveMessage ⟨url, 1, 0, 30⟩)).2
    let t := (received.answer .epoch
      (.setQueueAttributes url (.ofList [("DelaySeconds", "5")]))).2
    ∃ arn es, (s.answer .epoch subscribe).1 = .ok arn ∧ Run (s.answer .epoch subscribe).2 es t ∧
      (t.broker.messages url).map (·.receiveCount) = [1] ∧
      t.answer .epoch subscribe = (.ok arn, { t with serial := t.serial + 1 }) ∧
      (t.answer .epoch (.createTopic "samples")).1 = .ok sampleTopicArn ∧
      (s.answer .epoch (.createTopic "other")).1 ≠ .ok sampleTopicArn := by
  intro subscribe s url published received t
  obtain ⟨harn, hmessages, htopic⟩ : (s.answer .epoch subscribe).1 =
        .ok (sampleTopicArn ++ ":" ++ Uuid.text 2 0) ∧
      (t.broker.messages url).map (·.receiveCount) = [1] ∧
      (t.answer .epoch (.createTopic "samples")).1 = .ok sampleTopicArn := by
    decide +kernel
  have hrun : Run (s.answer .epoch subscribe).2 _ t :=
    (((RunWithin.refl trivial).step (.call _ .epoch _) trivial).step (.call _ .epoch _)
      trivial).step (.call _ .epoch _) trivial
  obtain ⟨hagain, -, hapart⟩ := created_once
  exact ⟨_, _, harn, hrun, hmessages, hagain rfl harn hrun .epoch, htopic,
    (hapart t s .epoch .epoch (by decide)).1 htopic⟩

end Bus

end MessageBus
