import MessageBus.Proofs.Provisioning.Attempted
import MessageBus.Proofs.Provisioning.Wired
/-!
Resolving the queue of a type whose addresses are not in the store. Names of topics and queues are 1
to 80 bytes of letters, digits, hyphens and underscores (`IsPlainName`, `isResourceName_iff`). On a
bus where nobody has set the ARN attribute of a queue, the queue is resolved exactly if the names of
the topic and of the error queue are such names; then it is fully wired, and otherwise no queue is
made (`Site.resolved_iff_named`).
-/

set_option autoImplicit false
set_option relaxedAutoImplicit false

namespace MessageBus

/-! ### Names -/

/-- 1 to 80 bytes of ASCII letters and digits, hyphens and underscores. -/
structure IsPlainName (name : String) : Prop where
  pos : 1 ≤ name.utf8ByteSize
  le : name.utf8ByteSize ≤ 80
  plain : ∀ c ∈ name.toList, c.isAlphanum ∨ c = '-' ∨ c = '_'

theorem isAlphanum_iff (c : Char) : c.isAlphanum ↔
    ('A' ≤ c ∧ c ≤ 'Z' ∨ 'a' ≤ c ∧ c ≤ 'z') ∨ '0' ≤ c ∧ c ≤ '9' := by
  have hranges : c.isAlphanum = ((decide ('A' ≤ c ∧ c ≤ 'Z') || (decide ('a' ≤ c) &&
    decide (c ≤ 'z'))) || (decide ('0' ≤ c) && decide (c ≤ '9'))) := rfl
  rw [hranges]
  simp only [Bool.or_eq_true, Bool.and_eq_true, decide_eq_true_eq]

theorem isNameChar_iff (c : Char) : isNameChar c ↔ c.isAlphanum ∨ c = '-' ∨ c = '_' := by
  rw [isAlphanum_iff]
  simp only [isNameChar, Bool.or_eq_true, Bool.and_eq_true, decide_eq_true_eq]
  tauto

theorem utf8Size_of_isNameChar {c : Char} (h : isNameChar c) : c.utf8Size = 1 := by
  rw [Char.utf8Size_eq_one_iff]
  obtain h | rfl | rfl := (isNameChar_iff c).mp h
  · rw [isAlphanum_iff] at h
    obtain (⟨-, h⟩ | ⟨-, h⟩) | ⟨-, h⟩ := h
    · exact UInt32.le_trans h (by decide)
    · exact UInt32.le_trans h (by decide)
    · exact UInt32.le_trans h (by decide)
  · decide
  · decide

/-- A character of a name takes one byte. -/
theorem utf8ByteSize_of_isNameChar {name : String} (h : ∀ c ∈ name.toList, isNameChar c) :
    name.utf8ByteSize = name.length := by
  induction name using String.push_induction with
  | empty => rfl
  | push name c ih =>
    rw [String.toList_push] at h
    have hname := ih fun c hc ↦ h c (List.mem_append_left _ hc)
    have hc := utf8Size_of_isNameChar (h c (List.mem_append_right _ (List.mem_singleton_self c)))
    rw [String.utf8ByteSize_push, String.length_push, hname, hc]

theorem isResourceName_iff (name : String) : isResourceName name ↔ IsPlainName name := by
  have hsame (h : ∀ c ∈ name.toList, isNameChar c) := utf8ByteSize_of_isNameChar h
  have hempty : name ≠ "" ↔ 1 ≤ name.length := by
    rw [Nat.one_le_iff_ne_zero, Ne, Ne, String.length_eq_zero_iff]
  simp only [isResourceName, Bool.and_eq_true, decide_eq_true_eq, List.all_eq_true, hempty]
  constructor
  · rintro ⟨⟨hpos, hle⟩, hchars⟩
    exact ⟨hsame hchars ▸ hpos, hsame hchars ▸ hle, fun c hc ↦ (isNameChar_iff c).mp (hchars c hc)⟩
  · rintro ⟨hpos, hle, hplain⟩
    have hchars : ∀ c ∈ name.toList, isNameChar c := fun c hc ↦ (isNameChar_iff c).mpr (hplain c hc)
    rw [hsame hchars] at hpos hle
    exact ⟨⟨hpos, hle⟩, hchars⟩

/-- The name of a queue is a name if those of its topic and its error queue are. -/
theorem Naming.isResourceName_queueName {naming : Naming} {typeName : String}
    (htopic : isResourceName (naming.topicName typeName))
    (herror : isResourceName (naming.errorQueueName typeName)) :
    isResourceName (naming.queueName typeName) := by
  have hne : naming.queueName typeName ≠ "" := by
    obtain - | ⟨stage, service⟩ := naming
    · simp only [isResourceName, Bool.and_eq_true, decide_eq_true_eq] at htopic
      exact htopic.1.1
    · intro hempty
      have hlength := congrArg String.length hempty
      simp [queueName] at hlength
  simp only [isResourceName, Bool.and_eq_true, decide_eq_true_eq, List.all_eq_true, errorQueueName,
    String.length_append, String.toList_append, List.mem_append] at herror ⊢
  refine ⟨⟨hne, ?_⟩, fun c hc ↦ herror.2 c (.inl hc)⟩
  exact Nat.le_trans (Nat.le_add_right ..) herror.1.2

/-! ### Attempts -/

open Provisioning

/-- A queue whose error queue has a name that is none is not made, and neither is the error
queue. -/
theorem Provisioning.SubscriptionCourse.of_not_isResourceName {line : Line} {b b' : Broker}
    {past : List Performed} {w : Wiring} {outcome : Except Error String}
    (h : SubscriptionCourse w.topicArn w.queueName w.errorQueueName w.limit past outcome)
    (hplays : line.Plays b past b') (hname : ¬ isResourceName w.errorQueueName) : b' = b := by
  have hnever {first : List Performed} {errorQueue : String × String} {u : Broker} {P : Prop}
      (hfirst : QueueCourse w.errorQueueName first (.ok errorQueue))
      (hu : line.Plays b first u) : P := by
    obtain ⟨-, e, he⟩ := hfirst.of_not_isResourceName hu hname
    cases he
  cases h with
  | noErrorQueue hfirst => exact (hfirst.of_not_isResourceName hplays hname).1
  | noQueue hfirst | unset hfirst | unsubscribed hfirst | made hfirst =>
    obtain ⟨u, hu, -⟩ := hplays.of_append
    exact hnever hfirst hu

namespace Site

variable {r : Registry} {typeName : String} {s t : Site} {line : Line}

/-- Whether nothing about the queue of a type is in the store. -/
structure Cold (r : Registry) (typeName : String) (s : Site) : Prop where
  atRest : s.store.AtRest
  vacant : ∀ kind, s.store.get? (r.key typeName kind) = none

namespace Cold

theorem address_topic (h : s.Cold r typeName) :
    s.address r typeName .topic = s.broker.topicArnFor (r.naming.topicName typeName) := by
  rw [address, h.vacant, Option.getD_none]

theorem address_queue (h : s.Cold r typeName) :
    s.address r typeName .queue = s.broker.queueUrlFor (r.naming.queueName typeName) := by
  rw [address, h.vacant, Option.getD_none]

theorem withTopic_eq (h : s.Cold r typeName) (ids : String × String) :
    s.withTopic r typeName ids = s.broker.topicMade ids (r.naming.topicName typeName) := by
  rw [withTopic, h.vacant]

theorem completed_eq (h : s.Cold r typeName) (marks : Marks) :
    s.completed r typeName marks = (s.wiring r typeName).whole marks.queueIds marks.subscribed
      (s.broker.topicMade marks.topicIds (r.naming.topicName typeName)) := by
  rw [completed, h.vacant, h.withTopic_eq]

/-- Where queues report the ARNs of their names, two names decide whether the queue can be
resolved. -/
theorem feasible_iff (h : s.Cold r typeName) (hb : s.broker.IsNamed)
    (hlimit : r.settings.maxReceiveCount < halfWordBound) :
    s.Feasible r typeName ↔ isResourceName (r.naming.topicName typeName) ∧
      isResourceName (r.naming.errorQueueName typeName) := by
  constructor
  · intro hfeasible
    exact ⟨hfeasible.topicName (h.vacant _), (hfeasible.wiring (h.vacant _)).errorQueueName⟩
  · rintro ⟨htopic, herror⟩
    refine ⟨fun _ ↦ htopic, fun _ hcached ↦ absurd (h.vacant _) hcached, fun _ ↦ ?_⟩
    have hqueue := Naming.isResourceName_queueName htopic herror
    exact Wiring.feasible_of_isNamed hb herror hqueue hlimit

/-- Where the queue cannot be resolved, no queue is made or kept in the store. -/
theorem of_error (h : s.Cold r typeName) (hb : s.broker.IsNamed)
    (hlimit : r.settings.maxReceiveCount < halfWordBound) {e : Error}
    (hexecutes : s.Executes .sound r typeName .queue t (.error e)) :
    t.broker.queues = s.broker.queues ∧ t.store.get? (r.key typeName .queue) = none := by
  have hnever : ¬ s.Feasible r typeName := fun hfeasible ↦
    hfeasible.ne_error h.atRest hexecutes
  rw [h.feasible_iff hb hlimit] at hnever
  cases hexecutes.attempted h.atRest with
  | noTopic e hvacant hrest hstore hcourse hplays =>
    rw [(hcourse.of_sound_error hplays).2, hstore]
    exact ⟨rfl, h.vacant _⟩
  | noQueue e htopic hvacant hrest hstore hcourse hplays =>
    have herror : ¬ isResourceName (r.naming.errorQueueName typeName) := fun herror ↦
      hnever ⟨htopic.topicName (h.vacant _), herror⟩
    have hsame := SubscriptionCourse.of_not_isResourceName (w := s.wiring r typeName) hcourse hplays
      herror
    rw [hsame, htopic.queues_eq, hstore, htopic.get?, if_neg (r.key_topic_ne typeName)]
    exact ⟨rfl, h.vacant _⟩

/-- A queue that was resolved is wired, and nothing else was touched. -/
theorem of_ok (h : s.Cold r typeName) (hb : s.broker.IsNamed)
    (hlimit : r.settings.maxReceiveCount < halfWordBound) (honce : s.broker.SubscribesOnce)
    (haccount : accountOfArn (s.broker.topicArnFor (r.naming.topicName typeName)) =
      .ok s.broker.identity.accountId) {url : String}
    (hexecutes : s.Executes .sound r typeName .queue t (.ok url)) :
    t.broker.Wired (r.naming.resourceNames typeName) r.settings.maxReceiveCount ∧
      Broker.SameOutside (s.broker.topicArnFor (r.naming.topicName typeName))
        [s.broker.queueUrlFor (r.naming.queueName typeName),
          s.broker.queueUrlFor (r.naming.errorQueueName typeName)] s.broker t.broker := by
  have hfeasible := hexecutes.feasible_of_ok h.atRest
  obtain ⟨-, marks, hmarks⟩ := hexecutes.completed_of_ok h.atRest
  have hlast := hexecutes.subscribesOnce honce
  rw [hmarks, h.completed_eq] at hlast ⊢
  have hname := hfeasible.topicName (h.vacant _)
  have hmade := s.broker.extends_topicMade marks.topicIds (r.naming.topicName typeName)
  have hidentity := hmade.identity
  have htopicArn : (s.wiring r typeName).topicArn =
      s.broker.topicArnFor (r.naming.topicName typeName) := h.address_topic
  obtain ⟨policy, hpolicy, hresource, howner⟩ :=
    Broker.exists_topicPolicy_topicMade hname haccount marks.topicIds
  rw [← htopicArn] at hpolicy hresource
  constructor
  · refine Wiring.wired_whole (hmade.isNamed hb) ?_ hlimit ?_ ?_ hpolicy hresource ?_ hlast
    · exact (hfeasible.wiring (h.vacant _)).congr_queues hidentity (Broker.queues_topicMade ..)
    · rw [htopicArn, Broker.topicArnFor_congr hidentity]
    · rw [htopicArn]
      exact (Broker.extends_withTopicAccess ..).topics (Broker.contains_withTopic hname)
    · rw [howner, hidentity]
  · rw [← htopicArn]
    refine (htopicArn ▸ Broker.sameOutside_topicMade ..).trans
      (Wiring.sameOutside_whole _ _ _ ?_ ?_)
    · rw [Broker.queueUrlFor_congr hidentity]
      exact List.mem_cons_self
    · rw [Broker.queueUrlFor_congr hidentity]
      exact List.mem_cons_of_mem _ (List.mem_singleton_self _)

end Cold

/-- A queue that is not in the store is resolved exactly if the names of its topic and its error
queue are names, on every bus with colons in neither region nor account where nobody has set the ARN
attribute of a queue. Then it is fully wired and nothing else was touched; otherwise there is a
resolution error, and no queue is made or kept in the store. -/
theorem resolved_iff_named {identity : BrokerIdentity} (hregion : ':' ∉ identity.region.toList)
    (haccount : ':' ∉ identity.accountId.toList) {es : List Bus.Event} {bus : Bus}
    (hbus : Bus.Run (.start identity) es bus) (hes : ∀ e ∈ es, e.overwritesArn = false)
    {r : Registry} (hsettings : r.settings.violation? = none) (typeName : String) {store : Store}
    (hcold : Cold r typeName ⟨bus.broker, store⟩) :
    let s : Site := ⟨bus.broker, store⟩
    let names := r.naming.resourceNames typeName
    (∃ t outcome, s.Executes .sound r typeName .queue t outcome) ∧
    ∀ t outcome, s.Executes .sound r typeName .queue t outcome →
      ((∃ url, outcome = .ok url) ↔ IsPlainName names.topic ∧ IsPlainName names.errorQueue) ∧
      (∀ url, outcome = .ok url → url = bus.broker.queueUrlFor names.queue ∧
        t.broker.Wired names r.settings.maxReceiveCount ∧
        Broker.SameOutside (bus.broker.topicArnFor names.topic)
          [bus.broker.queueUrlFor names.queue, bus.broker.queueUrlFor names.errorQueue]
          bus.broker t.broker) ∧
      ∀ e, outcome = .error e → e.kind = .resolution ∧ t.broker.queues = bus.broker.queues ∧
        t.store.get? (r.key typeName .queue) = none := by
  intro s names
  have hb : s.broker.IsNamed := hbus.isNamed hes
  have honce : s.broker.SubscribesOnce := Bus.Reachable.subscribesOnce ⟨identity, es, hbus⟩
  have hidentity : bus.broker.identity = identity := hbus.keeps.identity
  subst hidentity
  have hlimit : r.settings.maxReceiveCount < halfWordBound := by
    unfold RegistrySettings.violation? at hsettings
    split at hsettings
    · next hrange => exact Nat.lt_of_le_of_lt hrange.2 (by decide)
    · cases hsettings
  have hfeasible := hcold.feasible_iff hb hlimit
  rw [isResourceName_iff, isResourceName_iff] at hfeasible
  refine ⟨exists_executes .sound r typeName .queue hcold.atRest, fun t outcome hexecutes ↦ ?_⟩
  refine ⟨⟨?_, fun hnames ↦ ?_⟩, ?_, ?_⟩
  · rintro ⟨url, rfl⟩
    exact hfeasible.mp (hexecutes.feasible_of_ok hcold.atRest)
  · cases outcome with
    | ok url => exact ⟨url, rfl⟩
    | error e => exact absurd hexecutes ((hfeasible.mpr hnames).ne_error hcold.atRest)
  · rintro url rfl
    have hurl := (hexecutes.completed_of_ok hcold.atRest).1
    rw [hcold.address_queue] at hurl
    exact ⟨hurl, hcold.of_ok hb hlimit honce
      (Broker.accountOfArn_topicArnFor hregion haccount _) hexecutes⟩
  · rintro e rfl
    obtain ⟨past, hleads, -⟩ := id hexecutes
    exact ⟨(Registry.resolves_of_leads hleads).kind_eq, hcold.of_error hb hlimit hexecutes⟩

/-- On a bus where someone has made the error queue, the queue of one type is resolved, and the one
of a type whose name is none is not. -/
theorem resolved_iff_named_sample :
    let bus := ((Bus.start {}).answer .epoch (.createQueue "orders_error")).2
    let s : Site := ⟨bus.broker, {}⟩
    let r : Registry := ⟨.plain, {}, .own 0⟩
    (∃ t url, s.Executes .sound r "orders" .queue t (.ok url) ∧
      t.broker.Wired (r.naming.resourceNames "orders") 5) ∧
    ∃ t e, s.Executes .sound r "orders!" .queue t (.error e) ∧ e.kind = .resolution ∧
      t.broker.queues = bus.broker.queues := by
  intro bus s r
  have hbus : Bus.Run (.start {}) _ bus := (Bus.RunWithin.refl trivial).step
    (.call (.start {}) .epoch (.createQueue "orders_error")) trivial
  have hcold (typeName : String) : Cold r typeName s := ⟨fun _ ↦ rfl, fun _ ↦ rfl⟩
  have hes : Bus.Event.overwritesArn (.call (.createQueue "orders_error")
      ((Bus.start {}).answer .epoch (.createQueue "orders_error")).1) = false := by
    decide +kernel
  have hresolved (typeName : String) := resolved_iff_named (by decide) (by decide) hbus
    (List.forall_mem_singleton.mpr hes) rfl typeName (hcold typeName)
  constructor
  · obtain ⟨⟨t, outcome, hexecutes⟩, hall⟩ := hresolved "orders"
    obtain ⟨hiff, hok, -⟩ := hall t outcome hexecutes
    obtain ⟨url, rfl⟩ := hiff.mpr ⟨(isResourceName_iff _).mp (by decide +kernel),
      (isResourceName_iff _).mp (by decide +kernel)⟩
    exact ⟨t, url, hexecutes, (hok url rfl).2.1⟩
  · obtain ⟨⟨t, outcome, hexecutes⟩, hall⟩ := hresolved "orders!"
    obtain ⟨hiff, -, herror⟩ := hall t outcome hexecutes
    cases outcome with
    | ok url =>
      have hname := (isResourceName_iff _).mpr (hiff.mp ⟨url, rfl⟩).1
      exact absurd hname (by decide +kernel)
    | error e =>
      obtain ⟨hkind, hqueues, -⟩ := herror e rfl
      exact ⟨t, e, hexecutes, hkind, hqueues⟩

end Site

end MessageBus
