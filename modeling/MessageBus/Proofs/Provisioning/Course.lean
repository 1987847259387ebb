import MessageBus.Proofs.Program
import MessageBus.Registry.Basic
/-!
The courses of provisioning. To make a topic, a queue or a subscription is to take steps in a fixed
order until one of them fails: `TopicCourse`, `QueueCourse` and `SubscriptionCourse` are the traces
that this can have, each with its outcome. A call that resolves a name finds an address in the
store, waits for the one who makes it, or makes it (`Obtains`); to resolve a queue it resolves the
topic first (`Registry.Resolves`). Every call that has come to its end has such a trace
(`Registry.resolves_of_leads`), every such trace can be (`Registry.Resolves.leads`), and its broker
calls keep to the plan for the addresses that the call had to make (`Registry.Resolves.keepsTo`).
-/

set_option autoImplicit false
set_option relaxedAutoImplicit false

namespace MessageBus

namespace Attempt

variable {α β : Type} {past : List Performed}

/-- An attempt of two parts fails in the first, or it succeeds there and has the outcome of the
second. -/
theorem andThen_of_leads {first : Attempt α} {f : α → Attempt β} {outcome : Except Error β}
    (h : (first >>= f).run.Leads past (.done outcome)) :
    (∃ e, first.run.Leads past (.done (.error e)) ∧ outcome = .error e) ∨
      ∃ a before after, past = before ++ after ∧ first.run.Leads before (.done (.ok a)) ∧
        (f a).run.Leads after (.done outcome) := by
  change (first.run.bind (ExceptT.bindCont f)).Leads past (.done outcome) at h
  obtain ⟨r, before, after, rfl, hbefore, hafter⟩ := h.of_bind
  cases r with
  | ok a => exact .inr ⟨a, before, after, rfl, hbefore, hafter⟩
  | error e =>
    obtain ⟨rfl, houtcome⟩ := hafter.of_done
    rw [List.append_nil]
    exact .inl ⟨e, hbefore, Program.done.inj houtcome⟩

theorem mapError_of_leads {f : Error → Error} {a : Attempt α} {outcome : Except Error α}
    (h : (a.mapError f).run.Leads past (.done outcome)) :
    ∃ r, a.run.Leads past (.done r) ∧ outcome = r.mapError f := by
  obtain ⟨r, before, after, rfl, hbefore, hafter⟩ := h.of_bind
  obtain ⟨rfl, houtcome⟩ := hafter.of_done
  rw [List.append_nil]
  exact ⟨r, hbefore, Program.done.inj houtcome⟩

theorem leads_andThen {first : Attempt α} {f : α → Attempt β} {a : α} {rest : List Performed}
    {outcome : Except Error β} (h : first.run.Leads past (.done (.ok a)))
    (hrest : (f a).run.Leads rest (.done outcome)) :
    (first >>= f).run.Leads (past ++ rest) (.done outcome) :=
  h.bind hrest

theorem leads_andThen_of_error {first : Attempt α} {f : α → Attempt β} {e : Error}
    (h : first.run.Leads past (.done (.error e))) :
    (first >>= f).run.Leads past (.done (.error e)) := by
  rw [← List.append_nil past]
  exact h.bind (.refl _)

theorem leads_mapError {f : Error → Error} {a : Attempt α} {r : Except Error α}
    (h : a.run.Leads past (.done r)) : (a.mapError f).run.Leads past (.done (r.mapError f)) := by
  rw [← List.append_nil past]
  exact h.bind (.refl _)

end Attempt

namespace Provisioning

/-- The traces of making a topic. -/
inductive TopicCourse (name : String) : List Performed → Except Error String → Prop
  | refused (e : Error) : TopicCourse name [⟨.call (.createTopic name), .error e⟩] (.error e)
  /-- The ARN has no account field. -/
  | unowned {arn id sid : String} {e : Error} (h : Policy.topicAccess id sid arn = .error e) :
    TopicCourse name [⟨.call (.createTopic name), .ok arn⟩, ⟨.policyIds, (id, sid)⟩] (.error e)
  | unset {arn id sid policy : String} (h : Policy.topicAccess id sid arn = .ok policy)
    (e : Error) :
    TopicCourse name [⟨.call (.createTopic name), .ok arn⟩, ⟨.policyIds, (id, sid)⟩,
      ⟨.call (.setTopicAttributes arn Broker.policyAttribute policy), .error e⟩] (.error e)
  | made {arn id sid policy : String} (h : Policy.topicAccess id sid arn = .ok policy) :
    TopicCourse name [⟨.call (.createTopic name), .ok arn⟩, ⟨.policyIds, (id, sid)⟩,
      ⟨.call (.setTopicAttributes arn Broker.policyAttribute policy), .ok ()⟩,
      ⟨.count (.provisioned .topic), ()⟩] (.ok arn)

/-- The traces of making sure of a queue. -/
inductive QueueCourse (name : String) : List Performed → Except Error (String × String) → Prop
  | refused (e : Error) : QueueCourse name [⟨.call (.createQueue name), .error e⟩] (.error e)
  | unread (url : String) (e : Error) :
    QueueCourse name [⟨.call (.createQueue name), .ok url⟩,
      ⟨.call (.getQueueAttributes url [Broker.queueArnAttribute]), .error e⟩] (.error e)
  | nameless (url : String) {attributes : Table String String}
    (h : attributes.find? Broker.queueArnAttribute = none) :
    QueueCourse name [⟨.call (.createQueue name), .ok url⟩,
      ⟨.call (.getQueueAttributes url [Broker.queueArnAttribute]), .ok attributes⟩]
      (.error (noQueueArn url))
  | made (url : String) {arn : String} {attributes : Table String String}
    (h : attributes.find? Broker.queueArnAttribute = some arn) :
    QueueCourse name [⟨.call (.createQueue name), .ok url⟩,
      ⟨.call (.getQueueAttributes url [Broker.queueArnAttribute]), .ok attributes⟩,
      ⟨.count (.provisioned .queue), ()⟩] (.ok (url, arn))

/-- The attributes that a queue is given. -/
def queueAttributes (ids : String × String) (topicArn arn errorQueueArn : String) (limit : Nat) :
    Table String String :=
  .ofList [
    (Broker.policyAttribute, Policy.queueAccess ids.1 ids.2 topicArn arn),
    (Broker.redriveAttribute, Redrive.text ⟨errorQueueArn, limit⟩)]

/-- The traces of making a queue with its error queue and its subscription. -/
inductive SubscriptionCourse (topicArn queueName errorQueueName : String) (limit : Nat) :
    List Performed → Except Error String → Prop
  | noErrorQueue {first : List Performed} {e : Error}
    (hfirst : QueueCourse errorQueueName first (.error e)) :
    SubscriptionCourse topicArn queueName errorQueueName limit first (.error e)
  | noQueue {first second : List Performed} {errorQueue : String × String} {e : Error}
    (hfirst : QueueCourse errorQueueName first (.ok errorQueue))
    (hsecond : QueueCourse queueName second (.error e)) :
    SubscriptionCourse topicArn queueName errorQueueName limit (first ++ second) (.error e)
  | unset {first second : List Performed} {errorQueue queue : String × String}
    (hfirst : QueueCourse errorQueueName first (.ok errorQueue))
    (hsecond : QueueCourse queueName second (.ok queue)) (ids : String × String) (e : Error) :
    SubscriptionCourse topicArn queueName errorQueueName limit
      (first ++ (second ++ [⟨.policyIds, ids⟩,
        ⟨.call (.setQueueAttributes queue.1
          (queueAttributes ids topicArn queue.2 errorQueue.2 limit)), .error e⟩])) (.error e)
  | unsubscribed {first second : List Performed} {errorQueue queue : String × String}
    (hfirst : QueueCourse errorQueueName first (.ok errorQueue))
    (hsecond : QueueCourse queueName second (.ok queue)) (ids : String × String) (e : Error) :
    SubscriptionCourse topicArn queueName errorQueueName limit
      (first ++ (second ++ [⟨.policyIds, ids⟩,
        ⟨.call (.setQueueAttributes queue.1
          (queueAttributes ids topicArn queue.2 errorQueue.2 limit)), .ok ()⟩,
        ⟨.call (.subscribe topicArn Broker.protocol queue.2), .error e⟩])) (.error e)
  | made {first second : List Performed} {errorQueue queue : String × String}
    (hfirst : QueueCourse errorQueueName first (.ok errorQueue))
    (hsecond : QueueCourse queueName second (.ok queue)) (ids : String × String)
    (subscriptionArn : String) :
    SubscriptionCourse topicArn queueName errorQueueName limit
      (first ++ (second ++ [⟨.policyIds, ids⟩,
        ⟨.call (.setQueueAttributes queue.1
          (queueAttributes ids topicArn queue.2 errorQueue.2 limit)), .ok ()⟩,
        ⟨.call (.subscribe topicArn Broker.protocol queue.2), .ok subscriptionArn⟩,
        ⟨.count (.provisioned .subscription), ()⟩])) (.ok queue.1)

variable {past : List Performed} {outcome : Except Error String}

open Program.Leads in
theorem topicCourse_of_leads {name : String}
    (h : (ensureTopic name).run.Leads past (.done outcome)) : TopicCourse name past outcome := by
  obtain ⟨created, rest, rfl, hids⟩ := perform_of_done h
  cases created with
  | error e =>
    obtain ⟨rfl, hdone⟩ := of_done hids
    cases hdone
    exact .refused e
  | ok arn =>
    obtain ⟨⟨id, sid⟩, rest, rfl, hchecked⟩ := perform_of_done hids
    simp only [Program.bind, ExceptT.bindCont, Function.comp] at hchecked
    obtain ⟨e, hpolicy, rfl⟩ | ⟨policy, before, rest, rfl, hpolicy, hset⟩ :=
      Attempt.andThen_of_leads hchecked
    · obtain ⟨rfl, hdone⟩ := of_done hpolicy
      exact .unowned (Program.done.inj hdone).symm
    · obtain ⟨rfl, hdone⟩ := of_done hpolicy
      have haccess := (Program.done.inj hdone).symm
      obtain ⟨set, rest, rfl, hcount⟩ := perform_of_done hset
      cases set with
      | error e =>
        obtain ⟨rfl, hdone⟩ := of_done hcount
        cases hdone
        exact .unset haccess e
      | ok done =>
        obtain ⟨⟨⟩, rest, rfl, hreturn⟩ := perform_of_done hcount
        obtain ⟨rfl, hdone⟩ := of_done hreturn
        cases hdone
        exact .made haccess

open Program.Leads in
theorem queueCourse_of_leads {name : String} {outcome : Except Error (String × String)}
    (h : (ensureQueue name).run.Leads past (.done outcome)) : QueueCourse name past outcome := by
  obtain ⟨created, rest, rfl, hread⟩ := perform_of_done h
  cases created with
  | error e =>
    obtain ⟨rfl, hdone⟩ := of_done hread
    cases hdone
    exact .refused e
  | ok url =>
    obtain ⟨read, rest, rfl, harn⟩ := perform_of_done hread
    cases read with
    | error e =>
      obtain ⟨rfl, hdone⟩ := of_done harn
      cases hdone
      exact .unread url e
    | ok attributes =>
      simp only [Program.bind, ExceptT.bindCont] at harn
      cases hfound : attributes.find? Broker.queueArnAttribute with
      | none =>
        simp only [hfound] at harn
        obtain ⟨rfl, hdone⟩ := of_done harn
        cases hdone
        exact .nameless url hfound
      | some arn =>
        simp only [hfound] at harn
        obtain ⟨⟨⟩, rest, rfl, hreturn⟩ := perform_of_done harn
        obtain ⟨rfl, hdone⟩ := of_done hreturn
        cases hdone
        exact .made url hfound

theorem subscriptionCourse_of_leads {topicArn queueName errorQueueName : String} {limit : Nat}
    (h : (ensureSubscription topicArn queueName errorQueueName limit).run.Leads past
      (.done outcome)) :
    SubscriptionCourse topicArn queueName errorQueueName limit past outcome := by
  obtain ⟨e, hfirst, rfl⟩ | ⟨errorQueue, first, rest, rfl, hfirst, hrest⟩ :=
    Attempt.andThen_of_leads h
  · exact .noErrorQueue (queueCourse_of_leads hfirst)
  have hfirst := queueCourse_of_leads hfirst
  obtain ⟨e, hsecond, rfl⟩ | ⟨queue, second, rest, rfl, hsecond, hrest⟩ :=
    Attempt.andThen_of_leads hrest
  · exact .noQueue hfirst (queueCourse_of_leads hsecond)
  have hsecond := queueCourse_of_leads hsecond
  obtain ⟨ids, rest, rfl, hset⟩ := Program.Leads.perform_of_done hrest
  obtain ⟨set, rest, rfl, hsubscribe⟩ := Program.Leads.perform_of_done hset
  cases set with
  | error e =>
    obtain ⟨rfl, hdone⟩ := hsubscribe.of_done
    cases hdone
    exact .unset hfirst hsecond ids e
  | ok done =>
    obtain ⟨subscribed, rest, rfl, hcount⟩ := Program.Leads.perform_of_done hsubscribe
    cases subscribed with
    | error e =>
      obtain ⟨rfl, hdone⟩ := hcount.of_done
      cases hdone
      exact .unsubscribed hfirst hsecond ids e
    | ok subscriptionArn =>
      obtain ⟨⟨⟩, rest, rfl, hreturn⟩ := Program.Leads.perform_of_done hcount
      obtain ⟨rfl, hdone⟩ := hreturn.of_done
      cases hdone
      exact .made hfirst hsecond ids subscriptionArn

theorem TopicCourse.leads {name : String} (h : TopicCourse name past outcome) :
    (ensureTopic name).run.Leads past (.done outcome) := by
  have haccess {arn id sid : String} {r : Except Error String}
      (h : Policy.topicAccess id sid arn = r) :
      (Attempt.ofResult (Policy.topicAccess id sid arn)).run.Leads [] (.done r) := by
    rw [h]
    exact .refl _
  cases h with
  | refused e => exact .step (.refl _)
  | unowned h => exact .step (.step (Attempt.leads_andThen_of_error (haccess h)))
  | unset h e =>
    exact .step (.step (Attempt.leads_andThen (haccess h) (.step (.refl _))))
  | made h =>
    exact .step (.step (Attempt.leads_andThen (haccess h) (.step (.step (.refl _)))))

theorem QueueCourse.leads {name : String} {outcome : Except Error (String × String)}
    (h : QueueCourse name past outcome) : (ensureQueue name).run.Leads past (.done outcome) := by
  cases h with
  | refused e => exact .step (.refl _)
  | unread url e => exact .step (.step (.refl _))
  | nameless url h =>
    refine .step (.step ?_)
    simp only [Program.bind, ExceptT.bindCont, h]
    exact .refl _
  | made url h =>
    refine .step (.step ?_)
    simp only [Program.bind, ExceptT.bindCont, h]
    exact .step (.refl _)

theorem SubscriptionCourse.leads {topicArn queueName errorQueueName : String} {limit : Nat}
    (h : SubscriptionCourse topicArn queueName errorQueueName limit past outcome) :
    (ensureSubscription topicArn queueName errorQueueName limit).run.Leads past
      (.done outcome) := by
  cases h with
  | noErrorQueue hfirst => exact Attempt.leads_andThen_of_error hfirst.leads
  | noQueue hfirst hsecond =>
    exact Attempt.leads_andThen hfirst.leads (Attempt.leads_andThen_of_error hsecond.leads)
  | unset hfirst hsecond ids e =>
    refine Attempt.leads_andThen hfirst.leads (Attempt.leads_andThen hsecond.leads ?_)
    exact .step (.step (.refl _))
  | unsubscribed hfirst hsecond ids e =>
    refine Attempt.leads_andThen hfirst.leads (Attempt.leads_andThen hsecond.leads ?_)
    exact .step (.step (.step (.refl _)))
  | made hfirst hsecond ids subscriptionArn =>
    refine Attempt.leads_andThen hfirst.leads (Attempt.leads_andThen hsecond.leads ?_)
    exact .step (.step (.step (.step (.refl _))))

/-- The operations that calls were made for, each with whether the call succeeded. -/
def tried (past : List Performed) : List (String × Bool) :=
  past.filterMap fun
    | ⟨.call c, reply⟩ => some (c.operation, reply.isOk)
    | _ => none

@[simp]
theorem tried_append (past more : List Performed) :
    tried (past ++ more) = tried past ++ tried more :=
  List.filterMap_append ..

/-- What it takes to make a topic, and what it takes to make a queue. -/
def plan : ResourceKind → List String
  | .topic => ["CreateTopic", "SetTopicAttributes"]
  | .queue => ["CreateQueue", "GetQueueAttributes", "CreateQueue", "GetQueueAttributes",
    "SetQueueAttributes", "Subscribe"]

/-- Calls that keep to a plan: all of it has been done, or it was cut before a step or at a step
that failed. -/
inductive KeepsTo (plan : List String) (past : List Performed) : Bool → Prop
  | whole (h : tried past = plan.map (·, true)) : KeepsTo plan past true
  | cut (done : List String) {rest : List String} (hplan : plan = done ++ rest)
    (hrest : rest ≠ []) (h : tried past = done.map (·, true)) : KeepsTo plan past false
  | failed (done : List String) {rest : List String} {operation : String}
    (hplan : plan = done ++ operation :: rest)
    (h : tried past = done.map (·, true) ++ [(operation, false)]) : KeepsTo plan past false

namespace KeepsTo

variable {first second : List String} {before after : List Performed} {whole : Bool}

theorem whole_iff {plan : List String} (h : KeepsTo plan past whole) :
    whole ↔ tried past = plan.map (·, true) := by
  cases h with
  | whole h => exact iff_of_true rfl h
  | cut done hplan hrest h =>
    refine iff_of_false nofun fun hwhole ↦ ?_
    rw [h, hplan, List.map_append, eq_comm, List.append_right_eq_self] at hwhole
    exact hrest (List.map_eq_nil_iff.mp hwhole)
  | failed done hplan h =>
    refine iff_of_false nofun fun hwhole ↦ ?_
    have hmem : (_, false) ∈ plan.map (·, true) :=
      hwhole ▸ h ▸ List.mem_append_right _ (List.mem_singleton_self _)
    simp at hmem

theorem congr {plan : List String} (h : KeepsTo plan before whole)
    (htried : tried after = tried before) : KeepsTo plan after whole := by
  cases h with
  | whole h => exact .whole (htried.trans h)
  | cut done hplan hrest h => exact .cut done hplan hrest (htried.trans h)
  | failed done hplan h => exact .failed done hplan (htried.trans h)

/-- Who has done all of a plan can go on with another one. -/
theorem append (h : KeepsTo first before true) (hafter : KeepsTo second after whole) :
    KeepsTo (first ++ second) (before ++ after) whole := by
  have hbefore := h.whole_iff.mp rfl
  cases hafter with
  | whole h => exact .whole (by rw [tried_append, hbefore, h, List.map_append])
  | cut done hplan hrest h =>
    exact .cut (first ++ done) (hplan ▸ (List.append_assoc ..).symm) hrest
      (by rw [tried_append, hbefore, h, List.map_append])
  | failed done hplan h =>
    exact .failed (first ++ done) (hplan ▸ (List.append_assoc ..).symm)
      (by rw [tried_append, hbefore, h, List.map_append, List.append_assoc])

end KeepsTo

theorem TopicCourse.keepsTo {name : String} (h : TopicCourse name past outcome) :
    KeepsTo (plan .topic) past outcome.isOk := by
  cases h with
  | refused e => exact .failed [] rfl rfl
  | unowned h => exact .cut ["CreateTopic"] rfl nofun rfl
  | unset h e => exact .failed ["CreateTopic"] rfl rfl
  | made h => exact .whole rfl

theorem QueueCourse.keepsTo_of_ok {name : String} {queue : String × String}
    (h : QueueCourse name past (.ok queue)) :
    KeepsTo ["CreateQueue", "GetQueueAttributes"] past true := by
  cases h with
  | made url h => exact .whole rfl

/-- A queue without an ARN fails after its last step, so the plan has to go on for it to be cut. -/
theorem QueueCourse.keepsTo_of_error {name : String} {e : Error}
    (h : QueueCourse name past (.error e)) {rest : List String} (hrest : rest ≠ []) :
    KeepsTo (["CreateQueue", "GetQueueAttributes"] ++ rest) past false := by
  cases h with
  | refused e => exact .failed [] rfl rfl
  | unread url e => exact .failed ["CreateQueue"] rfl rfl
  | nameless url h => exact .cut _ rfl hrest rfl

theorem SubscriptionCourse.keepsTo {topicArn queueName errorQueueName : String} {limit : Nat}
    (h : SubscriptionCourse topicArn queueName errorQueueName limit past outcome) :
    KeepsTo (plan .queue) past outcome.isOk := by
  cases h with
  | noErrorQueue hfirst => exact hfirst.keepsTo_of_error nofun
  | noQueue hfirst hsecond =>
    exact hfirst.keepsTo_of_ok.append (hsecond.keepsTo_of_error nofun)
  | unset hfirst hsecond ids e =>
    exact hfirst.keepsTo_of_ok.append (hsecond.keepsTo_of_ok.append (.failed [] rfl rfl))
  | unsubscribed hfirst hsecond ids e =>
    exact hfirst.keepsTo_of_ok.append
      (hsecond.keepsTo_of_ok.append (.failed ["SetQueueAttributes"] rfl rfl))
  | made hfirst hsecond ids subscriptionArn =>
    exact hfirst.keepsTo_of_ok.append (hsecond.keepsTo_of_ok.append (.whole rfl))

/-- The steps that have to be taken for the addresses that were not there. -/
def planned (past : List Performed) : List String :=
  past.flatMap fun
    | ⟨.lookup _ key, .vacant _⟩ => plan key.kind
    | _ => []

@[simp]
theorem planned_append (past more : List Performed) :
    planned (past ++ more) = planned past ++ planned more :=
  List.flatMap_append

theorem TopicCourse.planned_eq {name : String} (h : TopicCourse name past outcome) :
    planned past = [] := by
  cases h <;> rfl

theorem QueueCourse.planned_eq {name : String} {outcome : Except Error (String × String)}
    (h : QueueCourse name past outcome) : planned past = [] := by
  cases h <;> rfl

theorem SubscriptionCourse.planned_eq {topicArn queueName errorQueueName : String} {limit : Nat}
    (h : SubscriptionCourse topicArn queueName errorQueueName limit past outcome) :
    planned past = [] := by
  cases h with
  | noErrorQueue hfirst => exact hfirst.planned_eq
  | noQueue hfirst hsecond => simp [hfirst.planned_eq, hsecond.planned_eq]
  | unset hfirst hsecond | unsubscribed hfirst hsecond | made hfirst hsecond =>
    simp only [planned_append, hfirst.planned_eq, hsecond.planned_eq]
    rfl

end Provisioning

/-- How a call comes to the address under a key: it finds it, it waits for who makes it, or it makes
it on one of the courses of its initialization. -/
inductive Obtains (store : StoreName) (key : ResourceKey)
    (Init : List Performed → Except Error String → Prop) :
    List Performed → Except Error String → Prop
  | found (address : String) :
    Obtains store key Init [⟨.lookup store key, .found address⟩] (.ok address)
  | shared (ticket : Nat) (outcome : Except Error String) :
    Obtains store key Init [⟨.lookup store key, .busy ticket⟩, ⟨.await store ticket, outcome⟩]
      outcome
  | made (ticket : Nat) {during : List Performed} {outcome : Except Error String}
    (h : Init during outcome) :
    Obtains store key Init
      (⟨.lookup store key, .vacant ticket⟩ ::
        (during ++ [⟨.settle store key ticket outcome, ()⟩])) outcome

theorem obtains_of_leads {store : StoreName} {key : ResourceKey} {init : Attempt String}
    {Init : List Performed → Except Error String → Prop}
    (hinit : ∀ {during outcome}, init.run.Leads during (.done outcome) → Init during outcome)
    {past : List Performed} {outcome : Except Error String}
    (h : (Attempt.getOrSet store key init).run.Leads past (.done outcome)) :
    Obtains store key Init past outcome := by
  obtain ⟨looked, rest, rfl, hrest⟩ := Program.Leads.perform_of_done h
  cases looked with
  | found address =>
    obtain ⟨rfl, hdone⟩ := Program.Leads.of_done hrest
    cases hdone
    exact .found address
  | busy ticket =>
    obtain ⟨awaited, rest, rfl, hreturn⟩ := Program.Leads.perform_of_done hrest
    obtain ⟨rfl, hdone⟩ := Program.Leads.of_done hreturn
    cases hdone
    exact .shared ticket outcome
  | vacant ticket =>
    simp only [Program.bind] at hrest
    obtain ⟨made, during, rest, rfl, hduring, hsettle⟩ := Program.Leads.of_bind hrest
    obtain ⟨⟨⟩, rest, rfl, hreturn⟩ := Program.Leads.perform_of_done hsettle
    obtain ⟨rfl, hdone⟩ := Program.Leads.of_done hreturn
    cases hdone
    exact .made ticket (hinit hduring)

theorem Obtains.leads {store : StoreName} {key : ResourceKey} {init : Attempt String}
    {Init : List Performed → Except Error String → Prop}
    (hinit : ∀ {during outcome}, Init during outcome → init.run.Leads during (.done outcome))
    {past : List Performed} {outcome : Except Error String}
    (h : Obtains store key Init past outcome) :
    (Attempt.getOrSet store key init).run.Leads past (.done outcome) := by
  cases h with
  | found address => exact .step (.refl _)
  | shared ticket outcome => exact .step (.step (.refl _))
  | made ticket h => exact .step ((hinit h).bind (.step (.refl _)))

/-- Who finds an address when looking it up has obtained it. -/
theorem Obtains.eq_ok {store : StoreName} {key : ResourceKey}
    {Init : List Performed → Except Error String → Prop} {past : List Performed}
    {outcome : Except Error String} (h : Obtains store key Init past outcome) {address : String}
    (hfound : ∀ r, ⟨.lookup store key, r⟩ ∈ past → r = .found address) :
    outcome = .ok address := by
  cases h with
  | found other =>
    cases hfound _ List.mem_cons_self
    rfl
  | shared | made => cases hfound _ List.mem_cons_self

open Provisioning in
/-- The calls of who comes to an address keep to the plan for it; where they succeed, they have done
all of the plan. -/
theorem Obtains.keepsTo {store : StoreName} {key : ResourceKey}
    {Init : List Performed → Except Error String → Prop} {past : List Performed}
    {outcome : Except Error String}
    (hinit : ∀ {during outcome}, Init during outcome →
      KeepsTo (plan key.kind) during outcome.isOk ∧ planned during = [])
    (h : Obtains store key Init past outcome) :
    ∃ whole, KeepsTo (planned past) past whole ∧ (outcome.isOk → whole) := by
  cases h with
  | found | shared => exact ⟨true, .whole rfl, fun _ ↦ rfl⟩
  | @made ticket during _ h =>
    obtain ⟨hkeeps, hplanned⟩ := hinit h
    refine ⟨_, ?_, id⟩
    have hplan : planned (⟨.lookup store key, .vacant ticket⟩ ::
        (during ++ [⟨.settle store key ticket outcome, ()⟩])) = plan key.kind := by
      change plan key.kind ++ planned (during ++ _) = _
      rw [planned_append, hplanned]
      exact List.append_nil _
    rw [hplan]
    exact hkeeps.congr ((tried_append during _).trans (List.append_nil _))

namespace Registry

open Provisioning

/-- The key under which a registry keeps the address of a type's topic or queue. -/
def key (r : Registry) (typeName : String) : ResourceKind → ResourceKey
  | .topic => ⟨.topic, r.naming.topicName typeName⟩
  | .queue => ⟨.queue, r.naming.queueName typeName⟩

/-- The call that resolves a type's topic or queue. -/
def resolve (r : Registry) (typeName : String) : ResourceKind → Attempt String
  | .topic => r.resolveTopic typeName
  | .queue => r.resolveQueue typeName

/-- The traces of making the queue of a type, whose topic has the given ARN. -/
def QueueMade (r : Registry) (typeName topicArn : String) :
    List Performed → Except Error String → Prop :=
  SubscriptionCourse topicArn (r.naming.queueName typeName) (r.naming.errorQueueName typeName)
    r.settings.maxReceiveCount

/-- The traces of resolving a type's topic or queue. -/
inductive Resolves (r : Registry) (typeName : String) :
    ResourceKind → List Performed → Except Error String → Prop
  | topic {past : List Performed} {outcome : Except Error String}
    (h : Obtains r.store (r.key typeName .topic) (TopicCourse (r.naming.topicName typeName)) past
      outcome) :
    Resolves r typeName .topic past
      (outcome.mapError (Error.asResolution "topic" (r.naming.topicName typeName)))
  | noTopic {past : List Performed} {e : Error} (h : Resolves r typeName .topic past (.error e)) :
    Resolves r typeName .queue past (.error e)
  | queue {before after : List Performed} {topicArn : String} {outcome : Except Error String}
    (htopic : Resolves r typeName .topic before (.ok topicArn))
    (h : Obtains r.store (r.key typeName .queue) (r.QueueMade typeName topicArn) after outcome) :
    Resolves r typeName .queue (before ++ after)
      (outcome.mapError (Error.asResolution "queue" (r.naming.queueName typeName)))

variable {r : Registry} {typeName : String} {kind : ResourceKind} {past : List Performed}
  {outcome : Except Error String}

theorem resolves_of_leads (h : (r.resolve typeName kind).run.Leads past (.done outcome)) :
    r.Resolves typeName kind past outcome := by
  have htopic {past : List Performed} {outcome : Except Error String}
      (h : (r.resolveTopic typeName).run.Leads past (.done outcome)) :
      r.Resolves typeName .topic past outcome := by
    obtain ⟨made, hmade, rfl⟩ := Attempt.mapError_of_leads h
    exact .topic (obtains_of_leads topicCourse_of_leads hmade)
  cases kind with
  | topic => exact htopic h
  | queue =>
    obtain ⟨e, hfailed, rfl⟩ | ⟨topicArn, before, after, rfl, hbefore, hafter⟩ :=
      Attempt.andThen_of_leads h
    · exact .noTopic (htopic hfailed)
    · obtain ⟨made, hmade, rfl⟩ := Attempt.mapError_of_leads hafter
      exact .queue (htopic hbefore) (obtains_of_leads subscriptionCourse_of_leads hmade)

/-- Every course of a resolution can be taken. -/
theorem Resolves.leads (h : r.Resolves typeName kind past outcome) :
    (r.resolve typeName kind).run.Leads past (.done outcome) := by
  induction h with
  | topic h => exact Attempt.leads_mapError (h.leads TopicCourse.leads)
  | noTopic h ih => exact Attempt.leads_andThen_of_error ih
  | queue htopic h ih =>
    exact Attempt.leads_andThen ih (Attempt.leads_mapError (h.leads SubscriptionCourse.leads))

theorem Resolves.keepsTo (h : r.Resolves typeName kind past outcome) :
    ∃ whole, KeepsTo (planned past) past whole ∧ (outcome.isOk → whole) := by
  have isOk_mapError {outcome : Except Error String} {f : Error → Error}
      (h : (outcome.mapError f).isOk) : outcome.isOk := by
    cases outcome <;> exact h
  induction h with
  | topic h =>
    obtain ⟨whole, hkeeps, hwhole⟩ := h.keepsTo fun hmade ↦ ⟨hmade.keepsTo, hmade.planned_eq⟩
    exact ⟨whole, hkeeps, fun hok ↦ hwhole (isOk_mapError hok)⟩
  | noTopic h ih => exact ih
  | queue htopic h ih =>
    obtain ⟨first, hfirst, htrue⟩ := ih
    obtain rfl : first = true := htrue rfl
    obtain ⟨whole, hkeeps, hwhole⟩ := h.keepsTo fun hmade ↦ ⟨hmade.keepsTo, hmade.planned_eq⟩
    rw [planned_append]
    exact ⟨whole, hfirst.append hkeeps, fun hok ↦ hwhole (isOk_mapError hok)⟩

/-- Who finds the address of a topic resolves the topic to it. -/
theorem Resolves.eq_ok (h : r.Resolves typeName .topic past outcome) {arn : String}
    (hfound : ∀ looked, ⟨.lookup r.store (r.key typeName .topic), looked⟩ ∈ past →
      looked = .found arn) : outcome = .ok arn := by
  cases h with
  | topic h =>
    rw [h.eq_ok hfound]
    rfl

theorem Resolves.kind_eq {e : Error} (h : r.Resolves typeName kind past (.error e)) :
    e.kind = .resolution := by
  have kind_mapError {what name : String} {outcome : Except Error String}
      (h : .error e = outcome.mapError (Error.asResolution what name)) : e.kind = .resolution := by
    cases outcome with
    | ok => cases h
    | error cause => cases cause <;> cases h <;> rfl
  generalize houtcome : Except.error e = outcome at h
  induction h with
  | topic h => exact kind_mapError houtcome
  | noTopic h ih => exact ih houtcome
  | queue htopic h => exact kind_mapError houtcome

end Registry

end MessageBus
