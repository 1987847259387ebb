import MessageBus.Proofs.Program
import MessageBus.Subscriber.Basic
/-!
What it takes to find a queue. A resolver looks into its store and provisions what is not there; it
neither receives nor deletes messages, and calls no handler (`Resolver.all_queue`).
-/

set_option autoImplicit false
set_option relaxedAutoImplicit false

namespace MessageBus

namespace Attempt

variable {α β : Type} {P : Effect → Prop}

theorem all_bind {a : Attempt α} {f : α → Attempt β} (ha : a.run.All P)
    (hf : ∀ x, (f x).run.All P) : (a >>= f).run.All P := by
  refine ha.bind ?_
  rintro (e | x)
  · trivial
  · exact hf x

theorem all_mapError {a : Attempt α} (ha : a.run.All P) (f : Error → Error) :
    (a.mapError f).run.All P :=
  ha.bind fun _ ↦ trivial

theorem all_call {c : Call} (hc : P (.call c)) : (call c).run.All P :=
  Program.all_effect hc

theorem all_ofProgram {p : Program α} (hp : p.All P) : (ofProgram p).run.All P :=
  hp.bind fun _ ↦ trivial

theorem all_count {c : Counter} (hc : P (.count c)) : (count c).run.All P :=
  all_ofProgram (Program.all_effect hc)

theorem all_getOrSet {store : StoreName} {key : ResourceKey} {init : Attempt String}
    (hlookup : P (.lookup store key)) (hawait : ∀ ticket, P (.await store ticket))
    (hsettle : ∀ ticket outcome, P (.settle store key ticket outcome)) (hinit : init.run.All P) :
    (getOrSet store key init).run.All P := by
  refine (Program.all_effect hlookup).bind ?_
  rintro (address | ticket | ticket)
  · trivial
  · refine hinit.bind fun outcome ↦ ?_
    refine (Program.all_effect (hsettle ticket outcome)).bind fun _ ↦ ?_
    trivial
  · exact Program.all_effect (hawait ticket)

end Attempt

/-- Whether an effect receives or deletes a message or calls a handler. -/
def Effect.Consumes : Effect → Prop
  | .call (.receiveMessage _) | .call (.deleteMessage _ _) | .handle _ _ => True
  | _ => False

/-- Whether an effect is one of making topics and queues. -/
def Effect.Provisions : Effect → Prop
  | .call (.createTopic _) | .call (.setTopicAttributes ..) | .call (.createQueue _)
  | .call (.getQueueAttributes ..) | .call (.setQueueAttributes ..) | .call (.subscribe ..)
  | .policyIds | .count _ => True
  | _ => False

theorem Effect.Provisions.not_consumes {e : Effect} (h : e.Provisions) : ¬ e.Consumes := by
  intro hconsumes
  unfold Consumes at hconsumes
  split at hconsumes
  · exact h
  · exact h
  · exact h
  · exact hconsumes

namespace Provisioning

open Attempt

theorem all_ensureTopic (name : String) : (ensureTopic name).run.All Effect.Provisions := by
  refine all_bind (all_call trivial) fun arn ↦ ?_
  refine all_bind (all_ofProgram (Program.all_effect trivial)) fun (id, sid) ↦ ?_
  refine all_bind trivial fun policy ↦ ?_
  refine all_bind (all_call trivial) fun _ ↦ ?_
  exact all_bind (all_count trivial) fun _ ↦ trivial

theorem all_ensureQueue (name : String) : (ensureQueue name).run.All Effect.Provisions := by
  refine all_bind (all_call trivial) fun url ↦ ?_
  refine all_bind (all_call trivial) fun attributes ↦ ?_
  cases attributes.find? Broker.queueArnAttribute with
  | none => trivial
  | some arn => exact all_bind (all_count trivial) fun _ ↦ trivial

theorem all_ensureSubscription (topicArn queueName errorQueueName : String) (limit : Nat) :
    (ensureSubscription topicArn queueName errorQueueName limit).run.All
      Effect.Provisions := by
  refine all_bind (all_ensureQueue errorQueueName) fun (_, errorQueueArn) ↦ ?_
  refine all_bind (all_ensureQueue queueName) fun (url, arn) ↦ ?_
  refine all_bind (all_ofProgram (Program.all_effect trivial)) fun (id, sid) ↦ ?_
  refine all_bind (all_call trivial) fun _ ↦ ?_
  refine all_bind (all_call trivial) fun _ ↦ ?_
  exact all_bind (all_count trivial) fun _ ↦ trivial

end Provisioning

open Attempt in
/-- To find a queue is not to consume messages. -/
theorem Resolver.all_queue (resolver : Resolver) (typeName : String) :
    (resolver.queue typeName).run.All fun e ↦ ¬ e.Consumes := by
  cases resolver with
  | fixed address => trivial
  | registry r =>
    have hstored {key : ResourceKey} {init : Attempt String}
        (hinit : init.run.All Effect.Provisions) :
        (getOrSet r.store key init).run.All fun e ↦ ¬ e.Consumes :=
      all_getOrSet not_false (fun _ ↦ not_false) (fun _ _ ↦ not_false)
        (hinit.mono fun _ ↦ Effect.Provisions.not_consumes)
    refine all_bind (all_mapError (hstored (Provisioning.all_ensureTopic _)) _) fun topicArn ↦ ?_
    exact all_mapError (hstored (Provisioning.all_ensureSubscription ..)) _

theorem Subscriber.all_queueUrl (s : Subscriber) (typeName : String) :
    (s.queueUrl typeName).run.All fun e ↦ ¬ e.Consumes := by
  obtain ⟨settings, resolver⟩ := s
  cases resolver with
  | none => trivial
  | some resolver => exact resolver.all_queue typeName

/-- A registry with the default settings and a store of its own. -/
def sampleRegistry : Registry := ⟨.plain, {}, .own 0⟩

end MessageBus
