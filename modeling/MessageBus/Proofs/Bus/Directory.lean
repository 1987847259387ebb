import MessageBus.Proofs.Broker.Directory
import MessageBus.Proofs.Bus.Basic
/-!
The directory of the broker of a bus. A step is the answer to a call, or leaves the directory as it
is (`Step.directory`), so what an answered call leaves of it is left by steps and by runs
(`Run.keeps`): the identity of the broker, its queues, and the ARNs that they report as long as
clients leave ARN attributes alone.
-/

set_option autoImplicit false
set_option relaxedAutoImplicit false

namespace MessageBus

/-- Whether a call has set the ARN attribute of a queue, by the reply to it. -/
def Call.overwritesArn (c : Call) : Except Error c.Reply → Bool
  | .ok _ => !c.keepsArns
  | .error _ => false

namespace Bus

variable {s t : Bus} {e : Event} {es : List Event}

/-- Whether an event leaves the ARN attributes of queues alone. -/
def Event.keepsArns : Event → Bool
  | .call c _ => c.keepsArns
  | .performed _ ⟨.call c, _⟩ => c.keepsArns
  | _ => true

/-- The call that an event is the answer to, with the reply. -/
def Event.call? : Event → Option ((c : Call) × Except Error c.Reply)
  | .call c reply => some ⟨c, reply⟩
  | .performed _ ⟨.call c, reply⟩ => some ⟨c, reply⟩
  | _ => none

theorem Event.eq_of_call? {c : Call} {reply : Except Error c.Reply}
    (h : e.call? = some ⟨c, reply⟩) :
    e = .call c reply ∨ ∃ j, e = .performed j ⟨.call c, reply⟩ := by
  cases e with
  | silent => cases h
  | call c reply =>
    cases h
    exact .inl rfl
  | performed j p =>
    obtain ⟨effect, r⟩ := p
    cases effect with
    | call c =>
      cases h
      exact .inr ⟨j, rfl⟩
    | lookup | await | settle | stamp | policyIds | count | pause | handle | report => cases h

theorem answer_cases (s : Bus) (time : Instant) (c : Call) :
    (∃ reply, (s.answer time c).1 = .ok reply ∧
      s.broker.answer ⟨s.clock, time, s.serial⟩ c = .ok (reply, (s.answer time c).2.broker)) ∨
    ∃ error, (s.answer time c).1 = .error error ∧ (s.answer time c).2.broker = s.broker := by
  unfold answer operate
  split
  · next reply b hanswer => exact .inl ⟨reply, rfl, hanswer⟩
  · next error hanswer => exact .inr ⟨error, rfl, rfl⟩

/-- A step is the answer to a call, or leaves the directory of the broker as it is. -/
theorem Step.directory (h : Step s e t) :
    (∃ time c, e.call? = some ⟨c, (s.answer time c).1⟩ ∧ t.broker = (s.answer time c).2.broker) ∨
      e.call? = none ∧ Broker.SameDirectory s.broker t.broker := by
  cases h with
  | wait | subscribe | signal | dispatch | finish => exact .inr ⟨rfl, .refl _⟩
  | call time c => exact .inl ⟨time, c, rfl, rfl⟩
  | receive _ _ time | receiveNothing _ _ time => exact .inl ⟨time, _, rfl, rfl⟩
  | performCall _ _ time => exact .inl ⟨time, _, rfl, rfl⟩
  | enqueue time queueUrl body =>
    refine .inr ⟨rfl, ?_⟩
    rw [operate]
    split
    · next henqueue =>
      obtain ⟨-, -, rfl⟩ := Broker.enqueue_eq henqueue
      exact .append ..
    · exact .refl _
  | @perform j d hd effect heffect =>
    refine .inr ⟨?_, .refl _⟩
    cases effect with
    | call c => exact absurd rfl (heffect c)
    | lookup | await | settle | stamp | policyIds | count | pause | handle | report => rfl

theorem Event.keepsArns_eq {c : Call} {reply : Except Error c.Reply}
    (h : e.call? = some ⟨c, reply⟩) : e.keepsArns = c.keepsArns := by
  obtain rfl | ⟨j, rfl⟩ := eq_of_call? h
  · rfl
  · rfl

theorem Step.keeps (h : Step s e t) : Broker.Keeps s.broker e.keepsArns t.broker := by
  obtain ⟨time, c, hcall, hbroker⟩ | ⟨-, hsame⟩ := h.directory
  · rw [hbroker, Event.keepsArns_eq hcall]
    obtain ⟨reply, -, hanswer⟩ | ⟨error, -, hsame⟩ := s.answer_cases time c
    · exact Broker.keeps_answer c hanswer
    · rw [hsame]
      exact (Broker.SameDirectory.refl _).keeps _
  · exact hsame.keeps _

theorem Run.keeps (h : Run s es t) :
    Broker.Keeps s.broker (∀ e ∈ es, e.keepsArns) t.broker := by
  induction h with
  | refl => exact (Broker.SameDirectory.refl _).keeps _
  | step _ hstep _ ih =>
    have hboth := ih.trans hstep.keeps
    refine ⟨hboth.identity, hboth.contains, fun hall ↦ hboth.isNamed ⟨?_, ?_⟩⟩
    · exact fun e he ↦ hall e (List.mem_append_left _ he)
    · exact hall _ (List.mem_append_right _ (List.mem_singleton_self _))

/-- Whether an event has set the ARN attribute of a queue. A call that was refused has not. -/
def Event.overwritesArn : Event → Bool
  | .call c reply => c.overwritesArn reply
  | .performed _ ⟨.call c, reply⟩ => c.overwritesArn reply
  | _ => false

theorem Event.overwritesArn_eq {c : Call} {reply : Except Error c.Reply}
    (h : e.call? = some ⟨c, reply⟩) : e.overwritesArn = c.overwritesArn reply := by
  obtain rfl | ⟨j, rfl⟩ := eq_of_call? h
  · rfl
  · rfl

theorem Step.isNamed (h : Step s e t) (he : e.overwritesArn = false) (hs : s.broker.IsNamed) :
    t.broker.IsNamed := by
  obtain ⟨time, c, hcall, hbroker⟩ | ⟨-, hsame⟩ := h.directory
  · rw [hbroker]
    obtain ⟨reply, hreply, hanswer⟩ | ⟨error, -, hsame⟩ := s.answer_cases time c
    · rw [Event.overwritesArn_eq hcall, hreply, Call.overwritesArn, Bool.not_eq_false'] at he
      exact (Broker.keeps_answer c hanswer).isNamed he hs
    · rwa [hsame]
  · exact hsame.isNamed hs

/-- As long as nobody sets the ARN attribute of a queue, queues report the ARNs of their names. -/
theorem Run.isNamed {identity : BrokerIdentity} (h : Run (start identity) es t)
    (hes : ∀ e ∈ es, e.overwritesArn = false) : t.broker.IsNamed := by
  generalize hs : start identity = s at h
  induction h with
  | refl =>
    subst hs
    exact Broker.isNamed_start identity
  | step _ hstep _ ih =>
    exact hstep.isNamed (hes _ (by simp)) (ih (fun e he ↦ hes e (by simp [he])))

end Bus

end MessageBus
