import MessageBus.Proofs.Bus.Basic
/-!
Clients of a bus. A client carries a program out while anything else happens on the bus
(`Completes`): its calls are answered by the broker as it finds it, and its other effects may have
any result. A client that has completed a program of two parts has completed the parts one after the
other (`Completes.of_bind`), and one that succeeded has succeeded in both (`Completes.of_andThen`).
-/

set_option autoImplicit false
set_option relaxedAutoImplicit false

namespace MessageBus

namespace Bus

variable {α β : Type} {s t u : Bus} {e : Event} {es : List Event}

/-- From a bus to the bus on which a program has come to its result, among other steps. -/
inductive Completes : Bus → Program α → List Event → Bus → α → Prop
  | done (s : Bus) (a : α) : Completes s (.done a) [] s a
  | aside {s t u : Bus} {p : Program α} {e : Event} {es : List Event} {a : α}
    (hstep : Step s e u) (h : Completes u p es t a) : Completes s p (e :: es) t a
  | call {s t : Bus} {c : Call} {next : Except Error c.Reply → Program α} {es : List Event} {a : α}
    (time : Instant) (h : Completes (s.answer time c).2 (next (s.answer time c).1) es t a) :
    Completes s (.perform (.call c) next) (.call c (s.answer time c).1 :: es) t a
  | perform {s t : Bus} {effect : Effect} (heffect : ∀ c, effect ≠ .call c)
    {next : effect.Result → Program α} {es : List Event} {a : α} (r : effect.Result)
    (h : Completes s (next r) es t a) : Completes s (.perform effect next) es t a

theorem answer_eq_ok {time : Instant} {c : Call} {reply : c.Reply}
    (h : (s.answer time c).1 = .ok reply) :
    ∃ b, s.broker.answer ⟨s.clock, time, s.serial⟩ c = .ok (reply, b) ∧
      (s.answer time c).2 = { s with broker := b, serial := s.serial + 1 } := by
  rw [answer, operate] at h ⊢
  split
  · next hanswer =>
    rw [hanswer] at h
    cases h
    exact ⟨_, hanswer, rfl⟩
  · next hanswer =>
    rw [hanswer] at h
    cases h

theorem Run.cons (hstep : Step s e u) (h : Run u es t) : Run s (e :: es) t := by
  induction h with
  | refl => exact (RunWithin.refl trivial).step hstep trivial
  | step _ hlast _ ih => exact ih.step hlast trivial

theorem Run.eq_of_nil (h : Run s [] t) : t = s := by
  generalize hes : [] = es at h
  cases h with
  | refl => rfl
  | step h => exact absurd hes (by simp)

theorem Run.append {more : List Event} (h : Run s es t) (hmore : Run t more u) :
    Run s (es ++ more) u := by
  induction hmore with
  | refl => rwa [List.append_nil]
  | step _ hlast _ ih =>
    rw [← List.append_assoc]
    exact ih.step hlast trivial

theorem Run.call {time : Instant} {c : Call} {reply : Except Error c.Reply}
    (h : (s.answer time c).1 = reply) (hrun : Run (s.answer time c).2 es t) :
    Run s (.call c reply :: es) t :=
  hrun.cons (h ▸ .call s time c)

namespace Completes

variable {p : Program α} {a : α}

theorem run (h : Completes s p es t a) : Run s es t := by
  induction h with
  | done => exact .refl trivial
  | aside hstep _ ih => exact ih.cons hstep
  | call time _ ih => exact ih.cons (.call _ time _)
  | perform _ _ _ ih => exact ih

theorem after_run (hrun : Run s es u) {more : List Event} (h : Completes u p more t a) :
    Completes s p (es ++ more) t a := by
  induction hrun generalizing more with
  | refl => exact h
  | step _ hstep _ ih =>
    rw [List.append_assoc]
    exact ih (.aside hstep h)

theorem of_done {b : α} (h : Completes s (.done b) es t a) : a = b ∧ Run s es t := by
  refine ⟨?_, h.run⟩
  generalize hp : Program.done b = p at h
  induction h with
  | done => exact (Program.done.inj hp).symm
  | aside _ _ ih => exact ih hp
  | call | perform => cases hp

/-- A call is answered by the broker as it is then. -/
theorem of_call {c : Call} {next : Except Error c.Reply → Program α}
    (h : Completes s (.perform (.call c) next) es t a) :
    ∃ before u time after, Run s before u ∧
      es = before ++ .call c (u.answer time c).1 :: after ∧
      Completes (u.answer time c).2 (next (u.answer time c).1) after t a := by
  generalize hp : Program.perform (.call c) next = p at h
  induction h with
  | done => cases hp
  | aside hstep _ ih =>
    obtain ⟨before, u, time, after, hrun, rfl, hafter⟩ := ih hp
    exact ⟨_ :: before, u, time, after, hrun.cons hstep, rfl, hafter⟩
  | call time h =>
    cases hp
    exact ⟨[], _, time, _, .refl trivial, rfl, h⟩
  | perform heffect =>
    cases hp
    exact absurd rfl (heffect c)

/-- Another effect has some result. -/
theorem of_perform {effect : Effect} (heffect : ∀ c, effect ≠ .call c)
    {next : effect.Result → Program α} (h : Completes s (.perform effect next) es t a) :
    ∃ before u r after, Run s before u ∧ es = before ++ after ∧
      Completes u (next r) after t a := by
  generalize hp : Program.perform effect next = p at h
  induction h with
  | done => cases hp
  | aside hstep _ ih =>
    obtain ⟨before, u, r, after, hrun, rfl, hafter⟩ := ih hp
    exact ⟨_ :: before, u, r, after, hrun.cons hstep, rfl, hafter⟩
  | call =>
    cases hp
    exact absurd rfl (heffect _)
  | perform _ r h =>
    cases hp
    exact ⟨[], _, r, _, .refl trivial, rfl, h⟩

theorem of_bind {f : α → Program β} {b : β} (h : Completes s (p.bind f) es t b) :
    ∃ a before u after, es = before ++ after ∧ Completes s p before u a ∧
      Completes u (f a) after t b := by
  induction p generalizing s es with
  | done a => exact ⟨a, [], s, es, rfl, .done s a, h⟩
  | perform effect next ih =>
    by_cases heffect : ∃ c, effect = .call c
    · obtain ⟨c, rfl⟩ := heffect
      obtain ⟨first, v, time, rest, hrun, rfl, hrest⟩ := of_call h
      obtain ⟨a, before, u, after, rfl, hbefore, hafter⟩ := ih _ hrest
      exact ⟨a, first ++ .call c (v.answer time c).1 :: before, u, after, by simp,
        (Completes.call time hbefore).after_run hrun, hafter⟩
    · obtain ⟨first, v, r, rest, hrun, rfl, hrest⟩ :=
        of_perform (fun c hc ↦ heffect ⟨c, hc⟩) h
      obtain ⟨a, before, u, after, rfl, hbefore, hafter⟩ := ih _ hrest
      exact ⟨a, first ++ before, u, after, by simp,
        (Completes.perform (fun c hc ↦ heffect ⟨c, hc⟩) r hbefore).after_run hrun, hafter⟩

section Attempts

variable {b : β}

/-- An attempt that succeeded has succeeded in its first part, and then in the second. -/
theorem of_andThen {first : Attempt α} {f : α → Attempt β}
    (h : Completes s (first >>= f).run es t (.ok b)) :
    ∃ a before u after, es = before ++ after ∧ Completes s first.run before u (.ok a) ∧
      Completes u (f a).run after t (.ok b) := by
  change Completes s (first.run.bind (ExceptT.bindCont f)) es t (.ok b) at h
  obtain ⟨r, before, u, after, hes, hbefore, hafter⟩ := h.of_bind
  cases r with
  | ok a => exact ⟨a, before, u, after, hes, hbefore, hafter⟩
  | error e => exact absurd hafter.of_done.1 nofun

/-- An attempt that begins with a call and succeeded has had an answer to it. -/
theorem of_callThen {c : Call} {f : c.Reply → Attempt β}
    (h : Completes s (Attempt.call c >>= f).run es t (.ok b)) :
    ∃ before u time reply after, Run s before u ∧ (u.answer time c).1 = .ok reply ∧
      es = before ++ .call c (.ok reply) :: after ∧
      Completes (u.answer time c).2 (f reply).run after t (.ok b) := by
  obtain ⟨before, u, time, after, hrun, rfl, hafter⟩ := of_call h
  cases hreply : (u.answer time c).1 with
  | ok reply =>
    rw [hreply] at hafter
    exact ⟨before, u, time, reply, after, hrun, hreply, rfl, hafter⟩
  | error e =>
    rw [hreply] at hafter
    exact absurd hafter.of_done.1 nofun

end Attempts

end Completes

/-- Carries a program out at once, in a world that determines the results of its other effects. -/
def carryOut (world : (e : Effect) → e.Result) : Bus → Program α → List Event × Bus × α
  | s, .done a => ([], s, a)
  | s, .perform (.call c) next =>
    let r := carryOut world (s.answer .epoch c).2 (next (s.answer .epoch c).1)
    (.call c (s.answer .epoch c).1 :: r.1, r.2)
  | s, .perform e next => carryOut world s (next (world e))

/-- Every program can be completed. -/
theorem completes_carryOut (world : (e : Effect) → e.Result) (s : Bus) (p : Program α) :
    Completes s p (carryOut world s p).1 (carryOut world s p).2.1 (carryOut world s p).2.2 := by
  induction p generalizing s with
  | done a => exact .done s a
  | perform e next ih =>
    cases e with
    | call c => exact .call .epoch (ih _ _)
    | lookup | await | settle | stamp | policyIds | count | pause | handle | report =>
      refine .perform ?_ _ (ih _ _)
      exact nofun

/-- A world in which nothing is stored and handlers succeed. -/
def sampleWorld : (e : Effect) → e.Result
  | .call c => .error (.transport c.operation "no broker")
  | .lookup _ _ => .vacant 0
  | .await _ _ => .error (.resolution "nobody")
  | .settle _ _ _ _ => ()
  | .stamp => ⟨"id", .epoch⟩
  | .policyIds => ("id", "sid")
  | .count _ => ()
  | .pause _ => ()
  | .handle _ _ => .success
  | .report _ => ()

end Bus

end MessageBus
