import MessageBus.Program
/-!
Traces of programs. A program leads through the effects that it performs, each with some result, to
what is left of it (`Program.Leads`), and what holds of every effect of a program holds of those on
its traces (`All.of_leads`). Every program can come to its end (`Program.exists_leads_done`).
-/

set_option autoImplicit false
set_option relaxedAutoImplicit false

namespace MessageBus

/-- An effect that was performed, with its result. -/
structure Performed where
  effect : Effect
  result : effect.Result

namespace Program

variable {α β : Type}

/-- From a program through effects to what is left of it. -/
inductive Leads : Program α → List Performed → Program α → Prop
  | refl (p : Program α) : Leads p [] p
  | step {e : Effect} {next : e.Result → Program α} {r : e.Result} {past : List Performed}
    {q : Program α} (h : Leads (next r) past q) : Leads (.perform e next) (⟨e, r⟩ :: past) q

namespace Leads

variable {p q : Program α} {past : List Performed}

theorem perform {e : Effect} {next : e.Result → Program α} (h : Leads p past (.perform e next))
    (r : e.Result) : Leads p (past ++ [⟨e, r⟩]) (next r) := by
  generalize hq : Program.perform e next = q at h
  induction h with
  | refl => exact hq ▸ .step (.refl _)
  | step _ ih => exact .step (ih hq)

theorem of_perform {e : Effect} {next : e.Result → Program α}
    (h : Leads (.perform e next) past q) :
    (past = [] ∧ q = .perform e next) ∨
      ∃ r rest, past = ⟨e, r⟩ :: rest ∧ Leads (next r) rest q := by
  cases h with
  | refl => exact .inl ⟨rfl, rfl⟩
  | step h => exact .inr ⟨_, _, rfl, h⟩

theorem trans {r : Program α} {rest : List Performed} (h : p.Leads past q)
    (hrest : q.Leads rest r) : p.Leads (past ++ rest) r := by
  induction h with
  | refl => exact hrest
  | step _ ih => exact .step (ih hrest)

theorem of_done {a : α} (h : Leads (.done a) past q) : past = [] ∧ q = .done a := by
  cases h
  exact ⟨rfl, rfl⟩

theorem of_bind {f : α → Program β} {b : β} (h : (p.bind f).Leads past (.done b)) :
    ∃ a before after, past = before ++ after ∧ p.Leads before (.done a) ∧
      (f a).Leads after (.done b) := by
  induction p generalizing past with
  | done a => exact ⟨a, [], past, rfl, .refl _, h⟩
  | perform e next ih =>
    obtain ⟨hdone, -⟩ | ⟨r, rest, rfl, hrest⟩ := of_perform h
    · subst hdone
      cases h
    · obtain ⟨a, before, after, rfl, hbefore, hafter⟩ := ih r hrest
      exact ⟨a, _, after, rfl, .step hbefore, hafter⟩

theorem bind {f : α → Program β} {a : α} {q : Program β} {rest : List Performed}
    (h : p.Leads past (.done a)) (hrest : (f a).Leads rest q) :
    (p.bind f).Leads (past ++ rest) q := by
  generalize hdone : Program.done a = done at h
  induction h with
  | refl =>
    subst hdone
    exact hrest
  | step _ ih => exact .step (ih hdone)

theorem bind_left (h : p.Leads past q) (f : α → Program β) : (p.bind f).Leads past (q.bind f) := by
  induction h with
  | refl => exact .refl _
  | step _ ih => exact .step ih

/-- A program that has come to its end has performed its first effect. -/
theorem perform_of_done {e : Effect} {next : e.Result → Program α} {a : α}
    (h : Leads (.perform e next) past (.done a)) :
    ∃ r rest, past = ⟨e, r⟩ :: rest ∧ Leads (next r) rest (.done a) :=
  h.of_perform.resolve_left nofun

end Leads

/-- Whether all effects that a program can perform have a property. -/
def All (P : Effect → Prop) : Program α → Prop
  | .done _ => True
  | .perform e next => P e ∧ ∀ r, (next r).All P

theorem All.mono {P Q : Effect → Prop} (himp : ∀ e, P e → Q e) {p : Program α} (h : p.All P) :
    p.All Q := by
  induction p with
  | done a => trivial
  | perform e next ih => exact ⟨himp e h.1, fun r ↦ ih r (h.2 r)⟩

theorem All.of_leads {P : Effect → Prop} {p q : Program α} {past : List Performed} (h : p.All P)
    (hleads : p.Leads past q) : (∀ x ∈ past, P x.effect) ∧ q.All P := by
  induction hleads with
  | refl => exact ⟨List.forall_mem_nil _, h⟩
  | @step e next r past q _ ih =>
    obtain ⟨hpast, hq⟩ := ih (h.2 r)
    exact ⟨List.forall_mem_cons.mpr ⟨h.1, hpast⟩, hq⟩

theorem All.bind {P : Effect → Prop} {p : Program α} {f : α → Program β} (hp : p.All P)
    (hf : ∀ a, (f a).All P) : (p.bind f).All P := by
  induction p with
  | done a => exact hf a
  | perform e next ih => exact ⟨hp.1, fun r ↦ ih r (hp.2 r)⟩

theorem all_effect {P : Effect → Prop} {e : Effect} (h : P e) : (effect e).All P :=
  ⟨h, fun _ ↦ trivial⟩

end Program

theorem Effect.nonempty_result (e : Effect) : Nonempty e.Result := by
  cases e with
  | call | await => exact ⟨.error (.transport "" "")⟩
  | lookup => exact ⟨.vacant 0⟩
  | settle | count | pause | report => exact ⟨()⟩
  | stamp => exact ⟨⟨"", .epoch⟩⟩
  | policyIds => exact ⟨("", "")⟩
  | handle => exact ⟨.success⟩

/-- Every program can come to its end. -/
theorem Program.exists_leads_done {α : Type} (p : Program α) :
    ∃ past a, p.Leads past (.done a) := by
  induction p with
  | done a => exact ⟨[], a, .refl _⟩
  | perform e next ih =>
    obtain ⟨r⟩ := e.nonempty_result
    obtain ⟨past, a, h⟩ := ih r
    exact ⟨_, a, .step h⟩

end MessageBus
