import MessageBus.Proofs.Provisioning.Course
import MessageBus.Proofs.Registry
/-!
Holding a key. Between finding a key vacant and ending its initialization a call holds the key
(`Hold.making`); between finding it busy and learning the outcome it waits for the one who does
(`Hold.waiting`). What a call has done says which of these it is (`Hold.of`), and that says what it
may do next (`Hold.Allows`): it looks keys up one at a time, makes broker calls only while it holds
a key, waits for the ticket it was given, and ends what it began, after the whole course of the
initialization. The programs that resolve names behave in this way (`Registry.behaves_resolve`),
at any time (`Program.Behaves.of_leads`).
-/

set_option autoImplicit false
set_option relaxedAutoImplicit false

namespace MessageBus

/-- Whether a call holds a key, and then what it has done since, or waits for one. -/
inductive Hold where
  | free
  | making (key : ResourceKey) (ticket : Nat) (during : List Performed)
  | waiting (key : ResourceKey) (ticket : Nat)

/-- How a key was made: what was done, with which outcome. -/
abbrev Making := ResourceKey → List Performed → Except Error String → Prop

namespace Hold

def after : Hold → Performed → Hold
  | _, ⟨.lookup _ _, .found _⟩ => free
  | _, ⟨.lookup _ key, .vacant ticket⟩ => making key ticket []
  | _, ⟨.lookup _ key, .busy ticket⟩ => waiting key ticket
  | _, ⟨.await _ _, _⟩ => free
  | _, ⟨.settle _ _ _ _, _⟩ => free
  | making key ticket during, p => making key ticket (during ++ [p])
  | hold, _ => hold

/-- What a call holds that has done so much. -/
def of (past : List Performed) : Hold := past.foldl after free

/-- What a call may do next, on the store of the given name. -/
def Allows (name : StoreName) (Made : Making) : Hold → Effect → Prop
  | free, .lookup store _ => store = name
  | waiting _ ticket, .await store awaited => store = name ∧ awaited = ticket
  | making key ticket during, .settle store settled ended outcome =>
    store = name ∧ settled = key ∧ ended = ticket ∧ Made key during outcome
  | making _ _ _, .call _ => True
  | making _ _ _, .policyIds => True
  | making _ _ _, .count _ => True
  | _, _ => False

@[simp]
theorem of_concat (past : List Performed) (p : Performed) :
    of (past ++ [p]) = (of past).after p := by
  rw [of, List.foldl_append]
  rfl

namespace Allows

variable {name store : StoreName} {Made : Making} {hold : Hold} {key : ResourceKey} {ticket : Nat}
  {outcome : Except Error String}

theorem eq_free (h : hold.Allows name Made (.lookup store key)) : hold = free := by
  cases hold with
  | free => rfl
  | making | waiting => exact absurd h id

theorem eq_waiting (h : hold.Allows name Made (.await store ticket)) :
    ∃ key, hold = waiting key ticket := by
  cases hold with
  | waiting key awaited => exact ⟨key, h.2 ▸ rfl⟩
  | free | making => exact absurd h id

theorem eq_making_of_settle (h : hold.Allows name Made (.settle store key ticket outcome)) :
    store = name ∧ ∃ during, hold = making key ticket during := by
  cases hold with
  | making held own during =>
    obtain ⟨hstore, rfl, rfl, -⟩ := h
    exact ⟨hstore, during, rfl⟩
  | free | waiting => exact absurd h id

/-- Who takes a step of provisioning holds a key, and goes on holding it. -/
theorem eq_making {p : Performed} (h : hold.Allows name Made p.effect)
    (hp : p.effect.Provisions) :
    ∃ key ticket during, hold = making key ticket during ∧
      hold.after p = making key ticket (during ++ [p]) := by
  obtain ⟨e, r⟩ := p
  cases hold with
  | making key ticket during =>
    cases e with
    | call | policyIds | count => exact ⟨key, ticket, during, rfl, rfl⟩
    | lookup | await | settle | stamp | pause | handle | report => exact absurd hp id
  | free | waiting =>
    cases e with
    | call | policyIds | count | stamp | pause | handle | report => exact absurd h id
    | lookup | await | settle => exact absurd hp id

end Allows

/-- Who holds a key has found it vacant, and has done since what it says. -/
theorem eq_append_of_foldl {past : List Performed} {hold : Hold} {key : ResourceKey} {ticket : Nat}
    {during : List Performed} (h : past.foldl after hold = making key ticket during) :
    (∃ store before, past = before ++ ⟨.lookup store key, .vacant ticket⟩ :: during) ∨
      ∃ earlier, hold = making key ticket earlier ∧ during = earlier ++ past := by
  induction past generalizing hold with
  | nil => exact .inr ⟨during, h, (List.append_nil during).symm⟩
  | cons p rest ih =>
    obtain ⟨store, before, rfl⟩ | ⟨earlier, hafter, rfl⟩ := ih h
    · exact .inl ⟨store, p :: before, rfl⟩
    unfold after at hafter
    split at hafter
    · cases hafter
    · cases hafter
      exact .inl ⟨_, [], rfl⟩
    · cases hafter
    · cases hafter
    · cases hafter
    · cases hafter
      exact .inr ⟨_, rfl, List.append_assoc ..⟩
    · next hmaking _ _ _ _ _ => exact absurd hafter (hmaking key ticket earlier)

theorem exists_of_making {past : List Performed} {key : ResourceKey} {ticket : Nat}
    {during : List Performed} (h : of past = making key ticket during) :
    ∃ store before, past = before ++ ⟨.lookup store key, .vacant ticket⟩ :: during :=
  (eq_append_of_foldl h).resolve_right nofun

/-- Who waits for a key has found it busy. -/
theorem mem_of_waiting {past : List Performed} {key : ResourceKey} {ticket : Nat}
    (h : of past = waiting key ticket) : ∃ store, ⟨.lookup store key, .busy ticket⟩ ∈ past := by
  suffices hfrom : ∀ hold, past.foldl after hold = waiting key ticket →
      hold = waiting key ticket ∨ ∃ store, ⟨.lookup store key, .busy ticket⟩ ∈ past from
    (hfrom free h).resolve_left nofun
  clear h
  induction past with
  | nil => exact fun hold h ↦ .inl h
  | cons p rest ih =>
    intro hold h
    obtain hafter | ⟨store, hmem⟩ := ih _ h
    · unfold after at hafter
      split at hafter
      · cases hafter
      · cases hafter
      · cases hafter
        exact .inr ⟨_, List.mem_cons_self⟩
      · cases hafter
      · cases hafter
      · cases hafter
      · exact .inl hafter
    · exact .inr ⟨store, List.mem_cons_of_mem _ hmem⟩

end Hold

namespace Program

variable {α β : Type} {name : StoreName} {Made : Making}

/-- Whether a program does only what it may, and holds nothing at its end. -/
def Behaves (name : StoreName) (Made : Making) : Hold → Program α → Prop
  | hold, .done _ => hold = .free
  | hold, .perform e next =>
    hold.Allows name Made e ∧ ∀ r, (next r).Behaves name Made (hold.after ⟨e, r⟩)

namespace Behaves

theorem bind {hold : Hold} {p : Program α} {f : α → Program β} (hp : p.Behaves name Made hold)
    (hf : ∀ a, (f a).Behaves name Made .free) : (p.bind f).Behaves name Made hold := by
  induction p generalizing hold with
  | done a =>
    cases hp
    exact hf a
  | perform e next ih => exact ⟨hp.1, fun r ↦ ih r (hp.2 r)⟩

/-- What is left of a program that behaves does so from what it holds then. -/
theorem of_leads {hold : Hold} {p q : Program α} {past : List Performed}
    (h : p.Behaves name Made hold) (hleads : p.Leads past q) :
    q.Behaves name Made (past.foldl Hold.after hold) := by
  induction hleads generalizing hold with
  | refl => exact h
  | step _ ih => exact ih (h.2 _)

/-- Who holds nothing and finds no key vacant makes no broker calls. -/
theorem tried_eq_nil {hold : Hold} {p q : Program α} {past : List Performed}
    (h : p.Behaves name Made hold) (hhold : ∀ key ticket during, hold ≠ .making key ticket during)
    (hleads : p.Leads past q)
    (hnone : ∀ store key ticket, ⟨.lookup store key, .vacant ticket⟩ ∉ past) :
    Provisioning.tried past = [] := by
  induction hleads generalizing hold with
  | refl => rfl
  | @step e next r past q _ ih =>
    have hrest : ∀ store key ticket, ⟨.lookup store key, .vacant ticket⟩ ∉ past :=
      fun store key ticket hmem ↦ hnone store key ticket (List.mem_cons_of_mem _ hmem)
    cases hold with
    | making key ticket during => exact absurd rfl (hhold key ticket during)
    | free =>
      cases e with
      | lookup store key =>
        cases r with
        | vacant ticket => exact absurd List.mem_cons_self (hnone store key ticket)
        | found | busy => exact ih (h.2 _) nofun hrest
      | call | await | settle | stamp | policyIds | count | pause | handle | report =>
        exact absurd h.1 id
    | waiting key ticket =>
      cases e with
      | await store awaited => exact ih (h.2 r) nofun hrest
      | lookup | call | settle | stamp | policyIds | count | pause | handle | report =>
        exact absurd h.1 id

end Behaves

end Program

namespace Attempt

variable {name : StoreName} {Made : Making} {key : ResourceKey}

/-- Who holds a key may carry its initialization out, and end it. -/
theorem behaves_making {p : Program (Except Error String)} (hp : p.All Effect.Provisions)
    {ticket : Nat} (during : List Performed)
    (hmade : ∀ more outcome, p.Leads more (.done outcome) → Made key (during ++ more) outcome) :
    (p.bind fun outcome ↦ .perform (.settle name key ticket outcome) fun _ ↦ .done outcome).Behaves
      name Made (.making key ticket during) := by
  induction p generalizing during with
  | done outcome =>
    have hdone := hmade [] outcome (.refl _)
    rw [List.append_nil] at hdone
    exact ⟨⟨rfl, rfl, rfl, hdone⟩, fun _ ↦ rfl⟩
  | perform e next ih =>
    have hnext (r : e.Result) (more : List Performed) (outcome : Except Error String)
        (h : (next r).Leads more (.done outcome)) :
        Made key (during ++ [⟨e, r⟩] ++ more) outcome := by
      rw [List.append_assoc]
      exact hmade _ outcome (.step h)
    cases e with
    | call | policyIds | count =>
      exact ⟨trivial, fun r ↦ ih r (hp.2 r) _ (hnext r)⟩
    | lookup | await | settle | stamp | pause | handle | report => exact absurd hp.1 id

theorem behaves_getOrSet {init : Attempt String} (hinit : init.run.All Effect.Provisions)
    (hmade : ∀ during outcome, init.run.Leads during (.done outcome) → Made key during outcome) :
    (getOrSet name key init).run.Behaves name Made .free := by
  refine ⟨rfl, fun looked ↦ ?_⟩
  cases looked with
  | found address => rfl
  | busy ticket => exact ⟨⟨rfl, rfl⟩, fun _ ↦ rfl⟩
  | vacant ticket => exact behaves_making hinit [] hmade

theorem behaves_mapError {α : Type} {a : Attempt α} (h : a.run.Behaves name Made .free)
    (f : Error → Error) : (a.mapError f).run.Behaves name Made .free :=
  h.bind fun _ ↦ rfl

end Attempt

namespace Registry

open Provisioning

/-- How a registry makes the topic and the queue of a type. -/
inductive Made (r : Registry) (typeName : String) : Making
  | topic {during : List Performed} {outcome : Except Error String}
    (h : TopicCourse (r.naming.topicName typeName) during outcome) :
    Made r typeName (r.key typeName .topic) during outcome
  | queue {topicArn : String} {during : List Performed} {outcome : Except Error String}
    (h : r.QueueMade typeName topicArn during outcome) :
    Made r typeName (r.key typeName .queue) during outcome

theorem behaves_resolve (r : Registry) (typeName : String) (kind : ResourceKind) :
    (r.resolve typeName kind).run.Behaves r.store (r.Made typeName) .free := by
  have htopic : (r.resolveTopic typeName).run.Behaves r.store (r.Made typeName) .free := by
    apply Attempt.behaves_mapError
    apply Attempt.behaves_getOrSet (all_ensureTopic _)
    exact fun during outcome h ↦ .topic (topicCourse_of_leads h)
  cases kind with
  | topic => exact htopic
  | queue =>
    refine htopic.bind ?_
    rintro (e | topicArn)
    · rfl
    apply Attempt.behaves_mapError
    apply Attempt.behaves_getOrSet (all_ensureSubscription ..)
    exact fun during outcome h ↦ .queue (subscriptionCourse_of_leads h)

/-- The keys of the addresses that it takes to resolve a type's topic or queue. -/
def keys (r : Registry) (typeName : String) : ResourceKind → List ResourceKey
  | .topic => [r.key typeName .topic]
  | .queue => [r.key typeName .topic, r.key typeName .queue]

/-- A registry looks up only the keys that it needs, and only in its store. -/
theorem all_resolve (r : Registry) (typeName : String) (kind : ResourceKind) :
    (r.resolve typeName kind).run.All fun e ↦
      ∀ store key, e = .lookup store key → store = r.store ∧ key ∈ r.keys typeName kind := by
  have hstored {key : ResourceKey} (hkey : key ∈ r.keys typeName kind) {init : Attempt String}
      (hinit : init.run.All Effect.Provisions) :
      (Attempt.getOrSet r.store key init).run.All fun e ↦
        ∀ store key, e = .lookup store key → store = r.store ∧ key ∈ r.keys typeName kind := by
    apply Attempt.all_getOrSet
    · intro store other hlookup
      cases hlookup
      exact ⟨rfl, hkey⟩
    · exact nofun
    · exact nofun
    · refine hinit.mono fun e he ↦ ?_
      rintro store other rfl
      exact absurd he id
  cases kind with
  | topic =>
    exact Attempt.all_mapError (hstored List.mem_cons_self (all_ensureTopic _)) _
  | queue =>
    refine Attempt.all_bind ?_ fun topicArn ↦ ?_
    · exact Attempt.all_mapError (hstored List.mem_cons_self (all_ensureTopic _)) _
    · have hkey : r.key typeName .queue ∈ r.keys typeName .queue :=
        List.mem_cons_of_mem _ List.mem_cons_self
      exact Attempt.all_mapError (hstored hkey (all_ensureSubscription ..)) _

/-- How an address is made keeps to the plan for it, and an address comes of it when all of the plan
was done. -/
theorem Made.keepsTo {r : Registry} {typeName : String} {key : ResourceKey}
    {during : List Performed} {outcome : Except Error String}
    (h : r.Made typeName key during outcome) :
    KeepsTo (plan key.kind) during outcome.isOk := by
  cases h with
  | topic h => exact h.keepsTo
  | queue h => exact h.keepsTo

end Registry

end MessageBus
