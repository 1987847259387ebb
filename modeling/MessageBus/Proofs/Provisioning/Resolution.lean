import MessageBus.Proofs.Provisioning.Hold
import MessageBus.Proofs.Table
/-!
Calls that resolve names on one store. Any number of calls, of registries that share the store, are
under way at a time; at every step a new one begins, or one that is under way performs its next
effect (`Resolutions.Step`). The store answers what is asked of it, and lets a call wait until there
is an outcome (`Store.Acts`); broker calls have any reply. What a call has done says what it may do
next (`Resolution.allows`), which broker calls it has made at all (`Resolution.tried_eq_nil`), and
on which of the courses of its resolution it is (`Resolution.exists_resolves`).
-/

set_option autoImplicit false
set_option relaxedAutoImplicit false

namespace MessageBus

/-- How an effect acts on the store of the given name. -/
inductive Store.Acts (name : StoreName) : Store → Performed → Store → Prop
  | lookup (s : Store) (key : ResourceKey) :
    Acts name s ⟨.lookup name key, (s.lookup key).1⟩ (s.lookup key).2
  | await {s : Store} {ticket : Nat} {outcome : Except Error String}
    (h : s.outcomes.find? ticket = some outcome) : Acts name s ⟨.await name ticket, outcome⟩ s
  | settle (s : Store) (key : ResourceKey) (ticket : Nat) (outcome : Except Error String) :
    Acts name s ⟨.settle name key ticket outcome, ()⟩ (s.settle key ticket outcome)
  | other (s : Store) {p : Performed} (h : p.effect.Provisions) : Acts name s p s

/-- A call to resolve a topic or a queue: what it has done, and what is left to do. -/
structure Resolution where
  registry : Registry
  typeName : String
  kind : ResourceKind
  past : List Performed
  rest : Program (Except Error String)
  led : (registry.resolve typeName kind).run.Leads past rest

namespace Resolution

/-- A call at its beginning. -/
def start (registry : Registry) (typeName : String) (kind : ResourceKind) : Resolution where
  registry := registry
  typeName := typeName
  kind := kind
  past := []
  rest := (registry.resolve typeName kind).run
  led := .refl _

/-- A call after one more effect. -/
def after (c : Resolution) {e : Effect} {next : e.Result → Program (Except Error String)}
    (hrest : c.rest = .perform e next) (r : e.Result) : Resolution where
  registry := c.registry
  typeName := c.typeName
  kind := c.kind
  past := c.past ++ [⟨e, r⟩]
  rest := next r
  led := (hrest ▸ c.led).perform r

/-- The key of the address that a call resolves. -/
def key (c : Resolution) : ResourceKey := c.registry.key c.typeName c.kind

/-- The keys of the addresses that a call needs. -/
def keys (c : Resolution) : List ResourceKey := c.registry.keys c.typeName c.kind

def hold (c : Resolution) : Hold := .of c.past

/-- Whether a call has found a key vacant, made what belongs there, and ended this with an
outcome. -/
def Settled (c : Resolution) (key : ResourceKey) (ticket : Nat) (outcome : Except Error String) :
    Prop :=
  ∃ before during after,
    c.past = before ++ ⟨.lookup c.registry.store key, .vacant ticket⟩ ::
      (during ++ ⟨.settle c.registry.store key ticket outcome, ()⟩ :: after) ∧
    c.registry.Made c.typeName key during outcome

variable {c : Resolution} {e : Effect} {next : e.Result → Program (Except Error String)}

theorem behaves (c : Resolution) :
    c.rest.Behaves c.registry.store (c.registry.Made c.typeName) c.hold :=
  (Registry.behaves_resolve ..).of_leads c.led

/-- A call looks up only the keys that it needs, and only in the store of its registry. -/
theorem looks_up {store : StoreName} {key : ResourceKey} {r : Lookup}
    (h : ⟨.lookup store key, r⟩ ∈ c.past) : store = c.registry.store ∧ key ∈ c.keys :=
  ((Registry.all_resolve ..).of_leads c.led).1 _ h store key rfl

theorem allows (hrest : c.rest = .perform e next) :
    c.hold.Allows c.registry.store (c.registry.Made c.typeName) e := by
  have h := c.behaves
  rw [hrest] at h
  exact h.1

@[simp]
theorem hold_after (hrest : c.rest = .perform e next) (r : e.Result) :
    (c.after hrest r).hold = c.hold.after ⟨e, r⟩ :=
  Hold.of_concat ..

/-- A call that has come to its end has taken one of the courses of its resolution, and one that is
under way is on one of them. -/
theorem exists_resolves (c : Resolution) :
    ∃ later outcome, c.registry.Resolves c.typeName c.kind (c.past ++ later) outcome ∧
      ∀ returned, c.rest = .done returned → later = [] ∧ outcome = returned := by
  obtain ⟨later, outcome, hlater⟩ := c.rest.exists_leads_done
  refine ⟨later, outcome, Registry.resolves_of_leads (c.led.trans hlater), fun returned hrest ↦ ?_⟩
  rw [hrest] at hlater
  obtain ⟨hnil, hdone⟩ := hlater.of_done
  exact ⟨hnil, Program.done.inj hdone⟩

theorem Settled.after {key : ResourceKey} {ticket : Nat} {outcome : Except Error String}
    (h : c.Settled key ticket outcome) (hrest : c.rest = .perform e next) (r : e.Result) :
    (c.after hrest r).Settled key ticket outcome := by
  obtain ⟨before, during, rest, hpast, hmade⟩ := h
  refine ⟨before, during, rest ++ [⟨e, r⟩], ?_, hmade⟩
  show c.past ++ _ = _
  simp [hpast, Resolution.after]

/-- What a call has settled after one more effect it had settled before, unless this is what the
effect does. -/
theorem Settled.of_after {key : ResourceKey} {ticket : Nat} {outcome : Except Error String}
    {hrest : c.rest = .perform e next} {r : e.Result}
    (h : (c.after hrest r).Settled key ticket outcome) :
    c.Settled key ticket outcome ∨
      (⟨e, r⟩ : Performed) = ⟨.settle c.registry.store key ticket outcome, ()⟩ := by
  obtain ⟨before, during, rest, hpast, hmade⟩ := h
  obtain rfl | ⟨rest, last, rfl⟩ := List.eq_nil_or_concat rest
  · right
    have hlast : c.past ++ [⟨e, r⟩] =
        (before ++ ⟨.lookup c.registry.store key, .vacant ticket⟩ :: during) ++
          [⟨.settle c.registry.store key ticket outcome, ()⟩] := by
      rw [List.append_assoc]
      exact hpast
    exact List.singleton_inj.mp (List.append_inj_right' hlast rfl)
  · left
    have hinit : c.past ++ [⟨e, r⟩] =
        (before ++ ⟨.lookup c.registry.store key, .vacant ticket⟩ ::
          (during ++ ⟨.settle c.registry.store key ticket outcome, ()⟩ :: rest)) ++ [last] := by
      refine hpast.trans ?_
      simp [Resolution.after]
    exact ⟨before, during, rest, List.append_inj_left' hinit rfl, hmade⟩

theorem settled_after {key : ResourceKey} {ticket : Nat} {outcome : Except Error String}
    {hrest : c.rest = .perform e next} {r : e.Result}
    (hne : ∀ store key ticket outcome, e ≠ .settle store key ticket outcome) :
    (c.after hrest r).Settled key ticket outcome ↔ c.Settled key ticket outcome := by
  constructor
  · exact fun h ↦ h.of_after.resolve_right fun hsettle ↦
      hne _ _ _ _ (congrArg Performed.effect hsettle)
  · exact fun h ↦ h.after hrest r

/-- Who holds a key and is allowed to end its initialization has settled the key then. -/
theorem settled_of_making {key : ResourceKey} {ticket : Nat} {outcome : Except Error String}
    {during : List Performed} (hhold : c.hold = .making key ticket during)
    {next : Unit → Program (Except Error String)}
    (hrest : c.rest = .perform (.settle c.registry.store key ticket outcome) next) :
    (c.after hrest ()).Settled key ticket outcome := by
  obtain ⟨store, before, hpast⟩ := Hold.exists_of_making hhold
  have hallowed := allows hrest
  rw [hhold] at hallowed
  obtain ⟨rfl, -⟩ := looks_up (hpast ▸ List.mem_append_right _ List.mem_cons_self)
  refine ⟨before, during, [], ?_, hallowed.2.2.2⟩
  show c.past ++ [⟨.settle c.registry.store key ticket outcome, ()⟩] = _
  rw [hpast, List.append_assoc]
  rfl

/-- A call that has found no key vacant has made no broker calls. -/
theorem tried_eq_nil
    (hnone : ∀ store key ticket, ⟨.lookup store key, .vacant ticket⟩ ∉ c.past) :
    Provisioning.tried c.past = [] :=
  (Registry.behaves_resolve ..).tried_eq_nil nofun c.led hnone

end Resolution

/-- A store, and the calls that have been made to resolve names on it. -/
structure Resolutions where
  store : Store := {}
  calls : List Resolution := []

namespace Resolutions

inductive Event where
  | begun (registry : Registry) (typeName : String) (kind : ResourceKind)
  | performed (call : Nat) (p : Performed)

/-- Whether an event is the success of an initialization. -/
def Event.provides (key : ResourceKey) : Event → Bool
  | .performed _ ⟨.settle _ settled _ (.ok _), _⟩ => settled = key
  | _ => false

/-- What may happen next. -/
inductive Step (name : StoreName) : Resolutions → Event → Resolutions → Prop
  | start (s : Resolutions) {registry : Registry} (hstore : registry.store = name)
    (typeName : String) (kind : ResourceKind) :
    Step name s (.begun registry typeName kind)
      { s with calls := s.calls ++ [.start registry typeName kind] }
  | perform {s : Resolutions} {i : Nat} {c : Resolution} (hc : s.calls[i]? = some c) {e : Effect}
    {next : e.Result → Program (Except Error String)} (hrest : c.rest = .perform e next)
    {r : e.Result} {store : Store} (hacts : s.store.Acts name ⟨e, r⟩ store) :
    Step name s (.performed i ⟨e, r⟩) ⟨store, s.calls.set i (c.after hrest r)⟩

inductive Run (name : StoreName) : Resolutions → List Event → Resolutions → Prop
  | refl (s : Resolutions) : Run name s [] s
  | step {s t u : Resolutions} {es : List Event} {e : Event} (h : Run name s es t)
    (hstep : Step name t e u) : Run name s (es ++ [e]) u

/-- Whether a call holds a key. -/
def Makes (s : Resolutions) (i : Nat) (key : ResourceKey) (ticket : Nat) : Prop :=
  ∃ c during, s.calls[i]? = some c ∧ c.hold = .making key ticket during

/-- Whether a key was made, with an outcome. -/
def Settled (s : Resolutions) (key : ResourceKey) (ticket : Nat) (outcome : Except Error String) :
    Prop :=
  ∃ c ∈ s.calls, c.Settled key ticket outcome

end Resolutions

end MessageBus
