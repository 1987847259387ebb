import MessageBus.Proofs.Provisioning.Resolution
/-!
Attempts to resolve a name that are made one at a time. An attempt runs at a site, which is a broker
and the store that remembers addresses, and reaches the broker over a line. A sound line carries
every call and brings its reply back; on a faulty one, a call can also fail before it has taken
effect, or after it (`Line.Carries`). An execution is a trace of the attempt that both the line and
the store can play (`Site.Executes`). Where no initialization is under way in the store, there is
one from every site (`Site.exists_executes`), and an attempt finds an address in the store or is
alone in making it (`Obtains.of_atRest`).
-/

set_option autoImplicit false
set_option relaxedAutoImplicit false

namespace MessageBus

def Effect.IsCall : Effect → Prop
  | .call _ => True
  | _ => False

inductive Line where
  | sound
  | faulty

namespace Line

/-- What can become of a call, and the broker that this leaves. -/
inductive Carries : Line → Broker → (c : Call) → Except Error c.Reply → Broker → Prop
  | answered (line : Line) {b b' : Broker} {m : Moment} {c : Call} {reply : c.Reply}
    (h : b.answer m c = .ok (reply, b')) : Carries line b c (.ok reply) b'
  | refused (line : Line) {b : Broker} {m : Moment} {c : Call} {e : Error}
    (h : b.answer m c = .error e) : Carries line b c (.error e) b
  /-- The call does not reach the broker. -/
  | lost (b : Broker) (c : Call) (e : Error) : Carries .faulty b c (.error e) b
  /-- The reply does not come back. -/
  | unconfirmed {b b' : Broker} {m : Moment} {c : Call} {reply : c.Reply}
    (h : b.answer m c = .ok (reply, b')) (e : Error) : Carries .faulty b c (.error e) b'

/-- How a broker changes while effects are performed over a line. -/
inductive Plays (line : Line) : Broker → List Performed → Broker → Prop
  | nil (b : Broker) : Plays line b [] b
  | call {b b' b'' : Broker} {c : Call} {reply : Except Error c.Reply} {rest : List Performed}
    (h : line.Carries b c reply b') (hrest : Plays line b' rest b'') :
    Plays line b (⟨.call c, reply⟩ :: rest) b''
  | other {b b' : Broker} {p : Performed} {rest : List Performed} (hp : ¬ p.effect.IsCall)
    (hrest : Plays line b rest b') : Plays line b (p :: rest) b'

variable {line : Line} {b b' : Broker} {c : Call} {past rest : List Performed}

theorem Carries.of_ok {reply : c.Reply} (h : line.Carries b c (.ok reply) b') :
    ∃ m, b.answer m c = .ok (reply, b') := by
  cases h with
  | answered line h => exact ⟨_, h⟩

/-- A call that failed was answered or has changed nothing. -/
theorem Carries.of_error {e : Error} (h : line.Carries b c (.error e) b') :
    b' = b ∨ ∃ m reply, b.answer m c = .ok (reply, b') := by
  cases h with
  | refused | lost => exact .inl rfl
  | unconfirmed h => exact .inr ⟨_, _, h⟩

/-- On a sound line a call that failed was refused. -/
theorem Carries.of_sound {e : Error} (h : sound.Carries b c (.error e) b') :
    b' = b ∧ ∃ m, b.answer m c = .error e := by
  cases h with
  | refused line h => exact ⟨rfl, _, h⟩

theorem exists_carries (line : Line) (b : Broker) (m : Moment) (c : Call) :
    ∃ reply b', line.Carries b c reply b' := by
  cases h : b.answer m c with
  | ok answer => exact ⟨_, _, .answered line h⟩
  | error e => exact ⟨_, _, .refused line h⟩

namespace Plays

theorem of_nil (h : line.Plays b [] b') : b' = b := by
  cases h
  rfl

theorem of_call {reply : Except Error c.Reply} (h : line.Plays b (⟨.call c, reply⟩ :: rest) b') :
    ∃ u, line.Carries b c reply u ∧ line.Plays u rest b' := by
  cases h with
  | call h hrest => exact ⟨_, h, hrest⟩
  | other hp => exact absurd trivial hp

theorem of_other {p : Performed} (h : line.Plays b (p :: rest) b') (hp : ¬ p.effect.IsCall) :
    line.Plays b rest b' := by
  cases h with
  | call => exact absurd trivial hp
  | other _ hrest => exact hrest

theorem append {u : Broker} (h : line.Plays b past u) (hrest : line.Plays u rest b') :
    line.Plays b (past ++ rest) b' := by
  induction h with
  | nil => exact hrest
  | call h _ ih => exact .call h (ih hrest)
  | other hp _ ih => exact .other hp (ih hrest)

theorem of_append (h : line.Plays b (past ++ rest) b') :
    ∃ u, line.Plays b past u ∧ line.Plays u rest b' := by
  induction past generalizing b with
  | nil => exact ⟨b, .nil b, h⟩
  | cons p past ih =>
    cases h with
    | call h hrest =>
      obtain ⟨u, hpast, hlast⟩ := ih hrest
      exact ⟨u, .call h hpast, hlast⟩
    | other hp hrest =>
      obtain ⟨u, hpast, hlast⟩ := ih hrest
      exact ⟨u, .other hp hpast, hlast⟩

/-- A faulty line can carry everything. -/
theorem faulty (h : sound.Plays b past b') : Line.faulty.Plays b past b' := by
  induction h with
  | nil b => exact .nil b
  | call hcarries _ ih =>
    refine .call ?_ ih
    cases hcarries with
    | answered _ h => exact .answered _ h
    | refused _ h => exact .refused _ h
  | other hp _ ih => exact .other hp ih

/-- What every call that is answered keeps is kept while effects are performed. -/
theorem keeps {P : Broker → Prop}
    (hanswer : ∀ {b m c reply b'}, b.answer m c = .ok (reply, b') → P b → P b')
    (h : line.Plays b past b') (hb : P b) : P b' := by
  induction h with
  | nil => exact hb
  | call hcarries hrest ih =>
    apply ih
    cases hcarries with
    | answered line h => exact hanswer h hb
    | refused | lost => exact hb
    | unconfirmed h => exact hanswer h hb
  | other hp hrest ih => exact ih hb

end Plays

end Line

namespace Store

/-- How a store changes while effects are performed. -/
inductive Plays (name : StoreName) : Store → List Performed → Store → Prop
  | nil (s : Store) : Plays name s [] s
  | step {s t u : Store} {p : Performed} {rest : List Performed} (h : s.Acts name p t)
    (hrest : Plays name t rest u) : Plays name s (p :: rest) u

/-- Whether no initialization is under way. -/
def AtRest (s : Store) : Prop := ∀ key, s.pending.find? key = none

variable {name : StoreName} {s t : Store} {past rest : List Performed}

namespace Acts

theorem of_lookup {store : StoreName} {key : ResourceKey} {r : Lookup}
    (h : s.Acts name ⟨.lookup store key, r⟩ t) : r = (s.lookup key).1 ∧ t = (s.lookup key).2 := by
  generalize hp : (⟨.lookup store key, r⟩ : Performed) = p at h
  cases h with
  | lookup =>
    cases hp
    exact ⟨rfl, rfl⟩
  | await | settle => cases hp
  | other hprovisions =>
    subst hp
    exact hprovisions.elim

theorem of_settle {store : StoreName} {key : ResourceKey} {ticket : Nat}
    {outcome : Except Error String} (h : s.Acts name ⟨.settle store key ticket outcome, ()⟩ t) :
    t = s.settle key ticket outcome := by
  generalize hp : (⟨.settle store key ticket outcome, ()⟩ : Performed) = p at h
  cases h with
  | settle =>
    cases hp
    rfl
  | lookup | await => cases hp
  | other hprovisions =>
    subst hp
    exact hprovisions.elim

end Acts

namespace Plays

theorem of_nil (h : s.Plays name [] t) : t = s := by
  cases h
  rfl

theorem of_step {p : Performed} (h : s.Plays name (p :: rest) t) :
    ∃ u, s.Acts name p u ∧ u.Plays name rest t := by
  cases h with
  | step h hrest => exact ⟨_, h, hrest⟩

theorem append {u : Store} (h : s.Plays name past u) (hrest : u.Plays name rest t) :
    s.Plays name (past ++ rest) t := by
  induction h with
  | nil => exact hrest
  | step h _ ih => exact .step h (ih hrest)

theorem of_append (h : s.Plays name (past ++ rest) t) :
    ∃ u, s.Plays name past u ∧ u.Plays name rest t := by
  induction past generalizing s with
  | nil => exact ⟨s, .nil s, h⟩
  | cons p past ih =>
    obtain ⟨u, hacts, hu⟩ := h.of_step
    obtain ⟨v, hpast, hlast⟩ := ih hu
    exact ⟨v, .step hacts hpast, hlast⟩

/-- The steps of provisioning pass a store by. -/
theorem eq_of_provisions (h : s.Plays name past t) (hpast : ∀ p ∈ past, p.effect.Provisions) :
    t = s := by
  induction h with
  | nil => rfl
  | @step s t u p rest hacts _ ih =>
    obtain ⟨hp, hrest⟩ := List.forall_mem_cons.mp hpast
    rw [ih hrest]
    cases hacts with
    | other => rfl
    | lookup | await | settle => exact hp.elim

theorem of_provisions (s : Store) (hpast : ∀ p ∈ past, p.effect.Provisions) :
    s.Plays name past s := by
  induction past with
  | nil => exact .nil s
  | cons p past ih =>
    obtain ⟨hp, hpast⟩ := List.forall_mem_cons.mp hpast
    exact .step (.other s hp) (ih hpast)

end Plays

theorem lookup_of_get? {key : ResourceKey} {address : String} (h : s.get? key = some address) :
    s.lookup key = (.found address, s) := by
  rw [get?] at h
  rw [lookup, h]

theorem AtRest.lookup_eq (hs : s.AtRest) {key : ResourceKey} (h : s.get? key = none) :
    s.lookup key = (.vacant s.tickets,
      { s with pending := s.pending.insert key s.tickets, tickets := s.tickets + 1 }) := by
  rw [get?] at h
  rw [lookup, h, hs key]

theorem AtRest.settle_lookup (hs : s.AtRest) (key : ResourceKey) (ticket : Nat)
    (outcome : Except Error String) (h : s.get? key = none) :
    ((s.lookup key).2.settle key ticket outcome).AtRest := by
  intro other
  rw [hs.lookup_eq h]
  show ((s.pending.insert key s.tickets).erase key).find? other = none
  rw [Table.find?_erase]
  split
  · rfl
  · next hne => rw [Table.find?_insert, if_neg hne, hs other]

/-- After an initialization there is an address under the key, unless it failed. -/
theorem AtRest.get?_settle_lookup (hs : s.AtRest) (key : ResourceKey) (ticket : Nat)
    (outcome : Except Error String) (h : s.get? key = none) (other : ResourceKey) :
    ((s.lookup key).2.settle key ticket outcome).get? other =
      if key = other then outcome.toOption else s.get? other := by
  rw [hs.lookup_eq h]
  cases outcome with
  | ok address => exact Table.find?_insert ..
  | error e =>
    show s.get? other = _
    split
    · next heq => exact heq ▸ h
    · rfl

end Store

/-- Where the store is at rest, who comes to an address finds it, or makes it and leaves it in the
store. The line sees nothing but what is done to make it. -/
theorem Obtains.of_atRest {name : StoreName} {key : ResourceKey}
    {Init : List Performed → Except Error String → Prop} {past : List Performed}
    {outcome : Except Error String} {s t : Store} (h : Obtains name key Init past outcome)
    (hinit : ∀ {during outcome}, Init during outcome → ∀ p ∈ during, p.effect.Provisions)
    (hs : s.AtRest) (hplays : s.Plays name past t) :
    (∃ address, s.get? key = some address ∧ outcome = .ok address ∧ t = s ∧
      ∀ {line : Line} {b b' : Broker}, line.Plays b past b' → b' = b) ∨
    (s.get? key = none ∧ t.AtRest ∧
      (∀ other, t.get? other = if key = other then outcome.toOption else s.get? other) ∧
      ∃ during, Init during outcome ∧
        ∀ {line : Line} {b b' : Broker}, line.Plays b past b' → line.Plays b during b') := by
  cases h with
  | found address =>
    obtain ⟨u, hlookup, hrest⟩ := hplays.of_step
    obtain ⟨hfound, rfl⟩ := hlookup.of_lookup
    cases hget : s.get? key with
    | none =>
      rw [hs.lookup_eq hget] at hfound
      cases hfound
    | some other =>
      rw [Store.lookup_of_get? hget] at hfound hrest
      obtain rfl := Lookup.found.inj hfound
      refine .inl ⟨address, rfl, rfl, hrest.of_nil, fun hline ↦ ?_⟩
      exact (hline.of_other id).of_nil
  | shared ticket outcome =>
    obtain ⟨u, hlookup, -⟩ := hplays.of_step
    obtain ⟨hbusy, -⟩ := hlookup.of_lookup
    cases hget : s.get? key with
    | none =>
      rw [hs.lookup_eq hget] at hbusy
      cases hbusy
    | some other =>
      rw [Store.lookup_of_get? hget] at hbusy
      cases hbusy
  | @made ticket during _ hduring =>
    obtain ⟨u, hlookup, hrest⟩ := hplays.of_step
    obtain ⟨hvacant, rfl⟩ := hlookup.of_lookup
    cases hget : s.get? key with
    | some other =>
      rw [Store.lookup_of_get? hget] at hvacant
      cases hvacant
    | none =>
      obtain ⟨v, hplayed, hlast⟩ := hrest.of_append
      obtain rfl := hplayed.eq_of_provisions (hinit hduring)
      obtain ⟨w, hsettle, hend⟩ := hlast.of_step
      obtain rfl := hsettle.of_settle
      obtain rfl := hend.of_nil
      refine .inr ⟨rfl, hs.settle_lookup _ _ _ hget, hs.get?_settle_lookup _ _ _ hget, during,
        hduring, fun hline ↦ ?_⟩
      obtain ⟨x, hmade, hsettled⟩ := (hline.of_other id).of_append
      obtain rfl := (hsettled.of_other id).of_nil
      exact hmade

/-- A broker, and a store that remembers addresses. -/
structure Site where
  broker : Broker
  store : Store

namespace Site

/-- How a site changes while effects are performed. -/
structure Plays (line : Line) (name : StoreName) (s : Site) (past : List Performed) (t : Site) :
    Prop where
  broker : line.Plays s.broker past t.broker
  store : s.store.Plays name past t.store

/-- An attempt to resolve a type's topic or queue, from one site to another. -/
def Executes (line : Line) (r : Registry) (typeName : String) (kind : ResourceKind) (s t : Site)
    (outcome : Except Error String) : Prop :=
  ∃ past, (r.resolve typeName kind).run.Leads past (.done outcome) ∧ s.Plays line r.store past t

variable {line : Line} {name : StoreName} {s t u : Site} {past rest : List Performed}

theorem Executes.faulty {r : Registry} {typeName : String} {kind : ResourceKind}
    {outcome : Except Error String} (h : s.Executes .sound r typeName kind t outcome) :
    s.Executes .faulty r typeName kind t outcome := by
  obtain ⟨past, hleads, hplays⟩ := h
  exact ⟨past, hleads, hplays.broker.faulty, hplays.store⟩

theorem Plays.append (h : s.Plays line name past t) (hrest : t.Plays line name rest u) :
    s.Plays line name (past ++ rest) u :=
  ⟨h.broker.append hrest.broker, h.store.append hrest.store⟩

theorem Plays.of_append (h : s.Plays line name (past ++ rest) u) :
    ∃ t, s.Plays line name past t ∧ t.Plays line name rest u := by
  obtain ⟨b, hbefore, hafter⟩ := h.broker.of_append
  obtain ⟨store, hstored, hlast⟩ := h.store.of_append
  exact ⟨⟨b, store⟩, ⟨hbefore, hstored⟩, ⟨hafter, hlast⟩⟩

/-- A program that only takes steps of provisioning can be executed everywhere. -/
theorem exists_plays_of_provisions {α : Type} {p : Program α} (hp : p.All Effect.Provisions)
    (line : Line) (name : StoreName) (s : Site) :
    ∃ past a b, p.Leads past (.done a) ∧ s.Plays line name past ⟨b, s.store⟩ := by
  suffices hbroker : ∃ past a b, p.Leads past (.done a) ∧ line.Plays s.broker past b by
    obtain ⟨past, a, b, hleads, hplays⟩ := hbroker
    exact ⟨past, a, b, hleads, hplays, .of_provisions s.store (hp.of_leads hleads).1⟩
  generalize s.broker = b
  induction p generalizing b with
  | done a => exact ⟨[], a, b, .refl _, .nil b⟩
  | perform e next ih =>
    by_cases he : e.IsCall
    · cases e with
      | call c =>
        obtain ⟨reply, u, hcarries⟩ := line.exists_carries b ⟨0, .epoch, 0⟩ c
        obtain ⟨past, a, v, hleads, hplays⟩ := ih reply (hp.2 reply) u
        exact ⟨_, a, v, .step hleads, .call hcarries hplays⟩
      | _ => exact he.elim
    · obtain ⟨r⟩ := e.nonempty_result
      obtain ⟨past, a, v, hleads, hplays⟩ := ih r (hp.2 r) b
      exact ⟨_, a, v, .step hleads, .other he hplays⟩

theorem exists_plays_getOrSet {init : Attempt String} (hinit : init.run.All Effect.Provisions)
    (line : Line) (name : StoreName) (key : ResourceKey) (hs : s.store.AtRest) :
    ∃ past outcome t, (Attempt.getOrSet name key init).run.Leads past (.done outcome) ∧
      s.Plays line name past t ∧ t.store.AtRest := by
  have hlookup : s.Plays line name [⟨.lookup name key, (s.store.lookup key).1⟩]
      ⟨s.broker, (s.store.lookup key).2⟩ :=
    ⟨.other id (.nil _), .step (.lookup ..) (.nil _)⟩
  cases hget : s.store.get? key with
  | some address =>
    rw [Store.lookup_of_get? hget] at hlookup
    exact ⟨_, _, s, .step (.refl _), hlookup, hs⟩
  | none =>
    obtain ⟨during, outcome, b, hleads, hplays⟩ :=
      exists_plays_of_provisions hinit line name ⟨s.broker, (s.store.lookup key).2⟩
    have hsettle : Plays line name ⟨b, (s.store.lookup key).2⟩
        [⟨.settle name key s.store.tickets outcome, ()⟩]
        ⟨b, (s.store.lookup key).2.settle key s.store.tickets outcome⟩ :=
      ⟨.other id (.nil _), .step (.settle ..) (.nil _)⟩
    have hvacant : (s.store.lookup key).1 = .vacant s.store.tickets := by rw [hs.lookup_eq hget]
    rw [hvacant] at hlookup
    have hobtains : Obtains name key (fun during made ↦ init.run.Leads during (.done made)) _
        outcome := .made s.store.tickets hleads
    exact ⟨_, outcome, _, hobtains.leads id, hlookup.append (hplays.append hsettle),
      hs.settle_lookup _ _ _ hget⟩

/-- Where no initialization is under way, an attempt comes to its end. -/
theorem exists_executes (line : Line) (r : Registry) (typeName : String) (kind : ResourceKind)
    (hs : s.store.AtRest) : ∃ t outcome, s.Executes line r typeName kind t outcome := by
  obtain ⟨before, made, t, hbefore, hplays, ht⟩ :=
    exists_plays_getOrSet (Provisioning.all_ensureTopic (r.naming.topicName typeName)) line r.store
      (r.key typeName .topic) hs
  have htopic := Attempt.leads_mapError hbefore
    (f := Error.asResolution "topic" (r.naming.topicName typeName))
  cases kind with
  | topic => exact ⟨t, _, before, htopic, hplays⟩
  | queue =>
    cases made with
    | error e => exact ⟨t, _, before, Attempt.leads_andThen_of_error htopic, hplays⟩
    | ok topicArn =>
      obtain ⟨after, outcome, u, hafter, hlast, -⟩ :=
        exists_plays_getOrSet
          (Provisioning.all_ensureSubscription topicArn (r.naming.queueName typeName)
            (r.naming.errorQueueName typeName) r.settings.maxReceiveCount)
          line r.store (r.key typeName .queue) ht
      exact ⟨u, _, before ++ after,
        Attempt.leads_andThen htopic (Attempt.leads_mapError hafter), hplays.append hlast⟩

end Site

end MessageBus
