import MessageBus.Proofs.Settings.Layer
import MessageBus.Registry.Basic
import MessageBus.Subscriber.Basic
/-!
What loading yields, setting by setting. Every number among the settings, the convention of the
naming and, for a scoped naming, stage and service are decided on their own: by the environment if
it gives the key a value, else by the file, else by the built-in layer (`chosen`). The settings that
are loaded are the ones that these choices convert to (`Decides`), and loading fails exactly if a
choice is missing, does not convert or is out of range (`Faulty`).

What becomes of a number that is too large for its field is up to the library (`Narrowing`), and the
statements hold whatever it does. A number in the range of a setting fits its field and is loaded
as it is (`number?_of_inRange`); where numbers that do not fit are refused, every number out of
range is at fault (`faulty_of_not_inRange`).

The three layers leave a tree in which every section is a table that has at least the built-in
keys, so the defaults of the conversion never come in (`ofSetting?_eq_some_iff`); what is under a
key of a section was settled layer by layer (`valueOf_sectionOf_overlay`).
-/

set_option autoImplicit false
set_option relaxedAutoImplicit false

namespace MessageBus

open Setting

/-! ### The sections of a tree -/

namespace Setting

theorem isTable_setOutermost (root : Setting) (key : String) (v : Setting) :
    (setOutermost root key v).isTable := by
  unfold setOutermost
  cases hread : PathStep.read? (lowerKey key).toList with
  | none => rfl
  | some path =>
    obtain ⟨k, rest, rfl, -⟩ := PathStep.read?_lowered hread (isLowered_lowerKey key)
    cases rest <;> rfl

theorem isTable_overlay {root : Setting} (h : root.isTable) (layer : List (String × Setting)) :
    (overlay root layer).isTable := by
  induction layer generalizing root with
  | nil => exact h
  | cons e layer ih => exact ih (isTable_setOutermost root e.1 e.2)

/-- A section that gives a value to some key is there, as a table. -/
theorem HasTable.valueOf_eq {part key : String} {root : Setting} (h : HasTable part root)
    (hkey : (valueOf key (sectionOf part root)).isSome) :
    valueOf part root.entries = some (table (sectionOf part root)) := by
  rw [sectionOf] at hkey ⊢
  cases hval : valueOf part root.entries with
  | none =>
    rw [hval] at hkey
    cases hkey
  | some v =>
    obtain ⟨es, rfl⟩ := isTable_iff.mp (h v hval)
    rfl

theorem orDefault_of_isSome {α : Type} (read : Setting → Option α) (default : α)
    {v : Option Setting} (h : v.isSome) : orDefault read default v = v.bind read := by
  obtain ⟨w, rfl⟩ := Option.isSome_iff_exists.mp h
  rfl

end Setting

/-! ### Converting the sections -/

namespace Naming

/-- The convention that a naming follows. -/
def convention : Naming → String
  | .plain => plainConvention
  | .scoped .. => scopedConvention

theorem violation?_eq_none_iff {n : Naming} :
    n.violation? = none ↔
      ∀ stage service, n = .scoped stage service → stage ≠ "" ∧ service ≠ "" := by
  match n with
  | .plain => simp [violation?]
  | .scoped stage service =>
    by_cases hstage : stage = "" <;> by_cases hservice : service = "" <;>
      simp [violation?, hstage, hservice]

theorem ofSetting?_table_eq_some_iff {es : List (String × Setting)} {n : Naming} :
    Naming.ofSetting? (.table es) = some n ↔
      (valueOf conventionKey es).bind text? = some n.convention
        ∧ ∀ stage service, n = .scoped stage service →
          (valueOf "stage" es).bind text? = some stage
            ∧ (valueOf "service" es).bind text? = some service := by
  have hne : scopedConvention ≠ plainConvention := by decide
  simp only [ofSetting?, Option.bind_eq_bind, ← Option.bind_assoc]
  cases hconvention : (valueOf conventionKey es).bind text? with
  | none => simp
  | some convention =>
    rw [Option.bind_some, Option.some.injEq]
    by_cases hplain : convention = plainConvention
    · subst hplain
      match n with
      | .plain => simp [Naming.convention]
      | .scoped .. => simp [Naming.convention, hne.symm]
    rw [if_neg hplain]
    by_cases hscoped : convention = scopedConvention
    · subst hscoped
      match n with
      | .plain => simp [Naming.convention, hne, Option.bind_eq_some_iff]
      | .scoped stage service => simp [Naming.convention, Option.bind_eq_some_iff]
    · match n with
      | .plain => simp [Naming.convention, hscoped, hplain]
      | .scoped .. => simp [Naming.convention, hscoped]

end Naming

theorem RegistrySettings.ofSetting?_table_eq_some_iff {narrowing : Narrowing}
    {es : List (String × Setting)} {s : RegistrySettings}
    (hcount : (valueOf "max_receive_count" es).isSome) :
    RegistrySettings.ofSetting? narrowing (.table es) = some s ↔
      (valueOf "max_receive_count" es).bind (natBelow? narrowing halfWordBound)
        = some s.maxReceiveCount := by
  simp only [ofSetting?, fields?, fieldNames, List.map_cons, List.map_nil, Option.bind_eq_bind,
    Option.bind_some, orDefault_of_isSome _ _ hcount]
  cases (valueOf "max_receive_count" es).bind (natBelow? narrowing halfWordBound) with
  | none => simp
  | some n =>
    cases s
    simp

theorem SubscriberSettings.ofSetting?_table_eq_some_iff {narrowing : Narrowing}
    {es : List (String × Setting)} {s : SubscriberSettings}
    (h : ∀ name ∈ fieldNames, (valueOf name es).isSome) :
    SubscriberSettings.ofSetting? narrowing (.table es) = some s ↔
      (valueOf "max_number_of_messages" es).bind (natBelow? narrowing halfWordBound)
          = some s.maxNumberOfMessages
        ∧ (valueOf "receive_interval_ms" es).bind (natBelow? narrowing wordBound)
          = some s.receiveIntervalMs
        ∧ (valueOf "wait_time_seconds" es).bind (natBelow? narrowing halfWordBound)
          = some s.waitTimeSeconds
        ∧ (valueOf "visibility_timeout_seconds" es).bind (natBelow? narrowing halfWordBound)
          = some s.visibilityTimeoutSeconds
        ∧ (valueOf "max_in_flight" es).bind (natBelow? narrowing wordBound)
          = some s.maxInFlight := by
  simp only [fieldNames, List.forall_mem_cons] at h
  obtain ⟨hmessages, hinterval, hwait, hvisibility, hflight, -⟩ := h
  simp only [ofSetting?, fields?, fieldNames, List.map_cons, List.map_nil, Option.bind_eq_bind,
    Option.bind_some, orDefault_of_isSome _ _ hmessages, orDefault_of_isSome _ _ hinterval,
    orDefault_of_isSome _ _ hwait, orDefault_of_isSome _ _ hvisibility,
    orDefault_of_isSome _ _ hflight]
  simp only [Option.bind_eq_some_iff, Option.some.injEq]
  constructor
  · rintro ⟨messages, h1, interval, h2, wait, h3, visibility, h4, inFlight, h5, rfl⟩
    exact ⟨h1, h2, h3, h4, h5⟩
  · rintro ⟨h1, h2, h3, h4, h5⟩
    exact ⟨_, h1, _, h2, _, h3, _, h4, _, h5, rfl⟩

theorem Settings.ofSetting?_table_eq_some_iff {narrowing : Narrowing}
    {es : List (String × Setting)} {c : Settings} {naming registry subscriber : Setting}
    (hnaming : valueOf "naming" es = some naming)
    (hregistry : valueOf "registry" es = some registry)
    (hsubscriber : valueOf "subscriber" es = some subscriber) :
    Settings.ofSetting? narrowing (.table es) = some c ↔
      Naming.ofSetting? naming = some c.naming
        ∧ RegistrySettings.ofSetting? narrowing registry = some c.registry
        ∧ SubscriberSettings.ofSetting? narrowing subscriber = some c.subscriber := by
  simp only [ofSetting?, fields?, fieldNames, List.map_cons, List.map_nil, Option.bind_eq_bind,
    Option.bind_some, orDefault, hnaming, hregistry, hsubscriber, Option.bind_eq_some_iff,
    Option.some.injEq]
  constructor
  · rintro ⟨naming, hn, registry, hr, subscriber, hs, rfl⟩
    exact ⟨hn, hr, hs⟩
  · rintro ⟨hn, hr, hs⟩
    exact ⟨_, hn, _, hr, _, hs, rfl⟩

/-! ### Settings by their keys -/

namespace Settings

/-- The settings that are numbers. -/
inductive NumberKey where
  | maxReceiveCount
  | maxNumberOfMessages
  | receiveIntervalMs
  | waitTimeSeconds
  | visibilityTimeoutSeconds
  | maxInFlight
deriving DecidableEq, Repr

namespace NumberKey

def part : NumberKey → String
  | maxReceiveCount => "registry"
  | _ => "subscriber"

def name : NumberKey → String
  | maxReceiveCount => "max_receive_count"
  | maxNumberOfMessages => "max_number_of_messages"
  | receiveIntervalMs => "receive_interval_ms"
  | waitTimeSeconds => "wait_time_seconds"
  | visibilityTimeoutSeconds => "visibility_timeout_seconds"
  | maxInFlight => "max_in_flight"

/-- The numbers that the setting can hold lie below this one. -/
def bound : NumberKey → Nat
  | receiveIntervalMs => wordBound
  | maxInFlight => wordBound
  | _ => halfWordBound

def InRange : NumberKey → Nat → Prop
  | maxReceiveCount, n => 1 ≤ n ∧ n ≤ 1000
  | maxNumberOfMessages, n => 1 ≤ n ∧ n ≤ 10
  | receiveIntervalMs, n => 0 < n
  | waitTimeSeconds, n => n ≤ 20
  | visibilityTimeoutSeconds, n => n ≤ 43200
  | maxInFlight, n => 0 < n

theorem InRange.lt_bound {k : NumberKey} {n : Nat} (h : k.InRange n) (hn : n < wordBound) :
    n < k.bound := by
  cases k with
  | receiveIntervalMs => exact hn
  | maxInFlight => exact hn
  | maxReceiveCount => exact Nat.lt_of_le_of_lt h.2 (by decide)
  | maxNumberOfMessages => exact Nat.lt_of_le_of_lt h.2 (by decide)
  | waitTimeSeconds => exact Nat.lt_of_le_of_lt h (by decide)
  | visibilityTimeoutSeconds => exact Nat.lt_of_le_of_lt h (by decide)

theorem forall_iff {P : NumberKey → Prop} :
    (∀ k, P k) ↔ P maxReceiveCount ∧ P maxNumberOfMessages ∧ P receiveIntervalMs
      ∧ P waitTimeSeconds ∧ P visibilityTimeoutSeconds ∧ P maxInFlight := by
  constructor
  · intro h
    exact ⟨h _, h _, h _, h _, h _, h _⟩
  · rintro ⟨h₁, h₂, h₃, h₄, h₅, h₆⟩ k
    cases k <;> assumption

end NumberKey

/-- The number that the settings have under a key. -/
def number (c : Settings) : NumberKey → Nat
  | .maxReceiveCount => c.registry.maxReceiveCount
  | .maxNumberOfMessages => c.subscriber.maxNumberOfMessages
  | .receiveIntervalMs => c.subscriber.receiveIntervalMs
  | .waitTimeSeconds => c.subscriber.waitTimeSeconds
  | .visibilityTimeoutSeconds => c.subscriber.visibilityTimeoutSeconds
  | .maxInFlight => c.subscriber.maxInFlight

theorem violation?_eq_none_iff {c : Settings} :
    c.violation? = none ↔ c.naming.violation? = none ∧ ∀ k : NumberKey, k.InRange (c.number k) := by
  rw [NumberKey.forall_iff]
  have hregistry : c.registry.violation? = none ↔
      NumberKey.maxReceiveCount.InRange (c.number .maxReceiveCount) := by
    simp [RegistrySettings.violation?, NumberKey.InRange, number]
  have hsubscriber : c.subscriber.violation? = none ↔
      NumberKey.maxNumberOfMessages.InRange (c.number .maxNumberOfMessages)
        ∧ NumberKey.receiveIntervalMs.InRange (c.number .receiveIntervalMs)
        ∧ NumberKey.waitTimeSeconds.InRange (c.number .waitTimeSeconds)
        ∧ NumberKey.visibilityTimeoutSeconds.InRange (c.number .visibilityTimeoutSeconds)
        ∧ NumberKey.maxInFlight.InRange (c.number .maxInFlight) :=
    SubscriberSettings.violation?_eq_none_iff
  simp only [violation?, Option.orElse_eq_orElse, Option.orElse_eq_or, Option.or_eq_none_iff,
    hregistry, hsubscriber]

/-- A value for each key of each section, as far as there is one. -/
abbrev Choice := String → String → Option Setting

namespace Choice

/-- The number that is chosen for a key, however large. -/
def word? (choice : Choice) (k : NumberKey) : Option Nat :=
  (choice k.part k.name).bind Setting.word?

/-- The number that the choice of a key converts to. -/
def number? (choice : Choice) (narrowing : Narrowing) (k : NumberKey) : Option Nat :=
  (choice.word? k).bind (narrowing.below? k.bound)

/-- The text that is chosen for a key of the naming. -/
def namingText? (choice : Choice) (key : String) : Option String :=
  (choice "naming" key).bind text?

theorem number?_eq_bind (choice : Choice) (narrowing : Narrowing) (k : NumberKey) :
    choice.number? narrowing k = (choice k.part k.name).bind (natBelow? narrowing k.bound) :=
  Option.bind_assoc ..

/-- The settings are what the choices convert to, one by one. -/
structure Decides (choice : Choice) (narrowing : Narrowing) (c : Settings) : Prop where
  number : ∀ k, choice.number? narrowing k = some (c.number k)
  convention : choice.namingText? Naming.conventionKey = some c.naming.convention
  names : ∀ stage service, c.naming = .scoped stage service →
    choice.namingText? "stage" = some stage ∧ choice.namingText? "service" = some service

/-- A choice that matters is missing, does not convert or is out of range. -/
inductive Faulty (choice : Choice) (narrowing : Narrowing) : Prop where
  | number (k : NumberKey) (h : ∀ n, choice.number? narrowing k = some n → ¬ k.InRange n)
  | convention (h : ∀ convention, choice.namingText? Naming.conventionKey = some convention →
      convention ≠ Naming.plainConvention ∧ convention ≠ Naming.scopedConvention)
  | name (key : String) (hkey : key = "stage" ∨ key = "service")
      (hscoped : choice.namingText? Naming.conventionKey = some Naming.scopedConvention)
      (h : ∀ name, choice.namingText? key = some name → name = "")

/-- A number in range is taken as it is, however other numbers are narrowed. -/
theorem number?_of_inRange {choice : Choice} (narrowing : Narrowing) {k : NumberKey} {n : Nat}
    (h : choice.word? k = some n) (hrange : k.InRange n) : choice.number? narrowing k = some n := by
  obtain ⟨v, -, hv⟩ := Option.bind_eq_some_iff.mp h
  have hn : n < wordBound := of_decide_eq_true (Option.filter_eq_some_iff.mp hv).2
  rw [number?, h]
  exact narrowing.of_lt (hrange.lt_bound hn)

/-- Where numbers that do not fit are refused, no number out of range passes for another one. -/
theorem faulty_of_not_inRange {choice : Choice} {k : NumberKey} {n : Nat}
    (h : choice.word? k = some n) (hrange : ¬ k.InRange n) : choice.Faulty .refusing := by
  refine .number k fun m hm ↦ ?_
  rw [number?, h, Option.bind_some] at hm
  rcases Option.ite_none_right_eq_some.mp hm with ⟨-, heq⟩
  exact Option.some.inj heq ▸ hrange

/-- A library that narrows otherwise may let it pass. -/
example : natBelow? .truncating halfWordBound (.integer 4294967301) = some 5 := by decide

/-- A naming in range is decided unless a choice for it is at fault. -/
theorem exists_naming {choice : Choice} {narrowing : Narrowing} (h : ¬ choice.Faulty narrowing) :
    ∃ n : Naming, choice.namingText? Naming.conventionKey = some n.convention
      ∧ (∀ stage service, n = .scoped stage service →
        choice.namingText? "stage" = some stage ∧ choice.namingText? "service" = some service)
      ∧ n.violation? = none := by
  have hname (key : String) (hkey : key = "stage" ∨ key = "service")
      (hscoped : choice.namingText? Naming.conventionKey = some Naming.scopedConvention) :
      ∃ name, choice.namingText? key = some name ∧ name ≠ "" := by
    refine Classical.byContradiction fun hno ↦ h (.name key hkey hscoped fun name hname ↦ ?_)
    exact Classical.byContradiction fun hne ↦ hno ⟨name, hname, hne⟩
  obtain ⟨convention, hconvention, hkind⟩ : ∃ convention,
      choice.namingText? Naming.conventionKey = some convention
        ∧ (convention = Naming.plainConvention ∨ convention = Naming.scopedConvention) := by
    refine Classical.byContradiction fun hno ↦ h (.convention fun convention hconvention ↦ ?_)
    exact not_or.mp fun hkind ↦ hno ⟨convention, hconvention, hkind⟩
  rcases hkind with rfl | rfl
  · exact ⟨.plain, hconvention, fun _ _ heq ↦ (nomatch heq), rfl⟩
  · obtain ⟨stage, hstage, hstage'⟩ := hname "stage" (.inl rfl) hconvention
    obtain ⟨service, hservice, hservice'⟩ := hname "service" (.inr rfl) hconvention
    refine ⟨.scoped stage service, hconvention, ?_, ?_⟩
    · rintro _ _ ⟨⟩
      exact ⟨hstage, hservice⟩
    · rw [Naming.violation?_eq_none_iff]
      rintro _ _ ⟨⟩
      exact ⟨hstage', hservice'⟩

theorem faulty_or_exists_decides (choice : Choice) (narrowing : Narrowing) :
    choice.Faulty narrowing ∨ ∃ c, choice.Decides narrowing c ∧ c.violation? = none := by
  refine Classical.or_iff_not_imp_left.mpr fun h ↦ ?_
  have hnumber (k : NumberKey) : ∃ n, choice.number? narrowing k = some n ∧ k.InRange n := by
    refine Classical.byContradiction fun hno ↦ h (.number k fun n hn hrange ↦ ?_)
    exact hno ⟨n, hn, hrange⟩
  obtain ⟨n, hn⟩ := Classical.axiomOfChoice hnumber
  obtain ⟨naming, hconvention, hnames, hnaming⟩ := exists_naming h
  let c : Settings := {
    naming
    registry := ⟨n .maxReceiveCount⟩
    subscriber := ⟨n .maxNumberOfMessages, n .receiveIntervalMs, n .waitTimeSeconds,
      n .visibilityTimeoutSeconds, n .maxInFlight⟩ }
  have hc (k : NumberKey) : c.number k = n k := by cases k <;> rfl
  refine ⟨c, ⟨fun k ↦ (hc k).symm ▸ (hn k).1, hconvention, hnames⟩, ?_⟩
  exact violation?_eq_none_iff.mpr ⟨hnaming, fun k ↦ (hc k).symm ▸ (hn k).2⟩

theorem Faulty.violation?_ne_none {choice : Choice} {narrowing : Narrowing}
    (h : choice.Faulty narrowing) {c : Settings} (hc : choice.Decides narrowing c) :
    c.violation? ≠ none := by
  intro hvalid
  rw [violation?_eq_none_iff, Naming.violation?_eq_none_iff] at hvalid
  cases h with
  | number k h => exact h _ (hc.number k) (hvalid.2 k)
  | convention h =>
    obtain ⟨hplain, hscoped⟩ := h _ hc.convention
    match hn : c.naming with
    | .plain => exact hplain (by rw [hn]; rfl)
    | .scoped .. => exact hscoped (by rw [hn]; rfl)
  | name key hkey hscoped h =>
    match hn : c.naming with
    | .plain =>
      rw [hc.convention, hn] at hscoped
      exact absurd (Option.some.inj hscoped) (by decide)
    | .scoped stage service =>
      obtain ⟨hstage, hservice⟩ := hc.names stage service hn
      obtain ⟨hstage', hservice'⟩ := hvalid.1 stage service hn
      rcases hkey with rfl | rfl
      · exact hstage' (h _ hstage)
      · exact hservice' (h _ hservice)

end Choice

/-! ### Loading -/

/-- Where the sections are tables that have at least the built-in keys, each key is converted on its
own. -/
theorem ofSetting?_eq_some_iff {narrowing : Narrowing} {root : Setting} {choice : Choice}
    (hroot : root.isTable)
    (htable : ∀ part ∈ fieldNames, HasTable part root)
    (hchoice : ∀ part ∈ fieldNames, ∀ key, valueOf key (sectionOf part root) = choice part key)
    (hnumbers : ∀ k : NumberKey, (choice k.part k.name).isSome)
    (hconvention : (choice "naming" Naming.conventionKey).isSome) (c : Settings) :
    Settings.ofSetting? narrowing root = some c ↔ choice.Decides narrowing c := by
  have hsection {part key : String} (hpart : part ∈ fieldNames) (hkey : (choice part key).isSome) :
      valueOf part root.entries = some (table (sectionOf part root)) :=
    (htable part hpart).valueOf_eq ((hchoice part hpart key).symm ▸ hkey)
  have hnaming : "naming" ∈ fieldNames := by decide
  have hregistry : "registry" ∈ fieldNames := by decide
  have hsubscriber : "subscriber" ∈ fieldNames := by decide
  obtain ⟨entries, rfl⟩ := isTable_iff.mp hroot
  simp only [entries_table] at hsection
  have hcount : (valueOf "max_receive_count" (sectionOf "registry" (table entries))).isSome := by
    rw [hchoice _ hregistry]
    exact hnumbers .maxReceiveCount
  have hfields : ∀ name ∈ SubscriberSettings.fieldNames,
      (valueOf name (sectionOf "subscriber" (table entries))).isSome := by
    simp only [hchoice _ hsubscriber]
    have h := (NumberKey.forall_iff.mp hnumbers).2
    simpa [SubscriberSettings.fieldNames, NumberKey.part, NumberKey.name] using h
  rw [ofSetting?_table_eq_some_iff (hsection hnaming hconvention)
      (hsection hregistry (hnumbers .maxReceiveCount))
      (hsection hsubscriber (hnumbers .maxInFlight)),
    Naming.ofSetting?_table_eq_some_iff,
    RegistrySettings.ofSetting?_table_eq_some_iff hcount,
    SubscriberSettings.ofSetting?_table_eq_some_iff hfields]
  simp only [hchoice _ hnaming, hchoice _ hregistry, hchoice _ hsubscriber]
  constructor
  · rintro ⟨⟨hconvention, hnames⟩, hcount, hmessages⟩
    refine ⟨?_, hconvention, hnames⟩
    simp only [Choice.number?_eq_bind]
    exact NumberKey.forall_iff.mpr ⟨hcount, hmessages⟩
  · intro h
    have hnumber := h.number
    simp only [Choice.number?_eq_bind] at hnumber
    exact ⟨⟨h.convention, h.names⟩, NumberKey.forall_iff.mp hnumber⟩

/-- The value that is decisive for a key of a section: the one of the environment, else the one of
the file, else the built-in one. -/
def chosen (file : List (String × Setting)) (env : Environment) : Choice := fun part key ↦
  (given? part key env.layer).or ((given? part key file).or (given? part key defaultLayer))

theorem isSectioned_defaultLayer : IsSectioned defaultLayer := by
  decide +kernel

theorem isSome_given?_defaultLayer (k : NumberKey) :
    (given? k.part k.name defaultLayer).isSome := by
  cases k <;> decide +kernel

theorem isSome_chosen {part key : String} (h : (given? part key defaultLayer).isSome)
    (file : List (String × Setting)) (env : Environment) : (chosen file env part key).isSome := by
  simp [chosen, Option.isSome_or, h]

section

variable {file : List (String × Setting)} {env : Environment} (hfile : IsSectioned file)
  (henv : IsSectioned env.layer) (narrowing : Narrowing)

include hfile henv

theorem ofSetting?_foldl_overlay_eq_some_iff (c : Settings) :
    Settings.ofSetting? narrowing ([defaultLayer, file, env.layer].foldl overlay (table []))
        = some c
      ↔ (chosen file env).Decides narrowing c := by
  simp only [List.foldl_cons, List.foldl_nil]
  refine ofSetting?_eq_some_iff ?_ (fun part hpart ↦ ?_) (fun part hpart key ↦ ?_)
    (fun k ↦ isSome_chosen (isSome_given?_defaultLayer k) file env)
    (isSome_chosen (by decide +kernel) file env) c
  · exact isTable_overlay (isTable_overlay (isTable_overlay rfl _) _) _
  · have hempty : HasTable part (table []) := fun _ h ↦ (nomatch h)
    exact (overlay_sets hpart _ henv).hasTable ((overlay_sets hpart _ hfile).hasTable
      ((overlay_sets hpart _ isSectioned_defaultLayer).hasTable hempty))
  · have hempty : valueOf key (sectionOf part (table [])) = none := rfl
    rw [valueOf_sectionOf_overlay hpart key _ henv, valueOf_sectionOf_overlay hpart key _ hfile,
      valueOf_sectionOf_overlay hpart key _ isSectioned_defaultLayer, hempty, Option.or_none,
      chosen]

theorem ofLayers_eq_ok_iff (c : Settings) :
    ofLayers narrowing [defaultLayer, file, env.layer] = .ok c
      ↔ (chosen file env).Decides narrowing c ∧ c.violation? = none := by
  rw [← ofSetting?_foldl_overlay_eq_some_iff hfile henv, ofLayers]
  cases Settings.ofSetting? narrowing
    ([defaultLayer, file, env.layer].foldl overlay (table [])) with
  | none => simp
  | some s =>
    simp only [Option.some.injEq]
    cases hs : s.violation? with
    | none =>
      rw [Except.ok.injEq]
      exact ⟨fun h ↦ ⟨h, h ▸ hs⟩, And.left⟩
    | some v =>
      refine ⟨fun h ↦ (nomatch h), ?_⟩
      rintro ⟨rfl, hvalid⟩
      rw [hs] at hvalid
      cases hvalid

end

theorem Failure.error_kind (f : Failure) : f.error.kind = .configuration := by
  cases f <;> rfl

/-- Settings in range make a registry and a subscriber. -/
theorem makes_of_violation?_eq_none {c : Settings} (h : c.violation? = none) (store : StoreName)
    (resolver : Option Resolver) :
    Registry.ofSettings c.naming c.registry store = .ok ⟨c.naming, c.registry, store⟩
      ∧ Subscriber.make c.subscriber resolver = .ok ⟨c.subscriber, resolver⟩ := by
  simp only [violation?, Option.orElse_eq_orElse, Option.orElse_eq_or,
    Option.or_eq_none_iff] at h
  obtain ⟨hnaming, hregistry, hsubscriber⟩ := h
  simp only [Registry.ofSettings, Registry.make, Subscriber.make, hnaming, hregistry, hsubscriber,
    Violation.check]
  exact ⟨rfl, trivial⟩

/-- Loading decides the settings key by key. Assumes: the file under the path, if there is one, is
read as a layer, and in this layer and in the one of the environment the sections are tables of
values. Then, however numbers are narrowed to their fields, the settings that are loaded are exactly
the ones in range to which the choices for the keys convert, a registry and a subscriber take them,
and loading fails, with a configuration error, exactly if a choice is at fault. A number that is
chosen and in range is loaded as it is; with one out of range loading fails wherever numbers that do
not fit their field are refused. -/
theorem loadFrom_decides (text? : String → Option String) (path : String) (env : Environment)
    (narrowing : Narrowing) {file : List (String × Setting)}
    (hread : fileLayer? (SettingsFile.read? text? path) = some file) (hfile : IsSectioned file)
    (henv : IsSectioned env.layer) :
    (∀ c, loadFrom text? path env narrowing = .ok c
        ↔ (chosen file env).Decides narrowing c ∧ c.violation? = none)
      ∧ (∀ c, loadFrom text? path env narrowing = .ok c → ∀ store resolver,
        Registry.ofSettings c.naming c.registry store = .ok ⟨c.naming, c.registry, store⟩
          ∧ Subscriber.make c.subscriber resolver = .ok ⟨c.subscriber, resolver⟩)
      ∧ ((chosen file env).Faulty narrowing
        ↔ ∃ f, loadFrom text? path env narrowing = .error f ∧ f.error.kind = .configuration)
      ∧ ∀ k n, (chosen file env).word? k = some n →
        (k.InRange n → ∀ c, loadFrom text? path env narrowing = .ok c → c.number k = n)
          ∧ (¬ k.InRange n → ∃ f,
            loadFrom text? path env .refusing = .error f ∧ f.error.kind = .configuration) := by
  have hload (narrowing : Narrowing) : loadFrom text? path env narrowing
      = ofLayers narrowing [defaultLayer, file, env.layer] := by
    rw [loadFrom, load, hread]
  have hok (narrowing : Narrowing) := ofLayers_eq_ok_iff hfile henv narrowing
  have hfails {narrowing : Narrowing} (h : (chosen file env).Faulty narrowing) :
      ∃ f, loadFrom text? path env narrowing = .error f ∧ f.error.kind = .configuration := by
    rw [hload]
    cases hl : ofLayers narrowing [defaultLayer, file, env.layer] with
    | ok c =>
      obtain ⟨hc, hvalid⟩ := (hok narrowing c).mp hl
      exact absurd hvalid (h.violation?_ne_none hc)
    | error f => exact ⟨f, rfl, f.error_kind⟩
  refine ⟨fun c ↦ hload narrowing ▸ hok narrowing c, fun c hc store resolver ↦ ?_,
    ⟨hfails, fun ⟨f, hf, _⟩ ↦ ?_⟩, fun k n hword ↦ ⟨fun hrange c hc ↦ ?_, fun hrange ↦ ?_⟩⟩
  · rw [hload] at hc
    exact makes_of_violation?_eq_none ((hok narrowing c).mp hc).2 store resolver
  · refine (Choice.faulty_or_exists_decides _ narrowing).resolve_right ?_
    rintro ⟨c, hc⟩
    rw [hload, (hok narrowing c).mpr hc] at hf
    cases hf
  · rw [hload, hok] at hc
    have hn := Choice.number?_of_inRange narrowing hword hrange
    exact Option.some.inj ((hc.1.number k).symm.trans hn)
  · exact hfails (Choice.faulty_of_not_inRange hword hrange)

def sampleText? (path : String) : Option String :=
  if path = "bus.toml" then
    some "[registry]\nmax_receive_count = 7\n\n[subscriber]\nMAX_IN_FLIGHT = \"4\"\n"
  else none

def sampleFile : List (String × Setting) :=
  (fileLayer? (SettingsFile.read? sampleText? "bus.toml")).getD []

def sampleEnvironment : Environment :=
  [("BUS__NAMING__CONVENTION", "prefix"), ("BUS__NAMING__STAGE", "dev"),
    ("bus__naming__service", "orders"), ("BUS__REGISTRY__MAX_RECEIVE_COUNT", "9")]

def sampleSettings : Settings where
  naming := .scoped "dev" "orders"
  registry := { maxReceiveCount := 9 }
  subscriber := { maxInFlight := 4 }

theorem decides_sample :
    (chosen sampleFile sampleEnvironment).Decides .refusing sampleSettings where
  number := by
    rw [NumberKey.forall_iff]
    decide +kernel
  convention := by decide +kernel
  names := by
    rintro _ _ ⟨⟩
    decide +kernel

/-- The environment wins over the file and the file over the built-in layer, also within one
section. -/
theorem loadFrom_decides_sample :
    fileLayer? (SettingsFile.read? sampleText? "bus.toml") = some sampleFile
      ∧ IsSectioned sampleFile ∧ IsSectioned sampleEnvironment.layer
      ∧ loadFrom sampleText? "bus.toml" sampleEnvironment = .ok sampleSettings := by
  have hsome : (fileLayer? (SettingsFile.read? sampleText? "bus.toml")).isSome := by
    decide +kernel
  have hread : fileLayer? (SettingsFile.read? sampleText? "bus.toml") = some sampleFile :=
    (Option.some_get hsome).symm.trans (congrArg some (Option.get_eq_getD _))
  have hfile : IsSectioned sampleFile := by decide +kernel
  have henv : IsSectioned sampleEnvironment.layer := by decide +kernel
  have hload :=
    (loadFrom_decides sampleText? "bus.toml" sampleEnvironment .refusing hread hfile henv).1
  exact ⟨hread, hfile, henv, (hload sampleSettings).mpr ⟨decides_sample, by decide⟩⟩

end Settings

end MessageBus
