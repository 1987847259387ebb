import MessageBus.Proofs.Program
import MessageBus.Subscriber.Delivery
/-!
What the delivery of a message does. It calls the handler at most once (`handlings_le`). The only
call that it makes is the deletion of its own receipt, and it makes it after the handler succeeded
on the payload that was read from the body (`handled_of_call`).
-/

set_option autoImplicit false
set_option relaxedAutoImplicit false

namespace MessageBus

/-- Whether an effect is a call of a handler. -/
def Effect.isHandling : Effect → Bool
  | .handle _ _ => true
  | _ => false

namespace Delivery

open Program

/-- How often a handler was called. -/
def handlings (past : List Performed) : Nat := past.countP (·.effect.isHandling)

variable {type : PayloadType} {prototype : Payload} {queueUrl : String} {m : Received}

theorem run_of_error {e : Error} (h : Envelope.ofBody type prototype m.body = .error e) :
    run type prototype queueUrl m = fail type.fullName (failedStage e) e := by
  rw [run, attempt, h]
  rfl

/-- Counting and reporting, which neither handle nor delete. -/
def IsQuiet : Effect → Prop
  | .count _ => True
  | .report _ => True
  | _ => False

theorem isHandling_of_isQuiet (e : Effect) (h : IsQuiet e) : e.isHandling = false := by
  cases e with
  | handle payload metadata => exact absurd h id
  | call | lookup | await | settle | stamp | policyIds | count | pause | report => rfl

theorem all_fail (typeName : String) (stage : Stage) (e : Error) :
    (fail typeName stage e).All IsQuiet :=
  ⟨trivial, fun _ ↦ ⟨trivial, fun _ ↦ trivial⟩⟩

/-- What a quiet program leads through, and to. -/
theorem leads_of_quiet {p q : Program Unit} {past : List Performed} (hp : p.All IsQuiet)
    (h : p.Leads past q) :
    (∀ x ∈ past, x.effect.isHandling = false) ∧ ∀ {c next}, q ≠ .perform (.call c) next := by
  obtain ⟨hpast, hq⟩ := hp.of_leads h
  refine ⟨fun x hx ↦ isHandling_of_isQuiet x.effect (hpast x hx), ?_⟩
  rintro c next rfl
  exact hq.1

/-- What a delivery does after the deletion was answered. -/
def acknowledged (typeName : String) : Except Error Unit → Program Unit
  | .ok () => Program.count (.consumed typeName)
  | .error e => fail typeName (failedStage e) e

theorem all_acknowledged (typeName : String) (r : Except Error Unit) :
    (acknowledged typeName r).All IsQuiet := by
  cases r with
  | ok => exact ⟨trivial, fun _ ↦ trivial⟩
  | error e => exact all_fail ..

/-- What a delivery does about the outcome of the handler. -/
def respond (type : PayloadType) (queueUrl : String) (m : Received) (outcome : Handling) :
    Program Unit :=
  match handlingError outcome with
  | some e => fail type.fullName (failedStage e) e
  | none => .perform (.call (.deleteMessage queueUrl m.receipt)) (acknowledged type.fullName)

theorem respond_success :
    respond type queueUrl m .success =
      .perform (.call (.deleteMessage queueUrl m.receipt)) (acknowledged type.fullName) :=
  rfl

theorem all_respond {outcome : Handling} (h : outcome ≠ .success) :
    (respond type queueUrl m outcome).All IsQuiet := by
  cases outcome with
  | success => exact absurd rfl h
  | failure | panic => exact all_fail ..

theorem run_of_ok {e : Envelope} (h : Envelope.ofBody type prototype m.body = .ok e) :
    run type prototype queueUrl m =
      .perform (.handle e.payload e.metadata) fun outcome ↦
        .perform (.count (.handled type.fullName)) fun _ ↦ respond type queueUrl m outcome := by
  rw [run, attempt, h]
  change Program.perform _ _ = Program.perform _ _
  congr 1
  funext outcome
  cases outcome with
  | success =>
    change Program.perform _ _ = Program.perform _ _
    congr 1
    funext _
    change Program.perform _ _ = Program.perform _ _
    congr 1
    funext r
    rcases r with e | ⟨⟨⟩⟩ <;> rfl
  | failure | panic => rfl

/-- A response does not handle, and what it calls for is the deletion of a handled message. -/
theorem leads_respond {outcome : Handling} {past : List Performed} {q : Program Unit}
    (h : (respond type queueUrl m outcome).Leads past q) :
    (∀ x ∈ past, x.effect.isHandling = false) ∧
      ∀ {c next}, q = .perform (.call c) next →
        outcome = .success ∧ c = .deleteMessage queueUrl m.receipt := by
  by_cases houtcome : outcome = .success
  · subst houtcome
    rw [respond_success] at h
    rcases h.of_perform with ⟨rfl, rfl⟩ | ⟨r, rest, rfl, hrest⟩
    · refine ⟨List.forall_mem_nil _, ?_⟩
      intro c next hcall
      cases hcall
      exact ⟨rfl, rfl⟩
    · obtain ⟨hquiet, hq⟩ := leads_of_quiet (all_acknowledged ..) hrest
      exact ⟨List.forall_mem_cons.mpr ⟨rfl, hquiet⟩, fun hcall ↦ absurd hcall hq⟩
  · obtain ⟨hquiet, hq⟩ := leads_of_quiet (all_respond houtcome) h
    exact ⟨hquiet, fun hcall ↦ absurd hcall hq⟩

variable {past : List Performed} {q : Program Unit}

/-- Where a delivery is: at a point without handling, or past the handler. -/
theorem leads_run (h : (run type prototype queueUrl m).Leads past q) :
    ((∀ x ∈ past, x.effect.isHandling = false) ∧ ∀ {c next}, q ≠ .perform (.call c) next) ∨
      ∃ e outcome rest, Envelope.ofBody type prototype m.body = .ok e ∧
        past = ⟨.handle e.payload e.metadata, outcome⟩ :: rest ∧
        (∀ x ∈ rest, x.effect.isHandling = false) ∧
        ∀ {c next}, q = .perform (.call c) next →
          outcome = .success ∧ c = .deleteMessage queueUrl m.receipt := by
  cases hbody : Envelope.ofBody type prototype m.body with
  | error e =>
    rw [run_of_error hbody] at h
    exact .inl (leads_of_quiet (all_fail ..) h)
  | ok e =>
    rw [run_of_ok hbody] at h
    rcases h.of_perform with ⟨rfl, rfl⟩ | ⟨outcome, rest, hpast, hrest⟩
    · exact .inl ⟨List.forall_mem_nil _, nofun⟩
    · refine .inr ⟨e, outcome, rest, rfl, hpast, ?_⟩
      rcases hrest.of_perform with ⟨rfl, rfl⟩ | ⟨_, later, rfl, hlater⟩
      · exact ⟨List.forall_mem_nil _, nofun⟩
      · obtain ⟨hquiet, hcall⟩ := leads_respond hlater
        exact ⟨List.forall_mem_cons.mpr ⟨rfl, hquiet⟩, hcall⟩

theorem handlings_eq_zero (h : ∀ x ∈ past, x.effect.isHandling = false) : handlings past = 0 :=
  List.countP_eq_zero.mpr fun x hx ↦ by simp [h x hx]

/-- A delivery calls the handler at most once. -/
theorem handlings_le (h : (run type prototype queueUrl m).Leads past q) : handlings past ≤ 1 := by
  rcases leads_run h with ⟨hquiet, -⟩ | ⟨e, outcome, rest, -, rfl, hrest, -⟩
  · rw [handlings_eq_zero hquiet]
    exact Nat.zero_le 1
  · rw [handlings, List.countP_cons_of_pos rfl]
    exact Nat.le_of_eq (congrArg Nat.succ (handlings_eq_zero hrest))

/-- Whether a program begins with a call of a handler, and makes no other one. -/
def HandlesOnce (p : Program Unit) (payload : Payload) (metadata : Metadata) : Prop :=
  ∃ next, p = .perform (.handle payload metadata) next ∧
    ∀ outcome, (next outcome).All (·.isHandling = false)

theorem all_respond_not_handling (outcome : Handling) :
    (respond type queueUrl m outcome).All (·.isHandling = false) := by
  by_cases houtcome : outcome = .success
  · subst houtcome
    rw [respond_success]
    exact ⟨rfl, fun r ↦ (all_acknowledged _ r).mono isHandling_of_isQuiet⟩
  · exact (all_respond houtcome).mono isHandling_of_isQuiet

/-- A delivery of a body that can be read calls the handler exactly once, with what was read. -/
theorem handlesOnce_run {e : Envelope} (h : Envelope.ofBody type prototype m.body = .ok e) :
    HandlesOnce (run type prototype queueUrl m) e.payload e.metadata :=
  ⟨_, run_of_ok h, fun outcome ↦ ⟨rfl, fun _ ↦ all_respond_not_handling outcome⟩⟩

/-- A delivery calls for nothing but the deletion of its own receipt, and only after the handler
succeeded on what was read from the body. -/
theorem handled_of_call {c : Call} {next : (Effect.call c).Result → Program Unit}
    (h : (run type prototype queueUrl m).Leads past (.perform (.call c) next)) :
    c = .deleteMessage queueUrl m.receipt ∧
      ∃ e, Envelope.ofBody type prototype m.body = .ok e ∧
        ⟨.handle e.payload e.metadata, .success⟩ ∈ past := by
  rcases leads_run h with ⟨-, hcall⟩ | ⟨e, outcome, rest, hbody, rfl, -, hcall⟩
  · exact absurd rfl hcall
  · obtain ⟨rfl, hdelete⟩ := hcall rfl
    exact ⟨hdelete, e, hbody, List.mem_cons_self⟩

end Delivery

end MessageBus
