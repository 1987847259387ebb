import MessageBus.Proofs.Subscriber.Outcome
/-!
What traces add to the accounts of a subscription: the messages that were counted as consumed, the
failures that were counted at each stage, and the errors that were reported. Traces add up
(`consumed_append`, `failed_append`), in whatever order they are taken (`consumed_perm`,
`failed_perm`). A delivery that has ended adds one message or one failure (`tally_ending`), and the
report of a failed receive adds one failure of a receive (`tally_receive`).
-/

set_option autoImplicit false
set_option relaxedAutoImplicit false

namespace MessageBus.Delivery

variable {name : String} {stage : Stage} {past rest : List Performed}

/-- How many messages were counted as consumed. -/
def consumed (name : String) (past : List Performed) : Nat := (counted past).count (.consumed name)

/-- How many failures at a stage were counted. -/
def failed (name : String) (stage : Stage) (past : List Performed) : Nat :=
  (counted past).count (.consumeFailed name stage)

theorem consumed_append :
    consumed name (past ++ rest) = consumed name past + consumed name rest := by
  rw [consumed, counted, List.filterMap_append, List.count_append]
  rfl

theorem failed_append :
    failed name stage (past ++ rest) = failed name stage past + failed name stage rest := by
  rw [failed, counted, List.filterMap_append, List.count_append]
  rfl

theorem length_reported_append :
    (reported (past ++ rest)).length = (reported past).length + (reported rest).length := by
  rw [reported, List.filterMap_append, List.length_append]
  rfl

theorem consumed_perm (h : past.Perm rest) : consumed name past = consumed name rest :=
  (h.filterMap _).count_eq _

theorem failed_perm (h : past.Perm rest) : failed name stage past = failed name stage rest :=
  (h.filterMap _).count_eq _

theorem length_reported_perm (h : past.Perm rest) :
    (reported past).length = (reported rest).length :=
  (h.filterMap _).length_eq

/-- What the reports of failed receives add to the accounts, and what they do not. -/
theorem tally_receive (name : String) (errors : List Error) :
    let past := errors.flatMap (failure name .receive)
    consumed name past = 0 ∧ failed name .decode past = 0 ∧ failed name .handle past = 0 ∧
      failed name .delete past = 0 ∧ failed name .receive past = errors.length ∧
      (reported past).length = errors.length := by
  induction errors with
  | nil => exact ⟨rfl, rfl, rfl, rfl, rfl, rfl⟩
  | cons e errors ih =>
    have hone : counted (failure name .receive e) = [.consumeFailed name .receive] := rfl
    have hsink : reported (failure name .receive e) = [e] := rfl
    simp only [List.flatMap_cons, consumed_append, failed_append, length_reported_append]
    simp [consumed, failed, hone, hsink] at ih ⊢
    omega

theorem consumed_eq_count_outcomes : consumed name past = (outcomes past).count (.consumed name) :=
  (List.count_filter rfl).symm

theorem failed_eq_count_outcomes :
    failed name stage past = (outcomes past).count (.consumeFailed name stage) :=
  (List.count_filter rfl).symm

/-- A delivery that has ended is counted once, and its error is reported if it failed. -/
theorem tally_ending {type : PayloadType} {prototype : Payload} {queueUrl : String} {m : Received}
    (h : EndsOnce type prototype queueUrl m past) :
    let name := type.fullName
    consumed name past + failed name .decode past + failed name .handle past +
        failed name .delete past = 1 ∧
      failed name .receive past = 0 ∧
      (reported past).length =
        failed name .decode past + failed name .handle past + failed name .delete past := by
  obtain ⟨ending, hends, houtcomes, hreported⟩ := h
  simp only [consumed_eq_count_outcomes, failed_eq_count_outcomes, houtcomes, hreported]
  cases hends with
  | unreadable | unhandled | undeleted | acknowledged => simp [Ending.counter, Ending.errors]

end MessageBus.Delivery
