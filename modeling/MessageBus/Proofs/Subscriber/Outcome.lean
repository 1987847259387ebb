import MessageBus.Proofs.Envelope.Body
import MessageBus.Proofs.Subscriber.Delivery
/-!
The outcomes of a delivery. There are four courses that a delivery can take (`Delivery.Course`): its
body cannot be read, or the handler does not succeed, or the deletion fails, or the message is
acknowledged. A delivery that has come to its end has taken one of them (`exists_course`), and one
that is under way is on one of them (`exists_course_of_leads`); every course can be taken
(`Course.leads`). From this follow the accounts of a delivery, at any time (`account_under_way`) and
at its end (`account_at_end`).
-/

set_option autoImplicit false
set_option relaxedAutoImplicit false

namespace MessageBus.Delivery

/-- The calls that were made. -/
def calls (past : List Performed) : List Call :=
  past.filterMap fun x ↦ match x.effect with
    | .call c => some c
    | _ => none

/-- The counters that were increased. -/
def counted (past : List Performed) : List Counter :=
  past.filterMap fun x ↦ match x.effect with
    | .count c => some c
    | _ => none

/-- The errors that were passed to the error sink. -/
def reported (past : List Performed) : List Error :=
  past.filterMap fun x ↦ match x.effect with
    | .report e => some e
    | _ => none

/-- The counters that were increased, but for the one of handler calls. -/
def outcomes (past : List Performed) : List Counter :=
  (counted past).filter fun c ↦ match c with
    | .handled _ => false
    | _ => true

/-- Whether a handler was called and succeeded. -/
def Succeeded (past : List Performed) : Prop :=
  ∃ payload metadata, ⟨.handle payload metadata, .success⟩ ∈ past

/-- How a delivery ends. -/
inductive Ending where
  | acknowledged
  | failed (stage : Stage) (e : Error)
deriving DecidableEq, Repr

/-- The counter that an ending increases. -/
def Ending.counter (typeName : String) : Ending → Counter
  | .acknowledged => .consumed typeName
  | .failed stage _ => .consumeFailed typeName stage

/-- The errors that an ending passes to the error sink. -/
def Ending.errors : Ending → List Error
  | .acknowledged => []
  | .failed _ e => [e]

variable {type : PayloadType} {prototype : Payload} {queueUrl : String} {m : Received}
  {past : List Performed} {q : Program Unit}

/-- The trace of a failure that is counted and reported. -/
def failure (typeName : String) (stage : Stage) (e : Error) : List Performed :=
  [⟨.count (.consumeFailed typeName stage), ()⟩, ⟨.report e, ()⟩]

/-- The trace of a call of the handler. -/
def handling (typeName : String) (e : Envelope) (outcome : Handling) : List Performed :=
  [⟨.handle e.payload e.metadata, outcome⟩, ⟨.count (.handled typeName), ()⟩]

/-- The courses that a delivery can take, each with its ending. -/
inductive Course (type : PayloadType) (prototype : Payload) (queueUrl : String) (m : Received) :
    List Performed → Ending → Prop
  | unreadable {e : Error} (hbody : Envelope.ofBody type prototype m.body = .error e) :
    Course type prototype queueUrl m (failure type.fullName .decode e) (.failed .decode e)
  | unhandled {envelope : Envelope} (hbody : Envelope.ofBody type prototype m.body = .ok envelope)
    {outcome : Handling} {e : Error} (he : handlingError outcome = some e) :
    Course type prototype queueUrl m
      (handling type.fullName envelope outcome ++ failure type.fullName .handle e)
      (.failed .handle e)
  | undeleted {envelope : Envelope} (hbody : Envelope.ofBody type prototype m.body = .ok envelope)
    (e : Error) :
    Course type prototype queueUrl m
      (handling type.fullName envelope .success ++
        ⟨.call (.deleteMessage queueUrl m.receipt), .error e⟩ ::
          failure type.fullName (failedStage e) e)
      (.failed (failedStage e) e)
  | acknowledged {envelope : Envelope}
    (hbody : Envelope.ofBody type prototype m.body = .ok envelope) :
    Course type prototype queueUrl m
      (handling type.fullName envelope .success ++
        [⟨.call (.deleteMessage queueUrl m.receipt), .ok ()⟩,
          ⟨.count (.consumed type.fullName), ()⟩])
      .acknowledged

theorem eq_failure_of_leads {typeName : String} {stage : Stage} {e : Error}
    (h : (fail typeName stage e).Leads past (.done ())) : past = failure typeName stage e := by
  obtain ⟨⟨⟩, rest, rfl, hrest⟩ := Program.Leads.perform_of_done h
  obtain ⟨⟨⟩, rest, rfl, hdone⟩ := Program.Leads.perform_of_done hrest
  rw [hdone.of_done.1, failure]

/-- The error of a handler is one of handling. -/
theorem failedStage_of_handlingError {outcome : Handling} {e : Error}
    (h : handlingError outcome = some e) : failedStage e = .handle := by
  cases outcome <;> cases h <;> rfl

theorem success_of_handlingError {outcome : Handling} (h : handlingError outcome = none) :
    outcome = .success := by
  cases outcome <;> first | rfl | cases h

/-- A delivery that has come to its end has taken one of the courses. -/
theorem exists_course (h : (run type prototype queueUrl m).Leads past (.done ())) :
    ∃ ending, Course type prototype queueUrl m past ending := by
  cases hbody : Envelope.ofBody type prototype m.body with
  | error e =>
    rw [run_of_error hbody] at h
    obtain ⟨text, rfl⟩ := Envelope.decode_of_ofBody hbody
    rw [eq_failure_of_leads h]
    exact ⟨_, .unreadable hbody⟩
  | ok envelope =>
    rw [run_of_ok hbody] at h
    obtain ⟨outcome, rest, rfl, hcounts⟩ := Program.Leads.perform_of_done h
    obtain ⟨⟨⟩, rest, rfl, hresponds⟩ := Program.Leads.perform_of_done hcounts
    cases houtcome : handlingError outcome with
    | some e =>
      rw [respond, houtcome] at hresponds
      rw [eq_failure_of_leads hresponds, failedStage_of_handlingError houtcome]
      exact ⟨_, .unhandled hbody houtcome⟩
    | none =>
      obtain rfl := success_of_handlingError houtcome
      rw [respond_success] at hresponds
      obtain ⟨reply, rest, rfl, hreplied⟩ := Program.Leads.perform_of_done hresponds
      cases reply with
      | error e =>
        rw [eq_failure_of_leads hreplied]
        exact ⟨_, .undeleted hbody e⟩
      | ok done =>
        obtain ⟨⟨⟩, rest, rfl, hdone⟩ := Program.Leads.perform_of_done hreplied
        rw [hdone.of_done.1]
        exact ⟨_, .acknowledged hbody⟩

theorem leads_failure (typeName : String) (stage : Stage) (e : Error) :
    (fail typeName stage e).Leads (failure typeName stage e) (.done ()) :=
  .step (.step (.refl _))

/-- Every course can be taken. -/
theorem Course.leads {ending : Ending} (h : Course type prototype queueUrl m past ending) :
    (run type prototype queueUrl m).Leads past (.done ()) := by
  cases h with
  | @unreadable e hbody =>
    obtain ⟨text, rfl⟩ := Envelope.decode_of_ofBody hbody
    rw [run_of_error hbody]
    exact leads_failure ..
  | @unhandled envelope hbody outcome e he =>
    have hresponds : respond type queueUrl m outcome = fail type.fullName .handle e := by
      rw [respond, he, ← failedStage_of_handlingError he]
    rw [run_of_ok hbody]
    exact .step (.step (hresponds ▸ leads_failure ..))
  | undeleted hbody e =>
    rw [run_of_ok hbody]
    exact .step (.step (.step (leads_failure ..)))
  | acknowledged hbody =>
    rw [run_of_ok hbody]
    exact .step (.step (.step (.step (.refl _))))

/-- A delivery that is under way is on one of the courses. -/
theorem exists_course_of_leads (h : (run type prototype queueUrl m).Leads past q) :
    ∃ rest ending, Course type prototype queueUrl m (past ++ rest) ending := by
  obtain ⟨rest, ⟨⟩, hrest⟩ := q.exists_leads_done
  obtain ⟨ending, hcourse⟩ := exists_course (h.trans hrest)
  exact ⟨rest, ending, hcourse⟩

/-- What a delivery went through tells how it has ended. -/
inductive EndsIn (type : PayloadType) (prototype : Payload) (queueUrl : String) (m : Received)
    (past : List Performed) : Ending → Prop
  | unreadable {e : Error} (hbody : Envelope.ofBody type prototype m.body = .error e) :
    EndsIn type prototype queueUrl m past (.failed .decode e)
  | unhandled {payload : Payload} {metadata : Metadata} {outcome : Handling} {e : Error}
    (hpast : ⟨.handle payload metadata, outcome⟩ ∈ past) (he : handlingError outcome = some e) :
    EndsIn type prototype queueUrl m past (.failed .handle e)
  | undeleted {e : Error}
    (hpast : ⟨.call (.deleteMessage queueUrl m.receipt), .error e⟩ ∈ past) :
    EndsIn type prototype queueUrl m past (.failed .delete e)
  | acknowledged (hpast : ⟨.call (.deleteMessage queueUrl m.receipt), .ok ()⟩ ∈ past) :
    EndsIn type prototype queueUrl m past .acknowledged

/-- Whether a delivery has ended in one way, which it has counted, and has reported its error if it
failed. -/
def EndsOnce (type : PayloadType) (prototype : Payload) (queueUrl : String) (m : Received)
    (past : List Performed) : Prop :=
  ∃ ending, EndsIn type prototype queueUrl m past ending ∧
    outcomes past = [ending.counter type.fullName] ∧ reported past = ending.errors

theorem failedStage_of_transport {e : Error} (h : e.kind = .transport) :
    failedStage e = .delete := by
  cases e <;> first | rfl | cases h

theorem Course.of_handle {ending : Ending} (h : Course type prototype queueUrl m past ending)
    {payload : Payload} {metadata : Metadata} {outcome : Handling}
    (hpast : ⟨.handle payload metadata, outcome⟩ ∈ past) :
    Envelope.ofBody type prototype m.body = .ok ⟨payload, metadata⟩ := by
  cases h <;> simp [handling, failure] at hpast
  all_goals
    obtain ⟨⟨rfl, rfl⟩, -⟩ := hpast
    assumption

/-- A delivery deletes its message if the handler succeeds, and calls for nothing else. -/
theorem Course.calls_cases {ending : Ending} (h : Course type prototype queueUrl m past ending) :
    (calls past = [] ∧ ¬ Succeeded past) ∨
      (calls past = [.deleteMessage queueUrl m.receipt] ∧
        ∃ payload metadata rest, past = ⟨.handle payload metadata, .success⟩ :: rest) := by
  cases h with
  | unreadable => exact .inl ⟨rfl, by simp [Succeeded, failure]⟩
  | unhandled hbody he =>
    refine .inl ⟨rfl, ?_⟩
    rintro ⟨payload, metadata, hpast⟩
    simp only [handling, failure, List.cons_append, List.nil_append, List.mem_cons,
      Performed.mk.injEq, Effect.handle.injEq] at hpast
    grind [handlingError]
  | undeleted hbody e => exact .inr ⟨rfl, _, _, _, rfl⟩
  | acknowledged hbody => exact .inr ⟨rfl, _, _, _, rfl⟩

theorem exists_mem_of_mem_calls {call : Call} (h : call ∈ calls past) :
    ∃ reply, ⟨.call call, reply⟩ ∈ past := by
  obtain ⟨⟨effect, reply⟩, hmem, hcall⟩ := List.mem_filterMap.mp h
  cases effect with
  | call other =>
    cases hcall
    exact ⟨reply, hmem⟩
  | lookup | await | settle | stamp | policyIds | count | pause | handle | report => cases hcall

/-- A delivery whose handler succeeded has called for the deletion of its message when it comes to
its end. -/
theorem exists_deletion (h : (run type prototype queueUrl m).Leads past (.done ()))
    (hsucceeded : Succeeded past) :
    ∃ reply, ⟨.call (.deleteMessage queueUrl m.receipt), reply⟩ ∈ past := by
  obtain ⟨ending, hcourse⟩ := exists_course h
  rcases hcourse.calls_cases with ⟨-, hfailed⟩ | ⟨hone, -⟩
  · exact absurd hsucceeded hfailed
  · exact exists_mem_of_mem_calls (hone ▸ List.mem_singleton_self _)

variable (past) in
theorem calls_append (rest : List Performed) : calls (past ++ rest) = calls past ++ calls rest :=
  List.filterMap_append

/-- What a delivery has done, at any time: it has called the handler at most once, with what was
read from the body, and it has made no call but the deletion of its message, once and after the
handler succeeded. -/
theorem account_under_way (h : (run type prototype queueUrl m).Leads past q) :
    handlings past ≤ 1 ∧
      (∀ payload metadata outcome, ⟨.handle payload metadata, outcome⟩ ∈ past →
        Envelope.ofBody type prototype m.body = .ok ⟨payload, metadata⟩) ∧
      (calls past = [] ∨
        calls past = [.deleteMessage queueUrl m.receipt] ∧ Succeeded past) := by
  obtain ⟨rest, ending, hcourse⟩ := exists_course_of_leads h
  refine ⟨handlings_le h, fun _ _ _ hpast ↦ hcourse.of_handle (List.mem_append_left _ hpast), ?_⟩
  have hcalls := hcourse.calls_cases
  rw [calls_append] at hcalls
  rcases hcalls with ⟨hnone, -⟩ | ⟨hone, payload, metadata, after, hfirst⟩
  · exact .inl (List.append_eq_nil_iff.mp hnone).1
  · rcases List.append_eq_singleton_iff.mp hone with ⟨hnone, -⟩ | ⟨hdelete, -⟩
    · exact .inl hnone
    · refine .inr ⟨hdelete, payload, metadata, ?_⟩
      cases past with
      | nil => cases hdelete
      | cons x past =>
        obtain ⟨rfl, -⟩ := List.cons.inj hfirst
        exact List.mem_cons_self

/-- What a delivery has done when it has come to its end. -/
theorem account_at_end (h : (run type prototype queueUrl m).Leads past (.done ()))
    (hclient : ∀ c e, ⟨.call c, .error e⟩ ∈ past → e.kind = .transport) :
    (handlings past = 1 ↔ Envelope.IsReadable type prototype m.body) ∧
      (calls past = [.deleteMessage queueUrl m.receipt] ↔ Succeeded past) ∧
      EndsOnce type prototype queueUrl m past := by
  obtain ⟨ending, hcourse⟩ := exists_course h
  refine ⟨?_, ?_, ?_⟩
  · rw [Envelope.isReadable_iff]
    cases hcourse with
    | unreadable hbody => simp [hbody, handlings, failure, Effect.isHandling]
    | unhandled hbody | undeleted hbody | acknowledged hbody =>
      simp [hbody, handlings, handling, failure, Effect.isHandling]
  · rcases hcourse.calls_cases with ⟨hnone, hfailed⟩ | ⟨hone, payload, metadata, rest, rfl⟩
    · simp [hnone, hfailed]
    · exact iff_of_true hone ⟨payload, metadata, List.mem_cons_self⟩
  · cases hcourse with
    | unreadable hbody => exact ⟨_, .unreadable hbody, rfl, rfl⟩
    | unhandled hbody he => exact ⟨_, .unhandled List.mem_cons_self he, rfl, rfl⟩
    | undeleted hbody e =>
      have hkind : e.kind = .transport :=
        hclient (.deleteMessage queueUrl m.receipt) e (by simp [handling])
      rw [failedStage_of_transport hkind]
      exact ⟨_, .undeleted (by simp [handling]), rfl, rfl⟩
    | acknowledged hbody => exact ⟨_, .acknowledged (by simp [handling]), rfl, rfl⟩

end MessageBus.Delivery
