import MessageBus.Settings.Basic
/-!
When the names of resources coincide. The parts of a name are joined with hyphens, and an error
queue is marked by its last characters.

Stages and services may have hyphens themselves. Two scoped namings therefore give a type one queue
exactly if they are the same, or one has at the end of its stage what the other has at the front of
its service (`Naming.queueName_shared_iff`). The services of one stage therefore share topics, and
have queues and error queues of their own; and what is a queue of a type under one scoped naming is
an error queue of this type under none (`Naming.services_isolated`).

Full names of payload types have no hyphens, so different types have different names of every kind.
They may end like the name of an error queue, though: the queue of a type is the error queue of
another one exactly if its full name is the other full name with `_error` behind it
(`Naming.names_apart`).
-/

set_option autoImplicit false
set_option relaxedAutoImplicit false

namespace MessageBus

/-- Two texts that are each joined from two parts are the same if the parts are, or if the separator
of one of them is inside a part of the other. -/
theorem append_cons_inj_iff {α : Type} {separator : α} {first last first' last' : List α} :
    first ++ separator :: last = first' ++ separator :: last' ↔
      (first = first' ∧ last = last') ∨
        (∃ part, first' = first ++ separator :: part ∧ last = part ++ separator :: last') ∨
        ∃ part, first = first' ++ separator :: part ∧ last' = part ++ separator :: last := by
  constructor
  · intro h
    rcases List.append_eq_append_iff.mp h with ⟨between, hfirst, hlast⟩ | ⟨between, hfirst, hlast⟩
    · cases between with
      | nil =>
        rw [List.append_nil] at hfirst
        exact .inl ⟨hfirst.symm, List.tail_eq_of_cons_eq hlast⟩
      | cons c part =>
        rw [List.cons_append, List.cons.injEq] at hlast
        obtain ⟨rfl, hlast⟩ := hlast
        exact .inr (.inl ⟨part, hfirst, hlast⟩)
    · cases between with
      | nil =>
        rw [List.append_nil] at hfirst
        exact .inl ⟨hfirst, (List.tail_eq_of_cons_eq hlast).symm⟩
      | cons c part =>
        rw [List.cons_append, List.cons.injEq] at hlast
        obtain ⟨rfl, hlast⟩ := hlast
        exact .inr (.inr ⟨part, hfirst, hlast⟩)
  · rintro (⟨rfl, rfl⟩ | ⟨part, rfl, rfl⟩ | ⟨part, rfl, rfl⟩)
    · rfl
    · simp
    · simp

/-- A mark behind the last part of a joined text cannot be made up for in front of the separator,
unless the separator is in the mark. -/
theorem append_cons_ne_append_mark {α : Type} [DecidableEq α] {separator : α}
    {first second last mark : List α} (hmark : mark ≠ []) (hseparator : separator ∉ mark) :
    first ++ separator :: last ≠ second ++ separator :: (last ++ mark) := by
  intro h
  rcases List.append_eq_append_iff.mp h with ⟨between, -, hlast⟩ | ⟨between, -, hlast⟩
  · have hlength := congrArg List.length hlast
    simp only [List.length_cons, List.length_append] at hlength
    exact hmark (List.length_eq_zero_iff.mp (by omega))
  · -- What is between has as many separators as the mark, and begins with one.
    have hcount := congrArg (List.count separator) hlast
    simp only [List.count_cons, List.count_append, List.count_eq_zero.mpr hseparator] at hcount
    cases between with
    | nil => exact hmark (List.append_right_eq_self.mp (List.cons.inj hlast).2)
    | cons c between =>
      obtain ⟨rfl, -⟩ := List.cons.inj hlast
      rw [List.count_cons_self] at hcount
      omega

namespace Naming

section Scope

variable {stage service stage' service' : String}

/-- Whether the second stage is the first one with a part that the first service has at its front,
and the second service is what is left of it. -/
def HasMoved (stage service stage' service' : String) : Prop :=
  ∃ part, stage' = stage ++ "-" ++ part ∧ service = part ++ "-" ++ service'

theorem HasMoved.mem_stage (h : HasMoved stage service stage' service') : '-' ∈ stage'.toList := by
  obtain ⟨part, rfl, -⟩ := h
  simp

theorem HasMoved.mem_service (h : HasMoved stage service stage' service') :
    '-' ∈ service.toList := by
  obtain ⟨part, -, rfl⟩ := h
  simp

theorem hasMoved_iff : HasMoved stage service stage' service' ↔
    ∃ part, stage'.toList = stage.toList ++ '-' :: part ∧
      service.toList = part ++ '-' :: service'.toList := by
  constructor
  · rintro ⟨part, rfl, rfl⟩
    exact ⟨part.toList, by simp, by simp⟩
  · rintro ⟨part, hstage, hservice⟩
    refine ⟨String.ofList part, ?_, ?_⟩
    · apply String.toList_inj.mp
      simpa using hstage
    · apply String.toList_inj.mp
      simpa using hservice

/-- Whether two scoped namings are the same, or differ in a part that has moved over the hyphen
between stage and service. -/
def SharesScope (stage service stage' service' : String) : Prop :=
  Naming.scoped stage service = .scoped stage' service' ∨
    HasMoved stage service stage' service' ∨ HasMoved stage' service' stage service

theorem sharesScope_iff : SharesScope stage service stage' service' ↔
    stage ++ "-" ++ service = stage' ++ "-" ++ service' := by
  have hlist : stage ++ "-" ++ service = stage' ++ "-" ++ service' ↔
      stage.toList ++ '-' :: service.toList = stage'.toList ++ '-' :: service'.toList := by
    rw [← String.toList_inj]
    simp
  rw [hlist, append_cons_inj_iff, SharesScope, hasMoved_iff, hasMoved_iff, Naming.scoped.injEq,
    String.toList_inj, String.toList_inj]

/-- Different namings share no scope if neither stage has a hyphen, or neither service has one. -/
theorem not_sharesScope (hne : Naming.scoped stage service ≠ .scoped stage' service')
    (hhyphen : ('-' ∉ stage.toList ∧ '-' ∉ stage'.toList) ∨
      ('-' ∉ service.toList ∧ '-' ∉ service'.toList)) :
    ¬ SharesScope stage service stage' service' := by
  rintro (hsame | hmoved | hmoved)
  · exact hne hsame
  · exact hhyphen.elim (fun h ↦ h.2 hmoved.mem_stage) fun h ↦ h.1 hmoved.mem_service
  · exact hhyphen.elim (fun h ↦ h.1 hmoved.mem_stage) fun h ↦ h.2 hmoved.mem_service

theorem queueName_scoped_inj (typeName : String) :
    queueName (.scoped stage service) typeName = queueName (.scoped stage' service') typeName ↔
      SharesScope stage service stage' service' := by
  rw [queueName, queueName, String.append_left_inj, String.append_left_inj, sharesScope_iff]

end Scope

theorem errorQueueName_inj {naming naming' : Naming} {first second : String} :
    naming.errorQueueName first = naming'.errorQueueName second ↔
      naming.queueName first = naming'.queueName second := by
  rw [errorQueueName, errorQueueName, String.append_left_inj]

/-- Two scoped namings give a type the same queue, and the same error queue, exactly if they are the
same or a part has moved over the hyphen between service and stage. So different namings give every
type queues of its own if neither stage has a hyphen, or neither service has one. -/
theorem queueName_shared_iff (stage service stage' service' typeName : String) :
    (queueName (.scoped stage service) typeName = queueName (.scoped stage' service') typeName ↔
        SharesScope stage service stage' service') ∧
      (errorQueueName (.scoped stage service) typeName =
          errorQueueName (.scoped stage' service') typeName ↔
        SharesScope stage service stage' service') ∧
      (Naming.scoped stage service ≠ .scoped stage' service' →
        ('-' ∉ stage.toList ∧ '-' ∉ stage'.toList) ∨
          ('-' ∉ service.toList ∧ '-' ∉ service'.toList) →
        queueName (.scoped stage service) typeName ≠
            queueName (.scoped stage' service') typeName ∧
          errorQueueName (.scoped stage service) typeName ≠
            errorQueueName (.scoped stage' service') typeName) := by
  refine ⟨queueName_scoped_inj typeName,
    errorQueueName_inj.trans (queueName_scoped_inj typeName), fun hne hhyphen ↦ ?_⟩
  have hnever := not_sharesScope hne hhyphen
  constructor
  · intro hqueue
    exact hnever ((queueName_scoped_inj typeName).mp hqueue)
  · intro herror
    exact hnever ((queueName_scoped_inj typeName).mp (errorQueueName_inj.mp herror))

/-- Two services of one stage have queues of their own. -/
theorem queueName_shared_iff_sample :
    let first := Naming.scoped "prod" "billing"
    let second := Naming.scoped "prod" "shipping"
    first ≠ second ∧ '-' ∉ "prod".toList ∧
      first.queueName "orders.v1.OrderPlaced" ≠ second.queueName "orders.v1.OrderPlaced" ∧
      first.errorQueueName "orders.v1.OrderPlaced" ≠
        second.errorQueueName "orders.v1.OrderPlaced" := by
  intro first second
  have hne : first ≠ second := by decide
  have hhyphen : '-' ∉ "prod".toList := by decide
  obtain ⟨-, -, hapart⟩ := queueName_shared_iff "prod" "billing" "prod" "shipping"
    "orders.v1.OrderPlaced"
  exact ⟨hne, hhyphen, hapart hne (.inl ⟨hhyphen, hhyphen⟩)⟩

/-- Services of two stages share their queues, though both namings are in order. -/
theorem queueName_shared :
    let first := Naming.scoped "prod-eu" "billing"
    let second := Naming.scoped "prod" "eu-billing"
    first ≠ second ∧ first.violation? = none ∧ second.violation? = none ∧
      first.queueName "orders.v1.OrderPlaced" = second.queueName "orders.v1.OrderPlaced" ∧
      first.errorQueueName "orders.v1.OrderPlaced" =
        second.errorQueueName "orders.v1.OrderPlaced" := by
  intro first second
  have hqueue (typeName : String) : first.queueName typeName = second.queueName typeName :=
    (queueName_scoped_inj typeName).mpr (sharesScope_iff.mpr (by decide))
  exact ⟨by decide, by decide, by decide, hqueue _, errorQueueName_inj.mpr (hqueue _)⟩

/-- The queue of a type is an error queue of this type under no scoped naming. -/
theorem queueName_scoped_ne_errorQueueName (stage service stage' service' typeName : String) :
    queueName (.scoped stage service) typeName ≠
      errorQueueName (.scoped stage' service') typeName := by
  intro h
  rw [errorQueueName, queueName, queueName, ← String.toList_inj] at h
  have hmark : errorSuffix.toList ≠ [] := by decide
  have hhyphen : '-' ∉ errorSuffix.toList := by decide
  have hlist : (stage ++ "-" ++ service).toList ++ '-' :: (messageName typeName).toList =
      (stage' ++ "-" ++ service').toList ++
        '-' :: ((messageName typeName).toList ++ errorSuffix.toList) := by
    simpa using h
  exact append_cons_ne_append_mark hmark hhyphen hlist

/-- The services of one stage are isolated from each other. For every type, two services have one
topic, and their queues and error queues are four different queues. -/
theorem services_isolated (stage typeName : String) {service service' : String}
    (hne : service ≠ service') :
    (Naming.scoped stage service).topicName typeName =
        (Naming.scoped stage service').topicName typeName ∧
      [(Naming.scoped stage service).queueName typeName,
        (Naming.scoped stage service).errorQueueName typeName,
        (Naming.scoped stage service').queueName typeName,
        (Naming.scoped stage service').errorQueueName typeName].Nodup := by
  have hscope : ¬ SharesScope stage service stage service' := by
    rw [sharesScope_iff, String.append_right_inj]
    exact hne
  have hqueue : (Naming.scoped stage service).queueName typeName ≠
      (Naming.scoped stage service').queueName typeName :=
    fun h ↦ hscope ((queueName_scoped_inj typeName).mp h)
  have herror : (Naming.scoped stage service).errorQueueName typeName ≠
      (Naming.scoped stage service').errorQueueName typeName :=
    fun h ↦ hqueue (errorQueueName_inj.mp h)
  have hmarked (s s' : String) := queueName_scoped_ne_errorQueueName stage s stage s' typeName
  refine ⟨rfl, ?_⟩
  simp [hqueue, herror, hmarked, (hmarked _ _).symm]

/-- A service whose name ends like an error queue, and a type whose name repeats what marks one. -/
theorem services_isolated_sample :
    "x_error-x" ≠ "x" ∧
      (Naming.scoped "a-b" "x_error-x").topicName "x_error-x_error" =
        (Naming.scoped "a-b" "x").topicName "x_error-x_error" ∧
      [(Naming.scoped "a-b" "x_error-x").queueName "x_error-x_error",
        (Naming.scoped "a-b" "x_error-x").errorQueueName "x_error-x_error",
        (Naming.scoped "a-b" "x").queueName "x_error-x_error",
        (Naming.scoped "a-b" "x").errorQueueName "x_error-x_error"].Nodup := by
  have hne : "x_error-x" ≠ "x" := by decide
  exact ⟨hne, services_isolated "a-b" "x_error-x_error" hne⟩

end Naming

/-! ### Full names of types -/

/-- Whether a text has only the characters of full names of types: letters, digits and underscores,
and dots between the identifiers. -/
def isFullName (typeName : String) : Bool :=
  typeName.toList.all fun c ↦ c.isAlphanum || c = '_' || c = '.'

theorem hyphen_not_mem_of_isFullName {typeName : String} (h : isFullName typeName) :
    '-' ∉ typeName.toList := by
  intro hmem
  exact absurd (List.all_eq_true.mp h '-' hmem) (by decide)

theorem toList_messageName (typeName : String) : (messageName typeName).toList =
    typeName.toList.map fun c ↦ if c = '.' then '-' else c :=
  String.toList_map

theorem messageName_append (first second : String) :
    messageName (first ++ second) = messageName first ++ messageName second := by
  apply String.toList_inj.mp
  simp only [toList_messageName, String.toList_append, List.map_append]

/-- A text without hyphens is read back from its message name, with a dot for each hyphen. -/
theorem map_messageName {typeName : String} (h : '-' ∉ typeName.toList) :
    ((messageName typeName).toList.map fun c ↦ if c = '-' then '.' else c) = typeName.toList := by
  rw [toList_messageName, List.map_map]
  refine (List.map_congr_left fun c hc ↦ ?_).trans (List.map_id typeName.toList)
  have hhyphen : c ≠ '-' := fun heq ↦ h (heq ▸ hc)
  by_cases hdot : c = '.'
  · simp [hdot]
  · simp [hdot, hhyphen]

section Types

variable {first second : String} (hfirst : '-' ∉ first.toList) (hsecond : '-' ∉ second.toList)
include hfirst hsecond

theorem messageName_inj : messageName first = messageName second ↔ first = second := by
  constructor
  · intro h
    apply String.toList_inj.mp
    rw [← map_messageName hfirst, ← map_messageName hsecond, h]
  · intro h
    rw [h]

namespace Naming

variable (naming : Naming)

theorem topicName_inj : naming.topicName first = naming.topicName second ↔ first = second := by
  rw [← messageName_inj hfirst hsecond]
  rcases naming with - | ⟨stage, service⟩
  · rfl
  · rw [topicName, topicName, String.append_right_inj]

theorem queueName_inj : naming.queueName first = naming.queueName second ↔ first = second := by
  rw [← messageName_inj hfirst hsecond]
  rcases naming with - | ⟨stage, service⟩
  · rfl
  · rw [queueName, queueName, String.append_right_inj]

end Naming

end Types

namespace Naming

/-- The error queue of a type has the name that the queue of another type could have. -/
theorem queueName_append_errorSuffix (naming : Naming) (typeName : String) :
    naming.queueName (typeName ++ errorSuffix) = naming.errorQueueName typeName := by
  have hsuffix : messageName errorSuffix = errorSuffix := by decide +kernel
  have hname : messageName (typeName ++ errorSuffix) = messageName typeName ++ errorSuffix := by
    rw [messageName_append, hsuffix]
  rcases naming with - | ⟨stage, service⟩
  · exact hname
  · rw [errorQueueName, queueName, queueName, hname]
    exact (String.append_assoc ..).symm

theorem queueName_eq_errorQueueName_iff (naming : Naming) {first second : String}
    (hfirst : '-' ∉ first.toList) (hsecond : '-' ∉ second.toList) :
    naming.queueName first = naming.errorQueueName second ↔ first = second ++ errorSuffix := by
  have hmarked : '-' ∉ (second ++ errorSuffix).toList := by
    rw [String.toList_append, List.mem_append]
    exact fun h ↦ h.elim hsecond (by decide)
  rw [← queueName_append_errorSuffix, queueName_inj hfirst hmarked]

/-- Under every naming, two types have different topics, different queues and different error
queues. The queue of a type is the error queue of another type exactly if its full name is the other
one with `_error` behind it. -/
theorem names_apart (naming : Naming) {first second : String} (hfirst : isFullName first)
    (hsecond : isFullName second) (hne : first ≠ second) :
    naming.topicName first ≠ naming.topicName second ∧
      naming.queueName first ≠ naming.queueName second ∧
      naming.errorQueueName first ≠ naming.errorQueueName second ∧
      (naming.queueName first = naming.errorQueueName second ↔ first = second ++ "_error") ∧
      (naming.queueName second = naming.errorQueueName first ↔ second = first ++ "_error") := by
  have hfirst := hyphen_not_mem_of_isFullName hfirst
  have hsecond := hyphen_not_mem_of_isFullName hsecond
  have hqueue : naming.queueName first ≠ naming.queueName second := fun h ↦
    hne ((naming.queueName_inj hfirst hsecond).mp h)
  refine ⟨?_, hqueue, ?_, ?_, ?_⟩
  · exact fun h ↦ hne ((naming.topicName_inj hfirst hsecond).mp h)
  · exact fun h ↦ hqueue (errorQueueName_inj.mp h)
  · exact naming.queueName_eq_errorQueueName_iff hfirst hsecond
  · exact naming.queueName_eq_errorQueueName_iff hsecond hfirst

/-- Two types of one service. The queue of neither is the error queue of the other. -/
theorem names_apart_sample :
    let naming := Naming.scoped "prod" "billing"
    let first := "orders.v1.OrderPlaced"
    let second := "orders_v1.OrderPlaced"
    isFullName first ∧ isFullName second ∧ first ≠ second ∧
      naming.topicName first ≠ naming.topicName second ∧
      naming.queueName first ≠ naming.queueName second ∧
      naming.errorQueueName first ≠ naming.errorQueueName second ∧
      naming.queueName first ≠ naming.errorQueueName second ∧
      naming.queueName second ≠ naming.errorQueueName first := by
  intro naming first second
  have hfirst : isFullName first := by decide
  have hsecond : isFullName second := by decide
  have hne : first ≠ second := by decide
  obtain ⟨htopic, hqueue, herror, hforth, hback⟩ := names_apart naming hfirst hsecond hne
  refine ⟨hfirst, hsecond, hne, htopic, hqueue, herror, fun h ↦ ?_, fun h ↦ ?_⟩
  · exact absurd (hforth.mp h) (by decide)
  · exact absurd (hback.mp h) (by decide)

/-- The dead letters of one type go to the queue of another type. -/
theorem errorQueue_shared :
    isFullName "orders.v1.OrderPlaced" ∧ isFullName "orders.v1.OrderPlaced_error" ∧
      Naming.plain.queueName "orders.v1.OrderPlaced_error" =
        Naming.plain.errorQueueName "orders.v1.OrderPlaced" ∧
      (Naming.scoped "prod" "billing").queueName "orders.v1.OrderPlaced_error" =
        (Naming.scoped "prod" "billing").errorQueueName "orders.v1.OrderPlaced" := by
  have hshared (naming : Naming) : naming.queueName "orders.v1.OrderPlaced_error" =
      naming.errorQueueName "orders.v1.OrderPlaced" :=
    naming.queueName_append_errorSuffix "orders.v1.OrderPlaced"
  exact ⟨by decide, by decide, hshared _, hshared _⟩

end Naming

end MessageBus
