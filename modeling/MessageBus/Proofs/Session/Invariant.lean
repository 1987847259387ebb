import MessageBus.Proofs.Replace
import MessageBus.Proofs.Session.Basic
/-!
The invariant of a session. While its loop polls, the slots that the loop takes to be in use are
those of the deliveries that have not finished, and a receive under way asked for no more than what
is free (`Loop.Agrees`). A session that is being started has handed nothing out, and one that has
returned is over: its deliveries have all come to their ends, or there were none.
-/

set_option autoImplicit false
set_option relaxedAutoImplicit false

namespace MessageBus.Session

variable {c : Setup} {s t : Session c} {e : Event} {es : List Event} {l : Loop}

/-- Whether a polling loop agrees with the session that it belongs to. -/
structure Loop.Agrees (l : Loop) (s : Session c) : Prop where
  settings : l.polling.settings = c.settings
  running : l.polling.running = s.inFlight
  bounded : s.inFlight ≤ c.settings.maxInFlight
  request : ∀ request, l.request = some request →
    request.queueUrl = l.polling.queueUrl ∧ request.maxNumberOfMessages ≤ l.polling.free
  /-- A failed receive is reported before the next tick. -/
  duty : l.polling.phase ≠ .idle → s.duty = .done ()
  draining : l.polling.phase = .draining → s.cancelled

/-- Whether the state of the deliveries fits to what a session has come to. -/
def Life.Agrees (s : Session c) : Life → Prop
  | .resolving _ | .broken => s.dispatches = [] ∧ s.duty = .done ()
  | .polling l => l.Agrees s
  | .returned _ => s.inFlight = 0 ∧ s.duty = .done ()

structure Sound (s : Session c) : Prop where
  life : s.life.Agrees s
  /-- A delivery keeps its slot to its end. -/
  finished : ∀ d ∈ s.dispatches, d.finished → d.rest = .done ()

theorem Sound.loop (h : s.Sound) (hlife : s.life = .polling l) : l.Agrees s := by
  have hagrees := h.life
  rwa [hlife] at hagrees

theorem Sound.of_resolving (h : s.Sound) {rest : Program (Except Error String)}
    (hlife : s.life = .resolving rest) : s.dispatches = [] ∧ s.duty = .done () := by
  have hagrees := h.life
  rwa [hlife] at hagrees

theorem inFlight_of_nil (h : s.dispatches = []) : s.inFlight = 0 := by
  rw [inFlight, h, List.countP_nil]

/-- A session polls, or it has nothing to do. -/
theorem Sound.polls_or_rests (h : s.Sound) :
    (∃ l, s.life = .polling l ∧ l.Agrees s) ∨ (s.duty = .done () ∧ s.inFlight = 0) := by
  have hagrees := h.life
  cases hlife : s.life with
  | polling l => exact .inl ⟨l, rfl, h.loop hlife⟩
  | resolving | broken =>
    rw [hlife] at hagrees
    exact .inr ⟨hagrees.2, inFlight_of_nil hagrees.1⟩
  | returned result =>
    rw [hlife] at hagrees
    exact .inr hagrees.symm

theorem Sound.inFlight_le (h : s.Sound) : s.inFlight ≤ c.settings.maxInFlight := by
  rcases h.polls_or_rests with ⟨l, -, hl⟩ | ⟨-, hnone⟩
  · exact hl.bounded
  · exact hnone ▸ Nat.zero_le _

theorem finished_of_inFlight (h : s.inFlight = 0) {d : Dispatch c.type} (hd : d ∈ s.dispatches) :
    d.finished := by
  simpa using List.countP_eq_zero.mp h d hd

/-- A session that has returned has nothing left to do. -/
theorem Sound.of_returned (h : s.Sound) {result : Except Error Unit}
    (hlife : s.life = .returned result) :
    s.duty = .done () ∧ ∀ d ∈ s.dispatches, d.rest = .done () := by
  rcases h.polls_or_rests with ⟨l, hpolling, -⟩ | ⟨hduty, hnone⟩
  · exact absurd (hpolling.symm.trans hlife) nofun
  · exact ⟨hduty, fun d hd ↦ h.finished d hd (finished_of_inFlight hnone hd)⟩

section

variable {j : Nat} {d d' : Dispatch c.type}

theorem inFlight_setDispatch (hd : s.dispatches[j]? = some d) (h : d'.finished = d.finished) :
    (s.setDispatch j d').inFlight = s.inFlight := by
  have hcount (l : List (Dispatch c.type)) :
      l.countP (!·.finished) = (l.map (·.finished)).countP (! ·) := by
    rw [List.countP_map]
    rfl
  rw [inFlight, inFlight, hcount, hcount, setDispatch, map_set_of_eq hd _ h]

theorem inFlight_setDispatch_finish (hd : s.dispatches[j]? = some d) (hopen : d.finished = false) :
    (s.setDispatch j d.finish).inFlight = s.inFlight - 1 := by
  obtain ⟨hj, rfl⟩ := List.getElem?_eq_some_iff.mp hd
  simp [inFlight, setDispatch, List.countP_set hj, hopen, Dispatch.finish]

/-- What holds of every delivery still does if it holds of the one that is put in place of one. -/
theorem forall_mem_setDispatch {P : Dispatch c.type → Prop} (hs : ∀ d ∈ s.dispatches, P d)
    (hd' : P d') : ∀ d ∈ (s.setDispatch j d').dispatches, P d := by
  intro d hd
  rcases List.mem_or_eq_of_mem_set hd with hold | rfl
  · exact hs d hold
  · exact hd'

end

theorem dispatchPhase_ne_draining (messages : List Received) :
    Polling.dispatchPhase messages ≠ .draining := by
  cases messages <;> exact nofun

/-- A loop that has nothing else to do takes a step which leaves its slots as they are. -/
theorem Sound.advance (h : s.Sound) (hready : s.IsReady l) {p : Polling}
    (hsettings : p.settings = l.polling.settings) (hrunning : p.running = l.polling.running)
    (hdraining : p.phase = .draining → s.cancelled) :
    Sound { s with life := .polling ⟨p, none⟩ } := by
  have hl := h.loop hready.life
  refine ⟨?_, h.finished⟩
  exact {
    settings := hsettings.trans hl.settings
    running := hrunning.trans hl.running
    bounded := hl.bounded
    request := nofun
    duty := fun _ ↦ hready.duty
    draining := hdraining }

/-- A loop begins to wait for a receive. -/
theorem Sound.ask (h : s.Sound) (hready : s.IsReady l) (now : Nat) :
    let p := { l.polling with due := l.polling.nextDue now, phase := .receiving }
    Sound { s with life := .polling ⟨p, some l.polling.request⟩ } := by
  intro p
  have hl := h.loop hready.life
  refine ⟨?_, h.finished⟩
  exact {
    settings := hl.settings
    running := hl.running
    bounded := hl.bounded
    request := by
      rintro request ⟨⟩
      exact ⟨rfl, Polling.batch_le_free _⟩
    duty := fun _ ↦ hready.duty
    draining := nofun }

/-- What is left of a report changes only while the loop is idle. -/
theorem Sound.report (h : s.Sound) {effect : Effect} {next : effect.Result → Program Unit}
    (hduty : s.duty = .perform effect next) (rest : Program Unit) :
    Sound { s with duty := rest } := by
  have hnot : s.duty ≠ .done () := hduty ▸ nofun
  rcases h.polls_or_rests with ⟨l, hlife, hl⟩ | ⟨hdone, -⟩
  · refine ⟨?_, h.finished⟩
    change s.life.Agrees _
    rw [hlife]
    exact { hl with duty := fun hphase ↦ absurd (hl.duty hphase) hnot }
  · exact absurd hdone hnot

theorem Sound.cancel (h : s.Sound) : Sound { s with cancelled := true } := by
  refine ⟨?_, h.finished⟩
  have hagrees := h.life
  cases hlife : s.life with
  | polling l => exact { h.loop hlife with draining := fun _ ↦ rfl }
  | resolving | broken | returned => rwa [hlife] at hagrees

/-- A message takes a free slot. -/
theorem Sound.dispatch (h : s.Sound) (hready : s.IsReady l) (hfree : 0 < l.polling.free)
    (rest : List Received) (prototype : Payload) (m : Received) :
    let p := { l.polling with
      phase := Polling.dispatchPhase rest, running := l.polling.running + 1 }
    Sound { s with
      life := .polling ⟨p, none⟩
      dispatches := s.dispatches ++ [.start prototype l.polling.queueUrl m] } := by
  intro p
  have hl := h.loop hready.life
  have hfree : l.polling.running < c.settings.maxInFlight :=
    hl.settings ▸ Nat.lt_of_sub_pos hfree
  let new : Dispatch c.type := .start prototype l.polling.queueUrl m
  have hadded : (s.dispatches ++ [new]).countP (!·.finished) = l.polling.running + 1 := by
    rw [List.countP_append, hl.running, inFlight]
    rfl
  refine ⟨?_, ?_⟩
  · exact {
      settings := hl.settings
      running := hadded.symm
      bounded := Nat.le_trans (Nat.le_of_eq hadded) hfree
      request := nofun
      duty := fun _ ↦ hready.duty
      draining := fun hdraining ↦ absurd hdraining (dispatchPhase_ne_draining _) }
  · intro d hd hfinished
    rcases List.mem_append.mp hd with hold | hnew
    · exact h.finished d hold hfinished
    · rw [List.mem_singleton.mp hnew] at hfinished
      cases hfinished

section

variable {j : Nat} {d : Dispatch c.type}

theorem Sound.perform (h : s.Sound) (hd : s.dispatches[j]? = some d) {effect : Effect}
    {next : effect.Result → Program Unit} (hrest : d.rest = .perform effect next)
    (r : effect.Result) : (s.setDispatch j (d.after hrest r)).Sound := by
  have hmem : d ∈ s.dispatches := List.mem_of_getElem? hd
  have hsame : (s.setDispatch j (d.after hrest r)).inFlight = s.inFlight :=
    inFlight_setDispatch hd rfl
  have hopen : ¬ d.finished := fun hfinished ↦
    absurd (hrest.symm.trans (h.finished d hmem hfinished)) nofun
  refine ⟨?_, forall_mem_setDispatch h.finished fun hfinished ↦ absurd hfinished hopen⟩
  rcases h.polls_or_rests with ⟨l, hlife, hl⟩ | ⟨-, hnone⟩
  · change s.life.Agrees _
    rw [hlife]
    exact { hl with
      running := hl.running.trans hsame.symm
      bounded := Nat.le_trans (Nat.le_of_eq hsame) hl.bounded }
  · exact absurd (finished_of_inFlight hnone hmem) hopen

/-- A delivery gives its slot back. -/
theorem Sound.finish (h : s.Sound) (hd : s.dispatches[j]? = some d) (hrest : d.rest = .done ())
    (hopen : d.finished = false) (hlife : s.life = .polling l) :
    let p := { l.polling with running := l.polling.running - 1 }
    Sound ({ s with life := .polling { l with polling := p } }.setDispatch j d.finish) := by
  intro p
  have hl := h.loop hlife
  have hless : (s.setDispatch j d.finish).inFlight = s.inFlight - 1 :=
    inFlight_setDispatch_finish hd hopen
  refine ⟨?_, forall_mem_setDispatch h.finished fun _ ↦ hrest⟩
  exact {
    settings := hl.settings
    running := (congrArg (· - 1) hl.running).trans hless.symm
    bounded := Nat.le_trans (Nat.le_of_eq hless) (Nat.le_trans (Nat.sub_le ..) hl.bounded)
    request := fun request hrequest ↦ by
      obtain ⟨hurl, hbatch⟩ := hl.request request hrequest
      exact ⟨hurl, Nat.le_trans hbatch (Nat.sub_le_sub_left (Nat.sub_le ..) _)⟩
    duty := hl.duty
    draining := hl.draining }

end

theorem sound_start (c : Setup) : (start c).Sound where
  life := ⟨rfl, rfl⟩
  finished _ hd := absurd hd List.not_mem_nil

theorem Step.sound (h : Step s e t) (hs : s.Sound) : t.Sound := by
  cases h with
  | cancel => exact hs.cancel
  | resolve hlife r => exact ⟨hs.of_resolving hlife, hs.finished⟩
  | refuse hlife =>
    obtain ⟨hnil, hduty⟩ := hs.of_resolving hlife
    exact ⟨⟨inFlight_of_nil hnil, hduty⟩, hs.finished⟩
  | breakDown hlife => exact ⟨hs.of_resolving hlife, hs.finished⟩
  | begin hlife now hp =>
    obtain rfl := Polling.start?_eq hp
    obtain ⟨hnil, hduty⟩ := hs.of_resolving hlife
    have hnone : s.inFlight = 0 := inFlight_of_nil hnil
    have hbounded : s.inFlight ≤ c.settings.maxInFlight := hnone ▸ Nat.zero_le _
    exact ⟨⟨rfl, hnone.symm, hbounded, nofun, fun _ ↦ hduty, nofun⟩, hs.finished⟩
  | skip hready now hp =>
    obtain ⟨hidle, ⟨rfl, -⟩ | ⟨-, -, hnone⟩⟩ := Polling.tick_eq hp
    · exact hs.advance hready rfl rfl fun hdraining ↦ absurd (hidle.symm.trans hdraining) nofun
    · cases hnone
  | ask hready now hp =>
    obtain ⟨-, ⟨-, hnone⟩ | ⟨-, rfl, hasked⟩⟩ := Polling.tick_eq hp
    · cases hnone
    · cases hasked
      exact hs.ask hready _
  | receive hready hrequest hp =>
    obtain ⟨-, rfl, -⟩ := Polling.received_eq hp
    exact hs.advance hready rfl rfl fun hdraining ↦
      absurd hdraining (dispatchPhase_ne_draining _)
  | receiveFailed hready hrequest hp =>
    obtain ⟨-, rfl, -⟩ := Polling.receiveFailed_eq hp
    have hl := hs.loop hready.life
    exact ⟨⟨hl.settings, hl.running, hl.bounded, nofun, fun hphase ↦ absurd rfl hphase, nofun⟩,
      hs.finished⟩
  | report hduty r => exact hs.report hduty _
  | dispatch hready hp prototype =>
    obtain ⟨_, rest, -, hfree, rfl, ⟨⟩⟩ := Polling.slotTaken_eq hp
    exact hs.dispatch hready hfree rest prototype _
  | stop hready hcancelled hp =>
    obtain ⟨rfl, -⟩ := Polling.cancelled_eq hp
    exact hs.advance hready rfl rfl fun _ ↦ hcancelled
  | perform hd hrest r => exact hs.perform hd hrest r
  | finish hd hrest hopen hlife hp =>
    obtain ⟨-, rfl, -⟩ := Polling.handlerFinished_eq hp
    exact hs.finish hd hrest hopen hlife
  | leave hready hp =>
    obtain ⟨-, hnone, -⟩ := Polling.drained_eq hp
    have hl := hs.loop hready.life
    exact ⟨⟨hl.running.symm.trans hnone, hready.duty⟩, hs.finished⟩

theorem Run.sound (h : Run s es t) (hs : s.Sound) : t.Sound := by
  induction h with
  | refl => exact hs
  | step _ hstep ih => exact hstep.sound ih

end MessageBus.Session
