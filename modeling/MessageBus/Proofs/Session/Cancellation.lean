import MessageBus.Proofs.Session.Trace
/-!
What becomes of receives after a cancellation. A loop that waits can take notice of the cancellation
(`exists_stop`), and once it has done so no receive begins and no message is taken in any more
(`Run.quiet`). Until then the cancellation changes nothing: whatever the loop is doing, it can come
to begin another receive (`Sound.exists_run_asked`). So receives cease for certain exactly when the
loop has taken notice (`receives_cease_iff`), which may be long after the subscription was cancelled
(`receives_after_cancellation`).
-/

set_option autoImplicit false
set_option relaxedAutoImplicit false

namespace MessageBus

namespace Polling

variable {p : Polling}

/-- Whether a loop in a phase waits for something that a cancellation would interrupt. -/
def Phase.IsWaiting : Phase → Prop
  | .idle | .receiving | .dispatching _ => True
  | .draining | .stopped => False

theorem cancelled_of_isWaiting (h : p.phase.IsWaiting) :
    p.step .cancelled = some ({ p with phase := .draining }, none) := by
  cases hphase : p.phase with
  | idle | receiving | dispatching => simp only [step, hphase]
  | draining | stopped =>
    rw [hphase] at h
    exact h.elim

/-- A tick that is due asks for messages where a slot is free. -/
theorem tick_of_batch (hidle : p.phase = .idle) (hbatch : 0 < p.batch) :
    p.step (.tick p.due) =
      some ({ p with due := p.nextDue p.due, phase := .receiving },
        some (.receive { p with due := p.nextDue p.due }.request)) := by
  have hdue : { p with due := p.nextDue p.due }.batch ≠ 0 := Nat.ne_of_gt hbatch
  rw [step, if_pos ⟨hidle, Nat.le_refl _⟩]
  exact if_neg hdue

theorem batch_pos (hnumber : 0 < p.settings.maxNumberOfMessages) (hfree : 0 < p.free) :
    0 < p.batch :=
  Nat.lt_min.mpr ⟨hnumber, Nat.lt_min.mpr ⟨hfree, by decide⟩⟩

theorem handlerFinished_of_running (h : 0 < p.running) :
    p.step .handlerFinished = some ({ p with running := p.running - 1 }, none) := by
  rw [step, if_pos h]

end Polling

namespace Session

variable {c : Setup} {s t : Session c} {e : Event} {es : List Event} {l : Loop}

/-- Whether an event begins a receive or brings messages. -/
def Event.Receives : Event → Prop
  | .asked _ => True
  | .replied _ (.ok messages) => messages ≠ []
  | _ => False

/-- Whether the loop of a session polls no more: it drains, or the session is over. -/
def HasNoticed (s : Session c) : Prop :=
  match s.life with
  | .resolving _ => False
  | .polling l => l.polling.phase = .draining
  | .broken | .returned _ => True

theorem HasNoticed.phase (h : s.HasNoticed) (hlife : s.life = .polling l) :
    l.polling.phase = .draining := by
  rwa [HasNoticed, hlife] at h

theorem HasNoticed.of_life_eq (h : s.HasNoticed) (hlife : t.life = s.life) : t.HasNoticed := by
  rwa [HasNoticed, hlife]

theorem HasNoticed.not_resolving (h : s.HasNoticed) {rest : Program (Except Error String)}
    (hlife : s.life = .resolving rest) : False := by
  rwa [HasNoticed, hlife] at h

/-- A loop that has taken notice of a cancellation receives nothing. -/
theorem Step.quiet (h : Step s e t) (hs : s.HasNoticed) : ¬ e.Receives ∧ t.HasNoticed := by
  cases h with
  | cancel | report | perform => exact ⟨id, hs.of_life_eq rfl⟩
  | resolve hlife | refuse hlife | begin hlife | breakDown hlife =>
    exact (hs.not_resolving hlife).elim
  | skip hready now hp | ask hready now hp =>
    obtain ⟨hidle, -⟩ := Polling.tick_eq hp
    exact absurd (hidle.symm.trans (hs.phase hready.life)) nofun
  | receive hready hrequest hp =>
    obtain ⟨hreceiving, -⟩ := Polling.received_eq hp
    exact absurd (hreceiving.symm.trans (hs.phase hready.life)) nofun
  | receiveFailed hready hrequest hp =>
    obtain ⟨hreceiving, -⟩ := Polling.receiveFailed_eq hp
    exact absurd (hreceiving.symm.trans (hs.phase hready.life)) nofun
  | dispatch hready hp =>
    obtain ⟨_, _, hdispatching, -⟩ := Polling.slotTaken_eq hp
    exact absurd (hdispatching.symm.trans (hs.phase hready.life)) nofun
  | stop hready hcancelled hp =>
    obtain ⟨rfl, -⟩ := Polling.cancelled_eq hp
    exact ⟨id, rfl⟩
  | finish hd hrest hopen hlife hp =>
    obtain ⟨-, rfl, -⟩ := Polling.handlerFinished_eq hp
    have hdraining := hs.phase hlife
    exact ⟨id, hdraining⟩
  | leave => exact ⟨id, trivial⟩

theorem Run.quiet (h : Run s es t) (hs : s.HasNoticed) :
    (∀ e ∈ es, ¬ e.Receives) ∧ t.HasNoticed := by
  induction h with
  | refl => exact ⟨List.forall_mem_nil _, hs⟩
  | step _ hstep ih =>
    obtain ⟨hes, hbefore⟩ := ih
    obtain ⟨he, hafter⟩ := hstep.quiet hbefore
    exact ⟨List.forall_mem_append.mpr ⟨hes, List.forall_mem_singleton.mpr he⟩, hafter⟩

/-- A loop that waits can take notice that the subscription is cancelled. -/
theorem exists_stop (hready : s.IsReady l) (hwaits : l.polling.phase.IsWaiting)
    (hcancelled : s.cancelled) : ∃ t, Step s .silent t ∧ t.HasNoticed :=
  ⟨_, .stop hready hcancelled (Polling.cancelled_of_isWaiting hwaits), rfl⟩

section Regular

/-- Whether a loop that waits for a receive knows which, one that hands messages out has some, and
none has stopped. -/
structure Loop.IsRegular (l : Loop) : Prop where
  request : l.polling.phase = .receiving → ∃ request, l.request = some request
  waiting : l.polling.phase ≠ .dispatching []
  running : l.polling.phase ≠ .stopped

theorem isRegular_of_phase {p : Polling} (h : p.phase = .idle ∨ p.phase = .draining) :
    Loop.IsRegular ⟨p, none⟩ := by
  rcases h with h | h <;> exact ⟨fun hp ↦ absurd (h.symm.trans hp) nofun,
    fun hp ↦ absurd (h.symm.trans hp) nofun, fun hp ↦ absurd (h.symm.trans hp) nofun⟩

theorem isRegular_dispatchPhase {p : Polling} {messages : List Received}
    (h : p.phase = Polling.dispatchPhase messages) : Loop.IsRegular ⟨p, none⟩ := by
  cases messages with
  | nil => exact isRegular_of_phase (.inl h)
  | cons => exact ⟨fun hp ↦ absurd (h.symm.trans hp) nofun,
      fun hp ↦ absurd (h.symm.trans hp) nofun, fun hp ↦ absurd (h.symm.trans hp) nofun⟩

def IsRegular (s : Session c) : Prop := ∀ {l}, s.life = .polling l → l.IsRegular

theorem Step.isRegular (h : Step s e t) (hs : s.IsRegular) : t.IsRegular := by
  intro loop hlife
  cases h with
  | cancel | report | perform => exact hs hlife
  | resolve | refuse | breakDown | leave => cases hlife
  | begin hresolving now hp =>
    obtain rfl := Polling.start?_eq hp
    cases hlife
    exact isRegular_of_phase (.inl rfl)
  | skip hready now hp =>
    cases hlife
    obtain ⟨hidle, ⟨rfl, -⟩ | ⟨-, -, hnone⟩⟩ := Polling.tick_eq hp
    · exact isRegular_of_phase (.inl hidle)
    · cases hnone
  | ask hready now hp =>
    cases hlife
    obtain ⟨hidle, ⟨rfl, -⟩ | ⟨-, rfl, -⟩⟩ := Polling.tick_eq hp
    · exact ⟨fun _ ↦ ⟨_, rfl⟩, fun hp ↦ absurd (hidle.symm.trans hp) nofun,
        fun hp ↦ absurd (hidle.symm.trans hp) nofun⟩
    · exact ⟨fun _ ↦ ⟨_, rfl⟩, nofun, nofun⟩
  | receive hready hrequest hp =>
    cases hlife
    obtain ⟨-, rfl, -⟩ := Polling.received_eq hp
    exact isRegular_dispatchPhase rfl
  | receiveFailed hready hrequest hp =>
    cases hlife
    obtain ⟨-, rfl, -⟩ := Polling.receiveFailed_eq hp
    exact isRegular_of_phase (.inl rfl)
  | dispatch hready hp =>
    cases hlife
    obtain ⟨_, _, -, -, rfl, -⟩ := Polling.slotTaken_eq hp
    exact isRegular_dispatchPhase rfl
  | stop hready hcancelled hp =>
    cases hlife
    obtain ⟨rfl, -⟩ := Polling.cancelled_eq hp
    exact isRegular_of_phase (.inr rfl)
  | finish hd hrest hopen hpolling hp =>
    cases hlife
    obtain ⟨-, rfl, -⟩ := Polling.handlerFinished_eq hp
    have hl := hs hpolling
    exact ⟨hl.request, hl.waiting, hl.running⟩

theorem Run.isRegular (h : Run s es t) (hs : s.IsRegular) : t.IsRegular := by
  induction h with
  | refl => exact hs
  | step _ hstep ih => exact hstep.isRegular ih

end Regular

section Onward

/-- Whether a session can come to another one. -/
def Reaches (s t : Session c) : Prop := ∃ es, Run s es t

theorem Reaches.step {u : Session c} (h : s.Reaches t) (hstep : Step t e u) : s.Reaches u := by
  obtain ⟨es, hrun⟩ := h
  exact ⟨_, hrun.step hstep⟩

theorem Reaches.sound (h : s.Reaches t) (hs : s.Sound) : t.Sound := by
  obtain ⟨es, hrun⟩ := h
  exact hrun.sound hs

theorem Reaches.isRegular (h : s.Reaches t) (hs : s.IsRegular) : t.IsRegular := by
  obtain ⟨es, hrun⟩ := h
  exact hrun.isRegular hs

/-- A loop can make all the reports that it has to make. -/
theorem Reaches.ready (h : s.Reaches t) (hlife : t.life = .polling l) :
    ∃ u, s.Reaches u ∧ u.IsReady l := by
  obtain ⟨past, ⟨⟩, hleads⟩ := t.duty.exists_leads_done
  generalize hduty : t.duty = p at hleads
  generalize hend : Program.done () = q at hleads
  induction hleads generalizing t with
  | refl => exact ⟨t, h, hlife, hduty.trans hend.symm⟩
  | step _ ih => exact ih (h.step (.report hduty _)) hlife rfl hend

/-- Where all slots are in use, a delivery can come to its end. -/
theorem Reaches.slot (h : s.Reaches t) (hs : s.Sound) (hslots : 0 < c.settings.maxInFlight)
    (hready : t.IsReady l) :
    ∃ u l', s.Reaches u ∧ u.IsReady l' ∧ l'.polling.phase = l.polling.phase ∧
      l'.request = l.request ∧ 0 < l'.polling.free := by
  by_cases hfree : 0 < l.polling.free
  · exact ⟨t, l, h, hready, rfl, rfl, hfree⟩
  have ht := h.sound hs
  have hl := ht.loop hready.life
  have hfull : c.settings.maxInFlight ≤ l.polling.running := by
    rw [Polling.free, hl.settings] at hfree
    exact Nat.le_of_sub_eq_zero (Nat.eq_zero_of_not_pos hfree)
  have hrunning : 0 < l.polling.running := Nat.lt_of_lt_of_le hslots hfull
  obtain ⟨d, hd, hopen⟩ : ∃ d ∈ t.dispatches, d.finished = false := by
    rw [hl.running] at hrunning
    simpa using List.countP_pos_iff.mp hrunning
  obtain ⟨j, hj⟩ := List.mem_iff_getElem?.mp hd
  obtain ⟨past, ⟨⟩, hleads⟩ := d.rest.exists_leads_done
  obtain ⟨es, hrun⟩ := h
  obtain ⟨d', hrest, hsame, hdelivered⟩ := hrun.deliver hj hleads
  have hlength : j < t.dispatches.length := (List.getElem?_eq_some_iff.mp hj).1
  have hj' : (t.setDispatch j d').dispatches[j]? = some d' := List.getElem?_set_self hlength
  have hfinish := hdelivered.step (.finish hj' hrest (hsame.trans hopen) hready.life
    (Polling.handlerFinished_of_running hrunning))
  refine ⟨_, _, ⟨_, hfinish⟩, ⟨rfl, hready.duty⟩, rfl, rfl, ?_⟩
  have hbounded : l.polling.running ≤ l.polling.settings.maxInFlight := by
    rw [hl.running, hl.settings]
    exact hl.bounded
  exact Nat.sub_pos_of_lt (Nat.lt_of_lt_of_le (Nat.sub_lt hrunning Nat.one_pos) hbounded)

/-- All messages that wait can be handed out. -/
theorem Reaches.handedOut (h : s.Reaches t) (hs : s.Sound) (hslots : 0 < c.settings.maxInFlight)
    {waiting : List Received} (hready : t.IsReady l)
    (hphase : l.polling.phase = Polling.dispatchPhase waiting) :
    ∃ u l', s.Reaches u ∧ u.IsReady l' ∧ l'.polling.phase = .idle := by
  induction waiting generalizing t l with
  | nil => exact ⟨t, l, h, hready, hphase⟩
  | cons m rest ih =>
    obtain ⟨u, l', hu, hready', hsame, -, hfree⟩ := h.slot hs hslots hready
    obtain ⟨p, hp⟩ := Polling.slotTaken_of_free (hsame.trans hphase) hfree
    obtain ⟨_, _, hwaiting, -, rfl, -⟩ := Polling.slotTaken_eq hp
    obtain ⟨rfl, rfl⟩ := List.cons.inj
      (Polling.Phase.dispatching.inj (hwaiting.symm.trans (hsame.trans hphase)))
    exact ih (hu.step (.dispatch hready' hp [])) ⟨rfl, hready'.duty⟩ rfl

/-- Whatever a loop is doing, unless it drains it can come to wait for its next tick. -/
theorem Reaches.idle (h : s.Reaches t) (hs : s.Sound) (hregular : s.IsRegular)
    (hslots : 0 < c.settings.maxInFlight) (hlife : t.life = .polling l)
    (hpolls : l.polling.phase ≠ .draining) :
    ∃ u l', s.Reaches u ∧ u.IsReady l' ∧ l'.polling.phase = .idle := by
  obtain ⟨u, hu, hready⟩ := h.ready hlife
  have hl := hu.isRegular hregular hready.life
  cases hphase : l.polling.phase with
  | idle => exact ⟨u, l, hu, hready, hphase⟩
  | receiving =>
    obtain ⟨request, hrequest⟩ := hl.request hphase
    have hnothing : l.polling.step (.received []) =
        some ({ l.polling with phase := .idle }, none) := if_pos hphase
    exact ⟨_, _, hu.step (.receive hready hrequest hnothing), ⟨rfl, hready.duty⟩, rfl⟩
  | dispatching waiting =>
    cases waiting with
    | nil => exact absurd hphase hl.waiting
    | cons m rest =>
      have hwaits : l.polling.phase = Polling.dispatchPhase (m :: rest) := hphase
      exact hu.handedOut hs hslots hready hwaits
  | draining => exact absurd hphase hpolls
  | stopped => exact absurd hphase hl.running

/-- A loop that does not drain can come to begin another receive. -/
theorem Sound.exists_run_asked (hs : s.Sound) (hregular : s.IsRegular)
    (hc : c.settings.violation? = none) (hlife : s.life = .polling l)
    (hpolls : l.polling.phase ≠ .draining) :
    ∃ es request t, Run s (es ++ [.asked request]) t := by
  obtain ⟨⟨hnumber, -⟩, -, -, -, hslots⟩ := SubscriberSettings.violation?_eq_none_iff.mp hc
  obtain ⟨u, l', hu, hready, hidle⟩ :=
    Reaches.idle ⟨[], .refl s⟩ hs hregular hslots hlife hpolls
  obtain ⟨v, l'', hv, hready', hsame, -, hfree⟩ := hu.slot hs hslots hready
  have hbatch : 0 < l''.polling.batch := by
    refine Polling.batch_pos ?_ hfree
    rw [((hv.sound hs).loop hready'.life).settings]
    exact hnumber
  obtain ⟨es, hrun⟩ := hv
  exact ⟨es, _, _, hrun.step (.ask hready' _ (Polling.tick_of_batch (hsame.trans hidle) hbatch))⟩

end Onward

/-- When receives cease. As long as the loop of a subscription has not taken notice that it was
cancelled, a receive can still begin, and where the loop waits it can take notice as well; from the
moment when it has taken notice, no receive begins and none brings messages. -/
theorem receives_cease_iff (h : Run (start c) es s) (hc : c.settings.violation? = none)
    (hcancelled : s.cancelled) (hlife : s.life = .polling l) :
    ((∀ more t, Run s more t → ∀ e ∈ more, ¬ e.Receives) ↔ l.polling.phase = .draining) ∧
      (s.duty = .done () → l.polling.phase ≠ .draining →
        ∃ t, Step s .silent t ∧ t.HasNoticed) := by
  have hs := h.sound (sound_start c)
  have hregular : s.IsRegular := h.isRegular fun hstart ↦ nomatch hstart
  refine ⟨⟨fun hquiet ↦ ?_, fun hdraining ↦ ?_⟩, fun hduty hpolls ↦ ?_⟩
  · refine Decidable.byContradiction fun hpolls ↦ ?_
    obtain ⟨more, request, t, hrun⟩ := hs.exists_run_asked hregular hc hlife hpolls
    exact hquiet _ t hrun (.asked request) (List.mem_append_right _ (List.mem_singleton_self _))
      trivial
  · intro more t hrun
    have hnoticed : s.HasNoticed := by rwa [HasNoticed, hlife]
    exact (hrun.quiet hnoticed).1
  · refine exists_stop ⟨hlife, hduty⟩ ?_ hcancelled
    have hrunning := (hregular hlife).running
    cases hphase : l.polling.phase with
    | idle | receiving | dispatching => trivial
    | draining => exact absurd hphase hpolls
    | stopped => exact absurd hphase hrunning

/-- A subscription that was cancelled while its loop is idle can still receive; when its loop has
taken notice it cannot. -/
theorem receives_cease_iff_sample :
    let polling : Polling := { settings := { maxInFlight := 2 }, queueUrl := "samples", due := 0 }
    let session (p : Polling) : Session sampleSetup :=
      { start sampleSetup with life := .polling ⟨p, none⟩, cancelled := true }
    let idle := session polling
    let draining := session { polling with phase := .draining }
    Run (start sampleSetup) [.silent, .cancelled] idle ∧
      (∃ more t, Run idle more t ∧ ∃ e ∈ more, e.Receives) ∧ Step idle .silent draining ∧
      ∀ more t, Run draining more t → ∀ e ∈ more, ¬ e.Receives := by
  intro polling session idle draining
  have hidle : Run (start sampleSetup) [.silent, .cancelled] idle :=
    ((Run.refl _).step (.begin rfl 0 rfl)).step (.cancel _)
  have hstop : Step idle .silent draining := .stop ⟨rfl, rfl⟩ rfl rfl
  have hbefore := (receives_cease_iff hidle rfl rfl rfl).1
  have hafter := (receives_cease_iff (hidle.step hstop) rfl rfl rfl).1
  refine ⟨hidle, ?_, hstop, hafter.mpr rfl⟩
  simpa using mt hbefore.mp nofun

/-- A subscription whose first receive fails is cancelled when it has reported the failure. Then it
begins another receive, and takes in a message. -/
theorem receives_after_cancellation :
    let failure : Error := .transport "ReceiveMessage" "injected failure"
    let name := sampleSetup.type.fullName
    let m : Received := ⟨"late", "", "receipt"⟩
    ∃ s t : Session sampleSetup,
      Run (start sampleSetup) [.silent, .asked sampleRequest,
        .replied sampleRequest (.error failure),
        .reported ⟨.count (.consumeFailed name .receive), ()⟩, .reported ⟨.report failure, ()⟩,
        .cancelled] s ∧
      s.cancelled ∧
      Run s [.asked sampleRequest, .replied sampleRequest (.ok [m])] t := by
  intro failure name m
  have hasked : Run (start sampleSetup) [.silent, .asked sampleRequest] _ :=
    ((Run.refl _).step (.begin rfl 0 rfl)).step (.ask ⟨rfl, rfl⟩ 0 rfl)
  have hreported := ((hasked.step (.receiveFailed ⟨rfl, rfl⟩ rfl (e := failure) rfl)).step
    (.report rfl ())).step (.report rfl ())
  have hcancelled := hreported.step (.cancel _)
  exact ⟨_, _, hcancelled, rfl,
    ((Run.refl _).step (.ask ⟨rfl, rfl⟩ 1000 rfl)).step (.receive ⟨rfl, rfl⟩ rfl rfl)⟩

end Session

end MessageBus
