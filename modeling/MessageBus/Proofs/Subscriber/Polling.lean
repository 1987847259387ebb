import MessageBus.Subscriber.Polling
/-!
What each event does to a polling loop that can take it: one lemma for each event says in which
phase it is possible, which state it leads to and which command it gives. A tick asks for no more
messages than there are free slots (`batch_le_free`), and a slot is taken only where one is free.
-/

set_option autoImplicit false
set_option relaxedAutoImplicit false

namespace MessageBus.Polling

variable {p q : Polling} {command : Option Command}

theorem batch_le_free (p : Polling) : p.batch ≤ p.free :=
  Nat.le_trans (Nat.min_le_right ..) (Nat.min_le_left ..)

theorem batch_le_maxNumberOfMessages (p : Polling) : p.batch ≤ p.settings.maxNumberOfMessages :=
  Nat.min_le_left ..

/-- Free slots are counted in a half word, which does not matter to settings that fit into one. -/
theorem batch_eq_min (h : p.settings.maxNumberOfMessages < halfWordBound) :
    p.batch = min p.settings.maxNumberOfMessages p.free := by
  rw [batch]
  omega

theorem nextDue_le {now : Nat} (h : p.due ≤ now) :
    p.nextDue now ≤ now + p.settings.receiveIntervalMs := by
  rw [nextDue]
  split <;> omega

/-- A tick is skipped where no slot is free; else it asks for a batch. -/
theorem tick_eq {now : Nat} (h : p.step (.tick now) = some (q, command)) :
    p.phase = .idle ∧
      ((q = { p with due := p.nextDue now } ∧ command = none) ∨
        (0 < p.batch ∧ q = { p with due := p.nextDue now, phase := .receiving } ∧
          command = some (.receive p.request))) := by
  simp only [step] at h
  split at h
  · next hidle =>
    refine ⟨hidle.1, ?_⟩
    split at h
    · cases h
      exact .inl ⟨rfl, rfl⟩
    · next hbatch =>
      cases h
      exact .inr ⟨Nat.pos_of_ne_zero hbatch, rfl, rfl⟩
  · cases h

theorem received_eq {messages : List Received}
    (h : p.step (.received messages) = some (q, command)) :
    p.phase = .receiving ∧ q = { p with phase := dispatchPhase messages } ∧ command = none := by
  simp only [step] at h
  split at h
  · next hreceiving =>
    cases h
    exact ⟨hreceiving, rfl, rfl⟩
  · cases h

theorem receiveFailed_eq {e : Error} (h : p.step (.receiveFailed e) = some (q, command)) :
    p.phase = .receiving ∧ q = { p with phase := .idle } ∧ command = some (.report e) := by
  simp only [step] at h
  split at h
  · next hreceiving =>
    cases h
    exact ⟨hreceiving, rfl, rfl⟩
  · cases h

theorem slotTaken_eq (h : p.step .slotTaken = some (q, command)) :
    ∃ m rest, p.phase = .dispatching (m :: rest) ∧ 0 < p.free ∧
      q = { p with phase := dispatchPhase rest, running := p.running + 1 } ∧
      command = some (.dispatch m) := by
  simp only [step] at h
  split at h
  · next m rest hphase =>
    split at h
    · next hfree =>
      cases h
      exact ⟨m, rest, hphase, hfree, rfl, rfl⟩
    · cases h
  · cases h

theorem cancelled_eq (h : p.step .cancelled = some (q, command)) :
    q = { p with phase := .draining } ∧ command = none := by
  simp only [step] at h
  split at h
  · cases h
    exact ⟨rfl, rfl⟩
  · cases h
    exact ⟨rfl, rfl⟩
  · cases h
    exact ⟨rfl, rfl⟩
  · cases h

theorem handlerFinished_eq (h : p.step .handlerFinished = some (q, command)) :
    0 < p.running ∧ q = { p with running := p.running - 1 } ∧ command = none := by
  simp only [step] at h
  split at h
  · next hrunning =>
    cases h
    exact ⟨hrunning, rfl, rfl⟩
  · cases h

theorem drained_eq (h : p.step .drained = some (q, command)) :
    p.phase = .draining ∧ p.running = 0 ∧ command = none := by
  simp only [step] at h
  split at h
  · next hdraining =>
    cases h
    exact ⟨hdraining.1, hdraining.2, rfl⟩
  · cases h

theorem start?_eq {settings : SubscriberSettings} {queueUrl : String} {now : Nat}
    (h : start? settings queueUrl now = some p) :
    p = { settings := settings, queueUrl := queueUrl, due := now } := by
  rw [start?] at h
  split at h
  · exact (Option.some.inj h).symm
  · cases h

/-- What breaks a subscription down at its start. -/
theorem start?_eq_none_iff {settings : SubscriberSettings} {queueUrl : String} {now : Nat} :
    start? settings queueUrl now = none ↔
      maxSlots < settings.maxInFlight ∨ settings.receiveIntervalMs = 0 := by
  rw [start?]
  split
  · next hstarts =>
    refine iff_of_false (Option.some_ne_none _) ?_
    omega
  · next hstarts =>
    refine iff_of_true rfl ?_
    omega

/-- A message that has been received is handed out as soon as a slot is free. -/
theorem slotTaken_of_free {m : Received} {rest : List Received}
    (hphase : p.phase = .dispatching (m :: rest)) (hfree : 0 < p.free) :
    ∃ q, p.step .slotTaken = some (q, some (.dispatch m)) := by
  simp only [step, hphase, if_pos hfree]
  exact ⟨_, rfl⟩

end MessageBus.Polling
