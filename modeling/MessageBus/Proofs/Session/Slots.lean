import MessageBus.Proofs.Session.Trace
/-!
Bounded concurrency. A subscription never handles more messages at a time than it has slots, and a
receive asks for no more messages than there are free slots. While a receive is under way slots only
become free. So where receives bring no more than they are asked for, there is a free slot for every
message that has been received and not been handed out (`HasRoom`), and none has to wait for one
(`slots_bounded`).
-/

set_option autoImplicit false
set_option relaxedAutoImplicit false

namespace MessageBus.Session

variable {c : Setup} {s t : Session c} {e : Event} {es : List Event}

/-- A receive brings no more messages than it was asked for. -/
def Event.IsModest : Event → Prop
  | .replied request (.ok messages) => messages.length ≤ request.maxNumberOfMessages
  | _ => True

/-- Whether there is a free slot for every message that waits for one. -/
def HasRoom (s : Session c) : Prop :=
  ∀ {l waiting}, s.life = .polling l → l.polling.phase = .dispatching waiting →
    waiting.length ≤ l.polling.free

theorem Step.hasRoom (h : Step s e t) (hs : s.Sound) (hroom : s.HasRoom) (he : e.IsModest) :
    t.HasRoom := by
  intro loop waiting hlife hphase
  cases h.waits hlife hphase with
  | kept hbefore hwaiting hurl hfree => exact Nat.le_trans (hroom hbefore hwaiting) hfree
  | received hbefore hrequest hreplied hurl hfree =>
    rw [hreplied] at he
    exact hfree ▸ Nat.le_trans he ((hs.loop hbefore).request _ hrequest).2
  | next hbefore hwaiting hurl hfree =>
    have hroomy := hroom hbefore hwaiting
    rw [hfree] at hroomy
    exact Nat.le_of_succ_le_succ hroomy

theorem Run.hasRoom (h : Run s es t) (hs : s.Sound) (hroom : s.HasRoom)
    (hes : ∀ e ∈ es, e.IsModest) : t.HasRoom := by
  induction h with
  | refl => exact hroom
  | step hrun hstep ih =>
    obtain ⟨hbefore, he⟩ := List.forall_mem_append.mp hes
    exact hstep.hasRoom (hrun.sound hs) (ih hbefore) (he _ (List.mem_singleton_self _))

theorem Loop.Agrees.free_eq {l : Loop} (h : l.Agrees s) :
    l.polling.free = c.settings.maxInFlight - s.inFlight := by
  rw [Polling.free, h.settings, h.running]

/-- The receive that begins is the one that the loop of the session asks for. -/
theorem Step.request_of_asked {request : ReceiveRequest} (h : Step s (.asked request) t)
    (hs : s.Sound) :
    ∃ l : Loop, l.Agrees s ∧ 0 < l.polling.batch ∧ request = l.polling.request := by
  cases h with
  | ask hready now hp =>
    obtain ⟨-, ⟨-, hnone⟩ | ⟨hbatch, -, hasked⟩⟩ := Polling.tick_eq hp
    · cases hnone
    · cases hasked
      exact ⟨_, hs.loop hready.life, hbatch, rfl⟩

theorem Step.batch_of_asked {request : ReceiveRequest} (h : Step s (.asked request) t)
    (hs : s.Sound) :
    1 ≤ request.maxNumberOfMessages ∧ request.maxNumberOfMessages ≤
      min c.settings.maxNumberOfMessages (c.settings.maxInFlight - s.inFlight) := by
  obtain ⟨l, hl, hbatch, rfl⟩ := h.request_of_asked hs
  refine ⟨hbatch, Nat.le_min.mpr ⟨?_, ?_⟩⟩
  · exact hl.settings ▸ Polling.batch_le_maxNumberOfMessages _
  · exact hl.free_eq ▸ Polling.batch_le_free _

/-- Bounded concurrency. In whatever a subscription can come to, the messages that were handed out
and are still being handled are at most as many as it has slots; its loop knows how many they are,
and the slots in use and the free ones make up all slots. A receive asks for at least one message
and for at most as many as are free and as the settings allow, so there is no receive without a free
slot. Where receives never brought more than was asked for, there are as many free slots as messages
that wait to be handed out, and the first of them can be handed out at once. -/
theorem slots_bounded (h : Run (start c) es s) :
    s.inFlight ≤ c.settings.maxInFlight ∧
      (∀ l, s.life = .polling l → l.polling.running = s.inFlight ∧
        l.polling.running + l.polling.free = c.settings.maxInFlight) ∧
      (∀ request t, Step s (.asked request) t → 1 ≤ request.maxNumberOfMessages ∧
        request.maxNumberOfMessages ≤
          min c.settings.maxNumberOfMessages (c.settings.maxInFlight - s.inFlight)) ∧
      ((∀ e ∈ es, e.IsModest) → ∀ l waiting, s.life = .polling l →
        l.polling.phase = .dispatching waiting → waiting.length ≤ l.polling.free ∧
          ∀ m rest, waiting = m :: rest → ∃ t, Step s (.dispatched m) t) := by
  have hs : s.Sound := h.sound (sound_start c)
  refine ⟨hs.inFlight_le, ?_, fun request t hasked ↦ hasked.batch_of_asked hs, ?_⟩
  · intro l hlife
    have hl := hs.loop hlife
    refine ⟨hl.running, ?_⟩
    rw [hl.running, hl.free_eq]
    exact Nat.add_sub_cancel' hl.bounded
  · intro hmodest l waiting hlife hphase
    have hroom : waiting.length ≤ l.polling.free :=
      h.hasRoom (sound_start c) (fun hstart ↦ nomatch hstart) hmodest hlife hphase
    refine ⟨hroom, ?_⟩
    rintro m rest rfl
    have hready : s.IsReady l := ⟨hlife, (hs.loop hlife).duty (hphase ▸ nofun)⟩
    obtain ⟨p, hp⟩ := Polling.slotTaken_of_free hphase (Nat.zero_lt_of_lt hroom)
    exact ⟨_, .dispatch hready hp []⟩

/-- A subscription with two slots asks for two messages and receives them; when the first was handed
out there is a slot for the other one. -/
theorem slots_bounded_sample :
    let first : Received := ⟨"first", "", "receipt"⟩
    let second : Received := ⟨"second", "", "other receipt"⟩
    let polling : Polling := { settings := { maxInFlight := 2 }, queueUrl := "samples", due := 0 }
    let idle : Session sampleSetup := { start sampleSetup with life := .polling ⟨polling, none⟩ }
    let es : List Event := [.silent, .asked sampleRequest,
      .replied sampleRequest (.ok [first, second]), .dispatched first]
    ∃ (asking s u : Session sampleSetup) (l : Loop),
      Run (start sampleSetup) [.silent] idle ∧ Step idle (.asked sampleRequest) asking ∧
      sampleRequest.maxNumberOfMessages ≤ min 10 (2 - idle.inFlight) ∧
      Run (start sampleSetup) es s ∧ (∀ e ∈ es, e.IsModest) ∧ s.life = .polling l ∧
      l.polling.phase = .dispatching [second] ∧ s.inFlight = 1 ∧
      l.polling.running + l.polling.free = 2 ∧ 1 ≤ l.polling.free ∧
      Step s (.dispatched second) u := by
  intro first second polling idle es
  have hidle : Run (start sampleSetup) [.silent] idle := (Run.refl _).step (.begin rfl 0 rfl)
  have hasking : Step idle (.asked sampleRequest) _ := .ask ⟨rfl, rfl⟩ 0 rfl
  have hdispatched : Run (start sampleSetup) es _ :=
    ((hidle.step hasking).step (.receive ⟨rfl, rfl⟩ rfl rfl)).step (.dispatch ⟨rfl, rfl⟩ rfl [])
  have hmodest : ∀ e ∈ es, e.IsModest := by simp [es, Event.IsModest, sampleRequest]
  obtain ⟨-, -, hbatch, -⟩ := slots_bounded hidle
  obtain ⟨-, hslots, -, hroom⟩ := slots_bounded hdispatched
  obtain ⟨hfree, hnext⟩ := hroom hmodest _ _ rfl rfl
  obtain ⟨u, hu⟩ := hnext second [] rfl
  exact ⟨_, _, u, _, hidle, hasking, (hbatch _ _ hasking).2, hdispatched, hmodest, rfl, rfl, rfl,
    (hslots _ rfl).2, hfree, hu⟩

end MessageBus.Session
