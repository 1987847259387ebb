import MessageBus.Proofs.Scenario.LongPolling
import MessageBus.Proofs.Session.Slots
/-!
The limits that a subscription stays within when its settings are in range. There is time between
its ticks, a receive asks for one to ten messages however many slots are free
(`Polling.batch_of_valid`), and the deadline of a receive and the time until which it puts messages
out of sight are ones that the clock can show, until half a day before it runs out
(`Polling.keepsTime_request`).

The one limit that the range does not respect is that of the slots. Settings in range can ask for
more slots than a subscription can have, and it breaks down exactly then, as soon as its queue is
found (`Session.Run.found_iff`). What holds of all settings in range is `Session.within_limits`,
and settings in range that break a subscription down are those of `Session.breaks_down_in_range`.
-/

set_option autoImplicit false
set_option relaxedAutoImplicit false

namespace MessageBus

/-! ### Times that the clock can show -/

namespace Clock

/-- The clock counts whole seconds in 63 bits; this is the first millisecond after them. -/
def bound : Nat := 0x8000000000000000 * 1000

/-- The time that is so many milliseconds later, if the clock can show it. -/
def later? (now millis : Nat) : Option Nat :=
  if now + millis < bound then some (now + millis) else none

theorem later?_of_lt {now millis : Nat} (h : now + millis < bound) :
    later? now millis = some (now + millis) :=
  if_pos h

/-- Fewer seconds do not lead further. -/
theorem later?_of_le {now seconds limit : Nat} (hle : seconds ≤ limit)
    (hlimit : now + limit * 1000 < bound) :
    later? now (seconds * 1000) = some (now + seconds * 1000) :=
  later?_of_lt (Nat.lt_of_le_of_lt (Nat.add_le_add_left (Nat.mul_le_mul_right _ hle) _) hlimit)

end Clock

/-- A receive changes a message only by putting it out of sight for the time that was asked for, or
by moving it, whereupon it is visible at once. -/
theorem Broker.visibleAt_of_receive {b b' : Broker} {m : Moment} {request : ReceiveRequest}
    {messages : List Received} (h : b.receive m request = .ok (messages, b')) {url : String}
    {x : StoredMessage} (hx : x ∈ b'.messages url) :
    x ∈ b.messages url ∨ x.visibleAt = m.millis + request.visibilityTimeoutSeconds * 1000 ∨
      x.visibleAt = m.millis := by
  obtain ⟨queue, hqueue, -, rfl⟩ := receive_eq h
  have hkept {y : StoredMessage} (hy : y ∈ (b.setQueue request.queueUrl
      { queue with messages := (b.pass m request).kept }).messages url) :
      y ∈ b.messages url ∨ y.visibleAt = m.millis + request.visibilityTimeoutSeconds * 1000 := by
    rw [messages_setQueue] at hy
    split at hy
    · next hurl =>
      rcases Sweep.mem_of_mem_kept hy with hstays | ⟨old, -, r, -, -, rfl⟩
      · exact .inl (hurl ▸ hstays)
      · exact .inr rfl
    · exact .inl hy
  rw [pass_of_find? hqueue] at hkept
  simp only [sweepQueue] at hx
  split at hx
  · rcases mem_of_mem_append hx with hstays | hmoved
    · exact (hkept hstays).imp_right .inl
    · obtain ⟨y, -, rfl⟩ := List.mem_map.mp hmoved
      exact .inr (.inr rfl)
  · exact (hkept hx).imp_right .inl

/-- Whether the clock can show the times that belong to a receive `now`. -/
structure ReceiveRequest.KeepsTime (request : ReceiveRequest) (now : Nat) : Prop where
  /-- It waits for messages until a deadline. -/
  deadline : ∃ deadline, Clock.later? now (request.waitTimeSeconds * 1000) = some deadline ∧
    ∀ abandoned w k, (Scenario.receive abandoned request k).turn now w =
      (Scenario.pollUntil abandoned request deadline (100 * request.waitTimeSeconds) k).turn now w
  /-- It puts messages out of sight until they are due, and leaves those that it moves visible. -/
  visibility : ∃ due, Clock.later? now (request.visibilityTimeoutSeconds * 1000) = some due ∧
    ∀ (b b' : Broker) (m : Moment) (messages : List Received), m.millis = now →
      b.receive m request = .ok (messages, b') → ∀ url, ∀ x ∈ b'.messages url,
        x ∈ b.messages url ∨ x.visibleAt = due ∨ x.visibleAt = now

theorem ReceiveRequest.keepsTime {request : ReceiveRequest} {now : Nat}
    (hwait : request.waitTimeSeconds ≤ 20) (hvisibility : request.visibilityTimeoutSeconds ≤ 43200)
    (hnow : now + 43200 * 1000 < Clock.bound) : request.KeepsTime now where
  deadline := by
    have hshorter : request.waitTimeSeconds ≤ 43200 := Nat.le_trans hwait (by decide)
    exact ⟨_, Clock.later?_of_le hshorter hnow, fun _ _ _ ↦ Scenario.turn_receive⟩
  visibility := by
    refine ⟨_, Clock.later?_of_le hvisibility hnow, ?_⟩
    rintro b b' m messages rfl hreceive url x hx
    exact Broker.visibleAt_of_receive hreceive hx

/-! ### Settings in range -/

namespace Polling

variable {p : Polling}

/-- However many slots are free, a loop asks for as many messages, up to its number. -/
theorem batch_of_valid (h : p.settings.violation? = none) :
    p.batch = min p.settings.maxNumberOfMessages p.free ∧ p.batch ≤ 10 := by
  obtain ⟨⟨-, hnumber⟩, -⟩ := SubscriberSettings.violation?_eq_none_iff.mp h
  refine ⟨batch_eq_min ?_, Nat.le_trans p.batch_le_maxNumberOfMessages hnumber⟩
  exact Nat.lt_of_le_of_lt hnumber (by decide)

theorem keepsTime_request (h : p.settings.violation? = none) {now : Nat}
    (hnow : now + 43200 * 1000 < Clock.bound) : p.request.KeepsTime now := by
  obtain ⟨-, -, hwait, hvisibility, -⟩ := SubscriberSettings.violation?_eq_none_iff.mp h
  exact ReceiveRequest.keepsTime hwait hvisibility hnow

end Polling

namespace Session

variable {c : Setup} {s t : Session c} {e : Event} {es : List Event}

/-- Whether what a session has come to fits to the number of its slots: one that polls has no more
than it can have, and one that broke down has more. -/
def Life.FitsSlots (slots : Nat) : Life → Prop
  | .polling _ => slots ≤ Polling.maxSlots
  | .broken => Polling.maxSlots < slots
  | .resolving _ | .returned _ => True

theorem Step.fitsSlots (h : Step s e t) (hc : c.settings.violation? = none)
    (hs : s.life.FitsSlots c.settings.maxInFlight) :
    t.life.FitsSlots c.settings.maxInFlight := by
  obtain ⟨-, hinterval, -⟩ := SubscriberSettings.violation?_eq_none_iff.mp hc
  cases h with
  | cancel | report | perform => exact hs
  | resolve | refuse | leave => trivial
  | begin hlife now hp =>
    have hsome := Option.ne_none_iff_exists'.mpr ⟨_, hp⟩
    rw [ne_eq, Polling.start?_eq_none_iff, not_or, Nat.not_lt] at hsome
    exact hsome.1
  | breakDown hlife now hp =>
    -- There is time between the ticks, so it is the slots.
    exact (Polling.start?_eq_none_iff.mp hp).resolve_right (Nat.ne_of_gt hinterval)
  | skip hready | ask hready | receive hready | receiveFailed hready | dispatch hready
  | stop hready => rwa [hready.life] at hs
  | finish hd hrest hopen hlife => rwa [hlife] at hs

theorem Run.fitsSlots (h : Run (start c) es s) (hc : c.settings.violation? = none) :
    s.life.FitsSlots c.settings.maxInFlight := by
  induction h with
  | refl => trivial
  | step _ hstep ih => exact hstep.fitsSlots hc ih

/-- A subscription whose queue is found breaks down if it was to have more slots than it can have,
and begins to poll otherwise. -/
theorem Run.found_iff (h : Run (start c) es s) (hc : c.settings.violation? = none) {url : String}
    (hfound : s.life = .resolving (.done (.ok url))) :
    ((∃ t, Step s .silent t ∧ t.life = .broken) ↔ Polling.maxSlots < c.settings.maxInFlight) ∧
      ((∃ t l, Step s .silent t ∧ t.life = .polling l) ↔
        c.settings.maxInFlight ≤ Polling.maxSlots) := by
  have hfits := h.fitsSlots hc
  refine ⟨⟨?_, fun hmore ↦ ?_⟩, ⟨?_, fun hslots ↦ ?_⟩⟩
  · rintro ⟨t, hstep, hlife⟩
    have ht := hstep.fitsSlots hc hfits
    rwa [hlife] at ht
  · exact ⟨_, .breakDown hfound 0 (Polling.start?_eq_none_iff.mpr (.inl hmore)), rfl⟩
  · rintro ⟨t, l, hstep, hlife⟩
    have ht := hstep.fitsSlots hc hfits
    rwa [hlife] at ht
  · obtain ⟨-, hinterval, -⟩ := SubscriberSettings.violation?_eq_none_iff.mp hc
    have hstarts : Polling.start? c.settings url 0 ≠ none := by
      rw [ne_eq, Polling.start?_eq_none_iff]
      omega
    obtain ⟨p, hp⟩ := Option.ne_none_iff_exists'.mp hstarts
    exact ⟨_, _, .begin hfound 0 hp, rfl⟩

/-- Settings in range keep a subscription within its limits, but for the slots. In whatever the
subscription can come to: there is time between its ticks; it has broken down only if it was to have
more slots than it can have, and when its queue is found it breaks down exactly then and begins to
poll otherwise. However many slots are free, a loop asks for as many messages, up to the number that
is set, which is at most ten. Whenever a receive begins, it asks for one to ten messages, and until
half a day before the clock runs out it can show the times that belong to the receive. The next tick
is due at a time that the clock can show as well, as long as it has a word of milliseconds left. -/
theorem within_limits (h : Run (start c) es s) (hc : c.settings.violation? = none) :
    0 < c.settings.receiveIntervalMs ∧
      (s.life = .broken → Polling.maxSlots < c.settings.maxInFlight) ∧
      (∀ url, s.life = .resolving (.done (.ok url)) →
        ((∃ t, Step s .silent t ∧ t.life = .broken) ↔
          Polling.maxSlots < c.settings.maxInFlight) ∧
        ((∃ t l, Step s .silent t ∧ t.life = .polling l) ↔
          c.settings.maxInFlight ≤ Polling.maxSlots)) ∧
      (∀ p : Polling, p.settings = c.settings →
        p.batch = min c.settings.maxNumberOfMessages p.free ∧ p.batch ≤ 10) ∧
      (∀ request t, Step s (.asked request) t →
        1 ≤ request.maxNumberOfMessages ∧ request.maxNumberOfMessages ≤ 10 ∧
        request.maxNumberOfMessages =
          min c.settings.maxNumberOfMessages (c.settings.maxInFlight - s.inFlight) ∧
        ∀ now, now + 43200 * 1000 < Clock.bound → request.KeepsTime now) ∧
      ∀ l now, s.life = .polling l → l.polling.due ≤ now →
        c.settings.receiveIntervalMs < wordBound → now + wordBound ≤ Clock.bound →
        ∃ due, Clock.later? now c.settings.receiveIntervalMs = some due ∧
          l.polling.nextDue now ≤ due := by
  have hs := h.sound (sound_start c)
  obtain ⟨-, hinterval, -⟩ := SubscriberSettings.violation?_eq_none_iff.mp hc
  refine ⟨hinterval, fun hlife ↦ ?_, fun url hfound ↦ h.found_iff hc hfound, fun p hp ↦ ?_, ?_, ?_⟩
  · have hfits := h.fitsSlots hc
    rwa [hlife] at hfits
  · rw [← hp] at hc ⊢
    exact Polling.batch_of_valid hc
  · intro request t hasked
    obtain ⟨l, hl, hpos, rfl⟩ := hasked.request_of_asked hs
    rw [← hl.settings] at hc
    obtain ⟨hmin, hten⟩ := Polling.batch_of_valid hc
    rw [hl.settings, hl.free_eq] at hmin
    exact ⟨hpos, hten, hmin, fun now hnow ↦ Polling.keepsTime_request hc hnow⟩
  · intro l now hlife hdue hword hnow
    refine ⟨_, Clock.later?_of_lt (by omega), ?_⟩
    exact (hs.loop hlife).settings ▸ Polling.nextDue_le hdue

/-- The greatest settings in range with which a subscription can run. -/
def greatestSettings : SubscriberSettings where
  maxNumberOfMessages := 10
  receiveIntervalMs := wordBound - 1
  waitTimeSeconds := 20
  visibilityTimeoutSeconds := 43200
  maxInFlight := Polling.maxSlots

/-- With the greatest settings a subscription begins to poll, and asks for ten messages. -/
theorem within_limits_sample :
    let setup : Setup := { sampleSetup with settings := greatestSettings }
    let polling : Polling := { settings := greatestSettings, queueUrl := "samples", due := 0 }
    let idle : Session setup := { start setup with life := .polling ⟨polling, none⟩ }
    let request : ReceiveRequest := ⟨"samples", 10, 20, 43200⟩
    setup.settings.violation? = none ∧
      (∃ t l, Step (start setup) .silent t ∧ t.life = .polling l) ∧
      Run (start setup) [.silent] idle ∧ (∃ t, Step idle (.asked request) t) ∧
      request.maxNumberOfMessages = min 10 (Polling.maxSlots - idle.inFlight) ∧
      request.KeepsTime 0 ∧
      ∃ due, Clock.later? 0 (wordBound - 1) = some due ∧ polling.nextDue 0 ≤ due := by
  intro setup polling idle request
  have hvalid : setup.settings.violation? = none := rfl
  have hidle : Run (start setup) [.silent] idle := (Run.refl _).step (.begin rfl 0 rfl)
  have hasked : Step idle (.asked request) _ := .ask ⟨rfl, rfl⟩ 0 rfl
  obtain ⟨-, -, hfound, -⟩ := within_limits (.refl (start setup)) hvalid
  obtain ⟨-, -, -, -, hreceives, hticks⟩ := within_limits hidle hvalid
  obtain ⟨-, -, hnumber, htimes⟩ := hreceives _ _ hasked
  exact ⟨hvalid, (hfound "samples" rfl).2.mpr (Nat.le_refl _), hidle, ⟨_, hasked⟩, hnumber,
    htimes 0 (by decide), hticks _ 0 rfl (Nat.le_refl _) (by decide) (by decide)⟩

/-- Settings in range with one slot more than a subscription can have: a subscriber takes them, and
its subscription breaks down when its queue is found. -/
theorem breaks_down_in_range :
    let settings : SubscriberSettings := { maxInFlight := Polling.maxSlots + 1 }
    let setup : Setup := { sampleSetup with settings := settings }
    settings.violation? = none ∧ settings.maxInFlight < wordBound ∧
      Subscriber.make settings none = .ok ⟨settings, none⟩ ∧
      ∃ s : Session setup, Run (start setup) [.silent] s ∧ s.life = .broken :=
  ⟨rfl, by decide, rfl, _, (Run.refl _).step (.breakDown rfl 0 rfl), rfl⟩

end Session

end MessageBus
