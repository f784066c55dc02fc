import StudyProject.Video.Session

/-! The activity's timers.  A timer lives exactly while a recording is on, and it is the one
`mTimer` refers to.  The counter that decides when `sendVideo` is posted has 32 bits and is reset
only by `recordStop`, so between two stops it passes `MAX_TIME` once. -/

namespace StudyProject.Video

open StudyProject.Library StudyProject.Library.Objects

variable {s t : World} {i : Input}

/-- The timer that should be running. -/
def Session.liveTimer (a : Session) : Option Nat := if a.isRecording then a.mTimer else none

theorem Session.liveTimer_eq_some {a : Session} {i : Nat} :
    a.liveTimer = some i ↔ a.isRecording = true ∧ a.mTimer = some i := by
  unfold Session.liveTimer
  split <;> simp_all

structure Session.TimersHeld (a : Session) : Prop where
  sole : Sole Timer.Live a.timers a.liveTimer
  held : a.isRecording = true → a.mTimer.isSome = true

theorem Timer.cancel_dead (x : Timer) : ¬x.cancel.Live := by
  unfold Timer.cancel Timer.Live
  split
  · rename_i cancelled
    simp [cancelled]
  · simp

theorem Timer.tick_live (x : Timer) : x.tick.Live ↔ x.Live := Iff.rfl

/-- Cancelling the timer of `mTimer` leaves no timer running, whether or not it was running. -/
theorem Session.TimersHeld.cancel {a : Session} (h : a.TimersHeld) :
    Sole Timer.Live (update a.mTimer Timer.cancel a.timers) none := by
  cases recording : a.isRecording with
  | true =>
    have sole : Sole Timer.Live a.timers a.mTimer := by
      simpa [Session.liveTimer, recording] using h.sole
    exact sole.retire Timer.cancel_dead
  | false =>
    have sole : Sole Timer.Live a.timers none := by
      simpa [Session.liveTimer, recording] using h.sole
    refine ⟨by simp, fun i x at_i live => ?_⟩
    obtain ⟨-, y, -, rfl⟩ | ⟨-, old⟩ := getElem?_update at_i
    · exact absurd live (Timer.cancel_dead y)
    · exact absurd live (sole.none_live old)

theorem Move.timersHeld {e : Event} {a : Session} (move : Move s e a)
    (h : s.session.TimersHeld) : a.TimersHeld := by
  cases move with
  | same => exact h
  | pressed => exact ⟨h.sole, h.held⟩
  | started time fileName event idle =>
    have none_lives : Sole Timer.Live s.timers none := by
      simpa [Session.liveTimer, World.session, idle] using h.sole
    exact ⟨none_lives.alloc rfl, fun _ => rfl⟩
  | stopped => exact ⟨h.cancel, fun recording => absurd recording (by simp [Session.stop])⟩
  | showed => exact ⟨h.sole, h.held⟩
  | ticked n => exact ⟨h.sole.update Timer.tick_live (some n), h.held⟩

theorem timersHeld (cameraCount : Nat) (progress : CustomProgress) (run : List Input) :
    (Machine.final step (initView cameraCount progress) run).session.TimersHeld :=
  Machine.invariant (I := fun s => s.session.TimersHeld)
    (fun _ _ _ h stepped => (step_move stepped).timersHeld h)
    ⟨.nil, fun recording => absurd recording (by simp [World.session, initView])⟩ run

/-- At most one timer runs, `mTimer` refers to it, and one runs exactly while `isRecording`. -/
structure World.OneTimer (s : World) : Prop where
  unique : ∀ (i j : Nat) (x y : Timer),
    s.timers[i]? = some x → x.Live → s.timers[j]? = some y → y.Live → i = j
  mTimer : ∀ (i : Nat) (x : Timer), s.timers[i]? = some x → x.Live → s.mTimer = some i
  recording : s.isRecording = true ↔ ∃ (i : Nat) (x : Timer), s.timers[i]? = some x ∧ x.Live

theorem Session.TimersHeld.oneTimer (h : s.session.TimersHeld) : s.OneTimer where
  unique _ _ _ _ at_i live_x at_j live_y := h.sole.unique at_i live_x at_j live_y
  mTimer i x at_i live := (Session.liveTimer_eq_some.mp (h.sole.only i x at_i live)).2
  recording := by
    constructor
    · intro recording
      obtain ⟨i, held⟩ := Option.isSome_iff_exists.mp (h.held recording)
      obtain ⟨x, at_i, live⟩ := h.sole.held i (Session.liveTimer_eq_some.mpr ⟨recording, held⟩)
      exact ⟨i, x, at_i, live⟩
    · rintro ⟨i, x, at_i, live⟩
      exact (Session.liveTimer_eq_some.mp (h.sole.only i x at_i live)).1

theorem Session.TimersHeld.none_live (h : s.session.TimersHeld) (idle : s.isRecording = false) :
    ∀ x ∈ s.timers, ¬x.Live := by
  intro x mem live
  obtain ⟨i, at_i⟩ := List.mem_iff_getElem?.mp mem
  have recording := h.oneTimer.recording.mpr ⟨i, x, at_i, live⟩
  rw [idle] at recording
  simp at recording

/-! ### Posting `sendVideo` -/

/-- The number of times `sendVideo` was posted. -/
def World.sendVideos (s : World) : Nat := s.posted.count .sendVideo

theorem count_tickPosts (count : BitVec 32) :
    (tickPosts count).count .sendVideo = if count = MAX_TIME then 1 else 0 := by
  rw [tickPosts, List.count_cons_of_ne (by decide)]
  split <;> rfl

/-- A step that does not stop the recording leaves the counter alone, and posts nothing, unless it
is a tick. -/
theorem step_counter (h : step s i = some t) (going : s.stops i.event = false) :
    (i.event.isTick = false ∧ t.mTimeCount = s.mTimeCount ∧ t.sendVideos = s.sendVideos) ∨
      (i.event.isTick = true ∧ t.mTimeCount = s.mTimeCount + 1 ∧
        t.sendVideos = s.sendVideos + if s.mTimeCount + 1 = MAX_TIME then 1 else 0) := by
  have move := step_move h
  generalize event : i.event = e at move going
  generalize session : t.session = a at move
  have count : t.mTimeCount = a.mTimeCount := by rw [← session]; rfl
  have posts : t.sendVideos = a.posted.count .sendVideo := by rw [← session]; rfl
  rw [count, posts]
  cases move with
  | same noTick => exact .inl ⟨noTick, rfl, rfl⟩
  | pressed time fileName event => exact .inl ⟨by rw [event]; rfl, rfl, rfl⟩
  | started time fileName event => exact .inl ⟨by rw [event]; rfl, rfl, rfl⟩
  | stopped stops => rw [stops] at going; simp at going
  | showed event => exact .inl ⟨by rw [event]; rfl, rfl, rfl⟩
  | ticked n event =>
    refine .inr ⟨by rw [event]; rfl, rfl, ?_⟩
    exact (List.count_append).trans (congrArg _ (count_tickPosts _))

/-- The counter comes back to a value only after a full round. -/
theorem counter_moves (count : BitVec 32) {k : Nat} (one : 1 ≤ k) (bound : k < 2 ^ 32) :
    count + BitVec.ofNat 32 k ≠ count := by
  intro back
  have zero : BitVec.ofNat 32 k = BitVec.ofNat 32 0 := by simpa using back
  have round := congrArg BitVec.toNat zero
  rw [BitVec.toNat_ofNat, Nat.mod_eq_of_lt bound, BitVec.toNat_ofNat, Nat.zero_mod] at round
  omega

/-- Along steps that do not stop the recording, `sendVideo` is posted when the counter comes to
`MAX_TIME`, and in fewer than `2 ^ 32` ticks it comes there at most once. -/
theorem sendVideos_segment (seg : List Input)
    (going : ∀ x ∈ Machine.steps step s seg, x.before.stops x.event.event = false)
    (ticks : (Machine.steps step s seg).countP (fun x => x.event.event.isTick) < 2 ^ 32) :
    (Machine.final step s seg).sendVideos = s.sendVideos ∨
      ((Machine.final step s seg).sendVideos = s.sendVideos + 1 ∧
        ∃ k, 1 ≤ k ∧ k ≤ (Machine.steps step s seg).countP (fun x => x.event.event.isTick) ∧
          s.mTimeCount + BitVec.ofNat 32 k = MAX_TIME) := by
  induction seg generalizing s with
  | nil => exact .inl rfl
  | cons i seg ih =>
    rw [Machine.final_cons]
    cases h : step s i with
    | none =>
      rw [Machine.next_none h]
      rw [Machine.steps_cons_none h] at going ticks ⊢
      exact ih going ticks
    | some t =>
      rw [Machine.next_some h]
      rw [Machine.steps_cons_some h] at going ticks ⊢
      rw [List.forall_mem_cons] at going
      obtain ⟨first, rest⟩ := going
      rw [List.countP_cons] at ticks ⊢
      rcases step_counter h first with ⟨noTick, count, posts⟩ | ⟨tick, count, posts⟩
      · simp only [noTick, Bool.false_eq_true, ↓reduceIte, Nat.add_zero] at ticks ⊢
        rw [← count, ← posts]
        exact ih rest ticks
      · simp only [tick, ↓reduceIte] at ticks ⊢
        have later := ih rest (by omega)
        rw [posts] at later
        split at later
        · -- The counter is at the limit now, and comes there again only after a full round.
          rename_i limit
          rcases later with same | ⟨-, k, one, bound, again⟩
          · exact .inr ⟨same, 1, by omega, by omega, limit⟩
          · rw [count, limit] at again
            exact absurd again (counter_moves MAX_TIME one (by omega))
        · rcases later with same | ⟨once, k, one, bound, again⟩
          · exact .inl same
          · refine .inr ⟨once, k + 1, by omega, by omega, ?_⟩
            rw [count] at again
            rw [← again, BitVec.ofNat_add, BitVec.add_assoc, BitVec.add_comm (BitVec.ofNat 32 k)]
            rfl

/-- In every run a timer runs exactly while a recording is on, and in a stretch without
`recordStop` and with fewer than `2 ^ 31` ticks `sendVideo` is posted at most once. -/
theorem timer_discipline (cameraCount : Nat) (progress : CustomProgress) (run seg : List Input)
    (going : ∀ x ∈ Machine.steps step (Machine.final step (initView cameraCount progress) run) seg,
      x.before.stops x.event.event = false)
    (ticks : (Machine.steps step (Machine.final step (initView cameraCount progress) run)
      seg).countP (fun x => x.event.event.isTick) < 2 ^ 31) :
    (Machine.final step (initView cameraCount progress) run).OneTimer ∧
      (Machine.final step (initView cameraCount progress) (run ++ seg)).sendVideos ≤
        (Machine.final step (initView cameraCount progress) run).sendVideos + 1 := by
  refine ⟨(timersHeld cameraCount progress run).oneTimer, ?_⟩
  rw [Machine.final_append]
  rcases sendVideos_segment seg going (by omega) with same | ⟨once, -⟩
  · rw [same]
    omega
  · rw [once]

/-- A recording that is stopped, with a tick that completes after the stop. -/
theorem timer_discipline_late_tick :
    (Machine.final step (initView 2 (.initAttrs 78 78 1 {}))
        [⟨.surfaceCreated 0, {}⟩, ⟨.actionDown, {}⟩, ⟨.actionUp, { now := 2000 }⟩]).OneTimer ∧
      (Machine.final step (initView 2 (.initAttrs 78 78 1 {}))
        ([⟨.surfaceCreated 0, {}⟩, ⟨.actionDown, {}⟩, ⟨.actionUp, { now := 2000 }⟩] ++
          [⟨.tick 0, {}⟩])).sendVideos ≤
        (Machine.final step (initView 2 (.initAttrs 78 78 1 {}))
          [⟨.surfaceCreated 0, {}⟩, ⟨.actionDown, {}⟩, ⟨.actionUp, { now := 2000 }⟩]).sendVideos +
            1 :=
  timer_discipline 2 _ _ _ (by decide) (by decide)

end StudyProject.Video
