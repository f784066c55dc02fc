import StudyProject.Video.Recording
import StudyProject.Video.Progress

/-! A recording ends by itself.  When the counter comes to `MAX_TIME` the tick posts `sendVideo`,
which only the main thread takes off its queue again, and the runnables before it become fewer with
each one that is run.  So a recording with enough ticks and a main thread that keeps up is stopped,
by the finger or by `sendVideo`. -/

namespace StudyProject.Video

open StudyProject.Library

variable {s t : World} {i : Input}

/-- The number of runnables before the first `sendVideo` of the queue. -/
def World.ahead (s : World) : Nat := s.queue.idxOf .sendVideo

theorem idxOf_filter (queue : List Runnable) :
    (queue.filter (· ≠ .updateProgress)).idxOf .sendVideo = 0 := by
  induction queue with
  | nil => rfl
  | cons r queue ih =>
    cases r with
    | updateProgress => simpa using ih
    | sendVideo => simp

/-- A step that stops nothing leaves a waiting stop in the queue, and none but a dispatch brings it
nearer to the head. -/
theorem step_waits (stepped : step s i = some t) (going : s.stops i.event = false)
    (waits : .sendVideo ∈ s.queue) :
    .sendVideo ∈ t.queue ∧
      t.ahead + (if decide (i.event = .dispatch) then 1 else 0) ≤ s.ahead := by
  have kept (trimmed : Trimmed s t) (event : i.event ≠ .dispatch) : .sendVideo ∈ t.queue ∧
      t.ahead + (if decide (i.event = .dispatch) then 1 else 0) ≤ s.ahead := by
    rw [if_neg (by simpa using event)]
    unfold World.ahead
    rcases trimmed with queue | queue
    · rw [queue]
      exact ⟨waits, by omega⟩
    · rw [queue, idxOf_filter]
      exact ⟨by simpa using waits, by omega⟩
  cases step_outcome stepped with
  | lifecycle lifecycle =>
    refine kept ?_ fun event => by simp [event, Event.isLifecycle] at lifecycle
    rw [ended_eq]
    exact trimmed_of_lifecycle lifecycle s
  | recording event => exact kept (.inl rfl) (by simp [event])
  | press event idle press => exact kept (.inl press.queue) (by simp [event])
  | stop queue stops => simp [stops] at going
  | tick n event =>
    rw [if_neg (by simp [event])]
    refine ⟨List.mem_append_left _ waits, ?_⟩
    show (s.queue ++ _).idxOf _ + 0 ≤ _
    rw [List.idxOf_append_of_mem waits]
    exact Nat.le_refl _
  | progress queue event going =>
    have head := dispatch_update stepped event going
    rw [if_pos (by simpa using event)]
    rw [head] at waits
    refine ⟨by simpa using waits, ?_⟩
    unfold World.ahead
    rw [head, List.idxOf_cons_ne _ (by decide)]

/-- While a stop waits and nothing is stopped, fewer runnables than stand before it are run. -/
theorem run_waits {later : List Input} (waits : .sendVideo ∈ s.queue)
    (going : ∀ x ∈ Machine.steps step s later, x.before.stops x.event.event = false) :
    (Machine.steps step s later).countP (fun x => decide (x.event.event = .dispatch)) ≤
      s.ahead := by
  induction later generalizing s with
  | nil => simp
  | cons i later ih =>
    cases h : step s i with
    | none =>
      rw [Machine.steps_cons_none h] at going ⊢
      exact ih waits going
    | some t =>
      rw [Machine.steps_cons_some h, List.forall_mem_cons] at going
      obtain ⟨waits', nearer⟩ := step_waits h going.1 waits
      have rest := ih waits' going.2
      rw [Machine.steps_cons_some h, List.countP_cons]
      dsimp only
      omega

/-- A main thread that runs as many runnables as wait in its queue, one of them a stop, stops the
recording. -/
theorem waiting_stop_runs {later : List Input} (waits : .sendVideo ∈ s.queue)
    (dispatches : s.queue.length ≤
      (Machine.steps step s later).countP fun x => decide (x.event.event = .dispatch)) :
    ∃ x ∈ Machine.steps step s later, x.before.stops x.event.event = true := by
  by_contra none_stops
  push Not at none_stops
  have fewer := run_waits waits fun x mem => by simpa using none_stops x mem
  have short : s.ahead < s.queue.length := List.idxOf_lt_length_of_mem waits
  omega

/-! ### The limit -/

/-- A stretch whose ticks bring the counter to the limit or beyond it stops the recording or leaves
a stop in the queue. -/
theorem limit_posts {seg : List Input} (below : s.mTimeCount.toNat < MAX_TIME.toNat)
    (ticks : MAX_TIME.toNat ≤ s.mTimeCount.toNat +
      (Machine.steps step s seg).countP fun x => x.event.event.isTick)
    (going : ∀ x ∈ Machine.steps step s seg, x.before.stops x.event.event = false) :
    .sendVideo ∈ (Machine.final step s seg).queue := by
  have kept (w : World) (rest : List Input) (waits : .sendVideo ∈ w.queue)
      (going : ∀ x ∈ Machine.steps step w rest, x.before.stops x.event.event = false) :
      .sendVideo ∈ (Machine.final step w rest).queue :=
    Machine.invariant_under (I := fun w => .sendVideo ∈ w.queue)
      (C := fun x => x.before.stops x.event.event = false)
      (fun _ _ _ waits stepped going => (step_waits stepped going waits).1) waits rest going
  induction seg generalizing s with
  | nil => simp only [Machine.steps_nil, List.countP_nil] at ticks; omega
  | cons i seg ih =>
    rw [Machine.final_cons]
    cases h : step s i with
    | none =>
      rw [Machine.steps_cons_none h] at ticks going
      rw [Machine.next_none h]
      exact ih below ticks going
    | some t =>
      rw [Machine.steps_cons_some h] at ticks going
      rw [List.forall_mem_cons] at going
      rw [Machine.next_some h]
      rw [List.countP_cons] at ticks
      rcases step_counter h going.1 with ⟨noTick, count, -⟩ | ⟨tick, count, -⟩
      · simp only [noTick, Bool.false_eq_true, ↓reduceIte] at ticks
        exact ih (by rw [count]; exact below) (by rw [count]; omega) going.2
      · simp only [tick, ↓reduceIte] at ticks
        rcases next_below below with next | limit
        · have one : (s.mTimeCount + 1).toNat = s.mTimeCount.toNat + 1 := by
            rw [BitVec.toNat_add, Nat.mod_eq_of_lt]
            · rfl
            · have limit : MAX_TIME.toNat = 1000 := rfl
              have one : (1 : BitVec 32).toNat = 1 := rfl
              omega
          exact ih (by rw [count]; exact next) (by rw [count, one]; omega) going.2
        · -- This tick reaches the limit, and posts the stop.
          refine kept t seg ?_ going.2
          cases step_outcome h with
          | tick n event =>
            show _ ∈ s.queue ++ tickPosts (s.mTimeCount + 1)
            rw [limit]
            exact List.mem_append_right _ (by decide)
          | lifecycle lifecycle => simp [noTick_of_lifecycle lifecycle] at tick
          | recording event => simp [event, Event.isTick] at tick
          | press event => simp [event, Event.isTick] at tick
          | stop queue stops => simp [stops] at going
          | progress queue event => simp [event, Event.isTick] at tick

/-- In every run, a recording that goes on has not had the ticks that bring it to the limit, or the
main thread has run fewer runnables since than waited then. -/
theorem recording_goes_on (cameraCount : Nat) (progress : CustomProgress)
    (run seg later : List Input)
    (below : (Machine.final step (initView cameraCount progress) run).mTimeCount.toNat <
      MAX_TIME.toNat)
    (going : ∀ x ∈ Machine.steps step (Machine.final step (initView cameraCount progress) run)
      (seg ++ later), x.before.stops x.event.event = false) :
    (Machine.final step (initView cameraCount progress) run).mTimeCount.toNat +
        (Machine.steps step (Machine.final step (initView cameraCount progress) run) seg).countP
          (fun x => x.event.event.isTick) < MAX_TIME.toNat ∨
      (Machine.steps step (Machine.final step (initView cameraCount progress) (run ++ seg))
          later).countP (fun x => decide (x.event.event = .dispatch)) <
        (Machine.final step (initView cameraCount progress) (run ++ seg)).queue.length := by
  rw [Machine.steps_append] at going
  by_contra both
  simp only [not_or, Nat.not_lt] at both
  obtain ⟨ticks, dispatches⟩ := both
  have waits := limit_posts below ticks fun x mem => going x (List.mem_append_left _ mem)
  rw [Machine.final_append] at dispatches
  obtain ⟨x, mem, stops⟩ := waiting_stop_runs waits dispatches
  rw [going x (List.mem_append_right _ mem)] at stops
  simp at stops

/-- Two ticks, of which the main thread shows one. -/
theorem recording_goes_on_two :
    (Machine.final step (initView 2 (.initAttrs 78 78 1 {}))
        [⟨.surfaceCreated 0, {}⟩, ⟨.actionDown, {}⟩]).mTimeCount.toNat + 2 < MAX_TIME.toNat ∨
      1 < (Machine.final step (initView 2 (.initAttrs 78 78 1 {}))
        [⟨.surfaceCreated 0, {}⟩, ⟨.actionDown, {}⟩, ⟨.tick 0, {}⟩, ⟨.tick 0, {}⟩]).queue.length :=
  recording_goes_on 2 (.initAttrs 78 78 1 {}) [⟨.surfaceCreated 0, {}⟩, ⟨.actionDown, {}⟩]
    [⟨.tick 0, {}⟩, ⟨.tick 0, {}⟩] [⟨.dispatch, {}⟩] (by decide) (by decide)

end StudyProject.Video
