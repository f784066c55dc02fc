import StudyProject.Video.Session

/-! The progress of a recording.  `updateProgress` shows the counter as it is when the main thread
comes to it, and `recordStop` sets the counter back and drops the updates that wait, but not the
tick that is executing.  So the progress stays in range, and each recording starts at 0, in the runs
whose ticks come on time: in a recording, and at the limit with no update left to show before the
stop.  Any other tick can lead to a recording that does not start at 0, or to a progress beyond the
limit. -/

namespace StudyProject.Video

open StudyProject.Library StudyProject.Library.Objects StudyProject.Library.Handler

variable {s t : World} {i : Input} {env : Env}

/-- Each value passed to `setProgress` was between 0 and the total progress. -/
def World.InRange (s : World) : Prop := ∀ p ∈ s.shown, 0 ≤ p.toInt ∧ p.toInt ≤ MAX_TIME.toInt

/-- A step that starts a recording has the counter at 0. -/
def StartsAfresh (x : Machine.Step World Input) : Prop :=
  x.before.isRecording = false → x.after.isRecording = true → x.after.mTimeCount = 0

/-- Between a stop and the next start, a step shows no progress but 0. -/
def QuietAfterStop (x : Machine.Step World Input) : Prop :=
  x.before.recordCalls.getLast? = some .recordStop →
    ∀ p ∈ x.after.shown.drop x.before.shown.length, p = 0

/-- The run from `s` shows progress as it should: each recording starts at 0, what is shown is in
range, and a stop ends it. -/
structure ShowsProgress (s : World) (run : List Input) : Prop where
  afresh : ∀ x ∈ Machine.steps step s run, StartsAfresh x
  inRange : (Machine.final step s run).InRange
  quiet : ∀ x ∈ Machine.steps step s run, QuietAfterStop x

/-- A tick comes while a recording is on, and below the limit or with the stop next on the main
thread. -/
def OnTime (x : Machine.Step World Input) : Prop :=
  x.event.event.isTick = true → x.before.isRecording = true ∧
    (x.before.mTimeCount.toNat < MAX_TIME.toNat ∨ x.before.queue.head? = some .sendVideo)

instance : DecidablePred OnTime := fun _ => inferInstanceAs (Decidable (_ → _ ∧ _))

/-! ### The queue -/

/-- The queue is the same, or the updates are dropped from it. -/
def Trimmed (s t : World) : Prop :=
  t.queue = s.queue ∨ t.queue = s.queue.filter (· ≠ .updateProgress)

instance : Std.Refl Trimmed := ⟨fun _ => .inl rfl⟩

instance : IsTrans World Trimmed where
  trans s t u h h' := by
    rcases h with h | h <;> rcases h' with h' | h' <;> rw [Trimmed, h', h] <;> simp

theorem trimmed_releaseCamera : Within Trimmed releaseCamera := by
  intro s
  rw [releaseCamera_eq]
  exact .inl rfl

theorem Opening.trimmed {spacing : CameraFacing} {r : EStateM.Result Throwable World Unit}
    (opening : Opening env spacing s r) : Trimmed s (state r) := by
  cases opening <;> exact .inl rfl

theorem trimmed_openVideo (spacing : CameraFacing) : Within Trimmed (openVideo env spacing) :=
  fun s => (openVideo_opening env spacing s).trimmed

theorem trimmed_releaseMediaPlayer : Within Trimmed releaseMediaPlayer := by
  intro s
  cases stop : s.canStopPlayer with
  | true =>
    rw [releaseMediaPlayer_ok stop]
    exact .inl rfl
  | false =>
    rw [releaseMediaPlayer_throws stop]
    exact .inl rfl

theorem Playing.trimmed {r : EStateM.Result Throwable World Unit} (playing : Playing env s r) :
    Trimmed s (state r) := by
  cases playing <;> exact .inl rfl

theorem trimmed_playVideo : Within Trimmed (playVideo env) :=
  fun s => (playVideo_playing env s).trimmed

theorem trimmed_onClick (id : ViewId) : Within Trimmed (onClick env id) := by
  cases id with
  | btn =>
    refine .get_bind fun _ => .ite (.bind trimmed_releaseMediaPlayer fun _ => ?_) ?_
    all_goals
      refine .modify_bind (fun _ => .inl rfl) (.bind (trimmed_openVideo _) fun _ => ?_)
      exact .modify fun _ => .inl rfl
  | btn2 => exact .pure ()
  | imgFinish => exact .modify fun _ => .inl rfl
  | imgChangeCamera =>
    refine .modify_bind (fun _ => .inl rfl) (.bind trimmed_releaseCamera fun _ => ?_)
    exact .get_bind fun _ => trimmed_openVideo _

theorem trimmed_of_lifecycle {e : Event} (lifecycle : e.isLifecycle = true) :
    Within Trimmed (handle env e) := by
  cases e with
  | surfaceCreated holder =>
    exact .modify_bind (fun _ => .inl rfl) (.get_bind fun _ => trimmed_openVideo _)
  | surfaceChanged holder => exact .modify fun _ => .inl rfl
  | surfaceDestroyed =>
    refine .modify_bind (fun _ => .inl rfl) (.modify_bind (fun _ => .inr rfl) ?_)
    refine .modify_bind (fun _ => .inl rfl) (.bind trimmed_releaseCamera fun _ => ?_)
    exact trimmed_releaseMediaPlayer
  | onResume =>
    refine .get_bind fun _ => .ite (.modify_bind (fun _ => .inl rfl) ?_) (.pure ())
    exact .get_bind fun _ => .ite trimmed_playVideo (.ite (trimmed_openVideo _) (.pure ()))
  | actionDown => simp [Event.isLifecycle] at lifecycle
  | actionUp => simp [Event.isLifecycle] at lifecycle
  | actionCancel => exact .pure ()
  | onClick id => exact trimmed_onClick id
  | tick t => simp [Event.isLifecycle] at lifecycle
  | dispatch => simp [Event.isLifecycle] at lifecycle
  | onPictureTaken c =>
    refine .modify_bind (fun _ => .inl rfl) (.get_bind fun _ => ?_)
    refine .ite (.bind (.throw _) fun _ => ?_) ?_
    all_goals exact .ite (.throw _) (.pure ())
  | onCompletion p => exact .modify fun _ => .inl rfl
  | onPrepared p =>
    refine .get_bind fun _ => .ite (.bind (.throw _) fun _ => ?_) ?_
    all_goals exact .modify fun _ => .inl rfl

theorem Press.queue {r : EStateM.Result Throwable World Unit} (press : Press env s r) :
    (ended r).queue = s.queue := by
  cases press <;> rfl

/-- A dispatch that does not stop the recording takes an update off the queue. -/
theorem dispatch_update (stepped : step s i = some t) (event : i.event = .dispatch)
    (going : s.stops i.event = false) : s.queue = .updateProgress :: t.queue := by
  obtain ⟨-, able, rfl⟩ := step_eq stepped
  rw [event] at able going ⊢
  cases queue : s.queue with
  | nil => simp [World.enabled, queue] at able
  | cons r rest =>
    cases r with
    | sendVideo => simp [World.stops, queue] at going
    | updateProgress => simp [handle, dispatch, queue, Runnable.run, setProgress, ended]

/-! ### The stop that waits -/

/-- A stop waits in the queue, and it is the next runnable or the counter is at the limit. -/
def World.StopWaits (s : World) : Prop :=
  .sendVideo ∈ s.queue ∧ (s.mTimeCount = MAX_TIME ∨ s.queue.head? = some .sendVideo)

/-- Dropping the updates leaves only stops. -/
theorem head_filter {queue : List Runnable} (waits : .sendVideo ∈ queue) :
    (queue.filter (· ≠ .updateProgress)).head? = some .sendVideo := by
  induction queue with
  | nil => simp at waits
  | cons r queue ih =>
    cases r with
    | sendVideo => simp
    | updateProgress =>
      have waits' : .sendVideo ∈ queue := by simpa using waits
      simpa using ih waits'

theorem World.StopWaits.trimmed (h : s.StopWaits) (trimmed : Trimmed s t)
    (count : t.mTimeCount = s.mTimeCount) : t.StopWaits := by
  obtain ⟨waits, rest⟩ := h
  rcases trimmed with queue | queue
  · rw [World.StopWaits, queue, count]
    exact ⟨waits, rest⟩
  · rw [World.StopWaits, queue]
    have head := head_filter waits
    exact ⟨List.mem_of_mem_head? head, .inr head⟩

/-- If an update is shown while a stop waits, the counter is at the limit. -/
theorem World.StopWaits.progress (h : s.StopWaits) (queue : s.queue = .updateProgress :: t.queue)
    (count : t.mTimeCount = s.mTimeCount) : s.mTimeCount = MAX_TIME ∧ t.StopWaits := by
  obtain ⟨waits, limit | next⟩ := h
  · rw [queue] at waits
    refine ⟨limit, by simpa using waits, .inl ?_⟩
    rw [count, limit]
  · rw [queue] at next
    simp at next

theorem next_below {count : BitVec 32} (below : count.toNat < MAX_TIME.toNat) :
    (count + 1).toNat < MAX_TIME.toNat ∨ count + 1 = MAX_TIME := by
  have limit : MAX_TIME.toNat = 1000 := rfl
  have one : (1 : BitVec 32).toNat = 1 := rfl
  have next : (count + 1).toNat = count.toNat + 1 := by
    rw [BitVec.toNat_add, one, Nat.mod_eq_of_lt (by omega)]
  rcases Nat.lt_or_ge (count.toNat + 1) MAX_TIME.toNat with lt | ge
  · left
    omega
  · right
    apply BitVec.eq_of_toNat_eq
    omega

/-- A tick on time brings the counter to the limit together with a stop, or leaves it below. -/
theorem tick_onTime
    (onTime : s.mTimeCount.toNat < MAX_TIME.toNat ∨ s.queue.head? = some .sendVideo)
    (count : t.mTimeCount = s.mTimeCount + 1)
    (queue : t.queue = s.queue ++ tickPosts (s.mTimeCount + 1)) :
    t.mTimeCount.toNat < MAX_TIME.toNat ∨ t.StopWaits := by
  by_cases below : s.mTimeCount.toNat < MAX_TIME.toNat
  · rcases next_below below with next | limit
    · left
      rw [count]
      exact next
    · refine .inr ⟨?_, .inl (count.trans limit)⟩
      rw [queue, limit]
      simp [tickPosts]
  · have next := onTime.resolve_left below
    have next' : t.queue.head? = some .sendVideo := by
      rw [queue, List.head?_append, next]
      rfl
    exact .inr ⟨List.mem_of_mem_head? next', .inr next'⟩

/-! ### The steps -/

/-- What holds between the handlers of a run whose ticks come on time. -/
structure World.Paced (s : World) : Prop where
  idle : s.isRecording = false → s.mTimeCount = 0
  recording : s.isRecording = true → s.mTimeCount.toNat < MAX_TIME.toNat ∨ s.StopWaits
  stopped : s.recordCalls.getLast? = some .recordStop → s.isRecording = false
  shown : s.InRange

theorem inRange_of_le {p : BitVec 32} (h : p.toNat ≤ MAX_TIME.toNat) :
    0 ≤ p.toInt ∧ p.toInt ≤ MAX_TIME.toInt := by
  have limit : MAX_TIME.toNat = 1000 := rfl
  have limit' : MAX_TIME.toInt = 1000 := rfl
  rw [BitVec.toInt_eq_toNat_of_lt (by omega), limit']
  omega

theorem World.Paced.count_le (h : s.Paced) (queue : s.queue = .updateProgress :: t.queue)
    (count : t.mTimeCount = s.mTimeCount) : s.mTimeCount.toNat ≤ MAX_TIME.toNat := by
  cases recording : s.isRecording with
  | false =>
    rw [h.idle recording]
    decide
  | true =>
    rcases h.recording recording with below | waits
    · omega
    · rw [(waits.progress queue count).1]

/-- What a step shows: nothing, 0 at a stop, or the counter, which is in range, and 0 unless a
recording is on. -/
theorem World.Paced.step_shown (h : s.Paced) (stepped : step s i = some t) :
    t.shown = s.shown ∨
      ∃ p : BitVec 32, t.shown = s.shown ++ [p] ∧ p.toNat ≤ MAX_TIME.toNat ∧
        (s.isRecording = false → p = 0) := by
  cases step_outcome stepped with
  | lifecycle lifecycle =>
    exact .inl (congrArg Session.shown (ended_of_lifecycle i.env lifecycle s))
  | recording => exact .inl rfl
  | press event idle press => cases press <;> exact .inl rfl
  | stop queue stops stop =>
    exact .inr ⟨0, congrArg Session.shown stop.session, by decide, fun _ => rfl⟩
  | tick => exact .inl rfl
  | progress queue event going =>
    exact .inr ⟨s.mTimeCount, rfl, h.count_le (dispatch_update stepped event going) rfl, h.idle⟩

theorem World.Paced.keep (h : s.Paced) (isRecording : t.isRecording = s.isRecording)
    (count : t.mTimeCount = s.mTimeCount) (recordCalls : t.recordCalls = s.recordCalls)
    (shown : t.InRange)
    (waits : s.isRecording = true → s.StopWaits → t.StopWaits) : t.Paced := by
  refine ⟨?_, fun on => ?_, ?_, shown⟩
  · rw [isRecording, count]
    exact h.idle
  · rw [isRecording] at on
    rw [count]
    exact (h.recording on).imp_right (waits on)
  · rw [recordCalls, isRecording]
    exact h.stopped

theorem World.Paced.step (h : s.Paced) (stepped : Video.step s i = some t)
    (onTime : OnTime ⟨s, i, t⟩) : t.Paced := by
  have shown : t.InRange := by
    rcases h.step_shown stepped with same | ⟨p, added, bound, -⟩
    · rw [World.InRange, same]
      exact h.shown
    · rw [World.InRange, added]
      exact List.forall_mem_append.mpr ⟨h.shown, by simpa using inRange_of_le bound⟩
  cases step_outcome stepped with
  | lifecycle lifecycle =>
    have session := ended_of_lifecycle i.env lifecycle s
    have trimmed : Trimmed s (ended ((handle i.env i.event).run s)) := by
      rw [ended_eq]
      exact trimmed_of_lifecycle lifecycle s
    have count := congrArg Session.mTimeCount session
    exact h.keep (congrArg Session.isRecording session) count
      (congrArg Session.recordCalls session) shown fun _ waits => waits.trimmed trimmed count
  | recording => exact h
  | press event idle press =>
    have queue := press.queue
    cases press with
    | started =>
      refine ⟨fun off => by simp [ended, World.started] at off, fun _ => .inl ?_, ?_, shown⟩
      · have zero : s.mTimeCount = 0 := h.idle idle
        show s.mTimeCount.toNat < MAX_TIME.toNat
        rw [zero]
        decide
      · simp [ended, World.started]
    | noCamera => exact h.keep rfl rfl rfl shown fun _ waits => waits.trimmed (.inl queue) rfl
    | failed => exact h.keep rfl rfl rfl shown fun _ waits => waits.trimmed (.inl queue) rfl
    | refused => exact h.keep rfl rfl rfl shown fun _ waits => waits.trimmed (.inl queue) rfl
    | threw => exact h.keep rfl rfl rfl shown fun _ waits => waits.trimmed (.inl queue) rfl
  | stop queue stops stop =>
    have off := congrArg Session.isRecording stop.session
    have count := congrArg Session.mTimeCount stop.session
    exact ⟨fun _ => count, fun on => absurd (off.symm.trans on) (by simp [Session.stop]),
      fun _ => off, shown⟩
  | tick n event =>
    obtain ⟨on, timely⟩ := onTime (by rw [event]; rfl)
    refine ⟨fun off => ?_, fun _ => tick_onTime timely rfl rfl, h.stopped, shown⟩
    rw [on] at off
    simp at off
  | progress queue event going =>
    have head := dispatch_update stepped event going
    exact h.keep rfl rfl rfl shown fun _ waits => (waits.progress head rfl).2

theorem initView_paced (cameraCount : Nat) (progress : CustomProgress) :
    (initView cameraCount progress).Paced where
  idle _ := rfl
  recording on := by simp [initView] at on
  stopped last := by simp [initView] at last
  shown := by simp [World.InRange, initView]

theorem World.Paced.startsAfresh (h : s.Paced) (stepped : Video.step s i = some t) :
    StartsAfresh ⟨s, i, t⟩ := by
  intro off on
  have off : s.isRecording = false := off
  have on : t.session.isRecording = true := on
  show t.session.mTimeCount = 0
  have move := step_move stepped
  revert on move
  generalize t.session = a
  intro on move
  cases move with
  | same => simp [World.session, off] at on
  | pressed => simp [World.session, off] at on
  | started => exact h.idle off
  | stopped => rfl
  | showed => simp [World.session, off] at on
  | ticked => simp [World.session, Session.tick, off] at on

theorem World.Paced.quietAfterStop (h : s.Paced) (stepped : Video.step s i = some t) :
    QuietAfterStop ⟨s, i, t⟩ := by
  intro last
  have off := h.stopped last
  show ∀ p ∈ t.shown.drop s.shown.length, p = 0
  rcases h.step_shown stepped with same | ⟨p, added, -, zero⟩
  · rw [same, List.drop_length]
    simp
  · rw [added, List.drop_left, zero off]
    simp

theorem World.Paced.showsProgress (h : s.Paced) (run : List Input)
    (onTime : ∀ x ∈ Machine.steps Video.step s run, OnTime x) : ShowsProgress s run where
  afresh := Machine.steps_under (fun _ _ _ h stepped => h.step stepped)
    (fun _ _ _ h stepped _ => h.startsAfresh stepped) h run onTime
  inRange :=
    (Machine.invariant_under (fun _ _ _ h stepped => h.step stepped) h run onTime).shown
  quiet := Machine.steps_under (fun _ _ _ h stepped => h.step stepped)
    (fun _ _ _ h stepped _ => h.quietAfterStop stepped) h run onTime

/-- A run whose ticks come on time shows progress as it should. -/
theorem progress_of_onTime (cameraCount : Nat) (progress : CustomProgress) (run : List Input)
    (onTime : ∀ x ∈ Machine.steps step (initView cameraCount progress) run, OnTime x) :
    ShowsProgress (initView cameraCount progress) run :=
  (initView_paced cameraCount progress).showsProgress run onTime

/-- A recording of one tick, whose update is shown before the stop. -/
theorem progress_of_one_tick :
    ShowsProgress (initView 2 (.initAttrs 78 78 1 {}))
      [⟨.surfaceCreated 0, {}⟩, ⟨.actionDown, {}⟩, ⟨.tick 0, {}⟩, ⟨.dispatch, {}⟩,
        ⟨.actionUp, { now := 2000 }⟩] :=
  progress_of_onTime 2 _ _ (by decide)

/-- A tick that is executing when the recording stops, and whose update is shown after the stop. -/
theorem progress_after_stop :
    ¬ShowsProgress (initView 2 (.initAttrs 78 78 1 {}))
      [⟨.surfaceCreated 0, {}⟩, ⟨.actionDown, {}⟩, ⟨.actionUp, { now := 2000 }⟩, ⟨.tick 0, {}⟩,
        ⟨.dispatch, {}⟩] := by
  intro shows
  have zero : (1 : BitVec 32) = 0 :=
    shows.quiet _ (List.mem_of_getLast? (by rfl)) rfl 1 (List.mem_of_getLast? (by rfl))
  simp at zero

end StudyProject.Video
