import StudyProject.Video.Effects

/-! The handlers other than a press, a stop, a tick and the main thread's queue: surface callbacks,
`onResume`, clicks and listeners.  They are built from a few methods and from assignments, so a
relation that these are within bounds every one of these handlers.  One such relation is that the
recording session stays the same. -/

namespace StudyProject.Video

open StudyProject.Library StudyProject.Library.Objects StudyProject.Library.Handler
open StudyProject.Widget (Visibility)

def Event.isLifecycle : Event → Bool
  | .actionDown | .actionUp | .tick _ | .dispatch => false
  | _ => true

def Event.isTick : Event → Bool
  | .tick _ => true
  | _ => false

/-- `R` relates the states before and after each part that the handlers are built from, but for
`playVideo` and `releaseMediaRecorder`.  `isPlay` is cleared once the player is released. -/
structure Bounds (R : World → World → Prop) (env : Env) : Prop where
  assign : ∀ (s : World) holder spacing pause finishing views queue, R s
    { s with
      mSurfaceHolder := holder, currentCameraSpacing := spacing, isPause := pause
      finishing := finishing, views := views, queue := queue }
  review : ∀ s : World, (s.isPlay = true → s.mediaPlayer = none) →
    R s { s with isPlay := false, isTake := false }
  delivered : ∀ (s : World) c, R s { s with cameras := update c Camera.delivered s.cameras }
  playerStarted : ∀ (s : World) p, R s { s with players := update p MediaPlayer.start s.players }
  playerReleased : ∀ s : World, R s s.playerReleased
  released : ∀ s : World, R s s.released
  opening : ∀ (s : World) spacing r, Opening env spacing s r → R s (state r)

namespace Bounds

variable {R : World → World → Prop} [IsTrans World R] {env : Env}

omit [IsTrans World R] in
theorem releaseCamera (b : Bounds R env) : Within R Video.releaseCamera := by
  intro s
  rw [releaseCamera_eq]
  exact b.released s

omit [IsTrans World R] in
theorem openVideo (b : Bounds R env) (spacing : CameraFacing) :
    Within R (Video.openVideo env spacing) :=
  fun s => b.opening s spacing _ (openVideo_opening env spacing s)

omit [IsTrans World R] in
theorem releaseMediaPlayer [Std.Refl R] (b : Bounds R env) : Within R Video.releaseMediaPlayer := by
  intro s
  cases stop : s.canStopPlayer with
  | true =>
    rw [releaseMediaPlayer_ok stop]
    exact b.playerReleased s
  | false =>
    rw [releaseMediaPlayer_throws stop]
    exact refl_of R s

/-- A click on `btn`: the player is released before `isPlay` is cleared. -/
theorem onClick_btn [Std.Refl R] (b : Bounds R env) : Within R (Video.onClick env .btn) := by
  have reopen : Within R (do
      Video.openVideo env .back
      modify fun s => { s with views := s.views.restart s.cameraCount } : Handler Unit) :=
    .bind (b.openVideo _) fun _ => .modify fun s => b.assign s _ _ _ _ _ _
  intro s
  unfold Video.onClick
  rw [get_bind]
  by_cases play : s.isPlay = true
  · rw [if_pos play]
    cases stop : s.canStopPlayer with
    | true =>
      rw [bind_ok (releaseMediaPlayer_ok stop), modify_bind]
      have review := trans_of R (b.playerReleased s) (b.review s.playerReleased fun _ => rfl)
      exact trans_of R review (reopen _)
    | false =>
      rw [bind_error (releaseMediaPlayer_throws stop)]
      exact refl_of R s
  · rw [if_neg play, modify_bind]
    exact trans_of R (b.review s fun on => absurd on play) (reopen _)

theorem onClick [Std.Refl R] (b : Bounds R env) (id : ViewId) :
    Within R (Video.onClick env id) := by
  cases id with
  | btn => exact b.onClick_btn
  | btn2 => exact .pure ()
  | imgFinish => exact .modify fun s => b.assign s _ _ _ _ _ _
  | imgChangeCamera =>
    unfold Video.onClick
    refine .modify_bind (fun s => b.assign s _ _ _ _ _ _) ?_
    exact .bind b.releaseCamera fun _ => .get_bind fun _ => b.openVideo _

theorem onResume [Std.Refl R] (b : Bounds R env)
    (play : ∀ s r, s.isPlay = true → Playing env s r → R s (state r)) :
    Within R (Video.onResume env) := by
  unfold Video.onResume
  refine .get_bind fun _ => .ite (.modify_bind (fun s => b.assign s _ _ _ _ _ _) ?_) (.pure ())
  intro s
  rw [get_bind]
  by_cases on : s.isPlay = true
  · rw [if_pos on]
    exact play s _ on (playVideo_playing env s)
  · rw [if_neg on]
    have rest : Within R (if (!s.isTake) = true then Video.openVideo env s.currentCameraSpacing
      else pure ()) := .ite (b.openVideo _) (.pure ())
    exact rest s

theorem surfaceDestroyed [Std.Refl R] (b : Bounds R env)
    (recorder : Within R releaseMediaRecorder) : Within R Video.surfaceDestroyed := by
  unfold Video.surfaceDestroyed removeCallbacks
  refine .modify_bind (fun s => b.assign s _ _ _ _ _ _) ?_
  refine .modify_bind (fun s => b.assign s _ _ _ _ _ _) ?_
  refine .bind recorder fun _ => .bind b.releaseCamera fun _ => ?_
  exact b.releaseMediaPlayer

theorem onPictureTaken [Std.Refl R] (b : Bounds R env) (c : Nat) :
    Within R (Video.onPictureTaken env c) := by
  unfold Video.onPictureTaken
  refine .modify_bind (fun s => b.delivered s _) (.get_bind fun _ => ?_)
  refine .ite (.bind (.throw _) fun _ => ?_) ?_
  all_goals exact .ite (.throw _) (.pure ())

/-- The relation bounds every lifecycle handler, if it bounds `playVideo` for `onResume` and
`releaseMediaRecorder` for `surfaceDestroyed`. -/
theorem handle [Std.Refl R] (b : Bounds R env) {e : Event} (lifecycle : e.isLifecycle = true)
    (recorder : e = .surfaceDestroyed → Within R releaseMediaRecorder)
    (play : e = .onResume → ∀ s r, s.isPlay = true → Playing env s r → R s (state r)) :
    Within R (Video.handle env e) := by
  cases e with
  | surfaceCreated holder =>
    refine .modify_bind (fun s => b.assign s _ _ _ _ _ _) ?_
    exact .get_bind fun _ => b.openVideo _
  | surfaceChanged holder => exact .modify fun s => b.assign s _ _ _ _ _ _
  | surfaceDestroyed => exact b.surfaceDestroyed (recorder rfl)
  | onResume => exact b.onResume (play rfl)
  | actionDown => simp [Event.isLifecycle] at lifecycle
  | actionUp => simp [Event.isLifecycle] at lifecycle
  | actionCancel => exact .pure ()
  | onClick id => exact b.onClick id
  | tick t => simp [Event.isLifecycle] at lifecycle
  | dispatch => simp [Event.isLifecycle] at lifecycle
  | onPictureTaken c => exact b.onPictureTaken c
  | onCompletion p => exact .modify fun s => b.playerStarted s _
  | onPrepared p =>
    refine .get_bind fun _ => .ite (.bind (.throw _) fun _ => ?_) ?_
    all_goals exact .modify fun s => b.playerStarted s _

end Bounds

/-! ### The steps -/

/-- Whether the event runs `recordStop`: an `ACTION_UP`, or `sendVideo` at the head of the queue. -/
def World.stops (s : World) : Event → Bool
  | .actionUp => true
  | .dispatch => s.queue.head? == some .sendVideo
  | _ => false

theorem noTick_of_lifecycle {e : Event} (h : e.isLifecycle = true) : e.isTick = false := by
  cases e <;> first | rfl | simp [Event.isLifecycle] at h

theorem stops_of_lifecycle {e : Event} (h : e.isLifecycle = true) (s : World) :
    s.stops e = false := by
  cases e <;> first | rfl | simp [Event.isLifecycle] at h

/-- The runnables that a tick posts when it brings the counter to `count`. -/
def tickPosts (count : BitVec 32) : List Runnable :=
  .updateProgress :: if count = MAX_TIME then [.sendVideo] else []

/-- The worlds that a step on `i` can lead to. -/
inductive Outcome (s : World) (i : Input) : World → Prop
  | lifecycle (lifecycle : i.event.isLifecycle = true) :
      Outcome s i (ended ((handle i.env i.event).run s))
  | recording (event : i.event = .actionDown) (recording : s.isRecording = true) : Outcome s i s
  | press {r : EStateM.Result Throwable World Unit} (event : i.event = .actionDown)
      (idle : s.isRecording = false) (press : Press i.env s r) : Outcome s i (ended r)
  | stop {r : EStateM.Result Throwable World Unit} (queue : List Runnable)
      (stops : s.stops i.event = true) (stop : Stop i.env { s with queue } r) :
      Outcome s i (ended r)
  | tick (n : Nat) (event : i.event = .tick n) :
      Outcome s i
        { s with
          timers := update (some n) Timer.tick s.timers
          mTimeCount := s.mTimeCount + 1
          queue := s.queue ++ tickPosts (s.mTimeCount + 1)
          posted := s.posted ++ tickPosts (s.mTimeCount + 1) }
  | progress (queue : List Runnable) (event : i.event = .dispatch)
      (going : s.stops i.event = false) :
      Outcome s i
        { s with
          queue
          views :=
            { s.views with customProgress := s.views.customProgress.setProgress s.mTimeCount }
          shown := s.shown ++ [s.mTimeCount] }

theorem step_eq {s t : World} {i : Input} (h : step s i = some t) :
    s.crash = none ∧ s.enabled i.event = true ∧ t = ended ((handle i.env i.event).run s) := by
  unfold step at h
  split at h
  · rename_i able
    simp only [Bool.and_eq_true, Option.isNone_iff_eq_none] at able
    exact ⟨able.1, able.2, (Option.some.inj h).symm⟩
  · simp at h

theorem timerTask_run (n : Nat) (s : World) :
    (timerTask n).run s =
      .ok () { s with
        timers := update (some n) Timer.tick s.timers
        mTimeCount := s.mTimeCount + 1
        queue := s.queue ++ tickPosts (s.mTimeCount + 1)
        posted := s.posted ++ tickPosts (s.mTimeCount + 1) } := by
  unfold timerTask post tickPosts
  simp only [modify_bind, get_bind]
  split <;> simp

theorem step_outcome {s t : World} {i : Input} (h : step s i = some t) : Outcome s i t := by
  obtain ⟨-, able, rfl⟩ := step_eq h
  cases lifecycle : i.event.isLifecycle with
  | true => exact .lifecycle lifecycle
  | false =>
    cases event : i.event with
    | actionDown =>
      cases recording : s.isRecording with
      | true =>
        rw [handle, onTouchDown_recording recording]
        exact .recording event recording
      | false => exact .press event recording (onTouchDown_press recording)
    | actionUp => exact .stop s.queue (by rw [event]; rfl) (recordStop_stop i.env s)
    | tick n =>
      rw [handle, timerTask_run]
      exact .tick n event
    | dispatch =>
      rw [event] at able
      unfold handle dispatch
      rw [get_bind]
      cases queue : s.queue with
      | nil => simp [World.enabled, queue] at able
      | cons r rest =>
        simp only [modify_bind]
        cases r with
        | updateProgress => exact .progress rest event (by simp [event, World.stops, queue])
        | sendVideo =>
          exact .stop rest (by simp [event, World.stops, queue]) (recordStop_stop i.env _)
    | _ => simp [event, Event.isLifecycle] at lifecycle

theorem ended_eq (r : EStateM.Result Throwable World Unit) :
    ended r = { state r with crash := (ended r).crash } := by
  cases r <;> rfl

end StudyProject.Video
