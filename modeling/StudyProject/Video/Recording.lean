import StudyProject.Video.Cameras
import StudyProject.Video.Players
import StudyProject.Video.Timers

/-! The four fields of a recording session: `isRecording`, the recorder, the camera and the timer.
They agree until `surfaceDestroyed` comes in the middle of a recording, which releases the recorder
and the camera and leaves `isRecording` and the timer as they are. -/

namespace StudyProject.Video

open StudyProject.Library StudyProject.Library.Objects StudyProject.Library.Handler

variable {s t : World} {i : Input} {env : Env} {r : EStateM.Result Throwable World Unit}

/-- `isRecording` says that a started recorder is held; then a camera is open and a timer runs, and
otherwise there is no recorder and no timer runs. -/
structure World.SessionOk (s : World) : Prop where
  recorder : s.isRecording = true ↔ ∃ (m : Nat) (x : MediaRecorder),
    s.mMediaRecorder = some m ∧ s.recorders[m]? = some x ∧ x.state = .started
  camera : s.isRecording = true → ∃ (c : Nat) (x : Camera),
    s.mCamera = some c ∧ s.cameras[c]? = some x ∧ x.Open
  timer : s.isRecording = true → ∃ (n : Nat) (x : Timer),
    s.mTimer = some n ∧ s.timers[n]? = some x ∧ x.Live
  idle : s.isRecording = false → s.mMediaRecorder = none ∧ ∀ x ∈ s.timers, ¬x.Live

/-- The part of `SessionOk` that the invariants of the cameras and the timers leave open. -/
structure World.SessionCore (s : World) : Prop where
  recorder : s.isRecording = true → ∃ (m : Nat) (x : MediaRecorder),
    s.mMediaRecorder = some m ∧ s.recorders[m]? = some x ∧ x.state = .started
  camera : s.isRecording = true → s.mCamera.isSome = true
  idle : s.isRecording = false → s.mMediaRecorder = none

theorem sessionOk_iff_core (cameras : s.CameraInv) (timers : s.session.TimersHeld) :
    s.SessionOk ↔ s.SessionCore := by
  constructor
  · intro ok
    refine ⟨ok.recorder.mp, fun on => ?_, fun off => (ok.idle off).1⟩
    obtain ⟨c, x, field, -⟩ := ok.camera on
    rw [field]
    rfl
  · intro core
    refine ⟨⟨core.recorder, ?_⟩, fun on => ?_, fun on => ?_,
      fun off => ⟨core.idle off, timers.none_live off⟩⟩
    · rintro ⟨m, x, field, -⟩
      by_contra off
      rw [Bool.not_eq_true] at off
      rw [core.idle off] at field
      simp at field
    · obtain ⟨c, field⟩ := Option.isSome_iff_exists.mp (core.camera on)
      obtain ⟨x, at_c, opened⟩ := cameras.sole.held c field
      exact ⟨c, x, field, at_c, opened⟩
    · obtain ⟨n, field⟩ := Option.isSome_iff_exists.mp (timers.held on)
      obtain ⟨x, at_n, live⟩ :=
        timers.sole.held n (Session.liveTimer_eq_some.mpr ⟨on, field⟩)
      exact ⟨n, x, field, at_n, live⟩

/-! ### Lifecycle handlers -/

/-- The recorder in the field and its heap. -/
def World.recorderPart (s : World) : Option Nat × List MediaRecorder :=
  (s.mMediaRecorder, s.recorders)

theorem recorder_bounds (env : Env) : Bounds (Same World.recorderPart) env where
  assign _ _ _ _ _ _ _ := rfl
  review _ _ := rfl
  delivered _ _ := rfl
  playerStarted _ _ := rfl
  playerReleased _ := rfl
  released _ := rfl
  opening s spacing r opening := by cases opening <;> rfl

theorem recorder_of_lifecycle (env : Env) {e : Event} (lifecycle : e.isLifecycle = true)
    (other : e ≠ .surfaceDestroyed) (s : World) :
    (state ((handle env e).run s)).recorderPart = s.recorderPart :=
  (recorder_bounds env).handle lifecycle (fun on => absurd on other)
    (fun _ _ _ _ playing => by cases playing <;> rfl) s

theorem recorder_kept (env : Env) {e : Event} (lifecycle : e.isLifecycle = true)
    (other : e ≠ .surfaceDestroyed) (s : World) :
    (state ((handle env e).run s)).mMediaRecorder = s.mMediaRecorder ∧
      (state ((handle env e).run s)).recorders = s.recorders ∧
      (state ((handle env e).run s)).isRecording = s.isRecording := by
  have recorders := recorder_of_lifecycle env lifecycle other s
  exact ⟨congrArg Prod.fst recorders, congrArg Prod.snd recorders,
    congrArg Session.isRecording (session_of_lifecycle env lifecycle s)⟩

theorem Opening.camera {spacing : CameraFacing} (h : Opening env spacing s r)
    (play : s.isPlay = false) (take : s.isTake = false) (completed : (ended r).crash = none) :
    (state r).mCamera.isSome = true := by
  cases h with
  | busy busy => simp [play, take] at busy
  | threw => simp [ended] at completed
  | opened => rfl

theorem camera_onPictureTaken (c : Nat) :
    Within (Same fun s : World => s.mCamera) (onPictureTaken env c) := by
  unfold onPictureTaken
  refine .modify_bind (fun _ => rfl) (.get_bind fun _ => .ite (.bind (.throw _) fun _ => ?_) ?_)
  all_goals exact .ite (.throw _) (.pure ())

theorem camera_onPrepared : Within (Same fun s : World => s.mCamera) onPrepared := by
  refine .get_bind fun _ => .ite (.bind (.throw _) fun _ => ?_) ?_
  all_goals exact .modify fun _ => rfl

theorem camera_onClick (play : s.isPlay = false) (take : s.isTake = false)
    (held : s.mCamera.isSome = true) (id : ViewId)
    (completed : (ended ((onClick env id).run s)).crash = none) :
    (state ((onClick env id).run s)).mCamera.isSome = true := by
  cases id with
  | btn =>
    unfold onClick at completed ⊢
    rw [get_bind, if_neg (by simp [play]), modify_bind] at completed ⊢
    have opening := openVideo_opening env .back { s with isPlay := false, isTake := false }
    cases h : (openVideo env .back).run { s with isPlay := false, isTake := false } with
    | ok _ t =>
      rw [h] at opening
      rw [bind_ok h] at completed ⊢
      exact opening.camera rfl rfl completed
    | error e t =>
      rw [bind_error h] at completed
      simp [ended] at completed
  | btn2 => exact held
  | imgFinish => exact held
  | imgChangeCamera =>
    unfold onClick at completed ⊢
    rw [modify_bind, bind_ok (releaseCamera_eq _), get_bind] at completed ⊢
    exact (openVideo_opening ..).camera (by exact play) (by exact take) completed

/-- In a recording, a lifecycle handler other than `surfaceDestroyed` leaves a camera in the field
if it completes. -/
theorem camera_of_lifecycle (play : s.isPlay = false) (take : s.isTake = false)
    (held : s.mCamera.isSome = true) {e : Event} (lifecycle : e.isLifecycle = true)
    (other : e ≠ .surfaceDestroyed)
    (completed : (ended ((handle env e).run s)).crash = none) :
    (state ((handle env e).run s)).mCamera.isSome = true := by
  cases e with
  | surfaceCreated holder =>
    unfold handle surfaceCreated at completed ⊢
    rw [modify_bind, get_bind] at completed ⊢
    exact (openVideo_opening ..).camera (by exact play) (by exact take) completed
  | surfaceChanged holder => exact held
  | surfaceDestroyed => exact absurd rfl other
  | onResume =>
    unfold handle at completed ⊢
    cases pause : s.isPause with
    | false =>
      rw [onResume_idle pause]
      exact held
    | true =>
      rw [onResume_open pause play, if_pos (by simp [take])] at completed ⊢
      exact (openVideo_opening ..).camera (by exact play) (by exact take) completed
  | actionDown => simp [Event.isLifecycle] at lifecycle
  | actionUp => simp [Event.isLifecycle] at lifecycle
  | actionCancel => exact held
  | onClick id => exact camera_onClick play take held id completed
  | tick t => simp [Event.isLifecycle] at lifecycle
  | dispatch => simp [Event.isLifecycle] at lifecycle
  | onPictureTaken c =>
    have same : (state ((handle env (.onPictureTaken c)).run s)).mCamera = s.mCamera :=
      camera_onPictureTaken c s
    rwa [same]
  | onCompletion p => exact held
  | onPrepared p =>
    have same : (state ((handle env (.onPrepared p)).run s)).mCamera = s.mCamera :=
      camera_onPrepared s
    rwa [same]

/-! ### The steps -/

/-- What the other invariants say of a reachable world. -/
structure World.Reached (s : World) : Prop where
  cameras : s.CameraInv
  timers : s.session.TimersHeld
  players : s.crash = none → s.PlayerInv

theorem World.Reached.step (h : s.Reached) (stepped : Video.step s i = some t) : t.Reached :=
  ⟨h.cameras.step stepped, (step_move stepped).timersHeld h.timers,
    playerInv_keeps s i t h.players stepped⟩

theorem core_lifecycle (h : s.Reached) (core : s.SessionCore) (running : s.crash = none) {e : Event}
    (lifecycle : e.isLifecycle = true) (other : e ≠ .surfaceDestroyed)
    (completed : (ended ((handle env e).run s)).crash = none) :
    (ended ((handle env e).run s)).SessionCore := by
  rw [completed_of_ended completed]
  obtain ⟨mMediaRecorder, heap, isRecording⟩ := recorder_kept env lifecycle other s
  refine ⟨?_, ?_, ?_⟩
  · rw [isRecording, mMediaRecorder, heap]
    exact core.recorder
  · rw [isRecording]
    intro on
    have held := core.camera on
    -- A camera in the field excludes a review, so `openVideo` opens the next one.
    have review : ¬(s.isPlay = true ∨ s.isTake = true) := by
      intro busy
      rw [h.cameras.exclusive running busy] at held
      simp at held
    simp only [not_or, Bool.not_eq_true] at review
    exact camera_of_lifecycle review.1 review.2 held lifecycle other completed
  · rw [isRecording, mMediaRecorder]
    exact core.idle

theorem core_press (press : Press env s r) (idle : s.isRecording = false)
    (completed : (ended r).crash = none) : (ended r).SessionCore := by
  cases press with
  | noCamera =>
    have off : (s.pressed env).isRecording = false := idle
    exact ⟨fun on => by simp [ended, off] at on, fun on => by simp [ended, off] at on, fun _ => rfl⟩
  | @failed c camera =>
    have off : (((s.pressed env).unlocked c).unprepared env).isRecording = false := idle
    exact ⟨fun on => by simp [ended, off] at on, fun on => by simp [ended, off] at on, fun _ => rfl⟩
  | started camera =>
    refine ⟨fun _ => ⟨s.recorders.length, { state := .started, camera := s.mCamera }, rfl, ?_, rfl⟩,
      fun _ => ?_, fun off => by simp [ended, World.started] at off⟩
    · simp [ended, World.started]
    · have := camera_isSome camera
      simpa [ended, World.started] using this
  | refused => simp [ended] at completed
  | threw => simp [ended] at completed

theorem core_stop (stop : Stop env s r) (completed : (ended r).crash = none) :
    (ended r).SessionCore := by
  have off : (ended r).isRecording = false := congrArg Session.isRecording stop.session
  have recorder : (ended r).mMediaRecorder = none := by
    cases stop with
    | played => rfl
    | noFile => simp [ended] at completed
    | null => simp [ended] at completed
    | pictured => rfl
    | noCamera => simp [ended] at completed
    | refused => simp [ended] at completed
  exact ⟨fun on => by simp [off] at on, fun on => by simp [off] at on, fun _ => recorder⟩

/-- `surfaceDestroyed` keeps the fields in agreement exactly if nothing is recorded. -/
theorem core_surfaceDestroyed (inv : s.PlayerInv) :
    (ended ((handle env .surfaceDestroyed).run s)).SessionCore ↔ s.isRecording = false := by
  rw [handle, surfaceDestroyed_ok inv.canStop]
  constructor
  · intro core
    by_contra on
    rw [Bool.not_eq_false] at on
    obtain ⟨m, x, field, -⟩ := core.recorder on
    simp [ended, World.playerReleased, World.released, World.paused] at field
  · intro off
    have off' : s.paused.released.playerReleased.isRecording = false := off
    exact ⟨fun on => by simp [ended, off'] at on, fun on => by simp [ended, off'] at on,
      fun _ => rfl⟩

theorem step_core_iff (h : s.Reached) (core : s.SessionCore) (stepped : step s i = some t) :
    (t.crash = none → t.SessionCore) ↔
      ¬(i.event = .surfaceDestroyed ∧ s.isRecording = true) := by
  have running := (step_eq stepped).1
  cases step_outcome stepped with
  | lifecycle lifecycle =>
    by_cases destroyed : i.event = .surfaceDestroyed
    · have inv := h.players running
      have completed : (ended ((handle i.env .surfaceDestroyed).run s)).crash = none := by
        rw [handle, surfaceDestroyed_ok inv.canStop]
        exact running
      rw [destroyed, imp_iff_right completed, core_surfaceDestroyed inv]
      simp
    · exact iff_of_true (core_lifecycle h core running lifecycle destroyed)
        fun both => destroyed both.1
  | recording event => exact iff_of_true (fun _ => core) (by simp [event])
  | press event idle press => exact iff_of_true (core_press press idle) (by simp [event])
  | stop queue stops stop =>
    apply iff_of_true (core_stop stop)
    intro both
    simp [both.1, World.stops] at stops
  | tick n event =>
    exact iff_of_true (fun _ => ⟨core.recorder, core.camera, core.idle⟩) (by simp [event])
  | progress queue event =>
    exact iff_of_true (fun _ => ⟨core.recorder, core.camera, core.idle⟩) (by simp [event])

theorem step_session_iff (h : s.Reached) (ok : s.crash = none → s.SessionOk)
    (stepped : step s i = some t) :
    (t.crash = none → t.SessionOk) ↔
      ¬(i.event = .surfaceDestroyed ∧ s.isRecording = true) := by
  have core := (sessionOk_iff_core h.cameras h.timers).mp (ok (step_eq stepped).1)
  have h' := h.step stepped
  rw [sessionOk_iff_core h'.cameras h'.timers]
  exact step_core_iff h core stepped

theorem initView_reached (cameraCount : Nat) (progress : CustomProgress) :
    (initView cameraCount progress).Reached :=
  ⟨initView_cameraInv _ _, timersHeld cameraCount progress [], fun _ => initView_playerInv _ _⟩

/-- Between completed handlers of a run the four fields always agree, exactly if no
`surfaceDestroyed` of the run comes in the middle of a recording. -/
theorem session_ok_iff (cameraCount : Nat) (progress : CustomProgress) (run : List Input) :
    (∀ s ∈ Machine.states step (initView cameraCount progress) run,
        s.crash = none → s.SessionOk) ↔
      ∀ x ∈ Machine.steps step (initView cameraCount progress) run,
        ¬(x.event.event = .surfaceDestroyed ∧ x.before.isRecording = true) := by
  refine Machine.always_iff (I := fun s => s.crash = none → s.SessionOk)
    (C := fun x => ¬(x.event.event = .surfaceDestroyed ∧ x.before.isRecording = true))
    (fun _ _ _ h stepped => World.Reached.step h stepped)
    (fun _ _ _ h ok stepped => step_session_iff h ok stepped)
    (initView_reached _ _) (fun _ => ?_) run
  have h := initView_reached cameraCount progress
  exact (sessionOk_iff_core h.cameras h.timers).mpr
    ⟨fun on => by simp [initView] at on, fun on => by simp [initView] at on, fun _ => rfl⟩

/-- The activity goes to the background in the middle of a recording. -/
theorem session_broken_background :
    ¬∀ s ∈ Machine.states step (initView 2 (.initAttrs 78 78 1 {}))
        [⟨.surfaceCreated 0, {}⟩, ⟨.actionDown, {}⟩, ⟨.surfaceDestroyed, {}⟩],
      s.crash = none → s.SessionOk := by
  intro ok
  obtain ⟨m, x, field, -⟩ := (ok _ (List.mem_of_getLast? (by rfl)) rfl).recorder.mp rfl
  have none_held : none = some m := field
  simp at none_held

end StudyProject.Video
