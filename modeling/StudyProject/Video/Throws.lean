import StudyProject.Video.Recording

/-! The steps that end in an exception.  `World.throws` says which they are, from the world before
the step and from what its handler learns from outside: a camera that does not open, a press on a
camera whose lock is away or with a recorder that cannot start, a stop with no picture or no video
to be had, a video that cannot be played again, and a player's callback when the field is empty. -/

namespace StudyProject.Video

open StudyProject.Library StudyProject.Library.Objects StudyProject.Library.Handler

variable {s t : World} {i : Input} {env : Env} {c : Camera}

/-! ### The conditions -/

/-- The exceptions of `prepare` that `prepareVideoRecorder` catches. -/
def Throwable.caught : Throwable → Bool
  | .illegalStateException | .ioException => true
  | _ => false

/-- `openVideo` finds nothing to look at and no camera. -/
def World.openThrows (s : World) (env : Env) : Bool := !s.isPlay && !s.isTake && !env.opens

/-- The activity holds the lock of the camera in the field. -/
def World.cameraLocked (s : World) : Bool := s.camera.any Camera.locked

/-- The recorder cannot be configured, or `prepare` throws what is not caught. -/
def World.configureThrows (s : World) (env : Env) : Bool :=
  !env.profile || s.mSurfaceHolder.isNone || env.prepares.any (!·.caught)

/-- A press finds a camera and then fails, but not as `prepareVideoRecorder` expects. -/
def World.pressThrows (s : World) (env : Env) : Bool :=
  !s.isRecording && s.mCamera.isSome &&
    (!s.cameraLocked || s.configureThrows env || env.prepares.isNone && !env.starts)

/-- There is no file, or none that can be played. -/
def World.playThrows (s : World) (env : Env) : Bool := s.fileName.isNone || !env.creates

/-- A stop within the second finds no camera to take the picture, and a later one nothing to
play. -/
def World.stopThrows (s : World) (env : Env) : Bool :=
  if env.now - s.time < 1000 then !s.cameraLocked else s.playThrows env

/-- Whether the step on `i` ends in an exception. -/
def World.throws (s : World) (i : Input) : Bool :=
  match i.event with
  | .surfaceCreated _ | .onClick .imgChangeCamera => s.openThrows i.env
  | .onResume => s.isPause && if s.isPlay then s.playThrows i.env else s.openThrows i.env
  | .actionDown => s.pressThrows i.env
  | .actionUp => s.stopThrows i.env
  | .dispatch => s.queue.head? == some .sendVideo && s.stopThrows i.env
  | .onClick .btn => !i.env.opens
  | .onPrepared _ => s.mediaPlayer.isNone
  | _ => false

/-! ### The handlers -/

theorem openVideo_crash (running : s.crash = none) (spacing : CameraFacing) :
    (ended ((openVideo env spacing).run s)).crash = none ↔ s.openThrows env = false := by
  unfold World.openThrows
  cases play : s.isPlay with
  | true =>
    rw [openVideo_busy (.inl play)]
    exact iff_of_true running rfl
  | false =>
    cases take : s.isTake with
    | true =>
      rw [openVideo_busy (.inr take)]
      exact iff_of_true running rfl
    | false =>
      cases opens : env.opens with
      | true =>
        rw [openVideo_ok play take opens]
        exact iff_of_true running rfl
      | false =>
        rw [openVideo_throws play take opens]
        simp [ended]

/-- Of a camera that is not released, the lock decides whether it refuses. -/
theorem World.CameraInv.refuses (h : s.CameraInv) (camera : s.camera = some c) :
    c.refuses .unlock = !s.cameraLocked ∧ c.refuses .takePicture = !s.cameraLocked := by
  have locked : s.cameraLocked = c.locked := by rw [World.cameraLocked, camera, Option.any_some]
  have opened : c.released = false := by
    cases field : s.mCamera with
    | none => rw [camera_none field] at camera; simp at camera
    | some k =>
      obtain ⟨x, at_k, opened⟩ := h.sole.held k field
      rw [World.camera, field, Option.map_some, at_k, Option.getD_some, Option.some.injEq] at camera
      rw [← camera]
      exact opened
  simp [Camera.refuses, opened, locked]

theorem configureRecorder_throws (h : s.configureThrows env = true) :
    ∃ t file, (configureRecorder env).run s = .error t { s with fileName := file } := by
  unfold configureRecorder getOutputMediaFile
  cases profile : env.profile with
  | false => exact ⟨.runtimeException, s.fileName, by simp⟩
  | true =>
    simp only [Bool.not_true, Bool.false_eq_true, ↓reduceIte, modify_bind, get_bind]
    by_cases holder : s.mSurfaceHolder.isNone = true
    · exact ⟨.nullPointerException, some env.outputFile, by rw [if_pos holder, throw_bind]⟩
    · rw [if_neg holder]
      have uncaught : env.prepares.any (!·.caught) = true := by
        simpa [World.configureThrows, profile, holder] using h
      obtain ⟨t, prepares, free⟩ := (Option.any_eq_true ..).mp uncaught
      have throws (w : World) : (prepare env).run w = .error t w := by
        simp [prepare, prepares]
      rw [tryCatch_error (bind_error (throws _))]
      cases t with
      | illegalStateException => simp [Throwable.caught] at free
      | ioException => simp [Throwable.caught] at free
      | nullPointerException => exact ⟨_, _, rfl⟩
      | runtimeException => exact ⟨_, _, rfl⟩

/-- A configuration that does not throw ends as `prepare` does. -/
theorem configureRecorder_prepares (h : s.configureThrows env = false) :
    (configureRecorder env).run s =
      if env.prepares.isNone then .ok true (s.prepared env) else .ok false (s.unprepared env) := by
  simp only [World.configureThrows, Bool.or_eq_false_iff, Bool.not_eq_false'] at h
  obtain ⟨⟨profile, holder⟩, caught⟩ := h
  unfold configureRecorder getOutputMediaFile
  rw [profile]
  simp only [Bool.not_true, Bool.false_eq_true, ↓reduceIte, modify_bind, get_bind]
  rw [if_neg (by rw [holder]; simp)]
  cases prepares : env.prepares with
  | none =>
    have prepared (w : World) : (prepare env).run w =
        .ok ()
          { w with recorders := update w.mMediaRecorder (·.setState .prepared) w.recorders } := by
      simp [prepare, prepares]
    exact tryCatch_ok (by rw [bind_ok (prepared _)]; rfl)
  | some t =>
    have throws (w : World) : (prepare env).run w = .error t w := by
      simp [prepare, prepares]
    rw [tryCatch_error (bind_error (throws _))]
    cases t with
    | illegalStateException => rfl
    | ioException => rfl
    | nullPointerException => simp [prepares, Throwable.caught] at caught
    | runtimeException => simp [prepares, Throwable.caught] at caught

/-- The press starts a recording. -/
def World.pressStarts (s : World) (env : Env) : Bool :=
  !s.isRecording && s.cameraLocked && !s.configureThrows env && env.prepares.isNone && env.starts

theorem cameraLocked_of_none (h : s.mCamera = none) : s.cameraLocked = false := by
  rw [World.cameraLocked, camera_none h, Option.any_none]

/-- How a press ends, from the conditions. -/
theorem onTouchDown_ends (h : s.CameraInv) (running : s.crash = none)
    (idle : s.isRecording = false) :
    ((ended ((onTouchDown env).run s)).crash = none ↔ s.pressThrows env = false) ∧
      ((ended ((onTouchDown env).run s)).crash = none →
        (ended ((onTouchDown env).run s)).isRecording = s.pressStarts env) := by
  rw [onTouchDown_idle idle, startRecording]
  unfold World.pressThrows World.pressStarts
  cases null : s.mCamera with
  | none =>
    rw [bind_ok (prepareVideoRecorder_noCamera (by exact null)), cameraLocked_of_none null]
    exact ⟨iff_of_true running (by simp), fun _ => idle.trans (by simp)⟩
  | some k =>
    obtain ⟨c, camera⟩ : ∃ c, s.camera = some c := ⟨_, by rw [World.camera, null, Option.map_some]⟩
    have refuses := (h.refuses camera).1
    have camera' : (s.pressed env).camera = some c := camera
    rw [idle]
    cases locked : s.cameraLocked with
    | false =>
      rw [bind_error (prepareVideoRecorder_refused camera' (by rw [refuses, locked]; rfl))]
      simp [ended]
    | true =>
      have prepare_eq := prepareVideoRecorder_unlocked env camera' (by rw [refuses, locked]; rfl)
      have same : ((s.pressed env).unlocked c).configureThrows env = s.configureThrows env := rfl
      cases throws : s.configureThrows env with
      | true =>
        obtain ⟨t, file, configured⟩ := configureRecorder_throws (same.trans throws)
        rw [bind_error (prepare_eq.trans configured)]
        simp [ended]
      | false =>
        have configured := configureRecorder_prepares (same.trans throws)
        cases prepares : env.prepares with
        | some t =>
          rw [prepares] at configured
          rw [bind_ok (prepare_eq.trans configured)]
          exact ⟨iff_of_true running (by simp), fun _ => idle⟩
        | none =>
          rw [prepares] at configured
          rw [bind_ok (prepare_eq.trans configured)]
          simp only [↓reduceIte]
          cases starts : env.starts with
          | true =>
            rw [start_prepared starts]
            exact ⟨iff_of_true running (by simp), fun _ => rfl⟩
          | false =>
            rw [bind_error (startRecorder_throws starts)]
            simp [ended]

theorem Stop.crash {r : EStateM.Result Throwable World Unit} (h : Stop env s r)
    (inv : s.CameraInv) (running : s.crash = none) :
    (ended r).crash = none ↔ s.stopThrows env = false := by
  unfold World.stopThrows
  cases h with
  | played slow file creates =>
    rw [if_neg slow, World.playThrows, file, creates]
    exact iff_of_true running rfl
  | noFile slow file =>
    rw [if_neg slow, World.playThrows, file]
    simp [ended]
  | null slow file creates =>
    rw [if_neg slow, World.playThrows, file, creates]
    simp [ended]
  | pictured quick camera accepts =>
    rw [if_pos quick, ← (inv.refuses camera).2]
    exact iff_of_true running accepts
  | noCamera quick camera =>
    rw [if_pos quick, World.cameraLocked, camera]
    simp [ended]
  | refused quick camera refuses =>
    rw [if_pos quick, ← (inv.refuses camera).2, refuses]
    simp [ended]

theorem onClick_btn_crash (inv : s.PlayerInv) (running : s.crash = none) :
    (ended ((onClick env .btn).run s)).crash = none ↔ env.opens = true := by
  -- Both flags are cleared, so `openVideo` is decided by `opens` alone.
  have reopen (w : World) (running : w.crash = none) (play : w.isPlay = false)
      (take : w.isTake = false) :
      (ended ((do
        openVideo env .back
        modify fun s => { s with views := s.views.restart s.cameraCount } : Handler Unit).run
          w)).crash = none ↔ env.opens = true := by
    cases opens : env.opens with
    | true =>
      rw [bind_ok (openVideo_ok play take opens _)]
      exact iff_of_true running rfl
    | false =>
      rw [bind_error (openVideo_throws play take opens _)]
      simp [ended]
  unfold onClick
  rw [get_bind]
  by_cases play : s.isPlay = true
  · rw [if_pos play, bind_ok (releaseMediaPlayer_ok inv.canStop), modify_bind]
    exact reopen _ running rfl rfl
  · rw [if_neg play, modify_bind]
    exact reopen _ running rfl rfl

theorem Playing.crash {r : EStateM.Result Throwable World Unit} (h : Playing env s r)
    (running : s.crash = none) : (ended r).crash = none ↔ s.playThrows env = false := by
  unfold World.playThrows
  cases h with
  | played file creates =>
    rw [file, creates]
    exact iff_of_true running rfl
  | noFile file =>
    rw [file]
    simp [ended]
  | null file creates =>
    rw [file, creates]
    simp [ended]

theorem onResume_crash (running : s.crash = none) :
    (ended ((onResume env).run s)).crash = none ↔
      (s.isPause && if s.isPlay then s.playThrows env else s.openThrows env) = false := by
  cases pause : s.isPause with
  | false =>
    rw [onResume_idle pause]
    exact iff_of_true running rfl
  | true =>
    rw [Bool.true_and]
    cases play : s.isPlay with
    | true =>
      rw [onResume_play pause play, if_pos rfl]
      exact (playVideo_playing env { s with isPause := false }).crash running
    | false =>
      rw [onResume_open pause play, if_neg Bool.false_ne_true]
      by_cases take : s.isTake = true
      · rw [if_neg (by simp [take])]
        exact iff_of_true running (by simp [World.openThrows, take])
      · rw [if_pos (by simp [take])]
        exact openVideo_crash (s := { s with isPause := false }) running _

theorem onPrepared_crash (running : s.crash = none) :
    (ended (onPrepared.run s)).crash = none ↔ s.mediaPlayer.isNone = false := by
  unfold onPrepared
  rw [get_bind]
  cases field : s.mediaPlayer with
  | none => simp [ended]
  | some p => simpa [ended] using running

/-- A camera that owes a picture is released, so no callback ever brings one. -/
theorem World.CameraInv.no_picture (h : s.CameraInv) (n : Nat) :
    s.enabled (.onPictureTaken n) = false := by
  show s.cameras[n]?.any (fun c => !c.released && c.pending) = false
  cases at_n : s.cameras[n]? with
  | none => rfl
  | some c =>
    have quiet := h.quiet c (List.mem_of_getElem? at_n)
    cases released : c.released with
    | true => simp [released]
    | false => simp [quiet released]

/-! ### The steps -/

theorem step_crash_iff (h : s.Reached) (running : s.crash = none) (stepped : step s i = some t) :
    t.crash = none ↔ s.throws i = false := by
  have inv := h.players running
  obtain ⟨-, able, rfl⟩ := step_eq stepped
  unfold World.throws
  cases event : i.event with
  | surfaceCreated holder =>
    exact openVideo_crash (s := { s with mSurfaceHolder := some holder }) running _
  | surfaceChanged holder => exact iff_of_true running rfl
  | surfaceDestroyed =>
    rw [handle, surfaceDestroyed_ok inv.canStop]
    exact iff_of_true running rfl
  | onResume => exact onResume_crash running
  | actionDown =>
    cases recording : s.isRecording with
    | true =>
      rw [handle, onTouchDown_recording recording]
      exact iff_of_true running (by simp [World.pressThrows, recording])
    | false => exact (onTouchDown_ends h.cameras running recording).1
  | actionUp => exact (recordStop_stop i.env s).crash h.cameras running
  | actionCancel => exact iff_of_true running rfl
  | onClick id =>
    cases id with
    | btn => exact (onClick_btn_crash inv running).trans (by simp)
    | btn2 => exact iff_of_true running rfl
    | imgFinish => exact iff_of_true running rfl
    | imgChangeCamera =>
      rw [handle]
      unfold onClick
      rw [modify_bind, bind_ok (releaseCamera_eq _), get_bind]
      exact openVideo_crash
        (s := World.released { s with currentCameraSpacing := s.currentCameraSpacing.other })
        running _
  | tick n =>
    rw [handle, timerTask_run]
    exact iff_of_true running rfl
  | dispatch =>
    rw [handle]
    unfold dispatch
    rw [get_bind]
    cases queue : s.queue with
    | nil => rw [event] at able; simp [World.enabled, queue] at able
    | cons r rest =>
      simp only [modify_bind]
      cases r with
      | updateProgress => exact iff_of_true running rfl
      | sendVideo =>
        have inv' : { s with queue := rest }.CameraInv :=
          ⟨h.cameras.sole, h.cameras.quiet, h.cameras.exclusive⟩
        exact (recordStop_stop i.env { s with queue := rest }).crash inv' running
  | onPictureTaken n =>
    rw [event, h.cameras.no_picture n] at able
    simp at able
  | onCompletion p => exact iff_of_true running rfl
  | onPrepared p => exact onPrepared_crash running

end StudyProject.Video
