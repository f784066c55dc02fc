import StudyProject.Video.VideoCaptureActivity

/-! What each method of the activity does to the world, as an equation for each way it can end.
The claims about runs are proved from these equations alone. -/

namespace StudyProject.Video

open StudyProject.Library StudyProject.Library.Objects StudyProject.Library.Handler

variable {s : World} {env : Env} {m : CameraMethod} {c : Camera}

/-! ### Camera -/

theorem callCamera_none (h : s.camera = none) :
    (callCamera m).run s =
      .error .nullPointerException { s with cameraCalls := s.cameraCalls ++ [⟨none, m⟩] } := by
  simp [callCamera, h]

theorem callCamera_refused (h : s.camera = some c) (refuses : c.refuses m = true) :
    (callCamera m).run s =
      .error .runtimeException { s with cameraCalls := s.cameraCalls ++ [⟨some c, m⟩] } := by
  simp [callCamera, h, refuses]

theorem callCamera_ok (h : s.camera = some c) (accepts : c.refuses m = false) :
    (callCamera m).run s =
      .ok () { s with
        cameras := update s.mCamera (·.call m) s.cameras
        cameraCalls := s.cameraCalls ++ [⟨some c, m⟩] } := by
  simp [callCamera, h, accepts]

/-- The call of `release` that `releaseCamera` makes. -/
def World.releaseCalls (s : World) : List CameraCall :=
  s.camera.toList.map fun c => ⟨some c, .release⟩

def World.released (s : World) : World :=
  { s with
    mCamera := none
    cameras := update s.mCamera (·.call .release) s.cameras
    cameraCalls := s.cameraCalls ++ s.releaseCalls }

theorem camera_none (h : s.mCamera = none) : s.camera = none := by
  rw [World.camera, h, Option.map_none]

theorem released_of_none (h : s.mCamera = none) : s.released = s := by
  unfold World.released World.releaseCalls
  rw [camera_none h]
  rcases s with ⟨⟨⟩⟩
  subst h
  simp

theorem releaseCamera_eq (s : World) : releaseCamera.run s = .ok () s.released := by
  unfold releaseCamera
  rw [get_bind]
  cases h : s.mCamera with
  | none => simp [released_of_none h]
  | some i =>
    have at_i : s.camera = some (s.cameras[i]?.getD { released := true }) := by
      rw [World.camera, h, Option.map_some]
    simp only [Option.isSome_some, ↓reduceIte]
    rw [bind_ok (callCamera_ok at_i rfl), EStateM.run_modify]
    simp [World.released, World.releaseCalls, at_i, h]

/-- The preview calls made up to the one that throws. -/
def previewMade (throws : Option CameraMethod) : List CameraMethod → List CameraMethod
  | [] => []
  | m :: rest => if throws = some m then [m] else m :: previewMade throws rest

def Env.previewLog (env : Env) : List CameraCall :=
  (previewMade env.previewThrows previewCalls).map fun m => ⟨some {}, m⟩

/-- The world after `openVideo` opened the camera. -/
def World.opened (s : World) (env : Env) (spacing : CameraFacing) : World :=
  { s with
    mCamera := some s.cameras.length
    cameras := update s.mCamera (·.call .release) s.cameras ++ [{}]
    currentCameraSpacing := spacing
    cameraCalls := s.cameraCalls ++ s.releaseCalls ++ env.previewLog }

theorem call_of_preview (h : m ∈ previewCalls) : (fun c : Camera => c.call m) = fun c => c := by
  simp only [previewCalls, List.mem_cons, List.not_mem_nil, or_false] at h
  rcases h with rfl | rfl | rfl | rfl | rfl | rfl <;> rfl

theorem refuses_of_preview (h : m ∈ previewCalls) (c : Camera) : c.refuses m = c.released := by
  simp only [previewCalls, List.mem_cons, List.not_mem_nil, or_false] at h
  rcases h with rfl | rfl | rfl | rfl | rfl | rfl <;> rfl

theorem preview_forM (env : Env) {methods : List CameraMethod} (sub : methods ⊆ previewCalls)
    (h : s.camera = some {}) :
    state ((forM methods (previewCall env)).run s) =
      { s with
        cameraCalls := s.cameraCalls ++
          (previewMade env.previewThrows methods).map fun m => ⟨some {}, m⟩ } := by
  induction methods generalizing s with
  | nil => simp [previewMade]
  | cons m rest ih =>
    have preview : m ∈ previewCalls := sub List.mem_cons_self
    have call := callCamera_ok h (refuses_of_preview preview {})
    rw [call_of_preview preview, update_id] at call
    rw [List.forM_cons]
    by_cases throws : env.previewThrows = some m
    · have ends : (previewCall env m).run s = .error .runtimeException
          { s with cameraCalls := s.cameraCalls ++ [⟨some {}, m⟩] } := by
        rw [previewCall, bind_ok call, if_pos throws, throw_run]
      rw [bind_error ends]
      simp [previewMade, throws]
    · have goes_on : (previewCall env m).run s = .ok ()
          { s with cameraCalls := s.cameraCalls ++ [⟨some {}, m⟩] } := by
        rw [previewCall, bind_ok call, if_neg throws, EStateM.run_pure]
      rw [bind_ok goes_on, ih (List.subset_of_cons_subset sub) (by exact h)]
      simp [previewMade, throws]

theorem openVideo_busy (h : s.isPlay = true ∨ s.isTake = true) (spacing : CameraFacing) :
    (openVideo env spacing).run s = .ok () s := by
  unfold openVideo
  rw [get_bind]
  rcases h with h | h <;> simp [h]

theorem openVideo_released (play : s.isPlay = false) (take : s.isTake = false)
    (spacing : CameraFacing) :
    (openVideo env spacing).run s =
      (do
        cameraOpen env
        tryCatch (forM previewCalls (previewCall env)) fun _ => pure () : Handler Unit).run
        { s.released with currentCameraSpacing := spacing } := by
  unfold openVideo
  rw [get_bind]
  simp only [play, take, Bool.not_false, Bool.and_self, ↓reduceIte]
  cases camera : s.mCamera with
  | none => simp [released_of_none camera]
  | some i =>
    simp only [Option.isSome_some, ↓reduceIte]
    rw [bind_ok (releaseCamera_eq s)]
    rfl

theorem openVideo_throws (play : s.isPlay = false) (take : s.isTake = false)
    (opens : env.opens = false) (spacing : CameraFacing) :
    (openVideo env spacing).run s =
      .error .runtimeException { s.released with currentCameraSpacing := spacing } := by
  rw [openVideo_released play take]
  simp [cameraOpen, opens]

theorem openVideo_ok (play : s.isPlay = false) (take : s.isTake = false)
    (opens : env.opens = true) (spacing : CameraFacing) :
    (openVideo env spacing).run s = .ok () (s.opened env spacing) := by
  rw [openVideo_released play take]
  have open_ok : (cameraOpen env).run { s.released with currentCameraSpacing := spacing } =
      .ok () { s.released with
        currentCameraSpacing := spacing
        mCamera := some s.released.cameras.length
        cameras := s.released.cameras ++ [{}] } := by
    simp [cameraOpen, opens]
  rw [bind_ok open_ok, tryCatch_ignore,
    preview_forM env (List.Subset.refl _) (by simp [World.camera])]
  simp [World.opened, World.released, Env.previewLog]

/-- How `openVideo` can end. -/
inductive Opening (env : Env) (spacing : CameraFacing) (s : World) :
    EStateM.Result Throwable World Unit → Prop
  | busy (h : s.isPlay = true ∨ s.isTake = true) : Opening env spacing s (.ok () s)
  | threw (play : s.isPlay = false) (take : s.isTake = false) :
      Opening env spacing s
        (.error .runtimeException { s.released with currentCameraSpacing := spacing })
  | opened (play : s.isPlay = false) (take : s.isTake = false) :
      Opening env spacing s (.ok () (s.opened env spacing))

theorem openVideo_opening (env : Env) (spacing : CameraFacing) (s : World) :
    Opening env spacing s ((openVideo env spacing).run s) := by
  cases play : s.isPlay with
  | true =>
    rw [openVideo_busy (.inl play)]
    exact .busy (.inl play)
  | false =>
    cases take : s.isTake with
    | true =>
      rw [openVideo_busy (.inr take)]
      exact .busy (.inr take)
    | false =>
      cases opens : env.opens with
      | true =>
        rw [openVideo_ok play take opens]
        exact .opened play take
      | false =>
        rw [openVideo_throws play take opens]
        exact .threw play take

/-! ### Player -/

/-- The players after `playVideo` reset the one it found or made. -/
def World.resetPlayers (s : World) : List MediaPlayer :=
  match s.mediaPlayer with
  | none => s.players ++ [{}]
  | some p => s.players.modify p MediaPlayer.reset

/-- The world after `playVideo` ran to its end. -/
def World.played (s : World) : World :=
  { s with
    isPlay := true
    mediaPlayer := some s.resetPlayers.length
    players := s.resetPlayers ++ [{ prepared := true }] }

theorem playVideo_ok {f : String} (h : s.fileName = some f) (creates : env.creates = true) :
    (playVideo env).run s = .ok () s.played := by
  unfold playVideo World.played World.resetPlayers
  cases player : s.mediaPlayer <;> simp [h, player, creates, MediaPlayer.reset]

/-- The world after `playVideo` found no file to play. -/
def World.unplayed (s : World) : World :=
  { s with
    isPlay := true
    mediaPlayer := some (s.mediaPlayer.getD s.players.length)
    players := s.resetPlayers }

theorem playVideo_throws (h : s.fileName = none) :
    (playVideo env).run s = .error .nullPointerException s.unplayed := by
  unfold playVideo World.unplayed World.resetPlayers
  cases player : s.mediaPlayer <;> simp [h, player, MediaPlayer.reset]

/-- The world after `MediaPlayer.create` returned null. -/
def World.uncreated (s : World) : World :=
  { s with isPlay := true, mediaPlayer := none, players := s.resetPlayers }

theorem playVideo_null {f : String} (h : s.fileName = some f) (creates : env.creates = false) :
    (playVideo env).run s = .error .nullPointerException s.uncreated := by
  unfold playVideo World.uncreated World.resetPlayers
  cases player : s.mediaPlayer <;> simp [h, player, creates, MediaPlayer.reset]

/-- How `playVideo` can end. -/
inductive Playing (env : Env) (s : World) : EStateM.Result Throwable World Unit → Prop
  | played {f : String} (file : s.fileName = some f) (creates : env.creates = true) :
      Playing env s (.ok () s.played)
  | noFile (file : s.fileName = none) : Playing env s (.error .nullPointerException s.unplayed)
  | null {f : String} (file : s.fileName = some f) (creates : env.creates = false) :
      Playing env s (.error .nullPointerException s.uncreated)

theorem playVideo_playing (env : Env) (s : World) : Playing env s ((playVideo env).run s) := by
  cases file : s.fileName with
  | none =>
    rw [playVideo_throws file]
    exact .noFile file
  | some f =>
    cases creates : env.creates with
    | true =>
      rw [playVideo_ok file creates]
      exact .played file creates
    | false =>
      rw [playVideo_null file creates]
      exact .null file creates

/-- The world after `releaseMediaPlayer`. -/
def World.playerReleased (s : World) : World :=
  { s with
    mediaPlayer := none
    players := update s.mediaPlayer (fun p => p.reset.release) s.players }

theorem playerReleased_of_none (h : s.mediaPlayer = none) : s.playerReleased = s := by
  unfold World.playerReleased
  rcases s with ⟨⟨⟩⟩
  subst h
  simp

/-- Whether the player in the field, if there is one, may be stopped. -/
def World.canStopPlayer (s : World) : Bool :=
  s.mediaPlayer.all fun p => s.players[p]?.any MediaPlayer.prepared

theorem releaseMediaPlayer_ok (h : s.canStopPlayer = true) :
    releaseMediaPlayer.run s = .ok () s.playerReleased := by
  unfold releaseMediaPlayer
  rw [get_bind]
  cases player : s.mediaPlayer with
  | none => simp [playerReleased_of_none player]
  | some p =>
    have prepared : s.players[p]?.any MediaPlayer.prepared = true := by
      simpa [World.canStopPlayer, player] using h
    simp [prepared, World.playerReleased, player]

theorem releaseMediaPlayer_throws (h : s.canStopPlayer = false) :
    releaseMediaPlayer.run s = .error .illegalStateException s := by
  unfold releaseMediaPlayer
  rw [get_bind]
  cases player : s.mediaPlayer with
  | none => simp [World.canStopPlayer, player] at h
  | some p =>
    have unprepared : s.players[p]?.any MediaPlayer.prepared = false := by
      simpa [World.canStopPlayer, player] using h
    simp [unprepared]

/-! ### `recordStop` -/

/-- The world when `recordStop` has chosen `isTake`. -/
def World.stopped (s : World) (env : Env) : World :=
  { s with
    isRecording := false
    timers := update s.mTimer Timer.cancel s.timers
    mTimeCount := 0
    views := { s.views with customProgress := s.views.customProgress.setProgress 0 }
    shown := s.shown ++ [0]
    queue := s.queue.filter (· ≠ .updateProgress)
    recorders := update s.mMediaRecorder (·.setState .released) s.recorders
    mMediaRecorder := none
    isTake := decide (env.now - s.time < 1000)
    recordCalls := s.recordCalls ++ [.recordStop] }

theorem recordStop_eq (env : Env) (s : World) :
    (recordStop env).run s =
      (do
        if env.now - s.time < 1000 then
          takePicture
          releaseCamera
        else
          releaseCamera
          playVideo env
        modify fun s => { s with views := s.views.review } : Handler Unit).run (s.stopped env) := by
  unfold recordStop setProgress removeCallbacks releaseMediaRecorder
  simp only [modify_bind, get_bind]
  by_cases quick : env.now - s.time < 1000 <;> simp [quick, World.stopped]

/-- The world once `takePicture` was called on the camera `c`. -/
def World.pictured (s : World) (c : Camera) : World :=
  { s with
    cameras := update s.mCamera (·.call .takePicture) s.cameras
    cameraCalls := s.cameraCalls ++ [⟨some c, .takePicture⟩] }

/-- How `recordStop` can end: with the video playing, without a file or with one that cannot be
played, or with a picture requested, with no camera to take it, or with a camera that refuses. -/
inductive Stop (env : Env) (s : World) : EStateM.Result Throwable World Unit → Prop
  | played {f : String} (slow : ¬env.now - s.time < 1000) (file : s.fileName = some f)
      (creates : env.creates = true) :
      Stop env s <| .ok ()
        { (s.stopped env).released.played with views := (s.stopped env).views.review }
  | noFile (slow : ¬env.now - s.time < 1000) (file : s.fileName = none) :
      Stop env s (.error .nullPointerException (s.stopped env).released.unplayed)
  | null {f : String} (slow : ¬env.now - s.time < 1000) (file : s.fileName = some f)
      (creates : env.creates = false) :
      Stop env s (.error .nullPointerException (s.stopped env).released.uncreated)
  | pictured {c : Camera} (quick : env.now - s.time < 1000) (camera : s.camera = some c)
      (accepts : c.refuses .takePicture = false) :
      Stop env s <| .ok ()
        { ((s.stopped env).pictured c).released with views := (s.stopped env).views.review }
  | noCamera (quick : env.now - s.time < 1000) (camera : s.camera = none) :
      Stop env s <| .error .nullPointerException
        { s.stopped env with cameraCalls := s.cameraCalls ++ [⟨none, .takePicture⟩] }
  | refused {c : Camera} (quick : env.now - s.time < 1000) (camera : s.camera = some c)
      (refuses : c.refuses .takePicture = true) :
      Stop env s <| .error .runtimeException
        { s.stopped env with cameraCalls := s.cameraCalls ++ [⟨some c, .takePicture⟩] }

theorem recordStop_stop (env : Env) (s : World) : Stop env s ((recordStop env).run s) := by
  rw [recordStop_eq]
  by_cases quick : env.now - s.time < 1000
  · simp only [quick, ↓reduceIte, takePicture]
    cases camera : s.camera with
    | none =>
      have null : (s.stopped env).camera = none := camera
      rw [bind_error (callCamera_none null)]
      exact .noCamera quick camera
    | some c =>
      have camera' : (s.stopped env).camera = some c := camera
      cases picture : c.refuses .takePicture with
      | true =>
        rw [bind_error (callCamera_refused camera' picture)]
        exact .refused quick camera picture
      | false =>
        rw [bind_ok (callCamera_ok camera' picture), bind_ok (releaseCamera_eq _)]
        exact .pictured quick camera picture
  · simp only [quick, ↓reduceIte]
    cases file : s.fileName with
    | none =>
      have file' : (s.stopped env).released.fileName = none := file
      rw [bind_ok (releaseCamera_eq _), bind_error (playVideo_throws file')]
      exact .noFile quick file
    | some f =>
      have file' : (s.stopped env).released.fileName = some f := file
      rw [bind_ok (releaseCamera_eq _)]
      cases creates : env.creates with
      | true =>
        rw [bind_ok (playVideo_ok file' creates)]
        exact .played quick file creates
      | false =>
        rw [bind_error (playVideo_null file' creates)]
        exact .null quick file creates

/-! ### `onTouch` -/

/-- The call of `unlock` that a press makes. -/
def World.unlockCalls (s : World) : List CameraCall :=
  s.camera.toList.map fun c => ⟨some c, .unlock⟩

/-- The world once the camera `c` is unlocked and handed to a new recorder. -/
def World.unlocked (s : World) (c : Camera) : World :=
  { s with
    mMediaRecorder := some s.recorders.length
    recorders := s.recorders ++ [{ camera := s.mCamera }]
    cameras := update s.mCamera (·.call .unlock) s.cameras
    cameraCalls := s.cameraCalls ++ [⟨some c, .unlock⟩] }

theorem camera_isSome (h : s.camera = some c) : s.mCamera.isNone = false := by
  cases camera : s.mCamera with
  | none => simp [camera_none camera] at h
  | some i => rfl

theorem prepareVideoRecorder_noCamera (h : s.mCamera = none) :
    (prepareVideoRecorder env).run s = .ok false s := by
  simp [prepareVideoRecorder, h]

theorem prepareVideoRecorder_refused (h : s.camera = some c) (refuses : c.refuses .unlock = true) :
    (prepareVideoRecorder env).run s =
      .error .runtimeException
        { s with
          mMediaRecorder := some s.recorders.length
          recorders := s.recorders ++ [{}]
          cameraCalls := s.cameraCalls ++ [⟨some c, .unlock⟩] } := by
  unfold prepareVideoRecorder
  rw [get_bind]
  simp only [camera_isSome h, Bool.false_eq_true, ↓reduceIte]
  rw [modify_bind, bind_error (callCamera_refused (by exact h) refuses)]

/-- The part of `prepareVideoRecorder` after `mMediaRecorder.setCamera`. -/
def configureRecorder (env : Env) : Handler Bool := do
  if !env.profile then throw .runtimeException
  getOutputMediaFile env
  if (← get).mSurfaceHolder.isNone then throw .nullPointerException
  tryCatch (do prepare env; return true) fun
    | .illegalStateException => do releaseMediaRecorder; return false
    | .ioException => do releaseMediaRecorder; return false
    | e => throw e

theorem prepareVideoRecorder_unlocked (env : Env) (h : s.camera = some c)
    (accepts : c.refuses .unlock = false) :
    (prepareVideoRecorder env).run s = (configureRecorder env).run (s.unlocked c) := by
  unfold prepareVideoRecorder
  rw [get_bind]
  simp only [camera_isSome h, Bool.false_eq_true, ↓reduceIte]
  rw [modify_bind, bind_ok (callCamera_ok (by exact h) accepts), modify_bind]
  simp only [update_some, modify_concat]
  rfl

/-- The world after a preparation that failed with an exception the method handles. -/
def World.unprepared (s : World) (env : Env) : World :=
  { s with
    fileName := some env.outputFile
    recorders := update s.mMediaRecorder (·.setState .released) s.recorders
    mMediaRecorder := none }

/-- The world after a preparation that succeeded. -/
def World.prepared (s : World) (env : Env) : World :=
  { s with
    fileName := some env.outputFile
    recorders := update s.mMediaRecorder (·.setState .prepared) s.recorders }

/-- How the rest of `prepareVideoRecorder` can end: prepared, not prepared, or by an exception that
leaves all but the file name alone. -/
theorem configureRecorder_cases (env : Env) (s : World) :
    (configureRecorder env).run s = .ok true (s.prepared env) ∨
      (configureRecorder env).run s = .ok false (s.unprepared env) ∨
      ∃ t file, (configureRecorder env).run s = .error t { s with fileName := file } := by
  unfold configureRecorder getOutputMediaFile
  cases env.profile with
  | false => exact .inr (.inr ⟨.runtimeException, s.fileName, by simp⟩)
  | true =>
    simp only [Bool.not_true, Bool.false_eq_true, ↓reduceIte, modify_bind, get_bind]
    by_cases holder : s.mSurfaceHolder.isNone = true
    · refine .inr (.inr ⟨.nullPointerException, some env.outputFile, ?_⟩)
      rw [if_pos holder, throw_bind]
    · rw [if_neg holder]
      cases prepares : env.prepares with
      | none =>
        have prepared (w : World) : (prepare env).run w =
            .ok ()
              { w with recorders := update w.mMediaRecorder (·.setState .prepared) w.recorders } := by
          simp [prepare, prepares]
        exact .inl (tryCatch_ok (by rw [bind_ok (prepared _)]; rfl))
      | some t =>
        have throws (w : World) : (prepare env).run w = .error t w := by
          simp [prepare, prepares]
        rw [tryCatch_error (bind_error (throws _))]
        cases t with
        | illegalStateException => exact .inr (.inl rfl)
        | ioException => exact .inr (.inl rfl)
        | nullPointerException => exact .inr (.inr ⟨_, _, rfl⟩)
        | runtimeException => exact .inr (.inr ⟨_, _, rfl⟩)

def World.pressed (s : World) (env : Env) : World :=
  { s with time := env.now, views := s.views.press }

/-- The world after a press that started a recording with the camera `c`. -/
def World.started (s : World) (env : Env) (c : Camera) : World :=
  { s with
    time := env.later
    views := s.views.press
    fileName := some env.outputFile
    isRecording := true
    mMediaRecorder := some s.recorders.length
    recorders := s.recorders ++ [{ state := .started, camera := s.mCamera }]
    cameras := update s.mCamera (fun c => (c.call .unlock).lock) s.cameras
    cameraCalls := s.cameraCalls ++ [⟨some c, .unlock⟩]
    recordCalls := s.recordCalls ++ [.start]
    mTimer := some s.timers.length
    timers := s.timers ++ [{}] }

/-- The part of `onTouchDown` after the press has changed the screen. -/
def startRecording (env : Env) : Handler Unit := do
  if ← prepareVideoRecorder env then
    startRecorder env
    modify fun s => { s with time := env.later, isRecording := true }
    scheduleTimer
  else
    releaseMediaRecorder

theorem onTouchDown_idle (idle : s.isRecording = false) :
    (onTouchDown env).run s = (startRecording env).run (s.pressed env) := by
  unfold onTouchDown
  rw [get_bind, if_pos (by rw [idle]; rfl), modify_bind]
  rfl

/-- How a press can end while nothing is recorded. -/
inductive Press (env : Env) (s : World) : EStateM.Result Throwable World Unit → Prop
  | noCamera (null : s.mCamera = none) : Press env s <| .ok ()
      { s.pressed env with
        recorders := update s.mMediaRecorder (·.setState .released) s.recorders
        mMediaRecorder := none }
  | failed {c : Camera} (camera : s.camera = some c) (accepts : c.refuses .unlock = false) :
      Press env s (.ok () (((s.pressed env).unlocked c).unprepared env))
  | started {c : Camera} (camera : s.camera = some c) (accepts : c.refuses .unlock = false) :
      Press env s (.ok () (s.started env c))
  | refused {c : Camera} (camera : s.camera = some c) (refuses : c.refuses .unlock = true) :
      Press env s <| .error .runtimeException
        { s.pressed env with
          mMediaRecorder := some s.recorders.length
          recorders := s.recorders ++ [{}]
          cameraCalls := s.cameraCalls ++ [⟨some c, .unlock⟩] }
  | threw {c : Camera} (t : Throwable) (file : Option String) (recorders : List MediaRecorder)
      (camera : s.camera = some c) (accepts : c.refuses .unlock = false) :
      Press env s (.error t { (s.pressed env).unlocked c with fileName := file, recorders })

theorem onTouchDown_recording (h : s.isRecording = true) :
    (onTouchDown env).run s = .ok () s := by
  simp [onTouchDown, h]

theorem startRecorder_throws (h : env.starts = false) :
    (startRecorder env).run s = .error .illegalStateException s := by
  simp [startRecorder, h]

/-- What is left of a press once the recorder is prepared. -/
theorem start_prepared (h : env.starts = true) :
    (do
      startRecorder env
      modify fun s => { s with time := env.later, isRecording := true }
      scheduleTimer : Handler Unit).run (((s.pressed env).unlocked c).prepared env) =
    .ok () (s.started env c) := by
  simp [startRecorder, h, scheduleTimer, World.prepared, World.unlocked, World.pressed,
    World.started, MediaRecorder.setState]

theorem onTouchDown_press (idle : s.isRecording = false) :
    Press env s ((onTouchDown env).run s) := by
  rw [onTouchDown_idle idle, startRecording]
  cases null : s.mCamera with
  | none =>
    rw [bind_ok (prepareVideoRecorder_noCamera (by exact null))]
    exact .noCamera null
  | some i =>
    obtain ⟨c, camera⟩ : ∃ c, s.camera = some c := ⟨_, by rw [World.camera, null, Option.map_some]⟩
    have camera' : (s.pressed env).camera = some c := camera
    cases unlock : c.refuses .unlock with
    | true =>
      rw [bind_error (prepareVideoRecorder_refused camera' unlock)]
      exact .refused camera unlock
    | false =>
      have prepare_eq := prepareVideoRecorder_unlocked env camera' unlock
      obtain h | h | ⟨t, file, h⟩ := configureRecorder_cases env ((s.pressed env).unlocked c)
      · rw [bind_ok (prepare_eq.trans h)]
        simp only [↓reduceIte]
        cases starts : env.starts with
        | true =>
          rw [start_prepared starts]
          exact .started camera unlock
        | false =>
          rw [bind_error (startRecorder_throws starts)]
          exact .threw _ _ _ camera unlock
      · rw [bind_ok (prepare_eq.trans h)]
        simp only [Bool.false_eq_true, ↓reduceIte]
        exact .failed camera unlock
      · rw [bind_error (prepare_eq.trans h)]
        exact .threw t file _ camera unlock

/-! ### `onResume` -/

theorem onResume_idle (h : s.isPause = false) : (onResume env).run s = .ok () s := by
  simp [onResume, h]

theorem onResume_play (pause : s.isPause = true) (play : s.isPlay = true) :
    (onResume env).run s = (playVideo env).run { s with isPause := false } := by
  unfold onResume
  rw [get_bind, if_pos pause, modify_bind, get_bind, if_pos play]

theorem onResume_open (pause : s.isPause = true) (play : s.isPlay = false) :
    (onResume env).run s =
      (if (!s.isTake) = true then openVideo env s.currentCameraSpacing else pure ()).run
        { s with isPause := false } := by
  unfold onResume
  rw [get_bind, if_pos pause, modify_bind, get_bind, if_neg (by simp [play])]

/-! ### `surfaceDestroyed` -/

/-- The world when `surfaceDestroyed` has released the recorder. -/
def World.paused (s : World) : World :=
  { s with
    isPause := true
    queue := s.queue.filter (· ≠ .updateProgress)
    recorders := update s.mMediaRecorder (·.setState .released) s.recorders
    mMediaRecorder := none }

theorem surfaceDestroyed_ok (h : s.canStopPlayer = true) :
    surfaceDestroyed.run s = .ok () s.paused.released.playerReleased := by
  have stop : s.paused.released.canStopPlayer = true := h
  unfold surfaceDestroyed removeCallbacks releaseMediaRecorder
  rw [modify_bind, modify_bind, modify_bind]
  show (releaseCamera >>= _).run s.paused = _
  rw [bind_ok (releaseCamera_eq _), releaseMediaPlayer_ok stop]

end StudyProject.Video
