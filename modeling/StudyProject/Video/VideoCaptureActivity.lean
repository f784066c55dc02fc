import StudyProject.Library.Machine
import StudyProject.Library.Objects
import StudyProject.Library.Handler
import StudyProject.Widget.EmojiFlowLayout
import StudyProject.Video.CustomProgress
import StudyProject.Video.Framework

/-! `VideoCaptureActivity`: its fields, its methods and handlers, and the machine whose steps are
completed handlers.  A method is a `Handler`, which keeps the changes it made when an exception
ends it.  What a handler learns from outside, such as the clock or whether the recorder can be
prepared, is its `Env`, a free choice at every step.  The main thread's handlers are atomic, and so
is a tick of a timer; an exception that leaves a handler ends the run. -/

namespace StudyProject.Video

open StudyProject.Library StudyProject.Library.Objects
open StudyProject.Widget (Visibility)

def MAX_TIME : BitVec 32 := 1000

/-- The views, with their visibility as in the layout file. -/
structure Views where
  customProgress : CustomProgress
  btn : Visibility := .gone
  btn2 : Visibility := .gone
  progressLayout : Visibility := .visible
  imgFinish : Visibility := .visible
  imgChangeCamera : Visibility := .visible
  txtTips : Visibility := .visible

/-- The fields of the activity.  Cameras, recorders, timers and players are named by their place
in the framework's lists, a surface holder by any number. -/
structure Activity where
  mSurfaceHolder : Option Nat := none
  mCamera : Option Nat := none
  mMediaRecorder : Option Nat := none
  mTimer : Option Nat := none
  mTimeCount : BitVec 32 := 0
  time : Int := 0
  fileName : Option String := none
  cameraCount : Nat
  currentCameraSpacing : CameraFacing := .back
  mediaPlayer : Option Nat := none
  isRecording : Bool := false
  isPlay : Bool := false
  isTake : Bool := false
  isPause : Bool := false
  finishing : Bool := false
  views : Views

/-- The activity among the objects it made, the runnables that wait on the main thread, and the
exception that ended the run, if one did.  The other fields record the run: the calls on cameras,
the starts and stops of recordings, the runnables posted and the progress values shown. -/
structure World extends Activity where
  cameras : List Camera := []
  recorders : List MediaRecorder := []
  players : List MediaPlayer := []
  timers : List Timer := []
  queue : List Runnable := []
  crash : Option Throwable := none
  cameraCalls : List CameraCall := []
  recordCalls : List RecordCall := []
  posted : List Runnable := []
  shown : List (BitVec 32) := []

/-- The camera that `mCamera` refers to. -/
def World.camera (s : World) : Option Camera :=
  s.mCamera.map fun c => s.cameras[c]?.getD { released := true }

/-- What a handler learns from outside: two readings of the clock, whether `Camera.open` succeeds,
the preview call that throws, whether `CamcorderProfile.get` knows the quality, how `prepare` and
`start` end, where files go, the time stamp of a file, whether the canvas and the bitmap of a
picture are there, and whether `MediaPlayer.create` can play the file, as it returns null if not. -/
structure Env where
  now : Int := 0
  later : Int := 0
  opens : Bool := true
  previewThrows : Option CameraMethod := none
  profile : Bool := true
  prepares : Option Throwable := none
  starts : Bool := true
  externalStorageDirectory : String := "/sdcard"
  stamp : String := ""
  canvas : Bool := true
  creates : Bool := true

abbrev Handler := EStateM Throwable World

/-- The activity after `initView`. -/
def initView (cameraCount : Nat) (customProgress : CustomProgress) : World where
  cameraCount := cameraCount
  views :=
    { customProgress := customProgress.setmTotalProgress MAX_TIME
      imgChangeCamera := if cameraCount < 2 then .gone else .visible }

/-! ### Camera -/

/-- A call of `method` on `mCamera`. -/
def callCamera (method : CameraMethod) : Handler Unit := do
  let receiver := (← get).camera
  modify fun s => { s with cameraCalls := s.cameraCalls ++ [⟨receiver, method⟩] }
  if receiver.isNone then throw .nullPointerException
  if receiver.any (·.refuses method) then throw .runtimeException
  modify fun s => { s with cameras := update s.mCamera (·.call method) s.cameras }

def releaseCamera : Handler Unit := do
  if (← get).mCamera.isSome then
    callCamera .release
    modify fun s => { s with mCamera := none }

def cameraOpen (env : Env) : Handler Unit := do
  if !env.opens then throw .runtimeException
  modify fun s => { s with mCamera := some s.cameras.length, cameras := s.cameras ++ [{}] }

/-- The camera calls of the `try` block of `openVideo`. -/
def previewCalls : List CameraMethod :=
  [.stopPreview, .setPreviewDisplay, .setDisplayOrientation, .getParameters, .setParameters,
    .startPreview]

def previewCall (env : Env) (method : CameraMethod) : Handler Unit := do
  callCamera method
  if env.previewThrows = some method then throw .runtimeException

def openVideo (env : Env) (spacing : CameraFacing) : Handler Unit := do
  let s ← get
  if !s.isPlay && !s.isTake then
    if s.mCamera.isSome then
      releaseCamera
    modify fun s => { s with currentCameraSpacing := spacing }
    cameraOpen env
    tryCatch (forM previewCalls (previewCall env)) fun _ => pure ()

def takePicture : Handler Unit :=
  callCamera .takePicture

/-- The callback of `takePicture`, which draws the picture on the surface. -/
def onPictureTaken (env : Env) (c : Nat) : Handler Unit := do
  modify fun s => { s with cameras := update (some c) Camera.delivered s.cameras }
  if (← get).mSurfaceHolder.isNone then throw .nullPointerException
  if !env.canvas then throw .nullPointerException

/-! ### Recorder -/

def releaseMediaRecorder : Handler Unit :=
  modify fun s =>
    { s with
      recorders := update s.mMediaRecorder (·.setState .released) s.recorders
      mMediaRecorder := none }

/-- The path of a new file, in a directory under the package's name. -/
def Env.outputFile (env : Env) : String :=
  env.externalStorageDirectory ++ "/" ++ "com.study.eric" ++ "/video_" ++ env.stamp ++ ".mp4"

def getOutputMediaFile (env : Env) : Handler Unit :=
  modify fun s => { s with fileName := some env.outputFile }

/-- `mMediaRecorder.prepare()`. -/
def prepare (env : Env) : Handler Unit := do
  if let some t := env.prepares then throw t
  modify fun s =>
    { s with recorders := update s.mMediaRecorder (·.setState .prepared) s.recorders }

def prepareVideoRecorder (env : Env) : Handler Bool := do
  if (← get).mCamera.isNone then
    return false
  modify fun s =>
    { s with mMediaRecorder := some s.recorders.length, recorders := s.recorders ++ [{}] }
  callCamera .unlock
  modify fun s =>
    { s with recorders := update s.mMediaRecorder (·.setCamera s.mCamera) s.recorders }
  if !env.profile then throw .runtimeException
  getOutputMediaFile env
  if (← get).mSurfaceHolder.isNone then throw .nullPointerException
  tryCatch (do prepare env; return true) fun
    | .illegalStateException => do releaseMediaRecorder; return false
    | .ioException => do releaseMediaRecorder; return false
    | e => throw e

/-- `mMediaRecorder.start()`, which takes back the lock of the recorder's camera. -/
def startRecorder (env : Env) : Handler Unit := do
  if !env.starts then throw .illegalStateException
  modify fun s =>
    let camera := s.mMediaRecorder.bind fun r => s.recorders[r]?.bind MediaRecorder.camera
    { s with
      recorders := update s.mMediaRecorder (·.setState .started) s.recorders
      cameras := update camera Camera.lock s.cameras
      recordCalls := s.recordCalls ++ [.start] }

/-! ### Player -/

def releaseMediaPlayer : Handler Unit := do
  let s ← get
  if s.mediaPlayer.isSome then
    let player := s.mediaPlayer.bind fun p => s.players[p]?
    if !player.any MediaPlayer.prepared then throw .illegalStateException
    modify fun s =>
      { s with
        players := update s.mediaPlayer (fun p => p.reset.release) s.players
        mediaPlayer := none }

def playVideo (env : Env) : Handler Unit := do
  modify fun s => { s with isPlay := true }
  if (← get).mediaPlayer.isNone then
    modify fun s => { s with mediaPlayer := some s.players.length, players := s.players ++ [{}] }
  modify fun s => { s with players := update s.mediaPlayer MediaPlayer.reset s.players }
  if (← get).fileName.isNone then throw .nullPointerException
  if !env.creates then
    modify fun s => { s with mediaPlayer := none }
    throw .nullPointerException
  modify fun s =>
    { s with
      mediaPlayer := some s.players.length
      players := s.players ++ [{ prepared := true }] }

/-- The listener of a player that reached its end. -/
def onCompletion (p : Nat) : Handler Unit :=
  modify fun s => { s with players := update (some p) MediaPlayer.start s.players }

/-- The listener of a prepared player, which works on the field and not on that player.  Its
second `prepare` throws, which it catches. -/
def onPrepared : Handler Unit := do
  if (← get).mediaPlayer.isNone then throw .nullPointerException
  modify fun s => { s with players := update s.mediaPlayer MediaPlayer.start s.players }

/-! ### Timer and record button -/

def setProgress (progress : BitVec 32) : Handler Unit :=
  modify fun s =>
    { s with
      views := { s.views with customProgress := s.views.customProgress.setProgress progress }
      shown := s.shown ++ [progress] }

def post (r : Runnable) : Handler Unit :=
  modify fun s => { s with queue := s.queue ++ [r], posted := s.posted ++ [r] }

def removeCallbacks (r : Runnable) : Handler Unit :=
  modify fun s => { s with queue := s.queue.filter (· ≠ r) }

/-- `mTimer = new Timer()` and its `schedule`. -/
def scheduleTimer : Handler Unit :=
  modify fun s => { s with mTimer := some s.timers.length, timers := s.timers ++ [{}] }

/-- The `run` of the timer's task. -/
def timerTask (t : Nat) : Handler Unit := do
  modify fun s => { s with timers := update (some t) Timer.tick s.timers }
  modify fun s => { s with mTimeCount := s.mTimeCount + 1 }
  post .updateProgress
  if (← get).mTimeCount = MAX_TIME then
    post .sendVideo

/-- The views once a recording or a picture is there to look at. -/
def Views.review (v : Views) : Views :=
  { v with progressLayout := .gone, btn := .visible, btn2 := .visible }

/-- Stops the recording.  Nothing in the source's `try` block throws. -/
def recordStop (env : Env) : Handler Unit := do
  modify fun s => { s with isRecording := false }
  modify fun s => { s with timers := update s.mTimer Timer.cancel s.timers }
  modify fun s => { s with mTimeCount := 0 }
  setProgress 0
  removeCallbacks .updateProgress
  releaseMediaRecorder
  modify fun s =>
    { s with
      isTake := decide (env.now - s.time < 1000)
      recordCalls := s.recordCalls ++ [.recordStop] }
  if !(← get).isTake then
    releaseCamera
    playVideo env
  else
    takePicture
    releaseCamera
  modify fun s => { s with views := s.views.review }

/-- The views at the start of a press. -/
def Views.press (v : Views) : Views :=
  { v with
    customProgress := v.customProgress.changeAttrs
    imgFinish := .gone
    imgChangeCamera := .gone
    txtTips := .gone }

/-- `onTouch` with `ACTION_DOWN`. -/
def onTouchDown (env : Env) : Handler Unit := do
  if !(← get).isRecording then
    modify fun s => { s with time := env.now, views := s.views.press }
    if ← prepareVideoRecorder env then
      startRecorder env
      modify fun s => { s with time := env.later, isRecording := true }
      scheduleTimer
    else
      releaseMediaRecorder

/-! ### Clicks and lifecycle -/

/-- The views after a click on `btn`. -/
def Views.restart (v : Views) (cameraCount : Nat) : Views :=
  { v with
    btn := .gone
    btn2 := .gone
    progressLayout := .visible
    imgFinish := .visible
    imgChangeCamera := if 1 < cameraCount then .visible else v.imgChangeCamera
    txtTips := .visible
    customProgress := v.customProgress.changeInitAttrs }

/-- The views whose clicks the activity handles. -/
inductive ViewId where
  | btn
  | btn2
  | imgFinish
  | imgChangeCamera
deriving DecidableEq, Repr

def CameraFacing.other : CameraFacing → CameraFacing
  | .back => .front
  | .front => .back

def onClick (env : Env) : ViewId → Handler Unit
  | .btn => do
    if (← get).isPlay then
      releaseMediaPlayer
    modify fun s => { s with isPlay := false, isTake := false }
    openVideo env .back
    modify fun s => { s with views := s.views.restart s.cameraCount }
  | .btn2 => pure ()
  | .imgFinish => modify fun s => { s with finishing := true }
  | .imgChangeCamera => do
    modify fun s => { s with currentCameraSpacing := s.currentCameraSpacing.other }
    releaseCamera
    openVideo env (← get).currentCameraSpacing

def onResume (env : Env) : Handler Unit := do
  if (← get).isPause then
    modify fun s => { s with isPause := false }
    let s ← get
    if s.isPlay then
      playVideo env
    else if !s.isTake then
      openVideo env s.currentCameraSpacing

def surfaceCreated (env : Env) (holder : Nat) : Handler Unit := do
  modify fun s => { s with mSurfaceHolder := some holder }
  openVideo env (← get).currentCameraSpacing

def surfaceChanged (holder : Nat) : Handler Unit :=
  modify fun s => { s with mSurfaceHolder := some holder }

def surfaceDestroyed : Handler Unit := do
  modify fun s => { s with isPause := true }
  removeCallbacks .updateProgress
  releaseMediaRecorder
  releaseCamera
  releaseMediaPlayer

def Runnable.run (env : Env) : Runnable → Handler Unit
  | .updateProgress => do setProgress (← get).mTimeCount
  | .sendVideo => recordStop env

/-- The main thread takes the oldest posted runnable and runs it. -/
def dispatch (env : Env) : Handler Unit := do
  match (← get).queue with
  | [] => pure ()
  | r :: rest =>
    modify fun s => { s with queue := rest }
    r.run env

/-! ### The machine -/

inductive Event where
  | surfaceCreated (holder : Nat)
  | surfaceChanged (holder : Nat)
  | surfaceDestroyed
  | onResume
  | actionDown
  | actionUp
  | actionCancel
  | onClick (id : ViewId)
  | tick (t : Nat)
  | dispatch
  | onPictureTaken (c : Nat)
  | onCompletion (p : Nat)
  | onPrepared (p : Nat)
deriving DecidableEq, Repr

structure Input where
  event : Event
  env : Env := {}

def handle (env : Env) : Event → Handler Unit
  | .surfaceCreated holder => surfaceCreated env holder
  | .surfaceChanged holder => surfaceChanged holder
  | .surfaceDestroyed => surfaceDestroyed
  | .onResume => onResume env
  | .actionDown => onTouchDown env
  | .actionUp => recordStop env
  | .actionCancel => pure ()
  | .onClick id => onClick env id
  | .tick t => timerTask t
  | .dispatch => dispatch env
  | .onPictureTaken c => onPictureTaken env c
  | .onCompletion p => onCompletion p
  | .onPrepared _ => onPrepared

/-- Whether the event can happen: a timer ticks until it is cancelled and once more if a tick was
executing then, a runnable must be posted, and a released camera or player calls nothing back. -/
def World.enabled (s : World) : Event → Bool
  | .tick t => s.timers[t]?.any Timer.canTick
  | .dispatch => !s.queue.isEmpty
  | .onPictureTaken c => s.cameras[c]?.any fun c => !c.released && c.pending
  | .onCompletion p => s.players[p]?.any fun p => !p.released && p.prepared
  | .onPrepared p => s.players[p]?.any fun p => !p.released && p.prepared
  | _ => true

/-- The state in which a handler leaves the world. -/
def ended : EStateM.Result Throwable World Unit → World
  | .ok _ s => s
  | .error t s => { s with crash := some t }

/-- One completed handler, or one that ended in an exception, after which there is no step. -/
def step (s : World) (i : Input) : Option World :=
  if s.crash.isNone && s.enabled i.event then some (ended ((handle i.env i.event).run s)) else none

end StudyProject.Video
