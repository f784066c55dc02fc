import Mathlib.Tactic.Common

/-! The parts of the framework that `VideoCaptureActivity` drives: cameras, recorders, players and
timers, each with the state that decides whether a call on it is allowed. -/

namespace StudyProject.Video

/-- The exceptions a handler can end in. -/
inductive Throwable where
  | nullPointerException
  | runtimeException
  | illegalStateException
  | ioException
deriving DecidableEq, Repr

/-- `CameraInfo.CAMERA_FACING_BACK` and `CAMERA_FACING_FRONT`. -/
inductive CameraFacing where
  | back
  | front
deriving DecidableEq, Repr

/-! ### Cameras -/

inductive CameraMethod where
  | stopPreview
  | setPreviewDisplay
  | setDisplayOrientation
  | getParameters
  | setParameters
  | startPreview
  | unlock
  | takePicture
  | release
deriving DecidableEq, Repr

/-- A camera from `Camera.open`: whether it is released, whether the activity holds its lock, and
whether a picture was requested and not delivered yet. -/
structure Camera where
  released : Bool := false
  locked : Bool := true
  pending : Bool := false
deriving DecidableEq, Repr

def Camera.Open (c : Camera) : Prop := c.released = false

instance (c : Camera) : Decidable c.Open := inferInstanceAs (Decidable (_ = _))

/-- The calls that throw: any but `release` on a released camera, and `unlock` and `takePicture`
without the lock. -/
def Camera.refuses (c : Camera) : CameraMethod → Bool
  | .release => false
  | .unlock | .takePicture => c.released || !c.locked
  | _ => c.released

/-- What a call that does not throw does to the camera. -/
def Camera.call (c : Camera) : CameraMethod → Camera
  | .unlock => { c with locked := false }
  | .takePicture => { c with pending := true }
  | .release => { c with released := true }
  | _ => c

/-- A successful `MediaRecorder.start` takes the lock back. -/
def Camera.lock (c : Camera) : Camera := { c with locked := true }

def Camera.delivered (c : Camera) : Camera := { c with pending := false }

/-- A call of a camera method, with the camera as it was just before (`none`: a null reference). -/
structure CameraCall where
  receiver : Option Camera
  method : CameraMethod
deriving DecidableEq, Repr

/-- The camera's protocol: the camera is there and not released, `unlock` and `takePicture` are
called with the lock held, and `release` with no picture outstanding. -/
def CameraCall.Legal : CameraCall → Prop
  | ⟨none, _⟩ => False
  | ⟨some c, method⟩ =>
    c.released = false ∧ (method = .unlock ∨ method = .takePicture → c.locked = true) ∧
      (method = .release → c.pending = false)

instance : DecidablePred CameraCall.Legal
  | ⟨none, _⟩ => .isFalse id
  | ⟨some _, _⟩ => inferInstanceAs (Decidable (_ ∧ _))

/-! ### Recorders, players and timers -/

inductive RecorderState where
  | initial
  | prepared
  | started
  | released
deriving DecidableEq, Repr

structure MediaRecorder where
  state : RecorderState := .initial
  camera : Option Nat := none
deriving DecidableEq, Repr

def MediaRecorder.setState (r : MediaRecorder) (state : RecorderState) : MediaRecorder :=
  { r with state }

def MediaRecorder.setCamera (r : MediaRecorder) (camera : Option Nat) : MediaRecorder :=
  { r with camera }

/-- A player.  `new MediaPlayer()` is idle; `MediaPlayer.create` prepares the player it returns. -/
structure MediaPlayer where
  prepared : Bool := false
  started : Bool := false
  released : Bool := false
deriving DecidableEq, Repr

def MediaPlayer.Alive (p : MediaPlayer) : Prop := p.released = false

instance (p : MediaPlayer) : Decidable p.Alive := inferInstanceAs (Decidable (_ = _))

def MediaPlayer.start (p : MediaPlayer) : MediaPlayer := { p with started := true }

def MediaPlayer.reset (p : MediaPlayer) : MediaPlayer :=
  { p with prepared := false, started := false }

def MediaPlayer.release (p : MediaPlayer) : MediaPlayer := { p with released := true }

/-- A timer.  One tick that is already executing when the timer is cancelled may complete later:
`late` says that it has not yet. -/
structure Timer where
  cancelled : Bool := false
  late : Bool := false
deriving DecidableEq, Repr

def Timer.Live (t : Timer) : Prop := t.cancelled = false

instance (t : Timer) : Decidable t.Live := inferInstanceAs (Decidable (_ = _))

def Timer.cancel (t : Timer) : Timer :=
  if t.cancelled then t else { cancelled := true, late := true }

def Timer.canTick (t : Timer) : Bool := !t.cancelled || t.late

/-- The timer after a tick, which is the last one where the timer is cancelled. -/
def Timer.tick (t : Timer) : Timer := { t with late := false }

/-- The runnables the activity posts to the main thread. -/
inductive Runnable where
  | updateProgress
  | sendVideo
deriving DecidableEq, Repr

/-- The two calls that begin and end a recording: a successful `mMediaRecorder.start()`, and
`recordStop`. -/
inductive RecordCall where
  | start
  | recordStop
deriving DecidableEq, Repr

end StudyProject.Video
