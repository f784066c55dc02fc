import StudyProject.Video.Lifecycle

/-! The recording session as a machine of its own.  `Move` lists what a step of the activity can do
to the session: nothing, a press that fails, a start, a stop, a tick, or showing the progress. -/

namespace StudyProject.Video

open StudyProject.Library StudyProject.Library.Objects StudyProject.Library.Handler

variable {s t : World} {i : Input}

/-- The recording session, apart from the camera, the recorder and the player. -/
structure Session where
  isRecording : Bool
  mTimer : Option Nat
  timers : List Timer
  mTimeCount : BitVec 32
  time : Int
  fileName : Option String
  recordCalls : List RecordCall
  posted : List Runnable
  shown : List (BitVec 32)

def World.session (s : World) : Session :=
  { isRecording := s.isRecording, mTimer := s.mTimer, timers := s.timers, mTimeCount := s.mTimeCount
    time := s.time, fileName := s.fileName, recordCalls := s.recordCalls, posted := s.posted
    shown := s.shown }

@[simp] theorem ended_session (r : EStateM.Result Throwable World Unit) :
    (ended r).session = (state r).session := by
  rw [ended_eq]
  rfl

/-! ### What leaves the session alone -/

theorem session_bounds (env : Env) : Bounds (Same World.session) env where
  assign _ _ _ _ _ _ _ := rfl
  review _ _ := rfl
  delivered _ _ := rfl
  playerStarted _ _ := rfl
  playerReleased _ := rfl
  released _ := rfl
  opening s spacing r opening := by cases opening <;> rfl

/-- A lifecycle handler leaves the session alone, however it ends. -/
theorem session_of_lifecycle (env : Env) {e : Event} (lifecycle : e.isLifecycle = true)
    (s : World) : (state ((handle env e).run s)).session = s.session :=
  (session_bounds env).handle lifecycle (fun _ => .modify fun _ => rfl)
    (fun _ _ _ _ playing => by cases playing <;> rfl) s

theorem ended_of_lifecycle (env : Env) {e : Event} (lifecycle : e.isLifecycle = true) (s : World) :
    (ended ((handle env e).run s)).session = s.session := by
  rw [ended_session, session_of_lifecycle env lifecycle s]

/-! ### The moves -/

def Session.start (a : Session) (time : Int) (fileName : Option String) : Session :=
  { a with
    time, fileName
    isRecording := true
    recordCalls := a.recordCalls ++ [.start]
    mTimer := some a.timers.length
    timers := a.timers ++ [{}] }

def Session.stop (a : Session) : Session :=
  { a with
    isRecording := false
    timers := update a.mTimer Timer.cancel a.timers
    mTimeCount := 0
    recordCalls := a.recordCalls ++ [.recordStop]
    shown := a.shown ++ [0] }

def Session.tick (a : Session) (n : Nat) : Session :=
  { a with
    timers := update (some n) Timer.tick a.timers
    mTimeCount := a.mTimeCount + 1
    posted := a.posted ++ tickPosts (a.mTimeCount + 1) }

/-- What a step on an event can do to the session. -/
inductive Move (s : World) (e : Event) : Session → Prop
  | same (noTick : e.isTick = false) (going : s.stops e = false) : Move s e s.session
  | pressed (time : Int) (fileName : Option String) (event : e = .actionDown)
      (idle : s.isRecording = false) : Move s e { s.session with time, fileName }
  | started (time : Int) (fileName : Option String) (event : e = .actionDown)
      (idle : s.isRecording = false) : Move s e (s.session.start time fileName)
  | stopped (stops : s.stops e = true) : Move s e s.session.stop
  | showed (event : e = .dispatch) (going : s.stops e = false) :
      Move s e { s.session with shown := s.shown ++ [s.mTimeCount] }
  | ticked (n : Nat) (event : e = .tick n) : Move s e (s.session.tick n)

theorem Press.move {env : Env} {r : EStateM.Result Throwable World Unit} (h : Press env s r)
    (idle : s.isRecording = false) : Move s .actionDown (state r).session := by
  cases h with
  | noCamera => exact .pressed _ s.fileName rfl idle
  | failed => exact .pressed _ _ rfl idle
  | started => exact .started _ _ rfl idle
  | refused => exact .pressed _ s.fileName rfl idle
  | threw => exact .pressed _ _ rfl idle

theorem Stop.session {env : Env} {r : EStateM.Result Throwable World Unit} (h : Stop env s r) :
    (ended r).session = s.session.stop := by
  cases h <;> rfl

theorem step_move (h : step s i = some t) : Move s i.event t.session := by
  cases step_outcome h with
  | lifecycle lifecycle =>
    rw [ended_of_lifecycle i.env lifecycle s]
    exact .same (noTick_of_lifecycle lifecycle) (stops_of_lifecycle lifecycle s)
  | recording event recording => exact .same (by rw [event]; rfl) (by rw [event]; rfl)
  | press event idle press =>
    rw [ended_session, event]
    exact press.move idle
  | stop queue stops stop =>
    rw [stop.session]
    exact .stopped stops
  | tick n event => exact .ticked n event
  | progress queue event going => exact .showed event going

end StudyProject.Video
