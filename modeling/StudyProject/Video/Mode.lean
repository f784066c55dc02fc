import StudyProject.Library.Simulation
import StudyProject.Video.Steps

/-! What the activity is for, as a machine of three modes: it shows the camera, records, or shows
what was recorded.  Each run of the activity is a run of that machine, and the screen shows the
mode. -/

namespace StudyProject.Video

open StudyProject.Library StudyProject.Library.Objects
open StudyProject.Widget (Visibility)

variable {s t : World} {i : Input}

inductive Mode where
  | preview
  | recording
  | review
deriving DecidableEq, Repr

/-- What changes the mode: a recording starts, it is stopped, or `btn` asks for a new session. -/
inductive ModeCall where
  | start
  | stop
  | restart
deriving DecidableEq, Repr

/-- The mode after a call, where `none` stands for anything else.  A recording starts in preview
only, and a recording ends in review only. -/
def Mode.act : Mode → Option ModeCall → Option Mode
  | m, none => some m
  | .preview, some .start => some .recording
  | _, some .start => none
  | _, some .stop => some .review
  | .recording, some .restart => some .recording
  | _, some .restart => some .preview

def World.mode (s : World) : Mode :=
  if s.isPlay || s.isTake then .review else if s.isRecording then .recording else .preview

/-- What the event does to the mode. -/
def World.modeCall (s : World) (i : Input) : Option ModeCall :=
  match i.event with
  | .actionDown => if s.pressStarts i.env then some .start else none
  | .onClick .btn => some .restart
  | _ => if s.stops i.event then some .stop else none

/-! ### The steps -/

/-- While the activity records there is nothing to look at. -/
def World.RecordingOnly (s : World) : Prop :=
  s.isRecording = true → s.isPlay = false ∧ s.isTake = false

theorem mode_preview (recording : s.isRecording = false) (play : s.isPlay = false)
    (take : s.isTake = false) : s.mode = .preview := by
  simp [World.mode, play, take, recording]

theorem mode_review (busy : s.isPlay = true ∨ s.isTake = true) : s.mode = .review := by
  rcases busy with h | h <;> simp [World.mode, h]

theorem mode_congr (recording : t.isRecording = s.isRecording) (play : t.isPlay = s.isPlay)
    (take : t.isTake = s.isTake) : t.mode = s.mode := by
  simp only [World.mode, recording, play, take]

theorem World.RecordingOnly.congr (h : s.RecordingOnly) (recording : t.isRecording = s.isRecording)
    (play : t.isPlay = s.isPlay) (take : t.isTake = s.isTake) : t.RecordingOnly := by
  unfold World.RecordingOnly
  rw [recording, play, take]
  exact h

@[simp] theorem reopened_isRecording (s : World) (env : Env) (spacing : CameraFacing) :
    (s.reopened env spacing).isRecording = s.isRecording := by
  unfold World.reopened
  split <;> rfl

@[simp] theorem reopened_isPlay (s : World) (env : Env) (spacing : CameraFacing) :
    (s.reopened env spacing).isPlay = s.isPlay := by
  unfold World.reopened
  split <;> rfl

@[simp] theorem reopened_isTake (s : World) (env : Env) (spacing : CameraFacing) :
    (s.reopened env spacing).isTake = s.isTake := by
  unfold World.reopened
  split <;> rfl

@[simp] theorem restarted_isRecording (s : World) (env : Env) :
    (s.restarted env).isRecording = s.isRecording := by
  unfold World.restarted World.playerStopped
  split <;> rfl

/-- A camera in the field shows that there is nothing to look at. -/
theorem World.Reached.quiet (h : s.Reached) (running : s.crash = none)
    (held : s.mCamera.isSome = true) : s.isPlay = false ∧ s.isTake = false := by
  have review : ¬(s.isPlay = true ∨ s.isTake = true) := by
    intro busy
    rw [h.cameras.exclusive running busy] at held
    simp at held
  simpa using review

/-- A press that starts a recording finds a camera, so it comes in preview. -/
theorem World.Reached.preview_of_starts {env : Env} (h : s.Reached) (running : s.crash = none)
    (starts : s.pressStarts env = true) : s.mode = .preview := by
  unfold World.pressStarts at starts
  simp only [Bool.and_eq_true, Bool.not_eq_true'] at starts
  obtain ⟨⟨⟨⟨idle, locked⟩, -⟩, -⟩, -⟩ := starts
  have held : s.mCamera.isSome = true := by
    cases null : s.mCamera with
    | none => simp [cameraLocked_of_none null] at locked
    | some k => rfl
  obtain ⟨play, take⟩ := h.quiet running held
  exact mode_preview idle play take

theorem modeCall_of_stops (stops : s.stops i.event = true) : s.modeCall i = some .stop := by
  unfold World.modeCall
  split
  · rename_i event
    simp [event, World.stops] at stops
  · rename_i event
    simp [event, World.stops] at stops
  · rw [if_pos stops]

/-- An event that is no press, no stop and no click on `btn` leaves the mode alone. -/
theorem modeCall_none (press : i.event ≠ .actionDown) (click : i.event ≠ .onClick .btn)
    (going : s.stops i.event = false) : s.modeCall i = none := by
  unfold World.modeCall
  split
  · rename_i event
    exact absurd event press
  · rename_i event
    exact absurd event click
  · rw [if_neg (by simp [going])]

/-- The step follows the modes, and leaves nothing to look at while the activity records. -/
def ModeStep (s : World) (i : Input) (t : World) : Prop :=
  s.mode.act (s.modeCall i) = some t.mode ∧ t.RecordingOnly

theorem ModeStep.same (only : s.RecordingOnly) (call : s.modeCall i = none)
    (recording : t.isRecording = s.isRecording) (play : t.isPlay = s.isPlay)
    (take : t.isTake = s.isTake) : ModeStep s i t :=
  ⟨by rw [call, mode_congr recording play take]; rfl, only.congr recording play take⟩

theorem ModeStep.stop (stops : s.stops i.event = true) (recording : t.isRecording = false)
    (busy : t.isPlay = true ∨ t.isTake = true) : ModeStep s i t := by
  refine ⟨?_, fun on => by simp [recording] at on⟩
  rw [modeCall_of_stops stops, mode_review busy]
  cases s.mode <;> rfl

theorem ModeStep.failedPress (only : s.RecordingOnly) (event : i.event = .actionDown)
    (starts : s.pressStarts i.env = false) (recording : t.isRecording = s.isRecording)
    (play : t.isPlay = s.isPlay) (take : t.isTake = s.isTake) : ModeStep s i t :=
  .same only (by simp [World.modeCall, event, starts]) recording play take

theorem Done.modeStep (done : Done s i t) (h : s.Reached) (running : s.crash = none)
    (only : s.RecordingOnly) : ModeStep s i t := by
  cases done with
  | idle event =>
    rcases event with event | event | ⟨event, -⟩ | ⟨event, recording⟩
    · exact .same only (by simp [World.modeCall, event, World.stops]) rfl rfl rfl
    · exact .same only (by simp [World.modeCall, event, World.stops]) rfl rfl rfl
    · exact .same only (by simp [World.modeCall, event, World.stops]) rfl rfl rfl
    · exact .failedPress only event (by simp [World.pressStarts, recording]) rfl rfl rfl
  | surfaceCreated holder event =>
    exact .same only (by simp [World.modeCall, event, World.stops]) (by simp) (by simp) (by simp)
  | surfaceChanged holder event =>
    exact .same only (by simp [World.modeCall, event, World.stops]) rfl rfl rfl
  | surfaceDestroyed event =>
    exact .same only (by simp [World.modeCall, event, World.stops]) rfl rfl rfl
  | resumed event pause quiet =>
    exact .same only (by simp [World.modeCall, event, World.stops]) (by simp) (by simp) (by simp)
  | replayed event pause play =>
    exact .same only (by simp [World.modeCall, event, World.stops]) rfl play.symm rfl
  | noCamera event idle starts => exact .failedPress only event starts rfl rfl rfl
  | failed event idle starts => exact .failedPress only event starts rfl rfl rfl
  | @started c event idle starts camera =>
    have held : s.mCamera.isSome = true := by simpa using camera_isSome camera
    obtain ⟨play, take⟩ := h.quiet running held
    refine ⟨?_, fun _ => ⟨play, take⟩⟩
    have after : (s.started i.env c).mode = .recording := by
      simp [World.mode, World.started, play, take]
    rw [h.preview_of_starts running starts, after]
    simp [World.modeCall, event, starts, Mode.act]
  | played queue stops => exact .stop stops rfl (.inl rfl)
  | pictured queue stops quick => exact .stop stops rfl (.inr (decide_eq_true quick))
  | ticked n event => exact .same only (by simp [World.modeCall, event, World.stops]) rfl rfl rfl
  | showed queue event going =>
    exact .same only (modeCall_none (by simp [event]) (by simp [event]) going) rfl rfl rfl
  | restarted event =>
    have call : s.modeCall i = some .restart := by simp [World.modeCall, event]
    refine ⟨?_, fun _ => ⟨rfl, rfl⟩⟩
    rw [call]
    cases recording : s.isRecording with
    | false =>
      have after : (s.restarted i.env).mode = .preview :=
        mode_preview (by simp [recording]) rfl rfl
      rw [after]
      unfold World.mode
      split
      · rfl
      · simp [recording, Mode.act]
    | true =>
      have after : (s.restarted i.env).mode = .recording := by
        simp [World.mode, recording, show (s.restarted i.env).isPlay = false from rfl,
          show (s.restarted i.env).isTake = false from rfl]
      have before : s.mode = .recording := by
        simp [World.mode, recording, only recording]
      rw [after, before]
      rfl
  | finished event => exact .same only (by simp [World.modeCall, event, World.stops]) rfl rfl rfl
  | turned event =>
    exact .same only (by simp [World.modeCall, event, World.stops]) (by simp; rfl) (by simp; rfl)
      (by simp; rfl)
  | playerStarted p event =>
    refine .same only ?_ rfl rfl rfl
    rcases event with ⟨q, event⟩ | ⟨q, event⟩ <;> simp [World.modeCall, event, World.stops]

/-! ### The runs -/

variable (cameraCount : Nat) (progress : CustomProgress)

/-- A run without an exception is a run of the modes. -/
theorem modes_followed (run : List Input)
    (completed : (Machine.final step (initView cameraCount progress) run).crash = none) :
    Machine.follow Mode.act .preview
        ((Machine.steps step (initView cameraCount progress) run).map
          fun x => x.before.modeCall x.event) =
      some (Machine.final step (initView cameraCount progress) run).mode :=
  Machine.follow_run (I := World.ReachedWith World.RecordingOnly)
    (C := fun x => x.after.crash = none)
    (fun _ _ _ h stepped _ => h.step
      (fun _ _ _ h running only done => (done.modeStep h running only).2) stepped)
    (fun _ _ _ h stepped completed =>
      have running := (step_eq stepped).1
      ((step_done h.1 stepped completed).modeStep h.1 running (h.2 running)).1)
    ⟨initView_reached _ _, fun _ on => by simp [initView] at on⟩ run
    (steps_completed completed)

/-- A recording of two seconds and a click on `btn`, in modes. -/
theorem modes_followed_once :
    (Machine.final step (initView 2 (.initAttrs 78 78 1 {}))
        [⟨.surfaceCreated 0, {}⟩, ⟨.actionDown, {}⟩, ⟨.actionUp, { now := 2000 }⟩,
          ⟨.onClick .btn, {}⟩]).crash = none ∧
      Machine.follow Mode.act .preview [none, some .start, some .stop, some .restart] =
        some .preview :=
  ⟨rfl, modes_followed 2 (.initAttrs 78 78 1 {})
    [⟨.surfaceCreated 0, {}⟩, ⟨.actionDown, {}⟩, ⟨.actionUp, { now := 2000 }⟩,
      ⟨.onClick .btn, {}⟩] rfl⟩

/-- The calls of a run from `s`. -/
def modeCalls (s : World) (run : List Input) : List (Option ModeCall) :=
  (Machine.steps step s run).map fun x => x.before.modeCall x.event

theorem modeCalls_append (s : World) (run later : List Input) :
    modeCalls s (run ++ later) = modeCalls s run ++ modeCalls (Machine.final step s run) later := by
  rw [modeCalls, Machine.steps_append, List.map_append]
  rfl

theorem restart_of_modeCall (h : s.modeCall i = some .restart) : i.event = .onClick .btn := by
  unfold World.modeCall at h
  split at h
  · split at h <;> simp at h
  · assumption
  · split at h <;> simp at h

/-- Without a click on `btn` a review goes on. -/
theorem review_goes_on {calls : List (Option ModeCall)} {m : Mode}
    (none_restarts : ∀ call ∈ calls, call ≠ some .restart)
    (followed : Machine.follow Mode.act .review calls = some m) : m = .review := by
  refine Machine.follow_invariant (I := (· = .review)) (C := (· ≠ some .restart)) ?_ rfl
    none_restarts followed
  rintro _ call next rfl other act
  rcases call with _ | call
  · exact (Option.some.inj act).symm
  · cases call with
    | start => simp [Mode.act] at act
    | stop => exact (Option.some.inj act).symm
    | restart => exact absurd rfl other

/-- A run that ends without an exception had none before. -/
theorem completed_of_append {run later : List Input}
    (completed : (Machine.final step s (run ++ later)).crash = none) :
    (Machine.final step s run).crash = none := by
  cases running : (Machine.final step s run).crash with
  | none => rfl
  | some e =>
    rw [Machine.final_append] at completed
    have stuck : (Machine.final step (Machine.final step s run) later).crash = some e :=
      Machine.invariant (I := fun w : World => w.crash = some e)
        (fun _ _ _ crashed stepped => by simp [(step_eq stepped).1] at crashed) running later
    rw [stuck] at completed
    simp at completed

theorem step_of_enabled (running : s.crash = none) (able : s.enabled i.event = true) :
    ∃ t, step s i = some t :=
  ⟨_, if_pos (by rw [running, able]; rfl)⟩

theorem enabled_of_stops (stops : s.stops i.event = true) : s.enabled i.event = true := by
  cases event : i.event with
  | dispatch =>
    rw [event] at stops
    cases queue : s.queue with
    | nil => simp [World.stops, queue] at stops
    | cons r rest => simp [World.enabled, queue]
  | actionUp => rfl
  | _ => simp [event, World.stops] at stops

/-- Between a stop and the next start of a recording there is a click on `btn`. -/
theorem restart_between (before between : List Input) (i : Input) (env : Env)
    (stops : (Machine.final step (initView cameraCount progress) before).stops i.event = true)
    (completed :
      (Machine.final step (initView cameraCount progress) (before ++ i :: between)).crash = none)
    (starts : (Machine.final step (initView cameraCount progress)
      (before ++ i :: between)).pressStarts env = true) :
    ∃ k ∈ between, k.event = .onClick .btn := by
  by_contra none_clicks
  push Not at none_clicks
  have followed := modes_followed cameraCount progress (before ++ i :: between) completed
  change Machine.follow _ _ (modeCalls _ _) = _ at followed
  rw [modeCalls_append, Machine.follow_append, Option.bind_eq_some_iff] at followed
  obtain ⟨m, -, followed⟩ := followed
  have running := completed_of_append completed
  obtain ⟨t, stepped⟩ := step_of_enabled running (enabled_of_stops stops)
  rw [modeCalls, Machine.steps_cons_some stepped, List.map_cons, modeCall_of_stops stops,
    Machine.follow_cons, show m.act (some .stop) = some .review by cases m <;> rfl,
    Option.bind_some] at followed
  have review := review_goes_on (fun call mem restart => by
    obtain ⟨x, stepped, rfl⟩ := List.mem_map.mp mem
    exact none_clicks _ (Machine.event_mem stepped) (restart_of_modeCall restart)) followed
  have reached := run_reached cameraCount progress (before ++ i :: between)
  rw [reached.preview_of_starts completed starts] at review
  simp at review

/-- A second recording, after a click on `btn`. -/
theorem restart_between_once :
    ((Machine.final step (initView 2 (.initAttrs 78 78 1 {}))
        [⟨.surfaceCreated 0, {}⟩, ⟨.actionDown, {}⟩]).stops .actionUp = true ∧
      (Machine.final step (initView 2 (.initAttrs 78 78 1 {}))
        ([⟨.surfaceCreated 0, {}⟩, ⟨.actionDown, {}⟩] ++ ⟨.actionUp, { now := 2000 }⟩ ::
          [⟨.onClick .btn, {}⟩])).pressStarts {} = true) ∧
      ∃ k ∈ [(⟨.onClick .btn, {}⟩ : Input)], k.event = .onClick .btn :=
  ⟨⟨rfl, rfl⟩, restart_between 2 (.initAttrs 78 78 1 {})
    [⟨.surfaceCreated 0, {}⟩, ⟨.actionDown, {}⟩] [⟨.onClick .btn, {}⟩]
    ⟨.actionUp, { now := 2000 }⟩ {} rfl rfl rfl⟩

end StudyProject.Video
