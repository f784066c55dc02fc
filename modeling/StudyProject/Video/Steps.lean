import StudyProject.Video.Throws

/-! What a completed step of a run does, with the exact world it ends in.  `Done` has one case for
each way a handler can complete, so an invariant of completed steps is one case analysis. -/

namespace StudyProject.Video

open StudyProject.Library StudyProject.Library.Objects StudyProject.Library.Handler

variable {s t : World} {i : Input} {env : Env}

/-- The world after an `openVideo` that completed. -/
def World.reopened (s : World) (env : Env) (spacing : CameraFacing) : World :=
  if s.isPlay || s.isTake then s else s.opened env spacing

/-- The player that plays is released, before a new session. -/
def World.playerStopped (s : World) : World := if s.isPlay then s.playerReleased else s

/-- The world after a click on `btn`. -/
def World.restarted (s : World) (env : Env) : World :=
  { { s.playerStopped with isPlay := false, isTake := false }.opened env .back with
    views := s.views.restart s.cameraCount }

/-- The worlds in which a step on `i` can complete. -/
inductive Done (s : World) (i : Input) : World → Prop
  | idle (event : i.event = .actionCancel ∨ i.event = .onClick .btn2 ∨
      i.event = .onResume ∧ s.isPause = false ∨ i.event = .actionDown ∧ s.isRecording = true) :
      Done s i s
  | surfaceCreated (holder : Nat) (event : i.event = .surfaceCreated holder) :
      Done s i
        (World.reopened { s with mSurfaceHolder := some holder } i.env s.currentCameraSpacing)
  | surfaceChanged (holder : Nat) (event : i.event = .surfaceChanged holder) :
      Done s i { s with mSurfaceHolder := some holder }
  | surfaceDestroyed (event : i.event = .surfaceDestroyed) :
      Done s i s.paused.released.playerReleased
  | resumed (event : i.event = .onResume) (pause : s.isPause = true) (quiet : s.isPlay = false) :
      Done s i (World.reopened { s with isPause := false } i.env s.currentCameraSpacing)
  | replayed (event : i.event = .onResume) (pause : s.isPause = true) (play : s.isPlay = true)
      (file : s.fileName.isSome = true) : Done s i (World.played { s with isPause := false })
  | noCamera (event : i.event = .actionDown) (idle : s.isRecording = false)
      (starts : s.pressStarts i.env = false) (null : s.mCamera = none) : Done s i
        { s.pressed i.env with
          recorders := update s.mMediaRecorder (·.setState .released) s.recorders
          mMediaRecorder := none }
  | failed {c : Camera} (event : i.event = .actionDown) (idle : s.isRecording = false)
      (starts : s.pressStarts i.env = false) (camera : s.camera = some c)
      (accepts : c.refuses .unlock = false) :
      Done s i (((s.pressed i.env).unlocked c).unprepared i.env)
  | started {c : Camera} (event : i.event = .actionDown) (idle : s.isRecording = false)
      (starts : s.pressStarts i.env = true) (camera : s.camera = some c)
      (accepts : c.refuses .unlock = false) :
      Done s i (s.started i.env c)
  | played (queue : List Runnable) (stops : s.stops i.event = true)
      (slow : ¬i.env.now - s.time < 1000) (file : s.fileName.isSome = true) :
      Done s i { (World.stopped { s with queue } i.env).released.played with
        views := (s.stopped i.env).views.review }
  | pictured {c : Camera} (queue : List Runnable) (stops : s.stops i.event = true)
      (quick : i.env.now - s.time < 1000) (camera : s.camera = some c)
      (accepts : c.refuses .takePicture = false) :
      Done s i { ((World.stopped { s with queue } i.env).pictured c).released with
        views := (s.stopped i.env).views.review }
  | ticked (n : Nat) (event : i.event = .tick n) : Done s i
      { s with
        timers := update (some n) Timer.tick s.timers
        mTimeCount := s.mTimeCount + 1
        queue := s.queue ++ tickPosts (s.mTimeCount + 1)
        posted := s.posted ++ tickPosts (s.mTimeCount + 1) }
  | showed (queue : List Runnable) (event : i.event = .dispatch)
      (going : s.stops i.event = false) : Done s i
      { s with
        queue
        views := { s.views with customProgress := s.views.customProgress.setProgress s.mTimeCount }
        shown := s.shown ++ [s.mTimeCount] }
  | restarted (event : i.event = .onClick .btn) : Done s i (s.restarted i.env)
  | finished (event : i.event = .onClick .imgFinish) : Done s i { s with finishing := true }
  | turned (event : i.event = .onClick .imgChangeCamera) : Done s i
      ((World.released { s with currentCameraSpacing := s.currentCameraSpacing.other }).reopened
        i.env s.currentCameraSpacing.other)
  | playerStarted (p : Option Nat)
      (event : (∃ q, i.event = .onCompletion q) ∨ ∃ q, i.event = .onPrepared q) :
      Done s i { s with players := update p MediaPlayer.start s.players }

/-! ### The handlers -/

theorem openVideo_done {spacing : CameraFacing}
    (completed : (ended ((openVideo env spacing).run s)).crash = none) :
    (openVideo env spacing).run s = .ok () (s.reopened env spacing) := by
  unfold World.reopened
  cases play : s.isPlay with
  | true => exact openVideo_busy (.inl play) spacing
  | false =>
    cases take : s.isTake with
    | true => exact openVideo_busy (.inr take) spacing
    | false =>
      cases opens : env.opens with
      | true => exact openVideo_ok play take opens spacing
      | false =>
        rw [openVideo_throws play take opens] at completed
        simp [ended] at completed

theorem onClick_btn_done (inv : s.PlayerInv)
    (completed : (ended ((onClick env .btn).run s)).crash = none) :
    (onClick env .btn).run s = .ok () (s.restarted env) := by
  have reopen (w : World) (play : w.isPlay = false) (take : w.isTake = false)
      (completed : (ended ((do
        openVideo env .back
        modify fun s => { s with views := s.views.restart s.cameraCount } : Handler Unit).run
          w)).crash = none) :
      (do
        openVideo env .back
        modify fun s => { s with views := s.views.restart s.cameraCount } : Handler Unit).run w =
        .ok () { w.opened env .back with views := w.views.restart w.cameraCount } := by
    cases opens : env.opens with
    | true =>
      rw [bind_ok (openVideo_ok play take opens _)]
      rfl
    | false =>
      rw [bind_error (openVideo_throws play take opens _)] at completed
      simp [ended] at completed
  unfold onClick at completed ⊢
  rw [get_bind] at completed ⊢
  unfold World.restarted World.playerStopped
  by_cases play : s.isPlay = true
  · rw [if_pos play, bind_ok (releaseMediaPlayer_ok inv.canStop), modify_bind] at completed ⊢
    rw [if_pos play]
    exact reopen _ rfl rfl completed
  · rw [if_neg play, modify_bind] at completed ⊢
    rw [if_neg play]
    exact reopen _ rfl rfl completed

theorem onResume_done (event : i.event = .onResume) (inv : s.PlayerInv) (running : s.crash = none)
    (completed : (ended ((onResume i.env).run s)).crash = none) :
    Done s i (ended ((onResume i.env).run s)) := by
  cases pause : s.isPause with
  | false =>
    rw [onResume_idle pause]
    exact .idle (.inr (.inr (.inl ⟨event, pause⟩)))
  | true =>
    cases play : s.isPlay with
    | true =>
      rw [onResume_play pause play] at completed ⊢
      have plays : World.playThrows { s with isPause := false } i.env = false :=
        ((playVideo_playing i.env { s with isPause := false }).crash running).mp completed
      simp only [World.playThrows, Bool.or_eq_false_iff, Bool.not_eq_false'] at plays
      obtain ⟨f, file⟩ := Option.isSome_iff_exists.mp (inv.file play)
      rw [playVideo_ok (by exact file) plays.2]
      exact .replayed event pause play (inv.file play)
    | false =>
      rw [onResume_open pause play] at completed ⊢
      by_cases take : s.isTake = true
      · rw [if_neg (by simp [take])]
        have same : World.reopened { s with isPause := false } i.env s.currentCameraSpacing =
            { s with isPause := false } := if_pos (by simp [take])
        have done := Done.resumed (i := i) event pause play
        rwa [same] at done
      · rw [if_pos (by simp [take])] at completed ⊢
        rw [openVideo_done completed]
        exact .resumed event pause play

theorem Press.done {r : EStateM.Result Throwable World Unit} (press : Press i.env s r)
    (event : i.event = .actionDown) (idle : s.isRecording = false)
    (starts : (ended r).isRecording = s.pressStarts i.env) (completed : (ended r).crash = none) :
    Done s i (ended r) := by
  cases press with
  | noCamera null => exact .noCamera event idle (starts.symm.trans idle) null
  | failed camera accepts => exact .failed event idle (starts.symm.trans idle) camera accepts
  | started camera accepts => exact .started event idle starts.symm camera accepts
  | refused => simp [ended] at completed
  | threw => simp [ended] at completed

theorem Stop.done {r : EStateM.Result Throwable World Unit} {queue : List Runnable}
    (stop : Stop i.env { s with queue } r) (stops : s.stops i.event = true)
    (completed : (ended r).crash = none) : Done s i (ended r) := by
  cases stop with
  | played slow file =>
    exact .played queue stops slow (Option.isSome_iff_exists.mpr ⟨_, file⟩)
  | noFile => simp [ended] at completed
  | null => simp [ended] at completed
  | pictured quick camera accepts => exact .pictured queue stops quick camera accepts
  | noCamera => simp [ended] at completed
  | refused => simp [ended] at completed

theorem lifecycle_done (h : s.Reached) (running : s.crash = none) (able : s.enabled i.event = true)
    (lifecycle : i.event.isLifecycle = true)
    (completed : (ended ((handle i.env i.event).run s)).crash = none) :
    Done s i (ended ((handle i.env i.event).run s)) := by
  have inv := h.players running
  cases event : i.event with
  | surfaceCreated holder =>
    rw [event] at completed
    unfold handle surfaceCreated at completed ⊢
    rw [modify_bind, get_bind] at completed ⊢
    rw [openVideo_done completed]
    exact .surfaceCreated holder event
  | surfaceChanged holder => exact .surfaceChanged holder event
  | surfaceDestroyed =>
    rw [handle, surfaceDestroyed_ok inv.canStop]
    exact .surfaceDestroyed event
  | onResume =>
    rw [event] at completed
    exact onResume_done event inv running completed
  | actionCancel => exact .idle (.inl event)
  | onClick id =>
    rw [event] at completed
    cases id with
    | btn =>
      unfold handle at completed ⊢
      rw [onClick_btn_done inv completed]
      exact .restarted event
    | btn2 => exact .idle (.inr (.inl event))
    | imgFinish => exact .finished event
    | imgChangeCamera =>
      unfold handle onClick at completed ⊢
      rw [modify_bind, bind_ok (releaseCamera_eq _), get_bind] at completed ⊢
      rw [openVideo_done completed]
      exact .turned event
  | onPictureTaken n =>
    rw [event, h.cameras.no_picture n] at able
    simp at able
  | onCompletion p => exact .playerStarted (some p) (.inl ⟨p, event⟩)
  | onPrepared p =>
    rw [event] at completed
    unfold handle onPrepared at completed ⊢
    rw [get_bind] at completed ⊢
    cases field : s.mediaPlayer with
    | none =>
      rw [field] at completed
      simp [ended] at completed
    | some q =>
      simp only [Option.isNone_some, Bool.false_eq_true, ↓reduceIte]
      exact .playerStarted s.mediaPlayer (.inr ⟨p, event⟩)
  | _ => simp [event, Event.isLifecycle] at lifecycle

/-- A step of a run that completes ends in one of the worlds of `Done`. -/
theorem step_done (h : s.Reached) (stepped : step s i = some t) (completed : t.crash = none) :
    Done s i t := by
  obtain ⟨running, able, ends⟩ := step_eq stepped
  cases step_outcome stepped with
  | lifecycle lifecycle => exact lifecycle_done h running able lifecycle completed
  | recording event recording => exact .idle (.inr (.inr (.inr ⟨event, recording⟩)))
  | press event idle press =>
    rw [event, handle] at ends
    rw [ends] at completed
    refine press.done event idle ?_ (ends ▸ completed)
    rw [ends]
    exact (onTouchDown_ends h.cameras running idle).2 completed
  | stop queue stops stop => exact stop.done stops completed
  | tick n event => exact .ticked n event
  | progress queue event going => exact .showed queue event going

/-! ### Runs -/

section Runs

variable (cameraCount : Nat) (progress : CustomProgress) {I : World → Prop}

theorem run_reached (run : List Input) :
    (Machine.final step (initView cameraCount progress) run).Reached :=
  Machine.invariant (fun _ _ _ h stepped => World.Reached.step h stepped) (initView_reached _ _) run

/-- The invariant of a run, for a property of the worlds between completed handlers. -/
def World.ReachedWith (I : World → Prop) (s : World) : Prop := s.Reached ∧ (s.crash = none → I s)

theorem World.ReachedWith.step
    (keeps : ∀ s i t, World.Reached s → s.crash = none → I s → Done s i t → I t)
    (h : s.ReachedWith I) (stepped : Video.step s i = some t) : t.ReachedWith I :=
  ⟨h.1.step stepped, fun completed =>
    have running := (step_eq stepped).1
    keeps s i t h.1 running (h.2 running) (step_done h.1 stepped completed)⟩

/-- What holds at first, and what every completed step keeps, holds between the handlers. -/
theorem done_invariant
    (keeps : ∀ s i t, World.Reached s → s.crash = none → I s → Done s i t → I t)
    (start : I (initView cameraCount progress)) (run : List Input) :
    (Machine.final step (initView cameraCount progress) run).ReachedWith I :=
  Machine.invariant (fun _ _ _ h stepped => World.ReachedWith.step keeps h stepped)
    ⟨initView_reached _ _, fun _ => start⟩ run

end Runs

/-- After an exception there is no step, so a run that ends without one has none. -/
theorem steps_completed {run : List Input} (completed : (Machine.final step s run).crash = none) :
    ∀ x ∈ Machine.steps step s run, x.after.crash = none := by
  induction run generalizing s with
  | nil => simp
  | cons i run ih =>
    rw [Machine.final_cons] at completed
    cases h : step s i with
    | none =>
      rw [Machine.next_none h] at completed
      rw [Machine.steps_cons_none h]
      exact ih completed
    | some t =>
      rw [Machine.next_some h] at completed
      rw [Machine.steps_cons_some h, List.forall_mem_cons]
      refine ⟨?_, ih completed⟩
      by_contra crashed
      have stuck (run : List Input) : Machine.final step t run = t := by
        induction run with
        | nil => rfl
        | cons j run ih =>
          have no_step : step t j = none := by
            cases next : step t j with
            | none => rfl
            | some u => exact absurd (step_eq next).1 crashed
          rw [Machine.final_cons, Machine.next_none no_step, ih]
      rw [stuck run] at completed
      exact crashed completed

end StudyProject.Video
