import StudyProject.Video.Steps

/-! The activity's recorders.  Unlike the players none is ever left over: between the handlers the
only recorder that is not released is the one in the field, which is started.  And when the surface
goes away, the camera, the recorder and the player in the fields go with it. -/

namespace StudyProject.Video

open StudyProject.Library StudyProject.Library.Objects StudyProject.Library.Handler

variable {s t : World} {i : Input} {env : Env}

def MediaRecorder.Alive (r : MediaRecorder) : Prop := r.state ≠ .released

instance (r : MediaRecorder) : Decidable r.Alive := inferInstanceAs (Decidable (_ ≠ _))

/-- The recorder in the field is started and not released, no other one is alive, and while nothing
is recorded there is none. -/
structure World.RecordersHeld (s : World) : Prop where
  sole : Sole MediaRecorder.Alive s.recorders s.mMediaRecorder
  started : ∀ (m : Nat) (x : MediaRecorder),
    s.recorders[m]? = some x → x.Alive → x.state = .started
  idle : s.isRecording = false → s.mMediaRecorder = none

theorem MediaRecorder.release_dead (r : MediaRecorder) : ¬(r.setState .released).Alive :=
  fun alive => alive rfl

namespace World.RecordersHeld

/-- The recorder in the field is released, and the field cleared. -/
theorem retire (h : s.RecordersHeld)
    (recorders : t.recorders = update s.mMediaRecorder (·.setState .released) s.recorders)
    (field : t.mMediaRecorder = none) : t.RecordersHeld := by
  have sole := h.sole.retire (f := (·.setState .released)) MediaRecorder.release_dead
  rw [← recorders] at sole
  rw [← field] at sole
  refine ⟨sole, fun m x at_m alive => ?_, fun _ => field⟩
  rw [field] at sole
  exact absurd alive (sole.none_live at_m)

theorem congr (h : s.RecordersHeld) (recorders : t.recorders = s.recorders)
    (field : t.mMediaRecorder = s.mMediaRecorder) (recording : t.isRecording = s.isRecording) :
    t.RecordersHeld :=
  ⟨by rw [recorders, field]; exact h.sole, by rw [recorders]; exact h.started,
    by rw [recording, field]; exact h.idle⟩

theorem reopened (h : s.RecordersHeld) (spacing : CameraFacing) :
    (s.reopened env spacing).RecordersHeld := by
  unfold World.reopened
  split
  · exact h
  · exact h.congr rfl rfl rfl

/-- The new recorder of a press is the only one, since nothing was recorded before. -/
theorem alloc (h : s.RecordersHeld) (idle : s.isRecording = false) {x : MediaRecorder}
    (alive : x.Alive) :
    Sole MediaRecorder.Alive (s.recorders ++ [x]) (some s.recorders.length) := by
  have sole := h.sole
  rw [h.idle idle] at sole
  exact sole.alloc alive

theorem failed (h : s.RecordersHeld) (idle : s.isRecording = false) (c : Camera) :
    (((s.pressed env).unlocked c).unprepared env).RecordersHeld := by
  have alive : MediaRecorder.Alive { camera := s.mCamera } := fun dead => by simp at dead
  have sole := (h.alloc idle alive).retire
    (f := (·.setState .released)) MediaRecorder.release_dead
  exact ⟨sole, fun m x at_m alive => absurd alive (sole.none_live at_m), fun _ => rfl⟩

theorem start (h : s.RecordersHeld) (idle : s.isRecording = false) (c : Camera) :
    (s.started env c).RecordersHeld := by
  refine ⟨h.alloc idle fun dead => by simp at dead, fun m x at_m alive => ?_, fun off => ?_⟩
  · rcases getElem?_concat at_m with old | ⟨-, rfl⟩
    · exact h.started m x old alive
    · rfl
  · exact absurd (show true = false from off) (by decide)

theorem done (h : s.RecordersHeld) (done : Done s i t) : t.RecordersHeld := by
  cases done with
  | idle => exact h
  | surfaceCreated holder =>
    exact reopened (s := { s with mSurfaceHolder := some holder }) (h.congr rfl rfl rfl) _
  | surfaceChanged => exact h.congr rfl rfl rfl
  | surfaceDestroyed => exact h.retire rfl rfl
  | resumed =>
    exact reopened (s := { s with isPause := false }) (h.congr rfl rfl rfl) _
  | replayed => exact h.congr rfl rfl rfl
  | noCamera => exact h.retire rfl rfl
  | failed event idle => exact h.failed idle _
  | started event idle => exact h.start idle _
  | played => exact h.retire rfl rfl
  | pictured => exact h.retire rfl rfl
  | ticked => exact h.congr rfl rfl rfl
  | showed => exact h.congr rfl rfl rfl
  | restarted =>
    refine h.congr ?_ ?_ ?_ <;>
      (unfold World.restarted World.playerStopped; split <;> rfl)
  | finished => exact h.congr rfl rfl rfl
  | turned =>
    exact reopened
      (s := World.released { s with currentCameraSpacing := s.currentCameraSpacing.other })
      (h.congr rfl rfl rfl) _
  | playerStarted => exact h.congr rfl rfl rfl

end World.RecordersHeld

variable (cameraCount : Nat) (progress : CustomProgress)

theorem initView_recordersHeld : (initView cameraCount progress).RecordersHeld :=
  ⟨.nil, fun m x at_m => by simp [initView] at at_m, fun _ => rfl⟩

/-- Between the handlers of a run no recorder is left over: one that is not released is started and
held by the activity, and while nothing is recorded there is none. -/
theorem recorders_held (run : List Input)
    (completed : (Machine.final step (initView cameraCount progress) run).crash = none) :
    (Machine.final step (initView cameraCount progress) run).RecordersHeld :=
  (done_invariant cameraCount progress (fun _ _ _ _ _ h done => h.done done)
    (initView_recordersHeld _ _) run).2 completed

/-- The recorder of a recording that the background ended. -/
theorem recorders_held_background :
    (Machine.final step (initView 2 (.initAttrs 78 78 1 {}))
        [⟨.surfaceCreated 0, {}⟩, ⟨.actionDown, {}⟩, ⟨.surfaceDestroyed, {}⟩]).crash = none ∧
      (Machine.final step (initView 2 (.initAttrs 78 78 1 {}))
        [⟨.surfaceCreated 0, {}⟩, ⟨.actionDown, {}⟩, ⟨.surfaceDestroyed, {}⟩]).RecordersHeld :=
  ⟨rfl, recorders_held 2 _ _ rfl⟩

/-! ### The surface goes away -/

/-- The activity holds no camera, recorder or player, and no camera or recorder it ever made is
in use. -/
structure World.LetGo (s : World) : Prop where
  completed : s.crash = none
  fields : s.mCamera = none ∧ s.mMediaRecorder = none ∧ s.mediaPlayer = none
  cameras : ∀ c ∈ s.cameras, ¬c.Open
  recorders : ∀ r ∈ s.recorders, ¬r.Alive

theorem letGo_of_destroyed (h : s.Reached) (held : s.RecordersHeld) (running : s.crash = none)
    (event : i.event = .surfaceDestroyed) (stepped : step s i = some t) : t.LetGo := by
  have completed : t.crash = none := by
    rw [step_crash_iff h running stepped, World.throws, event]
  have done := step_done h stepped completed
  have cameras := (h.step stepped).cameras.sole
  have recorders := (held.done done).sole
  obtain ⟨camera, recorder, player⟩ :
      t.mCamera = none ∧ t.mMediaRecorder = none ∧ t.mediaPlayer = none := by
    obtain ⟨-, -, rfl⟩ := step_eq stepped
    rw [event, handle, surfaceDestroyed_ok (h.players running).canStop]
    exact ⟨rfl, rfl, rfl⟩
  rw [camera] at cameras
  rw [recorder] at recorders
  refine ⟨completed, ⟨camera, recorder, player⟩, fun c mem => ?_, fun r mem => ?_⟩
  · obtain ⟨k, at_k⟩ := List.mem_iff_getElem?.mp mem
    exact cameras.none_live at_k
  · obtain ⟨k, at_k⟩ := List.mem_iff_getElem?.mp mem
    exact recorders.none_live at_k

/-- Whenever the surface goes away the activity lets go of everything it holds, without an
exception. -/
theorem destroyed_lets_go (run : List Input) :
    ∀ x ∈ Machine.steps step (initView cameraCount progress) run,
      x.event.event = .surfaceDestroyed → x.after.LetGo :=
  Machine.invariant_steps (I := World.ReachedWith World.RecordersHeld)
    (P := fun x => x.event.event = .surfaceDestroyed → x.after.LetGo)
    (fun _ _ _ h stepped => h.step (fun _ _ _ _ _ h done => h.done done) stepped)
    (fun _ _ _ h stepped event =>
      have running := (step_eq stepped).1
      letGo_of_destroyed h.1 (h.2 running) running event stepped)
    ⟨initView_reached _ _, fun _ => initView_recordersHeld _ _⟩ run

/-- The surface goes away in the middle of a recording. -/
theorem destroyed_lets_go_recording :
    (Machine.final step (initView 2 (.initAttrs 78 78 1 {}))
      [⟨.surfaceCreated 0, {}⟩, ⟨.actionDown, {}⟩, ⟨.surfaceDestroyed, {}⟩]).LetGo :=
  destroyed_lets_go 2 (.initAttrs 78 78 1 {})
    [⟨.surfaceCreated 0, {}⟩, ⟨.actionDown, {}⟩, ⟨.surfaceDestroyed, {}⟩]
    ⟨_, ⟨.surfaceDestroyed, {}⟩, _⟩ (List.mem_of_getLast? (by rfl)) rfl

end StudyProject.Video
