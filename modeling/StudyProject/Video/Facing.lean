import StudyProject.Video.Steps

/-! `currentCameraSpacing` and the camera it speaks of.  `openVideo` writes the field before it
opens the camera, and every other change of the field comes with the camera released, so as long as
`mCamera` refers to one camera the field keeps the facing which that camera was opened with. -/

namespace StudyProject.Video

open StudyProject.Library StudyProject.Library.Objects

variable {s t : World} {i : Input} {env : Env} {c : Nat} {spacing : CameraFacing}

/-- The camera `c` is there, and while it is the one in the field the facing is `spacing`. -/
structure World.Faces (c : Nat) (spacing : CameraFacing) (s : World) : Prop where
  made : c < s.cameras.length
  facing : s.mCamera = some c → s.currentCameraSpacing = spacing

namespace World.Faces

/-- No camera in the field says anything of the facing. -/
theorem of_none (made : c < t.cameras.length) (null : t.mCamera = none) : t.Faces c spacing :=
  ⟨made, fun held => by simp [null] at held⟩

theorem same (h : s.Faces c spacing) (length : t.cameras.length = s.cameras.length)
    (field : t.mCamera = s.mCamera) (facing : t.currentCameraSpacing = s.currentCameraSpacing) :
    t.Faces c spacing :=
  ⟨by rw [length]; exact h.made, by rw [field, facing]; exact h.facing⟩

/-- A camera opened later is another one. -/
theorem opened (made : c < s.cameras.length) (now : CameraFacing) :
    (s.opened env now).Faces c spacing := by
  constructor
  · simp only [World.opened, List.length_append, update_length, List.length_cons, List.length_nil]
    omega
  · intro held
    have : s.cameras.length = c := by simpa [World.opened] using held
    omega

theorem reopened (h : s.Faces c spacing) (now : CameraFacing) :
    (s.reopened env now).Faces c spacing := by
  unfold World.reopened
  split
  · exact h
  · exact opened h.made now

theorem released (made : c < s.cameras.length) : s.released.Faces c spacing := by
  refine of_none ?_ rfl
  show c < (update _ _ s.cameras).length
  simpa using made

theorem done (h : s.Faces c spacing) (done : Done s i t) : t.Faces c spacing := by
  cases done with
  | idle => exact h
  | surfaceCreated holder =>
    exact reopened (s := { s with mSurfaceHolder := some holder }) (h.same rfl rfl rfl) _
  | surfaceChanged => exact h.same rfl rfl rfl
  | surfaceDestroyed =>
    have released : s.paused.released.Faces c spacing := released h.made
    exact released.same rfl rfl rfl
  | resumed => exact reopened (s := { s with isPause := false }) (h.same rfl rfl rfl) _
  | replayed => exact h.same rfl rfl rfl
  | noCamera => exact h.same rfl rfl rfl
  | failed => exact h.same (update_length ..) rfl rfl
  | started => exact h.same (update_length ..) rfl rfl
  | played queue =>
    have released : (World.stopped { s with queue } i.env).released.Faces c spacing :=
      released h.made
    exact released.same rfl rfl rfl
  | @pictured d queue =>
    have made : c < ((World.stopped { s with queue } i.env).pictured d).cameras.length := by
      show c < (update _ _ s.cameras).length
      simpa using h.made
    have released :
        ((World.stopped { s with queue } i.env).pictured d).released.Faces c spacing :=
      released made
    exact released.same rfl rfl rfl
  | ticked => exact h.same rfl rfl rfl
  | showed => exact h.same rfl rfl rfl
  | restarted =>
    have made : c < s.playerStopped.cameras.length := by
      unfold World.playerStopped
      split <;> exact h.made
    have opened : (World.opened { s.playerStopped with isPlay := false, isTake := false } i.env
        .back).Faces c spacing := World.Faces.opened (by exact made) .back
    exact opened.same rfl rfl rfl
  | finished => exact h.same rfl rfl rfl
  | turned =>
    exact reopened (released (s := { s with currentCameraSpacing := s.currentCameraSpacing.other })
      h.made) _
  | playerStarted => exact h.same rfl rfl rfl

end World.Faces

/-- Wherever in a run `mCamera` refers to the same camera, `currentCameraSpacing` is the same. -/
theorem facing_of_camera (cameraCount : Nat) (progress : CustomProgress) (run later : List Input)
    (c : Nat)
    (held : (Machine.final step (initView cameraCount progress) run).mCamera = some c)
    (held' : (Machine.final step (initView cameraCount progress) (run ++ later)).mCamera = some c)
    (completed :
      (Machine.final step (initView cameraCount progress) (run ++ later)).crash = none) :
    (Machine.final step (initView cameraCount progress) (run ++ later)).currentCameraSpacing =
      (Machine.final step (initView cameraCount progress) run).currentCameraSpacing := by
  have reached := run_reached cameraCount progress run
  rw [Machine.final_append] at held' completed ⊢
  have faces : World.ReachedWith
      (World.Faces c (Machine.final step (initView cameraCount progress) run).currentCameraSpacing)
      (Machine.final step (Machine.final step (initView cameraCount progress) run) later) :=
    Machine.invariant
      (fun _ _ _ h stepped => h.step (fun _ _ _ _ _ h done => h.done done) stepped)
      ⟨reached, fun _ => ⟨reached.cameras.sole.lt_length held, fun _ => rfl⟩⟩ later
  exact (faces.2 completed).facing held'

/-- The camera that `imgChangeCamera` opened, before and during a recording. -/
theorem facing_of_camera_turned :
    (Machine.final step (initView 2 (.initAttrs 78 78 1 {}))
        [⟨.surfaceCreated 0, {}⟩, ⟨.onClick .imgChangeCamera, {}⟩]).mCamera = some 1 ∧
      (Machine.final step (initView 2 (.initAttrs 78 78 1 {}))
          ([⟨.surfaceCreated 0, {}⟩, ⟨.onClick .imgChangeCamera, {}⟩] ++
            [⟨.actionDown, {}⟩])).currentCameraSpacing =
        (Machine.final step (initView 2 (.initAttrs 78 78 1 {}))
          [⟨.surfaceCreated 0, {}⟩, ⟨.onClick .imgChangeCamera, {}⟩]).currentCameraSpacing :=
  ⟨rfl, facing_of_camera 2 (.initAttrs 78 78 1 {})
    [⟨.surfaceCreated 0, {}⟩, ⟨.onClick .imgChangeCamera, {}⟩] [⟨.actionDown, {}⟩] 1 rfl rfl rfl⟩

end StudyProject.Video
