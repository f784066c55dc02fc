import StudyProject.Video.Lifecycle

/-! The activity's cameras.  Of the cameras it opened, at most one is not released; `mCamera` refers
to it, and there is none while a video plays or a picture is looked at. -/

namespace StudyProject.Video

open StudyProject.Library StudyProject.Library.Objects StudyProject.Library.Handler

variable {s t : World} {i : Input} {env : Env} {r : EStateM.Result Throwable World Unit}

/-- An open camera owes no picture. -/
def Camera.Quiet (c : Camera) : Prop := c.Open → c.pending = false

structure World.CameraInv (s : World) : Prop where
  sole : Sole Camera.Open s.cameras s.mCamera
  quiet : ∀ c ∈ s.cameras, c.Quiet
  exclusive : s.crash = none → s.isPlay = true ∨ s.isTake = true → s.mCamera = none

theorem Camera.release_closed (c : Camera) : ¬(c.call .release).Open := by
  simp [Camera.call, Camera.Open]

theorem Camera.release_quiet (c : Camera) : (c.call .release).Quiet :=
  fun opened => absurd opened c.release_closed

theorem Camera.unlock_open (c : Camera) : (c.call .unlock).Open ↔ c.Open := Iff.rfl

theorem Camera.relock_open (c : Camera) : (c.call .unlock).lock.Open ↔ c.Open := Iff.rfl

theorem Camera.unlock_quiet (c : Camera) (quiet : c.Quiet) : (c.call .unlock).Quiet := quiet

theorem Camera.relock_quiet (c : Camera) (quiet : c.Quiet) : (c.call .unlock).lock.Quiet := quiet

theorem Camera.delivered_open (c : Camera) : c.delivered.Open ↔ c.Open := Iff.rfl

namespace World.CameraInv

theorem retire (h : s.CameraInv) :
    Sole Camera.Open (update s.mCamera (·.call .release) s.cameras) none :=
  h.sole.retire Camera.release_closed

theorem quiet_release (h : s.CameraInv) :
    ∀ c ∈ update s.mCamera (·.call .release) s.cameras, c.Quiet :=
  forall_mem_update h.quiet (fun c _ => c.release_quiet) _

theorem released (h : s.CameraInv) : s.released.CameraInv :=
  ⟨h.retire, h.quiet_release, fun _ _ => rfl⟩

theorem opening {spacing : CameraFacing} (h : s.CameraInv) (opening : Opening env spacing s r) :
    (state r).CameraInv := by
  cases opening with
  | busy => exact h
  | threw play take => exact ⟨h.retire, h.quiet_release, fun _ _ => rfl⟩
  | opened play take =>
    refine ⟨?_, ?_, fun _ busy => ?_⟩
    · have alloc := h.retire.alloc (show Camera.Open {} from rfl)
      rwa [update_length] at alloc
    · exact List.forall_mem_append.mpr ⟨h.quiet_release, by simp [Camera.Quiet]⟩
    · simp [World.opened, play, take] at busy

theorem bounds (env : Env) : Bounds (Keeps World.CameraInv) env where
  assign _ _ _ _ _ _ _ h := ⟨h.sole, h.quiet, h.exclusive⟩
  review _ _ h := ⟨h.sole, h.quiet, fun _ busy => by simp at busy⟩
  delivered _ c h :=
    ⟨h.sole.update Camera.delivered_open c, forall_mem_update h.quiet (fun _ _ _ => rfl) c,
      h.exclusive⟩
  playerStarted _ _ h := ⟨h.sole, h.quiet, h.exclusive⟩
  playerReleased _ h := ⟨h.sole, h.quiet, h.exclusive⟩
  released _ h := h.released
  opening _ _ _ opening h := h.opening opening

/-- A video that plays already holds no camera. -/
theorem playing (h : s.CameraInv) (play : s.isPlay = true) (playing : Playing env s r) :
    (state r).CameraInv := by
  have null (completed : s.crash = none) : s.mCamera = none := h.exclusive completed (.inl play)
  cases playing with
  | played => exact ⟨h.sole, h.quiet, fun completed _ => null completed⟩
  | noFile => exact ⟨h.sole, h.quiet, fun completed _ => null completed⟩
  | null => exact ⟨h.sole, h.quiet, fun completed _ => null completed⟩

theorem lifecycle (h : s.CameraInv) {e : Event} (lifecycle : e.isLifecycle = true) :
    (state ((handle env e).run s)).CameraInv :=
  (bounds env).handle lifecycle (fun _ => .modify fun _ h => ⟨h.sole, h.quiet, h.exclusive⟩)
    (fun _ _ _ play playing h => h.playing play playing) s h

theorem ended (h : (state r).CameraInv) : (Video.ended r).CameraInv := by
  cases r with
  | ok => exact h
  | error => exact ⟨h.sole, h.quiet, fun completed => by simp [Video.ended] at completed⟩

theorem press (h : s.CameraInv) (press : Press env s r) : (state r).CameraInv := by
  have unlock : Sole Camera.Open (update s.mCamera (·.call .unlock) s.cameras) s.mCamera :=
    h.sole.update Camera.unlock_open _
  have unlock_quiet : ∀ c ∈ update s.mCamera (·.call .unlock) s.cameras, c.Quiet :=
    forall_mem_update h.quiet Camera.unlock_quiet _
  cases press with
  | noCamera => exact ⟨h.sole, h.quiet, h.exclusive⟩
  | failed => exact ⟨unlock, unlock_quiet, h.exclusive⟩
  | started =>
    refine ⟨?_, ?_, h.exclusive⟩
    · exact h.sole.update Camera.relock_open _
    · exact forall_mem_update h.quiet Camera.relock_quiet _
  | refused => exact ⟨h.sole, h.quiet, h.exclusive⟩
  | threw => exact ⟨unlock, unlock_quiet, h.exclusive⟩

theorem stop (h : s.CameraInv) (stop : Stop env s r) : (Video.ended r).CameraInv := by
  cases stop with
  | played => exact ⟨h.retire, h.quiet_release, fun _ _ => rfl⟩
  | noFile => exact ⟨h.retire, h.quiet_release, fun _ _ => rfl⟩
  | null => exact ⟨h.retire, h.quiet_release, fun _ _ => rfl⟩
  | pictured =>
    have both : update s.mCamera (·.call .release)
        (update s.mCamera (·.call .takePicture) s.cameras) =
        update s.mCamera (fun c => (c.call .takePicture).call .release) s.cameras :=
      update_update ..
    refine ⟨?_, ?_, fun _ _ => rfl⟩
    · show Sole _ (update s.mCamera _ (update s.mCamera _ s.cameras)) none
      rw [both]
      exact h.sole.retire fun c => (c.call .takePicture).release_closed
    · show ∀ c ∈ update s.mCamera _ (update s.mCamera _ s.cameras), c.Quiet
      rw [both]
      exact forall_mem_update h.quiet (fun c _ => (c.call .takePicture).release_quiet) _
  | noCamera => exact ⟨h.sole, h.quiet, fun completed => by simp [Video.ended] at completed⟩
  | refused => exact ⟨h.sole, h.quiet, fun completed => by simp [Video.ended] at completed⟩

theorem step (h : s.CameraInv) (stepped : Video.step s i = some t) : t.CameraInv := by
  cases step_outcome stepped with
  | lifecycle lifecycle => exact (h.lifecycle lifecycle).ended
  | recording => exact h
  | press event idle press => exact (h.press press).ended
  | stop queue stops stop =>
    have h' : { s with queue }.CameraInv := ⟨h.sole, h.quiet, h.exclusive⟩
    exact h'.stop stop
  | tick => exact ⟨h.sole, h.quiet, h.exclusive⟩
  | progress => exact ⟨h.sole, h.quiet, h.exclusive⟩

end World.CameraInv

theorem initView_cameraInv (cameraCount : Nat) (progress : CustomProgress) :
    (initView cameraCount progress).CameraInv :=
  ⟨.nil, by simp [initView], fun _ _ => rfl⟩

theorem cameraInv (cameraCount : Nat) (progress : CustomProgress) (run : List Input) :
    (Machine.final step (initView cameraCount progress) run).CameraInv :=
  Machine.invariant (fun _ _ _ => World.CameraInv.step) (initView_cameraInv _ _) run

/-- At most one camera is open, `mCamera` refers to it, and playing a video or looking at a picture
leaves no camera open. -/
structure World.CameraExclusive (s : World) : Prop where
  unique : ∀ (i j : Nat) (x y : Camera),
    s.cameras[i]? = some x → x.Open → s.cameras[j]? = some y → y.Open → i = j
  mCamera : ∀ (i : Nat) (x : Camera), s.cameras[i]? = some x → x.Open → s.mCamera = some i
  review : s.isPlay = true ∨ s.isTake = true → s.mCamera = none ∧ ∀ c ∈ s.cameras, ¬c.Open

/-- After any run of completed handlers the camera is held exclusively. -/
theorem camera_exclusive (cameraCount : Nat) (progress : CustomProgress) (run : List Input)
    (completed : (Machine.final step (initView cameraCount progress) run).crash = none) :
    (Machine.final step (initView cameraCount progress) run).CameraExclusive := by
  have h := cameraInv cameraCount progress run
  refine ⟨fun _ _ _ _ at_i => h.sole.unique at_i, h.sole.only, fun busy => ?_⟩
  have null := h.exclusive completed busy
  refine ⟨null, fun c mem => ?_⟩
  obtain ⟨i, at_i⟩ := List.mem_iff_getElem?.mp mem
  exact (null ▸ h.sole).none_live at_i

/-- A recording stopped after two seconds, whose video plays with the camera released. -/
theorem camera_exclusive_played :
    (Machine.final step (initView 2 (.initAttrs 78 78 1 {}))
      [⟨.surfaceCreated 0, {}⟩, ⟨.actionDown, {}⟩, ⟨.actionUp, { now := 2000 }⟩]).CameraExclusive :=
  camera_exclusive 2 _ _ (by decide)

end StudyProject.Video
