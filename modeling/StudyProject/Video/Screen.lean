import StudyProject.Video.Mode

/-! The screen and the mode.  The record button is there except in review, where `btn` and `btn2`
are instead; `imgFinish`, `txtTips` and, with two cameras, `imgChangeCamera` come and go together.
While clicks reach visible views only, nothing but the record button is there during a recording. -/

namespace StudyProject.Video

open StudyProject.Library StudyProject.Library.Objects
open StudyProject.Widget (Visibility)

variable {s t : World} {i : Input} {env : Env}

/-- The views that are there in review and nowhere else. -/
def reviewOnly (m : Mode) : Visibility := if m = .review then .visible else .gone

/-- The view of the record button, there but in review. -/
def exceptReview (m : Mode) : Visibility := if m = .review then .gone else .visible

/-- The views of the screen go with the mode `m`. -/
structure Views.Shows (v : Views) (cameraCount : Nat) (m : Mode) : Prop where
  progressLayout : v.progressLayout = exceptReview m
  btn : v.btn = reviewOnly m
  btn2 : v.btn2 = reviewOnly m
  txtTips : v.txtTips = v.imgFinish
  imgChangeCamera : v.imgChangeCamera = if 1 < cameraCount then v.imgFinish else .gone

namespace Views.Shows

variable {v : Views} {n : Nat} {m : Mode}

theorem press (h : v.Shows n m) : v.press.Shows n m :=
  ⟨h.progressLayout, h.btn, h.btn2, rfl, by simp [Views.press]⟩

theorem setProgress (h : v.Shows n m) (progress : BitVec 32) :
    Views.Shows { v with customProgress := v.customProgress.setProgress progress } n m :=
  ⟨h.progressLayout, h.btn, h.btn2, h.txtTips, h.imgChangeCamera⟩

theorem review (h : v.Shows n m) : v.review.Shows n .review :=
  ⟨rfl, rfl, rfl, h.txtTips, h.imgChangeCamera⟩

theorem restart (h : v.Shows n m) {m' : Mode} (other : m' ≠ .review) :
    (v.restart n).Shows n m' := by
  refine ⟨?_, ?_, ?_, rfl, ?_⟩
  · simp [Views.restart, exceptReview, other]
  · simp [Views.restart, reviewOnly, other]
  · simp [Views.restart, reviewOnly, other]
  · have before := h.imgChangeCamera
    simp only [Views.restart]
    split
    · rfl
    · rename_i few
      rw [before, if_neg few]

end Views.Shows

/-- The screen goes with the mode, and while the activity records there is nothing to look at. -/
structure World.ScreenOk (s : World) : Prop where
  shows : s.views.Shows s.cameraCount s.mode
  only : s.RecordingOnly

namespace World.ScreenOk

theorem same (h : s.ScreenOk) (only : t.RecordingOnly) (views : t.views = s.views)
    (count : t.cameraCount = s.cameraCount) (mode : t.mode = s.mode) : t.ScreenOk :=
  ⟨by rw [views, count, mode]; exact h.shows, only⟩

theorem pressed (h : s.ScreenOk) (only : t.RecordingOnly) (views : t.views = s.views.press)
    (count : t.cameraCount = s.cameraCount)
    (same : (t.mode = .review) = (s.mode = .review)) : t.ScreenOk := by
  have shows := h.shows.press
  refine ⟨?_, only⟩
  rw [views, count]
  exact ⟨shows.progressLayout.trans (by simp only [exceptReview, same]),
    shows.btn.trans (by simp only [reviewOnly, same]),
    shows.btn2.trans (by simp only [reviewOnly, same]), shows.txtTips, shows.imgChangeCamera⟩

theorem reopened (h : s.ScreenOk) (spacing : CameraFacing) : (s.reopened env spacing).ScreenOk := by
  unfold World.reopened
  split
  · exact h
  · exact ⟨h.shows, h.only⟩

theorem stopped (h : s.ScreenOk) (views : t.views =
      { s.views with customProgress := s.views.customProgress.setProgress 0 }.review)
    (count : t.cameraCount = s.cameraCount) (recording : t.isRecording = false)
    (busy : t.isPlay = true ∨ t.isTake = true) : t.ScreenOk := by
  refine ⟨?_, fun on => by simp [recording] at on⟩
  rw [views, count, mode_review busy]
  exact (h.shows.setProgress 0).review

theorem restarted (h : s.ScreenOk) : (s.restarted env).ScreenOk := by
  refine ⟨?_, fun _ => ⟨rfl, rfl⟩⟩
  have count : (s.restarted env).cameraCount = s.cameraCount := by
    unfold World.restarted World.playerStopped
    split <;> rfl
  have other : (s.restarted env).mode ≠ .review := by
    have play : (s.restarted env).isPlay = false := rfl
    have take : (s.restarted env).isTake = false := rfl
    simp only [World.mode, play, take]
    cases (s.restarted env).isRecording <;> decide
  rw [count]
  exact h.shows.restart other

theorem done (h : s.ScreenOk) (reached : s.Reached) (running : s.crash = none)
    (done : Done s i t) : t.ScreenOk := by
  have only := (done.modeStep reached running h.only).2
  cases done with
  | idle => exact h
  | surfaceCreated holder =>
    have h' : World.ScreenOk { s with mSurfaceHolder := some holder } := ⟨h.shows, h.only⟩
    exact h'.reopened _
  | surfaceChanged => exact ⟨h.shows, h.only⟩
  | surfaceDestroyed => exact ⟨h.shows, h.only⟩
  | resumed event pause quiet =>
    have h' : World.ScreenOk { s with isPause := false } := ⟨h.shows, h.only⟩
    exact h'.reopened _
  | replayed event pause play =>
    exact h.same only rfl rfl (mode_congr rfl play.symm rfl)
  | noCamera => exact h.pressed only rfl rfl rfl
  | failed => exact h.pressed only rfl rfl rfl
  | @started c event idle starts camera =>
    have before := reached.preview_of_starts running starts
    have held : s.mCamera.isSome = true := by simpa using camera_isSome camera
    obtain ⟨play, take⟩ := reached.quiet running held
    refine h.pressed only rfl rfl ?_
    have after : (s.started i.env c).mode = .recording := by
      simp [World.mode, World.started, play, take]
    rw [before, after]
    simp
  | played queue stops => exact h.stopped rfl rfl rfl (.inl rfl)
  | pictured queue stops quick => exact h.stopped rfl rfl rfl (.inr (decide_eq_true quick))
  | ticked => exact ⟨h.shows, h.only⟩
  | showed => exact ⟨h.shows.setProgress _, h.only⟩
  | restarted => exact h.restarted
  | finished => exact ⟨h.shows, h.only⟩
  | turned =>
    have h' : World.ScreenOk
        (World.released { s with currentCameraSpacing := s.currentCameraSpacing.other }) :=
      ⟨h.shows, h.only⟩
    exact h'.reopened _
  | playerStarted => exact ⟨h.shows, h.only⟩

end World.ScreenOk

variable (cameraCount : Nat) (progress : CustomProgress)

theorem initView_screenOk : (initView cameraCount progress).ScreenOk := by
  refine ⟨⟨rfl, rfl, rfl, rfl, ?_⟩, fun on => by simp [initView] at on⟩
  by_cases few : cameraCount < 2
  · simp [initView, few, show ¬1 < cameraCount by omega]
  · simp [initView, few, show 1 < cameraCount by omega]

/-- Between the handlers of a run the screen goes with the mode. -/
theorem screen_shows_mode (run : List Input)
    (completed : (Machine.final step (initView cameraCount progress) run).crash = none) :
    (Machine.final step (initView cameraCount progress) run).ScreenOk :=
  (done_invariant cameraCount progress
    (fun _ _ _ reached running h done => h.done reached running done)
    (initView_screenOk _ _) run).2 completed

theorem screen_shows_mode_review :
    (Machine.final step (initView 2 (.initAttrs 78 78 1 {}))
        [⟨.surfaceCreated 0, {}⟩, ⟨.actionDown, {}⟩, ⟨.actionUp, { now := 2000 }⟩]).crash = none ∧
      (Machine.final step (initView 2 (.initAttrs 78 78 1 {}))
        [⟨.surfaceCreated 0, {}⟩, ⟨.actionDown, {}⟩, ⟨.actionUp, { now := 2000 }⟩]).ScreenOk :=
  ⟨rfl, screen_shows_mode 2 _ _ rfl⟩

/-! ### Clicks on what is there -/

def Views.visibility (v : Views) : ViewId → Visibility
  | .btn => v.btn
  | .btn2 => v.btn2
  | .imgFinish => v.imgFinish
  | .imgChangeCamera => v.imgChangeCamera

/-- If the step is a click, it is a click on a visible view. -/
def OnScreen (x : Machine.Step World Input) : Prop :=
  ∀ id, x.event.event = .onClick id → x.before.views.visibility id = .visible

instance : DecidablePred OnScreen := fun x =>
  match event : x.event.event with
  | .onClick id =>
    decidable_of_iff (x.before.views.visibility id = .visible)
      ⟨fun visible id' event' => by
        obtain rfl : id = id' := by simpa [event] using event'
        exact visible, fun all => all id event⟩
  | .surfaceCreated _ | .surfaceChanged _ | .surfaceDestroyed | .onResume | .actionDown
  | .actionUp | .actionCancel | .tick _ | .dispatch | .onPictureTaken _ | .onCompletion _
  | .onPrepared _ => .isTrue fun id event' => by simp [event] at event'

@[simp] theorem reopened_views (s : World) (env : Env) (spacing : CameraFacing) :
    (s.reopened env spacing).views = s.views := by
  unfold World.reopened
  split <;> rfl

/-- The screen, where clicks reach visible views only. -/
structure World.Hidden (s : World) : Prop where
  screen : s.ScreenOk
  imgFinish : s.isRecording = true → s.views.imgFinish = .gone

/-- Nothing that takes clicks is there during a recording. -/
theorem World.Hidden.gone (h : s.Hidden) (recording : s.isRecording = true) (id : ViewId) :
    s.views.visibility id = .gone := by
  obtain ⟨play, take⟩ := h.screen.only recording
  have mode : s.mode = .recording := by simp [World.mode, play, take, recording]
  have shows := h.screen.shows
  rw [mode] at shows
  have finish := h.imgFinish recording
  cases id with
  | btn => exact shows.btn
  | btn2 => exact shows.btn2
  | imgFinish => exact finish
  | imgChangeCamera =>
    refine shows.imgChangeCamera.trans ?_
    rw [finish, ite_self]

theorem World.Hidden.done (h : s.Hidden) (reached : s.Reached) (running : s.crash = none)
    (onScreen : OnScreen ⟨s, i, t⟩) (done : Done s i t) : t.Hidden := by
  have no_click (recording : s.isRecording = true) (id : ViewId) : i.event ≠ .onClick id := by
    intro event
    have visible := onScreen id event
    rw [h.gone recording id] at visible
    simp at visible
  refine ⟨h.screen.done reached running done, fun recording => ?_⟩
  cases done with
  | idle => exact h.imgFinish recording
  | surfaceCreated holder =>
    rw [reopened_isRecording] at recording
    rw [reopened_views]
    exact h.imgFinish recording
  | surfaceChanged => exact h.imgFinish recording
  | surfaceDestroyed => exact h.imgFinish recording
  | resumed =>
    rw [reopened_isRecording] at recording
    rw [reopened_views]
    exact h.imgFinish recording
  | replayed => exact h.imgFinish recording
  | noCamera => rfl
  | failed => rfl
  | started => rfl
  | played => exact absurd (show false = true from recording) (by decide)
  | pictured => exact absurd (show false = true from recording) (by decide)
  | ticked => exact h.imgFinish recording
  | showed => exact h.imgFinish recording
  | restarted event =>
    rw [restarted_isRecording] at recording
    exact absurd event (no_click recording _)
  | finished => exact h.imgFinish recording
  | turned event =>
    rw [reopened_isRecording] at recording
    exact absurd event (no_click recording _)
  | playerStarted => exact h.imgFinish recording

/-- In a run whose clicks reach visible views only, no click comes during a recording. -/
theorem no_click_recording (run : List Input)
    (onScreen : ∀ x ∈ Machine.steps step (initView cameraCount progress) run, OnScreen x) :
    ∀ x ∈ Machine.steps step (initView cameraCount progress) run,
      x.before.isRecording = true → ∀ id, x.event.event ≠ .onClick id := by
  refine Machine.steps_under (I := World.ReachedWith World.Hidden) (C := OnScreen)
    (P := fun x => x.before.isRecording = true → ∀ id, x.event.event ≠ .onClick id)
    ?_ ?_ ⟨initView_reached _ _, fun _ => ⟨initView_screenOk _ _, by simp [initView]⟩⟩ run onScreen
  · intro s i t h stepped onScreen
    have running := (step_eq stepped).1
    exact ⟨h.1.step stepped, fun completed =>
      (h.2 running).done h.1 running onScreen (step_done h.1 stepped completed)⟩
  · intro s i t h stepped onScreen recording id event
    have visible := onScreen id event
    have gone := (h.2 (step_eq stepped).1).gone recording id
    rw [gone] at visible
    simp at visible

/-- A recording of two seconds, and a click on `btn` once it is there. -/
def recordOnce : List (Machine.Step World Input) :=
  Machine.steps step (initView 2 (.initAttrs 78 78 1 {}))
    [⟨.surfaceCreated 0, {}⟩, ⟨.actionDown, {}⟩, ⟨.actionUp, { now := 2000 }⟩, ⟨.onClick .btn, {}⟩]

theorem no_click_recording_once :
    (recordOnce.get ⟨2, by decide⟩).event.event ≠ .onClick .btn :=
  no_click_recording 2 _ _ (by decide) _ (List.get_mem recordOnce _) (by decide) .btn

end StudyProject.Video
