import StudyProject.Video.FailedPress
import StudyProject.Video.Screen

/-! The record button over the runs of the activity.  Its geometry is changed by presses and by
clicks on `btn` alone, so over a run it is the button of `Geometry` after the calls that the run
makes.  Where clicks reach visible views only, each press starts a recording and nothing is stopped
in preview, the geometry goes with the mode. -/

namespace StudyProject.Video

open StudyProject.Library StudyProject.Library.Objects
open StudyProject.Widget (Visibility)

variable {s t : World} {i : Input} {v v₀ : CustomProgress}

/-- What the event does to the geometry of the button. -/
def World.geometryCall (s : World) (i : Input) : Option GeometryCall :=
  match i.event with
  | .actionDown => if s.isRecording then none else some .changeAttrs
  | .onClick .btn => some .changeInitAttrs
  | _ => none

/-- The calls that a run from `s` makes on the button. -/
def geometryCalls (s : World) (run : List Input) : List GeometryCall :=
  (Machine.steps step s run).filterMap fun x => x.before.geometryCall x.event

/-- The button but for the progress it shows. -/
def CustomProgress.idle (v : CustomProgress) : CustomProgress := v.setProgress 0

def World.button (s : World) : CustomProgress := s.views.customProgress.idle

theorem geometryCall_of_stops (stops : s.stops i.event = true) : s.geometryCall i = none := by
  unfold World.geometryCall
  split
  · rename_i event
    simp [event, World.stops] at stops
  · rename_i event
    simp [event, World.stops] at stops
  · rfl

/-- The button after a completed step. -/
theorem Done.button (done : Done s i t) :
    t.button = (s.geometryCall i).toList.foldl GeometryCall.apply s.button := by
  cases done with
  | idle event =>
    rcases event with event | event | ⟨event, -⟩ | ⟨event, recording⟩
    · simp [World.geometryCall, event]
    · simp [World.geometryCall, event]
    · simp [World.geometryCall, event]
    · simp [World.geometryCall, event, recording]
  | surfaceCreated holder event => simp [World.geometryCall, event, World.button]
  | surfaceChanged holder event => simp [World.geometryCall, event, World.button]
  | surfaceDestroyed event =>
    simp only [World.geometryCall, event]
    rfl
  | resumed event => simp [World.geometryCall, event, World.button]
  | replayed event =>
    simp only [World.geometryCall, event]
    rfl
  | noCamera event idle =>
    simp only [World.geometryCall, event, idle]
    rfl
  | failed event idle =>
    simp only [World.geometryCall, event, idle]
    rfl
  | started event idle =>
    simp only [World.geometryCall, event, idle]
    rfl
  | played queue stops =>
    rw [geometryCall_of_stops stops]
    rfl
  | pictured queue stops =>
    rw [geometryCall_of_stops stops]
    rfl
  | ticked n event =>
    simp only [World.geometryCall, event]
    rfl
  | showed queue event =>
    simp only [World.geometryCall, event]
    rfl
  | restarted event =>
    simp only [World.geometryCall, event]
    rfl
  | finished event =>
    simp only [World.geometryCall, event]
    rfl
  | turned event =>
    simp [World.geometryCall, event, World.button]
    rfl
  | playerStarted p event =>
    rcases event with ⟨q, event⟩ | ⟨q, event⟩ <;> simp only [World.geometryCall, event] <;> rfl

variable (cameraCount : Nat) (progress : CustomProgress)

theorem applyCalls_button {run : List Input} (h : s.Reached)
    (completed : (Machine.final step s run).crash = none) :
    (Machine.final step s run).button = s.button.applyCalls (geometryCalls s run) := by
  have all := steps_completed completed
  induction run generalizing s with
  | nil => rfl
  | cons i run ih =>
    rw [Machine.final_cons] at completed ⊢
    unfold geometryCalls
    cases stepped : step s i with
    | none =>
      rw [Machine.next_none stepped] at completed ⊢
      rw [Machine.steps_cons_none stepped] at all ⊢
      exact ih h completed all
    | some t =>
      rw [Machine.next_some stepped] at completed ⊢
      rw [Machine.steps_cons_some stepped] at all ⊢
      rw [List.forall_mem_cons] at all
      rw [ih (h.step stepped) completed all.2, (step_done h stepped all.1).button,
        List.filterMap_cons]
      cases s.geometryCall i <;> rfl

/-- In a run without an exception the record button is the one of the layout after the calls that
the run makes on it, but for its progress. -/
theorem button_follows_calls (run : List Input)
    (completed : (Machine.final step (initView cameraCount progress) run).crash = none) :
    (Machine.final step (initView cameraCount progress) run).button =
      (initView cameraCount progress).button.applyCalls
        (geometryCalls (initView cameraCount progress) run) :=
  applyCalls_button (initView_reached _ _) completed

theorem button_follows_calls_once :
    (Machine.final step (initView 2 recordButton)
        [⟨.surfaceCreated 0, {}⟩, ⟨.actionDown, {}⟩, ⟨.actionUp, { now := 2000 }⟩,
          ⟨.onClick .btn, {}⟩]).crash = none ∧
      (Machine.final step (initView 2 recordButton)
        [⟨.surfaceCreated 0, {}⟩, ⟨.actionDown, {}⟩, ⟨.actionUp, { now := 2000 }⟩,
          ⟨.onClick .btn, {}⟩]).button =
        (initView 2 recordButton).button.applyCalls [.changeAttrs, .changeInitAttrs] :=
  ⟨rfl, button_follows_calls 2 recordButton
    [⟨.surfaceCreated 0, {}⟩, ⟨.actionDown, {}⟩, ⟨.actionUp, { now := 2000 }⟩,
      ⟨.onClick .btn, {}⟩] rfl⟩

/-! ### The button and the mode -/

/-- A press that is not ignored starts a recording. -/
def PressStarts (x : Machine.Step World Input) : Prop :=
  x.event.event = .actionDown → x.before.isRecording = false →
    x.before.pressStarts x.event.env = true

/-- A stop ends a recording, or comes once more when there is something to look at already. -/
def StopsAway (x : Machine.Step World Input) : Prop :=
  x.before.stops x.event.event = true → x.before.mode ≠ .preview

instance : DecidablePred PressStarts := fun _ => inferInstanceAs (Decidable (_ → _ → _))

instance : DecidablePred StopsAway := fun _ => inferInstanceAs (Decidable (_ → _))

/-- The button `v` has the display and the saved radius and widths of `v₀`, whose stroke width
is 0. -/
structure SavedFrom (v₀ v : CustomProgress) : Prop where
  density : v.density = v₀.density
  initRadius : v.initRadius = v₀.mRadius
  initStrokeWidth : v.initStrokeWidth = v₀.mStrokeWidth
  initCircleWidth : v.initCircleWidth = v₀.circleWidth
  ring : v₀.mRingRadius = v₀.mRadius + v₀.mStrokeWidth / 2

/-- The button has its first geometry in preview, and otherwise it is enlarged and has its first
size saved. -/
def FollowsMode (v₀ : CustomProgress) (m : Mode) (v : CustomProgress) : Prop :=
  if m = .preview then v.geometry = v₀.geometry
  else v.geometry = enlargedGeometry v₀.density ∧ v.initWidth = v₀.lpWidth ∧
    v.initHeight = v₀.lpHeight

theorem FollowsMode.enlarge {m : Mode} (h : FollowsMode v₀ .preview v) (saved : SavedFrom v₀ v)
    (other : m ≠ .preview) : FollowsMode v₀ m v.changeAttrs := by
  have same : v.geometry = v₀.geometry := by simpa [FollowsMode] using h
  have width : v.lpWidth = v₀.lpWidth := congrArg Geometry.lpWidth same
  have height : v.lpHeight = v₀.lpHeight := congrArg Geometry.lpHeight same
  rw [FollowsMode, if_neg other]
  refine ⟨?_, congrArg Int.cast width, congrArg Int.cast height⟩
  rw [← saved.density]
  rfl

theorem FollowsMode.restore {m : Mode} (h : FollowsMode v₀ m v) (saved : SavedFrom v₀ v)
    (other : m ≠ .preview) : FollowsMode v₀ .preview v.changeInitAttrs := by
  rw [FollowsMode, if_neg other] at h
  obtain ⟨-, width, height⟩ := h
  rw [FollowsMode, if_pos rfl]
  simp [CustomProgress.geometry, CustomProgress.changeInitAttrs, width, height, saved.initRadius,
    saved.initStrokeWidth, saved.initCircleWidth, saved.ring]

/-- The button goes with the mode, in a world with the screen as it should be. -/
structure World.ButtonOk (v₀ : CustomProgress) (s : World) : Prop where
  screen : s.ScreenOk
  saved : SavedFrom v₀ s.views.customProgress
  follows : FollowsMode v₀ s.mode s.views.customProgress

theorem World.ButtonOk.same (h : s.ButtonOk v₀) (screen : t.ScreenOk) (mode : t.mode = s.mode)
    {p : BitVec 32} (button : t.views.customProgress = s.views.customProgress.setProgress p) :
    t.ButtonOk v₀ := by
  refine ⟨screen, ?_, ?_⟩
  · rw [button]
    exact ⟨h.saved.density, h.saved.initRadius, h.saved.initStrokeWidth, h.saved.initCircleWidth,
      h.saved.ring⟩
  · rw [mode, button]
    exact h.follows

theorem World.ButtonOk.stop (h : s.ButtonOk v₀) (screen : t.ScreenOk) (away : s.mode ≠ .preview)
    (busy : t.isPlay = true ∨ t.isTake = true)
    (button : t.views.customProgress = s.views.customProgress.setProgress 0) : t.ButtonOk v₀ := by
  have follows := h.follows
  rw [FollowsMode, if_neg away] at follows
  refine ⟨screen, ?_, ?_⟩
  · rw [button]
    exact ⟨h.saved.density, h.saved.initRadius, h.saved.initStrokeWidth, h.saved.initCircleWidth,
      h.saved.ring⟩
  · rw [mode_review busy, button, FollowsMode, if_neg (by decide)]
    exact follows

/-- `btn` is there in review only, so a click on it finds the button enlarged. -/
theorem World.ButtonOk.restarted {env : Env} (h : s.ButtonOk v₀)
    (screen : (s.restarted env).ScreenOk) (visible : s.views.btn = .visible) :
    (s.restarted env).ButtonOk v₀ := by
  have review : s.mode = .review := by
    by_contra other
    rw [h.screen.shows.btn, reviewOnly, if_neg other] at visible
    simp at visible
  have idle : s.isRecording = false := by
    by_contra recording
    rw [Bool.not_eq_false] at recording
    obtain ⟨play, take⟩ := h.screen.only recording
    simp [World.mode, play, take, recording] at review
  have preview : (s.restarted env).mode = .preview := mode_preview (by simp [idle]) rfl rfl
  refine ⟨screen, ⟨h.saved.density, h.saved.initRadius, h.saved.initStrokeWidth,
    h.saved.initCircleWidth, h.saved.ring⟩, ?_⟩
  rw [preview]
  exact h.follows.restore h.saved (by rw [review]; decide)

theorem World.ButtonOk.done (h : s.ButtonOk v₀) (reached : s.Reached) (running : s.crash = none)
    (onScreen : OnScreen ⟨s, i, t⟩) (records : PressStarts ⟨s, i, t⟩)
    (away : StopsAway ⟨s, i, t⟩) (done : Done s i t) : t.ButtonOk v₀ := by
  have screen := h.screen.done reached running done
  have unchanged (mode : t.mode = s.mode)
      (views : t.views.customProgress = s.views.customProgress) :
      t.ButtonOk v₀ :=
    h.same screen mode (p := s.views.customProgress.mProgress) (by rw [views]; rfl)
  have reopened_mode (w : World) (spacing : CameraFacing) (mode : w.mode = s.mode) :
      (w.reopened i.env spacing).mode = s.mode := by
    rw [← mode]
    exact mode_congr (by simp) (by simp) (by simp)
  cases done with
  | idle => exact h
  | surfaceCreated holder => exact unchanged (reopened_mode _ _ rfl) (by simp)
  | surfaceChanged => exact unchanged rfl rfl
  | surfaceDestroyed => exact unchanged rfl rfl
  | resumed => exact unchanged (reopened_mode _ _ rfl) (by simp)
  | replayed event pause play => exact unchanged (mode_congr rfl play.symm rfl) rfl
  | noCamera event idle fails =>
    have started : s.pressStarts i.env = true := records event idle
    simp [fails] at started
  | failed event idle fails =>
    have started : s.pressStarts i.env = true := records event idle
    simp [fails] at started
  | @started c event idle starts camera =>
    have held : s.mCamera.isSome = true := by simpa using camera_isSome camera
    obtain ⟨play, take⟩ := reached.quiet running held
    have after : (s.started i.env c).mode = .recording := by
      simp [World.mode, World.started, play, take]
    have follows := h.follows
    rw [reached.preview_of_starts running starts] at follows
    refine ⟨screen, ⟨h.saved.density, h.saved.initRadius, h.saved.initStrokeWidth,
      h.saved.initCircleWidth, h.saved.ring⟩, ?_⟩
    rw [after]
    exact follows.enlarge h.saved (by decide)
  | played queue stops => exact h.stop screen (away stops) (.inl rfl) rfl
  | pictured queue stops quick =>
    exact h.stop screen (away stops) (.inr (decide_eq_true quick)) rfl
  | ticked => exact unchanged rfl rfl
  | showed => exact h.same screen rfl rfl
  | restarted event => exact h.restarted screen (onScreen _ event)
  | finished => exact unchanged rfl rfl
  | turned => exact unchanged (reopened_mode _ _ rfl) (by simp; rfl)
  | playerStarted => exact unchanged rfl rfl

/-- Where clicks reach visible views only, each press starts a recording and nothing is stopped in
preview, the button of a layout without a stroke has its first geometry in preview, and the enlarged
one during a recording and in review. -/
theorem button_follows_mode (lpWidth lpHeight : Int) (density : ℚ) (attrs : AttributeSet)
    (stroke : attrs.strokeWidth.getD 20 = 0) (run : List Input)
    (onScreen : ∀ x ∈ Machine.steps step
      (initView cameraCount (.initAttrs lpWidth lpHeight density attrs)) run, OnScreen x)
    (starts : ∀ x ∈ Machine.steps step
      (initView cameraCount (.initAttrs lpWidth lpHeight density attrs)) run, PressStarts x)
    (away : ∀ x ∈ Machine.steps step
      (initView cameraCount (.initAttrs lpWidth lpHeight density attrs)) run, StopsAway x)
    (completed : (Machine.final step
      (initView cameraCount (.initAttrs lpWidth lpHeight density attrs)) run).crash = none) :
    (Machine.final step (initView cameraCount (.initAttrs lpWidth lpHeight density attrs))
        run).views.customProgress.geometry =
      if (Machine.final step (initView cameraCount (.initAttrs lpWidth lpHeight density attrs))
          run).mode = .preview then
        (CustomProgress.initAttrs lpWidth lpHeight density attrs).geometry
      else enlargedGeometry density := by
  have start : (initView cameraCount (.initAttrs lpWidth lpHeight density attrs)).ButtonOk
      (.initAttrs lpWidth lpHeight density attrs) :=
    ⟨initView_screenOk _ _, ⟨rfl, rfl, stroke.symm, rfl, rfl⟩, rfl⟩
  have final := Machine.invariant_under
    (I := World.ReachedWith (World.ButtonOk (.initAttrs lpWidth lpHeight density attrs)))
    (C := fun x => OnScreen x ∧ PressStarts x ∧ StopsAway x)
    (fun _ _ _ h stepped cond => ⟨h.1.step stepped, fun completed =>
      have running := (step_eq stepped).1
      (h.2 running).done h.1 running cond.1 cond.2.1 cond.2.2 (step_done h.1 stepped completed)⟩)
    ⟨initView_reached _ _, fun _ => start⟩ run
    (fun x mem => ⟨onScreen x mem, starts x mem, away x mem⟩)
  have follows := (final.2 completed).follows
  unfold FollowsMode at follows
  split at follows
  · rename_i preview
    rw [if_pos preview]
    exact follows
  · rename_i other
    rw [if_neg other]
    exact follows.1

/-- Two recordings, the second one going on.  The finger is lifted once more after the first. -/
def recordTwice : List Input :=
  [⟨.surfaceCreated 0, {}⟩, ⟨.actionDown, {}⟩, ⟨.actionUp, { now := 2000 }⟩,
    ⟨.actionUp, { now := 3000 }⟩, ⟨.onClick .btn, {}⟩, ⟨.actionDown, {}⟩]

theorem button_follows_mode_twice :
    (recordButton.mStrokeWidth = 0 ∧
      ∀ x ∈ Machine.steps step (initView 2 recordButton) recordTwice,
        OnScreen x ∧ PressStarts x ∧ StopsAway x) ∧
      (Machine.final step (initView 2 recordButton) recordTwice).views.customProgress.geometry =
        enlargedGeometry 1 :=
  ⟨⟨rfl, by decide⟩, button_follows_mode 2 78 78 1
    { radius := some 24, strokeWidth := some 0, circleWidth := some 10 } rfl recordTwice
    (by decide) (by decide) (by decide) rfl⟩

end StudyProject.Video
