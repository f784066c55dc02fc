import StudyProject.Video.Geometry
import StudyProject.Video.Recording
import StudyProject.Video.StartTime

/-! A press whose preparation fails.  `onTouchDown` changes the button, the controls and the lock of
the camera before it knows, and its failure branch releases the recorder and nothing else.  So the
press is undone only where it had nothing to change: with no camera, and with the button, the size
that it saves and the controls left as two earlier presses made them. -/

namespace StudyProject.Video

open StudyProject.Library StudyProject.Library.Objects StudyProject.Library.Handler

variable {s t w : World} {env : Env} {c : Camera}

/-- The geometry that `changeAttrs` gives the button. -/
def enlargedGeometry (density : ℚ) : Geometry :=
  { lpWidth := toJavaInt (110 * density)
    lpHeight := toJavaInt (110 * density)
    mRadius := customProgressRadius * density
    mStrokeWidth := customProgressStrokeWidth * density
    circleWidth := customProgressCircleWidth * density
    mRingRadius := customProgressRadius * density + customProgressStrokeWidth * density / 2 }

/-- There is no camera to unlock, and nothing on the screen for a press to change: the button is
enlarged, its enlarged size is the saved one, and the controls are hidden. -/
structure NothingToUndo (recorded : List String) (s : World) : Prop where
  mCamera : s.mCamera = none
  fileName : ∀ f, s.fileName = some f → f ∈ recorded
  geometry : s.views.customProgress.geometry = enlargedGeometry s.views.customProgress.density
  initWidth : s.views.customProgress.initWidth = s.views.customProgress.lpWidth
  initHeight : s.views.customProgress.initHeight = s.views.customProgress.lpHeight
  imgFinish : s.views.imgFinish = .gone
  imgChangeCamera : s.views.imgChangeCamera = .gone
  txtTips : s.views.txtTips = .gone

/-! ### The failing preparation -/

theorem changeAttrs_eq {v : CustomProgress} (geometry : v.geometry = enlargedGeometry v.density)
    (width : v.initWidth = v.lpWidth) (height : v.initHeight = v.lpHeight) : v.changeAttrs = v := by
  simp only [CustomProgress.geometry, enlargedGeometry, Geometry.mk.injEq] at geometry
  obtain ⟨lpWidth, lpHeight, radius, stroke, circle, ring⟩ := geometry
  rcases v
  simp_all [CustomProgress.changeAttrs]

theorem press_eq {v : Views} (button : v.customProgress.changeAttrs = v.customProgress)
    (finish : v.imgFinish = .gone) (change : v.imgChangeCamera = .gone) (tips : v.txtTips = .gone) :
    v.press = v := by
  rcases v
  simp_all [Views.press]

/-- A press that finds nothing to undo sets `time` only. -/
theorem NothingToUndo.pressed {recorded : List String} (h : NothingToUndo recorded s) (env : Env) :
    s.pressed env = s.retimed env.now := by
  have button := changeAttrs_eq h.geometry h.initWidth h.initHeight
  have views := press_eq button h.imgFinish h.imgChangeCamera h.txtTips
  rw [World.pressed, views, World.retimed]

end StudyProject.Video
