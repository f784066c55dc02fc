import Mathlib.Tactic.Linarith
import StudyProject.Library.Rect
import StudyProject.Video.VideoCaptureActivity
import StudyProject.Video.Geometry

/-! How the record button is drawn: a big circle, a circle on it, and the ring of the progress,
whose stroke is measured from the middle.  After any calls on the button the ring lies along the
edge of the big circle, and the arc drawn is the fraction of it that the progress is of the total.
Sizes and angles, floats in the source, are exact rationals. -/

namespace StudyProject.Video

open StudyProject.Library

/-- The button with its ring paint, of which only the width changes. -/
structure Painted where
  view : CustomProgress
  mRingPaint : ℚ

/-- `initVariable` makes the paints anew. -/
def CustomProgress.initVariable (v : CustomProgress) : Painted :=
  { view := v, mRingPaint := v.mStrokeWidth }

/-- The calls of the button that the activity makes. -/
inductive ButtonCall where
  | geometry (call : GeometryCall)
  | setProgress (progress : BitVec 32)
  | setmTotalProgress (totalProgress : BitVec 32)
deriving DecidableEq, Repr

def ButtonCall.apply (p : Painted) : ButtonCall → Painted
  | .geometry call => (call.apply p.view).initVariable
  | .setProgress progress => { p with view := p.view.setProgress progress }
  | .setmTotalProgress totalProgress => { p with view := p.view.setmTotalProgress totalProgress }

/-- An arc of the oval that `oval` bounds, clockwise from `startAngle` in degrees. -/
structure Arc where
  oval : Rect ℚ
  startAngle : ℚ
  sweepAngle : ℚ
  strokeWidth : ℚ
deriving DecidableEq, Repr

/-- What `onDraw` draws: two circles with one centre, and an arc while there is a progress. -/
structure Picture where
  x : ℚ
  y : ℚ
  bigRadius : ℚ
  radius : ℚ
  arc : Option Arc
deriving DecidableEq, Repr

/-- `onDraw`, in a view of the given size.  The progress and the total are signed. -/
def Painted.onDraw (p : Painted) (width height : Int) : Picture :=
  let v := p.view
  let x : ℚ := width.tdiv 2
  let y : ℚ := height.tdiv 2
  let r := v.circleWidth - v.mStrokeWidth
  { x, y
    bigRadius := v.mRadius + v.circleWidth
    radius := v.mRadius
    arc :=
      if 0 < v.mProgress.toInt then
        some
          { oval :=
              { left := x - v.mRingRadius - r
                top := y - v.mRingRadius - r
                right := v.mRingRadius * 2 + (x - v.mRingRadius) + r
                bottom := v.mRingRadius * 2 + (y - v.mRingRadius) + r }
            startAngle := -90
            sweepAngle := v.mProgress.toInt / v.mTotalProgress.toInt * 360
            strokeWidth := p.mRingPaint }
      else none }

/-- The arc runs along the edge of the big circle: its oval is a circle about the same centre, and
half its stroke lies outside that circle. -/
structure Picture.OnEdge (picture : Picture) (arc : Arc) : Prop where
  x : arc.oval.left + arc.oval.right = 2 * picture.x
  y : arc.oval.top + arc.oval.bottom = 2 * picture.y
  round : arc.oval.right - arc.oval.left = arc.oval.bottom - arc.oval.top
  edge : (arc.oval.right - arc.oval.left) / 2 + arc.strokeWidth / 2 = picture.bigRadius

/-! ### The calls -/

/-- The ring's radius is measured to the middle of its stroke, and the paint has that stroke. -/
structure Painted.Ring (p : Painted) : Prop where
  radius : p.view.mRingRadius = p.view.mRadius + p.view.mStrokeWidth / 2
  paint : p.mRingPaint = p.view.mStrokeWidth

theorem Painted.Ring.apply {p : Painted} (h : p.Ring) (call : ButtonCall) :
    (call.apply p).Ring := by
  cases call with
  | geometry call => cases call <;> exact ⟨rfl, rfl⟩
  | setProgress progress => exact ⟨h.radius, h.paint⟩
  | setmTotalProgress totalProgress => exact ⟨h.radius, h.paint⟩

theorem Painted.Ring.foldl {p : Painted} (h : p.Ring) (calls : List ButtonCall) :
    (calls.foldl ButtonCall.apply p).Ring := by
  induction calls generalizing p with
  | nil => exact h
  | cons call calls ih => exact ih (h.apply call)

theorem Painted.Ring.onEdge {p : Painted} (h : p.Ring) {width height : Int} {arc : Arc}
    (drawn : (p.onDraw width height).arc = some arc) : (p.onDraw width height).OnEdge arc := by
  simp only [Painted.onDraw] at drawn
  split at drawn
  · obtain rfl := Option.some.inj drawn
    have radius := h.radius
    have paint := h.paint
    refine ⟨?_, ?_, ?_, ?_⟩ <;> simp only [Painted.onDraw] <;> linarith
  · simp at drawn

/-- The part of the circle that is drawn, while the progress is within the total. -/
theorem sweep_range {p : Painted} {width height : Int} {arc : Arc}
    (drawn : (p.onDraw width height).arc = some arc)
    (inRange : p.view.mProgress.toInt ≤ p.view.mTotalProgress.toInt) :
    0 < arc.sweepAngle ∧ arc.sweepAngle ≤ 360 := by
  simp only [Painted.onDraw] at drawn
  split at drawn
  · rename_i positive
    obtain rfl := Option.some.inj drawn
    have progress : (0 : ℚ) < p.view.mProgress.toInt := by exact_mod_cast positive
    have total : (p.view.mProgress.toInt : ℚ) ≤ p.view.mTotalProgress.toInt := by
      exact_mod_cast inRange
    have part : (p.view.mProgress.toInt : ℚ) / p.view.mTotalProgress.toInt ≤ 1 :=
      div_le_one_of_le₀ total (progress.le.trans total)
    have positive : (0 : ℚ) < p.view.mProgress.toInt / p.view.mTotalProgress.toInt :=
      div_pos progress (progress.trans_le total)
    constructor
    · simp only
      linarith
    · simp only
      linarith
  · simp at drawn

/-- The button of a layout after calls on it, the first one first. -/
def painted (lpWidth lpHeight : Int) (density : ℚ) (attrs : AttributeSet)
    (calls : List ButtonCall) : Painted :=
  calls.foldl ButtonCall.apply
    (CustomProgress.initAttrs lpWidth lpHeight density attrs).initVariable

/-- Whatever the layout and the calls on the button, and whatever its size on the screen, the arc
that is drawn runs along the edge of the big circle, and it is a part of the circle, more than
nothing and at most all of it, while the progress is within the total. -/
theorem onDraw_onEdge (lpWidth lpHeight : Int) (density : ℚ) (attrs : AttributeSet)
    (calls : List ButtonCall) (width height : Int) (arc : Arc)
    (drawn : ((painted lpWidth lpHeight density attrs calls).onDraw width height).arc = some arc) :
    ((painted lpWidth lpHeight density attrs calls).onDraw width height).OnEdge arc ∧
      ((painted lpWidth lpHeight density attrs calls).view.mProgress.toInt ≤
          (painted lpWidth lpHeight density attrs calls).view.mTotalProgress.toInt →
        0 < arc.sweepAngle ∧ arc.sweepAngle ≤ 360) := by
  have first : (CustomProgress.initAttrs lpWidth lpHeight density attrs).initVariable.Ring :=
    ⟨rfl, rfl⟩
  exact ⟨(first.foldl calls).onEdge drawn, sweep_range drawn⟩

/-- A quarter of the progress on the button that a press has enlarged. -/
def quarter : Painted :=
  painted 78 78 1 { radius := some 24, strokeWidth := some 0, circleWidth := some 10 }
    [.setmTotalProgress MAX_TIME, .geometry .changeAttrs, .setProgress 250]

theorem onDraw_onEdge_quarter :
    (quarter.onDraw 110 110).OnEdge
        { oval := { left := 5 / 2, top := 5 / 2, right := 215 / 2, bottom := 215 / 2 }
          startAngle := -90, sweepAngle := 90, strokeWidth := 5 } ∧
      (quarter.view.mProgress.toInt ≤ quarter.view.mTotalProgress.toInt →
        (0 : ℚ) < 90 ∧ (90 : ℚ) ≤ 360) :=
  onDraw_onEdge 78 78 1 { radius := some 24, strokeWidth := some 0, circleWidth := some 10 }
    [.setmTotalProgress MAX_TIME, .geometry .changeAttrs, .setProgress 250] 110 110
    { oval := { left := 5 / 2, top := 5 / 2, right := 215 / 2, bottom := 215 / 2 }
      startAngle := -90, sweepAngle := 90, strokeWidth := 5 }
    (by
      simp [painted, Painted.onDraw, ButtonCall.apply, GeometryCall.apply, MAX_TIME,
        CustomProgress.initAttrs, CustomProgress.initVariable, CustomProgress.changeAttrs,
        CustomProgress.setProgress, CustomProgress.setmTotalProgress, customProgressRadius,
        customProgressStrokeWidth, customProgressCircleWidth]
      norm_num)

end StudyProject.Video
