import Mathlib.Data.Rat.Floor

/-! `CustomProgress`, the round record button: its geometry, which a press enlarges and a new
session restores, and the progress it shows.  Sizes, floats in the source, are exact rationals. -/

namespace StudyProject.Video

/-- `customProgress_radius`, `customProgress_stroke_width` and `customProgress_circle_width`, in
density-independent pixels. -/
def customProgressRadius : ℚ := 19
def customProgressStrokeWidth : ℚ := 5
def customProgressCircleWidth : ℚ := 36

/-- The attributes a layout file may give, in pixels. -/
structure AttributeSet where
  radius : Option ℚ := none
  strokeWidth : Option ℚ := none
  circleWidth : Option ℚ := none
  totalProgress : Option (BitVec 32) := none

/-- The view: the size in its layout parameters, the density of its display, and its fields. -/
structure CustomProgress where
  lpWidth : Int
  lpHeight : Int
  density : ℚ
  mRadius : ℚ
  mRingRadius : ℚ
  circleWidth : ℚ
  mStrokeWidth : ℚ
  mTotalProgress : BitVec 32
  mProgress : BitVec 32 := 0
  initRadius : ℚ
  initStrokeWidth : ℚ
  initCircleWidth : ℚ
  initWidth : ℚ := 0
  initHeight : ℚ := 0

/-- Java's cast of a float to `int`, which cuts the fraction off. -/
def toJavaInt (q : ℚ) : Int := if 0 ≤ q then ⌊q⌋ else ⌈q⌉

namespace CustomProgress

/-- The constructor, with `initAttrs`. -/
def initAttrs (lpWidth lpHeight : Int) (density : ℚ) (attrs : AttributeSet) : CustomProgress :=
  let mRadius := attrs.radius.getD 300
  let mStrokeWidth := attrs.strokeWidth.getD 20
  let circleWidth := attrs.circleWidth.getD 20
  { lpWidth, lpHeight, density, mRadius, mStrokeWidth, circleWidth
    mTotalProgress := attrs.totalProgress.getD 100
    mRingRadius := mRadius + mStrokeWidth / 2
    initRadius := mRadius
    initStrokeWidth := 0
    initCircleWidth := circleWidth }

def changeInitAttrs (v : CustomProgress) : CustomProgress :=
  { v with
    lpWidth := toJavaInt v.initWidth
    lpHeight := toJavaInt v.initHeight
    mRadius := v.initRadius
    mStrokeWidth := v.initStrokeWidth
    circleWidth := v.initCircleWidth
    mRingRadius := v.initRadius + v.initStrokeWidth / 2 }

def changeAttrs (v : CustomProgress) : CustomProgress :=
  { v with
    initWidth := v.lpWidth
    initHeight := v.lpHeight
    lpWidth := toJavaInt (110 * v.density)
    lpHeight := toJavaInt (110 * v.density)
    mRadius := customProgressRadius * v.density
    mStrokeWidth := customProgressStrokeWidth * v.density
    circleWidth := customProgressCircleWidth * v.density
    mRingRadius := customProgressRadius * v.density + customProgressStrokeWidth * v.density / 2 }

def setProgress (v : CustomProgress) (progress : BitVec 32) : CustomProgress :=
  { v with mProgress := progress }

def setmTotalProgress (v : CustomProgress) (totalProgress : BitVec 32) : CustomProgress :=
  { v with mTotalProgress := totalProgress }

end CustomProgress

end StudyProject.Video
