import StudyProject.Video.CustomProgress

/-! The geometry of the record button over any sequence of `changeAttrs` and `changeInitAttrs`.
The size that `changeInitAttrs` restores is saved at each enlargement, so two enlargements in a row
save the enlarged size, and nothing brings the first one back. -/

namespace StudyProject.Video

/-- What the button is drawn with: its size in the layout and its radii and widths. -/
structure Geometry where
  lpWidth : Int
  lpHeight : Int
  mRadius : ℚ
  mStrokeWidth : ℚ
  circleWidth : ℚ
  mRingRadius : ℚ
deriving DecidableEq, Repr

def CustomProgress.geometry (v : CustomProgress) : Geometry :=
  { lpWidth := v.lpWidth, lpHeight := v.lpHeight, mRadius := v.mRadius
    mStrokeWidth := v.mStrokeWidth, circleWidth := v.circleWidth, mRingRadius := v.mRingRadius }

inductive GeometryCall where
  | changeAttrs
  | changeInitAttrs
deriving DecidableEq, Repr

def GeometryCall.apply (v : CustomProgress) : GeometryCall → CustomProgress
  | .changeAttrs => v.changeAttrs
  | .changeInitAttrs => v.changeInitAttrs

/-- The button after the calls, the first one first. -/
def CustomProgress.applyCalls (v : CustomProgress) (calls : List GeometryCall) : CustomProgress :=
  calls.foldl GeometryCall.apply v

@[simp] theorem toJavaInt_intCast (n : Int) : toJavaInt n = n := by
  unfold toJavaInt
  split
  · exact Int.floor_intCast n
  · exact Int.ceil_intCast n

/-! ### The saved size -/

/-- The size on the screen and the saved one: both the first one, the first one saved while the
button is enlarged, or the first one lost. -/
inductive Saved where
  | restored
  | enlarged
  | lost
deriving DecidableEq, Repr

def Saved.next : Saved → GeometryCall → Saved
  | .restored, .changeAttrs => .enlarged
  | .restored, .changeInitAttrs => .restored
  | .enlarged, .changeAttrs => .lost
  | .enlarged, .changeInitAttrs => .restored
  | .lost, _ => .lost

theorem foldl_lost (calls : List GeometryCall) : calls.foldl Saved.next .lost = .lost := by
  induction calls with
  | nil => rfl
  | cons c calls ih => exact ih

/-- The first size is lost by two enlargements with no restoring call between. -/
theorem lost_iff (calls : List GeometryCall) :
    (calls.foldl Saved.next .restored = .lost ↔ [.changeAttrs, .changeAttrs] <:+: calls) ∧
      (calls.foldl Saved.next .enlarged = .lost ↔
        [.changeAttrs, .changeAttrs] <:+: GeometryCall.changeAttrs :: calls) := by
  induction calls with
  | nil => simp [List.infix_cons_iff]
  | cons c calls ih =>
    obtain ⟨restored, enlarged⟩ := ih
    cases c with
    | changeAttrs =>
      constructor
      · exact enlarged
      · rw [List.foldl_cons, Saved.next, foldl_lost]
        simp [List.infix_cons_iff]
    | changeInitAttrs =>
      rw [List.foldl_cons, List.foldl_cons, Saved.next, Saved.next, restored]
      simp [List.infix_cons_iff]

/-! ### The button and its saved values -/

/-- What `changeAttrs` sets both sides to, 110 density-independent pixels. -/
def CustomProgress.enlargedSide (v : CustomProgress) : Int := toJavaInt (110 * v.density)

/-- The button `v` has the display and the saved radius and widths that the first one, `v₀`, had,
and its sizes are as `saved` says. -/
structure Saved.Describes (saved : Saved) (v₀ v : CustomProgress) : Prop where
  density : v.density = v₀.density
  initRadius : v.initRadius = v₀.mRadius
  initStrokeWidth : v.initStrokeWidth = 0
  initCircleWidth : v.initCircleWidth = v₀.circleWidth
  lpWidth : v.lpWidth = if saved = .restored then v₀.lpWidth else v₀.enlargedSide
  lpHeight : v.lpHeight = if saved = .restored then v₀.lpHeight else v₀.enlargedSide
  initWidth : v.initWidth = (if saved = .lost then v₀.enlargedSide else v₀.lpWidth : Int)
  initHeight : v.initHeight = (if saved = .lost then v₀.enlargedSide else v₀.lpHeight : Int)

theorem Saved.Describes.step {saved : Saved} {v₀ v : CustomProgress} (h : saved.Describes v₀ v)
    (call : GeometryCall) : (saved.next call).Describes v₀ (call.apply v) := by
  cases call with
  | changeAttrs =>
    refine ⟨h.density, h.initRadius, h.initStrokeWidth, h.initCircleWidth, ?_, ?_, ?_, ?_⟩
    · cases saved <;> simp [GeometryCall.apply, CustomProgress.changeAttrs, Saved.next, h.density,
        CustomProgress.enlargedSide]
    · cases saved <;> simp [GeometryCall.apply, CustomProgress.changeAttrs, Saved.next, h.density,
        CustomProgress.enlargedSide]
    · show ((v.lpWidth : Int) : ℚ) = _
      rw [h.lpWidth]
      cases saved <;> rfl
    · show ((v.lpHeight : Int) : ℚ) = _
      rw [h.lpHeight]
      cases saved <;> rfl
  | changeInitAttrs =>
    refine ⟨h.density, h.initRadius, h.initStrokeWidth, h.initCircleWidth, ?_, ?_, ?_, ?_⟩
    · show toJavaInt v.initWidth = _
      rw [h.initWidth, toJavaInt_intCast]
      cases saved <;> rfl
    · show toJavaInt v.initHeight = _
      rw [h.initHeight, toJavaInt_intCast]
      cases saved <;> rfl
    · show v.initWidth = _
      rw [h.initWidth]
      cases saved <;> rfl
    · show v.initHeight = _
      rw [h.initHeight]
      cases saved <;> rfl

theorem Saved.Describes.applyCalls {saved : Saved} {v₀ v : CustomProgress}
    (h : saved.Describes v₀ v) (calls : List GeometryCall) :
    (calls.foldl Saved.next saved).Describes v₀ (v.applyCalls calls) := by
  induction calls generalizing saved v with
  | nil => exact h
  | cons call calls ih => exact ih (h.step call)

variable (lpWidth lpHeight : Int) (density : ℚ) (attrs : AttributeSet)

/-- The first enlargement after construction saves the size that the layout file gives. -/
theorem describes_changeAttrs :
    Saved.Describes .enlarged (.initAttrs lpWidth lpHeight density attrs)
      (CustomProgress.initAttrs lpWidth lpHeight density attrs).changeAttrs where
  density := rfl
  initRadius := rfl
  initStrokeWidth := rfl
  initCircleWidth := rfl
  lpWidth := rfl
  lpHeight := rfl
  initWidth := rfl
  initHeight := rfl

theorem Saved.Describes.geometry_changeInitAttrs {saved : Saved} {v : CustomProgress}
    (h : saved.Describes (.initAttrs lpWidth lpHeight density attrs) v) :
    v.changeInitAttrs.geometry =
        (CustomProgress.initAttrs lpWidth lpHeight density attrs).geometry ↔
      attrs.strokeWidth.getD 20 = 0 ∧
        ((lpWidth = toJavaInt (110 * density) ∧ lpHeight = toJavaInt (110 * density)) ∨
          saved ≠ .lost) := by
  have width := h.initWidth
  have height := h.initHeight
  simp only [CustomProgress.geometry, CustomProgress.changeInitAttrs, h.initRadius,
    h.initStrokeWidth, h.initCircleWidth, width, height, toJavaInt_intCast,
    CustomProgress.initAttrs, Geometry.mk.injEq, CustomProgress.enlargedSide, true_and]
  cases saved <;> grind

/-- After each `changeInitAttrs` of a sequence that begins with `changeAttrs` the geometry is the
one the button was constructed with, exactly if the stroke width of the layout file is 0 and either
no two enlargements came in a row before that call or they do not change the size. -/
theorem geometry_restored_iff (calls : List GeometryCall)
    (begins : calls.head? = some .changeAttrs) :
    (∀ before, before ++ [.changeInitAttrs] <+: calls →
      ((CustomProgress.initAttrs lpWidth lpHeight density attrs).applyCalls
          (before ++ [.changeInitAttrs])).geometry =
        (CustomProgress.initAttrs lpWidth lpHeight density attrs).geometry) ↔
    ∀ before, before ++ [.changeInitAttrs] <+: calls →
      attrs.strokeWidth.getD 20 = 0 ∧
        ((lpWidth = toJavaInt (110 * density) ∧ lpHeight = toJavaInt (110 * density)) ∨
          ¬[.changeAttrs, .changeAttrs] <:+: before) := by
  apply forall_congr'
  intro before
  apply imp_congr_right
  intro isPrefix
  match before with
  | [] =>
    obtain ⟨rest, rfl⟩ := isPrefix
    simp at begins
  | call :: before =>
    obtain ⟨rest, rfl⟩ := isPrefix
    obtain rfl : call = .changeAttrs := by simpa using begins
    have described := (describes_changeAttrs lpWidth lpHeight density attrs).applyCalls before
    have restored := described.geometry_changeInitAttrs
    rw [Ne, (lost_iff before).2] at restored
    rw [← restored]
    simp only [CustomProgress.applyCalls, List.foldl_append, List.foldl_cons, List.foldl_nil,
      GeometryCall.apply]

/-- The record button of the layout file, on a display of density 1. -/
def recordButton : CustomProgress :=
  .initAttrs 78 78 1 { radius := some 24, strokeWidth := some 0, circleWidth := some 10 }

/-- One press and one new session. -/
theorem geometry_restored_once :
    [GeometryCall.changeAttrs, .changeInitAttrs].head? = some .changeAttrs ∧
      ∀ before, before ++ [.changeInitAttrs] <+: [.changeAttrs, .changeInitAttrs] →
        (recordButton.applyCalls (before ++ [.changeInitAttrs])).geometry =
          recordButton.geometry := by
  refine ⟨rfl, (geometry_restored_iff 78 78 1
    { radius := some 24, strokeWidth := some 0, circleWidth := some 10 }
    [.changeAttrs, .changeInitAttrs] rfl).mpr ?_⟩
  intro before isPrefix
  refine ⟨rfl, .inr ?_⟩
  intro twice
  have short := isPrefix.length_le
  have long := twice.length_le
  simp at short long
  omega

/-- After two presses in a row `changeInitAttrs` leaves the button enlarged. -/
theorem geometry_lost_twice :
    ¬∀ before, before ++ [.changeInitAttrs] <+: [.changeAttrs, .changeAttrs, .changeInitAttrs] →
      (recordButton.applyCalls (before ++ [.changeInitAttrs])).geometry =
        recordButton.geometry := by
  intro restored
  have width := congrArg Geometry.lpWidth
    (restored [.changeAttrs, .changeAttrs] (List.prefix_refl _))
  simp [CustomProgress.geometry, CustomProgress.applyCalls, GeometryCall.apply,
    CustomProgress.changeAttrs, CustomProgress.changeInitAttrs, recordButton,
    CustomProgress.initAttrs, toJavaInt] at width

end StudyProject.Video
