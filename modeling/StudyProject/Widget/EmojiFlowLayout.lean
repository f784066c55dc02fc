import StudyProject.Library.Rect

/-! `EmojiFlowLayout`, a `ViewGroup` that puts its children on lines from left to right.  The model
has the measuring pass `onMeasure` and the layout pass `onLayout`, each with its own loop over the
children.  Measured sizes and margins are exact natural numbers; the width may be any integer. -/

namespace StudyProject.Widget

open StudyProject.Library (Rect)

/-- `View.VISIBLE`, `View.INVISIBLE` and `View.GONE`. -/
inductive Visibility where
  | visible
  | invisible
  | gone
deriving DecidableEq, Repr

/-- The margins of a child. -/
structure MarginLayoutParams where
  leftMargin : Nat := 0
  topMargin : Nat := 0
  rightMargin : Nat := 0
  bottomMargin : Nat := 0
deriving DecidableEq, Repr

/-- A child as the two passes see it, with the size that `measureChild` gave it. -/
structure View where
  visibility : Visibility := .visible
  measuredWidth : Nat
  measuredHeight : Nat
  lp : MarginLayoutParams := {}
deriving DecidableEq, Repr

/-- A call `child.layout(left, top, right, bottom)`. -/
structure LayoutCall where
  child : View
  left : Nat
  top : Nat
  right : Nat
  bottom : Nat
deriving DecidableEq, Repr

/-- The fields of the layout, which keep the rows of the last layout pass. -/
structure EmojiFlowLayout where
  mAllViews : List (List View) := []
  mLineHeight : List Nat := []
deriving DecidableEq, Repr

/-! ### `onLayout` -/

/-- The rows built so far and the locals of the first loop of `onLayout`. -/
structure RowState where
  mAllViews : List (List View) := []
  mLineHeight : List Nat := []
  lineWidth : Nat := 0
  lineHeight : Nat := 0
  lineViews : List View := []
deriving DecidableEq, Repr

/-- The body of the first loop of `onLayout`. -/
def rowStep (width : Int) (st : RowState) (child : View) : RowState :=
  let lp := child.lp
  let childWidth := child.measuredWidth
  let childHeight := child.measuredHeight
  let st :=
    if width < (childWidth + lp.leftMargin + lp.rightMargin + st.lineWidth : Nat) then
      { st with
        mLineHeight := st.mLineHeight ++ [st.lineHeight]
        mAllViews := st.mAllViews ++ [st.lineViews]
        lineWidth := 0
        -- `lineHeight` keeps its value here
        lineViews := [] }
    else st
  { st with
    lineWidth := st.lineWidth + (childWidth + lp.leftMargin + lp.rightMargin)
    lineHeight := max st.lineHeight (childHeight + lp.topMargin + lp.bottomMargin)
    lineViews := st.lineViews ++ [child] }

/-- The first loop of `onLayout` and the two statements after it, from cleared fields. -/
def buildRows (width : Int) (children : List View) : EmojiFlowLayout :=
  let st := children.foldl (rowStep width) {}
  { mAllViews := st.mAllViews ++ [st.lineViews]
    mLineHeight := st.mLineHeight ++ [st.lineHeight] }

/-- The inner loop of the placement: the children of one row from `left` on, `GONE` ones
skipped. -/
def placeRow (top left : Nat) : List View → List LayoutCall
  | [] => []
  | child :: rest =>
    if child.visibility = .gone then placeRow top left rest
    else
      let lp := child.lp
      let lc := left + lp.leftMargin
      let tc := top + lp.topMargin
      let rc := lc + child.measuredWidth
      let bc := tc + child.measuredHeight
      ⟨child, lc, tc, rc, bc⟩ ::
        placeRow top (left + (child.measuredWidth + lp.rightMargin + lp.leftMargin)) rest

/-- The outer loop of the placement over the two parallel lists.  `none` is the
`IndexOutOfBoundsException` of `mLineHeight.get(i)`. -/
def placeRows (top : Nat) : List (List View) → List Nat → Option (List LayoutCall)
  | [], _ => some []
  | _ :: _, [] => none
  | lineViews :: rows, lineHeight :: heights =>
    (placeRows (top + lineHeight) rows heights).map (placeRow top 0 lineViews ++ ·)

/-- `onLayout` with `getWidth() = width`: the fields after the pass and the calls of `layout` in
order. -/
def EmojiFlowLayout.onLayout (_this : EmojiFlowLayout) (width : Int) (children : List View) :
    Option (EmojiFlowLayout × List LayoutCall) :=
  let built := buildRows width children
  (placeRows 0 built.mAllViews built.mLineHeight).map fun calls => (built, calls)

/-! ### `onMeasure` -/

/-- The locals of the loop of `onMeasure`. -/
structure MeasureState where
  width : Nat := 0
  height : Nat := 0
  lineWidth : Nat := 0
  lineHeight : Nat := 0
deriving DecidableEq, Repr

/-- `childWidth` of `onMeasure`. -/
def View.outerWidth (child : View) : Nat :=
  child.measuredWidth + child.lp.leftMargin + child.lp.rightMargin

/-- `childHeight` of `onMeasure`. -/
def View.outerHeight (child : View) : Nat :=
  child.measuredHeight + child.lp.topMargin + child.lp.bottomMargin

/-- The break test of `onMeasure`. -/
def measureBreaks (sizeWidth : Int) (st : MeasureState) (child : View) : Bool :=
  sizeWidth < (st.lineWidth + child.outerWidth : Nat)

/-- The body of the loop of `onMeasure`, without the statement for the last child. -/
def measureStep (sizeWidth : Int) (st : MeasureState) (child : View) : MeasureState :=
  let childWidth := child.outerWidth
  let childHeight := child.outerHeight
  if measureBreaks sizeWidth st child then
    { width := max st.lineWidth childWidth
      lineWidth := childWidth
      height := st.height + st.lineHeight
      lineHeight := childHeight }
  else
    { st with
      lineWidth := st.lineWidth + childWidth
      lineHeight := max st.lineHeight childHeight }

/-- The statement of the loop for `i == cCount - 1`. -/
def measureLast (st : MeasureState) : MeasureState :=
  { st with
    width := max st.width st.lineWidth
    height := st.height + st.lineHeight }

/-- The loop of `onMeasure`. -/
def measureLoop (sizeWidth : Int) (st : MeasureState) : List View → MeasureState
  | [] => st
  | child :: rest =>
    let st := measureStep sizeWidth st child
    measureLoop sizeWidth (if rest.isEmpty then measureLast st else st) rest

/-- The locals of `onMeasure` after its loop: `width` and `height` are the measured content. -/
def measureContent (sizeWidth : Int) (children : List View) : MeasureState :=
  measureLoop sizeWidth {} children

/-- `MeasureSpec.EXACTLY`, `AT_MOST` and `UNSPECIFIED`. -/
inductive SpecMode where
  | exactly
  | atMost
  | unspecified
deriving DecidableEq, Repr

/-- A `MeasureSpec`, unpacked. -/
structure MeasureSpec where
  mode : SpecMode
  size : Int
deriving DecidableEq, Repr

/-- The width and height that `onMeasure` passes to `setMeasuredDimension`. -/
def onMeasure (widthSpec heightSpec : MeasureSpec) (children : List View) : Int × Int :=
  let content := measureContent widthSpec.size children
  (if widthSpec.mode = .exactly then widthSpec.size else content.width,
    if heightSpec.mode = .exactly then heightSpec.size else content.height)

/-- The marks of `onMeasure`'s line breaks: each child with the outcome of its break test. -/
def measureMarks (sizeWidth : Int) (st : MeasureState) : List View → List (Bool × View)
  | [] => []
  | child :: rest =>
    (measureBreaks sizeWidth st child, child) ::
      measureMarks sizeWidth (measureStep sizeWidth st child) rest

/-- The child's rectangle with its margins, as a call of `layout` puts it. -/
def LayoutCall.outer (call : LayoutCall) : Rect Int where
  left := (call.left : Int) - call.child.lp.leftMargin
  top := (call.top : Int) - call.child.lp.topMargin
  right := call.right + call.child.lp.rightMargin
  bottom := call.bottom + call.child.lp.bottomMargin

end StudyProject.Widget
