import StudyProject.Library.LineBreak
import StudyProject.Library.Stack
import StudyProject.Widget.EmojiFlowLayout

/-! The two loops of `EmojiFlowLayout` against greedy line breaking.  `onLayout` collects the lines
that `fill` makes from an empty line and records a running maximum of their heights.  `onMeasure`
breaks at the same children and adds up the lines' own heights. -/

namespace StudyProject.Widget

open StudyProject.Library.LineBreak StudyProject.Library.Stack

/-- The rows of a width: the greedy lines by outer width, with an empty line before an oversize
first child. -/
def rows (width : Int) (children : List View) : List (List View) :=
  fill View.outerWidth width [] children

/-- The largest outer height of a row. -/
def tallest (row : List View) : Nat := peak (row.map View.outerHeight)

@[simp] theorem tallest_nil : tallest [] = 0 := rfl

@[simp] theorem tallest_cons (child : View) (row : List View) :
    tallest (child :: row) = max child.outerHeight (tallest row) := rfl

@[simp] theorem tallest_append (row row' : List View) :
    tallest (row ++ row') = max (tallest row) (tallest row') := by
  simp [tallest]

/-! ### `onLayout` -/

theorem rowStep_break {width : Int} {s : RowState} {c : View}
    (exceeds : width < (s.lineWidth + c.outerWidth : Nat)) :
    rowStep width s c =
      { mAllViews := s.mAllViews ++ [s.lineViews]
        mLineHeight := s.mLineHeight ++ [s.lineHeight]
        lineWidth := c.outerWidth
        lineHeight := max s.lineHeight c.outerHeight
        lineViews := [c] } := by
  have test : width < (c.measuredWidth + c.lp.leftMargin + c.lp.rightMargin +
      s.lineWidth : Nat) := by
    simpa only [View.outerWidth, Nat.add_comm s.lineWidth] using exceeds
  simp only [rowStep, if_pos test, View.outerWidth, View.outerHeight, Nat.zero_add,
    List.nil_append]

theorem rowStep_stay {width : Int} {s : RowState} {c : View}
    (room : ¬width < (s.lineWidth + c.outerWidth : Nat)) :
    rowStep width s c =
      { s with
        lineWidth := s.lineWidth + c.outerWidth
        lineHeight := max s.lineHeight c.outerHeight
        lineViews := s.lineViews ++ [c] } := by
  have test : ¬width < (c.measuredWidth + c.lp.leftMargin + c.lp.rightMargin +
      s.lineWidth : Nat) := by
    simpa only [View.outerWidth, Nat.add_comm s.lineWidth] using room
  simp only [rowStep, if_neg test, View.outerWidth, View.outerHeight]

/-- The loop's locals describe the open row: `m` is the largest height of the rows closed
before it. -/
structure OpenRow (m : Nat) (st : RowState) : Prop where
  lineWidth : st.lineWidth = lineSize View.outerWidth st.lineViews
  lineHeight : st.lineHeight = max m (tallest st.lineViews)

theorem openRow_break {width : Int} {s : RowState} {c : View}
    (exceeds : width < (s.lineWidth + c.outerWidth : Nat)) :
    OpenRow s.lineHeight (rowStep width s c) := by
  rw [rowStep_break exceeds]
  exact ⟨by simp, by simp⟩

theorem OpenRow.stay {m : Nat} {st : RowState} (h : OpenRow m st) {width : Int} {child : View}
    (room : ¬width < (st.lineWidth + child.outerWidth : Nat)) :
    OpenRow m (rowStep width st child) := by
  rw [rowStep_stay room]
  exact ⟨by simp [h.lineWidth], by simp [h.lineHeight, Nat.max_assoc]⟩

theorem foldl_rowStep (width : Int) (children : List View) (m : Nat) (st : RowState)
    (h : OpenRow m st) :
    let final := children.foldl (rowStep width) st
    final.mAllViews ++ [final.lineViews] =
        st.mAllViews ++ fill View.outerWidth width st.lineViews children ∧
      final.mLineHeight ++ [final.lineHeight] =
        st.mLineHeight ++
          runningMax m ((fill View.outerWidth width st.lineViews children).map tallest) := by
  induction children generalizing m st with
  | nil => simp [fill, runningMax, h.lineHeight]
  | cons child rest ih =>
    by_cases exceeds : width < (st.lineWidth + child.outerWidth : Nat)
    · have next := ih _ _ (openRow_break exceeds)
      rw [rowStep_break exceeds] at next
      rw [List.foldl_cons, rowStep_break exceeds, fill, ← h.lineWidth, if_pos exceeds]
      simpa [runningMax, h.lineHeight] using next
    · have next := ih _ _ (h.stay exceeds)
      rw [rowStep_stay exceeds] at next
      rw [List.foldl_cons, rowStep_stay exceeds, fill, ← h.lineWidth, if_neg exceeds]
      exact next

theorem buildRows_eq (width : Int) (children : List View) :
    buildRows width children =
      { mAllViews := rows width children
        mLineHeight := runningMax 0 ((rows width children).map tallest) } := by
  obtain ⟨views, heights⟩ := foldl_rowStep width children 0 {} ⟨rfl, rfl⟩
  simp only [buildRows, views, heights, rows, List.nil_append]

/-! ### `onMeasure` -/

theorem measureStep_break {sizeWidth : Int} {s : MeasureState} {c : View}
    (exceeds : sizeWidth < (s.lineWidth + c.outerWidth : Nat)) :
    measureStep sizeWidth s c =
      { width := max s.lineWidth c.outerWidth
        height := s.height + s.lineHeight
        lineWidth := c.outerWidth
        lineHeight := c.outerHeight } := by
  simp only [measureStep, measureBreaks, decide_eq_true_eq, if_pos exceeds]

theorem measureStep_stay {sizeWidth : Int} {s : MeasureState} {c : View}
    (room : ¬sizeWidth < (s.lineWidth + c.outerWidth : Nat)) :
    measureStep sizeWidth s c =
      { s with
        lineWidth := s.lineWidth + c.outerWidth
        lineHeight := max s.lineHeight c.outerHeight } := by
  simp only [measureStep, measureBreaks, decide_eq_true_eq, if_neg room]

/-- The runs between the breaks that `onMeasure` takes are the greedy lines. -/
theorem cutFrom_measureMarks (sizeWidth : Int) (children : List View) {st : MeasureState}
    {row : List View} (h : st.lineWidth = lineSize View.outerWidth row) :
    cutFrom row (measureMarks sizeWidth st children) =
      fill View.outerWidth sizeWidth row children := by
  induction children generalizing st row with
  | nil => rfl
  | cons child rest ih =>
    rw [measureMarks, fill, ← h]
    by_cases exceeds : sizeWidth < (st.lineWidth + child.outerWidth : Nat)
    · rw [if_pos exceeds, measureBreaks, decide_eq_true exceeds, cutFrom,
        ih (by simp [measureStep_break exceeds])]
    · rw [if_neg exceeds, measureBreaks, decide_eq_false exceeds, cutFrom,
        ih (by simp [measureStep_stay exceeds, h])]

theorem cut_measureMarks (sizeWidth : Int) (children : List View) :
    cut (measureMarks sizeWidth {} children) = lines View.outerWidth sizeWidth children := by
  cases children with
  | nil => rfl
  | cons child rest =>
    apply cutFrom_measureMarks
    by_cases exceeds : sizeWidth < (({} : MeasureState).lineWidth + child.outerWidth : Nat)
    · simp [measureStep_break exceeds]
    · simp [measureStep_stay exceeds]

/-- One pass over a non-empty list of children adds the heights of the lines to `height`. -/
theorem measureLoop_height (sizeWidth : Int) {children : List View} (some_ : children ≠ [])
    (st : MeasureState) (row : List View) (width : st.lineWidth = lineSize View.outerWidth row)
    (height : st.lineHeight = tallest row) :
    (measureLoop sizeWidth st children).height =
      st.height + ((fill View.outerWidth sizeWidth row children).map tallest).sum := by
  induction children generalizing st row with
  | nil => exact absurd rfl some_
  | cons child rest ih =>
    rw [measureLoop, fill, ← width]
    by_cases exceeds : sizeWidth < (st.lineWidth + child.outerWidth : Nat)
    · rw [if_pos exceeds, measureStep_break exceeds, List.map_cons, List.sum_cons, ← height,
        ← Nat.add_assoc]
      cases rest with
      | nil => simp [measureLoop, measureLast, fill]
      | cons next rest =>
        rw [List.isEmpty_cons, if_neg Bool.false_ne_true]
        exact ih (by simp) _ [child] (by simp) (by simp)
    · rw [if_neg exceeds, measureStep_stay exceeds]
      cases rest with
      | nil => simp [measureLoop, measureLast, fill, height]
      | cons next rest =>
        rw [List.isEmpty_cons, if_neg Bool.false_ne_true]
        exact ih (by simp) _ (row ++ [child]) (by simp [width]) (by simp [height])

theorem sum_tallest_rows (width : Int) (children : List View) :
    ((rows width children).map tallest).sum =
      ((lines View.outerWidth width children).map tallest).sum := by
  rcases fill_nil_eq View.outerWidth width children with same | extra
  · rw [rows, same]
  · rw [rows, extra]
    simp

theorem measureContent_height (sizeWidth : Int) (children : List View) :
    (measureContent sizeWidth children).height =
      ((lines View.outerWidth sizeWidth children).map tallest).sum := by
  cases children with
  | nil => rfl
  | cons child rest =>
    rw [measureContent, measureLoop_height sizeWidth (by simp) {} [] rfl rfl, Nat.zero_add]
    exact sum_tallest_rows sizeWidth (child :: rest)

/-! ### The rows of the two passes -/

theorem placeRows_isSome (rows : List (List View)) (heights : List Nat)
    (same : rows.length = heights.length) (top : Nat) : (placeRows top rows heights).isSome := by
  induction rows generalizing heights top with
  | nil => rfl
  | cons row rows ih =>
    cases heights with
    | nil => simp at same
    | cons h heights => simpa [placeRows] using ih heights (by simpa using same) (top + h)

/-- `onLayout` reads no height past the end of its list: it always returns. -/
theorem onLayout_eq (f : EmojiFlowLayout) (width : Int) (children : List View) :
    ∃ calls, placeRows 0 (rows width children)
        (runningMax 0 ((rows width children).map tallest)) = some calls ∧
      f.onLayout width children =
        some (⟨rows width children, runningMax 0 ((rows width children).map tallest)⟩, calls) := by
  obtain ⟨calls, placed⟩ := Option.isSome_iff_exists.mp
    (placeRows_isSome (rows width children)
      (runningMax 0 ((rows width children).map tallest)) (by simp) 0)
  refine ⟨calls, placed, ?_⟩
  simp only [EmojiFlowLayout.onLayout, buildRows_eq, placed, Option.map_some]

/-- The rows that `onLayout` collects, without an empty leading one, are the runs of children
between the breaks that `onMeasure` takes, and the height that `onMeasure` computes is the sum of
the largest outer heights of those rows. -/
theorem rows_eq_runs (f : EmojiFlowLayout) (width : Int) (children : List View) :
    ∃ laid calls, f.onLayout width children = some (laid, calls) ∧
      dropEmptyHead laid.mAllViews = cut (measureMarks width {} children) ∧
      (measureContent width children).height =
        ((dropEmptyHead laid.mAllViews).map tallest).sum := by
  obtain ⟨calls, -, run⟩ := onLayout_eq f width children
  have drop : dropEmptyHead (rows width children) = lines View.outerWidth width children :=
    dropEmptyHead_fill View.outerWidth width children
  refine ⟨_, calls, run, ?_, ?_⟩
  · rw [drop, cut_measureMarks]
  · rw [drop, measureContent_height]

end StudyProject.Widget
