import StudyProject.Widget.Lines

/-! How far down the two passes of `EmojiFlowLayout` reach.  `onMeasure` adds up the heights of the
lines, while `onLayout` moves down by the largest height so far, so the passes agree exactly when
no line but the last is lower than a line above it. -/

namespace StudyProject.Widget

open StudyProject.Library.LineBreak StudyProject.Library.Stack

/-- The laid-out bottom of a child plus its bottom margin. -/
def LayoutCall.outerBottom (call : LayoutCall) : Nat := call.bottom + call.child.lp.bottomMargin

/-- The lowest outer bottom of the children, 0 for none. -/
def extent (calls : List LayoutCall) : Nat := peak (calls.map LayoutCall.outerBottom)

theorem extent_append (calls calls' : List LayoutCall) :
    extent (calls ++ calls') = max (extent calls) (extent calls') := by
  simp [extent]

theorem outerBottom_le_extent {calls : List LayoutCall} {call : LayoutCall} (mem : call ∈ calls) :
    call.outerBottom ≤ extent calls :=
  le_peak (List.mem_map_of_mem mem)

theorem extent_placeRow {row : List View} (visible : ∀ child ∈ row, child.visibility ≠ .gone)
    (some_ : row ≠ []) (top left : Nat) :
    extent (placeRow top left row) = top + tallest row := by
  induction row generalizing left with
  | nil => exact absurd rfl some_
  | cons child rest ih =>
    obtain ⟨shown, others⟩ := List.forall_mem_cons.mp visible
    have bottom : top + child.lp.topMargin + child.measuredHeight + child.lp.bottomMargin =
        top + child.outerHeight := by
      simp only [View.outerHeight]
      omega
    rw [placeRow, if_neg shown]
    cases rest with
    | nil => simp [placeRow, extent, LayoutCall.outerBottom, bottom]
    | cons next rest =>
      have below := ih others (by simp)
        (left + (child.measuredWidth + child.lp.rightMargin + child.lp.leftMargin))
      simp only [extent, List.map_cons, peak_cons, LayoutCall.outerBottom, bottom] at below ⊢
      rw [below, tallest_cons child]
      omega

theorem extent_placeRows {rows : List (List View)}
    (visible : ∀ row ∈ rows, ∀ child ∈ row, child.visibility ≠ .gone)
    (some_ : ∀ row ∈ rows, row ≠ []) {top m : Nat} {calls : List LayoutCall}
    (placed : placeRows top rows (runningMax m (rows.map tallest)) = some calls) :
    extent calls = reach top m (rows.map tallest) := by
  induction rows generalizing top m calls with
  | nil =>
    obtain rfl : [] = calls := by simpa [placeRows] using placed
    rfl
  | cons row rows ih =>
    obtain ⟨shown, others⟩ := List.forall_mem_cons.mp visible
    obtain ⟨filled, fills⟩ := List.forall_mem_cons.mp some_
    simp only [List.map_cons, runningMax, placeRows, Option.map_eq_some_iff] at placed
    obtain ⟨below, placed, rfl⟩ := placed
    rw [extent_append, extent_placeRow shown filled, ih others fills placed, List.map_cons, reach]

/-- An empty leading row takes no height and no call. -/
theorem placeRows_rows (width : Int) (children : List View) :
    placeRows 0 (rows width children) (runningMax 0 ((rows width children).map tallest)) =
      placeRows 0 (lines View.outerWidth width children)
        (runningMax 0 ((lines View.outerWidth width children).map tallest)) := by
  rcases fill_nil_eq View.outerWidth width children with same | extra
  · rw [rows, same]
  · rw [rows, extra]
    simp [runningMax, placeRows, placeRow]

theorem mem_of_mem_lines {width : Int} {children row : List View} {child : View}
    (line : row ∈ lines View.outerWidth width children) (mem : child ∈ row) : child ∈ children := by
  have flat := fill_flatten View.outerWidth width [] children
  have : child ∈ (rows width children).flatten := by
    rw [List.mem_flatten]
    refine ⟨row, ?_, mem⟩
    rcases fill_nil_eq View.outerWidth width children with same | extra
    · rwa [rows, same]
    · rw [rows, extra]
      exact List.mem_cons_of_mem _ line
  rw [rows, flat] at this
  simpa using this

theorem extent_onLayout {width : Int} {children : List View}
    (visible : ∀ child ∈ children, child.visibility ≠ .gone) {calls : List LayoutCall}
    (placed : placeRows 0 (rows width children)
      (runningMax 0 ((rows width children).map tallest)) = some calls) :
    extent calls = reach 0 0 ((lines View.outerWidth width children).map tallest) := by
  rw [placeRows_rows] at placed
  exact extent_placeRows
    (fun row line child mem => visible child (mem_of_mem_lines line mem))
    (lines_nonempty View.outerWidth width children) placed

/-- The children end within the measured height, and reach it, exactly when the heights of the
lines before the last one ascend. -/
theorem passes_agree_iff (f : EmojiFlowLayout) (width : Int) (children : List View)
    (visible : ∀ child ∈ children, child.visibility ≠ .gone) :
    (∃ laid calls, f.onLayout width children = some (laid, calls) ∧
      (∀ call ∈ calls, call.outerBottom ≤ (measureContent width children).height) ∧
      extent calls = (measureContent width children).height) ↔
    (((lines View.outerWidth width children).map tallest).dropLast).Pairwise (· ≤ ·) := by
  obtain ⟨calls, placed, run⟩ := onLayout_eq f width children
  have lowest := extent_onLayout visible placed
  rw [measureContent_height, ← reach_eq_sum_iff, ← lowest]
  constructor
  · rintro ⟨laid, calls', run', -, same⟩
    rw [run] at run'
    cases run'
    exact same
  · intro same
    refine ⟨_, calls, run, fun call mem => ?_, same⟩
    rw [← same]
    exact outerBottom_le_extent mem

/-- A lone row of height 10 and two of height 5, in a layout of width 10. -/
def shorterRows : List View :=
  [{ measuredWidth := 10, measuredHeight := 10 }, { measuredWidth := 10, measuredHeight := 5 },
    { measuredWidth := 10, measuredHeight := 5 }]

theorem passes_agree_one_row : ∃ laid calls,
    ({} : EmojiFlowLayout).onLayout 30 shorterRows = some (laid, calls) ∧
      (∀ call ∈ calls, call.outerBottom ≤ (measureContent 30 shorterRows).height) ∧
      extent calls = (measureContent 30 shorterRows).height :=
  (passes_agree_iff {} 30 shorterRows (by decide)).mpr (by decide)

/-- `onMeasure` computes the height 20, and `onLayout` puts the bottom of the last row at 25. -/
theorem passes_disagree_shorterRows : (∀ child ∈ shorterRows, child.visibility ≠ .gone) ∧
    ¬∃ laid calls, ({} : EmojiFlowLayout).onLayout 10 shorterRows = some (laid, calls) ∧
      (∀ call ∈ calls, call.outerBottom ≤ (measureContent 10 shorterRows).height) ∧
      extent calls = (measureContent 10 shorterRows).height := by
  have lowest : (({} : EmojiFlowLayout).onLayout 10 shorterRows).map (fun r => extent r.2) =
      some 25 := by decide
  refine ⟨by decide, ?_⟩
  rintro ⟨laid, calls, run, -, same⟩
  rw [run, Option.map_some, same] at lowest
  exact absurd lowest (by decide)

end StudyProject.Widget
