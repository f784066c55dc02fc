import StudyProject.Widget.Lines

/-! The `wrap_content` width of `EmojiFlowLayout`.  At a line break `onMeasure` replaces the width
it has, where its other statements keep the larger one, so the width it ends with is that of the
wider of the last two lines. -/

namespace StudyProject.Widget

open StudyProject.Library.LineBreak StudyProject.Library.Stack

/-- The width that `onMeasure` carries along the lines of these widths: a line that is closed
replaces it, and the last line is compared with it. -/
def carried (m : Nat) : List Nat → Nat
  | [] => m
  | [w] => max m w
  | w :: w' :: rest => carried w (w' :: rest)

/-- The last two numbers of a list, or all of it. -/
def lastTwo (widths : List Nat) : List Nat := widths.drop (widths.length - 2)

theorem carried_max {m c w : Nat} (le : c ≤ w) (rest : List Nat) :
    carried (max m c) (w :: rest) = carried m (w :: rest) := by
  cases rest with
  | nil =>
    simp only [carried]
    omega
  | cons w' rest => rfl

theorem measureLoop_width (sizeWidth : Int) {children : List View} (some_ : children ≠ [])
    (st : MeasureState) (row : List View) (width : st.lineWidth = lineSize View.outerWidth row) :
    (measureLoop sizeWidth st children).width =
      carried st.width
        ((fill View.outerWidth sizeWidth row children).map (lineSize View.outerWidth)) := by
  induction children generalizing st row with
  | nil => exact absurd rfl some_
  | cons child rest ih =>
    rw [measureLoop, fill, ← width]
    by_cases exceeds : sizeWidth < (st.lineWidth + child.outerWidth : Nat)
    · rw [if_pos exceeds, measureStep_break exceeds]
      cases rest with
      | nil => simp [measureLoop, measureLast, fill, carried, width]
      | cons next rest =>
        rw [List.isEmpty_cons, if_neg Bool.false_ne_true, ih (by simp) _ [child] (by simp)]
        -- The next line starts with this child, so it is at least as wide.
        obtain ⟨more, others, head⟩ := fill_head View.outerWidth sizeWidth [child] (next :: rest)
        rw [head, List.map_cons, List.map_cons, List.map_cons, ← width, carried, carried_max]
        simp
    · rw [if_neg exceeds, measureStep_stay exceeds]
      cases rest with
      | nil => simp [measureLoop, measureLast, fill, carried, width]
      | cons next rest =>
        rw [List.isEmpty_cons, if_neg Bool.false_ne_true]
        exact ih (by simp) _ (row ++ [child]) (by simp [width])

theorem carried_eq_lastTwo (m w w' : Nat) (rest : List Nat) :
    carried m (w :: w' :: rest) = peak (lastTwo (w :: w' :: rest)) := by
  induction rest generalizing m w w' with
  | nil => simp [carried, lastTwo]
  | cons x rest ih =>
    rw [carried, ih w w' x]
    simp [lastTwo]

theorem measureContent_width {sizeWidth : Int} {children : List View}
    (small : ∀ child ∈ children, (child.outerWidth : Int) ≤ sizeWidth) :
    (measureContent sizeWidth children).width =
      peak (lastTwo ((lines View.outerWidth sizeWidth children).map
        (lineSize View.outerWidth))) := by
  cases children with
  | nil => rfl
  | cons child rest =>
    have room : ¬sizeWidth < (lineSize View.outerWidth [] + child.outerWidth : Nat) := by
      have := small child (by simp)
      rw [lineSize_nil]
      omega
    rw [measureContent, measureLoop_width sizeWidth (by simp) {} [] rfl, fill, if_neg room, lines,
      List.nil_append]
    rcases (fill View.outerWidth sizeWidth [child] rest).map (lineSize View.outerWidth) with
      - | ⟨w, - | ⟨w', widths⟩⟩
    · rfl
    · simp [carried, lastTwo]
    · exact carried_eq_lastTwo 0 w w' widths

theorem peak_lastTwo_eq_iff (widths : List Nat) :
    peak (lastTwo widths) = peak widths ↔ ∀ w ∈ widths, w ≤ peak (lastTwo widths) := by
  constructor
  · intro same w mem
    rw [same]
    exact le_peak mem
  · intro bound
    apply Nat.le_antisymm
    · exact peak_le fun w mem => le_peak (List.mem_of_mem_drop mem)
    · exact peak_le bound

/-- A layout as wide as the widest line has the lines of the wider layout it was measured for. -/
theorem onLayout_peak {sizeWidth : Int} {children : List View}
    (small : ∀ child ∈ children, (child.outerWidth : Int) ≤ sizeWidth) (f : EmojiFlowLayout) :
    ∃ laid calls, f.onLayout (peak ((lines View.outerWidth sizeWidth children).map
        (lineSize View.outerWidth)) : Nat) children = some (laid, calls) ∧
      dropEmptyHead laid.mAllViews = lines View.outerWidth sizeWidth children := by
  obtain ⟨calls, -, run⟩ := onLayout_eq f (peak ((lines View.outerWidth sizeWidth children).map
    (lineSize View.outerWidth)) : Nat) children
  refine ⟨_, calls, run, ?_⟩
  rw [rows, dropEmptyHead_fill]
  cases children with
  | nil => rfl
  | cons child rest =>
    apply lines_narrow
    · have wide : (0 : Int) ≤ sizeWidth := by
        have := small child (by simp)
        omega
      have : peak ((lines View.outerWidth sizeWidth (child :: rest)).map
          (lineSize View.outerWidth)) ≤ sizeWidth.toNat := by
        apply peak_le
        intro w mem
        obtain ⟨row, line, rfl⟩ := List.mem_map.mp mem
        have := lines_within View.outerWidth sizeWidth small row line
        omega
      omega
    · intro row line
      exact_mod_cast le_peak (List.mem_map_of_mem line)

/-- The measured width is that of the widest line, and a layout of that width has the measured
lines, exactly when no line is wider than the wider of the last two. -/
theorem wrap_content_iff (f : EmojiFlowLayout) (widthSpec heightSpec : MeasureSpec)
    (children : List View) (wraps : widthSpec.mode ≠ .exactly)
    (small : ∀ child ∈ children, (child.outerWidth : Int) ≤ widthSpec.size) :
    ((onMeasure widthSpec heightSpec children).1 =
        (peak ((cut (measureMarks widthSpec.size {} children)).map
          (lineSize View.outerWidth)) : Nat) ∧
      ∃ laid calls,
        f.onLayout (onMeasure widthSpec heightSpec children).1 children = some (laid, calls) ∧
          dropEmptyHead laid.mAllViews = cut (measureMarks widthSpec.size {} children)) ↔
    ∀ w ∈ (lines View.outerWidth widthSpec.size children).map (lineSize View.outerWidth),
      w ≤ peak (lastTwo ((lines View.outerWidth widthSpec.size children).map
        (lineSize View.outerWidth))) := by
  have measured : (onMeasure widthSpec heightSpec children).1 =
      (peak (lastTwo ((lines View.outerWidth widthSpec.size children).map
        (lineSize View.outerWidth))) : Nat) := by
    rw [onMeasure, if_neg wraps, measureContent_width small]
  rw [measured, cut_measureMarks, ← peak_lastTwo_eq_iff, Int.natCast_inj]
  constructor
  · exact And.left
  · intro same
    rw [same]
    exact ⟨rfl, onLayout_peak small f⟩

/-- A line of width 10 and two of width 6. -/
def widerFirst : List View :=
  [{ measuredWidth := 10, measuredHeight := 5 }, { measuredWidth := 6, measuredHeight := 5 },
    { measuredWidth := 6, measuredHeight := 5 }]

/-- In a width of 30 they stand on one line, and the measured width is right. -/
theorem wrap_content_one_line :
    (onMeasure ⟨.atMost, 30⟩ ⟨.unspecified, 0⟩ widerFirst).1 =
        (peak ((cut (measureMarks 30 {} widerFirst)).map (lineSize View.outerWidth)) : Nat) ∧
      ∃ laid calls,
        ({} : EmojiFlowLayout).onLayout (onMeasure ⟨.atMost, 30⟩ ⟨.unspecified, 0⟩ widerFirst).1
            widerFirst = some (laid, calls) ∧
          dropEmptyHead laid.mAllViews = cut (measureMarks 30 {} widerFirst) :=
  (wrap_content_iff {} ⟨.atMost, 30⟩ ⟨.unspecified, 0⟩ widerFirst (by decide)
    (by decide)).mpr (by decide)

/-- In a width of 10 `onMeasure` computes the width 6. -/
theorem wrap_content_wider_first :
    (∀ child ∈ widerFirst, child.visibility ≠ .gone ∧ (child.outerWidth : Int) ≤ 10) ∧
      ¬((onMeasure ⟨.atMost, 10⟩ ⟨.unspecified, 0⟩ widerFirst).1 =
          (peak ((cut (measureMarks 10 {} widerFirst)).map (lineSize View.outerWidth)) : Nat) ∧
        ∃ laid calls,
          ({} : EmojiFlowLayout).onLayout
              (onMeasure ⟨.atMost, 10⟩ ⟨.unspecified, 0⟩ widerFirst).1 widerFirst =
            some (laid, calls) ∧
          dropEmptyHead laid.mAllViews = cut (measureMarks 10 {} widerFirst)) := by
  refine ⟨by decide, ?_⟩
  rintro ⟨widest, -⟩
  exact absurd widest (by decide)

end StudyProject.Widget
