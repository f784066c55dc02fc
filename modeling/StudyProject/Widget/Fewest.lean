import StudyProject.Widget.Lines

/-! `onLayout` uses as few rows as any cut of the children into rows that fit.  Where every child
fits on a line of its own, the rows are the greedy lines, and no cut has fewer of those. -/

namespace StudyProject.Widget

open StudyProject.Library.LineBreak StudyProject.Library.Stack

/-- Without an oversize first child the rows are the greedy lines. -/
theorem rows_eq_lines {width : Int} {children : List View} (some_ : children ≠ [])
    (small : ∀ child ∈ children, (child.outerWidth : Int) ≤ width) :
    rows width children = lines View.outerWidth width children := by
  cases children with
  | nil => exact absurd rfl some_
  | cons child rest =>
    have room : ¬width < (lineSize View.outerWidth [] + child.outerWidth : Nat) := by
      have := small child (by simp)
      rw [lineSize_nil]
      omega
    rw [rows, fill, if_neg room, lines, List.nil_append]

theorem rows_length_le {width : Int} {children : List View} (some_ : children ≠ [])
    (small : ∀ child ∈ children, (child.outerWidth : Int) ≤ width) {cuts : List (List View)}
    (whole : cuts.flatten = children)
    (fits : ∀ row ∈ cuts, (lineSize View.outerWidth row : Int) ≤ width) :
    (rows width children).length ≤ cuts.length := by
  rw [rows_eq_lines some_ small, ← whole]
  exact lines_fewest View.outerWidth width fits

/-- `onLayout` cuts the children into rows that fit, no such cut has fewer rows, and a wider layout
builds no more. -/
theorem fewest_rows (f : EmojiFlowLayout) (width : Int) (children : List View)
    (some_ : children ≠ []) (small : ∀ child ∈ children, (child.outerWidth : Int) ≤ width) :
    ∃ laid calls, f.onLayout width children = some (laid, calls) ∧
      laid.mAllViews.flatten = children ∧
      (∀ row ∈ laid.mAllViews, (lineSize View.outerWidth row : Int) ≤ width) ∧
      (∀ cuts : List (List View), cuts.flatten = children →
        (∀ row ∈ cuts, (lineSize View.outerWidth row : Int) ≤ width) →
          laid.mAllViews.length ≤ cuts.length) ∧
      ∀ (f' : EmojiFlowLayout) (wider : Int), width ≤ wider →
        ∃ laid' calls', f'.onLayout wider children = some (laid', calls') ∧
          laid'.mAllViews.length ≤ laid.mAllViews.length := by
  obtain ⟨calls, -, run⟩ := onLayout_eq f width children
  have flat : (rows width children).flatten = children := by
    rw [rows_eq_lines some_ small, lines_flatten]
  have within_ : ∀ row ∈ rows width children, (lineSize View.outerWidth row : Int) ≤ width := by
    rw [rows_eq_lines some_ small]
    exact lines_within View.outerWidth width small
  refine ⟨_, calls, run, flat, within_,
    fun cuts whole fits => rows_length_le some_ small whole fits, ?_⟩
  intro f' wider le
  obtain ⟨calls', -, run'⟩ := onLayout_eq f' wider children
  refine ⟨_, calls', run', ?_⟩
  -- The narrower layout's own rows are a cut for the wider one.
  apply rows_length_le some_ (fun child mem => (small child mem).trans le) flat
  exact fun row mem => (within_ row mem).trans le

/-- Three children of width 5 in a layout of width 10. -/
theorem fewest_rows_three :
    ∃ laid calls, ({} : EmojiFlowLayout).onLayout 10 (List.replicate 3 ⟨.visible, 5, 5, {}⟩) =
        some (laid, calls) ∧
      laid.mAllViews.flatten = List.replicate 3 ⟨.visible, 5, 5, {}⟩ ∧
      (∀ row ∈ laid.mAllViews, (lineSize View.outerWidth row : Int) ≤ 10) ∧
      (∀ cuts : List (List View), cuts.flatten = List.replicate 3 ⟨.visible, 5, 5, {}⟩ →
        (∀ row ∈ cuts, (lineSize View.outerWidth row : Int) ≤ 10) →
          laid.mAllViews.length ≤ cuts.length) ∧
      ∀ (f' : EmojiFlowLayout) (wider : Int), 10 ≤ wider →
        ∃ laid' calls',
          f'.onLayout wider (List.replicate 3 ⟨.visible, 5, 5, {}⟩) = some (laid', calls') ∧
          laid'.mAllViews.length ≤ laid.mAllViews.length :=
  fewest_rows {} 10 _ (by decide) (by decide)

end StudyProject.Widget
