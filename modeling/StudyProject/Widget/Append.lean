import StudyProject.Widget.OnePass
import StudyProject.Widget.Extent

/-! Children added behind the others, and how far the children reach.  A child's frame depends on
the children before it alone, so adding children moves none and only makes the layout higher.  And
the children reach at least as far down as the measured height, by what the running maximum of
`onLayout` adds to the lines before the last one. -/

namespace StudyProject.Widget

open StudyProject.Library.LineBreak StudyProject.Library.Stack

/-- Each child leaves the sum of the closed lines and the open one as high as it was. -/
theorem measureStep_height (sizeWidth : Int) (st : MeasureState) (child : View) :
    st.height + st.lineHeight ≤
      (measureStep sizeWidth st child).height + (measureStep sizeWidth st child).lineHeight := by
  by_cases exceeds : sizeWidth < (st.lineWidth + child.outerWidth : Nat)
  · rw [measureStep_break exceeds]
    exact Nat.le_add_right _ _
  · rw [measureStep_stay exceeds]
    exact Nat.add_le_add_left (Nat.le_max_left _ _) _

theorem foldl_measureStep_height (sizeWidth : Int) (children : List View) (st : MeasureState) :
    st.height + st.lineHeight ≤ (children.foldl (measureStep sizeWidth) st).height +
      (children.foldl (measureStep sizeWidth) st).lineHeight := by
  induction children generalizing st with
  | nil => exact Nat.le_refl _
  | cons child rest ih =>
    exact Nat.le_trans (measureStep_height sizeWidth st child) (ih (measureStep sizeWidth st child))

theorem measureContent_height_append (sizeWidth : Int) (children more : List View) :
    (measureContent sizeWidth children).height ≤
      (measureContent sizeWidth (children ++ more)).height := by
  rw [measureContent_eq_foldl, measureContent_eq_foldl, List.foldl_append]
  exact foldl_measureStep_height sizeWidth more _

/-- Children added at the end move no child before them, whatever is in the fields of the layout,
and do not make the measured height smaller. -/
theorem append_moves_none (f f' : EmojiFlowLayout) (width : Int) (children more : List View) :
    ∃ laid laid' calls calls', f.onLayout width children = some (laid, calls) ∧
      f'.onLayout width (children ++ more) = some (laid', calls ++ calls') ∧
      (measureContent width children).height ≤
        (measureContent width (children ++ more)).height := by
  have first := onLayout_calls f width children
  have all := onLayout_calls f' width (children ++ more)
  rw [Cursor.place_append] at all
  rw [Option.map_eq_some_iff] at first all
  obtain ⟨⟨laid, calls⟩, run, rfl⟩ := first
  obtain ⟨⟨laid', calls'⟩, run', rfl⟩ := all
  exact ⟨laid, laid', _, _, run, run', measureContent_height_append width children more⟩

/-! ### The children below the measured height -/

/-- What the running maximum adds to the lines before the last one. -/
def overhang (heights : List Nat) : Nat :=
  (runningMax 0 heights.dropLast).sum - heights.dropLast.sum

theorem reach_eq_overhang (heights : List Nat) :
    reach 0 0 heights = heights.sum + overhang heights := by
  rcases List.eq_nil_or_concat heights with rfl | ⟨init, last, rfl⟩
  · rfl
  · have bound := sum_le_sum_runningMax 0 init
    rw [List.concat_eq_append, reach_append_singleton, List.sum_append, List.sum_singleton,
      overhang, List.dropLast_concat]
    omega

/-- The running maximum adds to each line at most what the highest line has over it. -/
theorem sum_runningMax_le {heights : List Nat} {m top : Nat} (start : m ≤ top)
    (bound : ∀ h ∈ heights, h ≤ top) : (runningMax m heights).sum ≤ heights.length * top := by
  induction heights generalizing m with
  | nil => simp [runningMax]
  | cons h rest ih =>
    rw [List.forall_mem_cons] at bound
    have below := ih (Nat.max_le.mpr ⟨start, bound.1⟩) bound.2
    have first : max m h ≤ top := Nat.max_le.mpr ⟨start, bound.1⟩
    rw [runningMax, List.sum_cons, List.length_cons, Nat.add_mul, Nat.one_mul]
    omega

/-- The children that are not `GONE` reach as far down as the measured height and beyond it by the
overhang of their lines, so at most as far as if each line were as high as the highest one. -/
theorem extent_eq_overhang (f : EmojiFlowLayout) (width : Int) (children : List View)
    (visible : ∀ child ∈ children, child.visibility ≠ .gone) :
    ∃ laid calls, f.onLayout width children = some (laid, calls) ∧
      extent calls = (measureContent width children).height +
        overhang ((lines View.outerWidth width children).map tallest) ∧
      extent calls ≤ (lines View.outerWidth width children).length *
        peak ((lines View.outerWidth width children).map tallest) := by
  obtain ⟨calls, placed, run⟩ := onLayout_eq f width children
  have lowest := extent_onLayout visible placed
  refine ⟨_, calls, run, ?_, ?_⟩
  · rw [measureContent_height, lowest, reach_eq_overhang]
  · rw [lowest]
    generalize lines View.outerWidth width children = rows
    rcases List.eq_nil_or_concat rows with rfl | ⟨init, last, rfl⟩
    · exact Nat.le_refl 0
    · have upper : (runningMax 0 (init.map tallest)).sum ≤
          (init.map tallest).length * peak ((init ++ [last]).map tallest) :=
        sum_runningMax_le (Nat.zero_le _) fun h mem =>
          le_peak (by rw [List.map_append]; exact List.mem_append_left _ mem)
      have last_le : tallest last ≤ peak ((init ++ [last]).map tallest) :=
        le_peak (by simp)
      rw [List.concat_eq_append, List.map_append, List.map_singleton, reach_append_singleton,
        List.length_append, List.length_singleton, Nat.add_mul, Nat.one_mul]
      rw [List.length_map, List.map_append, List.map_singleton] at upper
      rw [List.map_append, List.map_singleton] at last_le
      omega

/-- Three rows of heights 10, 5 and 5, the last one 5 below the measured height of 20. -/
theorem extent_eq_overhang_rows : (∀ child ∈ shorterRows, child.visibility ≠ .gone) ∧
    ∃ laid calls, ({} : EmojiFlowLayout).onLayout 10 shorterRows = some (laid, calls) ∧
      extent calls = 20 + 5 ∧ extent calls ≤ 3 * 10 :=
  ⟨by decide, extent_eq_overhang {} 10 shorterRows (by decide)⟩

end StudyProject.Widget
