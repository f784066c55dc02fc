import Mathlib.Data.Real.Basic
import StudyProject.Widget.Lines

/-! The layout pass of `EmojiFlowLayout` packs its children.  Within a row the outer rectangles
follow one another from left to right, and each row lies below the row above it, because the
recorded height of a row is at least the height of every child in it. -/

namespace StudyProject.Widget

open StudyProject.Library StudyProject.Library.LineBreak StudyProject.Library.Stack

/-- Whether the placement gives the child a frame. -/
def View.shown (child : View) : Bool := child.visibility ≠ .gone

/-- The frame has the measured size of the child. -/
def LayoutCall.Sized (c : LayoutCall) : Prop :=
  c.right = c.left + c.child.measuredWidth ∧ c.bottom = c.top + c.child.measuredHeight

/-- The calls `group` place the children of `row` from left to right, and within the width when
the row was built from two or more children. -/
structure RowPlaced (width : Int) (row : List View) (group : List LayoutCall) : Prop where
  children : group.map LayoutCall.child = row.filter View.shown
  order : group.Pairwise fun c d => c.outer.right ≤ d.outer.left
  within : 2 ≤ row.length → ∀ c ∈ group, 0 ≤ c.outer.left ∧ c.outer.right ≤ width

/-- The rows and the frames that a layout pass makes of `children`. -/
structure ValidPacking (width : Int) (children : List View) (laid : EmojiFlowLayout)
    (calls : List LayoutCall) : Prop where
  parallel : laid.mLineHeight.length = laid.mAllViews.length
  rows : laid.mAllViews.flatten = children
  frames : calls.map LayoutCall.child = children.filter View.shown
  size : ∀ c ∈ calls, c.Sized
  order : ∃ groups : List (List LayoutCall), groups.flatten = calls ∧
    List.Forall₂ (RowPlaced width) laid.mAllViews groups ∧
    groups.Pairwise fun group group' =>
      ∀ c ∈ group, ∀ d ∈ group', c.outer.bottom ≤ d.outer.top
  apart : calls.Pairwise fun c d =>
    Disjoint (c.outer.map ((↑) : Int → ℝ)).interior (d.outer.map ((↑) : Int → ℝ)).interior

/-! ### One row -/

theorem placeRow_cons_shown {child : View} (shown : child.visibility ≠ .gone) (top left : Nat)
    (rest : List View) :
    placeRow top left (child :: rest) =
      ⟨child, left + child.lp.leftMargin, top + child.lp.topMargin,
        left + child.lp.leftMargin + child.measuredWidth,
        top + child.lp.topMargin + child.measuredHeight⟩ ::
        placeRow top (left + child.outerWidth) rest := by
  have next : left + (child.measuredWidth + child.lp.rightMargin + child.lp.leftMargin) =
      left + child.outerWidth := by
    simp only [View.outerWidth]
    omega
  simp only [placeRow, if_neg shown, next]

theorem placeRow_cons_gone {child : View} (gone : child.visibility = .gone) (top left : Nat)
    (rest : List View) : placeRow top left (child :: rest) = placeRow top left rest := by
  rw [placeRow, if_pos gone]

theorem placeRow_child (top left : Nat) (row : List View) :
    (placeRow top left row).map LayoutCall.child = row.filter View.shown := by
  induction row generalizing left with
  | nil => rfl
  | cons child rest ih =>
    by_cases gone : child.visibility = .gone
    · rw [placeRow_cons_gone gone, ih, List.filter_cons_of_neg (by simp [View.shown, gone])]
    · rw [placeRow_cons_shown gone, List.map_cons, ih,
        List.filter_cons_of_pos (by simp [View.shown, gone])]

/-- What the placement says about one call of a row at `top`, placed from `left` on. -/
structure CallPlaced (top left : Nat) (row : List View) (c : LayoutCall) : Prop where
  sized : c.Sized
  outerTop : c.outer.top = top
  outerBottom : c.outer.bottom ≤ (top + tallest row : Nat)
  outerLeft : (left : Int) ≤ c.outer.left
  outerRight : c.outer.right ≤ (left + lineSize View.outerWidth row : Nat)

theorem CallPlaced.cons {top left n : Nat} {child : View} {rest : List View} {c : LayoutCall}
    (h : CallPlaced top (left + n) rest c) (fits : n ≤ child.outerWidth) :
    CallPlaced top left (child :: rest) c where
  sized := h.sized
  outerTop := h.outerTop
  outerBottom := by
    have := h.outerBottom
    rw [tallest_cons]
    omega
  outerLeft := by
    have := h.outerLeft
    omega
  outerRight := by
    have := h.outerRight
    rw [lineSize_cons]
    omega

theorem placeRow_calls (top left : Nat) (row : List View) :
    ∀ c ∈ placeRow top left row, CallPlaced top left row c := by
  induction row generalizing left with
  | nil => simp [placeRow]
  | cons child rest ih =>
    by_cases gone : child.visibility = .gone
    · rw [placeRow_cons_gone gone]
      exact fun c mem => (ih left c mem).cons (n := 0) (Nat.zero_le _)
    · rw [placeRow_cons_shown gone]
      intro c mem
      rcases List.mem_cons.mp mem with rfl | mem
      · constructor
        · exact ⟨rfl, rfl⟩
        · simp [LayoutCall.outer]
        · simp only [LayoutCall.outer, tallest_cons, View.outerHeight]
          omega
        · simp [LayoutCall.outer]
        · simp only [LayoutCall.outer, lineSize_cons, View.outerWidth]
          omega
      · exact (ih _ c mem).cons (Nat.le_refl _)

theorem placeRow_order (top left : Nat) (row : List View) :
    (placeRow top left row).Pairwise fun c d => c.outer.right ≤ d.outer.left := by
  induction row generalizing left with
  | nil => exact .nil
  | cons child rest ih =>
    by_cases gone : child.visibility = .gone
    · rw [placeRow_cons_gone gone]
      exact ih left
    · rw [placeRow_cons_shown gone]
      apply List.Pairwise.cons
      · intro d mem
        have next := (placeRow_calls top (left + child.outerWidth) rest d mem).outerLeft
        simp only [LayoutCall.outer, View.outerWidth] at next ⊢
        omega
      · exact ih _

theorem rowPlaced_placeRow {width : Int} {row : List View} (fits : Fits View.outerWidth width row)
    (top : Nat) : RowPlaced width row (placeRow top 0 row) where
  children := placeRow_child top 0 row
  order := placeRow_order top 0 row
  within two c mem := by
    have placed := placeRow_calls top 0 row c mem
    have room := fits two
    have := placed.outerLeft
    have := placed.outerRight
    omega

/-! ### All rows -/

/-- Rows at heights that dominate them: the calls of each row lie below those of the rows
before it. -/
theorem placeRows_groups {width : Int} {rows : List (List View)} {heights : List Nat}
    (dominate : List.Forall₂ (fun row h => tallest row ≤ h) rows heights)
    (fits : ∀ row ∈ rows, Fits View.outerWidth width row) {top : Nat} {calls : List LayoutCall}
    (placed : placeRows top rows heights = some calls) :
    ∃ groups : List (List LayoutCall), groups.flatten = calls ∧
      List.Forall₂ (RowPlaced width) rows groups ∧
      (groups.Pairwise fun group group' =>
        ∀ c ∈ group, ∀ d ∈ group', c.outer.bottom ≤ d.outer.top) ∧
      ∀ group ∈ groups, ∀ c ∈ group, (top : Int) ≤ c.outer.top ∧ c.Sized := by
  induction dominate generalizing top calls with
  | nil =>
    obtain rfl : [] = calls := by simpa [placeRows] using placed
    exact ⟨[], rfl, .nil, .nil, by simp⟩
  | @cons row h rows heights low _ ih =>
    obtain ⟨fit, fits⟩ := List.forall_mem_cons.mp fits
    simp only [placeRows, Option.map_eq_some_iff] at placed
    obtain ⟨below, placed, rfl⟩ := placed
    obtain ⟨groups, rfl, each, order, bound⟩ := ih fits placed
    have first := placeRow_calls top 0 row
    refine ⟨placeRow top 0 row :: groups, rfl, .cons (rowPlaced_placeRow fit top) each,
      .cons ?_ order, List.forall_mem_cons.mpr ⟨?_, ?_⟩⟩
    · intro group mem c memc d memd
      have above := (first c memc).outerBottom
      have lower := (bound group mem d memd).1
      omega
    · intro c mem
      exact ⟨Int.le_of_eq (first c mem).outerTop.symm, (first c mem).sized⟩
    · intro group mem c memc
      obtain ⟨lower, sized⟩ := bound group mem c memc
      exact ⟨by omega, sized⟩

theorem groups_child {width : Int} {rows : List (List View)} {groups : List (List LayoutCall)}
    (each : List.Forall₂ (RowPlaced width) rows groups) :
    groups.flatten.map LayoutCall.child = rows.flatten.filter View.shown := by
  induction each with
  | nil => rfl
  | cons h _ ih => simp [h.children, ih]

theorem forall₂_mem_right {α β : Type*} {R : α → β → Prop} {l : List α} {l' : List β}
    (h : List.Forall₂ R l l') : ∀ b ∈ l', ∃ a, R a b := by
  induction h with
  | nil => simp
  | cons head _ ih => exact List.forall_mem_cons.mpr ⟨⟨_, head⟩, ih⟩

/-- Whatever the layout holds from earlier passes, `onLayout` makes a valid packing. -/
theorem onLayout_packs (f : EmojiFlowLayout) (width : Int) (children : List View) :
    ∃ laid calls, f.onLayout width children = some (laid, calls) ∧
      ValidPacking width children laid calls := by
  obtain ⟨calls, placed, run⟩ := onLayout_eq f width children
  have dominate : List.Forall₂ (fun row h => tallest row ≤ h) (rows width children)
      (runningMax 0 ((rows width children).map tallest)) := by
    have := forall₂_le_runningMax 0 ((rows width children).map tallest)
    rwa [List.forall₂_map_left_iff] at this
  have fits : ∀ row ∈ rows width children, Fits View.outerWidth width row :=
    fill_fits View.outerWidth width (fun two => absurd two (by simp)) children
  have flat : (rows width children).flatten = children :=
    fill_flatten View.outerWidth width [] children
  obtain ⟨groups, rfl, each, order, bound⟩ := placeRows_groups dominate fits placed
  refine ⟨_, _, run, ?_, flat, ?_, ?_, ⟨groups, rfl, each, order⟩, ?_⟩
  · simp
  · rw [groups_child each, flat]
  · intro c mem
    obtain ⟨group, memg, mem⟩ := List.mem_flatten.mp mem
    exact (bound group memg c mem).2
  · have mono : Monotone ((↑) : Int → ℝ) := fun _ _ h => by exact_mod_cast h
    apply List.pairwise_flatten.mpr
    constructor
    · intro group mem
      obtain ⟨row, rowPlaced⟩ := forall₂_mem_right each group mem
      exact rowPlaced.order.imp fun h => (Rect.Before.map mono (.inl h)).disjoint
    · apply order.imp
      intro above group below c memc d memd
      exact (Rect.Before.map mono (.inr (below c memc d memd))).disjoint

end StudyProject.Widget
