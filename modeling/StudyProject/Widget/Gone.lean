import Mathlib.Logic.Relation
import StudyProject.Widget.OnePass

/-! `GONE` children in `EmojiFlowLayout`.  Only the placement loop skips them: the break tests, the
line widths and the line heights of both passes count them.  `TakesNoSpace` lists the states in
which a `GONE` child nevertheless leaves no trace, and `insert_gone_iff` says that there are no
others. -/

namespace StudyProject.Widget

open StudyProject.Library.LineBreak StudyProject.Library.Stack

/-- `onMeasure` computes the same width and height for both lists, and `onLayout` makes the same
calls of `layout`. -/
def SameLayout (width : Int) (children children' : List View) : Prop :=
  (measureContent width children).width = (measureContent width children').width ∧
    (measureContent width children).height = (measureContent width children').height ∧
    ∀ f f' : EmojiFlowLayout,
      (f.onLayout width children).map Prod.snd = (f'.onLayout width children').map Prod.snd

theorem SameLayout.refl (width : Int) (children : List View) :
    SameLayout width children children := by
  refine ⟨rfl, rfl, fun f f' => ?_⟩
  rw [onLayout_calls, onLayout_calls]

theorem SameLayout.symm {width : Int} {children children' : List View}
    (h : SameLayout width children children') : SameLayout width children' children :=
  ⟨h.1.symm, h.2.1.symm, fun f f' => (h.2.2 f' f).symm⟩

theorem SameLayout.trans {width : Int} {children children' children'' : List View}
    (h : SameLayout width children children') (h' : SameLayout width children' children'') :
    SameLayout width children children'' :=
  ⟨h.1.trans h'.1, h.2.1.trans h'.2.1, fun f f' => (h.2.2 f f).trans (h'.2.2 f f')⟩

/-- Lists with the same layout get the same measured dimensions under every specification of that
width. -/
theorem SameLayout.measured {widthSpec : MeasureSpec} {children children' : List View}
    (h : SameLayout widthSpec.size children children') (heightSpec : MeasureSpec) :
    onMeasure widthSpec heightSpec children = onMeasure widthSpec heightSpec children' := by
  obtain ⟨width, height, -⟩ := h
  simp only [onMeasure, width, height]

/-- The loops of the two passes after the children `pre`, and before the next child. -/
def measureAfter (width : Int) (pre : List View) : MeasureState :=
  pre.foldl (measureStep width) {}

@[inherit_doc measureAfter]
def cursorAfter (width : Int) (pre : List View) : Cursor := pre.foldl (Cursor.step width) {}

/-- The `GONE` child `g` leaves no trace when the loops reach it at `m` and `cur`. -/
inductive TakesNoSpace (width : Int) (m : MeasureState) (cur : Cursor) (g : View) : Prop
  /-- It finds room on the line, has no width, and is no higher than the line. -/
  | room (fits : ¬width < (m.lineWidth + g.outerWidth : Nat)) (narrow : g.outerWidth = 0)
      (low : g.outerHeight ≤ m.lineHeight)
  /-- Nothing so far has any height, and the line it starts is as wide as the one it ends. -/
  | sameWidth (exceeds : width < (m.lineWidth + g.outerWidth : Nat)) (low : g.outerHeight = 0)
      (flat : cur.lineHeight = 0) (same : g.outerWidth = m.lineWidth)
      (widest : m.width ≤ m.lineWidth) (start : width < m.lineWidth ∨ cur.left = 0)
  /-- Nothing so far has any height, and it is as wide as an oversize child before an empty
  line. -/
  | oversize (exceeds : width < (m.lineWidth + g.outerWidth : Nat)) (low : g.outerHeight = 0)
      (flat : cur.lineHeight = 0) (empty : m.lineWidth = 0)
      (wide : (g.outerWidth : Int) = width + 1) (widest : (m.width : Int) = width + 1)
  /-- Nothing so far has any height, and it starts an empty line after an oversize child. -/
  | afterOversize (exceeds : width < (m.lineWidth + g.outerWidth : Nat)) (low : g.outerHeight = 0)
      (flat : cur.lineHeight = 0) (narrow : g.outerWidth = 0) (room : 0 ≤ width)
      (wide : (m.lineWidth : Int) = width + 1) (widest : m.width ≤ m.lineWidth)

/-! ### States that no continuation tells apart -/

/-- `onMeasure`'s locals at the end, when `rest` follows `m`. -/
def finish (width : Int) (m : MeasureState) (rest : List View) : MeasureState :=
  measureLast (rest.foldl (measureStep width) m)

/-- Whatever follows, the passes compute the same size and make the same calls. -/
def Alike (width : Int) (m m' : MeasureState) (cur cur' : Cursor) : Prop :=
  ∀ rest : List View, (finish width m rest).width = (finish width m' rest).width ∧
    (finish width m rest).height = (finish width m' rest).height ∧
    cur.place width rest = cur'.place width rest

theorem sameLayout_insert_iff {width : Int} {pre : List View} {g : View}
    (gone : g.visibility = .gone) :
    (∀ rest, SameLayout width (pre ++ g :: rest) (pre ++ rest)) ↔
      Alike width (measureStep width (measureAfter width pre) g) (measureAfter width pre)
        ((cursorAfter width pre).step width g) (cursorAfter width pre) := by
  have content : ∀ children, measureContent width (pre ++ children) =
      finish width (measureAfter width pre) children := by
    intro children
    rw [measureContent_eq_foldl, List.foldl_append, finish, measureAfter]
  have hidden : ∀ top left, placeRow top left [g] = [] := by
    intro top left
    rw [placeRow_cons_gone gone, placeRow]
  apply forall_congr'
  intro rest
  simp only [SameLayout, content, onLayout_calls, Cursor.place_append, Cursor.place, hidden,
    List.nil_append, Option.some.injEq, List.append_cancel_left_eq]
  exact and_congr Iff.rfl (and_congr Iff.rfl ⟨fun h => h {} {}, fun h _ _ => h⟩)

theorem alike_refl (width : Int) (m : MeasureState) (cur : Cursor) : Alike width m m cur cur :=
  fun _ => ⟨rfl, rfl, rfl⟩

theorem Alike.symm {width : Int} {m m' : MeasureState} {cur cur' : Cursor}
    (h : Alike width m m' cur cur') : Alike width m' m cur' cur :=
  fun rest => ⟨(h rest).1.symm, (h rest).2.1.symm, (h rest).2.2.symm⟩

/-- States that the next child makes equal. -/
theorem alike_of_step {width : Int} {m m' : MeasureState} {cur cur' : Cursor}
    (lastWidth : (measureLast m).width = (measureLast m').width)
    (lastHeight : (measureLast m).height = (measureLast m').height)
    (step : ∀ child, measureStep width m child = measureStep width m' child ∧
      cur.break width child = cur'.break width child) : Alike width m m' cur cur' := by
  intro rest
  cases rest with
  | nil => exact ⟨lastWidth, lastHeight, rfl⟩
  | cons child rest =>
    obtain ⟨measure, break_⟩ := step child
    have past : cur.step width child = cur'.step width child := by
      rw [Cursor.step, Cursor.step, break_]
    simp only [finish, List.foldl_cons, measure, Cursor.place, break_, past, and_self]

/-- A recorded width within the open line's width plays no part. -/
theorem finish_width (width : Int) (rest : List View) {m : MeasureState} {v v' : Nat}
    (hv : v ≤ m.lineWidth) (hv' : v' ≤ m.lineWidth) :
    (finish width { m with width := v } rest).width =
        (finish width { m with width := v' } rest).width ∧
      (finish width { m with width := v } rest).height =
        (finish width { m with width := v' } rest).height := by
  induction rest generalizing m with
  | nil => simp [finish, measureLast, hv, hv']
  | cons child rest ih =>
    by_cases exceeds : width < (m.lineWidth + child.outerWidth : Nat)
    · simp only [finish, List.foldl_cons]
      rw [measureStep_break (s := { m with width := v }) exceeds,
        measureStep_break (s := { m with width := v' }) exceeds]
      exact ⟨rfl, rfl⟩
    · have next := ih (m := { m with
        lineWidth := m.lineWidth + child.outerWidth
        lineHeight := max m.lineHeight child.outerHeight })
        (Nat.le_trans hv (Nat.le_add_right _ _)) (Nat.le_trans hv' (Nat.le_add_right _ _))
      simp only [finish, List.foldl_cons] at next ⊢
      rw [measureStep_stay (s := { m with width := v }) exceeds,
        measureStep_stay (s := { m with width := v' }) exceeds]
      exact next

/-- While nothing has any height, a line beyond the limit may as well start again at its width. -/
theorem alike_overfull {width : Int} {n v : Nat} (wide : width < n) (widest : v ≤ n)
    (height left top : Nat) :
    Alike width ⟨n, height, n, 0⟩ ⟨v, height, n, 0⟩ ⟨n, 0, 0, top⟩ ⟨n, 0, left, top⟩ := by
  have next : ∀ child : View, width < (n + child.outerWidth : Nat) := fun child => by omega
  refine alike_of_step ?_ rfl fun child => ⟨?_, ?_⟩
  · simp [measureLast, widest]
  · rw [measureStep_break (s := ⟨n, height, n, 0⟩) (next child),
      measureStep_break (s := ⟨v, height, n, 0⟩) (next child)]
  · rw [Cursor.break_over (k := ⟨n, 0, 0, top⟩) (next child),
      Cursor.break_over (k := ⟨n, 0, left, top⟩) (next child)]

/-- An oversize child of width `width + 1` and an empty line after it are alike while nothing has
any height: whatever comes next stands at the start of a line. -/
theorem alike_emptyLine {width : Int} {n : Nat} (wide : (n : Int) = width + 1) {v : Nat}
    (widest : v ≤ n) (height left top : Nat) :
    Alike width ⟨v, height, n, 0⟩ ⟨n, height, 0, 0⟩ ⟨n, 0, left, top⟩ ⟨0, 0, 0, top⟩ := by
  refine alike_of_step ?_ rfl fun child => ⟨?_, ?_⟩
  · simp [measureLast, widest]
  · rw [measureStep_break (s := ⟨v, height, n, 0⟩)
      (show width < (n + child.outerWidth : Nat) by omega)]
    by_cases wider : width < (0 + child.outerWidth : Nat)
    · rw [measureStep_break (s := ⟨n, height, 0, 0⟩) wider]
      simp only [Nat.zero_max, Nat.max_eq_right (show n ≤ child.outerWidth by omega)]
    · rw [measureStep_stay (s := ⟨n, height, 0, 0⟩) wider]
      simp only [Nat.zero_max, Nat.zero_add, Nat.add_zero,
        Nat.max_eq_left (show child.outerWidth ≤ n by omega)]
  · rw [Cursor.break_over (k := ⟨n, 0, left, top⟩)
      (show width < (n + child.outerWidth : Nat) by omega)]
    by_cases wider : width < (0 + child.outerWidth : Nat)
    · exact (Cursor.break_over (k := ⟨0, 0, 0, top⟩) wider).symm
    · exact (Cursor.break_room (k := ⟨0, 0, 0, top⟩) wider).symm

theorem alike_of_takesNoSpace {width : Int} {m : MeasureState} {cur : Cursor} {g : View}
    (inStep : InStep m cur) (gone : g.visibility = .gone) (h : TakesNoSpace width m cur g) :
    Alike width (measureStep width m g) m (cur.step width g) cur := by
  have hidden : ¬g.shown = true := by simp [View.shown, gone]
  obtain ⟨widest, height, used, lineHeight⟩ := m
  obtain ⟨used', peak, left, top⟩ := cur
  obtain ⟨rfl : used = used', below, start⟩ := inStep
  simp only at below start
  cases h with
  | room fits narrow low =>
    have place : (⟨used, peak, left, top⟩ : Cursor).step width g = ⟨used, peak, left, top⟩ := by
      rw [Cursor.step, Cursor.break_room fits, narrow, if_neg hidden, Nat.add_zero,
        Nat.max_eq_left (Nat.le_trans low below)]
    rw [measureStep_stay fits, narrow, Nat.add_zero, Nat.max_eq_left low, place]
    exact alike_refl width _ _
  | sameWidth exceeds low flat same widest_le wide =>
    obtain rfl : peak = 0 := flat
    obtain rfl : lineHeight = 0 := Nat.le_zero.mp below
    have place : (⟨used, 0, left, top⟩ : Cursor).step width g = ⟨used, 0, 0, top⟩ := by
      rw [Cursor.step, Cursor.break_over exceeds, if_neg hidden, low, same, Nat.zero_add]
      rfl
    rw [measureStep_break exceeds, same, low, Nat.max_self, place]
    rcases wide with wide | atStart
    · exact alike_overfull wide widest_le height left top
    · obtain rfl : left = 0 := atStart
      intro rest
      obtain ⟨w, h⟩ := finish_width width rest (m := ⟨widest, height, used, 0⟩)
        (Nat.le_refl used) widest_le
      exact ⟨w, h, rfl⟩
  | oversize exceeds low flat empty wide widest_eq =>
    obtain rfl : peak = 0 := flat
    obtain rfl : lineHeight = 0 := Nat.le_zero.mp below
    obtain rfl : used = 0 := empty
    obtain rfl : left = 0 := Nat.le_zero.mp start
    obtain rfl : widest = g.outerWidth := by
      simp only at widest_eq
      omega
    have place : (⟨0, 0, 0, top⟩ : Cursor).step width g = ⟨g.outerWidth, 0, 0, top⟩ := by
      rw [Cursor.step, Cursor.break_over exceeds, if_neg hidden, low, Nat.zero_add]
      rfl
    rw [measureStep_break exceeds, low, Nat.zero_max, place]
    exact alike_emptyLine wide (Nat.le_refl _) height 0 top
  | afterOversize exceeds low flat narrow room wide widest_le =>
    obtain rfl : peak = 0 := flat
    obtain rfl : lineHeight = 0 := Nat.le_zero.mp below
    have place : (⟨used, 0, left, top⟩ : Cursor).step width g = ⟨0, 0, 0, top⟩ := by
      rw [Cursor.step, Cursor.break_over exceeds, if_neg hidden, low, narrow]
      rfl
    rw [measureStep_break exceeds, low, narrow, Nat.max_zero, place]
    exact (alike_emptyLine wide widest_le height left top).symm

/-! ### Continuations that tell states apart -/

/-- A visible child of this size without margins. -/
def probe (w h : Nat) : View := { measuredWidth := w, measuredHeight := h }

theorem finish_probe_width (width : Int) (m : MeasureState) (x : Nat) :
    (finish width m [probe x 0]).width =
      if width < (m.lineWidth + x : Nat) then max m.lineWidth x
      else max m.width (m.lineWidth + x) := by
  simp only [finish, List.foldl_cons, List.foldl_nil]
  by_cases exceeds : width < (m.lineWidth + x : Nat)
  · rw [measureStep_break (c := probe x 0) exceeds, if_pos exceeds]
    simp [measureLast, probe, View.outerWidth]
  · rw [measureStep_stay (c := probe x 0) exceeds, if_neg exceeds]
    rfl

/-- A child without width, and one that shares its line or not. -/
theorem finish_probes_height (width : Int) (m : MeasureState) (x : Nat) :
    (finish width m [probe 0 1, probe x 1]).height =
      if width < m.lineWidth then
        m.height + m.lineHeight + (if width < x then 2 else 1)
      else
        m.height + max m.lineHeight 1 + (if width < (m.lineWidth + x : Nat) then 1 else 0) := by
  simp only [finish, List.foldl_cons, List.foldl_nil]
  by_cases exceeds : width < m.lineWidth
  · rw [measureStep_break (c := probe 0 1) exceeds, if_pos exceeds]
    by_cases next : width < (0 + x : Nat)
    · rw [measureStep_break (c := probe x 1) next, if_pos (by simpa using next)]
      rfl
    · rw [measureStep_stay (c := probe x 1) next, if_neg (by simpa using next)]
      rfl
  · let joined : MeasureState := { m with lineHeight := max m.lineHeight 1 }
    have join : measureStep width m (probe 0 1) = joined := measureStep_stay exceeds
    rw [join, if_neg exceeds]
    by_cases next : width < (m.lineWidth + x : Nat)
    · rw [measureStep_break (s := joined) (c := probe x 1) next, if_pos next]
      rfl
    · rw [measureStep_stay (s := joined) (c := probe x 1) next, if_neg next]
      exact congrArg (m.height + ·) (Nat.max_eq_left (Nat.le_max_right _ _))

theorem place_probe (width : Int) (cur : Cursor) (x : Nat) :
    (cur.place width [probe x 0]).map (fun c => (c.left, c.top)) =
      [((cur.break width (probe x 0)).left, (cur.break width (probe x 0)).top)] := rfl

theorem break_probe_top (width : Int) (cur : Cursor) (x : Nat) :
    (cur.break width (probe x 0)).top =
      if width < (cur.lineWidth + x : Nat) then cur.top + cur.lineHeight else cur.top := by
  by_cases exceeds : width < (cur.lineWidth + x : Nat)
  · rw [Cursor.break_over (c := probe x 0) exceeds, if_pos exceeds]
  · rw [Cursor.break_room (c := probe x 0) exceeds, if_neg exceeds]

/-- What the continuations say about a child of size `w × h` that breaks the line, in a line of
width `used` and height `low`, with the largest height `peak` so far and the recorded width
`widest`. -/
structure Broken (width : Int) (widest used low peak left w h : Nat) : Prop where
  lastWidth : max used w = max widest used
  lastHeight : h = 0
  one : ∀ x : Nat, (if width < (w + x : Nat) then max w x else max (max used w) (w + x)) =
    if width < (used + x : Nat) then max used x else max widest (used + x)
  two : ∀ x : Nat,
    (if width < w then low + (if width < x then 2 else 1)
      else low + 1 + (if width < (w + x : Nat) then 1 else 0)) =
    if width < used then low + (if width < x then 2 else 1)
      else max low 1 + (if width < (used + x : Nat) then 1 else 0)
  top : ∀ x : Nat, (if width < (w + x : Nat) then peak + peak else peak) =
    if width < (used + x : Nat) then peak else 0
  left : ¬width < used → left = 0

theorem Broken.flat {width : Int} {widest used low peak left w h : Nat}
    (b : Broken width widest used low peak left w h) : peak = 0 := by
  have atZero := b.top 0
  have beyond := b.top (width + 1).toNat
  by_cases wide : width < used
  · rw [if_pos (by omega), if_pos (by omega)] at beyond
    omega
  · rw [if_neg (show ¬width < (used + 0 : Nat) by omega)] at atZero
    split at atZero <;> omega

theorem takesNoSpace_of_broken {width : Int} {m : MeasureState} {cur : Cursor} {g : View}
    (inStep : InStep m cur) (exceeds : width < (m.lineWidth + g.outerWidth : Nat))
    (b : Broken width m.width m.lineWidth m.lineHeight cur.lineHeight cur.left g.outerWidth
      g.outerHeight) : TakesNoSpace width m cur g := by
  have flat := b.flat
  have lineHeight := inStep.lineHeight
  have low : m.lineHeight = 0 := by omega
  have lastWidth := b.lastWidth
  have two := b.two
  rw [low] at two
  by_cases wide : width < m.lineWidth
  · by_cases wide' : width < g.outerWidth
    · have narrow := b.one 0
      rw [if_pos (by omega), if_pos (by omega)] at narrow
      exact .sameWidth exceeds b.lastHeight flat (by omega) (by omega) (.inl wide)
    · -- A child of width `width` shares the line of `g` only when `g` has no width.
      have share := two width.toNat
      rw [if_neg wide', if_pos wide, if_neg (show ¬width < (width.toNat : Nat) by omega)] at share
      have beyond := b.one (width + 1).toNat
      rw [if_pos (by omega), if_pos (by omega)] at beyond
      split at share
      · omega
      · exact .afterOversize exceeds b.lastHeight flat (by omega) (by omega) (by omega) (by omega)
  · by_cases wide' : width < g.outerWidth
    · -- Only an empty line keeps room for a child of width `width`, as the line after `g` does.
      have share := two width.toNat
      rw [if_pos wide', if_neg wide, if_neg (show ¬width < (width.toNat : Nat) by omega)] at share
      have narrow := b.one 0
      rw [if_pos (by omega), if_neg (by omega)] at narrow
      have beyond := b.one (width + 1).toNat
      rw [if_pos (by omega), if_pos (by omega)] at beyond
      split at share
      · omega
      · exact .oversize exceeds b.lastHeight flat (by omega) (by omega) (by omega)
    · have share := two (width - min m.lineWidth g.outerWidth).toNat
      rw [if_neg wide', if_neg wide] at share
      have same : g.outerWidth = m.lineWidth := by
        split_ifs at share <;> omega
      exact .sameWidth exceeds b.lastHeight flat same (by omega) (.inr (b.left wide))

theorem takesNoSpace_of_alike {width : Int} {m : MeasureState} {cur : Cursor} {g : View}
    (inStep : InStep m cur) (gone : g.visibility = .gone)
    (h : Alike width (measureStep width m g) m (cur.step width g) cur) :
    TakesNoSpace width m cur g := by
  have hidden : ¬g.shown = true := by simp [View.shown, gone]
  have lineWidth := inStep.lineWidth
  have lastWidth : (measureLast (measureStep width m g)).width = (measureLast m).width := (h []).1
  have lastHeight : (measureLast (measureStep width m g)).height = (measureLast m).height :=
    (h []).2.1
  have one := fun x => (h [probe x 0]).1
  have two := fun x => (h [probe 0 1, probe x 1]).2.1
  simp only [finish_probe_width] at one
  simp only [finish_probes_height] at two
  by_cases exceeds : width < (m.lineWidth + g.outerWidth : Nat)
  · have past : cur.step width g = ⟨g.outerWidth, max cur.lineHeight g.outerHeight, 0,
        cur.top + cur.lineHeight⟩ := by
      rw [Cursor.step, Cursor.break_over (by rwa [← lineWidth]), if_neg hidden, Nat.zero_add]
    have placed := fun x => congrArg (List.map fun c => (c.left, c.top)) (h [probe x 0]).2.2
    simp only [place_probe, List.cons.injEq, Prod.mk.injEq, and_true, past] at placed
    rw [measureStep_break exceeds] at lastWidth lastHeight one two
    simp only [measureLast] at lastWidth lastHeight
    have low : g.outerHeight = 0 := by omega
    rw [low] at two
    refine takesNoSpace_of_broken inStep exceeds ⟨by omega, low, one, fun x => ?_, fun x => ?_, ?_⟩
    · have := two x
      simp only [Nat.add_zero, Nat.zero_max, Nat.add_assoc] at this
      split_ifs at this ⊢ <;> omega
    · have := (placed x).2
      simp only [break_probe_top, low, Nat.max_zero, ← lineWidth] at this
      split_ifs at this ⊢ <;> omega
    · intro room
      have := (placed 0).1
      rw [Cursor.break_room (k := cur) (c := probe 0 0) (by rwa [← lineWidth])] at this
      rw [← this, Cursor.break]
      split <;> rfl
  · rw [measureStep_stay exceeds] at two lastHeight
    simp only [measureLast] at lastHeight
    have low : g.outerHeight ≤ m.lineHeight := by omega
    apply TakesNoSpace.room exceeds _ low
    -- A child that fills the line finds no room next to a `g` that has a width.
    have share := two (width - m.lineWidth).toNat
    simp only [Nat.max_eq_left low] at share
    split_ifs at share <;> omega

/-- Inserting a `GONE` child after `pre` changes nothing, whatever follows, exactly when it takes
no space where the loops reach it. -/
theorem insert_gone_iff {width : Int} {pre : List View} {g : View} (gone : g.visibility = .gone) :
    (∀ rest, SameLayout width (pre ++ g :: rest) (pre ++ rest)) ↔
      TakesNoSpace width (measureAfter width pre) (cursorAfter width pre) g := by
  have inStep : InStep (measureAfter width pre) (cursorAfter width pre) :=
    inStep_foldl width pre ⟨rfl, Nat.le_refl _, Nat.le_refl _⟩
  rw [sameLayout_insert_iff gone]
  exact ⟨takesNoSpace_of_alike inStep gone, alike_of_takesNoSpace inStep gone⟩

/-- `children'` is `children` with one more `GONE` child, which takes no space there. -/
def InsertsNoSpace (width : Int) (children children' : List View) : Prop :=
  ∃ pre g rest, g.visibility = .gone ∧ children = pre ++ rest ∧ children' = pre ++ g :: rest ∧
    TakesNoSpace width (measureAfter width pre) (cursorAfter width pre) g

theorem sameLayout_of_insertions {width : Int} {children children' : List View}
    (h : Relation.EqvGen (InsertsNoSpace width) children children') :
    SameLayout width children children' := by
  induction h with
  | rel _ _ step =>
    obtain ⟨pre, g, rest, gone, rfl, rfl, space⟩ := step
    exact ((insert_gone_iff gone).mpr space rest).symm
  | refl _ => exact .refl width _
  | symm _ _ _ ih => exact ih.symm
  | trans _ _ _ _ _ ih ih' => exact ih.trans ih'

/-- A `GONE` child takes no space exactly as `TakesNoSpace` says, and any number of `GONE` children
that take none may be inserted and deleted. -/
theorem gone_takes_no_space_iff (width : Int) :
    (∀ pre g, g.visibility = .gone →
      ((∀ rest, SameLayout width (pre ++ g :: rest) (pre ++ rest)) ↔
        TakesNoSpace width (measureAfter width pre) (cursorAfter width pre) g)) ∧
    ∀ children children', Relation.EqvGen (InsertsNoSpace width) children children' →
      SameLayout width children children' :=
  ⟨fun _ _ gone => insert_gone_iff gone, fun _ _ => sameLayout_of_insertions⟩

/-- Two chips of size 5, and the same with a `GONE` chip between them. -/
def twoChips : List View := [probe 5 5, probe 5 5]

@[inherit_doc twoChips]
def twoChipsAndGone : List View :=
  [probe 5 5, { visibility := .gone, measuredWidth := 5, measuredHeight := 5 }, probe 5 5]

/-- In a layout of width 10 the `GONE` chip moves the second chip to a line of its own. -/
theorem gone_moves_chip : twoChipsAndGone.filter View.shown = twoChips.filter View.shown ∧
    ¬SameLayout 10 twoChipsAndGone twoChips := by
  constructor
  · decide
  · intro same
    exact absurd same.2.1 (by decide)

end StudyProject.Widget
