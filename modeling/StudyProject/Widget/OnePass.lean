import StudyProject.Widget.Packing

/-! Both passes of `EmojiFlowLayout` as folds.  `measureContent` closes the last line of a fold of
`measureStep`.  The two loops of `onLayout` place each child where a `Cursor` stands that moves
along with the first loop, so that what the children before a place do to those after it is a
state. -/

namespace StudyProject.Widget

open StudyProject.Library.LineBreak StudyProject.Library.Stack

theorem measureLoop_eq_foldl (sizeWidth : Int) {children : List View} (some_ : children ≠ [])
    (st : MeasureState) :
    measureLoop sizeWidth st children =
      measureLast (children.foldl (measureStep sizeWidth) st) := by
  induction children generalizing st with
  | nil => exact absurd rfl some_
  | cons child rest ih =>
    cases rest with
    | nil => rfl
    | cons next rest => exact ih (by simp) _

theorem measureContent_eq_foldl (sizeWidth : Int) (children : List View) :
    measureContent sizeWidth children =
      measureLast (children.foldl (measureStep sizeWidth) {}) := by
  cases children with
  | nil => rfl
  | cons child rest => exact measureLoop_eq_foldl sizeWidth (by simp) {}

/-- Where `onLayout` stands between two children: the first loop's `lineWidth` and `lineHeight`,
and the second loop's `left` and `top` for a child put there. -/
structure Cursor where
  lineWidth : Nat := 0
  lineHeight : Nat := 0
  left : Nat := 0
  top : Nat := 0
deriving DecidableEq, Repr

/-- The cursor after the break test for `child`. -/
def Cursor.break (width : Int) (cur : Cursor) (child : View) : Cursor :=
  if width < (cur.lineWidth + child.outerWidth : Nat) then
    { lineWidth := 0, lineHeight := cur.lineHeight, left := 0, top := cur.top + cur.lineHeight }
  else cur

theorem Cursor.break_over {width : Int} {k : Cursor} {c : View}
    (exceeds : width < (k.lineWidth + c.outerWidth : Nat)) :
    k.break width c =
      { lineWidth := 0, lineHeight := k.lineHeight, left := 0, top := k.top + k.lineHeight } :=
  if_pos exceeds

theorem Cursor.break_room {width : Int} {k : Cursor} {c : View}
    (room : ¬width < (k.lineWidth + c.outerWidth : Nat)) : k.break width c = k :=
  if_neg room

/-- The cursor past `child`, which is put where the break test left it. -/
def Cursor.step (width : Int) (cur : Cursor) (child : View) : Cursor :=
  let cur := cur.break width child
  { cur with
    lineWidth := cur.lineWidth + child.outerWidth
    lineHeight := max cur.lineHeight child.outerHeight
    left := if child.shown then cur.left + child.outerWidth else cur.left }

/-- The calls of `layout` for the children from the cursor on. -/
def Cursor.place (width : Int) (cur : Cursor) : List View → List LayoutCall
  | [] => []
  | child :: rest =>
    placeRow (cur.break width child).top (cur.break width child).left [child] ++
      (cur.step width child).place width rest

theorem Cursor.place_append (width : Int) (cur : Cursor) (children rest : List View) :
    cur.place width (children ++ rest) =
      cur.place width children ++ (children.foldl (Cursor.step width) cur).place width rest := by
  induction children generalizing cur with
  | nil => rfl
  | cons child children ih => simp [Cursor.place, ih]

/-- The cursor at the end of the open row `row`, which starts at `top`. -/
def Cursor.atEnd (m top : Nat) (row : List View) : Cursor where
  lineWidth := lineSize View.outerWidth row
  lineHeight := max m (tallest row)
  left := lineSize View.outerWidth (row.filter View.shown)
  top := top

theorem placeRow_append (top left : Nat) (row row' : List View) :
    placeRow top left (row ++ row') = placeRow top left row ++
      placeRow top (left + lineSize View.outerWidth (row.filter View.shown)) row' := by
  induction row generalizing left with
  | nil => simp [placeRow]
  | cons child rest ih =>
    by_cases gone : child.visibility = .gone
    · have hidden : ¬child.shown = true := by simp [View.shown, gone]
      rw [List.cons_append, placeRow_cons_gone gone, placeRow_cons_gone gone, ih,
        List.filter_cons_of_neg hidden]
    · have shown : child.shown = true := by simp [View.shown, gone]
      rw [List.cons_append, placeRow_cons_shown gone, placeRow_cons_shown gone, ih,
        List.filter_cons_of_pos shown, lineSize_cons, ← Nat.add_assoc, List.cons_append]

theorem Cursor.atEnd_over {width : Int} {m top : Nat} {row : List View} {child : View}
    (exceeds : width < (lineSize View.outerWidth row + child.outerWidth : Nat)) :
    (Cursor.atEnd m top row).step width child =
      Cursor.atEnd (max m (tallest row)) (top + max m (tallest row)) [child] := by
  rw [Cursor.step, Cursor.break_over exceeds]
  by_cases gone : child.visibility = .gone <;> simp [Cursor.atEnd, View.shown, gone]

theorem Cursor.atEnd_room {width : Int} {m top : Nat} {row : List View} {child : View}
    (room : ¬width < (lineSize View.outerWidth row + child.outerWidth : Nat)) :
    (Cursor.atEnd m top row).step width child = Cursor.atEnd m top (row ++ [child]) := by
  rw [Cursor.step, Cursor.break_room room]
  by_cases gone : child.visibility = .gone <;>
    simp [Cursor.atEnd, View.shown, gone, Nat.max_assoc]

/-- The two loops from an open row place the row and then what the cursor at its end places. -/
theorem placeRows_fill (width : Int) (children : List View) (m top : Nat) (row : List View) :
    placeRows top (fill View.outerWidth width row children)
        (runningMax m ((fill View.outerWidth width row children).map tallest)) =
      some (placeRow top 0 row ++ (Cursor.atEnd m top row).place width children) := by
  induction children generalizing m top row with
  | nil => simp [fill, runningMax, placeRows, Cursor.place]
  | cons child rest ih =>
    rw [fill, Cursor.place]
    by_cases exceeds : width < (lineSize View.outerWidth row + child.outerWidth : Nat)
    · rw [if_pos exceeds, List.map_cons, runningMax, placeRows, ih, Cursor.atEnd_over exceeds,
        Cursor.break_over exceeds, Option.map_some]
      rfl
    · rw [if_neg exceeds, ih, Cursor.atEnd_room exceeds, Cursor.break_room exceeds, placeRow_append,
        List.append_assoc]
      simp [Cursor.atEnd]

theorem onLayout_calls (f : EmojiFlowLayout) (width : Int) (children : List View) :
    (f.onLayout width children).map Prod.snd = some (({} : Cursor).place width children) := by
  obtain ⟨calls, placed, run⟩ := onLayout_eq f width children
  have all := placeRows_fill width children 0 0 []
  rw [rows, all] at placed
  cases placed
  rw [run]
  rfl

/-- The two loops stand at the same place of the line, and the running maximum of `onLayout` is at
least the height of the line. -/
structure InStep (m : MeasureState) (cur : Cursor) : Prop where
  lineWidth : m.lineWidth = cur.lineWidth
  lineHeight : m.lineHeight ≤ cur.lineHeight
  left : cur.left ≤ cur.lineWidth

theorem InStep.step {m : MeasureState} {cur : Cursor} (h : InStep m cur) (width : Int)
    (child : View) : InStep (measureStep width m child) (cur.step width child) := by
  have lineHeight := h.lineHeight
  have left := h.left
  by_cases exceeds : width < (cur.lineWidth + child.outerWidth : Nat)
  · rw [measureStep_break (by rwa [h.lineWidth]), Cursor.step, Cursor.break_over exceeds]
    exact ⟨by simp, by simp, by simp only; split <;> simp⟩
  · rw [measureStep_stay (by rwa [h.lineWidth]), Cursor.step, Cursor.break_room exceeds]
    exact ⟨by simp [h.lineWidth], by simp only; omega, by simp only; split <;> omega⟩

theorem inStep_foldl (width : Int) (children : List View) {m : MeasureState} {cur : Cursor}
    (h : InStep m cur) :
    InStep (children.foldl (measureStep width) m) (children.foldl (Cursor.step width) cur) := by
  induction children generalizing m cur with
  | nil => exact h
  | cons child rest ih => exact ih (h.step width child)

end StudyProject.Widget
