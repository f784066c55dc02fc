import StudyProject.Base.BaseListAdapter

/-! What the handlers of the adapter do to its rows.  A change of one row leaves the others alone,
and no handler changes the ids of a row's views, so `findViewById` finds the same before and
after. -/

namespace StudyProject.Base

open StudyProject.Library StudyProject.Library.Objects StudyProject.Library.Handler

variable {T : Type} {s : World T} {r : Nat}

/-! ### Rows and their views -/

/-- A change of a row that leaves the ids of its views alone. -/
def KeepsIds (f : Row → Row) : Prop := ∀ row, (f row).views.map View.id = row.views.map View.id

theorem Row.findViewById_eq (row : Row) (id : Int) :
    row.findViewById id =
      if id < 0 then none else (row.views.map View.id).findIdx? fun i => i = id := by
  rw [Row.findViewById, List.findIdx?_map]
  rfl

theorem keepsIds_setTag (viewHolder : SparseArray) : KeepsIds (Row.setTag viewHolder) :=
  fun _ => rfl

theorem keepsIds_bindTo (position : Nat) : KeepsIds (Row.bindTo position) := fun _ => rfl

theorem keepsIds_updateView {f : View → View} (same : ∀ v, (f v).id = v.id) (place : Nat) :
    KeepsIds (Row.updateView f place) := by
  intro row
  apply List.ext_getElem?
  intro i
  rw [Row.updateView, List.getElem?_map, List.getElem?_map, List.getElem?_modify]
  cases row.views[i]? with
  | none => rfl
  | some v =>
    simp only [Option.map_eq_map, Option.map_some]
    split
    · rw [same]
    · rfl

@[simp] theorem updateRow_length (s : World T) (r : Nat) (f : Row → Row) :
    (s.updateRow r f).rows.length = s.rows.length :=
  update_length (some r) f s.rows

theorem row_updateRow (inside : r < s.rows.length) (f : Row → Row) :
    (s.updateRow r f).row r = f (s.row r) := by
  simp [World.updateRow, World.row, inside]

theorem row_updateRow_of_ne {r' : Nat} (ne : r ≠ r') (s : World T) (f : Row → Row) :
    (s.updateRow r f).row r' = s.row r' := by
  simp [World.updateRow, World.row, ne]

theorem row_eq_default (outside : ¬r < s.rows.length) : s.row r = {} := by
  rw [World.row, List.getElem?_eq_none (by omega), Option.getD_none]

theorem ids_updateRow {f : Row → Row} (keeps : KeepsIds f) (s : World T) (r r' : Nat) :
    ((s.updateRow r f).row r').views.map View.id = (s.row r').views.map View.id := by
  by_cases same : r = r'
  · subst same
    by_cases inside : r < s.rows.length
    · rw [row_updateRow inside, keeps]
    · rw [row_eq_default (s := s.updateRow r f) (by rwa [updateRow_length]),
        row_eq_default inside]
  · rw [row_updateRow_of_ne same]

theorem findViewById_updateRow {f : Row → Row} (keeps : KeepsIds f) (s : World T) (r : Nat) :
    (s.updateRow r f).findViewById = s.findViewById := by
  funext r' id
  rw [World.findViewById, World.findViewById, Row.findViewById_eq, Row.findViewById_eq,
    ids_updateRow keeps]

theorem updateRow_self {f : Row → Row} (same : f (s.row r) = s.row r) : s.updateRow r f = s := by
  have rows : update (some r) f s.rows = s.rows := by
    apply List.ext_getElem?
    intro i
    rw [update_some, List.getElem?_modify]
    cases at_i : s.rows[i]? with
    | none => rfl
    | some row =>
      by_cases here : r = i
      · subst here
        rw [World.row, at_i] at same
        simpa using same
      · simp [here]
  rw [World.updateRow, rows]

theorem updateRow_updateRow (s : World T) (r : Nat) (f g : Row → Row) :
    (s.updateRow r f).updateRow r g = s.updateRow r fun row => g (f row) := by
  simp only [World.updateRow, update_update]

/-! ### What the handlers do -/

/-- The row's view holder, which is in its tag afterwards. -/
theorem viewHolder_run (s : World T) (r : Nat) :
    (viewHolder r).run s =
      .ok ((s.row r).tag.getD ∅) (s.updateRow r (.setTag ((s.row r).tag.getD ∅))) := by
  unfold viewHolder
  rw [get_bind]
  cases tag : (s.row r).tag with
  | none => rfl
  | some held =>
    have same : s.updateRow r (.setTag held) = s := updateRow_self (by rw [Row.setTag, ← tag])
    simp [same]

/-- The row that `getView` binds: the one it is given, or a new one. -/
def World.rowFor (s : World T) (convertView : Option Nat) : Nat := convertView.getD s.rows.length

/-- The world in which `setView` begins. -/
def World.opened (s : World T) (convertView : Option Nat) (ids : List Int) : World T :=
  { s with
    rows :=
      match convertView with
      | none => s.rows ++ [{ views := ids.map fun id => { id } }]
      | some _ => s.rows
    binding := some (s.rowFor convertView)
    mConvertView := some (s.rowFor convertView) }

theorem opened_row_new (s : World T) (ids : List Int) :
    (s.opened none ids).row s.rows.length = { views := ids.map fun id => { id } } := by
  simp [World.opened, World.row]

theorem opened_row_old {r' : Nat} (inside : r' < s.rows.length) (convertView : Option Nat)
    (ids : List Int) : (s.opened convertView ids).row r' = s.row r' := by
  cases convertView with
  | none => simp [World.opened, World.row, List.getElem?_append_left inside]
  | some r => rfl

theorem opened_row_of_ne {r' : Nat} {convertView : Option Nat} (ne : s.rowFor convertView ≠ r')
    (ids : List Int) : (s.opened convertView ids).row r' = s.row r' := by
  by_cases inside : r' < s.rows.length
  · exact opened_row_old inside convertView ids
  · cases convertView with
    | none =>
      have beyond : s.rows.length < r' := by
        simp only [World.rowFor, Option.getD_none] at ne
        omega
      rw [row_eq_default (by simp [World.opened]; omega), row_eq_default (by omega)]
    | some r => rfl

theorem opened_length (s : World T) (convertView : Option Nat) (ids : List Int) :
    (s.opened convertView ids).rows.length =
      s.rows.length + if convertView.isNone then 1 else 0 := by
  cases convertView with
  | none => simp [World.opened]
  | some r => rfl

theorem getView_run (s : World T) (position : Nat) (convertView : Option Nat) (ids : List Int)
    (setView : List BindStep) :
    (getView position convertView ids setView).run s =
      (do
        forM setView (BindStep.run (s.rowFor convertView) convertView.isNone position)
        modify fun t => t.updateRow (s.rowFor convertView) (.bindTo position) : Handler T Unit).run
          (s.opened convertView ids) := by
  cases convertView <;> rfl

theorem getItem_run {position : Nat} (inside : position < s.getCount) :
    ∃ item, s.list.bind (fun list => list[position]?) = some item ∧
      (getItem position).run s = .ok (some item) s := by
  unfold BaseListAdapter.getCount at inside
  unfold getItem
  rw [get_bind]
  cases held : s.list with
  | none => simp [held] at inside
  | some list =>
    simp only [held] at inside
    have at_p : list[position]? = some list[position] := List.getElem?_eq_getElem inside
    refine ⟨list[position], at_p, ?_⟩
    simp only [at_p]
    rfl

/-- What a click does: it calls the listener if there is one and the view's position is within the
list. -/
def World.clicked (s : World T) (view : ViewRef) : World T :=
  { s with
    itemClicks := s.itemClicks ++
      match ((s.row view.row).views[view.place]?.filter View.clickListener).bind
          View.tagPosition with
      | none => []
      | some position =>
        if s.listener = true ∧ position < s.getCount then
          [⟨s.list.bind fun list => list[position]?, view, position⟩]
        else [] }

theorem performClick_run (s : World T) (view : ViewRef) :
    (performClick view).run s = .ok () (s.clicked view) := by
  unfold performClick onClick World.clicked
  rw [get_bind]
  cases at_v : (s.row view.row).views[view.place]? with
  | none => simp
  | some v =>
    cases clickable : v.clickListener with
    | false => simp [clickable, Option.filter_some]
    | true =>
      rw [Option.any_some, if_pos clickable, get_bind, at_v, Option.filter_some, if_pos clickable]
      simp only [Option.bind_some]
      cases tag : v.tagPosition with
      | none => simp
      | some position =>
        simp only
        rw [get_bind]
        by_cases inside : position < s.getCount
        · rw [if_pos inside, get_bind]
          cases listener : s.listener with
          | false => simp
          | true =>
            obtain ⟨item, found, run⟩ := getItem_run inside
            rw [if_pos rfl, bind_ok run, if_pos ⟨rfl, inside⟩, found]
            rfl
        · rw [if_neg inside, if_neg fun both => inside both.2]
          simp

end StudyProject.Base
