import StudyProject.Base.ViewHolder

/-! A view is found once.  What a lookup found stays in the tag of the row it was made on, through
every later bind of any row, so a later lookup takes it from there and changes nothing. -/

namespace StudyProject.Base

open StudyProject.Library StudyProject.Library.Objects StudyProject.Library.Handler
open StudyProject.Library.Memo (Table)

variable {T : Type} {s : World T} {r : Nat}

/-- What the row's tag holds at an id. -/
def World.held (s : World T) (r : Nat) (id : Int) : Option ViewRef :=
  ((s.row r).tag.getD ∅).get id

/-- Each view that a lookup found is held by the tag of its row. -/
structure World.Cached (s : World T) : Prop where
  holder : s.HolderInv
  cached : ∀ l ∈ s.lookups, ∀ r view, l.row = some r → l.found = some view →
    s.held r l.id = some view

theorem held_updateRow {f : Row → Row}
    (more : ((f (s.row r)).tag.getD ∅).Extends ((s.row r).tag.getD ∅)) {r' : Nat} {id : Int}
    {view : ViewRef} (held : s.held r' id = some view) :
    (s.updateRow r f).held r' id = some view := by
  unfold World.held at held ⊢
  by_cases same : r = r'
  · subst same
    by_cases inside : r < s.rows.length
    · rw [row_updateRow inside]
      exact more id view held
    · rw [row_eq_default inside] at held
      simp at held
  · rw [row_updateRow_of_ne same]
    exact held

theorem World.Cached.updateRow (h : s.Cached) {f : Row → Row} (keeps : KeepsIds f)
    (agrees : r < s.rows.length → ((f (s.row r)).tag.getD ∅).Agrees (s.findViewById r))
    (more : ((f (s.row r)).tag.getD ∅).Extends ((s.row r).tag.getD ∅)) :
    (s.updateRow r f).Cached :=
  ⟨h.holder.updateRow keeps agrees, fun l mem r view row found =>
    held_updateRow more (h.cached l mem r view row found)⟩

/-- A change of the row that leaves its tag alone. -/
theorem World.Cached.sameTag (h : s.Cached) {f : Row → Row} (keeps : KeepsIds f)
    (tag : ∀ row, (f row).tag = row.tag) (r : Nat) : (s.updateRow r f).Cached := by
  apply h.updateRow keeps
  · rw [tag]
    exact fun _ => h.holder.agrees r
  · rw [tag]
    exact Table.extends_refl _

/-! ### Lookups -/

/-- A lookup keeps what the row's tag holds, and adds what it found. -/
theorem getViewById_adds (h : s.HolderInv) (field : s.mConvertView = some r) (id : Int) :
    ∃ viewHolder : SparseArray, viewHolder.Agrees (s.findViewById r) ∧
      viewHolder.Extends ((s.row r).tag.getD ∅) ∧ viewHolder.get id = s.findViewById r id ∧
      (getViewById id).run s =
        .ok (s.findViewById r id) (s.updateRow r (.setTag viewHolder)) := by
  have agrees := h.agrees r
  unfold getViewById
  rw [get_bind, field]
  simp only
  rw [bind_ok (viewHolder_run s r)]
  cases found : Table.get ((s.row r).tag.getD ∅) id with
  | some childView =>
    have same : s.findViewById r id = some childView := agrees id childView found
    exact ⟨_, agrees, Table.extends_refl _, by rw [found, same], by rw [same]; rfl⟩
  | none =>
    refine ⟨_, agrees.put id, Table.extends_put found _, Table.get_put_self _ _ _, ?_⟩
    simp only
    rw [get_bind, modify_bind, updateRow_updateRow, findViewById_updateRow (keepsIds_setTag _)]
    rfl

/-- A lookup at an id that the row's tag holds a view at changes nothing. -/
theorem getViewById_held {view : ViewRef} (field : s.mConvertView = some r) {id : Int}
    (held : s.held r id = some view) : (getViewById id).run s = .ok (some view) s := by
  unfold getViewById
  rw [get_bind, field]
  simp only
  rw [bind_ok (viewHolder_run s r)]
  have same : s.updateRow r (.setTag ((s.row r).tag.getD ∅)) = s := by
    cases tag : (s.row r).tag with
    | none => simp [World.held, tag] at held
    | some table => exact updateRow_self (by rw [Option.getD_some, Row.setTag, ← tag])
  rw [same]
  unfold World.held at held
  rw [held]
  rfl

theorem lookUp_cached (id : Int) : Within (Keeps World.Cached) (lookUp id : Handler T _) := by
  intro s h
  cases field : s.mConvertView with
  | none =>
    have run : (getViewById id).run s = .error .nullPointerException s := by
      unfold getViewById
      rw [get_bind, field]
      rfl
    rw [lookUp, bind_error run]
    exact h
  | some r =>
    obtain ⟨viewHolder, agrees, more, adds, run⟩ := getViewById_adds h.holder field id
    obtain ⟨binding, inside⟩ := h.holder.binding r field
    have kept : (s.updateRow r (.setTag viewHolder)).Cached :=
      h.updateRow (keepsIds_setTag viewHolder) (fun _ => agrees) more
    unfold lookUp
    rw [bind_ok run, modify_bind]
    refine ⟨h.holder.lookedUp field id agrees, ?_⟩
    intro l mem r' view row found
    rcases List.mem_append.mp mem with old | new
    · exact kept.cached l old r' view row found
    · rw [List.mem_singleton.mp new] at row found ⊢
      obtain rfl : r = r' := Option.some.inj (binding.symm.trans row)
      have tag : ((s.updateRow r (.setTag viewHolder)).row r).tag.getD ∅ = viewHolder := by
        rw [row_updateRow inside]
        rfl
      show (((s.updateRow r (.setTag viewHolder)).row r).tag.getD ∅).get id = some view
      rw [tag, adds]
      exact found

/-! ### What keeps the views -/

theorem setClickEvent_cached (isNew : Bool) (position : Nat) (v : Option ViewRef) :
    Within (Keeps World.Cached) (setClickEvent isNew position v : Handler T Unit) := by
  unfold setClickEvent
  cases v with
  | none => exact .throw _
  | some v =>
    apply Within.modify_bind
    · exact fun s h => h.sameTag (keepsIds_updateView (f := View.setTagPosition position)
        (fun _ => rfl) _) (fun _ => rfl) _
    · apply Within.ite
      · exact .modify fun s h => h.sameTag (keepsIds_updateView (f := View.setOnClickListener)
          (fun _ => rfl) _) (fun _ => rfl) _
      · exact .pure _

theorem bindStep_cached (r : Nat) (isNew : Bool) (position : Nat) (b : BindStep) :
    Within (Keeps World.Cached) (b.run r isNew position : Handler T Unit) := by
  cases b with
  | getViewById id => exact .bind (lookUp_cached id) fun _ => .pure _
  | setClickEventViews places => exact .forM (fun v => setClickEvent_cached isNew position _) _
  | setClickEventIds vsId =>
    exact .forM (fun id => .bind (lookUp_cached id) fun v => setClickEvent_cached _ _ v) _

/-- A new row comes after the rows that lookups were made on. -/
theorem World.Cached.opened (h : s.Cached) {convertView : Option Nat}
    (produced : ∀ r, convertView = some r → r < s.rows.length) (ids : List Int) :
    (s.opened convertView ids).Cached := by
  refine ⟨h.holder.opened produced ids, ?_⟩
  intro l mem r view row found
  obtain ⟨r', row', inside, -⟩ := h.holder.lookups l mem
  obtain rfl : r = r' := Option.some.inj (row.symm.trans row')
  have held := h.cached l mem r view row found
  unfold World.held at held ⊢
  rwa [opened_row_old inside]

theorem getView_cached (h : s.Cached) (position : Nat) {convertView : Option Nat}
    (produced : ∀ r, convertView = some r → r < s.rows.length) (ids : List Int)
    (setView : List BindStep) :
    (state ((getView position convertView ids setView).run s)).Cached := by
  rw [getView_run]
  have body : Within (Keeps World.Cached) (do
      forM setView (BindStep.run (s.rowFor convertView) convertView.isNone position)
      modify fun t => t.updateRow (s.rowFor convertView) (.bindTo position) : Handler T Unit) := by
    apply Within.bind
    · exact .forM (bindStep_cached _ _ _) setView
    · intro _
      exact .modify fun t h => h.sameTag (keepsIds_bindTo position) (fun _ => rfl) _
  exact body _ (h.opened produced ids)

theorem step_cached {t : World T} {e : Event T} (h : s.Cached) (stepped : step s e = some t) :
    t.Cached := by
  have holder := step_holderInv h.holder stepped
  obtain ⟨-, enabled, rfl⟩ := step_eq stepped
  have kept : (state ((handle e).run s)).Cached := by
    cases e with
    | setList list =>
      rw [handle, setList]
      cases list with
      | none => exact h
      | some list => exact ⟨handle_keeps h.holder (e := .setList (some list)) rfl, h.cached⟩
    | changeList list => exact ⟨handle_keeps h.holder (e := .changeList list) enabled, h.cached⟩
    | getView position convertView ids setView =>
      apply getView_cached h
      rintro r rfl
      simpa [World.enabled] using enabled
    | click view =>
      have holder := handle_keeps h.holder (e := .click view) enabled
      rw [handle, performClick_run] at holder ⊢
      exact ⟨holder, h.cached⟩
  refine ⟨holder, ?_⟩
  rw [ended_eq]
  exact kept.cached

/-- In every run, a view that a lookup ever found is what a lookup of that id on that row returns
from then on, without a change to the row or anything else. -/
theorem found_once (listener : Bool) (run : List (Event T)) :
    ∀ l ∈ (Machine.final step (create T listener) run).lookups, ∀ r view,
      l.row = some r → l.found = some view →
        (getViewById l.id).run
            { Machine.final step (create T listener) run with mConvertView := some r } =
          .ok (some view)
            { Machine.final step (create T listener) run with mConvertView := some r } := by
  intro l mem r view row found
  have cached : (Machine.final step (create T listener) run).Cached :=
    Machine.invariant (I := World.Cached) (fun _ _ _ h stepped => step_cached h stepped)
      ⟨holderInv listener [], by simp [create]⟩ run
  have held := cached.cached l mem r view row found
  exact getViewById_held (s := { Machine.final step (create T listener) run with
    mConvertView := some r }) rfl held

/-- The view that the two lookups found. -/
theorem found_once_twice :
    (getViewById 8).run
        { Machine.final step (create String false) lookedUpTwice with mConvertView := some 0 } =
      .ok (some ⟨0, 1⟩)
        { Machine.final step (create String false) lookedUpTwice with mConvertView := some 0 } :=
  found_once false lookedUpTwice ⟨some 0, 8, some ⟨0, 1⟩⟩ (List.mem_of_getLast? (by rfl)) 0 ⟨0, 1⟩
    rfl rfl

end StudyProject.Base
