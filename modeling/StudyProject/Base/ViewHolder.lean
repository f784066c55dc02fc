import StudyProject.Base.Rows

/-! The view holder of a row.  What a row's tag holds at an id is what `findViewById` finds there,
so a lookup made while a row is bound returns the same as `findViewById` on that row, however often
the row was taken back before. -/

namespace StudyProject.Base

open StudyProject.Library StudyProject.Library.Objects StudyProject.Library.Handler
open StudyProject.Library.Memo (Table)

variable {T : Type} {s : World T} {r : Nat}

/-! ### The invariant -/

/-- Each row's tag holds views that `findViewById` finds, the row being bound is the one in
`mConvertView`, and the lookups recorded so far found what `findViewById` finds. -/
structure World.HolderInv (s : World T) : Prop where
  agrees : ∀ r, ((s.row r).tag.getD ∅).Agrees (s.findViewById r)
  binding : ∀ r, s.mConvertView = some r → s.binding = some r ∧ r < s.rows.length
  lookups : ∀ l ∈ s.lookups, ∃ r, l.row = some r ∧ r < s.rows.length ∧
    l.found = s.findViewById r l.id

theorem World.HolderInv.updateRow (h : s.HolderInv) {f : Row → Row} (keeps : KeepsIds f)
    (agrees : r < s.rows.length → ((f (s.row r)).tag.getD ∅).Agrees (s.findViewById r)) :
    (s.updateRow r f).HolderInv where
  agrees := by
    intro r'
    rw [findViewById_updateRow keeps]
    by_cases same : r = r'
    · subst same
      by_cases inside : r < s.rows.length
      · rw [row_updateRow inside]
        exact agrees inside
      · rw [row_eq_default (s := s.updateRow r f) (by rwa [updateRow_length])]
        exact Table.agrees_empty _
    · rw [row_updateRow_of_ne same]
      exact h.agrees r'
  binding := by
    rw [updateRow_length]
    exact h.binding
  lookups := by
    rw [updateRow_length, findViewById_updateRow keeps]
    exact h.lookups

/-- A lookup finds what `findViewById` finds, and leaves a view holder that agrees with it. -/
theorem getViewById_run (h : s.HolderInv) (field : s.mConvertView = some r) (id : Int) :
    ∃ viewHolder : SparseArray, viewHolder.Agrees (s.findViewById r) ∧
      (getViewById id).run s =
        .ok (s.findViewById r id) (s.updateRow r (.setTag viewHolder)) := by
  have agrees := h.agrees r
  unfold getViewById
  rw [get_bind, field]
  simp only
  rw [bind_ok (viewHolder_run s r)]
  cases found : Table.get ((s.row r).tag.getD ∅) id with
  | some childView =>
    refine ⟨_, agrees, ?_⟩
    rw [agrees id childView found]
    rfl
  | none =>
    refine ⟨_, agrees.put id, ?_⟩
    simp only
    rw [get_bind, modify_bind, updateRow_updateRow, findViewById_updateRow (keepsIds_setTag _)]
    rfl

/-- The world after a lookup that leaves the view holder. -/
def World.lookedUp (s : World T) (r : Nat) (id : Int) (viewHolder : SparseArray) : World T :=
  { s.updateRow r (.setTag viewHolder) with
    lookups := s.lookups ++ [⟨s.binding, id, s.findViewById r id⟩] }

theorem World.HolderInv.lookedUp (h : s.HolderInv) (field : s.mConvertView = some r) (id : Int)
    {viewHolder : SparseArray} (agrees : viewHolder.Agrees (s.findViewById r)) :
    (s.lookedUp r id viewHolder).HolderInv := by
  obtain ⟨binding, inside⟩ := h.binding r field
  have kept : (s.updateRow r (.setTag viewHolder)).HolderInv :=
    h.updateRow (keepsIds_setTag viewHolder) fun _ => agrees
  refine ⟨kept.agrees, kept.binding, ?_⟩
  intro l mem
  rcases List.mem_append.mp mem with old | new
  · exact kept.lookups l old
  · rw [List.mem_singleton.mp new]
    refine ⟨r, binding, by simpa [World.lookedUp] using inside, ?_⟩
    exact (congrFun (congrFun
      (findViewById_updateRow (keepsIds_setTag viewHolder) s r) r) id).symm

theorem lookUp_run (h : s.HolderInv) (field : s.mConvertView = some r) (id : Int) :
    ∃ viewHolder : SparseArray, viewHolder.Agrees (s.findViewById r) ∧
      (lookUp id).run s = .ok (s.findViewById r id) (s.lookedUp r id viewHolder) := by
  obtain ⟨viewHolder, agrees, run⟩ := getViewById_run h field id
  refine ⟨viewHolder, agrees, ?_⟩
  unfold lookUp
  rw [bind_ok run, modify_bind]
  rfl

/-! ### What keeps the invariant -/

theorem World.HolderInv.updateView (h : s.HolderInv) {f : View → View}
    (same : ∀ v, (f v).id = v.id) (r place : Nat) :
    (s.updateRow r (.updateView f place)).HolderInv :=
  h.updateRow (keepsIds_updateView same place) fun _ => h.agrees r

theorem lookUp_keeps (id : Int) : Within (Keeps World.HolderInv) (lookUp id : Handler T _) := by
  intro s h
  cases field : s.mConvertView with
  | none =>
    have run : (getViewById id).run s = .error .nullPointerException s := by
      unfold getViewById
      rw [get_bind, field]
      rfl
    rw [lookUp, bind_error run]
    exact h
  | some r =>
    obtain ⟨viewHolder, agrees, run⟩ := lookUp_run h field id
    rw [run]
    exact h.lookedUp field id agrees

theorem setClickEvent_keeps (isNew : Bool) (position : Nat) (v : Option ViewRef) :
    Within (Keeps World.HolderInv) (setClickEvent isNew position v : Handler T Unit) := by
  unfold setClickEvent
  cases v with
  | none => exact .throw _
  | some v =>
    apply Within.modify_bind
    · exact fun s h => h.updateView (f := View.setTagPosition position) (fun _ => rfl) _ _
    · apply Within.ite
      · exact .modify fun s h => h.updateView (f := View.setOnClickListener) (fun _ => rfl) _ _
      · exact .pure _

theorem bindStep_keeps (r : Nat) (isNew : Bool) (position : Nat) (b : BindStep) :
    Within (Keeps World.HolderInv) (b.run r isNew position : Handler T Unit) := by
  cases b with
  | getViewById id => exact .bind (lookUp_keeps id) fun _ => .pure _
  | setClickEventViews places => exact .forM (fun v => setClickEvent_keeps isNew position _) _
  | setClickEventIds vsId =>
    exact .forM (fun id => .bind (lookUp_keeps id) fun v => setClickEvent_keeps _ _ v) _

theorem World.HolderInv.opened (h : s.HolderInv) {convertView : Option Nat}
    (produced : ∀ r, convertView = some r → r < s.rows.length) (ids : List Int) :
    (s.opened convertView ids).HolderInv := by
  cases convertView with
  | some r =>
    refine ⟨h.agrees, ?_, h.lookups⟩
    rintro r' ⟨⟩
    exact ⟨rfl, produced r rfl⟩
  | none =>
    refine ⟨?_, ?_, ?_⟩
    · intro r
      by_cases inside : r < s.rows.length
      · rw [opened_row_old inside]
        intro id v found
        rw [World.findViewById, opened_row_old inside]
        exact h.agrees r id v found
      · have fresh : ((s.opened none ids).row r).tag.getD ∅ = ∅ := by
          by_cases new : r = s.rows.length
          · simp [World.opened, World.row, new]
          · rw [row_eq_default (s := s.opened none ids) (by simp [World.opened]; omega)]
            rfl
        rw [fresh]
        exact Table.agrees_empty _
    · rintro r ⟨⟩
      exact ⟨rfl, by simp [World.opened, World.rowFor]⟩
    · intro l mem
      obtain ⟨r, row, inside, found⟩ := h.lookups l mem
      refine ⟨r, row, by simp [World.opened]; omega, ?_⟩
      rw [found, World.findViewById, World.findViewById, opened_row_old inside]

/-- Binding a row keeps the invariant, whatever `setView` does and however it ends. -/
theorem getView_keeps (h : s.HolderInv) (position : Nat) {convertView : Option Nat}
    (produced : ∀ r, convertView = some r → r < s.rows.length) (ids : List Int)
    (setView : List BindStep) :
    (state ((getView position convertView ids setView).run s)).HolderInv := by
  rw [getView_run]
  have body : Within (Keeps World.HolderInv) (do
      forM setView (BindStep.run (s.rowFor convertView) convertView.isNone position)
      modify fun t => t.updateRow (s.rowFor convertView) (.bindTo position) : Handler T Unit) := by
    apply Within.bind
    · exact .forM (bindStep_keeps _ _ _) setView
    · intro _
      exact .modify fun t h => h.updateRow (keepsIds_bindTo position) fun _ => h.agrees _
  exact body _ (h.opened produced ids)

theorem handle_keeps (h : s.HolderInv) {e : Event T} (enabled : s.enabled e = true) :
    (state ((handle e).run s)).HolderInv := by
  cases e with
  | setList list =>
    rw [handle, setList]
    cases list with
    | none => exact h
    | some list => exact ⟨h.agrees, h.binding, h.lookups⟩
  | changeList list => exact ⟨h.agrees, h.binding, h.lookups⟩
  | getView position convertView ids setView =>
    apply getView_keeps h
    rintro r rfl
    simpa [World.enabled] using enabled
  | click view =>
    rw [handle, performClick_run]
    exact ⟨h.agrees, h.binding, h.lookups⟩

theorem ended_eq (r : EStateM.Result Throwable (World T) Unit) :
    ended r = { state r with crash := (ended r).crash } := by
  cases r <;> rfl

theorem step_eq {t : World T} {e : Event T} (h : step s e = some t) :
    s.crash = none ∧ s.enabled e = true ∧ t = ended ((handle e).run s) := by
  unfold step at h
  split at h
  · rename_i running
    simp only [Bool.and_eq_true, Option.isNone_iff_eq_none] at running
    exact ⟨running.1, running.2, by simpa using h.symm⟩
  · simp at h

theorem step_holderInv {t : World T} {e : Event T} (h : s.HolderInv) (stepped : step s e = some t) :
    t.HolderInv := by
  obtain ⟨-, enabled, rfl⟩ := step_eq stepped
  have kept := handle_keeps h enabled
  rw [ended_eq]
  exact ⟨kept.agrees, kept.binding, kept.lookups⟩

theorem holderInv (listener : Bool) (run : List (Event T)) :
    (Machine.final step (create T listener) run).HolderInv := by
  apply Machine.invariant (fun _ _ _ h stepped => step_holderInv h stepped)
  refine ⟨fun r => ?_, ?_, ?_⟩
  · exact Table.agrees_empty _
  · rintro r ⟨⟩
  · rintro l ⟨⟩

/-- In every run, each lookup made while a row was bound found what `findViewById` finds in that
row, nothing where it finds nothing, and never a view of another row. -/
theorem lookups_agree (listener : Bool) (run : List (Event T)) :
    ∀ l ∈ (Machine.final step (create T listener) run).lookups,
      ∃ r, l.row = some r ∧
        l.found = (Machine.final step (create T listener) run).findViewById r l.id ∧
        ∀ view, l.found = some view → view.row = r := by
  intro l mem
  obtain ⟨r, row, -, found⟩ := (holderInv listener run).lookups l mem
  refine ⟨r, row, found, ?_⟩
  intro view at_id
  rw [found, World.findViewById] at at_id
  obtain ⟨place, -, rfl⟩ := Option.map_eq_some_iff.mp at_id
  rfl

/-- A row with views of ids 7 and 8, looked up in for 8 when it is new and again when it is taken
back. -/
def lookedUpTwice : List (Event String) :=
  [.getView 0 none [7, 8] [.getViewById 8], .getView 1 (some 0) [] [.getViewById 8]]

/-- The second lookup finds the view in the cache. -/
theorem lookups_agree_twice :
    ∃ r, some 0 = some r ∧
      some ⟨0, 1⟩ = (Machine.final step (create String false) lookedUpTwice).findViewById r 8 ∧
      ∀ view, some (⟨0, 1⟩ : ViewRef) = some view → view.row = r :=
  lookups_agree false lookedUpTwice ⟨some 0, 8, some ⟨0, 1⟩⟩ (List.mem_of_getLast? (by rfl))

end StudyProject.Base
