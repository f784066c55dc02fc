import StudyProject.Base.ViewHolder

/-! Clicks on the rows of the adapter.  A bind writes its position on each target of the row, and
the first one makes the adapter their listener.  So where every bind registers the same targets, a
click on one is reported with the position its row was last bound to, if that is still in the
list. -/

namespace StudyProject.Base

open StudyProject.Library StudyProject.Library.Objects StudyProject.Library.Handler

variable {T : Type} {s t u : World T} {r : Nat} {isNew : Bool} {position : Nat}
  {places places' : List Nat}

/-! ### Targets -/

/-- What a bind registers: a view of the row, or an id. -/
inductive Target where
  | view (place : Nat)
  | viewId (id : Int)
deriving DecidableEq, Repr

/-- The place of the target in a row that has it. -/
def Target.place (row : Row) : Target → Option Nat
  | .view place => if place < row.views.length then some place else none
  | .viewId id => row.findViewById id

def BindStep.targets : BindStep → List Target
  | .getViewById _ => []
  | .setClickEventViews places => places.map .view
  | .setClickEventIds vsId => vsId.map .viewId

theorem Target.place_eq (row : Row) (target : Target) :
    target.place row =
      match target with
      | .view place => if place < (row.views.map View.id).length then some place else none
      | .viewId id =>
        if id < 0 then none else (row.views.map View.id).findIdx? fun i => i = id := by
  cases target with
  | view place => rw [Target.place, List.length_map]
  | viewId id => exact row.findViewById_eq id

theorem Target.place_congr {row row' : Row}
    (same : row.views.map View.id = row'.views.map View.id) (target : Target) :
    target.place row = target.place row' := by
  rw [Target.place_eq, Target.place_eq, same]

theorem Target.place_lt {row : Row} {target : Target} {place : Nat}
    (at_p : target.place row = some place) : place < row.views.length := by
  cases target with
  | view p =>
    rw [Target.place] at at_p
    split at at_p
    · rename_i inside
      rwa [← Option.some.inj at_p]
    · simp at at_p
  | viewId id =>
    rw [Target.place, Row.findViewById] at at_p
    split at at_p
    · simp at at_p
    · exact (List.findIdx?_eq_some_iff_getElem.mp at_p).1

/-! ### What a bind registers -/

/-- A view that a bind at this position registered. -/
def register (isNew : Bool) (position : Nat) (v : View) : View :=
  { v with tagPosition := some position, clickListener := isNew || v.clickListener }

/-- Registering more than once is registering once. -/
theorem getElem?_register (places : List Nat) (views : List View) (i : Nat) :
    (places.foldl (fun views place => views.modify place (register isNew position)) views)[i]? =
      views[i]?.map (if i ∈ places then register isNew position else id) := by
  induction places generalizing views with
  | nil => simp
  | cons place places ih =>
    rw [List.foldl_cons, ih, List.getElem?_modify]
    cases views[i]? with
    | none => rfl
    | some v =>
      by_cases here : place = i
      · subst here
        by_cases again : place ∈ places
        · simp [again, register]
        · simp [again]
      · have : i ≠ place := fun same => here same.symm
        simp [here, this]

theorem map_id_register (places : List Nat) (views : List View) :
    (places.foldl (fun views place => views.modify place (register isNew position)) views).map
      View.id = views.map View.id := by
  apply List.ext_getElem?
  intro i
  rw [List.getElem?_map, List.getElem?_map, getElem?_register]
  cases views[i]? with
  | none => rfl
  | some v =>
    simp only [Option.map_some]
    split <;> rfl

/-- `t` is `s` after registrations at these places of the row `r`. -/
structure Registered (r : Nat) (isNew : Bool) (position : Nat) (places : List Nat)
    (s t : World T) : Prop where
  holder : s.HolderInv → t.HolderInv
  adapter : t.toBaseListAdapter = s.toBaseListAdapter
  crash : t.crash = s.crash
  itemClicks : t.itemClicks = s.itemClicks
  length : t.rows.length = s.rows.length
  others : ∀ r', r ≠ r' → t.row r' = s.row r'
  views : (t.row r).views =
    places.foldl (fun views place => views.modify place (register isNew position)) (s.row r).views

theorem Registered.refl (s : World T) : Registered r isNew position [] s s :=
  ⟨id, rfl, rfl, rfl, rfl, fun _ _ => rfl, rfl⟩

theorem Registered.trans (h : Registered r isNew position places s t)
    (h' : Registered r isNew position places' t u) :
    Registered r isNew position (places ++ places') s u where
  holder := h'.holder ∘ h.holder
  adapter := h'.adapter.trans h.adapter
  crash := h'.crash.trans h.crash
  itemClicks := h'.itemClicks.trans h.itemClicks
  length := h'.length.trans h.length
  others r' ne := (h'.others r' ne).trans (h.others r' ne)
  views := by rw [h'.views, h.views, List.foldl_append]

theorem Registered.ids (h : Registered r isNew position places s t) :
    (t.row r).views.map View.id = (s.row r).views.map View.id := by
  rw [h.views, map_id_register]

theorem Registered.mConvertView (h : Registered r isNew position places s t) :
    t.mConvertView = s.mConvertView :=
  congrArg BaseListAdapter.mConvertView h.adapter

variable (isNew position) in
theorem lookUp_registered (h : s.HolderInv) (field : s.mConvertView = some r) (id : Int) :
    ∃ t, (lookUp id).run s = .ok (s.findViewById r id) t ∧
      Registered r isNew position [] s t := by
  obtain ⟨viewHolder, agrees, run⟩ := lookUp_run h field id
  have inside := (h.binding r field).2
  refine ⟨_, run, fun _ => h.lookedUp field id agrees, rfl, rfl, rfl, ?_, ?_, ?_⟩
  · exact updateRow_length s r _
  · exact fun r' ne => row_updateRow_of_ne ne s _
  · show ((s.updateRow r (.setTag viewHolder)).row r).views = (s.row r).views
    rw [row_updateRow inside, Row.setTag]

variable (isNew position) in
theorem setClickEvent_registered (inside : r < s.rows.length) (place : Nat) :
    ∃ t, (setClickEvent isNew position (some ⟨r, place⟩)).run s = .ok ⟨⟩ t ∧
      Registered r isNew position [place] s t := by
  cases isNew with
  | false =>
    refine ⟨s.updateRow r (.updateView (View.setTagPosition position) place), rfl, ?_, rfl, rfl,
      rfl, ?_, ?_, ?_⟩
    · exact fun h => h.updateView (f := View.setTagPosition position) (fun _ => rfl) r place
    · exact updateRow_length s r _
    · exact fun r' ne => row_updateRow_of_ne ne s _
    · rw [row_updateRow inside]
      rfl
  | true =>
    refine ⟨(s.updateRow r (.updateView (View.setTagPosition position) place)).updateRow r
      (.updateView View.setOnClickListener place), rfl, ?_, rfl, rfl, rfl, ?_, ?_, ?_⟩
    · intro h
      apply World.HolderInv.updateView _ (f := View.setOnClickListener) fun _ => rfl
      exact h.updateView (f := View.setTagPosition position) (fun _ => rfl) r place
    · rw [updateRow_length, updateRow_length]
    · intro r' ne
      rw [row_updateRow_of_ne ne, row_updateRow_of_ne ne]
    · rw [updateRow_updateRow, row_updateRow inside]
      exact List.modify_modify_eq _ _ _ _

theorem Registered.place (h : Registered r isNew position places s t) (target : Target) :
    target.place (t.row r) = target.place (s.row r) :=
  target.place_congr h.ids

/-- While the row `r` is bound and has all `targets`, the code completes and registers them. -/
def Registers (r : Nat) (isNew : Bool) (position : Nat) (targets : List Target)
    (x : Handler T PUnit) : Prop :=
  ∀ s, s.HolderInv → s.mConvertView = some r →
    (∀ target ∈ targets, (target.place (s.row r)).isSome = true) →
      ∃ t, x.run s = .ok ⟨⟩ t ∧
        Registered r isNew position (targets.filterMap fun target => target.place (s.row r)) s t

theorem Registers.bind {targets targets' : List Target} {x y : Handler T PUnit}
    (hx : Registers r isNew position targets x) (hy : Registers r isNew position targets' y) :
    Registers r isNew position (targets ++ targets') (x >>= fun _ => y) := by
  intro s holder field has
  rw [List.forall_mem_append] at has
  obtain ⟨t, run, done⟩ := hx s holder field has.1
  obtain ⟨u, run', done'⟩ := hy t (done.holder holder) (done.mConvertView.trans field)
    (fun target mem => by rw [done.place]; exact has.2 target mem)
  simp only [done.place] at done'
  refine ⟨u, ?_, ?_⟩
  · rw [bind_ok run, run']
  · rw [List.filterMap_append]
    exact done.trans done'

theorem Registers.forM {α : Type} {f : α → Handler T PUnit} {targets : α → List Target}
    (h : ∀ a, Registers r isNew position (targets a) (f a)) (xs : List α) :
    Registers r isNew position (xs.flatMap targets) (forM xs f) := by
  induction xs with
  | nil =>
    intro s _ _ _
    exact ⟨s, rfl, .refl s⟩
  | cons x xs ih =>
    rw [List.forM_cons, List.flatMap_cons]
    exact (h x).bind ih

theorem registers_view (place : Nat) :
    Registers r isNew position [.view place]
      (setClickEvent isNew position (some ⟨r, place⟩) : Handler T PUnit) := by
  intro s holder field has
  have inside := (holder.binding r field).2
  have at_p : Target.place (s.row r) (.view place) = some place := by
    have found := has (.view place) (by simp)
    rw [Target.place] at found ⊢
    split at found
    · rename_i within_
      rw [if_pos within_]
    · simp at found
  obtain ⟨t, run, done⟩ := setClickEvent_registered isNew position inside place
  exact ⟨t, run, by simpa [at_p] using done⟩

theorem registers_viewId (id : Int) :
    Registers r isNew position [.viewId id] (do
      let v ← lookUp id
      setClickEvent isNew position v : Handler T PUnit) := by
  intro s holder field has
  have inside := (holder.binding r field).2
  obtain ⟨place, at_p⟩ := Option.isSome_iff_exists.mp (has (.viewId id) (by simp))
  have found : s.findViewById r id = some ⟨r, place⟩ := by
    rw [World.findViewById, show (s.row r).findViewById id = some place from at_p]
    rfl
  obtain ⟨t, run, looked⟩ := lookUp_registered isNew position holder field id
  rw [← looked.length] at inside
  obtain ⟨u, run', done⟩ := setClickEvent_registered isNew position inside place
  refine ⟨u, ?_, ?_⟩
  · rw [bind_ok run, found, run']
  · simpa [at_p] using looked.trans done

theorem registers_bindStep (b : BindStep) :
    Registers r isNew position b.targets (b.run r isNew position : Handler T PUnit) := by
  cases b with
  | getViewById id =>
    intro s holder field _
    obtain ⟨t, run, looked⟩ := lookUp_registered isNew position holder field id
    refine ⟨t, ?_, looked⟩
    rw [BindStep.run, bind_ok run]
    rfl
  | setClickEventViews places =>
    have each : Registers r isNew position (places.flatMap fun place => [.view place])
        (forM places fun place => setClickEvent isNew position (some ⟨r, place⟩) :
          Handler T PUnit) :=
      .forM registers_view places
    simp only [BindStep.targets, BindStep.run, setClickEventViews, List.forM_map]
    rwa [← List.map_eq_flatMap] at each
  | setClickEventIds vsId =>
    have each : Registers r isNew position (vsId.flatMap fun id => [.viewId id])
        (forM vsId fun id => (do
          let v ← lookUp id
          setClickEvent isNew position v : Handler T PUnit)) :=
      .forM registers_viewId vsId
    simp only [BindStep.targets, BindStep.run, setClickEventIds]
    rwa [← List.map_eq_flatMap] at each

theorem registers_setView (setView : List BindStep) :
    Registers r isNew position (setView.flatMap BindStep.targets)
      (forM setView (BindStep.run r isNew position) : Handler T PUnit) :=
  .forM registers_bindStep setView

/-! ### The invariant -/

/-- The row has all targets, and each carries the position that the row was last bound to and
reports its clicks. -/
structure RowBound (targets : List Target) (row : Row) : Prop where
  has : ∀ target ∈ targets, (target.place row).isSome = true
  bound : ∃ position, row.boundTo = some position ∧
    ∀ target ∈ targets, ∀ place, target.place row = some place →
      ∃ v, row.views[place]? = some v ∧ v.tagPosition = some position ∧ v.clickListener = true

structure World.BoundInv (targets : List Target) (s : World T) : Prop where
  holder : s.HolderInv
  running : s.crash = none
  rows : ∀ r, r < s.rows.length → RowBound targets (s.row r)

/-- Every bind registers these targets, and a new row has them. -/
def RegistersTargets (targets : List Target) : Event T → Prop
  | .getView _ convertView ids setView =>
    (∀ target, target ∈ setView.flatMap BindStep.targets ↔ target ∈ targets) ∧
      (convertView = none → ∀ target ∈ targets,
        (target.place { views := ids.map fun id => { id } }).isSome = true)
  | _ => True

/-- Registering all targets binds the row, if it is new or was bound before. -/
theorem rowBound_of_registered {targets registered : List Target} {row row' : Row}
    (same : ∀ target, target ∈ registered ↔ target ∈ targets)
    (has : ∀ target ∈ targets, (target.place row).isSome = true)
    (listening : isNew = true ∨ RowBound targets row)
    (views : row'.views = (registered.filterMap fun target => target.place row).foldl
      (fun views place => views.modify place (register isNew position)) row.views)
    (boundTo : row'.boundTo = some position) : RowBound targets row' := by
  have place (target : Target) : target.place row' = target.place row := by
    apply target.place_congr
    rw [views, map_id_register]
  refine ⟨fun target mem => by rw [place]; exact has target mem, position, boundTo, ?_⟩
  intro target mem p at_p
  rw [place] at at_p
  have registered_p : p ∈ registered.filterMap fun target => target.place row :=
    List.mem_filterMap.mpr ⟨target, (same target).mpr mem, at_p⟩
  have inside := Target.place_lt at_p
  have old : row.views[p]? = some row.views[p] := List.getElem?_eq_getElem inside
  refine ⟨register isNew position row.views[p], ?_, rfl, ?_⟩
  · rw [views, getElem?_register, old, if_pos registered_p, Option.map_some]
  · rcases listening with new | bound
    · simp [register, new]
    · obtain ⟨_, -, carried⟩ := bound.bound
      obtain ⟨v, at_v, -, listener⟩ := carried target mem p at_p
      rw [old] at at_v
      simp [register, Option.some.inj at_v, listener]

/-- The row that the event binds, one taken back or else a new one, and the position it asks for. -/
def World.binds (s : World T) : Event T → Option (Nat × Nat)
  | .getView position convertView _ _ => some (s.rowFor convertView, position)
  | _ => none

def Event.inflates : Event T → Bool
  | .getView _ none _ _ => true
  | _ => false

/-- The list that the event makes the current one. -/
def Event.sets : Event T → Option (List T)
  | .setList list => list
  | .changeList list => some list
  | _ => none

/-- The step throws nothing.  If it is a bind, the row that it asks for is there with all targets
and is bound to the position.  No other row is bound or made, none but a click is reported, and the
list is the last one that was set. -/
structure RowsBound (targets : List Target) (x : Machine.Step (World T) (Event T)) : Prop where
  completed : x.after.crash = none
  bound : ∀ r position, x.before.binds x.event = some (r, position) →
    r < x.after.rows.length ∧ (x.after.row r).boundTo = some position ∧
      ∀ target ∈ targets, (target.place (x.after.row r)).isSome = true
  others : ∀ r, (∀ position, x.before.binds x.event ≠ some (r, position)) →
    (x.after.row r).boundTo = (x.before.row r).boundTo
  length : x.after.rows.length = x.before.rows.length + if x.event.inflates then 1 else 0
  silent : (∀ view, x.event ≠ .click view) → x.after.itemClicks = x.before.itemClicks
  list : x.after.list = x.event.sets.or x.before.list

/-- A bind completes, leaves the other rows alone, and binds its row to its position. -/
theorem getView_boundInv {targets : List Target} (h : s.BoundInv targets) (position : Nat)
    {convertView : Option Nat} (produced : ∀ r, convertView = some r → r < s.rows.length)
    {ids : List Int} {setView : List BindStep}
    (registers : RegistersTargets targets (.getView position convertView ids setView : Event T)) :
    ∃ t, (getView position convertView ids setView).run s = .ok () t ∧ t.BoundInv targets ∧
      RowsBound targets ⟨s, .getView position convertView ids setView, t⟩ := by
  obtain ⟨same, fresh⟩ := registers
  have opened := h.holder.opened produced ids
  -- A new row has no listeners yet but registers them; a row taken back has them.
  have row : (∀ target ∈ targets,
        (target.place ((s.opened convertView ids).row (s.rowFor convertView))).isSome = true) ∧
      (convertView.isNone = true ∨
        RowBound targets ((s.opened convertView ids).row (s.rowFor convertView))) := by
    cases convertView with
    | none =>
      rw [World.rowFor, Option.getD_none, opened_row_new]
      exact ⟨fresh rfl, .inl rfl⟩
    | some r =>
      have old := h.rows r (produced r rfl)
      exact ⟨old.has, .inr old⟩
  obtain ⟨has, listening⟩ := row
  have bind : Registers (s.rowFor convertView) convertView.isNone position
      (setView.flatMap BindStep.targets)
      (forM setView (BindStep.run (s.rowFor convertView) convertView.isNone position) :
        Handler T PUnit) := registers_setView setView
  obtain ⟨t, run, done⟩ := bind _ opened rfl fun target mem => has target ((same target).mp mem)
  have inside : s.rowFor convertView < t.rows.length := by
    rw [done.length]
    exact (opened.binding _ rfl).2
  have crash : t.crash = none := done.crash.trans h.running
  have bound : (t.updateRow (s.rowFor convertView) (.bindTo position)).row (s.rowFor convertView) =
      (t.row (s.rowFor convertView)).bindTo position := row_updateRow inside _
  have other {r : Nat} (ne : s.rowFor convertView ≠ r) :
      (t.updateRow (s.rowFor convertView) (.bindTo position)).row r = s.row r := by
    rw [row_updateRow_of_ne ne, done.others r ne, opened_row_of_ne ne]
  have rowBound : RowBound targets
      ((t.updateRow (s.rowFor convertView) (.bindTo position)).row (s.rowFor convertView)) := by
    rw [bound]
    exact rowBound_of_registered same has listening done.views rfl
  refine ⟨t.updateRow (s.rowFor convertView) (.bindTo position), ?_, ⟨?_, crash, ?_⟩,
    ⟨crash, ?_, ?_, ?_, fun _ => done.itemClicks, ?_⟩⟩
  · rw [getView_run, bind_ok run]
    rfl
  · have kept := done.holder opened
    exact kept.updateRow (keepsIds_bindTo position) fun _ => kept.agrees _
  · intro r inside'
    rw [updateRow_length, done.length, opened_length] at inside'
    by_cases here : s.rowFor convertView = r
    · exact here ▸ rowBound
    · rw [other here]
      have old : r < s.rows.length := by
        cases convertView with
        | none =>
          simp only [Option.isNone_none, ↓reduceIte] at inside'
          simp only [World.rowFor, Option.getD_none] at here
          omega
        | some r' => exact inside'
      exact h.rows r old
  · rintro r position' asked
    obtain ⟨rfl, rfl⟩ : s.rowFor convertView = r ∧ position = position' := by
      simpa [World.binds] using asked
    refine ⟨by rwa [updateRow_length], ?_, rowBound.has⟩
    rw [bound]
    rfl
  · intro r not_asked
    rw [other fun here => not_asked position (by rw [World.binds, here])]
  · rw [updateRow_length, done.length, opened_length]
    cases convertView <;> rfl
  · show t.list = (none : Option (List T)).or s.list
    rw [done.adapter, Option.none_or]
    rfl

theorem clicked_boundInv {targets : List Target} (h : s.BoundInv targets) (view : ViewRef) :
    (s.clicked view).BoundInv targets where
  holder := ⟨h.holder.agrees, h.holder.binding, h.holder.lookups⟩
  running := h.running
  rows := h.rows

/-- A step that leaves the rows and the record alone binds none. -/
theorem rowsBound_of_same {targets : List Target} {e : Event T} (running : t.crash = none)
    (rows : t.rows = s.rows) (unbound : s.binds e = none) (inflates : e.inflates = false)
    (silent : (∀ view, e ≠ .click view) → t.itemClicks = s.itemClicks)
    (list : t.list = e.sets.or s.list) : RowsBound targets ⟨s, e, t⟩ where
  completed := running
  bound r position asked := by simp [unbound] at asked
  others r _ := by rw [World.row, World.row, rows]
  length := by simp [rows, inflates]
  silent := silent
  list := list

theorem step_boundInv {targets : List Target} {e : Event T} (h : s.BoundInv targets)
    (registers : RegistersTargets targets e) (stepped : step s e = some t) :
    t.BoundInv targets ∧ RowsBound targets ⟨s, e, t⟩ := by
  obtain ⟨-, enabled, rfl⟩ := step_eq stepped
  cases e with
  | setList list =>
    rw [handle, setList]
    cases list with
    | none => exact ⟨h, rowsBound_of_same h.running rfl rfl rfl (fun _ => rfl) rfl⟩
    | some list =>
      exact ⟨⟨⟨h.holder.agrees, h.holder.binding, h.holder.lookups⟩, h.running, h.rows⟩,
        rowsBound_of_same h.running rfl rfl rfl (fun _ => rfl) rfl⟩
  | changeList list =>
    exact ⟨⟨⟨h.holder.agrees, h.holder.binding, h.holder.lookups⟩, h.running, h.rows⟩,
      rowsBound_of_same h.running rfl rfl rfl (fun _ => rfl) rfl⟩
  | getView position convertView ids setView =>
    have produced : ∀ r, convertView = some r → r < s.rows.length := by
      rintro r rfl
      simpa [World.enabled] using enabled
    obtain ⟨t, run, bound⟩ := getView_boundInv h position produced registers
    rw [handle, run]
    exact bound
  | click view =>
    rw [handle, performClick_run]
    exact ⟨clicked_boundInv h view,
      rowsBound_of_same h.running rfl rfl rfl (fun other => absurd rfl (other view)) rfl⟩

/-- A click on a target calls the listener once, with the position its row was last bound to and
the item there, if there is a listener and the position is in the list. -/
theorem clicked_target {targets : List Target} (h : s.BoundInv targets) {view : ViewRef}
    (produced : view.row < s.rows.length)
    (isTarget : ∃ target ∈ targets, target.place (s.row view.row) = some view.place) :
    ∃ position, (s.row view.row).boundTo = some position ∧
      (s.listener = true ∧ position < s.getCount → ∃ item,
        s.list.bind (fun list => list[position]?) = some item ∧
          (s.clicked view).itemClicks = s.itemClicks ++ [⟨some item, view, position⟩]) ∧
      (¬(s.listener = true ∧ position < s.getCount) →
        (s.clicked view).itemClicks = s.itemClicks) := by
  obtain ⟨target, mem, at_p⟩ := isTarget
  obtain ⟨position, boundTo, carried⟩ := (h.rows view.row produced).bound
  obtain ⟨v, at_v, tag, listener⟩ := carried target mem view.place at_p
  have carries : ((s.row view.row).views[view.place]?.filter View.clickListener).bind
      View.tagPosition = some position := by
    rw [at_v, Option.filter_some, if_pos listener, Option.bind_some, tag]
  refine ⟨position, boundTo, ?_, ?_⟩
  · intro called
    obtain ⟨item, found, -⟩ := getItem_run called.2
    refine ⟨item, found, ?_⟩
    simp only [World.clicked, carries, if_pos called, found]
  · intro notCalled
    simp only [World.clicked, carries, if_neg notCalled, List.append_nil]

/-- A click throws nothing, and on a target of a row it calls the listener exactly if there is one
and the position the row was last bound to is in the list, and then once, with that position and the
item there. -/
def ClickDispatched (targets : List Target) (x : Machine.Step (World T) (Event T)) : Prop :=
  ∀ view, x.event = .click view →
    x.after.crash = none ∧
      (view.row < x.before.rows.length →
        (∃ target ∈ targets, target.place (x.before.row view.row) = some view.place) →
          ∃ position, (x.before.row view.row).boundTo = some position ∧
            (x.before.listener = true ∧ position < x.before.getCount → ∃ item,
              x.before.list.bind (fun list => list[position]?) = some item ∧
                x.after.itemClicks = x.before.itemClicks ++ [⟨some item, view, position⟩]) ∧
            (¬(x.before.listener = true ∧ position < x.before.getCount) →
              x.after.itemClicks = x.before.itemClicks))

/-- Where every bind registers the same targets and every new row has them, each bind of a run binds
its row to its position, and each click is dispatched to the item of the position its row was last
bound to. -/
theorem clicks_dispatched (targets : List Target) (listener : Bool) (run : List (Event T))
    (registers : ∀ e ∈ run, RegistersTargets targets e) :
    ∀ x ∈ Machine.steps step (create T listener) run,
      RowsBound targets x ∧ ClickDispatched targets x := by
  have start : (create T listener).BoundInv targets := by
    refine ⟨holderInv listener [], rfl, ?_⟩
    intro r inside
    simp [create] at inside
  apply Machine.steps_under (I := World.BoundInv targets)
    (C := fun x => RegistersTargets targets x.event)
    (P := fun x => RowsBound targets x ∧ ClickDispatched targets x)
    (fun _ _ _ h stepped registers => (step_boundInv h registers stepped).1) _ start run
    (fun x mem => registers x.event (Machine.event_mem mem))
  intro s e t h stepped registers
  refine ⟨(step_boundInv h registers stepped).2, ?_⟩
  rintro view rfl
  obtain ⟨-, -, rfl⟩ := step_eq stepped
  rw [handle, performClick_run]
  exact ⟨h.running, clicked_target h⟩

/-- A row bound to position 1 and taken back for position 0, with clicks before and after the list
shrinks. -/
def takenBack : List (Event String) :=
  [.setList (some ["a", "b"]), .getView 1 none [7, 8] [.setClickEventIds [8]],
    .getView 0 (some 0) [] [.getViewById 7, .setClickEventIds [8]], .click ⟨0, 1⟩,
    .changeList [], .click ⟨0, 1⟩]

/-- The first click is reported, for position 0, and the second is not. -/
theorem clicks_dispatched_takenBack :
    (∀ e ∈ takenBack, RegistersTargets [.viewId 8] e) ∧
      (Machine.final step (create String true) takenBack).itemClicks =
        [⟨some "a", ⟨0, 1⟩, 0⟩] ∧
      ∀ x ∈ Machine.steps step (create String true) takenBack,
        RowsBound [.viewId 8] x ∧ ClickDispatched [.viewId 8] x := by
  have registers : ∀ e ∈ takenBack, RegistersTargets [.viewId 8] e := by
    simp [takenBack, RegistersTargets, BindStep.targets, Target.place, Row.findViewById]
  exact ⟨registers, by decide, clicks_dispatched [.viewId 8] true takenBack registers⟩

end StudyProject.Base
