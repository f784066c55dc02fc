import StudyProject.Library.Machine
import StudyProject.Library.Objects
import StudyProject.Library.Handler
import StudyProject.Library.Memo

/-! `BaseListAdapter`, which binds the items of a list to rows of views.  A row is inflated for a
position or taken back for another one, finds its views once and keeps them in its tag, and carries
the position on the views whose clicks it reports.  A subclass's `setView` is any list of lookups
and click registrations. -/

namespace StudyProject.Base

open StudyProject.Library StudyProject.Library.Objects

/-- The exceptions that the adapter's own statements can throw. -/
inductive Throwable where
  | nullPointerException
  | indexOutOfBoundsException
deriving DecidableEq, Repr

/-! ### Rows -/

/-- A view of a row: its id, its tag under `R.id.tag_position`, and whether the adapter is its click
listener. -/
structure View where
  id : Int
  tagPosition : Option Nat := none
  clickListener : Bool := false
deriving DecidableEq, Repr

/-- A reference to a view: its row, and its place in that row. -/
structure ViewRef where
  row : Nat
  place : Nat
deriving DecidableEq, Repr

/-- `android.util.SparseArray` of views. -/
abbrev SparseArray := Memo.Table Int ViewRef

/-- A row: its views in the order in which `findViewById` visits them, the row itself first, and its
own tag.  `boundTo` records the position it was last bound to. -/
structure Row where
  views : List View := []
  tag : Option SparseArray := none
  boundTo : Option Nat := none

/-- The place of the first view with this id.  No view has a negative id. -/
def Row.findViewById (row : Row) (id : Int) : Option Nat :=
  if id < 0 then none else row.views.findIdx? fun v => v.id = id

def View.setTagPosition (position : Nat) (v : View) : View :=
  { v with tagPosition := some position }

def View.setOnClickListener (v : View) : View := { v with clickListener := true }

def Row.updateView (f : View → View) (place : Nat) (row : Row) : Row :=
  { row with views := row.views.modify place f }

def Row.setTag (viewHolder : SparseArray) (row : Row) : Row := { row with tag := some viewHolder }

def Row.bindTo (position : Nat) (row : Row) : Row := { row with boundTo := some position }

/-! ### The adapter -/

/-- The fields of the adapter.  Rows are named by the order in which they were inflated. -/
structure BaseListAdapter (T : Type) where
  list : Option (List T) := none
  listener : Bool
  mConvertView : Option Nat := none

/-- A call `listener.onItemClick(item, view, position)`. -/
structure ItemClick (T : Type) where
  item : Option T
  view : ViewRef
  position : Nat
deriving DecidableEq, Repr

/-- A lookup `getViewById(id)` made while a row was bound, with what it returned. -/
structure Lookup where
  row : Option Nat
  id : Int
  found : Option ViewRef
deriving DecidableEq, Repr

/-- The adapter among the rows it produced, and the exception that ended the run, if one did.  The
other fields record the run: the row being bound, the lookups and the calls of the listener. -/
structure World (T : Type) extends BaseListAdapter T where
  rows : List Row := []
  crash : Option Throwable := none
  binding : Option Nat := none
  lookups : List Lookup := []
  itemClicks : List (ItemClick T) := []

variable {T : Type}

def World.row (s : World T) (r : Nat) : Row := s.rows[r]?.getD {}

def World.findViewById (s : World T) (r : Nat) (id : Int) : Option ViewRef :=
  ((s.row r).findViewById id).map fun place => ⟨r, place⟩

def World.updateRow (s : World T) (r : Nat) (f : Row → Row) : World T :=
  { s with rows := update (some r) f s.rows }

abbrev Handler (T : Type) := EStateM Throwable (World T)

def setList (list : Option (List T)) : Handler T Unit := do
  if list.isSome then
    modify fun s => { s with list }

def BaseListAdapter.getCount (s : BaseListAdapter T) : Nat :=
  match s.list with
  | none => 0
  | some list => list.length

def getItem (position : Nat) : Handler T (Option T) := do
  match (← get).list with
  | none => return none
  | some list =>
    match list[position]? with
    | none => throw .indexOutOfBoundsException
    | some item => return some item

/-- The view holder in the row's tag, which is put there if there is none. -/
def viewHolder (r : Nat) : Handler T SparseArray := do
  match ((← get).row r).tag with
  | some viewHolder => return viewHolder
  | none =>
    modify fun s => s.updateRow r (.setTag ∅)
    return ∅

/-- Finds a view of the row in `mConvertView`, in its view holder if it is there. -/
def getViewById (id : Int) : Handler T (Option ViewRef) := do
  match (← get).mConvertView with
  | none => throw .nullPointerException
  | some r =>
    let viewHolder ← viewHolder r
    match viewHolder.get id with
    | some childView => return some childView
    | none =>
      let childView := (← get).findViewById r id
      modify fun s => s.updateRow r (.setTag (viewHolder.put id childView))
      return childView

/-- The body of both `setClickEvent` loops.  A null view throws. -/
def setClickEvent (isNew : Bool) (position : Nat) (v : Option ViewRef) : Handler T Unit := do
  match v with
  | none => throw .nullPointerException
  | some v =>
    modify fun s => s.updateRow v.row (.updateView (View.setTagPosition position) v.place)
    if isNew then
      modify fun s => s.updateRow v.row (.updateView View.setOnClickListener v.place)

/-- A lookup of the subclass, with a record of the row being bound and the result. -/
def lookUp (id : Int) : Handler T (Option ViewRef) := do
  let found ← getViewById id
  modify fun s => { s with lookups := s.lookups ++ [⟨s.binding, id, found⟩] }
  return found

/-- `setClickEvent(isNew, position, View...)`. -/
def setClickEventViews (isNew : Bool) (position : Nat) (vs : List ViewRef) : Handler T Unit :=
  forM vs fun v => setClickEvent isNew position (some v)

/-- `setClickEvent(isNew, position, int...)`. -/
def setClickEventIds (isNew : Bool) (position : Nat) (vsId : List Int) : Handler T Unit :=
  forM vsId fun id => do
    let v ← lookUp id
    setClickEvent isNew position v

/-- What a subclass does in `setView`. -/
inductive BindStep where
  | getViewById (id : Int)
  | setClickEventViews (places : List Nat)
  | setClickEventIds (vsId : List Int)
deriving DecidableEq, Repr

def BindStep.run (r : Nat) (isNew : Bool) (position : Nat) : BindStep → Handler T Unit
  | .getViewById id => do
    let _ ← lookUp id
    return ()
  | .setClickEventViews places =>
    Base.setClickEventViews isNew position (places.map fun place => ⟨r, place⟩)
  | .setClickEventIds vsId => Base.setClickEventIds isNew position vsId

/-- `LayoutInflater.inflate`: a new row with views of these ids. -/
def inflate (ids : List Int) : Handler T Nat := do
  let r := (← get).rows.length
  modify fun s => { s with rows := s.rows ++ [{ views := ids.map fun id => { id } }] }
  return r

/-- `getView`, for a new row with views of these ids where `convertView` is null. -/
def getView (position : Nat) (convertView : Option Nat) (ids : List Int)
    (setView : List BindStep) : Handler T Unit := do
  let isNew := convertView.isNone
  let r ← match convertView with
    | none => inflate ids
    | some r => pure r
  modify fun s => { s with binding := some r }
  modify fun s => { s with mConvertView := some r }
  forM setView (BindStep.run r isNew position)
  modify fun s => s.updateRow r (.bindTo position)

def onClick (view : ViewRef) : Handler T Unit := do
  let object := ((← get).row view.row).views[view.place]?.bind View.tagPosition
  match object with
  | none => return ()
  | some position =>
    if position < (← get).getCount then
      if (← get).listener then
        let item ← getItem position
        modify fun s => { s with itemClicks := s.itemClicks ++ [⟨item, view, position⟩] }

/-! ### The machine -/

inductive Event (T : Type) where
  | setList (list : Option (List T))
  | changeList (list : List T)
  | getView (position : Nat) (convertView : Option Nat) (ids : List Int) (setView : List BindStep)
  | click (view : ViewRef)

/-- A click on a view is reported to its listener, if it has one. -/
def performClick (view : ViewRef) : Handler T Unit := do
  if ((← get).row view.row).views[view.place]?.any View.clickListener then
    onClick view

def handle : Event T → Handler T Unit
  | .setList list => setList list
  | .changeList list => modify fun s => { s with list := some list }
  | .getView position convertView ids setView => getView position convertView ids setView
  | .click view => performClick view

/-- Whether the event can happen: the list must be there to be changed, and a row must have been
produced to be taken back. -/
def World.enabled (s : World T) : Event T → Bool
  | .changeList _ => s.list.isSome
  | .getView _ (some r) _ _ => r < s.rows.length
  | _ => true

/-- The state in which a handler leaves the world. -/
def ended : EStateM.Result Throwable (World T) Unit → World T
  | .ok _ s => s
  | .error t s => { s with crash := some t }

def step (s : World T) (e : Event T) : Option (World T) :=
  if s.crash.isNone && s.enabled e then some (ended ((handle e).run s)) else none

/-- A new adapter. -/
def create (T : Type) (listener : Bool) : World T := { listener }

end StudyProject.Base
