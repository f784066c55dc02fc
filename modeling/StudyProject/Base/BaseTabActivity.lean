import Mathlib.Data.List.Induction
import Mathlib.Tactic.Common

/-! `BaseTabActivity`, which shows a list of tabs and opens the one that an intent asks for.  A new
activity gets its first intent in `onCreate`, a running one each later intent in `onNewIntent`, and
only `onNewIntent` reads the index.  A `TabState` is whatever a tab is made from. -/

namespace StudyProject.Base

variable {TabState : Type}

/-! ### The activity -/

/-- The extras of an intent: the tabs, and the index of the tab to show. -/
structure Intent (TabState : Type) where
  tabs : Option (List TabState) := none
  index : Option Int := none

def Intent.getIntExtra (intent : Intent TabState) (default : Int) : Int :=
  intent.index.getD default

/-- The intent of `actionStart` without an index. -/
def actionStart (tabs : List TabState) : Intent TabState := { tabs := some tabs }

/-- The intent of `actionStart` with an index. -/
def actionStartAt (tabs : List TabState) (index : Int) : Intent TabState :=
  { tabs := some tabs, index := some index }

/-- A tab of the host: its tag, and what it shows. -/
structure TabSpec (TabState : Type) where
  tag : String
  state : TabState

/-- The host, which is assumed to show tab 0 until it is told otherwise. -/
structure FragmentTabHost (TabState : Type) where
  mTabSpecs : List (TabSpec TabState) := []
  mCurrentTab : Int := 0

def FragmentTabHost.addTab (host : FragmentTabHost TabState) (tabSpec : TabSpec TabState) :
    FragmentTabHost TabState :=
  { host with mTabSpecs := host.mTabSpecs ++ [tabSpec] }

/-- An index that names no tab is ignored. -/
def FragmentTabHost.setCurrentTab (host : FragmentTabHost TabState) (index : Int) :
    FragmentTabHost TabState :=
  if 0 ≤ index ∧ index < host.mTabSpecs.length then { host with mCurrentTab := index } else host

/-- The activity: the intent it was created with and its fields. -/
structure BaseTabActivity (TabState : Type) where
  intent : Intent TabState
  tabs : List TabState := []
  index : Int := 0
  tabhost : Option (FragmentTabHost TabState) := none

namespace BaseTabActivity

def onBeforeSetContentLayout (a : BaseTabActivity TabState) : BaseTabActivity TabState :=
  { a with tabs := a.intent.tabs.getD [] }

def initView (a : BaseTabActivity TabState) : BaseTabActivity TabState :=
  { a with
    tabhost := a.tabhost.map fun host =>
      a.tabs.zipIdx.foldl (fun host (ts, i) => host.addTab ⟨toString i, ts⟩) host }

/-- `onCreate` of the superclass.  Between its two calls the views are bound. -/
def onCreate (a : BaseTabActivity TabState) : BaseTabActivity TabState :=
  let a := a.onBeforeSetContentLayout
  let a := { a with tabhost := some {} }
  a.initView

def onNewIntent (a : BaseTabActivity TabState) (intent : Intent TabState) :
    BaseTabActivity TabState :=
  let a := { a with index := intent.getIntExtra (-1) }
  match a.tabhost with
  | none => a
  | some host =>
    if 0 ≤ a.index then { a with tabhost := some (host.setCurrentTab a.index) } else a

def getCurrentTab (a : BaseTabActivity TabState) : Option Int :=
  a.tabhost.map FragmentTabHost.mCurrentTab

end BaseTabActivity

/-! ### Starting it -/

/-- The intent of a start that asks for a tab or for none. -/
def startIntent (tabs : List TabState) : Option Int → Intent TabState
  | none => actionStart tabs
  | some index => actionStartAt tabs index

/-- The activity after a first start and some later ones. -/
def delivered (tabs : List TabState) (first : Option Int) (later : List (Option Int)) :
    BaseTabActivity TabState :=
  later.foldl (fun a index => a.onNewIntent (startIntent tabs index))
    (BaseTabActivity.onCreate { intent := startIntent tabs first })

/-- The index carried by the most recent start that carried one, 0 if none did. -/
def requestedTab (starts : List (Option Int)) : Int :=
  (starts.filterMap id).getLast?.getD 0

theorem requestedTab_concat (starts : List (Option Int)) (index : Option Int) :
    requestedTab (starts ++ [index]) = index.getD (requestedTab starts) := by
  cases index with
  | none => simp [requestedTab]
  | some i => simp [requestedTab]

/-- The host has all the tabs, and shows tab `i`. -/
def BaseTabActivity.Shows (a : BaseTabActivity TabState) (tabs : List TabState) (i : Int) : Prop :=
  ∃ host, a.tabhost = some host ∧ host.mTabSpecs.length = tabs.length ∧ host.mCurrentTab = i

theorem BaseTabActivity.Shows.getCurrentTab {a : BaseTabActivity TabState} {tabs : List TabState}
    {i : Int} (h : a.Shows tabs i) : a.getCurrentTab = some i := by
  obtain ⟨host, bound, -, rfl⟩ := h
  rw [BaseTabActivity.getCurrentTab, bound, Option.map_some]

theorem foldl_addTab (tabs : List (TabState × Nat)) (host : FragmentTabHost TabState) :
    (tabs.foldl (fun host (ts, i) => host.addTab ⟨toString i, ts⟩) host).mTabSpecs.length =
        host.mTabSpecs.length + tabs.length ∧
      (tabs.foldl (fun host (ts, i) => host.addTab ⟨toString i, ts⟩) host).mCurrentTab =
        host.mCurrentTab := by
  induction tabs generalizing host with
  | nil => simp
  | cons tab tabs ih =>
    obtain ⟨length, current⟩ := ih (host.addTab ⟨toString tab.2, tab.1⟩)
    rw [List.foldl_cons]
    refine ⟨?_, current⟩
    rw [length]
    simp only [FragmentTabHost.addTab, List.length_append, List.length_cons, List.length_nil]
    omega

/-- A new activity shows its first tab, whatever its intent asks for. -/
theorem onCreate_shows (tabs : List TabState) (first : Option Int) :
    (BaseTabActivity.onCreate { intent := startIntent tabs first }).Shows tabs 0 := by
  have given : (startIntent tabs first).tabs.getD [] = tabs := by
    cases first <;> rfl
  obtain ⟨length, current⟩ := foldl_addTab tabs.zipIdx {}
  refine ⟨_, rfl, ?_, ?_⟩
  · simpa [BaseTabActivity.onBeforeSetContentLayout, given] using length
  · simpa [BaseTabActivity.onBeforeSetContentLayout, given] using current

theorem onNewIntent_shows {a : BaseTabActivity TabState} {tabs : List TabState} {i : Int}
    (h : a.Shows tabs i) {index : Option Int}
    (valid : ∀ j, index = some j → 0 ≤ j ∧ j < tabs.length) :
    (a.onNewIntent (startIntent tabs index)).Shows tabs (index.getD i) := by
  obtain ⟨host, bound, length, current⟩ := h
  cases index with
  | none => exact ⟨host, by simp [BaseTabActivity.onNewIntent, startIntent, actionStart,
      Intent.getIntExtra, bound], length, current⟩
  | some j =>
    obtain ⟨nonneg, inside⟩ := valid j rfl
    refine ⟨{ host with mCurrentTab := j }, ?_, length, rfl⟩
    simp [BaseTabActivity.onNewIntent, startIntent, actionStartAt, Intent.getIntExtra, bound,
      FragmentTabHost.setCurrentTab, nonneg, inside, length]

/-- A running activity shows the tab that the later starts ask for. -/
theorem delivered_shows (tabs : List TabState) (first : Option Int) (later : List (Option Int))
    (valid : ∀ index ∈ later, ∀ j, index = some j → 0 ≤ j ∧ j < tabs.length) :
    (delivered tabs first later).Shows tabs (requestedTab later) := by
  induction later using List.reverseRecOn with
  | nil => exact onCreate_shows tabs first
  | append_singleton later index ih =>
    rw [delivered, List.foldl_append, requestedTab_concat]
    apply onNewIntent_shows
    · exact ih fun index mem => valid index (by simp [mem])
    · exact valid index (by simp)

theorem requestedTab_cons {first : Option Int} (home : first.getD 0 = 0)
    (later : List (Option Int)) : requestedTab (first :: later) = requestedTab later := by
  induction later using List.reverseRecOn with
  | nil =>
    cases first with
    | none => rfl
    | some i => exact home
  | append_singleton later index ih =>
    rw [← List.cons_append, requestedTab_concat, requestedTab_concat, ih]

/-- After each start the activity shows the tab that the most recent start with an index asked for,
exactly if the first start asked for none or for tab 0. -/
theorem tab_requested_iff (tabs : List TabState) (first : Option Int) (later : List (Option Int))
    (valid : ∀ index ∈ first :: later, ∀ j, index = some j → 0 ≤ j ∧ j < tabs.length) :
    (∀ starts, starts <+: later →
      (delivered tabs first starts).getCurrentTab = some (requestedTab (first :: starts))) ↔
    first.getD 0 = 0 := by
  have shows_ : ∀ starts, starts <+: later →
      (delivered tabs first starts).getCurrentTab = some (requestedTab starts) := by
    intro starts isPrefix
    apply (delivered_shows tabs first starts ?_).getCurrentTab
    intro index mem
    exact valid index (List.mem_cons_of_mem first (isPrefix.subset mem))
  constructor
  · intro requested
    have now := requested [] (List.nil_prefix)
    rw [shows_ [] List.nil_prefix] at now
    cases first with
    | none => rfl
    | some i => simpa [requestedTab, eq_comm] using now
  · intro home starts isPrefix
    rw [shows_ starts isPrefix, requestedTab_cons home]

/-- Three tabs, a start without an index and then one for tab 2. -/
theorem tab_requested_later :
    (none : Option Int).getD 0 = 0 ∧
      ∀ starts, starts <+: [some 2] →
        (delivered ["a", "b", "c"] none starts).getCurrentTab =
          some (requestedTab (none :: starts)) :=
  ⟨rfl, (tab_requested_iff ["a", "b", "c"] none [some 2] (by simp)).mpr rfl⟩

/-- A first start for tab 2 of three shows tab 0. -/
theorem tab_requested_first :
    ¬∀ starts, starts <+: [] →
      (delivered ["a", "b", "c"] (some 2) starts).getCurrentTab =
        some (requestedTab (some 2 :: starts)) := by
  intro requested
  exact absurd (requested [] List.nil_prefix) (by decide)

end StudyProject.Base
