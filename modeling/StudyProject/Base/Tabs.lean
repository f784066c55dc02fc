import StudyProject.Base.BaseTabActivity

/-! The tabs of `BaseTabActivity` whatever intents it is started with, where the first one has a
tab.  The tabs are those of the first intent, and the one that is shown is always one of them: the
one that the last later intent with an index of a tab asked for, or else the first.  The host is
the library's, assumed to show tab 0 until `setCurrentTab` is called with the index of a tab. -/

namespace StudyProject.Base

variable {TabState : Type}

/-- The activity created with one intent and given others while it ran. -/
def intentsDelivered (first : Intent TabState) (later : List (Intent TabState)) :
    BaseTabActivity TabState :=
  later.foldl BaseTabActivity.onNewIntent (BaseTabActivity.onCreate { intent := first })

/-- The index is one of a tab. -/
def Intent.namesTab (tabs : List TabState) (i : Int) : Bool := 0 ≤ i && i < tabs.length

theorem namesTab_iff {tabs : List TabState} {i : Int} :
    Intent.namesTab tabs i = true ↔ 0 ≤ i ∧ i < tabs.length := by
  simp [Intent.namesTab]

theorem filter_getD (p : Int → Bool) (i j : Int) :
    ((some i).filter p).getD j = if p i then i else j := by
  rw [Option.filter_some]
  split <;> rfl

/-- The tab that the last of the intents with an index of a tab asked for, 0 if there is none. -/
def lastNamed (tabs : List TabState) (intents : List (Intent TabState)) : Int :=
  ((intents.filterMap Intent.index).filter (Intent.namesTab tabs)).getLast?.getD 0

theorem lastNamed_concat (tabs : List TabState) (intents : List (Intent TabState))
    (intent : Intent TabState) :
    lastNamed tabs (intents ++ [intent]) =
      (intent.index.filter (Intent.namesTab tabs)).getD (lastNamed tabs intents) := by
  unfold lastNamed
  cases index : intent.index with
  | none => simp [index]
  | some i =>
    rw [filter_getD]
    split
    · rename_i names
      simp [index, names]
    · rename_i names
      simp [index, names]

/-- The tab asked for is one of the tabs. -/
theorem lastNamed_namesTab {tabs : List TabState} (some_ : tabs ≠ [])
    (intents : List (Intent TabState)) : Intent.namesTab tabs (lastNamed tabs intents) = true := by
  unfold lastNamed
  cases last : ((intents.filterMap Intent.index).filter (Intent.namesTab tabs)).getLast? with
  | none =>
    rw [Option.getD_none, namesTab_iff]
    exact ⟨Int.le_refl 0, Int.natCast_pos.mpr (List.length_pos_iff.mpr some_)⟩
  | some i =>
    rw [Option.getD_some]
    exact (List.mem_filter.mp (List.mem_of_getLast? last)).2

/-- The tag and the content of each tab. -/
def specs (tabs : List TabState) : List (TabSpec TabState) :=
  tabs.zipIdx.map fun (ts, i) => ⟨toString i, ts⟩

theorem foldl_addTab_specs (tabs : List (TabState × Nat)) (host : FragmentTabHost TabState) :
    (tabs.foldl (fun host (ts, i) => host.addTab ⟨toString i, ts⟩) host).mTabSpecs =
      host.mTabSpecs ++ tabs.map fun (ts, i) => ⟨toString i, ts⟩ := by
  induction tabs generalizing host with
  | nil => simp
  | cons tab tabs ih =>
    rw [List.foldl_cons, ih]
    simp [FragmentTabHost.addTab]

/-- The host has the given tabs and shows tab `i`. -/
def BaseTabActivity.HasTabs (a : BaseTabActivity TabState) (tabs : List TabState) (i : Int) :
    Prop :=
  a.tabhost = some { mTabSpecs := specs tabs, mCurrentTab := i }

theorem onCreate_hasTabs (first : Intent TabState) :
    (BaseTabActivity.onCreate { intent := first }).HasTabs (first.tabs.getD []) 0 := by
  have added := foldl_addTab_specs (first.tabs.getD []).zipIdx {}
  have current := (foldl_addTab (first.tabs.getD []).zipIdx {}).2
  unfold BaseTabActivity.HasTabs BaseTabActivity.onCreate BaseTabActivity.initView
  simp only [BaseTabActivity.onBeforeSetContentLayout, Option.map_some, Option.some.injEq]
  generalize (first.tabs.getD []).zipIdx.foldl _ _ = host at added current ⊢
  rcases host with ⟨mTabSpecs, mCurrentTab⟩
  simp only at added current
  rw [added, current]
  rfl

theorem onNewIntent_hasTabs {a : BaseTabActivity TabState} {tabs : List TabState} {i : Int}
    (h : a.HasTabs tabs i) (intent : Intent TabState) :
    (a.onNewIntent intent).HasTabs tabs
      ((intent.index.filter (Intent.namesTab tabs)).getD i) := by
  unfold BaseTabActivity.HasTabs at h ⊢
  have length : (specs tabs).length = tabs.length := by simp [specs]
  cases index : intent.index with
  | none => simp [BaseTabActivity.onNewIntent, Intent.getIntExtra, index, h]
  | some j =>
    rw [filter_getD]
    simp only [BaseTabActivity.onNewIntent, Intent.getIntExtra, index, h, Option.getD_some]
    by_cases nonneg : 0 ≤ j
    · rw [if_pos nonneg]
      by_cases inside : j < tabs.length
      · rw [if_pos (namesTab_iff.mpr ⟨nonneg, inside⟩)]
        simp [FragmentTabHost.setCurrentTab, nonneg, inside, length]
      · rw [if_neg fun names => inside (namesTab_iff.mp names).2]
        simp [FragmentTabHost.setCurrentTab, inside, length]
    · rw [if_neg nonneg, if_neg fun names => nonneg (namesTab_iff.mp names).1]

theorem intentsDelivered_hasTabs (first : Intent TabState) (later : List (Intent TabState)) :
    (intentsDelivered first later).HasTabs (first.tabs.getD [])
      (lastNamed (first.tabs.getD []) later) := by
  induction later using List.reverseRecOn with
  | nil => exact onCreate_hasTabs first
  | append_singleton later intent ih =>
    rw [intentsDelivered, List.foldl_append, lastNamed_concat]
    exact onNewIntent_hasTabs ih intent

/-- Whatever intents come after a first one with a tab, with or without tabs and with any index, the
activity has the tabs of the first one, and shows the tab that the last of the later intents with an
index of a tab asked for, or the first tab. -/
theorem tabs_of_intents (first : Intent TabState) (some_ : first.tabs.getD [] ≠ [])
    (later : List (Intent TabState)) :
    (intentsDelivered first later).HasTabs (first.tabs.getD [])
        (lastNamed (first.tabs.getD []) later) ∧
      0 ≤ lastNamed (first.tabs.getD []) later ∧
      lastNamed (first.tabs.getD []) later < (first.tabs.getD []).length :=
  ⟨intentsDelivered_hasTabs first later, namesTab_iff.mp (lastNamed_namesTab some_ later)⟩

/-- Two tabs.  The last intent asks for a third one, and the one before it for the second. -/
theorem tabs_of_intents_second :
    (intentsDelivered (actionStart ["a", "b"]) [{ index := some 1 }, { index := some 2 }]).HasTabs
        ["a", "b"] 1 ∧ (0 : Int) ≤ 1 ∧ (1 : Int) < 2 :=
  tabs_of_intents (actionStart ["a", "b"]) (by decide) [{ index := some 1 }, { index := some 2 }]

end StudyProject.Base
