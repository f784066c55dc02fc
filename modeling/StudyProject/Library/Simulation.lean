import StudyProject.Library.Machine

/-! A machine that follows another one.  The follower takes a step on the label of each step of the
machine and may refuse it.  Where no step is refused, the labels of a run are a run of the follower,
so what the follower refuses to do the machine never does. -/

namespace StudyProject.Library.Machine

variable {σ ε α ι : Type*} {step : σ → ε → Option σ} {act : α → ι → Option α} {s : σ} {a b : α}
  {l : ι} {ls : List ι}

/-- The state in which the follower ends on the labels, unless it refuses one. -/
def follow (act : α → ι → Option α) (a : α) (ls : List ι) : Option α := ls.foldlM act a

theorem follow_cons : follow act a (l :: ls) = (act a l).bind fun b => follow act b ls := rfl

theorem follow_append (ls ls' : List ι) :
    follow act a (ls ++ ls') = (follow act a ls).bind fun b => follow act b ls' :=
  List.foldlM_append ..

/-- A property of the follower that each label of the list keeps, if the follower takes it. -/
theorem follow_invariant {I : α → Prop} {C : ι → Prop}
    (keeps : ∀ a l b, I a → C l → act a l = some b → I b) (start : I a) (cond : ∀ l ∈ ls, C l)
    (followed : follow act a ls = some b) : I b := by
  induction ls generalizing a with
  | nil =>
    obtain rfl : a = b := Option.some.inj followed
    exact start
  | cons l ls ih =>
    rw [follow_cons, Option.bind_eq_some_iff] at followed
    obtain ⟨c, first, rest⟩ := followed
    rw [List.forall_mem_cons] at cond
    exact ih (keeps a l c start cond.1 first) cond.2 rest

/-- Where the follower takes every step that meets `C` out of a state with the invariant, it
follows each run whose steps do. -/
theorem follow_run {I : σ → Prop} {C : Step σ ε → Prop} {view : σ → α} {label : σ → ε → ι}
    (keeps : ∀ s e t, I s → step s e = some t → C ⟨s, e, t⟩ → I t)
    (follows : ∀ s e t, I s → step s e = some t → C ⟨s, e, t⟩ →
      act (view s) (label s e) = some (view t))
    (start : I s) (es : List ε) (cond : ∀ x ∈ steps step s es, C x) :
    follow act (view s) ((steps step s es).map fun x => label x.before x.event) =
      some (view (final step s es)) := by
  induction es generalizing s with
  | nil => rfl
  | cons e es ih =>
    rw [final_cons]
    cases h : step s e with
    | none =>
      rw [steps_cons_none h] at cond ⊢
      rw [next_none h]
      exact ih start cond
    | some t =>
      rw [steps_cons_some h, List.forall_mem_cons] at cond
      rw [steps_cons_some h, List.map_cons, follow_cons, next_some h,
        follows s e t start h cond.1, Option.bind_some]
      exact ih (keeps s e t start h cond.1) cond.2

end StudyProject.Library.Machine
