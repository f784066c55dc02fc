import Mathlib.Tactic.Common

/-! Runs of a machine that takes steps on events.  `step s e` is `none` where `e` cannot happen in
`s`; a run leaves such an event out, so a list of events stands for each order in which they may
come.  `always_iff` turns a fact about one step into the exact condition under which a property
holds in every state of a run. -/

namespace StudyProject.Library.Machine

/-- A step that a run took. -/
structure Step (σ ε : Type*) where
  before : σ
  event : ε
  after : σ

section

variable {σ ε : Type*} (step : σ → ε → Option σ)

def next (s : σ) (e : ε) : σ := (step s e).getD s

/-- The state in which the events `es` end from `s`. -/
def final (s : σ) (es : List ε) : σ := es.foldl (next step) s

/-- The steps that the events `es` take from `s`. -/
def steps (s : σ) : List ε → List (Step σ ε)
  | [] => []
  | e :: es =>
    match step s e with
    | none => steps s es
    | some t => ⟨s, e, t⟩ :: steps t es

/-- The states of the run, `s` itself first. -/
def states (s : σ) (es : List ε) : List σ := s :: (steps step s es).map Step.after

end

variable {σ ε : Type*} {step : σ → ε → Option σ} {s t : σ} {e : ε} {es : List ε}

@[simp] theorem next_some (h : step s e = some t) : next step s e = t := by
  rw [next, h, Option.getD_some]

@[simp] theorem next_none (h : step s e = none) : next step s e = s := by
  rw [next, h, Option.getD_none]

@[simp] theorem final_nil (s : σ) : final step s [] = s := rfl

@[simp] theorem final_cons (s : σ) (e : ε) (es : List ε) :
    final step s (e :: es) = final step (next step s e) es := rfl

theorem final_append (s : σ) (es es' : List ε) :
    final step s (es ++ es') = final step (final step s es) es' :=
  List.foldl_append ..

@[simp] theorem steps_nil (s : σ) : steps step s [] = [] := rfl

theorem steps_cons_none (h : step s e = none) : steps step s (e :: es) = steps step s es := by
  simp only [steps, h]

theorem steps_cons_some (h : step s e = some t) :
    steps step s (e :: es) = ⟨s, e, t⟩ :: steps step t es := by
  simp only [steps, h]

theorem steps_append (s : σ) (es es' : List ε) :
    steps step s (es ++ es') = steps step s es ++ steps step (final step s es) es' := by
  induction es generalizing s with
  | nil => rfl
  | cons e es ih =>
    cases h : step s e with
    | none =>
      rw [List.cons_append, steps_cons_none h, steps_cons_none h, final_cons, next_none h]
      exact ih s
    | some t =>
      rw [List.cons_append, steps_cons_some h, steps_cons_some h, final_cons, next_some h,
        List.cons_append, ih t]

theorem states_cons_none (h : step s e = none) : states step s (e :: es) = states step s es := by
  rw [states, steps_cons_none h, states]

theorem states_cons_some (h : step s e = some t) :
    states step s (e :: es) = s :: states step t es := by
  rw [states, steps_cons_some h, List.map_cons, states]

theorem final_mem_states (s : σ) (es : List ε) : final step s es ∈ states step s es := by
  induction es generalizing s with
  | nil => exact List.mem_cons_self
  | cons e es ih =>
    cases h : step s e with
    | none =>
      rw [states_cons_none h, final_cons, next_none h]
      exact ih s
    | some t =>
      rw [states_cons_some h, final_cons, next_some h]
      exact List.mem_cons_of_mem s (ih t)

/-- A state of a run is where an earlier part of the run ends. -/
theorem states_prefix (mem : t ∈ states step s es) :
    ∃ es₁ es₂, es = es₁ ++ es₂ ∧ t = final step s es₁ := by
  induction es generalizing s with
  | nil =>
    obtain rfl : t = s := by simpa [states] using mem
    exact ⟨[], [], rfl, rfl⟩
  | cons e es ih =>
    have later {u : σ} (next_u : next step s e = u) (mem : t ∈ states step u es) :
        ∃ es₁ es₂, e :: es = es₁ ++ es₂ ∧ t = final step s es₁ := by
      obtain ⟨es₁, es₂, rfl, rfl⟩ := ih mem
      exact ⟨e :: es₁, es₂, rfl, by rw [final_cons, next_u]⟩
    cases h : step s e with
    | none =>
      rw [states_cons_none h] at mem
      exact later (next_none h) mem
    | some u =>
      rw [states_cons_some h, List.mem_cons] at mem
      rcases mem with rfl | mem
      · exact ⟨[], e :: es, rfl, rfl⟩
      · exact later (next_some h) mem

/-- A property of the first state that every step keeps holds at the end of every run. -/
theorem invariant {I : σ → Prop} (keeps : ∀ s e t, I s → step s e = some t → I t) (start : I s)
    (es : List ε) : I (final step s es) := by
  induction es generalizing s with
  | nil => exact start
  | cons e es ih =>
    rw [final_cons]
    cases h : step s e with
    | none => rw [next_none h]; exact ih start
    | some t => rw [next_some h]; exact ih (keeps s e t start h)

/-- A property that each step meeting `C` keeps holds at the end of a run whose steps all do. -/
theorem invariant_under {I : σ → Prop} {C : Step σ ε → Prop}
    (keeps : ∀ s e t, I s → step s e = some t → C ⟨s, e, t⟩ → I t) (start : I s) (es : List ε)
    (cond : ∀ x ∈ steps step s es, C x) : I (final step s es) := by
  induction es generalizing s with
  | nil => exact start
  | cons e es ih =>
    rw [final_cons]
    cases h : step s e with
    | none =>
      rw [steps_cons_none h] at cond
      rw [next_none h]
      exact ih start cond
    | some t =>
      rw [steps_cons_some h, List.forall_mem_cons] at cond
      rw [next_some h]
      exact ih (keeps s e t start h cond.1) cond.2

/-- In a run whose steps all meet `C`, what holds of each such step out of a state with the
invariant holds of every step. -/
theorem steps_under {I : σ → Prop} {C P : Step σ ε → Prop}
    (keeps : ∀ s e t, I s → step s e = some t → C ⟨s, e, t⟩ → I t)
    (each : ∀ s e t, I s → step s e = some t → C ⟨s, e, t⟩ → P ⟨s, e, t⟩) (start : I s)
    (es : List ε) (cond : ∀ x ∈ steps step s es, C x) : ∀ x ∈ steps step s es, P x := by
  induction es generalizing s with
  | nil => simp
  | cons e es ih =>
    cases h : step s e with
    | none =>
      rw [steps_cons_none h] at cond ⊢
      exact ih start cond
    | some t =>
      rw [steps_cons_some h, List.forall_mem_cons] at cond ⊢
      exact ⟨each s e t start h cond.1, ih (keeps s e t start h cond.1) cond.2⟩

/-- An invariant that goes with a number, where the steps that `p` picks out raise the number by
one. -/
theorem counted {I : Nat → σ → Prop} {C : Step σ ε → Prop} {p : Step σ ε → Bool}
    (keeps : ∀ n s e t, I n s → step s e = some t → C ⟨s, e, t⟩ →
      I (n + if p ⟨s, e, t⟩ then 1 else 0) t) {n : Nat} (start : I n s) (es : List ε)
    (cond : ∀ x ∈ steps step s es, C x) :
    I (n + (steps step s es).countP p) (final step s es) := by
  induction es generalizing s n with
  | nil => exact start
  | cons e es ih =>
    rw [final_cons]
    cases h : step s e with
    | none =>
      rw [steps_cons_none h] at cond ⊢
      rw [next_none h]
      exact ih start cond
    | some t =>
      rw [steps_cons_some h, List.forall_mem_cons] at cond
      rw [steps_cons_some h, next_some h, List.countP_cons]
      have later := ih (keeps n s e t start h cond.1) cond.2
      rwa [Nat.add_assoc, Nat.add_comm (ite _ _ _)] at later

/-- What holds of each step out of a state with the invariant holds of every step of a run. -/
theorem invariant_steps {I : σ → Prop} {P : Step σ ε → Prop}
    (keeps : ∀ s e t, I s → step s e = some t → I t)
    (each : ∀ s e t, I s → step s e = some t → P ⟨s, e, t⟩) (start : I s) (es : List ε) :
    ∀ x ∈ steps step s es, P x :=
  steps_under (C := fun _ => True) (fun s e t h stepped _ => keeps s e t h stepped)
    (fun s e t h stepped _ => each s e t h stepped) start es fun _ _ => trivial

/-- The steps of a run are taken on its events. -/
theorem event_mem {x : Step σ ε} (mem : x ∈ steps step s es) : x.event ∈ es := by
  induction es generalizing s with
  | nil => simp at mem
  | cons e es ih =>
    cases h : step s e with
    | none =>
      rw [steps_cons_none h] at mem
      exact List.mem_cons_of_mem e (ih mem)
    | some t =>
      rw [steps_cons_some h, List.mem_cons] at mem
      rcases mem with rfl | mem
      · exact List.mem_cons_self
      · exact List.mem_cons_of_mem e (ih mem)

/-- Where a step out of a state with the invariant `J` and the property `I` keeps `I` exactly if
it meets `C`, the property holds in every state of a run exactly if all its steps meet `C`. -/
theorem always_iff {I J : σ → Prop} {C : Step σ ε → Prop}
    (keeps : ∀ s e t, J s → step s e = some t → J t)
    (exact_step : ∀ s e t, J s → I s → step s e = some t → (I t ↔ C ⟨s, e, t⟩))
    (startJ : J s) (startI : I s) (es : List ε) :
    (∀ x ∈ states step s es, I x) ↔ ∀ x ∈ steps step s es, C x := by
  induction es generalizing s with
  | nil => simpa [states] using startI
  | cons e es ih =>
    cases h : step s e with
    | none => rw [states_cons_none h, steps_cons_none h]; exact ih startJ startI
    | some t =>
      have stepJ := keeps s e t startJ h
      have step_iff := exact_step s e t startJ startI h
      rw [states_cons_some h, steps_cons_some h, List.forall_mem_cons, List.forall_mem_cons]
      constructor
      · rintro ⟨-, all⟩
        have stepI : I t := all t List.mem_cons_self
        exact ⟨step_iff.mp stepI, (ih stepJ stepI).mp all⟩
      · rintro ⟨cond, all⟩
        exact ⟨startI, (ih stepJ (step_iff.mpr cond)).mpr all⟩

end StudyProject.Library.Machine
