import Mathlib.Order.Defs.Unbundled
import Mathlib.Tactic.Common

/-! Handlers: code that changes a state and may end in an exception, in which case the changes it
made so far stay.  `Within` bounds what a handler can do to the state, however it ends, and composes
along its statements. -/

namespace StudyProject.Library.Handler

section

variable {ε σ α β : Type} {x : EStateM ε σ α} {k : α → EStateM ε σ β} {s t : σ} {a : α} {e : ε}

theorem bind_ok (h : x.run s = .ok a t) : (x >>= k).run s = (k a).run t := by
  rw [EStateM.run_bind, h]

theorem bind_error (h : x.run s = .error e t) : (x >>= k).run s = .error e t := by
  rw [EStateM.run_bind, h]

@[simp] theorem get_bind (k : σ → EStateM ε σ β) (s : σ) : (get >>= k).run s = (k s).run s := rfl

@[simp] theorem modify_bind (f : σ → σ) (k : PUnit → EStateM ε σ β) (s : σ) :
    (modify f >>= k).run s = (k ⟨⟩).run (f s) := rfl

@[simp] theorem throw_run (e : ε) (s : σ) : (throw e : EStateM ε σ α).run s = .error e s := rfl

@[simp] theorem throw_bind (e : ε) (k : α → EStateM ε σ β) (s : σ) :
    ((throw e : EStateM ε σ α) >>= k).run s = .error e s := rfl

theorem tryCatch_ok {handle : ε → EStateM ε σ α} (h : x.run s = .ok a t) :
    (tryCatch x handle).run s = .ok a t := by
  show EStateM.tryCatch x handle s = _
  change x s = _ at h
  simp only [EStateM.tryCatch, h]

theorem tryCatch_error {handle : ε → EStateM ε σ α} (h : x.run s = .error e t) :
    (tryCatch x handle).run s = (handle e).run t := by
  show EStateM.tryCatch x handle s = _
  change x s = _ at h
  simp only [EStateM.tryCatch, h]
  rfl

end

/-- The state in which a handler ends. -/
def state {ε σ α : Type} : EStateM.Result ε σ α → σ
  | .ok _ s => s
  | .error _ s => s

@[simp] theorem state_ok {ε σ α : Type} (a : α) (s : σ) :
    state (.ok a s : EStateM.Result ε σ α) = s := rfl

@[simp] theorem state_error {ε σ α : Type} (e : ε) (s : σ) :
    state (.error e s : EStateM.Result ε σ α) = s := rfl

/-- A `try` block whose exceptions are dropped ends where the block did. -/
theorem tryCatch_ignore {ε σ : Type} (x : EStateM ε σ Unit) (s : σ) :
    (tryCatch x fun _ => pure ()).run s = .ok () (state (x.run s)) := by
  cases h : x.run s with
  | ok a t => exact tryCatch_ok h
  | error e t => exact tryCatch_error h

/-- The handler takes each state to one that `R` relates to it. -/
def Within {ε σ α : Type} (R : σ → σ → Prop) (x : EStateM ε σ α) : Prop :=
  ∀ s, R s (state (x.run s))

namespace Within

variable {ε σ α β : Type} {R : σ → σ → Prop} {x : EStateM ε σ α} {k : α → EStateM ε σ β}

protected theorem modify {f : σ → σ} (h : ∀ s, R s (f s)) :
    Within R (modify f : EStateM ε σ PUnit) := fun s => h s

protected theorem pure [Std.Refl R] (a : α) : Within R (pure a : EStateM ε σ α) :=
  fun s => refl_of R s

protected theorem throw [Std.Refl R] (e : ε) : Within R (throw e : EStateM ε σ α) :=
  fun s => refl_of R s

protected theorem bind [IsTrans σ R] (hx : Within R x) (hk : ∀ a, Within R (k a)) :
    Within R (x >>= k) := by
  intro s
  have first := hx s
  cases h : x.run s with
  | ok a t =>
    rw [h] at first
    rw [bind_ok h]
    exact trans_of R first (hk a t)
  | error e t =>
    rw [h] at first
    rw [bind_error h]
    exact first

protected theorem forM [Std.Refl R] [IsTrans σ R] {f : α → EStateM ε σ PUnit}
    (h : ∀ a, Within R (f a)) (xs : List α) : Within R (forM xs f) := by
  induction xs with
  | nil =>
    rw [List.forM_nil]
    exact .pure _
  | cons x xs ih =>
    rw [List.forM_cons]
    exact .bind (h x) fun _ => ih

theorem get_bind {k : σ → EStateM ε σ β} (hk : ∀ t, Within R (k t)) : Within R (get >>= k) :=
  fun s => hk s s

theorem modify_bind [IsTrans σ R] {f : σ → σ} {k : PUnit → EStateM ε σ β} (h : ∀ s, R s (f s))
    (hk : Within R (k ⟨⟩)) : Within R (modify f >>= k) := .bind (.modify h) fun _ => hk

theorem ite {c : Prop} [Decidable c] {y : EStateM ε σ α} (hx : Within R x) (hy : Within R y) :
    Within R (if c then x else y) := by
  split
  · exact hx
  · exact hy

end Within

/-- The part `f` of the state is the same in `t` as in `s`. -/
def Same {σ β : Type} (f : σ → β) (s t : σ) : Prop := f t = f s

instance {σ β : Type} (f : σ → β) : Std.Refl (Same f) := ⟨fun _ => rfl⟩

instance {σ β : Type} (f : σ → β) : IsTrans σ (Same f) := ⟨fun _ _ _ h h' => h'.trans h⟩

/-- The property `I` holds of `t` if it holds of `s`. -/
def Keeps {σ : Type} (I : σ → Prop) (s t : σ) : Prop := I s → I t

instance {σ : Type} (I : σ → Prop) : Std.Refl (Keeps I) := ⟨fun _ h => h⟩

instance {σ : Type} (I : σ → Prop) : IsTrans σ (Keeps I) := ⟨fun _ _ _ h h' => h' ∘ h⟩

/-- A result whose state is changed by `f`. -/
def mapState {ε σ α : Type} (f : σ → σ) : EStateM.Result ε σ α → EStateM.Result ε σ α
  | .ok a s => .ok a (f s)
  | .error e s => .error e (f s)

/-- The handler neither reads nor writes what `f` changes: it does the same before as after. -/
def Commutes {ε σ α : Type} (f : σ → σ) (x : EStateM ε σ α) : Prop :=
  ∀ s, x.run (f s) = mapState f (x.run s)

namespace Commutes

variable {ε σ α β : Type} {f : σ → σ} {x : EStateM ε σ α} {k : α → EStateM ε σ β}

protected theorem modify {g : σ → σ} (h : ∀ s, g (f s) = f (g s)) :
    Commutes f (modify g : EStateM ε σ PUnit) :=
  fun s => congrArg (EStateM.Result.ok PUnit.unit) (h s)

protected theorem pure (a : α) : Commutes f (pure a : EStateM ε σ α) := fun _ => rfl

protected theorem throw (e : ε) : Commutes f (throw e : EStateM ε σ α) := fun _ => rfl

protected theorem bind (hx : Commutes f x) (hk : ∀ a, Commutes f (k a)) :
    Commutes f (x >>= k) := by
  intro s
  have first := hx s
  cases h : x.run s with
  | ok a t =>
    rw [h] at first
    rw [bind_ok h, bind_ok first]
    exact hk a t
  | error e t =>
    rw [h] at first
    rw [bind_error h, bind_error first]
    rfl

theorem get_bind {k : σ → EStateM ε σ β} (same : ∀ s, k (f s) = k s)
    (hk : ∀ s, Commutes f (k s)) : Commutes f (get >>= k) := by
  intro s
  rw [Handler.get_bind, Handler.get_bind, same]
  exact hk s s

theorem modify_bind {g : σ → σ} {k : PUnit → EStateM ε σ β} (h : ∀ s, g (f s) = f (g s))
    (hk : Commutes f (k ⟨⟩)) : Commutes f (modify g >>= k) := .bind (.modify h) fun _ => hk

theorem ite {c : Prop} [Decidable c] {y : EStateM ε σ α} (hx : Commutes f x)
    (hy : Commutes f y) : Commutes f (if c then x else y) := by
  split
  · exact hx
  · exact hy

end Commutes

end StudyProject.Library.Handler
