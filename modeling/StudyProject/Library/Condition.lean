import Mathlib.Tactic.Common

/-! Condition variables.  Threads sleep at a condition until there is something for them to take,
and whoever brings it signals one of them.  No wake-up is lost as long as those that were woken are
at least as many as the things that are there: `Served` says so, and `Serves` what a step may do to
it. -/

namespace StudyProject.Library.Condition

/-- How many threads sleep at a condition, how many have been woken and have not looked yet, and how
much there is to take. -/
structure Waits where
  asleep : Nat
  woken : Nat
  supply : Nat

namespace Waits

variable {w w' w'' : Waits}

def Served (w : Waits) : Prop := w.asleep ≠ 0 → w.supply ≤ w.woken

/-- Whoever still sleeps has slept before, and what has come since is matched by those woken. -/
def Serves (w w' : Waits) : Prop :=
  w'.asleep ≠ 0 →
    w'.supply ≤ w'.woken ∨ w.asleep ≠ 0 ∧ w'.supply + w.woken ≤ w.supply + w'.woken

theorem Serves.keeps (h : w.Serves w') (served : w.Served) : w'.Served := by
  intro asleep
  rcases h asleep with enough | ⟨before, match_⟩
  · exact enough
  · have := served before
    omega

theorem Serves.trans (h : w.Serves w') (h' : w'.Serves w'') : w.Serves w'' := by
  intro asleep
  rcases h' asleep with enough | ⟨between, match_⟩
  · exact .inl enough
  · rcases h between with enough | ⟨before, match_'⟩
    · exact .inl (by omega)
    · exact .inr ⟨before, by omega⟩

/-- Nobody goes to sleep, nobody that was woken looks, and nothing comes. -/
theorem Serves.of_le (asleep : w'.asleep ≤ w.asleep) (woken : w.woken ≤ w'.woken)
    (supply : w'.supply ≤ w.supply) : w.Serves w' :=
  fun some => .inr ⟨by omega, by omega⟩

/-- A thread goes to sleep where there is nothing, or goes away. -/
theorem Serves.empty (none : w'.supply = 0) : w.Serves w' := fun _ => .inl (by omega)

/-- A thread takes something, and may have been woken for it. -/
theorem Serves.take (asleep : w'.asleep = w.asleep) (woken : w.woken ≤ w'.woken + 1)
    (supply : w'.supply + 1 ≤ w.supply) : w.Serves w' :=
  fun some => .inr ⟨by omega, by omega⟩

/-- Something comes, and a thread is woken for it if one sleeps. -/
theorem Serves.give {k : Nat} (one : w.asleep ≠ 0 → k = 1) (asleep : w'.asleep + k = w.asleep)
    (woken : w'.woken = w.woken + k) (supply : w'.supply ≤ w.supply + 1) : w.Serves w' := by
  intro some
  have before : w.asleep ≠ 0 := by omega
  have := one before
  exact .inr ⟨before, by omega⟩

end Waits

end StudyProject.Library.Condition
