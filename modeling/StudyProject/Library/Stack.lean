import Mathlib.Algebra.BigOperators.Group.List.Basic
import Mathlib.Algebra.GroupWithZero.Nat
import Mathlib.Tactic.Common

/-! Rows stacked from the top down.  `runningMax` is the list of heights that a running maximum
records for a list of rows, `reach` is how far down the rows go when they are stacked at those
recorded heights, and `reach_eq_sum_iff` says when that is the sum of the rows' own heights. -/

namespace StudyProject.Library.Stack

/-- The largest number of a list, 0 for none. -/
def peak (heights : List Nat) : Nat := heights.foldr max 0

@[simp] theorem peak_nil : peak [] = 0 := rfl

@[simp] theorem peak_cons (h : Nat) (heights : List Nat) :
    peak (h :: heights) = max h (peak heights) := rfl

@[simp] theorem peak_append (heights heights' : List Nat) :
    peak (heights ++ heights') = max (peak heights) (peak heights') := by
  induction heights with
  | nil => simp
  | cons h t ih => simp [ih, Nat.max_assoc]

theorem le_peak {heights : List Nat} {h : Nat} (mem : h ∈ heights) : h ≤ peak heights := by
  induction heights with
  | nil => simp at mem
  | cons a t ih =>
    rcases List.mem_cons.mp mem with rfl | mem
    · exact Nat.le_max_left _ _
    · exact Nat.le_trans (ih mem) (Nat.le_max_right _ _)

theorem peak_le {heights : List Nat} {bound : Nat} (le : ∀ h ∈ heights, h ≤ bound) :
    peak heights ≤ bound := by
  induction heights with
  | nil => exact Nat.zero_le bound
  | cons a t ih =>
    rw [List.forall_mem_cons] at le
    rw [peak_cons]
    exact Nat.max_le.mpr ⟨le.1, ih le.2⟩

/-- The maximum of `m` and the heights up to each place of the list. -/
def runningMax (m : Nat) : List Nat → List Nat
  | [] => []
  | h :: rest => max m h :: runningMax (max m h) rest

@[simp] theorem runningMax_length (m : Nat) (heights : List Nat) :
    (runningMax m heights).length = heights.length := by
  induction heights generalizing m with
  | nil => rfl
  | cons h t ih => simp [runningMax, ih]

theorem forall₂_le_runningMax (m : Nat) (heights : List Nat) :
    List.Forall₂ (· ≤ ·) heights (runningMax m heights) := by
  induction heights generalizing m with
  | nil => exact .nil
  | cons h t ih => exact .cons (Nat.le_max_right m h) (ih (max m h))

theorem sum_le_sum_runningMax (m : Nat) (heights : List Nat) :
    heights.sum ≤ (runningMax m heights).sum := by
  induction heights generalizing m with
  | nil => simp [runningMax]
  | cons h t ih =>
    have := ih (max m h)
    simp only [runningMax, List.sum_cons]
    omega

/-- A running maximum adds up to the sum of the heights exactly when it never exceeds one of
them: the heights are at least `m` and ascend. -/
theorem sum_runningMax_eq_iff (m : Nat) (heights : List Nat) :
    (runningMax m heights).sum = heights.sum ↔
      (∀ h ∈ heights, m ≤ h) ∧ heights.Pairwise (· ≤ ·) := by
  induction heights generalizing m with
  | nil => simp [runningMax]
  | cons h t ih =>
    have bound := sum_le_sum_runningMax (max m h) t
    simp only [runningMax, List.sum_cons, List.forall_mem_cons, List.pairwise_cons]
    constructor
    · intro same
      have mh : m ≤ h := by omega
      rw [Nat.max_eq_right mh] at same bound
      obtain ⟨above, sorted⟩ := (ih h).mp (by omega)
      exact ⟨⟨mh, fun x mem => Nat.le_trans mh (above x mem)⟩, above, sorted⟩
    · rintro ⟨⟨mh, -⟩, above, sorted⟩
      rw [Nat.max_eq_right mh, (ih h).mpr ⟨above, sorted⟩]

/-- The lowest bottom of rows of these heights, stacked from `top` with each row taking the height
that the running maximum from `m` records for it. -/
def reach (top m : Nat) : List Nat → Nat
  | [] => 0
  | h :: rest => max (top + h) (reach (top + max m h) (max m h) rest)

/-- The last row reaches lowest: every other row ends within the height recorded for it. -/
theorem reach_append_singleton (top m : Nat) (init : List Nat) (last : Nat) :
    reach top m (init ++ [last]) = top + (runningMax m init).sum + last := by
  induction init generalizing top m with
  | nil => simp [reach, runningMax]
  | cons h t ih =>
    simp only [List.cons_append, reach, runningMax, List.sum_cons, ih]
    omega

theorem reach_eq_sum_iff (heights : List Nat) :
    reach 0 0 heights = heights.sum ↔ heights.dropLast.Pairwise (· ≤ ·) := by
  rcases List.eq_nil_or_concat heights with rfl | ⟨init, last, rfl⟩
  · simp [reach]
  · rw [List.concat_eq_append, reach_append_singleton, List.sum_append, List.sum_singleton,
      List.dropLast_concat]
    have := sum_runningMax_eq_iff 0 init
    constructor
    · intro same
      exact (this.mp (by omega)).2
    · intro sorted
      rw [this.mpr ⟨fun _ _ => Nat.zero_le _, sorted⟩]
      omega

end StudyProject.Library.Stack
