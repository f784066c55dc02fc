import Mathlib.Data.Set.BooleanAlgebra
import Mathlib.Data.Set.Prod
import Mathlib.Order.CompletePartialOrder
import Mathlib.Order.Interval.Set.Basic

/-! Axis-parallel rectangles of a plane whose second coordinate grows downwards. -/

namespace StudyProject.Library

/-- A rectangle, by its sides. -/
structure Rect (α : Type*) where
  left : α
  top : α
  right : α
  bottom : α
deriving DecidableEq, Repr

namespace Rect

variable {α β : Type*}

/-- The rectangle with each side moved by `f`. -/
def map (f : α → β) (r : Rect α) : Rect β := ⟨f r.left, f r.top, f r.right, f r.bottom⟩

/-- The points strictly between the sides. -/
def interior [Preorder α] (r : Rect α) : Set (α × α) :=
  Set.Ioo r.left r.right ×ˢ Set.Ioo r.top r.bottom

/-- `r` ends to the left of `s` or above it. -/
def Before [LE α] (r s : Rect α) : Prop := r.right ≤ s.left ∨ r.bottom ≤ s.top

theorem Before.map [Preorder α] [Preorder β] {f : α → β} (mono : Monotone f) {r s : Rect α}
    (h : r.Before s) : (r.map f).Before (s.map f) :=
  h.imp (fun h => mono h) (fun h => mono h)

theorem Before.disjoint [Preorder α] {r s : Rect α} (h : r.Before s) :
    Disjoint r.interior s.interior := by
  rw [Set.disjoint_left]
  rintro ⟨x, y⟩ ⟨⟨-, xr⟩, -, yr⟩ ⟨⟨xs, -⟩, ys, -⟩
  rcases h with h | h
  · exact lt_irrefl x (xr.trans_le (h.trans xs.le))
  · exact lt_irrefl y (yr.trans_le (h.trans ys.le))

end Rect

end StudyProject.Library
