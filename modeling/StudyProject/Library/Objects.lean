import Mathlib.Tactic.Common

/-! Objects in a heap and one field that refers to them.  An object is named by its place in the
heap, so a new object never has an old one's name.  `Sole` says that the field refers to the one
live object of the heap, or to none where no object is live. -/

namespace StudyProject.Library.Objects

section

variable {α : Type*}

/-- The heap after `f` on the object that the field refers to. -/
def update (field : Option Nat) (f : α → α) (heap : List α) : List α :=
  match field with
  | none => heap
  | some i => heap.modify i f

@[simp] theorem update_none (f : α → α) (heap : List α) : update none f heap = heap := rfl

@[simp] theorem update_some (i : Nat) (f : α → α) (heap : List α) :
    update (some i) f heap = heap.modify i f := rfl

@[simp] theorem update_length (field : Option Nat) (f : α → α) (heap : List α) :
    (update field f heap).length = heap.length := by
  cases field <;> simp

@[simp] theorem modify_concat (heap : List α) (x : α) (f : α → α) :
    (heap ++ [x]).modify heap.length f = heap ++ [f x] := by
  induction heap with
  | nil => rfl
  | cons a t ih => simp [ih]

@[simp] theorem update_id (field : Option Nat) (heap : List α) :
    update field (fun x => x) heap = heap := by
  cases field with
  | none => rfl
  | some i => exact List.modify_id i heap

@[simp] theorem update_update (field : Option Nat) (f g : α → α) (heap : List α) :
    update field g (update field f heap) = update field (fun x => g (f x)) heap := by
  cases field with
  | none => rfl
  | some i => exact List.modify_modify_eq f g i heap

/-- An object of the new heap is the changed one or an object of the old heap. -/
theorem getElem?_update {field : Option Nat} {f : α → α} {heap : List α} {i : Nat} {x : α}
    (h : (update field f heap)[i]? = some x) :
    (field = some i ∧ ∃ y, heap[i]? = some y ∧ x = f y) ∨ (field ≠ some i ∧ heap[i]? = some x) := by
  cases field with
  | none => exact .inr ⟨by simp, h⟩
  | some j =>
    by_cases same : j = i
    · subst same
      rw [update_some, List.getElem?_modify_eq, Option.map_eq_map, Option.map_eq_some_iff] at h
      obtain ⟨y, at_y, rfl⟩ := h
      exact .inl ⟨rfl, y, at_y, rfl⟩
    · rw [update_some, List.getElem?_modify_ne _ _ same] at h
      exact .inr ⟨by simpa using same, h⟩

theorem getElem?_concat {heap : List α} {x y : α} {i : Nat} (h : (heap ++ [x])[i]? = some y) :
    heap[i]? = some y ∨ (i = heap.length ∧ y = x) := by
  rw [List.getElem?_append] at h
  split at h
  · exact .inl h
  · have : i - heap.length = 0 := by
      by_contra out
      rw [List.getElem?_eq_none (by simp; omega)] at h
      simp at h
    rw [this] at h
    exact .inr ⟨by omega, by simpa using h.symm⟩

/-- An object of the old heap is still there, perhaps changed. -/
theorem update_getElem? {heap : List α} {i : Nat} {x : α} (h : heap[i]? = some x)
    (field : Option Nat) (f : α → α) :
    ∃ y, (update field f heap)[i]? = some y ∧ (y = x ∨ y = f x) := by
  cases field with
  | none => exact ⟨x, h, .inl rfl⟩
  | some j =>
    by_cases same : j = i
    · exact ⟨f x, by simp [same, h], .inr rfl⟩
    · exact ⟨x, by simp [same, h], .inl rfl⟩

theorem forall_mem_update {P : α → Prop} {f : α → α} {heap : List α} (h : ∀ x ∈ heap, P x)
    (keeps : ∀ x, P x → P (f x)) (field : Option Nat) : ∀ x ∈ update field f heap, P x := by
  intro x mem
  obtain ⟨i, at_i⟩ := List.mem_iff_getElem?.mp mem
  rcases getElem?_update at_i with ⟨-, y, old, rfl⟩ | ⟨-, old⟩
  · exact keeps y (h y (List.mem_of_getElem? old))
  · exact h x (List.mem_of_getElem? old)

/-! ### Counting objects -/

theorem countP_modify_same {p : α → Bool} {f : α → α} (same : ∀ x, p (f x) = p x)
    (heap : List α) (i : Nat) : (heap.modify i f).countP p = heap.countP p := by
  induction heap generalizing i with
  | nil => cases i <;> rfl
  | cons x heap ih =>
    cases i with
    | zero => simp only [List.modify_zero_cons, List.countP_cons, same x]
    | succ i => simp only [List.modify_succ_cons, List.countP_cons, ih i]

/-- A change that the counted property does not see. -/
theorem countP_update_same {p : α → Bool} {f : α → α} (same : ∀ x, p (f x) = p x)
    (heap : List α) (field : Option Nat) : (update field f heap).countP p = heap.countP p := by
  cases field with
  | none => rfl
  | some i => exact countP_modify_same same heap i

/-- The object that has changed is counted as it is now, and no longer as it was. -/
theorem countP_modify {p : α → Bool} {f : α → α} {heap : List α} {i : Nat} {x : α}
    (at_i : heap[i]? = some x) :
    (heap.modify i f).countP p + (if p x then 1 else 0) =
      heap.countP p + if p (f x) then 1 else 0 := by
  induction heap generalizing i with
  | nil => simp at at_i
  | cons y heap ih =>
    cases i with
    | zero =>
      obtain rfl : y = x := by simpa using at_i
      simp only [List.modify_zero_cons, List.countP_cons]
      omega
    | succ i =>
      have rest := ih (by simpa using at_i)
      simp only [List.modify_succ_cons, List.countP_cons]
      omega

end

variable {α : Type*}

/-- The field refers to the heap's live object, and to none where no object is live. -/
structure Sole (live : α → Prop) (heap : List α) (field : Option Nat) : Prop where
  held : ∀ i, field = some i → ∃ x, heap[i]? = some x ∧ live x
  only : ∀ i x, heap[i]? = some x → live x → field = some i

namespace Sole

variable {live : α → Prop} {heap : List α} {field : Option Nat} {f : α → α} {x : α}

theorem nil : Sole live [] none := ⟨by simp, by simp⟩

theorem unique (h : Sole live heap field) {i j : Nat} {x y : α} (at_i : heap[i]? = some x)
    (live_x : live x) (at_j : heap[j]? = some y) (live_y : live y) : i = j :=
  Option.some.inj ((h.only i x at_i live_x).symm.trans (h.only j y at_j live_y))

theorem none_live (h : Sole live heap none) {i : Nat} (at_i : heap[i]? = some x) : ¬live x :=
  fun live_x => by simpa using h.only i x at_i live_x

theorem lt_length (h : Sole live heap field) {i : Nat} (held : field = some i) :
    i < heap.length := by
  obtain ⟨x, at_i, -⟩ := h.held i held
  exact (List.getElem?_eq_some_iff.mp at_i).1

/-- The field's object ends, and the field is cleared. -/
theorem retire (h : Sole live heap field) (ends : ∀ x, ¬live (f x)) :
    Sole live (update field f heap) none := by
  refine ⟨by simp, fun i x at_i live_x => ?_⟩
  rcases getElem?_update at_i with ⟨-, y, -, rfl⟩ | ⟨other, old⟩
  · exact absurd live_x (ends y)
  · exact absurd (h.only i x old live_x) other

/-- A change that no object lives or ends by. -/
theorem update (h : Sole live heap field) (same : ∀ x, live (f x) ↔ live x) (g : Option Nat) :
    Sole live (update g f heap) field := by
  constructor
  · intro i held
    obtain ⟨x, at_i, live_x⟩ := h.held i held
    obtain ⟨y, at_y, rfl | rfl⟩ := update_getElem? at_i g f
    · exact ⟨y, at_y, live_x⟩
    · exact ⟨f x, at_y, (same x).mpr live_x⟩
  · intro i x at_i live_x
    rcases getElem?_update at_i with ⟨-, y, old, rfl⟩ | ⟨-, old⟩
    · exact h.only i y old ((same y).mp live_x)
    · exact h.only i x old live_x

/-- A new live object, where there was none. -/
theorem alloc (h : Sole live heap none) (live_x : live x) :
    Sole live (heap ++ [x]) (some heap.length) := by
  constructor
  · rintro i ⟨⟩
    exact ⟨x, by simp, live_x⟩
  · intro i y at_i live_y
    rcases getElem?_concat at_i with old | ⟨rfl, rfl⟩
    · exact absurd live_y (h.none_live old)
    · rfl

/-- When a second object becomes the field's own, the first one still lives. -/
theorem not_only_realloc (h : Sole live heap field) {i : Nat} (held : field = some i) :
    ¬∀ j y, (heap ++ [x])[j]? = some y → live y → some heap.length = some j := by
  intro only
  obtain ⟨y, at_i, live_y⟩ := h.held i held
  have bound := h.lt_length held
  have moved := only i y (by rw [List.getElem?_append_left bound, at_i]) live_y
  have : heap.length = i := by simpa using moved
  omega

end Sole

end StudyProject.Library.Objects
