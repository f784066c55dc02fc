import Mathlib.Data.List.Nodup

/-! Linked lists in memory: `next` gives the node that a node refers to.  A list of nodes stands for
what a walk along `next` finds, and a change of `next` at one or two nodes for an insertion into it
or a removal from it. -/

namespace StudyProject.Library.Chain

variable {ι : Type*} {next next' : ι → Option ι} {a b c : Option ι} {x y p : ι}
  {xs ys zs : List ι}

/-- The walk along `next` from `a` finds the nodes `xs` and then comes to `b`. -/
def Segment (next : ι → Option ι) : Option ι → List ι → Option ι → Prop
  | a, [], b => a = b
  | a, x :: xs, b => a = some x ∧ Segment next (next x) xs b

/-- The walk along `next` from `a` finds the nodes `xs` and ends. -/
abbrev Path (next : ι → Option ι) (a : Option ι) (xs : List ι) : Prop := Segment next a xs none

theorem segment_append :
    Segment next a (xs ++ ys) c ↔ ∃ b, Segment next a xs b ∧ Segment next b ys c := by
  induction xs generalizing a with
  | nil => simp [Segment]
  | cons x xs ih => simp [Segment, ih, and_assoc]

theorem Path.head (h : Path next a xs) : a = xs.head? := by
  cases xs with
  | nil => exact h
  | cons x xs => exact h.1

/-- What a walk finds after a node, it finds from the node that this one refers to. -/
theorem Path.after (h : Path next a (xs ++ x :: ys)) : Path next (next x) ys := by
  obtain ⟨b, -, rest⟩ := segment_append.mp h
  exact rest.2

theorem Path.unique (h : Path next a xs) (h' : Path next a ys) : xs = ys := by
  induction xs generalizing a ys with
  | nil =>
    cases ys with
    | nil => rfl
    | cons y ys => exact absurd (h.symm.trans h'.1) (by simp)
  | cons x xs ih =>
    cases ys with
    | nil => exact absurd (h'.symm.trans h.1) (by simp)
    | cons y ys =>
      obtain rfl : x = y := Option.some.inj (h.1.symm.trans h'.1)
      rw [ih h.2 h'.2]

/-- A walk that ends comes to no node twice. -/
theorem Path.nodup (h : Path next a xs) : xs.Nodup := by
  induction xs generalizing a with
  | nil => exact List.nodup_nil
  | cons x xs ih =>
    refine List.nodup_cons.mpr ⟨fun mem => ?_, ih h.2⟩
    obtain ⟨before, after, rfl⟩ := List.append_of_mem mem
    have same := congrArg List.length (Path.unique h.2 (Path.after h.2))
    simp only [List.length_append, List.length_cons] at same
    omega

theorem Segment.congr (h : Segment next a xs b) (same : ∀ x ∈ xs, next' x = next x) :
    Segment next' a xs b := by
  induction xs generalizing a with
  | nil => exact h
  | cons x xs ih =>
    rw [List.forall_mem_cons] at same
    exact ⟨h.1, by rw [same.1]; exact ih h.2 same.2⟩

/-- Where a walk comes to one node from another, it finds the two in a row. -/
theorem Path.split_of_next (h : Path next a xs) (mem : x ∈ xs) (refers : next x = some y) :
    ∃ before after, xs = before ++ x :: y :: after := by
  obtain ⟨before, rest, rfl⟩ := List.append_of_mem mem
  have start := h.after.head
  rw [refers] at start
  cases rest with
  | nil => simp at start
  | cons z after =>
    obtain rfl : y = z := by simpa using start
    exact ⟨before, after, rfl⟩

theorem Path.next_mem (h : Path next a xs) (mem : x ∈ xs) (refers : next x = some y) : y ∈ xs := by
  obtain ⟨before, after, rfl⟩ := h.split_of_next mem refers
  simp

/-- A node that a walk finds is its first one, or another one refers to it. -/
theorem Path.before (h : Path next a xs) (mem : x ∈ xs) :
    a = some x ∨ ∃ y ∈ xs, next y = some x := by
  obtain ⟨before, after, rfl⟩ := List.append_of_mem mem
  rcases List.eq_nil_or_concat before with rfl | ⟨init, y, rfl⟩
  · exact .inl h.1
  · refine .inr ⟨y, by simp, ?_⟩
    rw [List.concat_eq_append, List.append_assoc] at h
    exact h.after.1

/-- The last node of a walk refers to none. -/
theorem Path.next_last (h : Path next a xs) (last : xs.getLast? = some x) : next x = none := by
  obtain ⟨init, rfl⟩ := List.getLast?_eq_some_iff.mp last
  exact h.after

/-! ### Changes -/

/-- The node `p` comes after `x`, which now refers to it. -/
theorem Path.insert (h : Path next a (xs ++ x :: ys)) (refers : next' x = some p)
    (follows : next' p = next x) (same : ∀ y ∈ xs ++ ys, next' y = next y) :
    Path next' a (xs ++ x :: p :: ys) := by
  rw [List.forall_mem_append] at same
  obtain ⟨b, first, start, rest⟩ := segment_append.mp h
  refine segment_append.mpr ⟨b, first.congr same.1, start, refers, ?_⟩
  rw [follows]
  exact rest.congr same.2

/-- The node `p` is left out, since `x` now refers to what comes after it. -/
theorem Path.leave_out (h : Path next a (xs ++ x :: p :: ys)) (refers : next' x = next p)
    (same : ∀ y ∈ xs ++ ys, next' y = next y) : Path next' a (xs ++ x :: ys) := by
  rw [List.forall_mem_append] at same
  obtain ⟨b, first, start, -, rest⟩ := segment_append.mp h
  refine segment_append.mpr ⟨b, first.congr same.1, start, ?_⟩
  rw [refers]
  exact rest.congr same.2

/-! ### Walks -/

/-- The first node of a walk of at most so many nodes that `q` holds of.  `none` says that the walk
does not end within them. -/
def search (next : ι → Option ι) (q : ι → Bool) : Nat → Option ι → Option (Option ι)
  | _, none => some none
  | 0, some _ => none
  | n + 1, some x => if q x then some (some x) else search next q n (next x)

/-- Such a walk finds a node that `q` holds of. -/
theorem search_some {q : ι → Bool} {n : Nat} (found : search next q n a = some (some x)) :
    q x = true := by
  induction n generalizing a with
  | zero => cases a <;> simp [search] at found
  | succ n ih =>
    cases a with
    | none => simp [search] at found
    | some y =>
      rw [search] at found
      split at found
      · rename_i holds
        obtain rfl : y = x := by simpa using found
        exact holds
      · exact ih found

theorem Path.search {q : ι → Bool} {n : Nat} (h : Path next a xs) (enough : xs.length ≤ n) :
    search next q n a = some (xs.find? q) := by
  induction xs generalizing a n with
  | nil =>
    rw [show a = none from h]
    cases n <;> rfl
  | cons x xs ih =>
    obtain ⟨rfl, rest⟩ := h
    rw [List.length_cons] at enough
    cases n with
    | zero => omega
    | succ n =>
      rw [Chain.search, List.find?_cons, ih rest (by omega)]
      cases q x <;> rfl

end StudyProject.Library.Chain
