import Mathlib.Algebra.BigOperators.Group.List.Basic
import Mathlib.Algebra.GroupWithZero.Nat
import Mathlib.Tactic.Common

/-! Greedy line breaking.  Items that have a size are put on lines in order, and an item starts a
new line when the open line would exceed a limit with it.  `fill` continues from an open line,
`lines` starts from none, and `cut` splits a list where a list of marks says so.  No cut into lines
within the limit has fewer lines (`lines_fewest`), and a smaller limit within which all lines are
leaves them as they are (`lines_narrow`). -/

namespace StudyProject.Library.LineBreak

variable {α : Type*}

/-- The total size of a line. -/
def lineSize (size : α → Nat) (line : List α) : Nat := (line.map size).sum

@[simp] theorem lineSize_nil (size : α → Nat) : lineSize size [] = 0 := rfl

@[simp] theorem lineSize_cons (size : α → Nat) (a : α) (line : List α) :
    lineSize size (a :: line) = size a + lineSize size line := rfl

@[simp] theorem lineSize_append (size : α → Nat) (line line' : List α) :
    lineSize size (line ++ line') = lineSize size line + lineSize size line' := by
  simp [lineSize]

/-- The lines of `items` from the open line `line` on: an item with which the open line would
exceed `limit` closes that line and opens its own. -/
def fill (size : α → Nat) (limit : Int) (line : List α) : List α → List (List α)
  | [] => [line]
  | a :: rest =>
    if limit < (lineSize size line + size a : Nat) then line :: fill size limit [a] rest
    else fill size limit (line ++ [a]) rest

/-- The lines of `items`, none of them empty. -/
def lines (size : α → Nat) (limit : Int) : List α → List (List α)
  | [] => []
  | a :: rest => fill size limit [a] rest

/-- A list without its first line when that line is empty. -/
def dropEmptyHead : List (List α) → List (List α)
  | [] :: rest => rest
  | rows => rows

variable (size : α → Nat) (limit : Int)

theorem fill_flatten (line items : List α) :
    (fill size limit line items).flatten = line ++ items := by
  induction items generalizing line with
  | nil => simp [fill]
  | cons a rest ih =>
    rw [fill]
    split
    · rw [List.flatten_cons, ih, List.singleton_append]
    · rw [ih, List.append_assoc, List.singleton_append]

/-- Only the open line can be empty. -/
theorem fill_nonempty {line : List α} (open_ : line ≠ []) (items : List α) :
    ∀ row ∈ fill size limit line items, row ≠ [] := by
  induction items generalizing line with
  | nil => simpa [fill] using open_
  | cons a rest ih =>
    rw [fill]
    split
    · intro row mem
      rcases List.mem_cons.mp mem with rfl | mem
      · exact open_
      · exact ih (by simp) row mem
    · exact ih (by simp)

/-- A line of two or more items is within the limit. -/
def Fits (row : List α) : Prop := 2 ≤ row.length → (lineSize size row : Int) ≤ limit

theorem fits_append_singleton {line : List α} {a : α}
    (room : ¬limit < (lineSize size line + size a : Nat)) : Fits size limit (line ++ [a]) := by
  intro _
  simp only [lineSize_append, lineSize_cons, lineSize_nil, Nat.add_zero]
  omega

theorem fill_fits {line : List α} (fits : Fits size limit line) (items : List α) :
    ∀ row ∈ fill size limit line items, Fits size limit row := by
  induction items generalizing line with
  | nil => simpa [fill] using fits
  | cons a rest ih =>
    rw [fill]
    split
    · intro row mem
      rcases List.mem_cons.mp mem with rfl | mem
      · exact fits
      · exact ih (fun two => absurd two (by simp)) row mem
    · rename_i room
      exact ih (fits_append_singleton size limit room)

/-- From an empty open line, `fill` finds `lines`, after an empty line when the first item alone
exceeds the limit. -/
theorem fill_nil_eq (items : List α) :
    fill size limit [] items = lines size limit items ∨
      fill size limit [] items = [] :: lines size limit items := by
  cases items with
  | nil => exact .inr rfl
  | cons a rest =>
    rw [fill]
    split
    · exact .inr rfl
    · exact .inl rfl

theorem lines_nonempty (items : List α) : ∀ row ∈ lines size limit items, row ≠ [] := by
  cases items with
  | nil => simp [lines]
  | cons a rest => exact fill_nonempty size limit (by simp) rest

theorem dropEmptyHead_of_nonempty {rows : List (List α)} (h : ∀ row ∈ rows, row ≠ []) :
    dropEmptyHead rows = rows := by
  match rows, h with
  | [], _ => rfl
  | [] :: _, h => exact absurd rfl (h [] (by simp))
  | (_ :: _) :: _, _ => rfl

theorem dropEmptyHead_fill (items : List α) :
    dropEmptyHead (fill size limit [] items) = lines size limit items := by
  rcases fill_nil_eq size limit items with same | extra
  · rw [same]
    exact dropEmptyHead_of_nonempty (lines_nonempty size limit items)
  · rw [extra]
    rfl

/-! ### The fewest lines -/

/-- An open line of smaller size needs no more lines for the items to come, and any open line
needs at most one more than any other. -/
theorem fill_length_le (line line' items : List α) :
    (lineSize size line ≤ lineSize size line' →
        (fill size limit line items).length ≤ (fill size limit line' items).length) ∧
      (fill size limit line items).length ≤ (fill size limit line' items).length + 1 := by
  induction items generalizing line line' with
  | nil => simp [fill]
  | cons a rest ih =>
    have restart := ih [a] (line' ++ [a])
    have ahead := ih (line ++ [a]) [a]
    have both := ih (line ++ [a]) (line' ++ [a])
    simp only [lineSize_append, lineSize_cons, lineSize_nil] at restart ahead both
    rw [fill, fill]
    by_cases full : limit < (lineSize size line + size a : Nat)
    · rw [if_pos full, List.length_cons]
      by_cases full' : limit < (lineSize size line' + size a : Nat)
      · rw [if_pos full', List.length_cons]
        omega
      · rw [if_neg full']
        omega
    · rw [if_neg full]
      by_cases full' : limit < (lineSize size line' + size a : Nat)
      · rw [if_pos full', List.length_cons]
        omega
      · rw [if_neg full']
        omega

/-- Items that fit on the open line stay on it. -/
theorem fill_append {line more : List α} (fits : (lineSize size (line ++ more) : Int) ≤ limit)
    (rest : List α) :
    fill size limit line (more ++ rest) = fill size limit (line ++ more) rest := by
  induction more generalizing line with
  | nil => simp
  | cons a more ih =>
    rw [List.append_cons] at fits
    have room : ¬limit < (lineSize size line + size a : Nat) := by
      simp only [lineSize_append, lineSize_cons, lineSize_nil] at fits
      omega
    calc fill size limit line (a :: more ++ rest)
        _ = fill size limit (line ++ [a]) (more ++ rest) := by
          rw [List.cons_append, fill]
          exact if_neg room
        _ = fill size limit (line ++ [a] ++ more) rest := ih fits
        _ = fill size limit (line ++ a :: more) rest := by rw [← List.append_cons]

theorem lines_append_length {row : List α} (fits : (lineSize size row : Int) ≤ limit)
    (rest : List α) :
    (lines size limit (row ++ rest)).length ≤ (lines size limit rest).length + 1 := by
  cases row with
  | nil => simp
  | cons a row =>
    have fits' : (lineSize size ([a] ++ row) : Int) ≤ limit := fits
    rw [List.cons_append, lines, fill_append size limit fits']
    cases rest with
    | nil => simp [fill, lines]
    | cons b rest =>
      rw [lines, fill]
      split
      · simp
      · exact (fill_length_le size limit _ [b] rest).2

/-- No cut into lines within the limit has fewer lines than the greedy one. -/
theorem lines_fewest {cuts : List (List α)}
    (fits : ∀ row ∈ cuts, (lineSize size row : Int) ≤ limit) :
    (lines size limit cuts.flatten).length ≤ cuts.length := by
  induction cuts with
  | nil => simp [lines]
  | cons row cuts ih =>
    rw [List.forall_mem_cons] at fits
    have first := lines_append_length size limit fits.1 cuts.flatten
    have others := ih fits.2
    rw [List.flatten_cons, List.length_cons]
    omega

theorem lines_flatten (items : List α) : (lines size limit items).flatten = items := by
  cases items with
  | nil => rfl
  | cons a rest => exact fill_flatten size limit [a] rest

/-- Where no item is longer than the limit, no line is. -/
theorem lines_within {items : List α} (small : ∀ a ∈ items, (size a : Int) ≤ limit) :
    ∀ row ∈ lines size limit items, (lineSize size row : Int) ≤ limit := by
  intro row mem
  have fits : Fits size limit row := by
    cases items with
    | nil => simp [lines] at mem
    | cons a rest => exact fill_fits size limit (fun two => absurd two (by simp)) rest row mem
  match row, lines_nonempty size limit items row mem with
  | [a], _ =>
    have inside : a ∈ items := by
      rw [← lines_flatten size limit items]
      exact List.mem_flatten.mpr ⟨[a], mem, by simp⟩
    simpa using small a inside
  | a :: b :: row, _ => exact fits (by simp)

/-! ### A smaller limit -/

theorem fill_head (line items : List α) :
    ∃ more rest, fill size limit line items = (line ++ more) :: rest := by
  induction items generalizing line with
  | nil => exact ⟨[], [], by simp [fill]⟩
  | cons a items ih =>
    rw [fill]
    split
    · exact ⟨[], fill size limit [a] items, by simp⟩
    · obtain ⟨more, rest, head⟩ := ih (line ++ [a])
      exact ⟨a :: more, rest, by rw [head, ← List.append_cons]⟩

/-- A smaller limit within which all lines are breaks at the same items. -/
theorem fill_narrow {narrow : Int} (le : narrow ≤ limit) (line items : List α)
    (fits : ∀ row ∈ fill size limit line items, (lineSize size row : Int) ≤ narrow) :
    fill size narrow line items = fill size limit line items := by
  induction items generalizing line with
  | nil => rfl
  | cons a rest ih =>
    rw [fill] at fits
    rw [fill, fill]
    by_cases full : limit < (lineSize size line + size a : Nat)
    · rw [if_pos full, List.forall_mem_cons] at fits
      rw [if_pos full, if_pos (by omega), ih [a] fits.2]
    · rw [if_neg full] at fits
      obtain ⟨more, others, head⟩ := fill_head size limit (line ++ [a]) rest
      have first := fits (line ++ [a] ++ more) (by simp [head])
      simp only [lineSize_append, lineSize_cons, lineSize_nil] at first
      rw [if_neg full, if_neg (by omega), ih (line ++ [a]) fits]

theorem lines_narrow {narrow : Int} (le : narrow ≤ limit) (items : List α)
    (fits : ∀ row ∈ lines size limit items, (lineSize size row : Int) ≤ narrow) :
    lines size narrow items = lines size limit items := by
  cases items with
  | nil => rfl
  | cons a rest => exact fill_narrow size limit le [a] rest fits

/-! ### Cutting at marks -/

/-- The runs of the marked items from the open run `run` on: an item marked `true` closes the open
run and starts the next one. -/
def cutFrom (run : List α) : List (Bool × α) → List (List α)
  | [] => [run]
  | (true, a) :: rest => run :: cutFrom [a] rest
  | (false, a) :: rest => cutFrom (run ++ [a]) rest

/-- The runs between the marks.  The first item starts a run whether it is marked or not. -/
def cut : List (Bool × α) → List (List α)
  | [] => []
  | (_, a) :: rest => cutFrom [a] rest

end StudyProject.Library.LineBreak
