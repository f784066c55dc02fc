import Mathlib.Data.List.AList
import Mathlib.Tactic.Common

/-! Remembering a lookup.  A table keeps what a lookup `f` returned at the keys asked for so far.  A
key at which nothing was found is looked up again each time, so a table agrees with `f` when it
holds nothing that `f` would not return, and asking the table first is then the same as asking
`f`. -/

namespace StudyProject.Library.Memo

variable {κ β : Type*} [DecidableEq κ]

/-- A table from keys to what was found there, `none` for nothing. -/
abbrev Table (κ β : Type*) := AList fun _ : κ => Option β

namespace Table

/-- What the table holds at a key, with no difference between nothing found and not asked. -/
def get (table : Table κ β) (k : κ) : Option β := (table.lookup k).join

def put (table : Table κ β) (k : κ) (found : Option β) : Table κ β := table.insert k found

@[simp] theorem get_empty (k : κ) : (∅ : Table κ β).get k = none := by
  simp [get]

@[simp] theorem get_put_self (table : Table κ β) (k : κ) (found : Option β) :
    (table.put k found).get k = found := by
  simp [get, put]

theorem get_put_of_ne (table : Table κ β) {k k' : κ} (ne : k' ≠ k) (found : Option β) :
    (table.put k found).get k' = table.get k' := by
  simp [get, put, AList.lookup_insert_ne ne]

/-- The table holds nothing but what `f` returns. -/
def Agrees (table : Table κ β) (f : κ → Option β) : Prop :=
  ∀ k b, table.get k = some b → f k = some b

theorem agrees_empty (f : κ → Option β) : Agrees ∅ f := by
  intro k b found
  simp at found

theorem Agrees.put {table : Table κ β} {f : κ → Option β} (h : table.Agrees f) (k : κ) :
    (table.put k (f k)).Agrees f := by
  intro k' b found
  by_cases same : k' = k
  · rw [same, get_put_self] at found
    rw [same, found]
  · rw [get_put_of_ne table same] at found
    exact h k' b found

/-- The table holds what another one holds, and perhaps more. -/
def Extends (table table' : Table κ β) : Prop :=
  ∀ k b, table'.get k = some b → table.get k = some b

theorem extends_refl (table : Table κ β) : table.Extends table := fun _ _ held => held

/-- A key at which nothing is held takes whatever was found there. -/
theorem extends_put {table : Table κ β} {k : κ} (missing : table.get k = none) (found : Option β) :
    (table.put k found).Extends table := by
  intro k' b held
  have other : k' ≠ k := by
    rintro rfl
    simp [missing] at held
  rw [get_put_of_ne table other, held]

end Table

end StudyProject.Library.Memo
