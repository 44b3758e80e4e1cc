import Mathlib.Tactic

/-!
# Assignments

A state is built by assignments, one behind the other; each of them writes a field of the state or
leaves it as it is. The field then has the value of the last assignment to it
(`foldl_lastWrite`).
-/

namespace Assignments

variable {σ δ α β : Type*}

/-- Each assignment `d` writes the value that `writes d` tells to the field, or leaves it. -/
def Writes (assign : σ → δ → σ) (field : σ → α) (writes : δ → Option α) : Prop :=
  ∀ s d, field (assign s d) = (writes d).getD (field s)

/-- The field has the value of the last assignment that wrote it. -/
theorem foldl_lastWrite {assign : σ → δ → σ} {field : σ → α} {writes : δ → Option α}
    (h : Writes assign field writes) (ds : List δ) (s : σ) :
    field (ds.foldl assign s) = (ds.filterMap writes).getLast?.getD (field s) := by
  induction ds generalizing s with
  | nil => rfl
  | cons d ds ih =>
    rw [List.foldl_cons, ih, h s d, List.filterMap_cons]
    cases writes d with
    | none => rfl
    | some a => rw [List.getLast?_cons, Option.getD_some, Option.getD_some]

end Assignments
