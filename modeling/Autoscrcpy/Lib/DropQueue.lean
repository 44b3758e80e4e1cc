import Mathlib.Algebra.Order.Floor.Div
import Mathlib.Tactic

/-!
# Queues that drop their oldest elements

A queue with a capacity whose elements come in units. A push that finds no room first drops the
oldest units, as few as it can (`isLeast_unitsToDrop`), and a pull that finds too few elements is
filled up with silence, empties the queue and is counted.
-/

universe u

/-- The elements, oldest first, and the number of pulls that found too few. -/
structure DropQueue (α : Type u) where
  items : List α
  underflows : ℕ
  deriving DecidableEq, Repr

namespace DropQueue

variable {α : Type u}

def empty : DropQueue α := ⟨[], 0⟩

/-- How many units are dropped of `length` elements to make room for `n`. -/
def unitsToDrop (capacity unit length n : ℕ) : ℕ := (length + n - capacity) ⌈/⌉ unit

def push (capacity unit : ℕ) (q : DropQueue α) (xs : List α) : DropQueue α :=
  { q with items := q.items.drop (unit * unitsToDrop capacity unit q.items.length xs.length) ++ xs }

/-- What a pull of `n` elements puts out. -/
def pulled (silence : α) (q : DropQueue α) (n : ℕ) : List α :=
  q.items.take n ++ List.replicate (n - q.items.length) silence

def pull (q : DropQueue α) (n : ℕ) : DropQueue α :=
  if n ≤ q.items.length then { q with items := q.items.drop n } else ⟨[], q.underflows + 1⟩

/-- No smaller number of units makes room. -/
theorem isLeast_unitsToDrop {capacity unit n : ℕ} (hunit : 0 < unit) (hn : n ≤ capacity)
    (length : ℕ) :
    IsLeast {k | length - unit * k + n ≤ capacity} (unitsToDrop capacity unit length n) := by
  have hiff (k : ℕ) : length - unit * k + n ≤ capacity ↔ length + n - capacity ≤ unit * k := by
    omega
  constructor
  · rw [Set.mem_ofPred_eq, hiff, ← smul_eq_mul]
    exact le_smul_ceilDiv hunit
  · intro k hk
    rw [Set.mem_ofPred_eq, hiff, ← smul_eq_mul] at hk
    exact (ceilDiv_le_iff_le_smul hunit).2 hk

end DropQueue
