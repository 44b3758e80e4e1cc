import Mathlib.Tactic

/-!
# Allocated blocks

A heap hands out blocks that are numbered in the order of their allocation, and records what is
passed to `free` and which uses met a block that was not live. `Owns h held` says that the blocks
allocated so far are those freed and those held, each once: `malloc` adds a block to those held and
`free` takes one off, so that a program that ends with nothing held has freed every block exactly
once.
-/

/-- The number of blocks allocated so far, the blocks passed to `free`, and the uses of blocks that
were not live. -/
structure Heap where
  next : ℕ
  freed : List ℕ
  wild : List ℕ
  deriving DecidableEq, Repr

namespace Heap

def init : Heap := ⟨0, [], []⟩

/-- Allocated and not yet freed. -/
def Live (h : Heap) (b : ℕ) : Prop := b < h.next ∧ b ∉ h.freed

instance (h : Heap) (b : ℕ) : Decidable (h.Live b) := inferInstanceAs (Decidable (_ ∧ _))

/-- Allocate the block `h.next`. -/
def malloc (h : Heap) : Heap := { h with next := h.next + 1 }

def free (h : Heap) (b : ℕ) : Heap := { h with freed := b :: h.freed }

/-- `free` of a pointer, which does nothing for a null pointer. -/
def freePtr (h : Heap) : Option ℕ → Heap
  | none => h
  | some b => h.free b

/-- Read or write a block. -/
def use (h : Heap) (b : ℕ) : Heap := if h.Live b then h else { h with wild := h.wild ++ [b] }

/-- Nothing but live blocks was used or freed, and the live blocks are those of `held`. -/
structure Owns (h : Heap) (held : List ℕ) : Prop where
  blocks : (h.freed ++ held).Perm (List.range h.next)
  tame : h.wild = []

variable {h : Heap} {held held' : List ℕ} {b : ℕ}

theorem owns_init : Owns init [] := ⟨.refl _, rfl⟩

theorem Owns.perm (ho : Owns h held) (hp : held.Perm held') : Owns h held' :=
  ⟨(hp.symm.append_left _).trans ho.blocks, ho.tame⟩

theorem Owns.malloc (ho : Owns h held) : Owns h.malloc (h.next :: held) where
  blocks := by
    show (h.freed ++ h.next :: held).Perm (List.range (h.next + 1))
    rw [List.range_succ]
    exact List.perm_middle.trans (List.perm_append_singleton _ _ |>.symm.trans
      ((ho.blocks.append_right [h.next])))
  tame := ho.tame

theorem Owns.free (ho : Owns h (b :: held)) : Owns (h.free b) held where
  blocks := List.perm_middle.symm.trans ho.blocks
  tame := ho.tame

/-- Freeing a pointer that is held, or null. -/
theorem Owns.freePtr {p : Option ℕ} (ho : Owns h (p.toList ++ held)) : Owns (h.freePtr p) held := by
  cases p with
  | none => exact ho
  | some b => exact ho.free

theorem Owns.live (ho : Owns h held) (hb : b ∈ held) : h.Live b := by
  refine ⟨List.mem_range.1 (ho.blocks.subset (List.mem_append_right _ hb)), fun hf => ?_⟩
  have hnodup : (h.freed ++ held).Nodup := ho.blocks.nodup_iff.2 List.nodup_range
  exact List.disjoint_of_nodup_append hnodup hf hb

/-- A block that is held can be used. -/
theorem Owns.use (ho : Owns h held) (hb : b ∈ held) : h.use b = h := if_pos (ho.live hb)

theorem Owns.nodup (ho : Owns h held) : held.Nodup :=
  (List.nodup_append.1 (ho.blocks.nodup_iff.2 List.nodup_range)).2.1

end Heap
