import Mathlib.Tactic

/-!
# Lists of copies

Loops of `memcpy`s are the list of their copies, run in order. A cell that none of them covers keeps
what it holds (`run_of_not_covered`); otherwise it holds what the copies that cover it bring
(`run_eq`).

`run_rows`: rows that are copied into a plane at a pitch of at least their width do not meet.
-/

namespace Copies

variable {ι α : Type*}

/-- Some cells side by side. -/
structure Span where
  offset : ℕ
  length : ℕ
  deriving DecidableEq, Repr

/-- The cells of a span lie below a size. -/
def Span.Inside (s : Span) (size : ℕ) : Prop := s.offset + s.length ≤ size

instance (s : Span) (size : ℕ) : Decidable (s.Inside size) := inferInstanceAs (Decidable (_ ≤ _))

/-- A copy of `length` cells out of one of several sources. -/
structure Copy (ι : Type*) where
  source : ι
  src : ℕ
  dst : ℕ
  length : ℕ
  deriving DecidableEq, Repr

/-- The cells that a copy reads, and the ones that it writes. -/
def Copy.reads (c : Copy ι) : Span := ⟨c.src, c.length⟩

def Copy.writes (c : Copy ι) : Span := ⟨c.dst, c.length⟩

def Copy.Covers (c : Copy ι) (i : ℕ) : Prop := c.dst ≤ i ∧ i < c.dst + c.length

instance (c : Copy ι) (i : ℕ) : Decidable (c.Covers i) := inferInstanceAs (Decidable (_ ∧ _))

/-- What a copy brings to a cell. -/
def Copy.value (sources : ι → ℕ → α) (c : Copy ι) (i : ℕ) : α :=
  sources c.source (c.src + (i - c.dst))

def Copy.run (sources : ι → ℕ → α) (mem : ℕ → α) (c : Copy ι) : ℕ → α := fun i =>
  if c.Covers i then c.value sources i else mem i

/-- The memory after some copies. -/
def run (sources : ι → ℕ → α) (copies : List (Copy ι)) (mem : ℕ → α) : ℕ → α :=
  copies.foldl (Copy.run sources) mem

variable {sources : ι → ℕ → α} {mem : ℕ → α} {copies : List (Copy ι)} {i : ℕ}

theorem run_append (copies' : List (Copy ι)) :
    run sources (copies ++ copies') mem = run sources copies' (run sources copies mem) :=
  List.foldl_append

theorem run_of_not_covered (h : ∀ c ∈ copies, ¬ c.Covers i) : run sources copies mem i = mem i := by
  induction copies generalizing mem with
  | nil => rfl
  | cons c copies ih =>
    rw [List.forall_mem_cons] at h
    rw [run, List.foldl_cons]
    exact (ih h.2).trans (if_neg h.1)

theorem run_eq {x : α} (hcovered : ∃ c ∈ copies, c.Covers i)
    (hvalue : ∀ c ∈ copies, c.Covers i → c.value sources i = x) :
    run sources copies mem i = x := by
  induction copies generalizing mem with
  | nil => simp at hcovered
  | cons c copies ih =>
    rw [List.forall_mem_cons] at hvalue
    rw [run, List.foldl_cons]
    by_cases hlater : ∃ c ∈ copies, c.Covers i
    · exact ih hlater hvalue.2
    · have hfirst : c.Covers i := by
        obtain ⟨c', hc', hcovers⟩ := hcovered
        obtain rfl | hc' := List.mem_cons.1 hc'
        · exact hcovers
        · exact absurd ⟨c', hc', hcovers⟩ hlater
      calc run sources copies (Copy.run sources mem c) i
          = Copy.run sources mem c i :=
            run_of_not_covered fun c' hc' hcovers => hlater ⟨c', hc', hcovers⟩
        _ = c.value sources i := if_pos hfirst
        _ = x := hvalue.1 hfirst

/-! ## Rows -/

/-- A cell of a plane is in one row and one column. -/
theorem row_unique {pitch row col row' col' : ℕ} (hcol : col < pitch) (hcol' : col' < pitch)
    (h : row * pitch + col = row' * pitch + col') : row = row' ∧ col = col' := by
  have hpitch : 0 < pitch := Nat.zero_lt_of_lt hcol
  have hat : col + pitch * row = row' * pitch + col' := by
    rw [← h, Nat.mul_comm, Nat.add_comm]
  have hat' : col' + pitch * row' = row' * pitch + col' := by
    rw [Nat.mul_comm, Nat.add_comm]
  obtain ⟨hdiv, hmod⟩ := (Nat.div_mod_unique hpitch).2 ⟨hat, hcol⟩
  obtain ⟨hdiv', hmod'⟩ := (Nat.div_mod_unique hpitch).2 ⟨hat', hcol'⟩
  exact ⟨hdiv.symm.trans hdiv', hmod.symm.trans hmod'⟩

theorem row_end_le {pitch row n : ℕ} (hrow : row < n) : row * pitch + pitch ≤ n * pitch := by
  rw [← Nat.succ_mul]
  exact Nat.mul_le_mul_right pitch hrow

theorem row_lt {pitch row col n : ℕ} (hrow : row < n) (hcol : col < pitch) :
    row * pitch + col < n * pitch :=
  (Nat.add_lt_add_left hcol _).trans_le (row_end_le hrow)

theorem exists_row {pitch n : ℕ} (h : i < n * pitch) :
    ∃ row < n, ∃ col < pitch, i = row * pitch + col :=
  ⟨i / pitch, Nat.div_lt_of_lt_mul (by rwa [Nat.mul_comm]), i % pitch,
    Nat.mod_lt _ (Nat.pos_of_mul_pos_left (Nat.zero_lt_of_lt h)), (Nat.div_add_mod' i pitch).symm⟩

/-- Rows of a width, copied to a base on at a pitch. -/
def rows (source : ι) (src : ℕ → ℕ) (base pitch width n : ℕ) : List (Copy ι) :=
  (List.range n).map fun row => ⟨source, src row, base + row * pitch, width⟩

theorem rows_covers {source : ι} {src : ℕ → ℕ} {base pitch width n : ℕ} {c : Copy ι}
    (hc : c ∈ rows source src base pitch width n) (hcovers : c.Covers i) :
    ∃ row < n, ∃ col < width, i = base + row * pitch + col ∧ c.src = src row ∧
      c.source = source ∧ c.dst = base + row * pitch := by
  obtain ⟨row, hrow, rfl⟩ := List.mem_map.1 hc
  obtain ⟨hle, hlt⟩ := hcovers
  dsimp only at hle hlt
  exact ⟨row, List.mem_range.1 hrow, i - (base + row * pitch), by omega, by omega, rfl, rfl, rfl⟩

/-- Every cell of a row holds what its own copy brings. -/
theorem run_rows (source : ι) (src : ℕ → ℕ) {base pitch width n row col : ℕ} (hw : width ≤ pitch)
    (hrow : row < n) (hcol : col < width) :
    run sources (rows source src base pitch width n) mem (base + row * pitch + col) =
      sources source (src row + col) := by
  refine run_eq ⟨⟨source, src row, base + row * pitch, width⟩, ?_, ?_⟩ ?_
  · exact List.mem_map.2 ⟨row, List.mem_range.2 hrow, rfl⟩
  · exact ⟨Nat.le_add_right _ _, Nat.add_lt_add_left hcol _⟩
  · intro c hc hcovers
    obtain ⟨row', -, col', hcol', hat, hsrc, hsource, hdst⟩ := rows_covers hc hcovers
    obtain ⟨rfl, rfl⟩ := row_unique (hcol.trans_le hw) (hcol'.trans_le hw)
      (Nat.add_left_cancel (by rw [← Nat.add_assoc, ← Nat.add_assoc]; exact hat))
    rw [Copy.value, hsource, hsrc, hdst, Nat.add_sub_cancel_left]

/-- The rows stay below the cell behind the last one. -/
theorem rows_not_covered {source : ι} {src : ℕ → ℕ} {base pitch width n : ℕ} (hw : width ≤ pitch)
    (hi : i < base ∨ base + n * pitch ≤ i) :
    ∀ c ∈ rows source src base pitch width n, ¬ c.Covers i := by
  intro c hc hcovers
  obtain ⟨row, hrow, col, hcol, rfl, -⟩ := rows_covers hc hcovers
  have := row_lt hrow (hcol.trans_le hw)
  omega

end Copies
