import Mathlib.Tactic

/-!
# Ring buffers

`cells` is the list that `n` cells of a circular array hold from a position on. Storing behind the
last of them appends to the list, and moving the position by one takes its head off.

Blocks go in and out in two pieces, up to the end of the array and from its start: `cells_eq_blocks`
reads a block, and `cells_storeRound` appends one.
-/

namespace RingBuffer

variable {α : Type*} (capacity : ℕ)

/-- The `n` cells from position `head` on. -/
def cells (items : ℕ → α) (head n : ℕ) : List α :=
  (List.range n).map fun i => items ((head + i) % capacity)

@[simp] theorem length_cells (items : ℕ → α) (head n : ℕ) :
    (cells capacity items head n).length = n := by simp [cells]

@[simp] theorem cells_zero (items : ℕ → α) (head : ℕ) : cells capacity items head 0 = [] := rfl

variable {capacity}

/-- Distinct offsets below the capacity are distinct cells. -/
theorem index_ne {head i n : ℕ} (hi : i < n) (hn : n < capacity) :
    (head + i) % capacity ≠ (head + n) % capacity := by
  intro h
  have hmod : i ≡ n [MOD capacity] := Nat.ModEq.add_left_cancel' head h
  have := hmod.eq_of_lt_of_lt (hi.trans hn) hn
  omega

/-- Storing in the first free cell appends. -/
theorem cells_update {items : ℕ → α} {head n : ℕ} (hn : n < capacity) (x : α) :
    cells capacity (Function.update items ((head + n) % capacity) x) head (n + 1) =
      cells capacity items head n ++ [x] := by
  rw [cells, List.range_succ, List.map_append, List.map_singleton, Function.update_self, cells]
  congr 1
  apply List.map_congr_left
  intro i hi
  exact Function.update_of_ne (index_ne (List.mem_range.1 hi) hn) _ _

/-- The list starts at the position, and the next position holds its tail. -/
theorem cells_succ (items : ℕ → α) (head n : ℕ) :
    cells capacity items head (n + 1) =
      items (head % capacity) :: cells capacity items ((head + 1) % capacity) n := by
  rw [cells, List.range_succ_eq_map, List.map_cons, List.map_map, Nat.add_zero, cells]
  congr 1
  apply List.map_congr_left
  intro i _
  simp only [Function.comp_apply, Nat.mod_add_mod]
  congr 2
  omega

/-! ## Blocks -/

/-- The `n` cells from an offset on, without going round. -/
def block (items : ℕ → α) (offset n : ℕ) : List α := (List.range n).map fun i => items (offset + i)

/-- The cells from an offset on overwritten, without going round. -/
def store (items : ℕ → α) (offset : ℕ) (xs : List α) : ℕ → α := fun i =>
  if offset ≤ i then (xs[i - offset]?).getD (items i) else items i

@[simp] theorem length_block (items : ℕ → α) (offset n : ℕ) :
    (block items offset n).length = n := by simp [block]

@[simp] theorem block_zero (items : ℕ → α) (offset : ℕ) : block items offset 0 = [] := rfl

@[simp] theorem store_nil (items : ℕ → α) (offset : ℕ) : store items offset [] = items := by
  funext i
  rw [store]
  split_ifs <;> rfl

theorem store_of_lt {items : ℕ → α} {offset i : ℕ} (h : i < offset) (xs : List α) :
    store items offset xs i = items i := if_neg (by omega)

theorem store_of_ge {items : ℕ → α} {offset i : ℕ} {xs : List α} (h : offset + xs.length ≤ i) :
    store items offset xs i = items i := by
  rw [store, if_pos (by omega), List.getElem?_eq_none (by omega), Option.getD_none]

theorem store_add {items : ℕ → α} {offset j : ℕ} {xs : List α} (h : j < xs.length) :
    store items offset xs (offset + j) = xs[j] := by
  rw [store, if_pos (by omega), Nat.add_sub_cancel_left, List.getElem?_eq_getElem h,
    Option.getD_some]

/-- A block is read up to the end of the array and then from its start. -/
theorem cells_eq_blocks {items : ℕ → α} {head n : ℕ} (hhead : head < capacity)
    (hn : n ≤ capacity) :
    cells capacity items head n = block items head (min (capacity - head) n) ++
      block items 0 (n - min (capacity - head) n) := by
  apply List.ext_getElem
  · simp
  · intro i h _
    rw [length_cells] at h
    simp only [cells, block, List.getElem_append, List.getElem_map, List.getElem_range,
      List.length_map, List.length_range]
    split_ifs with hfirst
    · rw [Nat.mod_eq_of_lt (by omega)]
    · have hround : (head + i) % capacity = head + i - capacity := by
        rw [Nat.mod_eq_sub_mod (by omega), Nat.mod_eq_of_lt (by omega)]
      rw [hround]
      congr 1
      omega

/-- The block behind the last cell, stored up to the end of the array and then from its start. -/
def storeRound (capacity : ℕ) (items : ℕ → α) (pos : ℕ) (xs : List α) : ℕ → α :=
  store (store items pos (xs.take (min (capacity - pos) xs.length))) 0
    (xs.drop (min (capacity - pos) xs.length))

theorem storeRound_apply {items : ℕ → α} {pos j : ℕ} {xs : List α} (hpos : pos < capacity)
    (hlen : xs.length ≤ capacity) (hj : j < xs.length) :
    storeRound capacity items pos xs ((pos + j) % capacity) = xs[j] := by
  rw [storeRound]
  by_cases hround : pos + j < capacity
  · have hfirst : j < (xs.take (min (capacity - pos) xs.length)).length := by
      rw [List.length_take]
      omega
    have hsecond : 0 + (xs.drop (min (capacity - pos) xs.length)).length ≤ pos + j := by
      rw [List.length_drop]
      omega
    rw [Nat.mod_eq_of_lt hround, store_of_ge hsecond, store_add hfirst, List.getElem_take]
  · have hsecond : pos + j - capacity < (xs.drop (min (capacity - pos) xs.length)).length := by
      rw [List.length_drop]
      omega
    have hindex : (pos + j) % capacity = 0 + (pos + j - capacity) := by
      rw [Nat.mod_eq_sub_mod (by omega), Nat.mod_eq_of_lt (by omega), Nat.zero_add]
    rw [hindex, store_add hsecond, List.getElem_drop]
    congr 1
    omega

theorem storeRound_of_ne {items : ℕ → α} {pos p : ℕ} {xs : List α} (hpos : pos < capacity)
    (hp : p < capacity) (hne : ∀ j < xs.length, p ≠ (pos + j) % capacity) :
    storeRound capacity items pos xs p = items p := by
  have hsecond : 0 + (xs.drop (min (capacity - pos) xs.length)).length ≤ p := by
    by_contra hlt
    rw [List.length_drop] at hlt
    refine hne (capacity - pos + p) (by omega) ?_
    rw [show pos + (capacity - pos + p) = capacity + p by omega, Nat.add_mod_left,
      Nat.mod_eq_of_lt hp]
  rw [storeRound, store_of_ge hsecond]
  by_cases hbefore : p < pos
  · exact store_of_lt hbefore _
  · have hfirst : pos + (xs.take (min (capacity - pos) xs.length)).length ≤ p := by
      by_contra hlt
      rw [List.length_take] at hlt
      refine hne (p - pos) (by omega) ?_
      rw [Nat.add_sub_cancel' (not_lt.1 hbefore), Nat.mod_eq_of_lt hp]
    exact store_of_ge hfirst

/-- Storing a block in the free cells appends it. -/
theorem cells_storeRound {items : ℕ → α} {head n : ℕ} {xs : List α} (hcap : 0 < capacity)
    (hroom : n + xs.length ≤ capacity) :
    cells capacity (storeRound capacity items ((head + n) % capacity) xs) head (n + xs.length) =
      cells capacity items head n ++ xs := by
  have hpos : (head + n) % capacity < capacity := Nat.mod_lt _ hcap
  have hat (j : ℕ) : ((head + n) % capacity + j) % capacity = (head + (n + j)) % capacity := by
    rw [Nat.mod_add_mod, Nat.add_assoc]
  apply List.ext_getElem
  · simp
  · intro i h _
    rw [length_cells] at h
    simp only [cells, List.getElem_append, List.getElem_map, List.getElem_range, List.length_map,
      List.length_range]
    split_ifs with hi
    · refine storeRound_of_ne hpos (Nat.mod_lt _ hcap) fun j hj => ?_
      rw [hat]
      exact index_ne (by omega) (by omega)
    · have hstored : i - n < xs.length := by omega
      have hindex : (head + i) % capacity = ((head + n) % capacity + (i - n)) % capacity := by
        rw [hat, Nat.add_sub_cancel' (not_lt.1 hi)]
      rw [hindex]
      exact storeRound_apply hpos (by omega) hstored

/-- The cells behind the first `k` ones. -/
theorem cells_drop (items : ℕ → α) (head n k : ℕ) :
    (cells capacity items head n).drop k =
      cells capacity items ((head + k) % capacity) (n - k) := by
  apply List.ext_getElem
  · simp
  · intro i _ _
    simp only [cells, List.getElem_drop, List.getElem_map, List.getElem_range, Nat.mod_add_mod]
    rw [Nat.add_assoc]

theorem cells_take {items : ℕ → α} {head n k : ℕ} (h : k ≤ n) :
    (cells capacity items head n).take k = cells capacity items head k := by
  rw [cells, cells, ← List.map_take, List.take_range, min_eq_left h]

end RingBuffer
