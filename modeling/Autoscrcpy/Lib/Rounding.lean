import Mathlib.Tactic

/-!
# Rounding to integers

A rounding of an ordered field is a monotone map to the integers that fixes them. Programs round
toward zero (a cast of C) and to the nearest integer, halves to even (`round` of Scheme); that both
keep the order and every interval with integer ends follows from these two properties.
-/

namespace Rounding

variable {K : Type*} [Field K] [LinearOrder K]

/-- A monotone map to the integers that fixes them. -/
structure IsRounding (r : K → ℤ) : Prop where
  mono : Monotone r
  intCast : ∀ n : ℤ, r n = n

namespace IsRounding

variable {r : K → ℤ} {x : K}

theorem le_intCast (hr : IsRounding r) {n : ℤ} (h : x ≤ n) : r x ≤ n :=
  (hr.mono h).trans_eq (hr.intCast n)

theorem intCast_le (hr : IsRounding r) {n : ℤ} (h : (n : K) ≤ x) : n ≤ r x :=
  (hr.intCast n).symm.trans_le (hr.mono h)

end IsRounding

variable [FloorRing K]

/-! ## Toward zero -/

/-- Rounding toward zero. -/
def truncate (x : K) : ℤ := if 0 ≤ x then ⌊x⌋ else ⌈x⌉

theorem truncate_of_nonneg {x : K} (h : 0 ≤ x) : truncate x = ⌊x⌋ := if_pos h

/-- The truncated quotient of integers, of which the first is not negative, is that of `/`. -/
theorem truncate_intCast_div {n : ℤ} (hn : 0 ≤ n) (d : ℕ) : truncate ((n : ℚ) / d) = n / d := by
  rw [truncate_of_nonneg (by positivity), Rat.floor_intCast_div_natCast]

/-! ## Half to even -/

/-- Rounding to the nearest integer, and to the even one of two. -/
def roundHalfEven (x : K) : ℤ :=
  if Int.fract x < 1 / 2 then ⌊x⌋
  else if 1 / 2 < Int.fract x then ⌊x⌋ + 1
  else if ⌊x⌋ % 2 = 0 then ⌊x⌋
  else ⌊x⌋ + 1

theorem floor_le_roundHalfEven (x : K) : ⌊x⌋ ≤ roundHalfEven x := by
  rw [roundHalfEven]
  split_ifs <;> omega

theorem roundHalfEven_le_floor_add_one (x : K) : roundHalfEven x ≤ ⌊x⌋ + 1 := by
  rw [roundHalfEven]
  split_ifs <;> omega

variable [IsStrictOrderedRing K]

theorem isRounding_truncate : IsRounding (truncate : K → ℤ) where
  mono x y h := by
    rw [truncate, truncate]
    split_ifs with hx hy hy
    · exact Int.floor_mono h
    · exact absurd (hx.trans h) hy
    · calc ⌈x⌉ ≤ 0 := Int.ceil_nonpos.2 (not_le.1 hx).le
        _ ≤ ⌊y⌋ := Int.floor_nonneg.2 hy
    · exact Int.ceil_mono h
  intCast n := by rw [truncate, Int.floor_intCast, Int.ceil_intCast, ite_self]

theorem isRounding_roundHalfEven : IsRounding (roundHalfEven : K → ℤ) where
  mono x y h := by
    rcases (Int.floor_mono h).lt_or_eq with hlt | heq
    · calc roundHalfEven x ≤ ⌊x⌋ + 1 := roundHalfEven_le_floor_add_one x
        _ ≤ ⌊y⌋ := hlt
        _ ≤ roundHalfEven y := floor_le_roundHalfEven y
    · -- Between two integers the fractions decide, and they are ordered as the numbers are.
      have hfract : Int.fract x ≤ Int.fract y := by
        rw [Int.fract, Int.fract, heq]
        exact sub_le_sub_right h _
      rw [roundHalfEven, roundHalfEven, heq]
      split_ifs <;> first | omega | (exfalso; order)
  intCast n := by
    have hhalf : (0 : K) < 1 / 2 := by positivity
    rw [roundHalfEven, Int.fract_intCast, if_pos hhalf, Int.floor_intCast]

/-! ## Straight paths -/

/-- Point `i` of `n` on the straight path from `a` to `b`, rounded. -/
def along (r : K → ℤ) (a b n i : ℤ) : ℤ := r (a + (b - a : ℤ) / n * i)

section Path

variable {r : K → ℤ} {a b n i j : ℤ}

omit [IsStrictOrderedRing K] in
theorem along_end (hr : IsRounding r) (hn : n ≠ 0) : along r a b n n = b := by
  have hn' : (n : K) ≠ 0 := by exact_mod_cast hn
  have hend : (a : K) + (b - a : ℤ) / n * n = b := by
    rw [div_mul_cancel₀ _ hn']
    push_cast
    ring
  rw [along, hend, hr.intCast]

theorem along_mono (hr : IsRounding r) (hn : 0 < n) (hab : a ≤ b) (hij : i ≤ j) :
    along r a b n i ≤ along r a b n j := by
  have hn' : (0 : K) < n := by exact_mod_cast hn
  have hij' : (i : K) ≤ j := by exact_mod_cast hij
  have hab' : (0 : K) ≤ (b - a : ℤ) := by exact_mod_cast sub_nonneg.2 hab
  exact hr.mono (by gcongr)

theorem along_anti (hr : IsRounding r) (hn : 0 < n) (hba : b ≤ a) (hij : i ≤ j) :
    along r a b n j ≤ along r a b n i := by
  have hn' : (0 : K) < n := by exact_mod_cast hn
  have hij' : (i : K) ≤ j := by exact_mod_cast hij
  have hba' : ((b - a : ℤ) : K) ≤ 0 := by exact_mod_cast sub_nonpos.2 hba
  have hslope : ((b - a : ℤ) : K) / n ≤ 0 := div_nonpos_of_nonpos_of_nonneg hba' hn'.le
  refine hr.mono ?_
  have hstep := mul_le_mul_of_nonpos_left hij' hslope
  linarith

/-- The path stays between its ends. -/
theorem along_mem_uIcc (hr : IsRounding r) (hn : 0 < n) (hi : 0 ≤ i) (hin : i ≤ n) :
    along r a b n i ∈ Set.uIcc a b := by
  have hstart : along r a b n 0 = a := by
    rw [along, Int.cast_zero, mul_zero, add_zero, hr.intCast]
  have hend := along_end (a := a) (b := b) hr hn.ne'
  rw [Set.mem_uIcc]
  rcases le_total a b with hab | hba
  · have hlow := along_mono hr hn hab hi
    have hhigh := along_mono hr hn hab hin
    rw [hstart] at hlow
    rw [hend] at hhigh
    exact Or.inl ⟨hlow, hhigh⟩
  · have hlow := along_anti hr hn hba hin
    have hhigh := along_anti hr hn hba hi
    rw [hend] at hlow
    rw [hstart] at hhigh
    exact Or.inr ⟨hlow, hhigh⟩

end Path

/-! ## Centring -/

section Centring

variable {total size : ℤ} {ideal : K}

theorem half_bounds (n : ℤ) :
    ((n / 2 : ℤ) : K) ≤ n / 2 ∧ (n : K) / 2 ≤ ((n / 2 : ℤ) : K) + 1 / 2 := by
  have hlow : 2 * (n / 2) ≤ n := by omega
  have hhigh : n ≤ 2 * (n / 2) + 1 := by omega
  have hlow' : (2 : K) * ((n / 2 : ℤ) : K) ≤ n := by exact_mod_cast hlow
  have hhigh' : (n : K) ≤ 2 * ((n / 2 : ℤ) : K) + 1 := by exact_mod_cast hhigh
  constructor <;> linarith

/-- A part whose size is rounded down and whose margin is halved down starts less than one away from
the exact part in the middle. -/
theorem abs_centred_start_lt_one (hle : (size : K) ≤ ideal) (hlt : ideal < size + 1) :
    |(((total - size) / 2 : ℤ) : K) - (total - ideal) / 2| < 1 := by
  obtain ⟨hlow, hhigh⟩ := half_bounds (K := K) (total - size)
  push_cast at hlow hhigh
  rw [abs_lt]
  constructor <;> linarith

/-- And it ends less than one away from it. -/
theorem abs_centred_end_lt_one (hle : (size : K) ≤ ideal) (hlt : ideal < size + 1) :
    |(((total - size) / 2 + size : ℤ) : K) - (total + ideal) / 2| < 1 := by
  obtain ⟨hlow, hhigh⟩ := half_bounds (K := K) (total - size)
  push_cast at hlow hhigh ⊢
  rw [abs_lt]
  constructor <;> linarith

end Centring

end Rounding
