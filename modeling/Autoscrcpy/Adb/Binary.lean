import Mathlib.Tactic

/-!
# Integers in buffers

The accessors of `binary.h`: big-endian and little-endian integers at the start of a buffer, and
that each reader undoes its writer. A byte that is not in the buffer reads as `0`; the callers only
read buffers that are long enough.
-/

namespace Autoscrcpy

def write16be (value : UInt16) : List UInt8 := [(value >>> 8).toUInt8, value.toUInt8]

def write32be (value : UInt32) : List UInt8 :=
  [(value >>> 24).toUInt8, (value >>> 16).toUInt8, (value >>> 8).toUInt8, value.toUInt8]

def write64be (value : UInt64) : List UInt8 :=
  write32be (value >>> 32).toUInt32 ++ write32be value.toUInt32

def read16be (buf : List UInt8) : UInt16 :=
  ((buf.getD 0 0).toUInt16 <<< 8) ||| (buf.getD 1 0).toUInt16

def read32be (buf : List UInt8) : UInt32 :=
  ((buf.getD 0 0).toUInt32 <<< 24) ||| ((buf.getD 1 0).toUInt32 <<< 16) |||
    ((buf.getD 2 0).toUInt32 <<< 8) ||| (buf.getD 3 0).toUInt32

def read64be (buf : List UInt8) : UInt64 :=
  ((read32be buf).toUInt64 <<< 32) ||| (read32be (buf.drop 4)).toUInt64

def read32le (buf : List UInt8) : UInt32 :=
  (buf.getD 0 0).toUInt32 ||| ((buf.getD 1 0).toUInt32 <<< 8) |||
    ((buf.getD 2 0).toUInt32 <<< 16) ||| ((buf.getD 3 0).toUInt32 <<< 24)

def write32le (value : UInt32) : List UInt8 :=
  [value.toUInt8, (value >>> 8).toUInt8, (value >>> 16).toUInt8, (value >>> 24).toUInt8]

@[simp] theorem length_write16be (value : UInt16) : (write16be value).length = 2 := rfl

@[simp] theorem length_write32be (value : UInt32) : (write32be value).length = 4 := rfl

@[simp] theorem length_write64be (value : UInt64) : (write64be value).length = 8 := rfl

@[simp] theorem length_write32le (value : UInt32) : (write32le value).length = 4 := rfl

/-! ## Readers undo writers -/

/-- Some bits of a word that are moved to the bottom and back are bits of the word. -/
theorem getLsbD_chunk {w : ℕ} (v : BitVec w) (c k i : ℕ) :
    (((v >>> k).setWidth c).setWidth w <<< k).getLsbD i =
      (decide (k ≤ i ∧ i < k + c) && v.getLsbD i) := by
  simp only [BitVec.getLsbD_shiftLeft, BitVec.getLsbD_setWidth, BitVec.getLsbD_ushiftRight]
  by_cases h : k ≤ i ∧ i < k + c
  · have hindex : k + (i - k) = i := by omega
    have hchunk : i - k < c := by omega
    rw [hindex, decide_eq_true h, decide_eq_true hchunk, decide_eq_false (show ¬ i < k by omega)]
    cases hv : v.getLsbD i with
    | false => simp
    | true =>
      have hw := BitVec.lt_of_getLsbD hv
      simp [hw, show i - k < w by omega]
  · by_cases hk : i < k
    · simp [hk, h]
    · simp [h, show ¬ i - k < c by omega]

/-- The bits at the bottom of a word. -/
theorem getLsbD_low {w : ℕ} (v : BitVec w) (c i : ℕ) :
    ((v.setWidth c).setWidth w).getLsbD i = (decide (i < c) && v.getLsbD i) := by
  have h := getLsbD_chunk v c 0 i
  rw [BitVec.ushiftRight_zero, BitVec.shiftLeft_zero, Nat.zero_add] at h
  simpa only [Nat.zero_le, true_and] using h

@[simp] theorem read16be_write16be (value : UInt16) (rest : List UInt8) :
    read16be (write16be value ++ rest) = value := by
  apply UInt16.toBitVec_inj.1
  apply BitVec.eq_of_getLsbD_eq
  intro i hi
  change (((value.toBitVec >>> 8).setWidth 8).setWidth 16 <<< 8 |||
    (value.toBitVec.setWidth 8).setWidth 16).getLsbD i = _
  rw [BitVec.getLsbD_or, getLsbD_chunk, getLsbD_low]
  cases value.toBitVec.getLsbD i with
  | false => simp
  | true => simp; omega

@[simp] theorem read32be_write32be (value : UInt32) (rest : List UInt8) :
    read32be (write32be value ++ rest) = value := by
  apply UInt32.toBitVec_inj.1
  apply BitVec.eq_of_getLsbD_eq
  intro i hi
  change (((value.toBitVec >>> 24).setWidth 8).setWidth 32 <<< 24 |||
    ((value.toBitVec >>> 16).setWidth 8).setWidth 32 <<< 16 |||
    ((value.toBitVec >>> 8).setWidth 8).setWidth 32 <<< 8 |||
    (value.toBitVec.setWidth 8).setWidth 32).getLsbD i = _
  simp only [BitVec.getLsbD_or, getLsbD_chunk, getLsbD_low]
  cases value.toBitVec.getLsbD i with
  | false => simp
  | true => simp; omega

@[simp] theorem read32le_write32le (value : UInt32) (rest : List UInt8) :
    read32le (write32le value ++ rest) = value := by
  apply UInt32.toBitVec_inj.1
  apply BitVec.eq_of_getLsbD_eq
  intro i hi
  change ((value.toBitVec.setWidth 8).setWidth 32 |||
    ((value.toBitVec >>> 8).setWidth 8).setWidth 32 <<< 8 |||
    ((value.toBitVec >>> 16).setWidth 8).setWidth 32 <<< 16 |||
    ((value.toBitVec >>> 24).setWidth 8).setWidth 32 <<< 24).getLsbD i = _
  simp only [BitVec.getLsbD_or, getLsbD_chunk, getLsbD_low]
  cases value.toBitVec.getLsbD i with
  | false => simp
  | true => simp; omega

theorem join_halves (value : UInt64) :
    ((value >>> 32).toUInt32.toUInt64 <<< 32) ||| value.toUInt32.toUInt64 = value := by
  apply UInt64.toBitVec_inj.1
  apply BitVec.eq_of_getLsbD_eq
  intro i hi
  change (((value.toBitVec >>> 32).setWidth 32).setWidth 64 <<< 32 |||
    (value.toBitVec.setWidth 32).setWidth 64).getLsbD i = _
  rw [BitVec.getLsbD_or, getLsbD_chunk, getLsbD_low]
  cases value.toBitVec.getLsbD i with
  | false => simp
  | true => simp; omega

@[simp] theorem read64be_write64be (value : UInt64) (rest : List UInt8) :
    read64be (write64be value ++ rest) = value := by
  have low : (write64be value ++ rest).drop 4 = write32be value.toUInt32 ++ rest := rfl
  rw [read64be, low, write64be, List.append_assoc, read32be_write32be, read32be_write32be,
    join_halves]

end Autoscrcpy
