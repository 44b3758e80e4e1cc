import Autoscrcpy.Lib.Copies

/-!
# Decoded frames

`frame_to_nv12` packs the three planes of a decoded frame into one buffer: the luma rows without
their padding, and behind them rows of chroma pairs.

`nv12Data_luma` and `nv12Data_chroma` say what the buffer holds. A row of chroma has as many bytes
as one of luma, but only whole pairs are written: in an odd width the last byte of each is left as
`malloc` returned it (`nv12Data_last`).
-/

namespace Autoscrcpy

open Copies

inductive Plane where
  | y | u | v
  deriving DecidableEq, Repr

/-- What `frame_to_nv12` reads of an `AVFrame`: its size, and of each plane the memory from
`data[i]` on and `linesize[i]`. -/
structure AVFrame where
  width : Int32
  height : Int32
  data : Plane → ℕ → UInt8
  linesize : Plane → Int32

/-- `video_frame_t`. `data` is a block of `size` bytes, `none` where nothing was written. -/
structure VideoFrame where
  data : ℕ → Option UInt8
  size : UInt32
  width : UInt32
  height : UInt32
  format : Int32

/-- The values of a loop counter below a bound. -/
def counts (n : UInt32) : List UInt32 := (List.range n.toNat).map UInt32.ofNat

/-- The offset of a row of a plane: the stride is converted to unsigned. -/
def AVFrame.rowOffset (src : AVFrame) (plane : Plane) (row : UInt32) : UInt32 :=
  row * (src.linesize plane).toUInt32

/-- "Copy Y plane with stride handling". -/
def yCopies (src : AVFrame) (w h : UInt32) : List (Copy Plane) :=
  (counts h).map fun row =>
    { source := .y
      src := (src.rowOffset .y row).toNat
      dst := (row * w).toNat
      length := w.toNat }

/-- "Interleave U and V planes into NV12". The stride of U serves for V too. -/
def uvCopies (src : AVFrame) (w h : UInt32) : List (Copy Plane) :=
  (counts (h / 2)).flatMap fun row =>
    (counts (w / 2)).flatMap fun col =>
      [ { source := .u
          src := (src.rowOffset .u row + col).toNat
          dst := (w * h).toNat + (row * w + col * 2 + 0).toNat
          length := 1 },
        { source := .v
          src := (src.rowOffset .u row + col).toNat
          dst := (w * h).toNat + (row * w + col * 2 + 1).toNat
          length := 1 } ]

/-- The buffer when both loops are through. -/
def nv12Data (src : AVFrame) (w h : UInt32) : ℕ → Option UInt8 :=
  run (fun plane i => some (src.data plane i)) (yCopies src w h ++ uvCopies src w h) fun _ => none

/-- `frame_to_nv12`; nothing where `malloc` fails. -/
def frameToNv12 (mallocOk : Bool) (src : AVFrame) : Option VideoFrame :=
  let w := src.width.toUInt32
  let h := src.height.toUInt32
  if mallocOk then
    some
      { data := nv12Data src w h
        size := w * h + w * (h / 2)
        width := w
        height := h
        format := 0 }
  else none

/-! ## Offsets -/

variable {src : AVFrame} {w h : UInt32}

theorem toNat_half (n : UInt32) : (n / 2).toNat = n.toNat / 2 := by
  rw [UInt32.toNat_div]
  rfl

/-- The size fits into a word, and with it every offset into the buffer. -/
def SizeFits (w h : UInt32) : Prop := w.toNat * h.toNat + w.toNat * (h.toNat / 2) < 2 ^ 32

theorem toNat_area (hfits : SizeFits w h) : (w * h).toNat = w.toNat * h.toNat := by
  rw [UInt32.toNat_mul]
  exact Nat.mod_eq_of_lt (by rw [SizeFits] at hfits; omega)

theorem toNat_nv12Size (hfits : SizeFits w h) :
    (w * h + w * (h / 2)).toNat = w.toNat * h.toNat + w.toNat * (h.toNat / 2) := by
  have hchroma : w.toNat * (h.toNat / 2) < 2 ^ 32 := by rw [SizeFits] at hfits; omega
  rw [UInt32.toNat_add, toNat_area hfits, UInt32.toNat_mul, toNat_half, Nat.mod_eq_of_lt hchroma]
  exact Nat.mod_eq_of_lt hfits

/-- A counter times a stride, where the product fits. -/
theorem toNat_counter_mul {row : ℕ} {stride : UInt32} (hrow : row < 2 ^ 32)
    (hfits : row * stride.toNat < 2 ^ 32) :
    (UInt32.ofNat row * stride).toNat = row * stride.toNat := by
  rw [UInt32.toNat_mul, UInt32.toNat_ofNat_of_lt' hrow]
  exact Nat.mod_eq_of_lt hfits

theorem yCopies_eq (hfits : SizeFits w h) :
    yCopies src w h =
      rows .y (fun row => (src.rowOffset .y (UInt32.ofNat row)).toNat) 0 w.toNat w.toNat
        h.toNat := by
  rw [yCopies, counts, List.map_map, rows]
  apply List.map_congr_left
  intro row hrow
  have hlt := List.mem_range.1 hrow
  have hle : row * w.toNat ≤ w.toNat * h.toNat := by
    rw [Nat.mul_comm w.toNat]
    exact Nat.mul_le_mul_right _ hlt.le
  rw [SizeFits] at hfits
  rw [Function.comp_apply, toNat_counter_mul (hlt.trans h.toNat_lt) (by omega), Nat.zero_add]

/-- Where a chroma sample comes from. -/
def AVFrame.chromaOffset (src : AVFrame) (row col : ℕ) : ℕ :=
  (src.rowOffset .u (UInt32.ofNat row) + UInt32.ofNat col).toNat

/-- The index of a chroma byte, behind the luma plane. -/
theorem toNat_chromaIndex (hfits : SizeFits w h) {row col : ℕ} (hrow : row < h.toNat / 2)
    (hcol : col < w.toNat / 2) {k : UInt32} (hk : k.toNat < 2) :
    (UInt32.ofNat row * w + UInt32.ofNat col * 2 + k).toNat =
      row * w.toNat + (2 * col + k.toNat) := by
  have hlt : row * w.toNat + (2 * col + k.toNat) < h.toNat / 2 * w.toNat :=
    row_lt hrow (by omega)
  rw [SizeFits, Nat.mul_comm w.toNat (h.toNat / 2)] at hfits
  have hrow' : row < 2 ^ 32 := by have := h.toNat_lt; omega
  have hcol' : col < 2 ^ 32 := by have := w.toNat_lt; omega
  have hdouble : (UInt32.ofNat col * 2).toNat = col * 2 :=
    toNat_counter_mul hcol' (by change col * 2 < _; omega)
  rw [UInt32.toNat_add, UInt32.toNat_add, toNat_counter_mul hrow' (by omega), hdouble]
  omega

theorem mem_uvCopies (hfits : SizeFits w h) {c : Copy Plane} :
    c ∈ uvCopies src w h ↔
      ∃ row < h.toNat / 2, ∃ col < w.toNat / 2,
        c = ⟨.u, src.chromaOffset row col, w.toNat * h.toNat + (row * w.toNat + (2 * col + 0)), 1⟩ ∨
        c = ⟨.v, src.chromaOffset row col, w.toNat * h.toNat + (row * w.toNat + (2 * col + 1)),
          1⟩ := by
  simp only [uvCopies, counts, List.mem_flatMap, List.mem_map, List.mem_range, toNat_half,
    exists_exists_and_eq_and, List.mem_cons, List.not_mem_nil, or_false, toNat_area hfits,
    AVFrame.chromaOffset]
  refine exists_congr fun row => and_congr_right fun hrow => exists_congr fun col =>
    and_congr_right fun hcol => ?_
  rw [toNat_chromaIndex hfits hrow hcol (k := 0) (by decide),
    toNat_chromaIndex hfits hrow hcol (k := 1) (by decide)]
  rfl

/-- The copy that brings a byte of the pairs, by the row and the column of the byte. -/
def chromaCopy (src : AVFrame) (w h : UInt32) (row col : ℕ) : Copy Plane where
  source := if col % 2 = 0 then .u else .v
  src := src.chromaOffset row (col / 2)
  dst := w.toNat * h.toNat + (row * w.toNat + col)
  length := 1

/-- The interleaving loop goes over the bytes of the pairs. -/
theorem mem_uvCopies_iff (hfits : SizeFits w h) {c : Copy Plane} :
    c ∈ uvCopies src w h ↔
      ∃ row < h.toNat / 2, ∃ col < 2 * (w.toNat / 2), c = chromaCopy src w h row col := by
  rw [mem_uvCopies hfits]
  refine exists_congr fun row => and_congr_right fun _ => ?_
  constructor
  · rintro ⟨col, hcol, rfl | rfl⟩
    · refine ⟨2 * col + 0, by omega, ?_⟩
      rw [chromaCopy, if_pos (by omega), show (2 * col + 0) / 2 = col by omega]
    · refine ⟨2 * col + 1, by omega, ?_⟩
      rw [chromaCopy, if_neg (by omega), show (2 * col + 1) / 2 = col by omega]
  · rintro ⟨col, hcol, rfl⟩
    refine ⟨col / 2, by omega, ?_⟩
    obtain heven | hodd := Nat.mod_two_eq_zero_or_one col
    · left
      rw [chromaCopy, if_pos heven, show 2 * (col / 2) + 0 = col by omega]
    · right
      rw [chromaCopy, if_neg (by omega), show 2 * (col / 2) + 1 = col by omega]

/-! ## What the buffer holds -/

/-- The interleaving stays behind the luma plane. -/
theorem uvCopies_not_covered (hfits : SizeFits w h) {i : ℕ} (hi : i < w.toNat * h.toNat) :
    ∀ c ∈ uvCopies src w h, ¬ c.Covers i := by
  intro c hc hcovers
  obtain ⟨row, -, col, -, rfl⟩ := (mem_uvCopies_iff hfits).1 hc
  exact absurd (hcovers.1.trans_lt hi) (Nat.not_lt.2 (Nat.le_add_right _ _))

theorem nv12Data_luma (hfits : SizeFits w h) {row col : ℕ} (hrow : row < h.toNat)
    (hcol : col < w.toNat) :
    nv12Data src w h (row * w.toNat + col) =
      some (src.data .y ((src.rowOffset .y (UInt32.ofNat row)).toNat + col)) := by
  have hlt : row * w.toNat + col < w.toNat * h.toNat := by
    rw [Nat.mul_comm w.toNat]
    exact row_lt hrow hcol
  rw [nv12Data, run_append, run_of_not_covered (uvCopies_not_covered hfits hlt), yCopies_eq hfits,
    ← Nat.zero_add (row * w.toNat)]
  exact run_rows _ _ le_rfl hrow hcol

/-- A byte of a chroma row is written by its own copy only, and there is one if it is of a pair. -/
theorem uvCopies_covers (hfits : SizeFits w h) {row col : ℕ} (hcol : col < w.toNat) {c : Copy Plane}
    (hc : c ∈ uvCopies src w h)
    (hcovers : c.Covers (w.toNat * h.toNat + (row * w.toNat + col))) :
    col < 2 * (w.toNat / 2) ∧ c = chromaCopy src w h row col := by
  obtain ⟨row', -, col', hcol', rfl⟩ := (mem_uvCopies_iff hfits).1 hc
  obtain ⟨hle, hlt⟩ := hcovers
  dsimp only [chromaCopy] at hle hlt
  obtain ⟨rfl, rfl⟩ := row_unique hcol (by omega : col' < w.toNat)
    (by omega : row * w.toNat + col = row' * w.toNat + col')
  exact ⟨hcol', rfl⟩

/-- A byte of a pair, `u` in front of `v`. -/
theorem nv12Data_chroma (hfits : SizeFits w h) {row col : ℕ} (hrow : row < h.toNat / 2)
    (hcol : col < 2 * (w.toNat / 2)) :
    nv12Data src w h (w.toNat * h.toNat + (row * w.toNat + col)) =
      some (src.data (if col % 2 = 0 then .u else .v) (src.chromaOffset row (col / 2))) := by
  rw [nv12Data, run_append]
  apply run_eq
  · refine ⟨chromaCopy src w h row col, (mem_uvCopies_iff hfits).2 ⟨row, hrow, col, hcol, rfl⟩, ?_⟩
    exact ⟨le_rfl, Nat.lt_succ_self _⟩
  · intro c hc hcovers
    obtain ⟨-, rfl⟩ := uvCopies_covers hfits (by omega) hc hcovers
    rw [Copy.value, chromaCopy, Nat.sub_self, Nat.add_zero]

/-- What is left of a chroma row behind its pairs is not written. -/
theorem nv12Data_last (hfits : SizeFits w h) {row col : ℕ} (hcol : col < w.toNat)
    (hlast : 2 * (w.toNat / 2) ≤ col) :
    nv12Data src w h (w.toNat * h.toNat + (row * w.toNat + col)) = none := by
  rw [nv12Data, run_append, run_of_not_covered, yCopies_eq hfits, run_of_not_covered]
  · refine rows_not_covered le_rfl (Or.inr ?_)
    rw [Nat.zero_add, Nat.mul_comm h.toNat]
    exact Nat.le_add_right _ _
  · intro c hc hcovers
    obtain ⟨hpair, -⟩ := uvCopies_covers hfits hcol hc hcovers
    exact absurd hpair (Nat.not_lt.2 hlast)

/-- Both loops write into the block only. -/
theorem nv12Copies_inside (hfits : SizeFits w h) :
    ∀ c ∈ yCopies src w h ++ uvCopies src w h, c.writes.Inside (w * h + w * (h / 2)).toNat := by
  rw [toNat_nv12Size hfits, Nat.mul_comm _ (h.toNat / 2)]
  intro c hc
  obtain hc | hc := List.mem_append.1 hc
  · rw [yCopies_eq hfits] at hc
    obtain ⟨row, hrow, rfl⟩ := List.mem_map.1 hc
    have hle : row * w.toNat + w.toNat ≤ h.toNat * w.toNat := row_end_le (List.mem_range.1 hrow)
    rw [Nat.mul_comm h.toNat] at hle
    simp only [Copy.writes, Span.Inside]
    omega
  · obtain ⟨row, hrow, col, hcol, rfl⟩ := (mem_uvCopies_iff hfits).1 hc
    have := row_lt hrow (by omega : col < w.toNat)
    simp only [chromaCopy, Copy.writes, Span.Inside]
    omega

/-- The bytes of the block are all written exactly if a chroma row is pairs only, or there is no
such row. -/
theorem nv12Data_isSome_iff (hfits : SizeFits w h) :
    (∀ i < (w * h + w * (h / 2)).toNat, (nv12Data src w h i).isSome) ↔
      w.toNat % 2 = 0 ∨ h.toNat < 2 := by
  rw [toNat_nv12Size hfits, Nat.mul_comm _ (h.toNat / 2)]
  constructor
  · intro hall
    by_contra hne
    obtain ⟨hodd, htwo⟩ := not_or.1 hne
    have hlt := row_lt (by omega : 0 < h.toNat / 2) (by omega : w.toNat - 1 < w.toNat)
    have hsome := hall (w.toNat * h.toNat + (0 * w.toNat + (w.toNat - 1))) (by omega)
    rw [nv12Data_last hfits (by omega) (by omega)] at hsome
    cases hsome
  · intro heven i hi
    obtain hluma | hchroma := Nat.lt_or_ge i (w.toNat * h.toNat)
    · obtain ⟨row, hrow, col, hcol, rfl⟩ := exists_row (by rwa [Nat.mul_comm] at hluma)
      rw [nv12Data_luma hfits hrow hcol]
      rfl
    · obtain ⟨row, hrow, col, hcol, hat⟩ :=
        exists_row (by omega : i - w.toNat * h.toNat < h.toNat / 2 * w.toNat)
      rw [← Nat.add_sub_cancel' hchroma, hat, nv12Data_chroma hfits hrow (by omega)]
      rfl

end Autoscrcpy
