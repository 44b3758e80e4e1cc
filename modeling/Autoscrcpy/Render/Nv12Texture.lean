import Autoscrcpy.Decode.FrameToNv12

/-!
# The NV12 texture

`update_nv12_texture` copies a packed frame into the mapped staging texture, whose rows lie
`RowPitch` bytes apart, and lets D3D11 copy that to the texture of the shader.

`update_shows`: through `frame_to_nv12` and `update_nv12_texture` every pixel of a frame of even
size keeps its luma and its chroma, whatever the strides of the planes and the pitch.
-/

namespace Autoscrcpy

open Copies

/-- `D3D11_MAPPED_SUBRESOURCE`. -/
structure MappedSubresource where
  pData : ℕ → Option UInt8
  rowPitch : UInt32

/-- An NV12 texture through its two views: the luma by row and column, and one pair of chroma for
two rows and two columns. -/
structure Nv12Texture where
  luma : ℕ → ℕ → Option UInt8
  chroma : ℕ → ℕ → Option UInt8 × Option UInt8

/-- The layout of a mapped NV12 texture: the rows of luma, and behind them those of chroma. -/
def MappedSubresource.texture (mapped : MappedSubresource) (height : ℕ) : Nv12Texture where
  luma row col := mapped.pData (row * mapped.rowPitch.toNat + col)
  chroma row col :=
    let uv := mapped.rowPitch.toNat * height
    (mapped.pData (uv + row * mapped.rowPitch.toNat + 2 * col),
      mapped.pData (uv + row * mapped.rowPitch.toNat + (2 * col + 1)))

/-- "Copy Y plane". -/
def yRowCopies (rowPitch width height : UInt32) : List (Copy Unit) :=
  (counts height).map fun row =>
    { source := ()
      src := (row * width).toNat
      dst := (row * rowPitch).toNat
      length := width.toNat }

/-- "Copy UV plane (starts after Y plane in NV12, height/2 rows, width bytes each)". -/
def uvRowCopies (rowPitch width height : UInt32) : List (Copy Unit) :=
  (counts (height / 2)).map fun row =>
    { source := ()
      src := (width * height).toNat + (row * width).toNat
      dst := (rowPitch * height).toNat + (row * rowPitch).toNat
      length := width.toNat }

/-- The copies of `update_nv12_texture`. -/
def nv12RowCopies (rowPitch width height : UInt32) : List (Copy Unit) :=
  yRowCopies rowPitch width height ++ uvRowCopies rowPitch width height

/-- What `update_nv12_texture` returns, leaves in the texture and reads of the frame. -/
structure TextureUpdate where
  ok : Bool
  texture : Nv12Texture
  reads : List Span

/-- `update_nv12_texture`, with what `Map` gives. -/
def updateNv12Texture (map : Option MappedSubresource) (texture : Nv12Texture)
    (nv12Data : ℕ → Option UInt8) (width height : UInt32) : TextureUpdate :=
  match map with
  | none => { ok := false, texture, reads := [] }
  | some mapped =>
      let copies := nv12RowCopies mapped.rowPitch width height
      -- `Unmap` and `CopyResource` hand on what the staging texture holds.
      let mapped := { mapped with pData := run (fun _ => nv12Data) copies mapped.pData }
      { ok := true
        texture := mapped.texture height.toNat
        reads := copies.map Copy.reads }

/-! ## The copies -/

variable {width height rowPitch : UInt32}

theorem toNat_row {row : ℕ} {stride n : UInt32} (hrow : row < n.toNat)
    (hfits : stride.toNat * n.toNat < 2 ^ 32) :
    (UInt32.ofNat row * stride).toNat = row * stride.toNat := by
  refine toNat_counter_mul (hrow.trans n.toNat_lt) ?_
  calc row * stride.toNat ≤ n.toNat * stride.toNat := Nat.mul_le_mul_right _ hrow.le
    _ = stride.toNat * n.toNat := Nat.mul_comm _ _
    _ < 2 ^ 32 := hfits

theorem area_lt (hfits : SizeFits width height) : width.toNat * height.toNat < 2 ^ 32 := by
  rw [SizeFits] at hfits
  omega

theorem yRowCopies_eq (hfits : SizeFits width height)
    (hpitch : rowPitch.toNat * height.toNat < 2 ^ 32) :
    yRowCopies rowPitch width height =
      rows () (fun row => row * width.toNat) 0 rowPitch.toNat width.toNat height.toNat := by
  rw [yRowCopies, counts, List.map_map, rows]
  apply List.map_congr_left
  intro row hrow
  have hlt := List.mem_range.1 hrow
  rw [Function.comp_apply, toNat_row hlt (area_lt hfits), toNat_row hlt hpitch, Nat.zero_add]

theorem uvRowCopies_eq (hfits : SizeFits width height)
    (hpitch : rowPitch.toNat * height.toNat < 2 ^ 32) :
    uvRowCopies rowPitch width height =
      rows () (fun row => width.toNat * height.toNat + row * width.toNat)
        (rowPitch.toNat * height.toNat) rowPitch.toNat width.toNat (height.toNat / 2) := by
  rw [uvRowCopies, counts, List.map_map, toNat_half, rows]
  apply List.map_congr_left
  intro row hrow
  have hlt : row < height.toNat := (List.mem_range.1 hrow).trans_le (Nat.div_le_self _ _)
  rw [Function.comp_apply, toNat_row hlt (area_lt hfits), toNat_row hlt hpitch, toNat_area hfits,
    UInt32.toNat_mul, Nat.mod_eq_of_lt hpitch]

/-! ## What the texture shows -/

section Update

variable {mapped : MappedSubresource} {texture : Nv12Texture} {nv12Data : ℕ → Option UInt8}
  {row col : ℕ}

theorem update_luma (hfits : SizeFits width height)
    (hoffsets : mapped.rowPitch.toNat * height.toNat < 2 ^ 32)
    (hpitch : width.toNat ≤ mapped.rowPitch.toNat) (hrow : row < height.toNat)
    (hcol : col < width.toNat) :
    (updateNv12Texture (some mapped) texture nv12Data width height).texture.luma row col =
      nv12Data (row * width.toNat + col) := by
  have hfront : row * mapped.rowPitch.toNat + col < mapped.rowPitch.toNat * height.toNat := by
    rw [Nat.mul_comm mapped.rowPitch.toNat]
    exact row_lt hrow (hcol.trans_le hpitch)
  simp only [updateNv12Texture, MappedSubresource.texture, nv12RowCopies]
  rw [run_append, uvRowCopies_eq hfits hoffsets,
    run_of_not_covered (rows_not_covered hpitch (Or.inl hfront)), yRowCopies_eq hfits hoffsets,
    ← Nat.zero_add (row * mapped.rowPitch.toNat)]
  exact run_rows _ _ hpitch hrow hcol

/-- A byte of the chroma rows. -/
theorem update_chroma_byte (hfits : SizeFits width height)
    (hoffsets : mapped.rowPitch.toNat * height.toNat < 2 ^ 32)
    (hpitch : width.toNat ≤ mapped.rowPitch.toNat) (hrow : row < height.toNat / 2)
    (hcol : col < width.toNat) :
    run (fun _ => nv12Data) (nv12RowCopies mapped.rowPitch width height) mapped.pData
        (mapped.rowPitch.toNat * height.toNat + row * mapped.rowPitch.toNat + col) =
      nv12Data (width.toNat * height.toNat + (row * width.toNat + col)) := by
  rw [nv12RowCopies, run_append, uvRowCopies_eq hfits hoffsets, run_rows _ _ hpitch hrow hcol,
    Nat.add_assoc]

theorem update_chroma (hfits : SizeFits width height)
    (hoffsets : mapped.rowPitch.toNat * height.toNat < 2 ^ 32)
    (hpitch : width.toNat ≤ mapped.rowPitch.toNat) (hrow : row < height.toNat / 2)
    (hcol : col < width.toNat / 2) :
    (updateNv12Texture (some mapped) texture nv12Data width height).texture.chroma row col =
      (nv12Data (width.toNat * height.toNat + (row * width.toNat + 2 * col)),
        nv12Data (width.toNat * height.toNat + (row * width.toNat + (2 * col + 1)))) := by
  simp only [updateNv12Texture, MappedSubresource.texture]
  rw [update_chroma_byte hfits hoffsets hpitch hrow (by omega),
    update_chroma_byte hfits hoffsets hpitch hrow (by omega)]

end Update

/-! ## Pictures -/

/-- A picture without any layout: the samples of its planes by row and column. -/
structure Picture where
  y : ℕ → ℕ → UInt8
  u : ℕ → ℕ → UInt8
  v : ℕ → ℕ → UInt8

/-- The distance between two rows of a plane. -/
def AVFrame.stride (src : AVFrame) (plane : Plane) : ℕ := (src.linesize plane).toNatClampNeg

/-- A decoded frame holds a picture; what its rows are padded with is left open. -/
structure AVFrame.Holds (src : AVFrame) (picture : Picture) (width height : ℕ) : Prop where
  y : ∀ row < height, ∀ col < width,
    src.data .y (row * src.stride .y + col) = picture.y row col
  u : ∀ row < height / 2, ∀ col < width / 2,
    src.data .u (row * src.stride .u + col) = picture.u row col
  v : ∀ row < height / 2, ∀ col < width / 2,
    src.data .v (row * src.stride .v + col) = picture.v row col

/-- A texture shows a picture: each pixel has its luma and the chroma of its block. -/
def Nv12Texture.Shows (texture : Nv12Texture) (picture : Picture) (width height : ℕ) : Prop :=
  ∀ y < height, ∀ x < width,
    texture.luma y x = some (picture.y y x) ∧
      texture.chroma (y / 2) (x / 2) =
        (some (picture.u (y / 2) (x / 2)), some (picture.v (y / 2) (x / 2)))

/-- Every row fits into its stride and into the pitch, and every offset is below `2 ^ 32`. -/
structure AVFrame.Layout (src : AVFrame) (width height : ℕ) (rowPitch : UInt32) : Prop where
  lumaStride : width ≤ src.stride .y
  chromaStride : width / 2 ≤ src.stride .u
  sameStride : src.stride .v = src.stride .u
  pitch : width ≤ rowPitch.toNat
  lumaOffsets : ∀ row < height, ∀ col < width, row * src.stride .y + col < 2 ^ 32
  chromaOffsets : ∀ row < height / 2, ∀ col < width / 2, row * src.stride .u + col < 2 ^ 32
  nv12Offsets : width * height + width * (height / 2) ≤ 2 ^ 32
  textureOffsets : ∀ row < height / 2, ∀ col < width,
    rowPitch.toNat * height + row * rowPitch.toNat + col < 2 ^ 32

variable {src : AVFrame} {w h : UInt32} {row col : ℕ}

theorem toNat_rowOffset {plane : Plane} (hpos : 0 < src.stride plane)
    (hrow : row < 2 ^ 32) (hfits : row * src.stride plane < 2 ^ 32) :
    (src.rowOffset plane (UInt32.ofNat row)).toNat = row * src.stride plane := by
  have hstride : (src.linesize plane).toUInt32.toNat = src.stride plane := by
    refine Int32.toNat_toUInt32_of_le (Int32.le_iff_toInt_le.2 ?_)
    rw [AVFrame.stride, ← Int32.toNat_toInt] at hpos
    exact (Int.pos_iff_toNat_pos.2 hpos).le
  rw [AVFrame.rowOffset, toNat_counter_mul hrow (by rwa [hstride]), hstride]

theorem chromaOffset_eq (hpos : 0 < src.stride .u) (hrow : row < 2 ^ 32)
    (hfits : row * src.stride .u + col < 2 ^ 32) :
    src.chromaOffset row col = row * src.stride .u + col := by
  have hcol : col < 2 ^ 32 := by omega
  rw [AVFrame.chromaOffset, UInt32.toNat_add, toNat_rowOffset hpos hrow (by omega),
    UInt32.toNat_ofNat_of_lt' hcol]
  exact Nat.mod_eq_of_lt hfits

/-- For an even height the size is a multiple of three, so that it is not `2 ^ 32`. -/
theorem AVFrame.Layout.sizeFits (hlayout : src.Layout w.toNat h.toNat rowPitch)
    (hheight : Even h.toNat) : SizeFits w h := by
  obtain ⟨half, hh⟩ := hheight
  have hthird : w.toNat * h.toNat + w.toNat * (h.toNat / 2) = 3 * (w.toNat * half) := by
    rw [show h.toNat / 2 = half by omega, hh]
    ring
  have hsize := hlayout.nv12Offsets
  rw [SizeFits]
  omega

/-- The luma of the packed frame, in every size. -/
theorem nv12Data_picture_luma {picture : Picture} (hfits : SizeFits w h)
    (hlayout : src.Layout w.toNat h.toNat rowPitch) (hholds : src.Holds picture w.toNat h.toNat)
    (hrow : row < h.toNat) (hcol : col < w.toNat) :
    nv12Data src w h (row * w.toNat + col) = some (picture.y row col) := by
  have hpos : 0 < src.stride .y := (Nat.zero_lt_of_lt hcol).trans_le hlayout.lumaStride
  have hfirst := hlayout.lumaOffsets row hrow 0 (Nat.zero_lt_of_lt hcol)
  rw [nv12Data_luma hfits hrow hcol, toNat_rowOffset hpos (hrow.trans h.toNat_lt) hfirst,
    hholds.y row hrow col hcol]

/-- The chroma pairs of the packed frame, in every size. -/
theorem nv12Data_picture_chroma {picture : Picture} (hfits : SizeFits w h)
    (hlayout : src.Layout w.toNat h.toNat rowPitch) (hholds : src.Holds picture w.toNat h.toNat)
    (hrow : row < h.toNat / 2) (hcol : col < w.toNat / 2) :
    nv12Data src w h (w.toNat * h.toNat + (row * w.toNat + 2 * col)) =
        some (picture.u row col) ∧
      nv12Data src w h (w.toNat * h.toNat + (row * w.toNat + (2 * col + 1))) =
        some (picture.v row col) := by
  have hpos : 0 < src.stride .u := (Nat.zero_lt_of_lt hcol).trans_le hlayout.chromaStride
  have hlt : row < 2 ^ 32 := (hrow.trans_le (Nat.div_le_self _ _)).trans h.toNat_lt
  have hsample : src.chromaOffset row col = row * src.stride .u + col :=
    chromaOffset_eq hpos hlt (hlayout.chromaOffsets row hrow col hcol)
  constructor
  · rw [nv12Data_chroma hfits hrow (by omega), if_pos (by omega),
      show 2 * col / 2 = col by omega, hsample, hholds.u row hrow col hcol]
  · rw [nv12Data_chroma hfits hrow (by omega), if_neg (by omega),
      show (2 * col + 1) / 2 = col by omega, hsample, ← hlayout.sameStride,
      hholds.v row hrow col hcol]

/-- A frame of even size that holds a picture: packed and copied, the texture shows it. -/
theorem update_shows {picture : Picture} {mapped : MappedSubresource} (texture : Nv12Texture)
    (hw : src.width.toUInt32 = w) (hh : src.height.toUInt32 = h) (hwidth : Even w.toNat)
    (hheight : Even h.toNat) (hlayout : src.Layout w.toNat h.toNat mapped.rowPitch)
    (hholds : src.Holds picture w.toNat h.toNat) :
    ∃ frame, frameToNv12 true src = some frame ∧
      (updateNv12Texture (some mapped) texture frame.data frame.width frame.height).texture.Shows
        picture w.toNat h.toNat := by
  obtain rfl := hw
  obtain rfl := hh
  refine ⟨_, rfl, fun y hy x hx => ?_⟩
  have hfits := hlayout.sizeFits hheight
  obtain ⟨halfWidth, hw⟩ := hwidth
  obtain ⟨halfHeight, hh⟩ := hheight
  have hrow : y / 2 < src.height.toUInt32.toNat / 2 := by omega
  have hcol : x / 2 < src.width.toUInt32.toNat / 2 := by omega
  have hoffsets : mapped.rowPitch.toNat * src.height.toUInt32.toNat < 2 ^ 32 := by
    have := hlayout.textureOffsets 0 (Nat.zero_lt_of_lt hrow) x hx
    omega
  obtain ⟨hu, hv⟩ := nv12Data_picture_chroma hfits hlayout hholds hrow hcol
  constructor
  · exact (update_luma hfits hoffsets hlayout.pitch hy hx).trans
      (nv12Data_picture_luma hfits hlayout hholds hy hx)
  · exact (update_chroma hfits hoffsets hlayout.pitch hrow hcol).trans (Prod.ext hu hv)

/-- Two rows of two pixels and one of chroma, in planes that are four and three bytes wide. -/
def paddedFrame : AVFrame where
  width := 2
  height := 2
  data
    | .y, i => [16, 17, 0, 0, 18, 19, 0, 0].getD i 0
    | .u, i => [100, 0, 0].getD i 0
    | .v, i => [200, 0, 0].getD i 0
  linesize
    | .y => 4
    | .u => 3
    | .v => 3

def paddedPicture : Picture where
  y row col := UInt8.ofNat (16 + 2 * row + col)
  u _ _ := 100
  v _ _ := 200

theorem update_shows_padded :
    ∃ frame, frameToNv12 true paddedFrame = some frame ∧
      (updateNv12Texture (some ⟨fun _ => none, 8⟩) ⟨fun _ _ => none, fun _ _ => (none, none)⟩
        frame.data frame.width frame.height).texture.Shows paddedPicture 2 2 :=
  update_shows (w := 2) (h := 2) _ rfl rfl (by decide) (by decide)
    { lumaStride := by decide
      chromaStride := by decide
      sameStride := rfl
      pitch := by decide
      lumaOffsets := by decide
      chromaOffsets := by decide
      nv12Offsets := by decide
      textureOffsets := by decide }
    { y := by decide
      u := by decide
      v := by decide }

end Autoscrcpy
