import Autoscrcpy.Render.Nv12Texture
import Autoscrcpy.Script.Message

/-!
# Who reads a frame

Three formulas give the size of a packed frame: what `frame_to_nv12` allocates, the rows that
`update_nv12_texture` copies, and the `width * height * 3 / 2` bytes of a frame capture. They agree
for even sizes.

`frameReads_iff`: an odd width leaves bytes of the chroma rows that are read and not written, and in
an odd height the capture of a small frame runs over the end.
-/

namespace Autoscrcpy

open Copies

/-! ## Reading -/

/-- The bytes of a span are inside the block and written. -/
def VideoFrame.Readable (frame : VideoFrame) (s : Span) : Prop :=
  s.Inside frame.size.toNat ∧ ∀ k < s.length, (frame.data (s.offset + k)).isSome

/-- What `script_fill_frame_capture` reads of the frame. -/
def scriptFillFrameCaptureReads (dataSize : UInt32) : List Span :=
  if 0 < dataSize ∧ dataSize.toNat ≤ SCRIPT_MSG_MAX_DATA_SIZE - 12 then [⟨0, dataSize.toNat⟩]
  else []

/-- What `on_script_query_frame_capture` reads of the frame. -/
def onScriptQueryFrameCaptureReads (width height : UInt32) : List Span :=
  if 0 < width ∧ 0 < height then scriptFillFrameCaptureReads (width * height * 3 / 2) else []

/-- Neither consumer reads a byte that is not there, whatever `Map` returns. -/
def VideoFrame.ReadSafely (frame : VideoFrame) : Prop :=
  (∀ map texture,
    ∀ s ∈ (updateNv12Texture map texture frame.data frame.width frame.height).reads,
      frame.Readable s) ∧
    ∀ s ∈ onScriptQueryFrameCaptureReads frame.width frame.height, frame.Readable s

/-! ## The capture -/

/-- Two puts of as many bytes in one place are equal if the bytes are. -/
theorem put_inj {msg : ScriptMsg} {offset : ℕ} {src src' : List UInt8}
    (hlen : src.length = src'.length) : msg.put offset src = msg.put offset src' ↔ src = src' := by
  refine ⟨fun h => ?_, fun h => by rw [h]⟩
  have hdata := congrArg ScriptMsg.data h
  simp only [ScriptMsg.put, List.append_cancel_left_eq] at hdata
  exact (List.append_inj hdata hlen).1

/-- The response to a capture tells two frames of one size apart exactly if they differ in what is
read of them. -/
theorem onScriptQueryFrameCapture_eq_iff (app : AppView) {width height : UInt32}
    {data data' : List UInt8}
    (hdata : ∀ s ∈ onScriptQueryFrameCaptureReads width height, s.Inside data.length)
    (hdata' : ∀ s ∈ onScriptQueryFrameCaptureReads width height, s.Inside data'.length) :
    onScriptQueryFrameCapture { app with sharedFrame := some ⟨some data, width, height⟩ } =
        onScriptQueryFrameCapture { app with sharedFrame := some ⟨some data', width, height⟩ } ↔
      ∀ s ∈ onScriptQueryFrameCaptureReads width height,
        (data.drop s.offset).take s.length = (data'.drop s.offset).take s.length := by
  simp only [onScriptQueryFrameCapture, onScriptQueryFrameCaptureReads] at hdata hdata' ⊢
  split_ifs at hdata hdata' ⊢ with hsize
  · simp only [scriptFillFrameCapture, scriptFillFrameCaptureReads] at hdata hdata' ⊢
    split_ifs at hdata hdata' ⊢ with hsmall
    · simp only [List.forall_mem_singleton, Span.Inside, List.drop_zero, Nat.zero_add] at *
      exact put_inj (by rw [List.length_take_of_le hdata, List.length_take_of_le hdata'])
    · simp
  · simp

theorem toNat_captureSize {w h : UInt32} (hsize : w.toNat * h.toNat * 3 < 2 ^ 32) :
    (w * h * 3 / 2).toNat = w.toNat * h.toNat * 3 / 2 := by
  have harea : (w * h).toNat = w.toNat * h.toNat := by
    rw [UInt32.toNat_mul]
    exact Nat.mod_eq_of_lt (by omega)
  rw [toNat_half, UInt32.toNat_mul, harea]
  exact congrArg (· / 2) (Nat.mod_eq_of_lt hsize)

/-- The capture's size is at most the one of the block in an even height, or without pairs. -/
theorem captureSize_le_iff (w h : ℕ) :
    w * h * 3 / 2 ≤ w * h + w * (h / 2) ↔ h % 2 = 0 ∨ w < 2 := by
  obtain ⟨half, rfl | rfl⟩ := Nat.even_or_odd' h
  · have hhalf : 2 * half / 2 = half := by omega
    rw [hhalf, Nat.mul_left_comm w 2 half]
    omega
  · have hhalf : (2 * half + 1) / 2 = half := by omega
    have hmul : w * (2 * half + 1) = 2 * (w * half) + w := by ring
    rw [hhalf, hmul]
    omega

/-! ## The texture -/

variable {w h : UInt32}

theorem mem_update_reads {mapped : MappedSubresource} {texture : Nv12Texture}
    {nv12Data : ℕ → Option UInt8} (hfits : SizeFits w h) {s : Span} :
    s ∈ (updateNv12Texture (some mapped) texture nv12Data w h).reads ↔
      (∃ row < h.toNat, s = ⟨row * w.toNat, w.toNat⟩) ∨
        ∃ row < h.toNat / 2, s = ⟨w.toNat * h.toNat + row * w.toNat, w.toNat⟩ := by
  simp only [updateNv12Texture, nv12RowCopies, yRowCopies, uvRowCopies, counts, List.map_append,
    List.map_map, List.mem_append, List.mem_map, List.mem_range, toNat_half, toNat_area hfits,
    Function.comp_apply, Copy.reads]
  have hrow {row : ℕ} (hlt : row < h.toNat) : (UInt32.ofNat row * w).toNat = row * w.toNat :=
    toNat_row hlt (area_lt hfits)
  refine or_congr ?_ ?_
  · refine exists_congr fun row => and_congr_right fun hlt => ?_
    rw [hrow hlt, eq_comm]
  · refine exists_congr fun row => and_congr_right fun hlt => ?_
    rw [hrow (hlt.trans_le (Nat.div_le_self _ _)), eq_comm]

theorem toNat_block (hfits : SizeFits w h) :
    (w * h + w * (h / 2)).toNat = h.toNat * w.toNat + h.toNat / 2 * w.toNat := by
  rw [toNat_nv12Size hfits, Nat.mul_comm, Nat.mul_comm (h.toNat / 2)]

theorem update_reads_inside {mapped : MappedSubresource} {texture : Nv12Texture}
    {nv12Data : ℕ → Option UInt8} (hfits : SizeFits w h) :
    ∀ s ∈ (updateNv12Texture (some mapped) texture nv12Data w h).reads,
      s.Inside (w * h + w * (h / 2)).toNat := by
  intro s hs
  rw [toNat_block hfits, Span.Inside]
  obtain ⟨row, hrow, rfl⟩ | ⟨row, hrow, rfl⟩ := (mem_update_reads hfits).1 hs
  · exact (row_end_le hrow).trans (Nat.le_add_right _ _)
  · rw [Nat.mul_comm h.toNat, Nat.add_assoc]
    exact Nat.add_le_add_left (row_end_le hrow) _

/-- Every byte of the block is in one of the rows. -/
theorem update_reads_cover {mapped : MappedSubresource} {texture : Nv12Texture}
    {nv12Data : ℕ → Option UInt8} (hfits : SizeFits w h) {i : ℕ}
    (hi : i < (w * h + w * (h / 2)).toNat) :
    ∃ s ∈ (updateNv12Texture (some mapped) texture nv12Data w h).reads,
      ∃ k < s.length, i = s.offset + k := by
  rw [toNat_block hfits] at hi
  obtain hluma | hchroma := Nat.lt_or_ge i (h.toNat * w.toNat)
  · obtain ⟨row, hrow, col, hcol, rfl⟩ := exists_row hluma
    exact ⟨_, (mem_update_reads hfits).2 (Or.inl ⟨row, hrow, rfl⟩), col, hcol, rfl⟩
  · obtain ⟨row, hrow, col, hcol, hat⟩ :=
      exists_row (by omega : i - h.toNat * w.toNat < h.toNat / 2 * w.toNat)
    refine ⟨_, (mem_update_reads hfits).2 (Or.inr ⟨row, hrow, rfl⟩), col, hcol, ?_⟩
    rw [Nat.mul_comm w.toNat, Nat.add_assoc, ← hat, Nat.add_sub_cancel' hchroma]

/-- The rows that the texture is given are the whole block, one behind the other. -/
theorem update_reads_readable_iff {frame : VideoFrame} (hfits : SizeFits frame.width frame.height)
    (hsize : frame.size = frame.width * frame.height + frame.width * (frame.height / 2)) :
    (∀ map texture,
        ∀ s ∈ (updateNv12Texture map texture frame.data frame.width frame.height).reads,
          frame.Readable s) ↔
      ∀ i < frame.size.toNat, (frame.data i).isSome := by
  constructor
  · intro hall i hi
    rw [hsize] at hi
    obtain ⟨s, hs, k, hk, rfl⟩ := update_reads_cover hfits hi
    exact (hall (some ⟨fun _ => none, 0⟩) ⟨fun _ _ => none, fun _ _ => (none, none)⟩ s hs).2 k hk
  · intro hall map texture s hs
    cases map with
    | none => cases hs
    | some mapped =>
      have hinside : s.Inside frame.size.toNat := hsize ▸ update_reads_inside hfits s hs
      refine ⟨hinside, fun k hk => hall _ ?_⟩
      exact (Nat.add_lt_add_left hk _).trans_le hinside

/-! ## Both -/

/-- In a block that is written as a whole the capture reads what is there exactly if its size is not
larger, or if it does not read. -/
theorem capture_readable_iff {frame : VideoFrame} {w h : UInt32}
    (hsize : w.toNat * h.toNat * 3 < 2 ^ 32)
    (hblock : frame.size.toNat = w.toNat * h.toNat + w.toNat * (h.toNat / 2))
    (hwritten : ∀ i < frame.size.toNat, (frame.data i).isSome) :
    (∀ s ∈ onScriptQueryFrameCaptureReads w h, frame.Readable s) ↔
      h.toNat % 2 = 0 ∨ w.toNat < 2 ∨ 244 < w.toNat * h.toNat * 3 / 2 := by
  have hcapture := toNat_captureSize hsize
  have hmax : SCRIPT_MSG_MAX_DATA_SIZE - 12 = 244 := rfl
  rw [← or_assoc, ← captureSize_le_iff, ← hblock, onScriptQueryFrameCaptureReads]
  split_ifs with hpos
  · simp only [scriptFillFrameCaptureReads, hmax, UInt32.lt_iff_toNat_lt, hcapture,
      UInt32.toNat_zero]
    split_ifs with hsmall
    · rw [List.forall_mem_singleton]
      constructor
      · intro hread
        exact Or.inl ((Nat.zero_add _).symm.trans_le hread.1)
      · rintro (hle | hlarge)
        · refine ⟨(Nat.zero_add _).trans_le hle, fun k hk => hwritten _ ?_⟩
          dsimp only at hk ⊢
          omega
        · omega
    · refine iff_of_true (fun s hs => by cases hs) ?_
      omega
  · refine iff_of_true (fun s hs => by cases hs) (Or.inl ?_)
    rw [not_and_or, UInt32.lt_iff_toNat_lt, UInt32.lt_iff_toNat_lt, UInt32.toNat_zero] at hpos
    have hzero : w.toNat * h.toNat = 0 := by
      rw [Nat.mul_eq_zero]
      omega
    rw [hzero]
    omega

/-- For every decoded frame whose size does not overflow: the consumers read what is there exactly
if the width is even or there is no row of chroma, and if the height is even, there is no pair, or
the frame is too large to be captured. -/
theorem frameReads_iff {src : AVFrame} {frame : VideoFrame}
    (hframe : frameToNv12 true src = some frame)
    (hsize : frame.width.toNat * frame.height.toNat * 3 < 2 ^ 32) :
    frame.ReadSafely ↔
      (frame.width.toNat % 2 = 0 ∨ frame.height.toNat < 2) ∧
        (frame.height.toNat % 2 = 0 ∨ frame.width.toNat < 2 ∨
          244 < frame.width.toNat * frame.height.toNat * 3 / 2) := by
  obtain rfl := Option.some.inj hframe
  dsimp only at hsize
  set w := src.width.toUInt32
  set h := src.height.toUInt32
  have hfits : SizeFits w h := by
    have hle : w.toNat * (h.toNat / 2) ≤ w.toNat * h.toNat :=
      Nat.mul_le_mul_left _ (Nat.div_le_self _ _)
    rw [SizeFits]
    omega
  rw [VideoFrame.ReadSafely, update_reads_readable_iff hfits rfl, nv12Data_isSome_iff hfits]
  refine and_congr_right fun hwritten => ?_
  exact capture_readable_iff hsize (toNat_nv12Size hfits) ((nv12Data_isSome_iff hfits).2 hwritten)

/-- A frame of a size. -/
def grayFrame (width height : Int32) : AVFrame where
  width
  height
  data _ _ := 128
  linesize _ := width

theorem frameReads_iff_even :
    ∃ frame, frameToNv12 true (grayFrame 16 10) = some frame ∧ frame.ReadSafely :=
  ⟨_, rfl, (frameReads_iff rfl (by decide)).2 (by decide)⟩

/-- In an odd height the capture of a small frame reads eight bytes behind the block. -/
theorem frameReads_odd : ¬ ∀ src frame, frameToNv12 true src = some frame →
    frame.width.toNat * frame.height.toNat * 3 < 2 ^ 32 → frame.ReadSafely := by
  intro h
  have hread := (h (grayFrame 16 9) _ rfl (by decide)).2 ⟨0, 216⟩ (by decide)
  exact absurd hread.1 (by decide)

end Autoscrcpy
