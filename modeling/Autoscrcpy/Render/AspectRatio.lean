import Autoscrcpy.Input.InputTransform

/-!
# The quad of the picture

`video_renderer.c` draws the picture on a quad that fills the window, and scales it by a matrix that
keeps the aspect ratio of the video. The doubles are read as exact rationals.

`letterbox_shared`: the quad and the rectangle in which `input_transform_coords` looks for the
picture differ by less than a pixel at each edge.
-/

namespace Autoscrcpy

open Rounding

/-- `vertex_t`. -/
structure Vertex where
  x : ℚ
  y : ℚ
  z : ℚ
  u : ℚ
  v : ℚ

/-- `quad_vertices`. -/
def quadVertices : List Vertex :=
  [⟨-1, 1, 0, 0, 0⟩, ⟨1, 1, 0, 1, 0⟩, ⟨1, -1, 0, 1, 1⟩, ⟨-1, -1, 0, 0, 1⟩]

/-- `sx` and `sy` of `update_aspect_ratio_transform`. -/
def aspectScale (videoW videoH windowW windowH : ℚ) : ℚ × ℚ :=
  let srcRatio := videoW / videoH
  let dstRatio := windowW / windowH
  if srcRatio > dstRatio then (1, dstRatio / srcRatio)
  else if srcRatio < dstRatio then (srcRatio / dstRatio, 1)
  else (1, 1)

/-- "Build scale matrix (row-major)". -/
def scaleMatrix (sx sy : ℚ) : Matrix (Fin 4) (Fin 4) ℚ :=
  !![sx, 0, 0, 0;
     0, sy, 0, 0;
     0, 0, 1, 0;
     0, 0, 0, 1]

/-- `update_aspect_ratio_transform`: the matrix it uploads; nothing where it returns before that. -/
def updateAspectRatioTransform (videoW videoH windowW windowH : UInt32) :
    Option (Matrix (Fin 4) (Fin 4) ℚ) :=
  if videoW = 0 ∨ videoH = 0 then none
  else if windowW = 0 ∨ windowH = 0 then none
  else
    let (sx, sy) := aspectScale videoW.toNat videoH.toNat windowW.toNat windowH.toNat
    some (scaleMatrix sx sy)

/-- `VertexShader.hlsl`: `mul(float4(pos.x, pos.y, pos.z, 1), transform)`. -/
def vertexShader (transform : Matrix (Fin 4) (Fin 4) ℚ) (vertex : Vertex) : Fin 4 → ℚ :=
  Matrix.vecMul ![vertex.x, vertex.y, vertex.z, 1] transform

/-- The pixel of a position under the viewport of the window: from the left and from the top. -/
def viewport (windowW windowH : UInt32) (pos : Fin 4 → ℚ) : ℚ × ℚ :=
  (windowW.toNat * (1 + pos 0 / pos 3) / 2, windowH.toNat * (1 - pos 1 / pos 3) / 2)

/-- The corner of the rectangle at the texture coordinates of a vertex. -/
def RenderRect.corner (rect : RenderRect) (vertex : Vertex) : ℚ × ℚ :=
  (rect.x + vertex.u * rect.w, rect.y + vertex.v * rect.h)

/-! ## The quad on the screen -/

/-- A vertex of the quad lies at the scaled place. -/
theorem viewport_vertexShader (windowW windowH : UInt32) (sx sy : ℚ) (vertex : Vertex) :
    viewport windowW windowH (vertexShader (scaleMatrix sx sy) vertex) =
      (windowW.toNat * (1 + vertex.x * sx) / 2, windowH.toNat * (1 - vertex.y * sy) / 2) := by
  simp [viewport, vertexShader, scaleMatrix, Matrix.vecMul, dotProduct, Fin.sum_univ_four]

example : (updateAspectRatioTransform 800 600 1600 600).map
    (fun m => quadVertices.map fun v => viewport 1600 600 (vertexShader m v)) =
    some [(400, 0), (1200, 0), (1200, 600), (400, 600)] := by decide +kernel

/-! ## The scale -/

section Scale

variable {winW winH : ℤ} {devW devH : ℕ}

theorem aspectScale_wide (hwinW : 0 < winW) (hwinH : 0 < winH) (hdevH : 0 < devH)
    (hwide : (devW : ℤ) * winH < winW * devH) :
    aspectScale devW devH winW winH = (((winH * devW : ℤ) : ℚ) / devH / winW, 1) := by
  have hW : (0 : ℚ) < winW := by exact_mod_cast hwinW
  have hH : (0 : ℚ) < winH := by exact_mod_cast hwinH
  have hdH : (0 : ℚ) < devH := by exact_mod_cast hdevH
  have hlt : (devW : ℚ) / devH < winW / winH := (aspect_lt_iff hwinH hdevH).2 hwide
  dsimp only [aspectScale]
  rw [if_neg hlt.not_gt, if_pos hlt]
  push_cast
  field_simp

theorem aspectScale_tall (hwinW : 0 < winW) (hwinH : 0 < winH) (hdevW : 0 < devW) (hdevH : 0 < devH)
    (htall : ¬(devW : ℤ) * winH < winW * devH) :
    aspectScale devW devH winW winH = (1, ((winW * devH : ℤ) : ℚ) / devW / winH) := by
  have hW : (0 : ℚ) < winW := by exact_mod_cast hwinW
  have hH : (0 : ℚ) < winH := by exact_mod_cast hwinH
  have hdW : (0 : ℚ) < devW := by exact_mod_cast hdevW
  have hdH : (0 : ℚ) < devH := by exact_mod_cast hdevH
  have hle : (winW : ℚ) / winH ≤ devW / devH :=
    not_lt.1 fun h => htall ((aspect_lt_iff hwinH hdevH).1 h)
  dsimp only [aspectScale]
  rcases hle.lt_or_eq with hlt | heq
  · rw [if_pos hlt]
    push_cast
    field_simp
  · -- The two ratios are equal: the scale is one, which the quotient says as well.
    rw [if_neg heq.not_lt, if_neg heq.not_gt]
    rw [div_eq_div_iff hH.ne' hdH.ne'] at heq
    push_cast
    rw [heq]
    field_simp

end Scale

/-! ## One letterbox -/

/-- Along one axis of the window, a part from `start` of `size` pixels and the one that the quad
covers under `scale` differ by less than a pixel at both ends. -/
def NearQuad (start size win : ℤ) (scale : ℚ) : Prop :=
  |(start : ℚ) - win * (1 - scale) / 2| < 1 ∧ |((start + size : ℤ) : ℚ) - win * (1 + scale) / 2| < 1

theorem nearQuad_full (win : ℤ) : NearQuad 0 win win 1 := by
  constructor <;> norm_num

theorem nearQuad_fitted {win : ℤ} (hwin : 0 < win) (n : ℤ) {d : ℕ} :
    NearQuad ((win - n / d) / 2) (n / d) win ((n : ℚ) / d / win) := by
  have hwin' : (0 : ℚ) < win := by exact_mod_cast hwin
  have hfloor : ⌊(n : ℚ) / d⌋ = n / (d : ℤ) := Rat.floor_intCast_div_natCast n d
  have hle := Int.floor_le ((n : ℚ) / d)
  have hlt := Int.lt_floor_add_one ((n : ℚ) / d)
  rw [hfloor] at hle hlt
  have hscaled : (win : ℚ) * ((n : ℚ) / d / win) = n / d := by field_simp
  rw [NearQuad, mul_sub, mul_add, mul_one, hscaled]
  exact ⟨abs_centred_start_lt_one hle hlt, abs_centred_end_lt_one hle hlt⟩

/-- Both letterboxes take the branch that the other takes, and round the same exact size. -/
theorem nearQuad_fittedRect {winW winH : ℤ} {devW devH : ℕ} (hwinW : 0 < winW) (hwinH : 0 < winH)
    (hdevW : 0 < devW) (hdevH : 0 < devH) :
    let rect := fittedRect winW winH devW devH
    let scale := aspectScale devW devH winW winH
    NearQuad rect.x rect.w winW scale.1 ∧ NearQuad rect.y rect.h winH scale.2 := by
  dsimp only
  by_cases hwide : (devW : ℤ) * winH < winW * devH
  · rw [fittedRect, if_pos hwide, aspectScale_wide hwinW hwinH hdevH hwide]
    exact ⟨nearQuad_fitted hwinW _, nearQuad_full winH⟩
  · rw [fittedRect, if_neg hwide, aspectScale_tall hwinW hwinH hdevW hdevH hwide]
    exact ⟨nearQuad_full winW, nearQuad_fitted hwinH _⟩

section Letterbox

variable {winW winH : Int32} {videoW videoH : UInt32}

theorem natCast_toUInt32 {n : Int32} (hn : 0 < n) : (n.toUInt32.toNat : ℤ) = n.toInt := by
  have hpos := toInt_pos hn
  rw [Int32.toNat_toUInt32_of_le (Int32.le_of_lt hn), Int32.toNatClampNeg]
  omega

theorem toUInt32_ne_zero {n : Int32} (hn : 0 < n) : n.toUInt32 ≠ 0 := by
  have hpos := toInt_pos hn
  have heq := natCast_toUInt32 hn
  intro h
  rw [h, UInt32.toNat_zero] at heq
  omega

theorem updateAspectRatioTransform_eq (hwinW : 0 < winW) (hwinH : 0 < winH) (hvideoW : videoW ≠ 0)
    (hvideoH : videoH ≠ 0) :
    updateAspectRatioTransform videoW videoH winW.toUInt32 winH.toUInt32 =
      let scale := aspectScale videoW.toNat videoH.toNat winW.toInt winH.toInt
      some (scaleMatrix scale.1 scale.2) := by
  have hvideo : ¬(videoW = 0 ∨ videoH = 0) := by simp [hvideoW, hvideoH]
  have hwindow : ¬(winW.toUInt32 = 0 ∨ winH.toUInt32 = 0) := by
    simp [toUInt32_ne_zero hwinW, toUInt32_ne_zero hwinH]
  have hW : (winW.toUInt32.toNat : ℚ) = winW.toInt := by exact_mod_cast natCast_toUInt32 hwinW
  have hH : (winH.toUInt32.toNat : ℚ) = winH.toInt := by exact_mod_cast natCast_toUInt32 hwinH
  rw [updateAspectRatioTransform, if_neg hvideo, if_neg hwindow, hW, hH]

/-- Clicks and picture share one letterbox: along both axes the rectangle of
`input_transform_coords` and the scaled quad differ by less than a pixel at both ends. -/
theorem letterbox_shared (hwinW : 0 < winW) (hwinH : 0 < winH) (hvideoW : videoW ≠ 0)
    (hvideoH : videoH ≠ 0) :
    ∃ rect sx sy, renderRect winW winH videoW videoH = some rect ∧
      updateAspectRatioTransform videoW videoH winW.toUInt32 winH.toUInt32 =
        some (scaleMatrix sx sy) ∧
      NearQuad rect.x rect.w winW.toInt sx ∧ NearQuad rect.y rect.h winH.toInt sy := by
  refine ⟨_, _, _, renderRect_eq hwinW hwinH hvideoW hvideoH,
    updateAspectRatioTransform_eq hwinW hwinH hvideoW hvideoH, ?_⟩
  exact nearQuad_fittedRect (toInt_pos hwinW) (toInt_pos hwinH) (toNat_pos hvideoW)
    (toNat_pos hvideoH)

theorem letterbox_shared_phone :
    ∃ rect sx sy, renderRect 1000 1001 1080 2399 = some rect ∧
      updateAspectRatioTransform 1080 2399 1000 1001 = some (scaleMatrix sx sy) ∧
      NearQuad rect.x rect.w 1000 sx ∧ NearQuad rect.y rect.h 1001 sy :=
  @letterbox_shared 1000 1001 1080 2399 (by decide) (by decide) (by decide) (by decide)

/-- A vertex of the quad and the corner of the rectangle at its texture coordinates. -/
theorem NearQuad.corner {rect : RenderRect} {sx sy : ℚ}
    (hx : NearQuad rect.x rect.w winW.toInt sx) (hy : NearQuad rect.y rect.h winH.toInt sy)
    {vertex : Vertex} (hvertex : vertex ∈ quadVertices) :
    |(rect.corner vertex).1 - winW.toInt * (1 + vertex.x * sx) / 2| < 1 ∧
      |(rect.corner vertex).2 - winH.toInt * (1 - vertex.y * sy) / 2| < 1 := by
  obtain ⟨hleft, hright⟩ := hx
  obtain ⟨htop, hbottom⟩ := hy
  push_cast at hright hbottom
  simp only [quadVertices, List.mem_cons, List.not_mem_nil, or_false] at hvertex
  rcases hvertex with rfl | rfl | rfl | rfl <;>
    simp only [RenderRect.corner, neg_mul, one_mul, zero_mul, add_zero, sub_neg_eq_add,
      ← sub_eq_add_neg] <;>
    constructor <;> assumption

/-- So each corner of the picture is drawn less than a pixel away from where clicks expect it. -/
theorem corner_near (hwinW : 0 < winW) (hwinH : 0 < winH) (hvideoW : videoW ≠ 0)
    (hvideoH : videoH ≠ 0) {rect : RenderRect} {transform : Matrix (Fin 4) (Fin 4) ℚ}
    (hrect : renderRect winW winH videoW videoH = some rect)
    (htransform : updateAspectRatioTransform videoW videoH winW.toUInt32 winH.toUInt32 =
      some transform) {vertex : Vertex} (hvertex : vertex ∈ quadVertices) :
    let pixel := viewport winW.toUInt32 winH.toUInt32 (vertexShader transform vertex)
    let corner := rect.corner vertex
    |corner.1 - pixel.1| < 1 ∧ |corner.2 - pixel.2| < 1 := by
  rw [renderRect_eq hwinW hwinH hvideoW hvideoH] at hrect
  rw [updateAspectRatioTransform_eq hwinW hwinH hvideoW hvideoH] at htransform
  obtain rfl := Option.some.inj hrect
  obtain rfl := Option.some.inj htransform
  obtain ⟨hx, hy⟩ := nearQuad_fittedRect (toInt_pos hwinW) (toInt_pos hwinH) (toNat_pos hvideoW)
    (toNat_pos hvideoH)
  have hW : (winW.toUInt32.toNat : ℚ) = winW.toInt := by exact_mod_cast natCast_toUInt32 hwinW
  have hH : (winH.toUInt32.toNat : ℚ) = winH.toInt := by exact_mod_cast natCast_toUInt32 hwinH
  dsimp only
  rw [viewport_vertexShader, hW, hH]
  exact NearQuad.corner hx hy hvertex

end Letterbox

end Autoscrcpy
