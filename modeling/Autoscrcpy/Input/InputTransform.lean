import Autoscrcpy.Lib.Rounding

/-!
# Window points and device points

`input_transform_coords` maps a point of the window to one of the device: it fits the picture of
the device into the window and takes the point relative to it. The floats are read as exact
rationals.

`renderRect_eq` gives the rectangle of the picture in integers, and `mapsToDevice_iff` says when the
mapping is defined, bounded and monotone: when neither side of that rectangle is truncated to zero.
-/

namespace Autoscrcpy

open Rounding

/-- A result of type `int32_t`; nothing where C leaves the result undefined. -/
def int32 (n : ℤ) : Option ℤ := if -2 ^ 31 ≤ n ∧ n < 2 ^ 31 then some n else none

/-- The cast of a float to `int32_t`. -/
def castInt32 (x : ℚ) : Option ℤ := int32 (truncate x)

/-- The division of floats; nothing for the divisor zero. -/
def divFloat (a b : ℚ) : Option ℚ := if b = 0 then none else some (a / b)

/-- `render_x`, `render_y`, `render_w` and `render_h`. -/
structure RenderRect where
  x : ℤ
  y : ℤ
  w : ℤ
  h : ℤ
  deriving DecidableEq, Repr

/-- The rectangle of the window that `input_transform_coords` takes for the picture. -/
def renderRect (winW winH : Int32) (devW devH : UInt32) : Option RenderRect := do
  let videoAspect ← divFloat devW.toNat devH.toNat
  let windowAspect ← divFloat winW.toInt winH.toInt
  if windowAspect > videoAspect then
    let renderW ← castInt32 (winH.toInt * videoAspect)
    let margin ← int32 (winW.toInt - renderW)
    return { x := margin.tdiv 2, y := 0, w := renderW, h := winH.toInt }
  else
    let renderH ← castInt32 (← divFloat winW.toInt videoAspect)
    let margin ← int32 (winH.toInt - renderH)
    return { x := 0, y := margin.tdiv 2, w := winW.toInt, h := renderH }

/-- `rel_x` and `rel_y` behind their checks: below zero zero, above the size the size. -/
def clampRel (rel size : ℤ) : ℤ :=
  let rel := if rel < 0 then 0 else rel
  if rel > size then size else rel

/-- A coordinate on the device: `(int32_t)((float)rel / size * dev)`. -/
def devCoord (rel size : ℤ) (dev : UInt32) : Option ℤ := do
  castInt32 ((← divFloat rel size) * dev.toNat)

/-- `input_transform_coords`; nothing where it divides by zero or leaves `int32_t`. -/
def inputTransformCoords (winX winY winW winH : Int32) (devW devH : UInt32) :
    Option (Int32 × Int32) :=
  if winW ≤ 0 ∨ winH ≤ 0 ∨ devW = 0 ∨ devH = 0 then some (0, 0)
  else do
    let rect ← renderRect winW winH devW devH
    let relX ← int32 (winX.toInt - rect.x)
    let relY ← int32 (winY.toInt - rect.y)
    let devX ← devCoord (clampRel relX rect.w) rect.w devW
    let devY ← devCoord (clampRel relY rect.h) rect.h devH
    return (Int32.ofInt devX, Int32.ofInt devY)

/-! ## The arithmetic -/

theorem int32_eq_some {n : ℤ} (hlow : -2 ^ 31 ≤ n) (hhigh : n < 2 ^ 31) : int32 n = some n :=
  if_pos ⟨hlow, hhigh⟩

theorem divFloat_eq_some {a b : ℚ} (hb : b ≠ 0) : divFloat a b = some (a / b) := if_neg hb

@[simp] theorem divFloat_zero (a : ℚ) : divFloat a 0 = none := if_pos rfl

theorem castInt32_div {n : ℤ} {d : ℕ} (hn : 0 ≤ n) (hlt : n / d < 2 ^ 31) :
    castInt32 ((n : ℚ) / d) = some (n / d) := by
  have hnonneg : 0 ≤ n / (d : ℤ) := Int.ediv_nonneg hn (by positivity)
  rw [castInt32, truncate_intCast_div hn, int32_eq_some (by omega) hlt]

theorem toInt_pos {n : Int32} (hn : 0 < n) : 0 < n.toInt := Int32.lt_iff_toInt_lt.1 hn

/-! ## The rectangle of the picture -/

/-- The picture of the device in a window, in integers: as high as the window with margins left and
right, or as wide as the window with margins above and below. -/
def fittedRect (winW winH : ℤ) (devW devH : ℕ) : RenderRect :=
  if devW * winH < winW * devH then
    { x := (winW - winH * devW / devH) / 2, y := 0, w := winH * devW / devH, h := winH }
  else
    { x := 0, y := (winH - winW * devH / devW) / 2, w := winW, h := winW * devH / devW }

section RenderRect

variable {winW winH : ℤ} {devW devH : ℕ}

/-- The comparison of the two aspect ratios, without division. -/
theorem aspect_lt_iff (hwinH : 0 < winH) (hdevH : 0 < devH) :
    (devW : ℚ) / devH < winW / winH ↔ (devW : ℤ) * winH < winW * devH := by
  have hH : (0 : ℚ) < winH := by exact_mod_cast hwinH
  have hdH : (0 : ℚ) < devH := by exact_mod_cast hdevH
  rw [div_lt_div_iff₀ hdH hH]
  exact_mod_cast Iff.rfl

/-- A window that is not wider than the picture is not lower than the fitted side. -/
theorem tall_le (htall : ¬(devW : ℤ) * winH < winW * devH) : (devH : ℤ) * winW ≤ winH * devW := by
  linarith [not_lt.1 htall]

/-- The fitted side is not longer than that of the window. -/
theorem fitted_side (hside : 0 ≤ winH) (hdevH : 0 < devH)
    (hle : devW * winH ≤ winW * devH) :
    0 ≤ winH * devW / devH ∧ winH * devW / devH ≤ winW := by
  have hpos : (0 : ℤ) < devH := by exact_mod_cast hdevH
  refine ⟨Int.ediv_nonneg (by positivity) hpos.le, Int.ediv_le_of_le_mul hpos ?_⟩
  rwa [mul_comm winH]

/-- The sides are those of the window at most, and the margins the half of them. -/
structure RenderRect.Inside (rect : RenderRect) (winW winH : ℤ) : Prop where
  x : 0 ≤ rect.x ∧ 2 * rect.x ≤ winW
  y : 0 ≤ rect.y ∧ 2 * rect.y ≤ winH
  w : 0 ≤ rect.w ∧ rect.w ≤ winW
  h : 0 ≤ rect.h ∧ rect.h ≤ winH

theorem fittedRect_inside (hwinW : 0 < winW) (hwinH : 0 < winH) (hdevW : 0 < devW)
    (hdevH : 0 < devH) : (fittedRect winW winH devW devH).Inside winW winH := by
  rw [fittedRect]
  split_ifs with hwide
  · obtain ⟨hlow, hhigh⟩ := fitted_side hwinH.le hdevH hwide.le
    exact ⟨by dsimp only; omega, by dsimp only; omega, ⟨hlow, hhigh⟩, by dsimp only; omega⟩
  · obtain ⟨hlow, hhigh⟩ := fitted_side hwinW.le hdevW (tall_le hwide)
    exact ⟨by dsimp only; omega, by dsimp only; omega, by dsimp only; omega, ⟨hlow, hhigh⟩⟩

/-- When neither side of the picture is truncated to zero. Each bound is that of the side that one
branch fits, and in the other branch it follows. -/
theorem fittedRect_pos_iff (hwinW : 0 < winW) (hwinH : 0 < winH) (hdevW : 0 < devW)
    (hdevH : 0 < devH) :
    0 < (fittedRect winW winH devW devH).w ∧ 0 < (fittedRect winW winH devW devH).h ↔
      (devH : ℤ) ≤ winH * devW ∧ (devW : ℤ) ≤ winW * devH := by
  have hdevW' : (0 : ℤ) < devW := by exact_mod_cast hdevW
  have hdevH' : (0 : ℤ) < devH := by exact_mod_cast hdevH
  have one_le_ediv {n d : ℤ} (hd : 0 < d) : 0 < n / d ↔ d ≤ n := by
    rw [Int.lt_iff_add_one_le, zero_add, Int.le_ediv_iff_mul_le hd, one_mul]
  rw [fittedRect]
  split_ifs with hwide
  · have hother : (devW : ℤ) ≤ winW * devH := by nlinarith
    simp only [one_le_ediv hdevH', hwinH, hother, and_true]
  · have hother : (devH : ℤ) ≤ winH * devW := by nlinarith
    simp only [one_le_ediv hdevW', hwinW, hother, true_and]

end RenderRect

section PictureRect

variable {winW winH : Int32} {devW devH : UInt32}

theorem toNat_pos {n : UInt32} (hn : n ≠ 0) : 0 < n.toNat := by
  rw [Nat.pos_iff_ne_zero]
  exact fun h => hn (UInt32.toNat_inj.1 h)

/-- The rectangle of the picture in a window of `int32_t` sizes. -/
abbrev pictureRect (winW winH : Int32) (devW devH : UInt32) : RenderRect :=
  fittedRect winW.toInt winH.toInt devW.toNat devH.toNat

/-- The floats and their casts give the rectangle in integers. -/
theorem renderRect_eq (hwinW : 0 < winW) (hwinH : 0 < winH) (hdevW : devW ≠ 0) (hdevH : devH ≠ 0) :
    renderRect winW winH devW devH = some (pictureRect winW winH devW devH) := by
  have hW := toInt_pos hwinW
  have hH := toInt_pos hwinH
  have hWlt := winW.toInt_lt
  have hHlt := winH.toInt_lt
  have hdW := toNat_pos hdevW
  have hdH := toNat_pos hdevH
  have hH' : (0 : ℚ) < winH.toInt := by exact_mod_cast hH
  have hdW' : (0 : ℚ) < devW.toNat := by exact_mod_cast hdW
  have hdH' : (0 : ℚ) < devH.toNat := by exact_mod_cast hdH
  rw [renderRect, divFloat_eq_some hdH'.ne', Option.bind_eq_bind, Option.bind_some,
    divFloat_eq_some hH'.ne', Option.bind_eq_bind, Option.bind_some, pictureRect, fittedRect]
  simp only [gt_iff_lt, aspect_lt_iff hH hdH]
  split_ifs with hwide
  · obtain ⟨hlow, hhigh⟩ := fitted_side hH.le hdH hwide.le
    have hside : (winH.toInt : ℚ) * (devW.toNat / devH.toNat) =
        ((winH.toInt * devW.toNat : ℤ) : ℚ) / devH.toNat := by
      push_cast
      ring
    rw [hside, castInt32_div (by positivity) (by omega), Option.bind_some,
      int32_eq_some (by omega) (by omega), Option.bind_some, Int.tdiv_eq_ediv_of_nonneg (by omega)]
    rfl
  · obtain ⟨hlow, hhigh⟩ := fitted_side hW.le hdW (tall_le hwide)
    have hside : (winW.toInt : ℚ) / (devW.toNat / devH.toNat) =
        ((winW.toInt * devH.toNat : ℤ) : ℚ) / devW.toNat := by
      push_cast
      rw [div_div_eq_mul_div]
    rw [divFloat_eq_some (div_pos hdW' hdH').ne', Option.bind_some, hside,
      castInt32_div (by positivity) (by omega), Option.bind_some,
      int32_eq_some (by omega) (by omega), Option.bind_some, Int.tdiv_eq_ediv_of_nonneg (by omega)]
    rfl

theorem pictureRect_inside (hwinW : 0 < winW) (hwinH : 0 < winH) (hdevW : devW ≠ 0)
    (hdevH : devH ≠ 0) : (pictureRect winW winH devW devH).Inside winW.toInt winH.toInt :=
  fittedRect_inside (toInt_pos hwinW) (toInt_pos hwinH) (toNat_pos hdevW) (toNat_pos hdevH)

theorem pictureRect_pos_iff (hwinW : 0 < winW) (hwinH : 0 < winH) (hdevW : devW ≠ 0)
    (hdevH : devH ≠ 0) :
    0 < (pictureRect winW winH devW devH).w ∧ 0 < (pictureRect winW winH devW devH).h ↔
      (devH.toNat : ℤ) ≤ winH.toInt * devW.toNat ∧ (devW.toNat : ℤ) ≤ winW.toInt * devH.toNat :=
  fittedRect_pos_iff (toInt_pos hwinW) (toInt_pos hwinH) (toNat_pos hdevW) (toNat_pos hdevH)

end PictureRect

/-! ## Coordinates -/

theorem clampRel_mem (rel : ℤ) {size : ℤ} (hsize : 0 ≤ size) :
    0 ≤ clampRel rel size ∧ clampRel rel size ≤ size := by
  dsimp only [clampRel]
  split_ifs <;> omega

theorem clampRel_mono {rel rel' : ℤ} (size : ℤ) (h : rel ≤ rel') :
    clampRel rel size ≤ clampRel rel' size := by
  dsimp only [clampRel]
  split_ifs <;> omega

/-- The coordinate on the device of a coordinate of the window, along one axis. -/
def onDevice (win start size : ℤ) (dev : ℕ) : ℤ :=
  truncate ((clampRel (win - start) size : ℚ) / size * dev)

section OnDevice

variable {win start size : ℤ}

theorem onDevice_mem (win start : ℤ) (dev : ℕ) (hsize : 0 < size) :
    0 ≤ onDevice win start size dev ∧ onDevice win start size dev ≤ dev := by
  obtain ⟨hlow, hhigh⟩ := clampRel_mem (win - start) hsize.le
  have hlow' : (0 : ℚ) ≤ clampRel (win - start) size := by exact_mod_cast hlow
  have hhigh' : (clampRel (win - start) size : ℚ) ≤ size := by exact_mod_cast hhigh
  have hsize' : (0 : ℚ) < size := by exact_mod_cast hsize
  have hpart : (clampRel (win - start) size : ℚ) / size ≤ 1 := (div_le_one₀ hsize').2 hhigh'
  constructor
  · refine isRounding_truncate.intCast_le ?_
    rw [Int.cast_zero]
    positivity
  · refine isRounding_truncate.le_intCast ?_
    rw [Int.cast_natCast]
    exact mul_le_of_le_one_left (by positivity) hpart

theorem onDevice_mono {dev : ℕ} {win' : ℤ} (hsize : 0 < size) (h : win ≤ win') :
    onDevice win start size dev ≤ onDevice win' start size dev := by
  have hclamp : (clampRel (win - start) size : ℚ) ≤ clampRel (win' - start) size := by
    exact_mod_cast clampRel_mono size (sub_le_sub_right h start)
  have hsize' : (0 : ℚ) < size := by exact_mod_cast hsize
  refine isRounding_truncate.mono ?_
  gcongr

end OnDevice

theorem devCoord_eq {win start size : ℤ} {dev : UInt32} (hsize : 0 < size)
    (hdev : dev.toNat < 2 ^ 31) :
    devCoord (clampRel (win - start) size) size dev =
      some (onDevice win start size dev.toNat) := by
  obtain ⟨hlow, hhigh⟩ := onDevice_mem win start dev.toNat hsize
  have hsize' : (size : ℚ) ≠ 0 := by exact_mod_cast hsize.ne'
  rw [devCoord, divFloat_eq_some hsize']
  exact int32_eq_some (by rw [← onDevice]; omega) (by rw [← onDevice]; omega)

theorem devCoord_zero (rel : ℤ) (dev : UInt32) : devCoord rel 0 dev = none := by
  rw [devCoord, Int.cast_zero, divFloat_zero]
  rfl

/-! ## The mapping -/

section Mapping

variable {winW winH : Int32} {devW devH : UInt32}

/-- Up to the division the mapping is defined: the point relative to the picture. -/
theorem inputTransformCoords_eq_bind (x y : Int16) (hwinW : 0 < winW) (hwinH : 0 < winH)
    (hdevW : devW ≠ 0) (hdevH : devH ≠ 0) :
    inputTransformCoords x.toInt32 y.toInt32 winW winH devW devH =
      let rect := pictureRect winW winH devW devH
      (devCoord (clampRel (x.toInt - rect.x) rect.w) rect.w devW).bind fun devX =>
        (devCoord (clampRel (y.toInt - rect.y) rect.h) rect.h devH).bind fun devY =>
          some (Int32.ofInt devX, Int32.ofInt devY) := by
  have hguard : ¬(winW ≤ 0 ∨ winH ≤ 0 ∨ devW = 0 ∨ devH = 0) := by
    rintro (h | h | h | h)
    · exact absurd hwinW (Int32.not_lt.2 h)
    · exact absurd hwinH (Int32.not_lt.2 h)
    · exact hdevW h
    · exact hdevH h
  obtain ⟨hx, hy, -, -⟩ := pictureRect_inside hwinW hwinH hdevW hdevH
  have hW := winW.toInt_lt
  have hH := winH.toInt_lt
  have hxlow := x.le_toInt
  have hxhigh := x.toInt_lt
  have hylow := y.le_toInt
  have hyhigh := y.toInt_lt
  rw [inputTransformCoords, if_neg hguard, renderRect_eq hwinW hwinH hdevW hdevH]
  simp only [Int16.toInt_toInt32]
  dsimp only [bind, Option.bind_some]
  rw [int32_eq_some (by omega) (by omega), Option.bind_some, int32_eq_some (by omega) (by omega),
    Option.bind_some]
  rfl

/-- Where neither side of the picture is zero, the mapping is `onDevice` along both axes. -/
theorem inputTransformCoords_eq_some (x y : Int16) (hwinW : 0 < winW) (hwinH : 0 < winH)
    (hdevW : devW ≠ 0) (hdevH : devH ≠ 0) (hdevWlt : devW.toNat < 2 ^ 31)
    (hdevHlt : devH.toNat < 2 ^ 31) (hw : 0 < (pictureRect winW winH devW devH).w)
    (hh : 0 < (pictureRect winW winH devW devH).h) :
    inputTransformCoords x.toInt32 y.toInt32 winW winH devW devH =
      let rect := pictureRect winW winH devW devH
      some (Int32.ofInt (onDevice x.toInt rect.x rect.w devW.toNat),
        Int32.ofInt (onDevice y.toInt rect.y rect.h devH.toNat)) := by
  rw [inputTransformCoords_eq_bind x y hwinW hwinH hdevW hdevH]
  dsimp only
  rw [devCoord_eq hw hdevWlt, Option.bind_some, devCoord_eq hh hdevHlt, Option.bind_some]

/-- Where a side of the picture is zero, the mapping divides by it. -/
theorem inputTransformCoords_eq_none (x y : Int16) (hwinW : 0 < winW) (hwinH : 0 < winH)
    (hdevW : devW ≠ 0) (hdevH : devH ≠ 0)
    (hzero : (pictureRect winW winH devW devH).w = 0 ∨ (pictureRect winW winH devW devH).h = 0) :
    inputTransformCoords x.toInt32 y.toInt32 winW winH devW devH = none := by
  rw [inputTransformCoords_eq_bind x y hwinW hwinH hdevW hdevH]
  dsimp only
  rcases hzero with hw | hh
  · rw [hw, devCoord_zero, Option.bind_none]
  · simp only [hh, devCoord_zero, Option.bind_none, Option.bind_fun_none]

/-- What the mapping is for: every point of the window that an event carries has a point on the
device, and the points lie there in the same order. -/
structure MapsToDevice (winW winH : Int32) (devW devH : UInt32) : Prop where
  defined : ∀ x y : Int16,
    (inputTransformCoords x.toInt32 y.toInt32 winW winH devW devH).isSome
  bounded : ∀ (x y : Int16) dev,
    inputTransformCoords x.toInt32 y.toInt32 winW winH devW devH = some dev →
      (0 ≤ dev.1.toInt ∧ dev.1.toInt ≤ devW.toNat) ∧ 0 ≤ dev.2.toInt ∧ dev.2.toInt ≤ devH.toNat
  mono : ∀ (x y x' y' : Int16) dev dev',
    inputTransformCoords x.toInt32 y.toInt32 winW winH devW devH = some dev →
    inputTransformCoords x'.toInt32 y'.toInt32 winW winH devW devH = some dev' →
      (x ≤ x' → dev.1 ≤ dev'.1) ∧ (y ≤ y' → dev.2 ≤ dev'.2)

theorem toInt_ofInt_onDevice {win start size : ℤ} {dev : ℕ} (hsize : 0 < size)
    (hdev : dev < 2 ^ 31) :
    (Int32.ofInt (onDevice win start size dev)).toInt = onDevice win start size dev := by
  obtain ⟨hlow, hhigh⟩ := onDevice_mem win start dev hsize
  exact Int32.toInt_ofInt_of_le (by omega) (by omega)

theorem mapsToDevice_iff (hwinW : 0 < winW) (hwinH : 0 < winH) (hdevW : devW ≠ 0)
    (hdevH : devH ≠ 0) (hdevWlt : devW.toNat < 2 ^ 31) (hdevHlt : devH.toNat < 2 ^ 31) :
    MapsToDevice winW winH devW devH ↔
      (devH.toNat : ℤ) ≤ winH.toInt * devW.toNat ∧ (devW.toNat : ℤ) ≤ winW.toInt * devH.toNat := by
  rw [← pictureRect_pos_iff hwinW hwinH hdevW hdevH]
  constructor
  · intro h
    by_contra hpos
    obtain ⟨-, -, hw, hh⟩ := pictureRect_inside hwinW hwinH hdevW hdevH
    have hnone := inputTransformCoords_eq_none 0 0 hwinW hwinH hdevW hdevH (by omega)
    have hsome := h.defined 0 0
    rw [hnone] at hsome
    exact absurd hsome (by decide)
  · rintro ⟨hw, hh⟩
    have heq (x y : Int16) :=
      inputTransformCoords_eq_some x y hwinW hwinH hdevW hdevH hdevWlt hdevHlt hw hh
    refine ⟨fun x y => ?_, fun x y dev hdev => ?_, fun x y x' y' dev dev' hdev hdev' => ?_⟩
    · rw [heq]
      rfl
    · rw [heq] at hdev
      obtain rfl := Option.some.inj hdev
      rw [toInt_ofInt_onDevice hw hdevWlt, toInt_ofInt_onDevice hh hdevHlt]
      exact ⟨onDevice_mem _ _ _ hw, onDevice_mem _ _ _ hh⟩
    · rw [heq] at hdev hdev'
      obtain rfl := Option.some.inj hdev
      obtain rfl := Option.some.inj hdev'
      rw [Int32.le_iff_toInt_le, Int32.le_iff_toInt_le, toInt_ofInt_onDevice hw hdevWlt,
        toInt_ofInt_onDevice hw hdevWlt, toInt_ofInt_onDevice hh hdevHlt,
        toInt_ofInt_onDevice hh hdevHlt, Int16.le_iff_toInt_le, Int16.le_iff_toInt_le]
      exact ⟨fun h => onDevice_mono hw h, fun h => onDevice_mono hh h⟩

theorem mapsToDevice_phone : MapsToDevice 450 1000 1080 2400 :=
  (mapsToDevice_iff (by decide) (by decide) (by decide) (by decide) (by decide) (by decide)).2
    (by decide)

/-- A window of two rows: `render_w` is truncated to zero and `rel_x` divided by it. -/
theorem not_mapsToDevice_low : ¬MapsToDevice 300 2 1080 2400 := fun h =>
  absurd (h.defined 0 0) (by decide +kernel)

end Mapping

end Autoscrcpy
