import Autoscrcpy.Decode.FrameToNv12
import Autoscrcpy.Lib.Runs

/-!
# The textures of the renderer

`ensure_nv12_texture` keeps the textures for frames of one size. When a frame of another size comes
it releases them and creates them again in four steps, and remembers the size when all have
succeeded.

`ensured_iff`: the remembered size outlives the textures it was remembered for. A frame of that size
after an attempt that failed, or a first frame of size zero, is answered with textures that are not
there; in every other run a ready texture exists.
-/

namespace Autoscrcpy

open Runs

/-! ## The renderer -/

/-- `ID3D11Texture2D` with the size in its descriptor. -/
structure Texture2D where
  width : UInt32
  height : UInt32
  deriving DecidableEq, Repr

/-- `ID3D11ShaderResourceView` with the resource it was created for. -/
structure ShaderResourceView where
  resource : Option Texture2D
  deriving DecidableEq, Repr

/-- `video_renderer_t`: the size, the resources for it and `initialized`. -/
structure VideoRenderer where
  nv12Tex : Option Texture2D
  nv12Staging : Option Texture2D
  ySrv : Option ShaderResourceView
  uvSrv : Option ShaderResourceView
  videoWidth : UInt32
  videoHeight : UInt32
  initialized : Bool
  deriving DecidableEq, Repr

/-- The renderer behind `video_renderer_init`, which succeeds or fails. -/
def videoRendererInit (ok : Bool) : VideoRenderer where
  nv12Tex := none
  nv12Staging := none
  ySrv := none
  uvSrv := none
  videoWidth := 0
  videoHeight := 0
  initialized := ok

/-- Which of the four creation calls of `ensure_nv12_texture` would succeed. -/
structure Creations where
  texture : Bool
  staging : Bool
  ySrv : Bool
  uvSrv : Bool

def Creations.all (created : Creations) : Bool :=
  created.texture && created.staging && created.ySrv && created.uvSrv

/-- A creation call of D3D stores a pointer when it succeeds, and leaves it when it fails. -/
def storePointer {α : Type} (ok : Bool) (new : α) (pointer : Option α) : Option α :=
  if ok then some new else pointer

/-- "Release old resources". -/
def VideoRenderer.release (renderer : VideoRenderer) : VideoRenderer :=
  { renderer with ySrv := none, uvSrv := none, nv12Tex := none, nv12Staging := none }

/-- `ensure_nv12_texture`: what it returns and the renderer behind it. -/
def ensureNv12Texture (renderer : VideoRenderer) (width height : UInt32) (created : Creations) :
    Bool × VideoRenderer :=
  if renderer.videoWidth = width ∧ renderer.videoHeight = height then (true, renderer)
  else
    let renderer := renderer.release
    let desc : Texture2D := { width, height }
    let renderer := { renderer with nv12Tex := storePointer created.texture desc renderer.nv12Tex }
    if created.texture = false then (false, renderer)
    else
      let renderer :=
        { renderer with nv12Staging := storePointer created.staging desc renderer.nv12Staging }
      if created.staging = false then (false, renderer)
      else
        let renderer :=
          { renderer with ySrv := storePointer created.ySrv ⟨renderer.nv12Tex⟩ renderer.ySrv }
        if created.ySrv = false then (false, renderer)
        else
          let renderer :=
            { renderer with uvSrv := storePointer created.uvSrv ⟨renderer.nv12Tex⟩ renderer.uvSrv }
          if created.uvSrv = false then (false, renderer)
          else (true, { renderer with videoWidth := width, videoHeight := height })

/-- A call of `video_renderer_render`: the frame, `none` where it or its data is NULL, and what the
calls of D3D would give. -/
structure RenderCall where
  frame : Option VideoFrame
  created : Creations

/-- The size for which `video_renderer_render` calls `ensure_nv12_texture`. -/
def VideoRenderer.requested (renderer : VideoRenderer) (call : RenderCall) :
    Option (UInt32 × UInt32) :=
  if renderer.initialized = false then none
  else call.frame.map fun frame => (frame.width, frame.height)

/-- `video_renderer_render`. What follows `ensure_nv12_texture` fills and draws the textures, and
changes none of these fields. -/
def videoRendererRender (renderer : VideoRenderer) (call : RenderCall) : VideoRenderer :=
  match renderer.requested call with
  | none => renderer
  | some (width, height) => (ensureNv12Texture renderer width height call.created).2

/-- All four resources are there, created for frames of this size. -/
structure VideoRenderer.Ready (renderer : VideoRenderer) (width height : UInt32) : Prop where
  nv12Tex : renderer.nv12Tex = some ⟨width, height⟩
  nv12Staging : renderer.nv12Staging = some ⟨width, height⟩
  ySrv : renderer.ySrv = some ⟨some ⟨width, height⟩⟩
  uvSrv : renderer.uvSrv = some ⟨some ⟨width, height⟩⟩

/-- Where the call of `ensure_nv12_texture` returns true, the textures are ready. -/
def VideoRenderer.Ensures (renderer : VideoRenderer) (call : RenderCall) : Prop :=
  ∀ width height, renderer.requested call = some (width, height) →
    (ensureNv12Texture renderer width height call.created).1 = true →
      (ensureNv12Texture renderer width height call.created).2.Ready width height

/-! ## One call -/

section Call

variable {renderer : VideoRenderer} {width height : UInt32} {created : Creations}

theorem ensureNv12Texture_hit
    (hsize : (renderer.videoWidth, renderer.videoHeight) = (width, height)) :
    ensureNv12Texture renderer width height created = (true, renderer) :=
  if_pos (Prod.mk.inj hsize)

/-- A frame of another size and no failure. -/
theorem ensureNv12Texture_created
    (hsize : (renderer.videoWidth, renderer.videoHeight) ≠ (width, height))
    (hall : created.all = true) :
    ensureNv12Texture renderer width height created =
      (true, { renderer with
        nv12Tex := some ⟨width, height⟩
        nv12Staging := some ⟨width, height⟩
        ySrv := some ⟨some ⟨width, height⟩⟩
        uvSrv := some ⟨some ⟨width, height⟩⟩
        videoWidth := width
        videoHeight := height }) := by
  obtain ⟨texture, staging, ySrv, uvSrv⟩ := created
  simp only [Creations.all, Bool.and_eq_true] at hall
  obtain ⟨⟨⟨rfl, rfl⟩, rfl⟩, rfl⟩ := hall
  rw [ensureNv12Texture, if_neg fun h => hsize (Prod.ext h.1 h.2)]
  rfl

/-- A frame of another size and a failure: the size stays, and `uv_srv`, which is created last, is
NULL. -/
theorem ensureNv12Texture_failed
    (hsize : (renderer.videoWidth, renderer.videoHeight) ≠ (width, height))
    (hall : created.all = false) :
    ∃ nv12Tex nv12Staging ySrv, ensureNv12Texture renderer width height created =
      (false, { renderer with nv12Tex, nv12Staging, ySrv, uvSrv := none }) := by
  obtain ⟨texture, staging, ySrv, uvSrv⟩ := created
  rw [ensureNv12Texture, if_neg fun h => hsize (Prod.ext h.1 h.2)]
  cases texture with
  | false => exact ⟨_, _, _, rfl⟩
  | true =>
    cases staging with
    | false => exact ⟨_, _, _, rfl⟩
    | true =>
      cases ySrv with
      | false => exact ⟨_, _, _, rfl⟩
      | true =>
        cases uvSrv with
        | false => exact ⟨_, _, _, rfl⟩
        | true => exact absurd hall (by decide)

end Call

/-! ## The frames and the failures -/

/-- What the frames so far and the failures come to: the size of the last frame for which the
textures were created, and whether they stand, no attempt for another size having failed since. -/
structure Attempts where
  size : UInt32 × UInt32
  standing : Bool
  deriving DecidableEq, Repr

/-- Before the first frame: no textures, and the size zero. -/
def Attempts.start : Attempts where
  size := (0, 0)
  standing := false

/-- A frame of the size of the textures is no attempt. -/
def Attempts.next (attempts : Attempts) (call : RenderCall) : Attempts :=
  match call.frame with
  | none => attempts
  | some frame =>
      if (frame.width, frame.height) = attempts.size then attempts
      else if call.created.all then { size := (frame.width, frame.height), standing := true }
      else { attempts with standing := false }

/-- A frame of the size of the textures comes only while they stand. -/
def Attempts.Allows (attempts : Attempts) (call : RenderCall) : Prop :=
  ∀ frame, call.frame = some frame → (frame.width, frame.height) = attempts.size →
    attempts.standing = true

/-- The renderer keeps the size and, as long as they stand, the textures of that size. -/
structure KeepsTextures (renderer : VideoRenderer) (attempts : Attempts) : Prop where
  initialized : renderer.initialized = true
  size : (renderer.videoWidth, renderer.videoHeight) = attempts.size
  standing : attempts.standing = true → renderer.Ready renderer.videoWidth renderer.videoHeight
  fallen : attempts.standing = false → renderer.uvSrv = none

theorem keeps_start : KeepsTextures (videoRendererInit true) Attempts.start :=
  ⟨rfl, rfl, fun h => absurd h (by decide), fun _ => rfl⟩

section KeepsTextures

variable {renderer : VideoRenderer} {attempts : Attempts} {call : RenderCall}

theorem KeepsTextures.requested (h : KeepsTextures renderer attempts) :
    renderer.requested call = call.frame.map fun frame => (frame.width, frame.height) := by
  rw [VideoRenderer.requested, h.initialized, if_neg (by decide)]

theorem KeepsTextures.render (h : KeepsTextures renderer attempts) :
    KeepsTextures (videoRendererRender renderer call) (attempts.next call) := by
  rw [videoRendererRender, h.requested, Attempts.next]
  cases hframe : call.frame with
  | none => exact h
  | some frame =>
    dsimp only [Option.map_some]
    rw [← h.size]
    by_cases hsize : (renderer.videoWidth, renderer.videoHeight) = (frame.width, frame.height)
    · rw [if_pos hsize.symm, ensureNv12Texture_hit hsize]
      exact h
    rw [if_neg (Ne.symm hsize)]
    cases hall : call.created.all with
    | true =>
      rw [ensureNv12Texture_created hsize hall, if_pos rfl]
      exact ⟨h.initialized, rfl, fun _ => ⟨rfl, rfl, rfl, rfl⟩, Bool.noConfusion⟩
    | false =>
      obtain ⟨_, _, _, heq⟩ := ensureNv12Texture_failed hsize hall
      rw [heq, if_neg Bool.false_ne_true]
      exact ⟨h.initialized, rfl, Bool.noConfusion, fun _ => rfl⟩

/-- A call goes wrong exactly where it takes textures that do not stand for ready ones. -/
theorem KeepsTextures.ensures_iff (h : KeepsTextures renderer attempts) :
    renderer.Ensures call ↔ attempts.Allows call := by
  rw [VideoRenderer.Ensures, Attempts.Allows, h.requested]
  cases hframe : call.frame with
  | none => simp
  | some frame =>
    simp only [Option.map_some, Option.some.injEq, Prod.mk.injEq]
    constructor
    · rintro hensures _ rfl hsize
      by_contra hfallen
      rw [← h.size] at hsize
      have hready := hensures _ _ ⟨rfl, rfl⟩
      rw [ensureNv12Texture_hit hsize.symm] at hready
      have huv := (hready rfl).uvSrv
      rw [h.fallen (by simpa using hfallen)] at huv
      exact absurd huv (by simp)
    · rintro hallows width height ⟨rfl, rfl⟩ htrue
      by_cases hsize : (renderer.videoWidth, renderer.videoHeight) = (frame.width, frame.height)
      · rw [ensureNv12Texture_hit hsize]
        have hready := h.standing (hallows frame rfl (hsize.symm.trans h.size))
        obtain ⟨hw, hh⟩ := Prod.mk.inj hsize
        rwa [hw, hh] at hready
      · cases hall : call.created.all with
        | true =>
          rw [ensureNv12Texture_created hsize hall]
          exact ⟨rfl, rfl, rfl, rfl⟩
        | false =>
          obtain ⟨_, _, _, heq⟩ := ensureNv12Texture_failed hsize hall
          rw [heq] at htrue
          exact absurd htrue Bool.false_ne_true

end KeepsTextures

/-! ## Whole runs -/

theorem requested_of_not_initialized {renderer : VideoRenderer} (h : renderer.initialized = false)
    (call : RenderCall) : renderer.requested call = none := if_pos h

/-- A renderer that was not initialized asks for no textures. -/
theorem ensures_of_not_initialized (calls : List RenderCall) :
    ∀ x ∈ visits videoRendererRender (videoRendererInit false) calls, x.1.Ensures x.2 := by
  have hkept : ∀ x ∈ visits videoRendererRender (videoRendererInit false) calls,
      x.1.initialized = false → (videoRendererRender x.1 x.2).initialized = false := by
    intro x _ h
    rwa [videoRendererRender, requested_of_not_initialized h]
  intro x hx width height hrequested
  have hinit := (invariant (I := fun r => r.initialized = false) hkept rfl).1 x hx
  rw [requested_of_not_initialized hinit] at hrequested
  exact absurd hrequested (by simp)

/-- The textures are ready whenever `ensure_nv12_texture` returns true, if and only if no frame of
their size comes after an attempt that failed, and none of size zero before the first textures. -/
theorem ensured_iff (ok : Bool) (calls : List RenderCall) :
    (∀ x ∈ visits videoRendererRender (videoRendererInit ok) calls, x.1.Ensures x.2) ↔
      (ok = true → ∀ x ∈ visits Attempts.next Attempts.start calls, x.1.Allows x.2) := by
  cases ok with
  | true =>
    have hstep : ∀ renderer attempts call, KeepsTextures renderer attempts →
        KeepsTextures (videoRendererRender renderer call) (Attempts.next attempts call) :=
      fun _ _ _ h => h.render
    have hruns := forall_visits_iff hstep (P := fun x => x.1.Ensures x.2)
      (Q := fun x => x.1.Allows x.2) (fun _ _ _ h => h.ensures_iff) keeps_start calls
    exact hruns.trans ⟨fun h _ => h, fun h => h rfl⟩
  | false => exact iff_of_true (ensures_of_not_initialized calls) Bool.noConfusion

/-- A frame, one of another size whose staging texture cannot be created, and again one of the first
size: `ensure_nv12_texture` returns true, and the staging texture is NULL. -/
theorem not_ensured_rotation :
    ¬∀ x ∈ visits videoRendererRender (videoRendererInit true)
      [⟨some ⟨fun _ => some 0, 3888000, 1080, 2400, 23⟩, ⟨true, true, true, true⟩⟩,
        ⟨some ⟨fun _ => some 0, 3888000, 2400, 1080, 23⟩, ⟨true, false, true, true⟩⟩,
        ⟨some ⟨fun _ => some 0, 3888000, 1080, 2400, 23⟩, ⟨true, true, true, true⟩⟩],
      x.1.Ensures x.2 := by
  intro h
  rw [visits_cons, visits_cons, visits_cons] at h
  obtain ⟨-, h⟩ := List.forall_mem_cons.1 h
  obtain ⟨-, h⟩ := List.forall_mem_cons.1 h
  obtain ⟨h, -⟩ := List.forall_mem_cons.1 h
  have hready := h 1080 2400 (by decide) (by decide)
  exact absurd hready.nv12Staging (by decide)

end Autoscrcpy
