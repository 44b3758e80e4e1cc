import Autoscrcpy.Lib.Heap
import Autoscrcpy.Lib.Runs

/-!
# The D3D context

`d3d_context.c`: the device, its swap chain, and the view of the back buffer that frames are drawn
through. A resize drops the view, resizes the buffers and takes a new view, and each of its steps
can fail. References of COM are blocks of a heap: a call that returns an object allocates one, and
`Release` frees it.

`d3dContext_views`: buffers are resized only when nothing of them is held, frames are drawn through
a view of buffers of the current size, and in the end every reference has been released once.
-/

namespace Autoscrcpy

/-! ## The context -/

/-- `d3d_context_t`, and what the libraries behind it keep: the view that the output merger is bound
to, the viewport, the size of the back buffers, and the references. -/
structure D3DContext where
  device : Option ℕ
  deviceCtx : Option ℕ
  swapChain : Option ℕ
  rtv : Option ℕ
  width : Int32
  height : Int32
  bound : Option ℕ
  viewport : Int32 × Int32
  buffers : Int32 × Int32
  heap : Heap
  deriving DecidableEq, Repr

/-- A context whose memory was set to zero. -/
def D3DContext.zeroed : D3DContext := ⟨none, none, none, none, 0, 0, none, (0, 0), (0, 0), .init⟩

/-- Which calls of `d3d_context_init` succeed. -/
structure D3DInitEnv where
  created : Bool
  multithread : Bool
  getBuffer : Bool
  createView : Bool

/-- Which calls of `d3d_context_resize` succeed. -/
structure D3DResizeEnv where
  resizeBuffers : Bool
  getBuffer : Bool
  createView : Bool

namespace D3DContext

/-- The references of the context other than its view. -/
def refs (ctx : D3DContext) : List ℕ :=
  ctx.swapChain.toList ++ (ctx.deviceCtx.toList ++ ctx.device.toList)

/-- `GetBuffer`, `CreateRenderTargetView` and the release of the back buffer; nothing when one of
the calls fails. -/
def takeView (ctx : D3DContext) (getBuffer createView : Bool) : D3DContext :=
  if getBuffer = false then ctx
  else
    let backBuffer := ctx.heap.next
    let h := ctx.heap.malloc
    if createView then { ctx with rtv := some h.next, heap := h.malloc.free backBuffer }
    else { ctx with heap := h.free backBuffer }

/-- `OMSetRenderTargets` and `RSSetViewports` with the view and the size of the context. -/
def bindView (ctx : D3DContext) : D3DContext :=
  { ctx with bound := ctx.rtv, viewport := (ctx.width, ctx.height) }

end D3DContext

/-- `d3d_context_destroy`; the pointers stay. -/
def d3dContextDestroy (ctx : D3DContext) : D3DContext :=
  { ctx with
    heap := (((ctx.heap.freePtr ctx.rtv).freePtr ctx.swapChain).freePtr ctx.deviceCtx).freePtr
      ctx.device }

/-- `d3d_context_init` up to the back buffer: the device with its swap chain, and
`ID3D10Multithread`, which is released at once. -/
def d3dContextDevice (width height : Int32) (multithread : Bool) : D3DContext :=
  let h := Heap.init
  let made := h.malloc.malloc.malloc
  { D3DContext.zeroed with
    width, height
    swapChain := some h.next
    device := some h.malloc.next
    deviceCtx := some h.malloc.malloc.next
    buffers := (width, height)
    heap := if multithread then made.malloc.free made.next else made }

/-- `d3d_context_init` on zeroed memory. -/
def d3dContextInit (width height : Int32) (env : D3DInitEnv) : Bool × D3DContext :=
  if env.created = false then (false, { D3DContext.zeroed with width, height })
  else
    let ctx :=
      (d3dContextDevice width height env.multithread).takeView env.getBuffer env.createView
    if ctx.rtv = none then (false, d3dContextDestroy ctx) else (true, ctx.bindView)

/-- `d3d_context_resize` up to the call of `ResizeBuffers`. -/
def d3dContextUnbind (ctx : D3DContext) (width height : Int32) : D3DContext :=
  { ctx with width, height, bound := none, rtv := none, heap := ctx.heap.freePtr ctx.rtv }

/-- `d3d_context_resize`. -/
def d3dContextResize (ctx : D3DContext) (width height : Int32) (env : D3DResizeEnv) : D3DContext :=
  if width = 0 ∨ height = 0 then ctx
  else
    let ctx := d3dContextUnbind ctx width height
    if env.resizeBuffers = false then ctx
    else
      let ctx := { ctx with buffers := (width, height) }
      let ctx := ctx.takeView env.getBuffer env.createView
      if ctx.rtv = none then ctx else ctx.bindView

/-- `d3d_context_begin_frame`; a call that returns at once leaves the context as it is. -/
def d3dContextBeginFrame (ctx : D3DContext) : D3DContext :=
  match ctx.rtv with
  | none => ctx
  | some view => { ctx.bindView with heap := ctx.heap.use view }

/-! ## The invariant -/

/-- The references are those of the context. A view is a view of buffers of the current size, and it
is the one that is bound; without a view none is bound. -/
structure D3DContext.Inv (ctx : D3DContext) : Prop where
  owns : ctx.heap.Owns (ctx.rtv.toList ++ ctx.refs)
  bound : ctx.bound = ctx.rtv
  size : ctx.rtv ≠ none →
    ctx.buffers = (ctx.width, ctx.height) ∧ ctx.viewport = (ctx.width, ctx.height)

section

variable {ctx : D3DContext}

/-- A view is taken or none is, and the back buffer is not kept. -/
theorem takeView_owns (ho : ctx.heap.Owns ctx.refs) (hrtv : ctx.rtv = none)
    (getBuffer createView : Bool) :
    (ctx.takeView getBuffer createView).heap.Owns
        ((ctx.takeView getBuffer createView).rtv.toList ++ ctx.refs) ∧
      ctx.takeView getBuffer createView =
        { ctx with
          rtv := (ctx.takeView getBuffer createView).rtv
          heap := (ctx.takeView getBuffer createView).heap } := by
  unfold D3DContext.takeView
  split_ifs
  · rw [hrtv]
    exact ⟨ho, by rw [← hrtv]⟩
  · exact ⟨(ho.malloc.malloc.perm (List.Perm.swap ..)).free, rfl⟩
  · rw [hrtv]
    exact ⟨ho.malloc.free, by rw [← hrtv]⟩

theorem d3dContextDestroy_owns (ho : ctx.heap.Owns (ctx.rtv.toList ++ ctx.refs)) :
    (d3dContextDestroy ctx).heap.Owns [] := by
  have hrest := ho.freePtr.freePtr.freePtr
  rw [← List.append_nil ctx.device.toList] at hrest
  exact hrest.freePtr

/-- The view that a sound context without one takes makes it sound. -/
theorem takeView_inv (ho : ctx.heap.Owns ctx.refs) (hrtv : ctx.rtv = none)
    (hbound : ctx.bound = none) (hbuffers : ctx.buffers = (ctx.width, ctx.height))
    (getBuffer createView : Bool) :
    let taken := ctx.takeView getBuffer createView
    if taken.rtv = none then taken.Inv else taken.bindView.Inv := by
  intro taken
  obtain ⟨howns, heq⟩ := takeView_owns ho hrtv getBuffer createView
  have hrefs : taken.refs = ctx.refs := by rw [show taken = _ from heq]; rfl
  split_ifs with hnone
  · refine ⟨by rw [hrefs]; exact howns, ?_, fun h => absurd hnone h⟩
    rw [hnone, show taken = _ from heq]
    exact hbound
  · refine ⟨by rw [← hrefs] at howns; exact howns, rfl, fun _ => ⟨?_, rfl⟩⟩
    show taken.buffers = (taken.width, taken.height)
    rw [show taken = _ from heq]
    exact hbuffers

/-- A context that was set up is sound; after a failure nothing is held. -/
theorem d3dContextInit_owns (width height : Int32) (env : D3DInitEnv) :
    let r := d3dContextInit width height env
    if r.1 then r.2.Inv else r.2.heap.Owns [] := by
  have howns : (d3dContextDevice width height env.multithread).heap.Owns
      (d3dContextDevice width height env.multithread).refs := by
    have hmade := Heap.owns_init.malloc.malloc.malloc.perm (by decide : [2, 1, 0].Perm [0, 2, 1])
    unfold d3dContextDevice
    dsimp only
    split_ifs
    · exact hmade.malloc.free
    · exact hmade
  have hinv := takeView_inv howns rfl rfl rfl env.getBuffer env.createView
  dsimp only [d3dContextInit] at hinv ⊢
  by_cases hcreated : env.created = false
  · simp only [if_pos hcreated, Bool.false_eq_true, if_false]
    exact Heap.owns_init
  · rw [if_neg hcreated]
    split_ifs at hinv ⊢ with hrtv htrue htrue
    · exact absurd htrue (by simp)
    · exact d3dContextDestroy_owns hinv.owns
    · exact hinv
    · exact absurd rfl htrue

/-- At the call of `ResizeBuffers` no view of the buffers is held or bound. -/
theorem d3dContextUnbind_owns (h : ctx.Inv) (width height : Int32) :
    (d3dContextUnbind ctx width height).heap.Owns ctx.refs ∧
      (d3dContextUnbind ctx width height).bound = none :=
  ⟨h.owns.freePtr, rfl⟩

theorem d3dContextResize_inv (h : ctx.Inv) (width height : Int32) (env : D3DResizeEnv) :
    (d3dContextResize ctx width height env).Inv := by
  have howns := (d3dContextUnbind_owns h width height).1
  dsimp only [d3dContextResize]
  split_ifs with hzero hresize
  · exact h
  · exact ⟨howns, rfl, fun hne => absurd rfl hne⟩
  all_goals
    have hinv := @takeView_inv
      { d3dContextUnbind ctx width height with buffers := (width, height) }
      howns rfl rfl rfl env.getBuffer env.createView
    dsimp only at hinv
  · rwa [if_pos ‹_›] at hinv
  · rwa [if_neg ‹_›] at hinv

theorem d3dContextBeginFrame_inv (h : ctx.Inv) : (d3dContextBeginFrame ctx).Inv := by
  unfold d3dContextBeginFrame
  cases hrtv : ctx.rtv with
  | none => exact h
  | some view =>
    have huse := h.owns.use (show view ∈ ctx.rtv.toList ++ ctx.refs by simp [hrtv])
    dsimp only
    rw [huse]
    exact ⟨h.owns, rfl, fun hne => ⟨(h.size hne).1, rfl⟩⟩

end

/-! ## Runs -/

/-- A resize of the window or a frame. -/
inductive D3DOp where
  | resize (width height : Int32) (env : D3DResizeEnv)
  | frame

def d3dStep (ctx : D3DContext) : D3DOp → D3DContext
  | .resize width height env => d3dContextResize ctx width height env
  | .frame => d3dContextBeginFrame ctx

theorem d3dStep_inv {ctx : D3DContext} (h : ctx.Inv) (op : D3DOp) : (d3dStep ctx op).Inv := by
  cases op with
  | resize width height env => exact d3dContextResize_inv h width height env
  | frame => exact d3dContextBeginFrame_inv h

/-- What a step owes: it resizes the buffers only when no view of them is held or bound, and it
begins a frame, if at all, on a live view of buffers of the current size, which the viewport
covers. -/
def D3DOp.Ok (ctx : D3DContext) : D3DOp → Prop
  | .resize width height _ => width ≠ 0 → height ≠ 0 →
      (d3dContextUnbind ctx width height).heap.Owns ctx.refs ∧
        (d3dContextUnbind ctx width height).bound = none
  | .frame => ∀ view, ctx.rtv = some view →
      let ctx' := d3dContextBeginFrame ctx
      ctx.heap.Live view ∧ ctx'.bound = some view ∧ ctx'.buffers = (ctx.width, ctx.height) ∧
        ctx'.viewport = (ctx.width, ctx.height)

/-- In every run of resizes and frames on a context that was set up, whichever of the calls of D3D
fail: buffers are resized only when nothing of them is held, frames are drawn on a live view of
buffers of the current size, and when the context is destroyed every reference has been released
exactly once. -/
theorem d3dContext_views {width height : Int32} {env : D3DInitEnv}
    (hinit : (d3dContextInit width height env).1 = true) (ops : List D3DOp) :
    let ctx := (d3dContextInit width height env).2
    (∀ x ∈ Runs.visits d3dStep ctx ops, x.2.Ok x.1) ∧
      (d3dContextDestroy (Runs.final d3dStep ctx ops)).heap.Owns [] := by
  intro ctx
  have hstart : ctx.Inv := by
    have := d3dContextInit_owns width height env
    dsimp only at this
    rwa [if_pos hinit] at this
  have hinv : (∀ x ∈ Runs.visits d3dStep ctx ops, x.1.Inv) ∧ (Runs.final d3dStep ctx ops).Inv :=
    Runs.invariant (I := D3DContext.Inv) (fun x _ h => d3dStep_inv h x.2) hstart
  refine ⟨fun x hx => ?_, d3dContextDestroy_owns hinv.2.owns⟩
  obtain ⟨ctx, op⟩ := x
  have h : ctx.Inv := hinv.1 _ hx
  cases op with
  | resize w h' e => exact fun _ _ => d3dContextUnbind_owns h w h'
  | frame =>
    intro view hview
    have hrtv : ctx.rtv = some view := hview
    have hlive := h.owns.live (show view ∈ ctx.rtv.toList ++ ctx.refs by simp [hrtv])
    have hsize := h.size (by rw [hrtv]; simp)
    simp only [d3dContextBeginFrame, hrtv]
    exact ⟨hlive, hrtv, hsize.1, rfl⟩

/-- A resize whose back buffer does not come and another that succeeds, with a frame after each. -/
theorem d3dContext_views_twice :
    let ctx := (d3dContextInit 800 600 ⟨true, true, true, true⟩).2
    let ops := [.resize 640 480 ⟨true, false, true⟩, .frame, .resize 320 240 ⟨true, true, true⟩,
      .frame]
    (∀ x ∈ Runs.visits d3dStep ctx ops, x.2.Ok x.1) ∧
      (d3dContextDestroy (Runs.final d3dStep ctx ops)).heap.Owns [] :=
  d3dContext_views (by decide) _

end Autoscrcpy
