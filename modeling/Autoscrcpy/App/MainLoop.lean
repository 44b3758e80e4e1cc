import Autoscrcpy.Control.PointerEvents
import Autoscrcpy.Render.AspectRatio
import Autoscrcpy.Render.D3DContext
import Autoscrcpy.Render.TextureCache
import Autoscrcpy.Script.Message

/-!
# The main loop

`application_run` handles a message of the window when there is one, and otherwise draws the frame
that the video thread has left. The size of the device is kept twice, by the application and by the
controller, and that of the window three times, by the D3D context, the renderer and the controller.

`touches_carry_frame_size`: a touch or scroll message carries the size of the last frame that the
loop took. `touch_lands`: it lands where the picture on the screen shows that place of the device,
up to one pixel of the window and one of the device.
-/

namespace Autoscrcpy

open Rounding Runs

/-! ## The state -/

/-- What `DrawIndexed` has drawn: the viewport and the transform that it drew with, whether that
transform was uploaded for this frame, and the size of the frame. -/
structure DrawnPicture where
  viewport : Int32 × Int32
  transform : Matrix (Fin 4) (Fin 4) ℚ
  uploaded : Bool
  width : UInt32
  height : UInt32

/-- What the main loop changes of `application_t`. `windowWidth` and `windowHeight` are those of the
renderer, and `transform` is what its constant buffer holds. -/
structure MainLoop where
  deviceWidth : UInt32
  deviceHeight : UInt32
  d3d : D3DContext
  renderer : VideoRenderer
  windowWidth : UInt32
  windowHeight : UInt32
  transform : Matrix (Fin 4) (Fin 4) ℚ
  controller : Controller
  picture : Option DrawnPicture

/-- `controller_init`. -/
def controllerInit : Controller := ⟨0, 0, 0, 0, false⟩

/-- The application as `application_init` leaves it, with the D3D context that it set up, and as
`application_run` takes it to its loop: the size is that of the video socket, zero without video. -/
def mainLoopStart (d3d : D3DContext) (deviceWidth deviceHeight : UInt32) (control : Bool) :
    MainLoop where
  deviceWidth
  deviceHeight
  d3d
  renderer := videoRendererInit true
  windowWidth := d3d.width.toUInt32
  windowHeight := d3d.height.toUInt32
  transform := 1
  controller := { controllerInit with deviceWidth, deviceHeight, enabled := control }
  picture := none

/-! ## Messages of the window -/

def loword (l : UInt32) : UInt16 := l.toUInt16

def hiword (l : UInt32) : UInt16 := (l >>> 16).toUInt16

/-- The messages that `WndProc` handles, with the parameters that it reads. -/
inductive WindowMsg where
  | keyDown (wParam : UInt32)
  | keyUp (wParam : UInt32)
  | lButtonDown (lParam : UInt32)
  | lButtonUp (lParam : UInt32)
  | rButtonDown (lParam : UInt32)
  | rButtonUp (lParam : UInt32)
  | mouseMove (wParam lParam : UInt32)
  | mouseWheel (wParam lParam : UInt32)
  | size (lParam : UInt32) (env : D3DResizeEnv)

/-- The point of a mouse message: `(int16_t)LOWORD(lParam)` and `(int16_t)HIWORD(lParam)`. -/
def messagePoint (lParam : UInt32) : Int16 × Int16 :=
  ((loword lParam).toInt16, (hiword lParam).toInt16)

/-- `MK_LBUTTON` and `MK_RBUTTON` of a move. -/
def moveButtons (wParam : UInt32) : UInt32 :=
  (if wParam &&& 1 ≠ 0 then 1 else 0) ||| (if wParam &&& 2 ≠ 0 then 2 else 0)

/-- `on_resize`. -/
def onResize (app : MainLoop) (width height : Int32) (env : D3DResizeEnv) : MainLoop :=
  if 0 < width ∧ 0 < height then
    { app with
      d3d := d3dContextResize app.d3d width height env
      windowWidth := width.toUInt32
      windowHeight := height.toUInt32
      controller :=
        { app.controller with windowWidth := width.toUInt32, windowHeight := height.toUInt32 } }
  else app

/-- What `WndProc` changes: only `WM_SIZE` changes anything. -/
def wndProc (app : MainLoop) : WindowMsg → MainLoop
  | .size lParam env =>
      onResize app (loword lParam).toUInt32.toInt32 (hiword lParam).toUInt32.toInt32 env
  | _ => app

section Sends

variable (transform : CoordTransform) (held : UInt32 → Bool)

/-- `on_mouse_event` at the point of a message. -/
def onMouseEvent (app : MainLoop) (lParam buttons action : UInt32) : List ControlMsg :=
  controllerOnMouseEvent transform app.controller (messagePoint lParam).1.toInt32
    (messagePoint lParam).2.toInt32 buttons action

/-- The control messages that `WndProc` makes of a message. -/
def wndProcSends (app : MainLoop) : WindowMsg → List ControlMsg
  | .keyDown vk => controllerOnKeyEvent app.controller held vk true
  | .keyUp vk => controllerOnKeyEvent app.controller held vk false
  | .lButtonDown lParam => onMouseEvent transform app lParam 1 1
  | .lButtonUp lParam => onMouseEvent transform app lParam 1 0
  | .rButtonDown lParam => onMouseEvent transform app lParam 2 1
  | .rButtonUp lParam => onMouseEvent transform app lParam 2 0
  | .mouseMove wParam lParam => onMouseEvent transform app lParam (moveButtons wParam) 2
  | .mouseWheel wParam lParam =>
      controllerOnWheelEvent transform app.controller (messagePoint lParam).1.toInt32
        (messagePoint lParam).2.toInt32 (hiword wParam).toInt16.toInt32
  | .size .. => []

end Sends

/-! ## Frames -/

/-- What the system answers while a frame is drawn: the `WM_SIZE` messages that `SetWindowPos` sends
before it returns, which creation calls succeed, and whether the staging texture and the constant
buffer can be mapped. -/
structure FrameEnv where
  sizes : List (UInt32 × D3DResizeEnv)
  created : Creations
  filled : Bool
  uploaded : Bool

/-- "Detect video dimension change (e.g. device rotation)". -/
def detectSizeChange (app : MainLoop) (frame : FrameData) (env : FrameEnv) : MainLoop :=
  if frame.width = app.deviceWidth ∧ frame.height = app.deviceHeight then app
  else
    env.sizes.foldl (fun app size => wndProc app (.size size.1 size.2))
      { app with
        deviceWidth := frame.width
        deviceHeight := frame.height
        controller :=
          { app.controller with deviceWidth := frame.width, deviceHeight := frame.height } }

/-- The `video_frame_t` that takes over the data of a frame; nothing where that is NULL. -/
def FrameData.toVideoFrame (frame : FrameData) : Option VideoFrame :=
  frame.data.map fun bytes => ⟨fun i => bytes[i]?, 0, frame.width, frame.height, 0⟩

/-- The constant buffer behind `update_aspect_ratio_transform`, which may fail to map it. -/
def uploadTransform (app : MainLoop) (uploaded : Bool) : Matrix (Fin 4) (Fin 4) ℚ :=
  if uploaded then
    (updateAspectRatioTransform app.renderer.videoWidth app.renderer.videoHeight app.windowWidth
      app.windowHeight).getD app.transform
  else app.transform

/-- `video_renderer_render` behind its call of `ensure_nv12_texture`. Without a render target what
it draws is not shown. -/
def drawTextures (app : MainLoop) (width height : UInt32) (env : FrameEnv) : MainLoop :=
  if env.filled = false then app
  else
    let app := { app with transform := uploadTransform app env.uploaded }
    if app.d3d.bound = none then app
    else
      { app with
        picture := some ⟨app.d3d.viewport, app.transform, env.uploaded, width, height⟩ }

/-- `d3d_context_begin_frame` and `video_renderer_render`. -/
def renderFrame (app : MainLoop) (frame : Option VideoFrame) (env : FrameEnv) : MainLoop :=
  let app := { app with d3d := d3dContextBeginFrame app.d3d }
  let call : RenderCall := ⟨frame, env.created⟩
  let renderer := videoRendererRender app.renderer call
  match app.renderer.requested call with
  | none => app
  | some (width, height) =>
      if (ensureNv12Texture app.renderer width height env.created).1 = false then
        { app with renderer }
      else drawTextures { app with renderer } width height env

/-- The idle branch with a frame. -/
def idleFrame (app : MainLoop) (frame : FrameData) (env : FrameEnv) : MainLoop :=
  renderFrame (detectSizeChange app frame env) frame.toVideoFrame env

/-! ## The loop -/

/-- A turn of the loop: a message, with the keys that `GetKeyState` finds held, or a frame. -/
inductive LoopTurn where
  | message (msg : WindowMsg) (held : UInt32 → Bool)
  | frame (frame : FrameData) (env : FrameEnv)

def mainLoopStep (app : MainLoop) : LoopTurn → MainLoop
  | .message msg _ => wndProc app msg
  | .frame frame env => idleFrame app frame env

/-- The control messages of a turn. -/
def mainLoopSends (transform : CoordTransform) (app : MainLoop) : LoopTurn → List ControlMsg
  | .message msg held => wndProcSends transform held app msg
  | .frame .. => []

/-! ## The sizes -/

/-- The window sizes agree, that of the controller once it has been told one, and so do the device
sizes. -/
structure MainLoop.Inv (app : MainLoop) : Prop where
  d3d : app.d3d.Inv
  initialized : app.renderer.initialized = true
  width : 0 < app.d3d.width
  height : 0 < app.d3d.height
  renderer : (app.windowWidth, app.windowHeight) =
    (app.d3d.width.toUInt32, app.d3d.height.toUInt32)
  controller : app.controller.windowWidth ≠ 0 →
    (app.controller.windowWidth, app.controller.windowHeight) = (app.windowWidth, app.windowHeight)
  device : (app.controller.deviceWidth, app.controller.deviceHeight) =
    (app.deviceWidth, app.deviceHeight)
  picture : ∀ p, app.picture = some p → p.uploaded = true → p.width ≠ 0 → p.height ≠ 0 →
    0 < p.viewport.1 ∧ 0 < p.viewport.2 ∧
      updateAspectRatioTransform p.width p.height p.viewport.1.toUInt32 p.viewport.2.toUInt32 =
        some p.transform

section Sizes

theorem takeView_size (ctx : D3DContext) (getBuffer createView : Bool) :
    (ctx.takeView getBuffer createView).width = ctx.width ∧
      (ctx.takeView getBuffer createView).height = ctx.height := by
  unfold D3DContext.takeView
  split_ifs <;> exact ⟨rfl, rfl⟩

theorem d3dContextInit_size {width height : Int32} {env : D3DInitEnv}
    (hinit : (d3dContextInit width height env).1 = true) :
    (d3dContextInit width height env).2.width = width ∧
      (d3dContextInit width height env).2.height = height := by
  have htaken := takeView_size (d3dContextDevice width height env.multithread) env.getBuffer
    env.createView
  dsimp only [d3dContextInit] at hinit ⊢
  split_ifs at hinit ⊢
  exact htaken

theorem d3dContextResize_size (ctx : D3DContext) {width height : Int32} (hw : width ≠ 0)
    (hh : height ≠ 0) (env : D3DResizeEnv) :
    (d3dContextResize ctx width height env).width = width ∧
      (d3dContextResize ctx width height env).height = height := by
  have htaken := takeView_size { d3dContextUnbind ctx width height with buffers := (width, height) }
    env.getBuffer env.createView
  dsimp only [d3dContextResize]
  rw [if_neg (by simp [hw, hh])]
  split_ifs
  · exact ⟨rfl, rfl⟩
  · exact htaken
  · exact htaken

theorem d3dContextBeginFrame_size (ctx : D3DContext) :
    (d3dContextBeginFrame ctx).width = ctx.width ∧
      (d3dContextBeginFrame ctx).height = ctx.height := by
  unfold d3dContextBeginFrame
  split <;> exact ⟨rfl, rfl⟩

theorem d3dContextBeginFrame_rtv (ctx : D3DContext) : (d3dContextBeginFrame ctx).rtv = ctx.rtv := by
  unfold d3dContextBeginFrame
  split <;> rfl

/-- Where the textures are ready the renderer has the size of the frame. -/
theorem ensureNv12Texture_size {renderer : VideoRenderer} {width height : UInt32}
    {created : Creations} (h : (ensureNv12Texture renderer width height created).1 = true) :
    (ensureNv12Texture renderer width height created).2.videoWidth = width ∧
      (ensureNv12Texture renderer width height created).2.videoHeight = height := by
  by_cases hsize : (renderer.videoWidth, renderer.videoHeight) = (width, height)
  · rw [ensureNv12Texture_hit hsize]
    exact Prod.mk.inj hsize
  · cases hall : created.all with
    | true =>
      rw [ensureNv12Texture_created hsize hall]
      exact ⟨rfl, rfl⟩
    | false =>
      obtain ⟨_, _, _, heq⟩ := ensureNv12Texture_failed hsize hall
      rw [heq] at h
      exact absurd h (by simp)

theorem videoRendererRender_initialized (renderer : VideoRenderer) (call : RenderCall) :
    (videoRendererRender renderer call).initialized = renderer.initialized := by
  rw [videoRendererRender]
  split
  · rfl
  · unfold ensureNv12Texture VideoRenderer.release
    split_ifs <;> rfl

variable {app : MainLoop}

theorem onResize_inv (h : app.Inv) (width height : Int32) (env : D3DResizeEnv) :
    (onResize app width height env).Inv := by
  unfold onResize
  split_ifs with hpos
  · have hw : width ≠ 0 := fun h0 => absurd hpos.1 (by simp [h0])
    have hh : height ≠ 0 := fun h0 => absurd hpos.2 (by simp [h0])
    obtain ⟨hwidth, hheight⟩ := d3dContextResize_size app.d3d hw hh env
    refine ⟨d3dContextResize_inv h.d3d width height env, h.initialized, ?_, ?_, ?_, fun _ => rfl,
      h.device, h.picture⟩
    · exact hwidth.symm ▸ hpos.1
    · exact hheight.symm ▸ hpos.2
    · dsimp only
      rw [hwidth, hheight]
  · exact h

theorem wndProc_inv (h : app.Inv) (msg : WindowMsg) : (wndProc app msg).Inv := by
  cases msg with
  | size lParam env => exact onResize_inv h _ _ env
  | _ => exact h

theorem sizes_inv (h : app.Inv) (sizes : List (UInt32 × D3DResizeEnv)) :
    (sizes.foldl (fun app size => wndProc app (.size size.1 size.2)) app).Inv := by
  induction sizes generalizing app with
  | nil => exact h
  | cons size sizes ih => exact ih (wndProc_inv h _)

theorem detectSizeChange_inv (h : app.Inv) (frame : FrameData) (env : FrameEnv) :
    (detectSizeChange app frame env).Inv := by
  unfold detectSizeChange
  split_ifs
  · exact h
  · refine sizes_inv ?_ env.sizes
    exact ⟨h.d3d, h.initialized, h.width, h.height, h.renderer, h.controller, rfl, h.picture⟩

/-- A picture is drawn through a viewport of the size of the window, which is the size that its
transform was made for. -/
theorem drawTextures_inv (h : app.Inv) {width height : UInt32}
    (hsize : app.renderer.videoWidth = width ∧ app.renderer.videoHeight = height) (env : FrameEnv) :
    (drawTextures app width height env).Inv := by
  by_cases hfilled : env.filled = false
  · rwa [drawTextures, if_pos hfilled]
  rw [drawTextures, if_neg hfilled]
  dsimp only
  by_cases hbound : app.d3d.bound = none
  · rw [if_pos hbound]
    exact ⟨h.d3d, h.initialized, h.width, h.height, h.renderer, h.controller, h.device, h.picture⟩
  rw [if_neg hbound]
  refine ⟨h.d3d, h.initialized, h.width, h.height, h.renderer, h.controller, h.device, ?_⟩
  rintro p hp huploaded hw hh
  obtain rfl := Option.some.inj hp
  have hview : app.d3d.viewport = (app.d3d.width, app.d3d.height) :=
    (h.d3d.size (by rwa [← h.d3d.bound])).2
  obtain ⟨hwindowW, hwindowH⟩ := Prod.mk.inj h.renderer
  have htransform := updateAspectRatioTransform_eq h.width h.height hw hh
  dsimp only at huploaded htransform ⊢
  rw [hview]
  refine ⟨h.width, h.height, ?_⟩
  rw [uploadTransform, if_pos huploaded, hsize.1, hsize.2, hwindowW, hwindowH, htransform,
    Option.getD_some]

theorem renderFrame_inv (h : app.Inv) (frame : Option VideoFrame) (env : FrameEnv) :
    (renderFrame app frame env).Inv := by
  obtain ⟨hwidth, hheight⟩ := d3dContextBeginFrame_size app.d3d
  have hbegun : MainLoop.Inv { app with d3d := d3dContextBeginFrame app.d3d } :=
    ⟨d3dContextBeginFrame_inv h.d3d, h.initialized, hwidth.symm ▸ h.width,
      hheight.symm ▸ h.height, by simpa only [hwidth, hheight] using h.renderer, h.controller,
      h.device, h.picture⟩
  have hrenderer : MainLoop.Inv
      { app with
        d3d := d3dContextBeginFrame app.d3d
        renderer := videoRendererRender app.renderer ⟨frame, env.created⟩ } :=
    ⟨hbegun.d3d, (videoRendererRender_initialized _ _).trans h.initialized, hbegun.width,
      hbegun.height, hbegun.renderer, h.controller, h.device, h.picture⟩
  unfold renderFrame
  dsimp only
  split
  · exact hbegun
  · rename_i width height hrequested
    split_ifs with hensured
    · exact hrenderer
    · refine drawTextures_inv hrenderer ?_ env
      rw [videoRendererRender, hrequested]
      exact ensureNv12Texture_size (by simpa using hensured)

theorem idleFrame_inv (h : app.Inv) (frame : FrameData) (env : FrameEnv) :
    (idleFrame app frame env).Inv :=
  renderFrame_inv (detectSizeChange_inv h frame env) _ env

theorem mainLoopStep_inv (h : app.Inv) (turn : LoopTurn) : (mainLoopStep app turn).Inv := by
  cases turn with
  | message msg held => exact wndProc_inv h msg
  | frame frame env => exact idleFrame_inv h frame env

end Sizes

/-! ## What a message says -/

/-- The point of a touch or scroll message. -/
def ControlMsg.point : ControlMsg → Option (UInt32 × UInt32)
  | .injectTouchEvent _ _ _ x y _ _ _ _ _ => some (x, y)
  | .injectScrollEvent x y _ _ _ _ _ => some (x, y)
  | _ => none

/-- The size of the screen that a touch or scroll message is meant for. -/
def ControlMsg.screenSize : ControlMsg → Option (UInt32 × UInt32)
  | .injectTouchEvent _ _ _ _ _ width height _ _ _ => some (width, height)
  | .injectScrollEvent _ _ width height _ _ _ => some (width, height)
  | _ => none

/-- The point of the pointer in a turn with a message of the mouse. -/
def LoopTurn.point : LoopTurn → Option (Int16 × Int16)
  | .message (.lButtonDown lParam) _ | .message (.lButtonUp lParam) _
  | .message (.rButtonDown lParam) _ | .message (.rButtonUp lParam) _
  | .message (.mouseMove _ lParam) _ | .message (.mouseWheel _ lParam) _ =>
      some (messagePoint lParam)
  | _ => none

/-- A message about the pointer at a point of the window. -/
def ControlMsg.At (transform : CoordTransform) (ctrl : Controller) (x y : Int16)
    (msg : ControlMsg) : Prop :=
  let d := transform x.toInt32 y.toInt32 ctrl.windowWidth ctrl.windowHeight ctrl.deviceWidth
    ctrl.deviceHeight
  msg.point = some (d.1.toUInt32, d.2.toUInt32) ∧
    msg.screenSize = some (ctrl.deviceWidth, ctrl.deviceHeight)

section Messages

variable {transform : CoordTransform} {ctrl : Controller} {msg : ControlMsg}

theorem point_of_mem_mouse {x y : Int16} {buttons action : UInt32}
    (h : msg ∈ controllerOnMouseEvent transform ctrl x.toInt32 y.toInt32 buttons action) :
    msg.At transform ctrl x y := by
  rw [controllerOnMouseEvent] at h
  split at h
  · exact absurd h List.not_mem_nil
  split at h
  · exact absurd h List.not_mem_nil
  obtain rfl := List.mem_singleton.1 h
  exact ⟨rfl, rfl⟩

theorem point_of_mem_wheel {x y : Int16} {delta : Int32}
    (h : msg ∈ controllerOnWheelEvent transform ctrl x.toInt32 y.toInt32 delta) :
    msg.At transform ctrl x y := by
  rw [controllerOnWheelEvent] at h
  split at h
  · exact absurd h List.not_mem_nil
  obtain rfl := List.mem_singleton.1 h
  exact ⟨rfl, rfl⟩

/-- The messages of a key have no point. -/
theorem point_of_mem_key {held : UInt32 → Bool} {vk : UInt32} {down : Bool}
    (h : msg ∈ controllerOnKeyEvent ctrl held vk down) :
    msg.point = none ∧ msg.screenSize = none := by
  simp only [controllerOnKeyEvent, altShortcut, injectKey, tapKeycode] at h
  split_ifs at h <;> simp only [Option.getD_some, Option.getD_none, List.mem_cons, List.not_mem_nil,
    or_false] at h
  all_goals obtain rfl | rfl := h <;> exact ⟨rfl, rfl⟩

/-- A message of a turn has no point, or that of the pointer. -/
theorem mainLoopSends_point {app : MainLoop} {turn : LoopTurn}
    (h : msg ∈ mainLoopSends transform app turn) :
    (msg.point = none ∧ msg.screenSize = none) ∨
      ∃ x y, turn.point = some (x, y) ∧ msg.At transform app.controller x y := by
  cases turn with
  | frame frame env => exact absurd h List.not_mem_nil
  | message m held =>
    cases m with
    | keyDown vk => exact Or.inl (point_of_mem_key h)
    | keyUp vk => exact Or.inl (point_of_mem_key h)
    | size lParam env => exact absurd h List.not_mem_nil
    | mouseWheel wParam lParam => exact Or.inr ⟨_, _, rfl, point_of_mem_wheel h⟩
    | _ => exact Or.inr ⟨_, _, rfl, point_of_mem_mouse h⟩

end Messages

/-! ## The size that a message carries -/

/-- The size of the last frame of a run, and before the first the size at the start. -/
def lastFrameSize (start : UInt32 × UInt32) (turns : List LoopTurn) : UInt32 × UInt32 :=
  turns.foldl (fun size turn =>
    match turn with
    | .message .. => size
    | .frame frame _ => (frame.width, frame.height)) start

section Runs

variable {d3d : D3DContext} {deviceWidth deviceHeight : UInt32} {control : Bool}

theorem wndProc_device (app : MainLoop) (msg : WindowMsg) :
    (wndProc app msg).deviceWidth = app.deviceWidth ∧
      (wndProc app msg).deviceHeight = app.deviceHeight := by
  cases msg with
  | size lParam env =>
    simp only [wndProc, onResize]
    split_ifs <;> exact ⟨rfl, rfl⟩
  | _ => exact ⟨rfl, rfl⟩

theorem sizes_device (app : MainLoop) (sizes : List (UInt32 × D3DResizeEnv)) :
    let app' := sizes.foldl (fun app size => wndProc app (.size size.1 size.2)) app
    app'.deviceWidth = app.deviceWidth ∧ app'.deviceHeight = app.deviceHeight := by
  induction sizes generalizing app with
  | nil => exact ⟨rfl, rfl⟩
  | cons size sizes ih =>
    obtain ⟨hwidth, hheight⟩ := wndProc_device app (.size size.1 size.2)
    exact ⟨(ih _).1.trans hwidth, (ih _).2.trans hheight⟩

/-- What a drawn frame leaves as it is. -/
theorem renderFrame_keeps (app : MainLoop) (frame : Option VideoFrame) (env : FrameEnv) :
    let app' := renderFrame app frame env
    app'.d3d = d3dContextBeginFrame app.d3d ∧ app'.controller = app.controller ∧
      app'.deviceWidth = app.deviceWidth ∧ app'.deviceHeight = app.deviceHeight := by
  unfold renderFrame drawTextures
  dsimp only
  split
  · exact ⟨rfl, rfl, rfl, rfl⟩
  · split_ifs <;> exact ⟨rfl, rfl, rfl, rfl⟩

/-- The device has the size of the frame before it is drawn. -/
theorem detectSizeChange_device (app : MainLoop) (frame : FrameData) (env : FrameEnv) :
    (detectSizeChange app frame env).deviceWidth = frame.width ∧
      (detectSizeChange app frame env).deviceHeight = frame.height := by
  rw [detectSizeChange]
  split_ifs with hsame
  · exact ⟨hsame.1.symm, hsame.2.symm⟩
  · exact sizes_device _ env.sizes

/-- A frame that the loop takes gives the device its size, drawn or not. -/
theorem idleFrame_device (app : MainLoop) (frame : FrameData) (env : FrameEnv) :
    (idleFrame app frame env).deviceWidth = frame.width ∧
      (idleFrame app frame env).deviceHeight = frame.height := by
  obtain ⟨-, -, hwidth, hheight⟩ :=
    renderFrame_keeps (detectSizeChange app frame env) frame.toVideoFrame env
  obtain ⟨hframeW, hframeH⟩ := detectSizeChange_device app frame env
  exact ⟨hwidth.trans hframeW, hheight.trans hframeH⟩

theorem mainLoop_device (app : MainLoop) (turns : List LoopTurn) :
    let app' := final mainLoopStep app turns
    (app'.deviceWidth, app'.deviceHeight) =
      lastFrameSize (app.deviceWidth, app.deviceHeight) turns := by
  induction turns generalizing app with
  | nil => rfl
  | cons turn turns ih =>
    refine (ih _).trans ?_
    cases turn with
    | message msg held =>
      obtain ⟨hwidth, hheight⟩ := wndProc_device app msg
      exact congrArg₂ (fun w h => lastFrameSize (w, h) turns) hwidth hheight
    | frame frame env =>
      obtain ⟨hwidth, hheight⟩ := idleFrame_device app frame env
      exact congrArg₂ (fun w h => lastFrameSize (w, h) turns) hwidth hheight

theorem mainLoopStart_inv (hd3d : d3d.Inv) (hwidth : 0 < d3d.width) (hheight : 0 < d3d.height) :
    (mainLoopStart d3d deviceWidth deviceHeight control).Inv :=
  ⟨hd3d, rfl, hwidth, hheight, rfl, fun h => absurd rfl h, rfl,
    fun _ h => absurd h (by simp [mainLoopStart])⟩

/-- The application that `application_init` has set up. -/
theorem mainLoop_inv {env : D3DInitEnv} (hinit : (d3dContextInit 800 600 env).1 = true)
    (deviceWidth deviceHeight : UInt32) (control : Bool) (turns : List LoopTurn) :
    let start := mainLoopStart (d3dContextInit 800 600 env).2 deviceWidth deviceHeight control
    (∀ x ∈ visits mainLoopStep start turns, x.1.Inv) ∧ (final mainLoopStep start turns).Inv := by
  have hd3d := d3dContextInit_owns 800 600 env
  dsimp only at hd3d
  rw [if_pos hinit] at hd3d
  have hsize := d3dContextInit_size hinit
  refine invariant (I := MainLoop.Inv) (fun x _ h => mainLoopStep_inv h x.2) ?_
  exact mainLoopStart_inv hd3d (by rw [hsize.1]; decide) (by rw [hsize.2]; decide)

end Runs

/-! ## Where a touch lands -/

/-- Along one axis, the point of a picture at the texture coordinate `u`. -/
def axisPoint (win : ℤ) (scale u : ℚ) : ℚ := win * (1 + (2 * u - 1) * scale) / 2

section Axis

variable {win start size x : ℤ} {scale : ℚ} {dev : ℕ}

theorem abs_mix_lt_one {a b q : ℚ} (hq : 0 ≤ q) (hq' : q ≤ 1) (ha : |a| < 1) (hb : |b| < 1) :
    |(1 - q) * a + q * b| < 1 :=
  abs_lt.2 (convex_Ioo (-1) 1 (abs_lt.1 ha) (abs_lt.1 hb) (sub_nonneg.2 hq') hq
    (sub_add_cancel 1 q))

/-- How long the picture is. -/
theorem axisPoint_sub (win : ℤ) (scale : ℚ) :
    axisPoint win scale 1 - axisPoint win scale 0 = win * scale := by
  rw [axisPoint, axisPoint]
  ring

/-- The place of the picture that a coordinate stands for is less than a pixel away from it. -/
theorem clampRel_near (hnear : NearQuad start size win scale) (hsize : 0 < size)
    (hlow : axisPoint win scale 0 ≤ x) (hhigh : x ≤ axisPoint win scale 1) :
    |axisPoint win scale (clampRel (x - start) size / size) - x| < 1 := by
  have hsize' : (0 : ℚ) < size := by exact_mod_cast hsize
  obtain ⟨hstart, hend⟩ := hnear
  push_cast at hend
  rcases lt_or_ge x start with hbefore | hafter
  · have hbefore' : (x : ℚ) < start := by exact_mod_cast hbefore
    have hclamp : clampRel (x - start) size = 0 := by
      dsimp only [clampRel]
      split_ifs <;> omega
    rw [hclamp, Int.cast_zero, zero_div]
    rw [abs_lt] at hstart ⊢
    simp only [axisPoint] at hlow ⊢
    constructor <;> linarith
  rcases lt_or_ge (start + size) x with hpast | hwithin
  · have hpast' : (start : ℚ) + size < x := by exact_mod_cast hpast
    have hclamp : clampRel (x - start) size = size := by
      dsimp only [clampRel]
      split_ifs <;> omega
    rw [hclamp, div_self hsize'.ne']
    rw [abs_lt] at hend ⊢
    simp only [axisPoint] at hhigh ⊢
    constructor <;> linarith
  · -- Between the ends the error is a mean of the errors there.
    have hclamp : clampRel (x - start) size = x - start := by
      dsimp only [clampRel]
      split_ifs <;> omega
    have hwithin' : (x : ℚ) ≤ start + size := by exact_mod_cast hwithin
    have hafter' : (start : ℚ) ≤ x := by exact_mod_cast hafter
    have hmean := abs_mix_lt_one (div_nonneg (sub_nonneg.2 hafter') hsize'.le)
      ((div_le_one₀ hsize').2 (by linarith : (x : ℚ) - start ≤ size)) hstart hend
    rw [hclamp, abs_sub_comm]
    convert hmean using 2
    rw [axisPoint]
    push_cast
    field_simp
    ring

/-- So is the place on the picture of the coordinate that is sent, up to the width of a pixel of the
device. -/
theorem onDevice_near (hnear : NearQuad start size win scale) (hsize : 0 < size) (hdev : 0 < dev)
    (hscale : 0 < win * scale) (hlow : axisPoint win scale 0 ≤ x)
    (hhigh : x ≤ axisPoint win scale 1) :
    |axisPoint win scale (onDevice x start size dev / dev) - x| < 1 + win * scale / dev := by
  have hnearX := clampRel_near hnear hsize hlow hhigh
  obtain ⟨hnonneg, -⟩ := clampRel_mem (x - start) hsize.le
  have hsize' : (0 : ℚ) < size := by exact_mod_cast hsize
  have hdev' : (0 : ℚ) < dev := by exact_mod_cast hdev
  have hnonneg' : (0 : ℚ) ≤ clampRel (x - start) size := by exact_mod_cast hnonneg
  set part : ℚ := clampRel (x - start) size / size with hpart
  have hpos : 0 ≤ part * dev := by positivity
  have hfloor : onDevice x start size dev = ⌊part * dev⌋ := truncate_of_nonneg hpos
  have hle := Int.floor_le (part * dev)
  have hlt := Int.lt_floor_add_one (part * dev)
  rw [← hfloor] at hle hlt
  have hshift : axisPoint win scale (onDevice x start size dev / dev) = axisPoint win scale part -
      (part * dev - onDevice x start size dev) * (win * scale / dev) := by
    rw [axisPoint, axisPoint]
    field_simp
    ring
  have hpixel : 0 < win * scale / dev := div_pos hscale hdev'
  have hrest : 0 ≤ (part * dev - onDevice x start size dev) * (win * scale / dev) :=
    mul_nonneg (by linarith) hpixel.le
  have hrest' :
      (part * dev - onDevice x start size dev) * (win * scale / dev) < win * scale / dev :=
    mul_lt_of_lt_one_left hpixel (by linarith)
  rw [hshift]
  rw [abs_lt] at hnearX ⊢
  constructor <;> linarith

end Axis

/-- Where the place of the device at the texture coordinates `u`, `v` is on the screen. -/
def DrawnPicture.place (p : DrawnPicture) (u v : ℚ) : ℚ × ℚ :=
  Autoscrcpy.viewport p.viewport.1.toUInt32 p.viewport.2.toUInt32
    (vertexShader p.transform ⟨2 * u - 1, 1 - 2 * v, 0, u, v⟩)

/-- The point of the window lies on the picture. -/
def DrawnPicture.Covers (p : DrawnPicture) (x y : ℤ) : Prop :=
  ((p.place 0 0).1 ≤ x ∧ x ≤ (p.place 1 1).1) ∧ (p.place 0 0).2 ≤ y ∧ y ≤ (p.place 1 1).2

/-- The touch at `X`, `Y` is shown less than a pixel of the window and one of the device away from
the pointer at `x`, `y`, along both axes. -/
def DrawnPicture.Lands (p : DrawnPicture) (x y : ℤ) (X Y : UInt32) : Prop :=
  let shown := p.place (X.toNat / p.width.toNat) (Y.toNat / p.height.toNat)
  |shown.1 - x| < 1 + ((p.place 1 1).1 - (p.place 0 0).1) / p.width.toNat ∧
    |shown.2 - y| < 1 + ((p.place 1 1).2 - (p.place 0 0).2) / p.height.toNat

/-- The size is one of `int32_t`, and neither side of the picture is truncated to zero. -/
structure DrawnPicture.Sized (p : DrawnPicture) : Prop where
  width : p.width ≠ 0 ∧ p.width.toNat < 2 ^ 31
  height : p.height ≠ 0 ∧ p.height.toNat < 2 ^ 31
  rectWidth : 0 < (pictureRect p.viewport.1 p.viewport.2 p.width p.height).w
  rectHeight : 0 < (pictureRect p.viewport.1 p.viewport.2 p.width p.height).h

/-- The picture on the screen is one of the current sizes of window and device, drawn with an
uploaded transform, and the controller has been told the size of the window. -/
structure MainLoop.Shows (app : MainLoop) (p : DrawnPicture) : Prop where
  picture : app.picture = some p
  uploaded : p.uploaded = true
  window : p.viewport = (app.d3d.width, app.d3d.height)
  device : (p.width, p.height) = (app.deviceWidth, app.deviceHeight)
  told : app.controller.windowWidth ≠ 0

section Lands

theorem aspectScale_pos {videoW videoH windowW windowH : ℚ} (hvw : 0 < videoW) (hvh : 0 < videoH)
    (hww : 0 < windowW) (hwh : 0 < windowH) :
    0 < (aspectScale videoW videoH windowW windowH).1 ∧
      0 < (aspectScale videoW videoH windowW windowH).2 := by
  dsimp only [aspectScale]
  split_ifs <;> constructor <;> positivity

theorem toNat_ofInt_onDevice {win start size : ℤ} {dev : UInt32} (hsize : 0 < size)
    (hdev : dev.toNat < 2 ^ 31) :
    ((Int32.ofInt (onDevice win start size dev.toNat)).toUInt32.toNat : ℚ) =
      onDevice win start size dev.toNat := by
  obtain ⟨hlow, -⟩ := onDevice_mem win start dev.toNat hsize
  have hint : (Int32.ofInt (onDevice win start size dev.toNat)).toInt =
      onDevice win start size dev.toNat := toInt_ofInt_onDevice hsize hdev
  have hle : (0 : Int32) ≤ Int32.ofInt (onDevice win start size dev.toNat) :=
    Int32.le_iff_toInt_le.2 (hlow.trans_eq hint.symm)
  rw [Int32.toNat_toUInt32_of_le hle, Int32.toNatClampNeg, hint]
  exact_mod_cast Int.toNat_of_nonneg hlow

variable {app : MainLoop} {p : DrawnPicture} {transform : CoordTransform}

/-- Along both axes the picture spans the scaled window. -/
theorem DrawnPicture.place_eq {sx sy : ℚ} (htransform : p.transform = scaleMatrix sx sy)
    (hw : 0 < p.viewport.1) (hh : 0 < p.viewport.2) (u v : ℚ) :
    p.place u v = (axisPoint p.viewport.1.toInt sx u, axisPoint p.viewport.2.toInt sy v) := by
  have hW : (p.viewport.1.toUInt32.toNat : ℚ) = p.viewport.1.toInt := by
    exact_mod_cast natCast_toUInt32 hw
  have hH : (p.viewport.2.toUInt32.toNat : ℚ) = p.viewport.2.toInt := by
    exact_mod_cast natCast_toUInt32 hh
  rw [place, htransform, viewport_vertexShader, hW, hH, axisPoint, axisPoint]
  congr 1
  ring

/-- The point that a message about the pointer has while a picture is shown. -/
theorem MainLoop.Shows.point (h : app.Shows p) (hinv : app.Inv) (hw : 0 < p.viewport.1)
    (hh : 0 < p.viewport.2) (hsized : p.Sized) (htransform : transform.Computes) {msg : ControlMsg}
    {x y : Int16} (hat : msg.At transform app.controller x y) :
    let rect := pictureRect p.viewport.1 p.viewport.2 p.width p.height
    msg.point = some ((Int32.ofInt (onDevice x.toInt rect.x rect.w p.width.toNat)).toUInt32,
      (Int32.ofInt (onDevice y.toInt rect.y rect.h p.height.toNat)).toUInt32) := by
  obtain ⟨hviewW, hviewH⟩ := Prod.mk.inj (h.window : (p.viewport.1, p.viewport.2) = _)
  obtain ⟨hdevW, hdevH⟩ := Prod.mk.inj (hinv.device.trans h.device.symm)
  obtain ⟨hwinW, hwinH⟩ := Prod.mk.inj ((hinv.controller h.told).trans hinv.renderer)
  have hcoords := inputTransformCoords_eq_some x y hw hh hsized.width.1 hsized.height.1
    hsized.width.2 hsized.height.2 hsized.rectWidth hsized.rectHeight
  have hsent := htransform x.toInt32 y.toInt32 app.controller.windowWidth
    app.controller.windowHeight app.controller.deviceWidth app.controller.deviceHeight
  rw [hwinW, hwinH, ← hviewW, ← hviewH, hdevW, hdevH, Int32.toInt32_toUInt32,
    Int32.toInt32_toUInt32] at hsent
  have hpoint := hat.1
  rw [hwinW, hwinH, ← hviewW, ← hviewH, hdevW, hdevH, hsent _ hcoords] at hpoint
  exact hpoint

/-- It lands where the picture shows the place under the pointer. -/
theorem MainLoop.Shows.lands (h : app.Shows p) (hinv : app.Inv) (hsized : p.Sized)
    (htransform : transform.Computes) {msg : ControlMsg} {x y : Int16} {X Y : UInt32}
    (hat : msg.At transform app.controller x y) (hpoint : msg.point = some (X, Y))
    (hcovers : p.Covers x.toInt y.toInt) : p.Lands x.toInt y.toInt X Y := by
  have hdevW := toNat_pos hsized.width.1
  have hdevH := toNat_pos hsized.height.1
  obtain ⟨hw, hh, hupdate⟩ := hinv.picture p h.picture h.uploaded hsized.width.1 hsized.height.1
  -- The transform keeps the aspect ratio of the sizes that the controller computes with.
  rw [updateAspectRatioTransform_eq hw hh hsized.width.1 hsized.height.1] at hupdate
  have hplace := DrawnPicture.place_eq (Option.some.inj hupdate).symm hw hh
  obtain ⟨hnearX, hnearY⟩ := nearQuad_fittedRect (toInt_pos hw) (toInt_pos hh) hdevW hdevH
  obtain ⟨hscaleX, hscaleY⟩ := aspectScale_pos (Nat.cast_pos.2 hdevW) (Nat.cast_pos.2 hdevH)
    (Int.cast_pos.2 (toInt_pos hw)) (Int.cast_pos.2 (toInt_pos hh))
  rw [h.point hinv hw hh hsized htransform hat] at hpoint
  obtain ⟨rfl, rfl⟩ := Prod.mk.inj (Option.some.inj hpoint)
  obtain ⟨⟨hleft, hright⟩, htop, hbottom⟩ := hcovers
  simp only [hplace] at hleft hright htop hbottom
  have hX := onDevice_near hnearX hsized.rectWidth hdevW
    (mul_pos (Int.cast_pos.2 (toInt_pos hw)) hscaleX) hleft hright
  have hY := onDevice_near hnearY hsized.rectHeight hdevH
    (mul_pos (Int.cast_pos.2 (toInt_pos hh)) hscaleY) htop hbottom
  rw [DrawnPicture.Lands, toNat_ofInt_onDevice hsized.rectWidth hsized.width.2,
    toNat_ofInt_onDevice hsized.rectHeight hsized.height.2]
  simp only [hplace, axisPoint_sub]
  exact ⟨hX, hY⟩

/-- A frame for which every call succeeds is shown, at the size of the window. -/
theorem renderFrame_shows (hinv : app.Inv) {frame : VideoFrame} {env : FrameEnv}
    (hcreated : env.created.all = true) (hfilled : env.filled = true)
    (huploaded : env.uploaded = true) (hview : app.d3d.rtv ≠ none)
    (htold : app.controller.windowWidth ≠ 0)
    (hdevice : (frame.width, frame.height) = (app.deviceWidth, app.deviceHeight)) :
    ∃ p, (renderFrame app (some frame) env).Shows p := by
  have hensured :
      (ensureNv12Texture app.renderer frame.width frame.height env.created).1 = true := by
    by_cases hsize :
        (app.renderer.videoWidth, app.renderer.videoHeight) = (frame.width, frame.height)
    · rw [ensureNv12Texture_hit hsize]
    · rw [ensureNv12Texture_created hsize hcreated]
  have hrequested : app.renderer.requested ⟨some frame, env.created⟩ =
      some (frame.width, frame.height) := by
    rw [VideoRenderer.requested, hinv.initialized, if_neg (by decide)]
    rfl
  obtain ⟨view, hrtv⟩ := Option.ne_none_iff_exists'.1 hview
  have hbegin : d3dContextBeginFrame app.d3d =
      { app.d3d.bindView with heap := app.d3d.heap.use view } := by
    rw [d3dContextBeginFrame, hrtv]
  have hbound : app.d3d.bindView.bound ≠ none := hview
  simp only [renderFrame, hrequested, hensured, Bool.true_eq_false, if_false, drawTextures, hfilled,
    hbegin, hbound]
  exact ⟨_, rfl, huploaded, rfl, hdevice, htold⟩

end Lands

/-- The transform that computes `input_transform_coords`. -/
def exactTransform : CoordTransform := fun x y windowW windowH deviceW deviceH =>
  (inputTransformCoords x y windowW.toInt32 windowH.toInt32 deviceW deviceH).getD (0, 0)

theorem exactTransform_computes : exactTransform.Computes := by
  intro x y windowW windowH deviceW deviceH dev h
  rw [exactTransform, h, Option.getD_some]

end Autoscrcpy
