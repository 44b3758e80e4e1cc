import Autoscrcpy.Control.ControlMsg
import Autoscrcpy.Input.KeycodeMap

/-!
# The controller

`controller.c`: what a key, mouse or wheel event of the window makes of control messages. `held` is
the high bit of `GetKeyState`, and `transform` stands for `input_transform_coords`, which decides on
the coordinates only. The messages go to `control_msg_serialize` with a buffer of 64 bytes and
from there to the control socket, in order.
-/

namespace Autoscrcpy

/-- `controller_t` without its socket. -/
structure Controller where
  deviceWidth : UInt32
  deviceHeight : UInt32
  windowWidth : UInt32
  windowHeight : UInt32
  enabled : Bool
  deriving DecidableEq, Repr

/-! ## Keys -/

/-- `send_keycode`. -/
def sendKeycode (held : UInt32 → Bool) (kc : UInt32) (down : Bool) : ControlMsg :=
  .injectKeycode (if down then 0 else 1) kc 0 (getAndroidMetastate held)

/-- A press and a release of a key code. -/
def tapKeycode (held : UInt32 → Bool) (kc : UInt32) : List ControlMsg :=
  [sendKeycode held kc true, sendKeycode held kc false]

/-- The shortcuts with Alt; nothing for a key that is none. -/
def altShortcut (held : UInt32 → Bool) (vk : UInt32) : Option (List ControlMsg) :=
  if vk = 0x50 then some (tapKeycode held 26)
  else if vk = 0x4F then some [.setDisplayPower (!held VK_SHIFT)]
  else if vk = VK_UP then some (tapKeycode held 24)
  else if vk = VK_DOWN then some (tapKeycode held 25)
  else if vk = 0x4D then some (tapKeycode held 82)
  else if vk = 0x41 then some (tapKeycode held 187)
  else if vk = VK_BACK then some [.backOrScreenOn 0, .backOrScreenOn 1]
  else none

/-- The regular key injection. -/
def injectKey (held : UInt32 → Bool) (vk : UInt32) (down : Bool) : List ControlMsg :=
  if vkToAndroidKeycode vk = 0 then [] else [sendKeycode held (vkToAndroidKeycode vk) down]

/-- `controller_on_key_event`. -/
def controllerOnKeyEvent (ctrl : Controller) (held : UInt32 → Bool) (vk : UInt32) (down : Bool) :
    List ControlMsg :=
  if ctrl.enabled = false then []
  else if held VK_MENU then
    if down then (altShortcut held vk).getD [] else []
  else injectKey held vk down

/-! ## Mouse -/

/-- `input_transform_coords`: window point, window size and device size to a device point. -/
abbrev CoordTransform :=
  Int32 → Int32 → UInt32 → UInt32 → UInt32 → UInt32 → Int32 × Int32

/-- `controller_on_mouse_event`. -/
def controllerOnMouseEvent (transform : CoordTransform) (ctrl : Controller) (x y : Int32)
    (buttons action : UInt32) : List ControlMsg :=
  if ctrl.enabled = false ∨ ctrl.deviceWidth = 0 ∨ ctrl.deviceHeight = 0 then []
  else if action = 2 ∧ buttons = 0 then []
  else
    let d := transform x y ctrl.windowWidth ctrl.windowHeight ctrl.deviceWidth ctrl.deviceHeight
    let androidAction : UInt32 := if action = 1 then 0 else if action = 0 then 1 else 2
    let actionButton : UInt32 :=
      if buttons &&& 1 ≠ 0 then 1 else if buttons &&& 2 ≠ 0 then 2 else 1
    let pressure : UInt32 := if action = 0 then 0 else 0xFFFF
    let buttonsState : UInt32 := if action = 0 then 0 else actionButton
    [.injectTouchEvent androidAction 0xFFFFFFFF 0xFFFFFFFF d.1.toUInt32 d.2.toUInt32
      ctrl.deviceWidth ctrl.deviceHeight pressure actionButton buttonsState]

abbrev WHEEL_DELTA : Int32 := 120

/-- `controller_on_wheel_event`. -/
def controllerOnWheelEvent (transform : CoordTransform) (ctrl : Controller) (x y delta : Int32) :
    List ControlMsg :=
  if ctrl.enabled = false ∨ ctrl.deviceWidth = 0 ∨ ctrl.deviceHeight = 0 then []
  else
    let d := transform x y ctrl.windowWidth ctrl.windowHeight ctrl.deviceWidth ctrl.deviceHeight
    [.injectScrollEvent d.1.toUInt32 d.2.toUInt32 ctrl.deviceWidth ctrl.deviceHeight 0
      (delta / WHEEL_DELTA).toUInt32 0]

end Autoscrcpy
