import Autoscrcpy.Control.Controller
import Autoscrcpy.Input.InputTransform

/-!
# Where pointer events land

The controller hands the window point of a mouse or wheel event to `input_transform_coords` and
sends what it gets with the size of the device. Where the sizes make a mapping, the point of every
such message lies on the device (`mouse_on_device`, `wheel_on_device`).
-/

namespace Autoscrcpy

/-- A transform that computes `input_transform_coords` wherever that is defined. The window sizes of
the controller are passed as `int32_t`. -/
def CoordTransform.Computes (transform : CoordTransform) : Prop :=
  ∀ x y windowW windowH deviceW deviceH dev,
    inputTransformCoords x y windowW.toInt32 windowH.toInt32 deviceW deviceH = some dev →
      transform x y windowW windowH deviceW deviceH = dev

/-- The point of a touch or scroll message lies on the device whose size it carries. -/
def ControlMsg.OnDevice : ControlMsg → Prop
  | .injectTouchEvent _ _ _ x y width height _ _ _ => x ≤ width ∧ y ≤ height
  | .injectScrollEvent x y width height _ _ _ => x ≤ width ∧ y ≤ height
  | _ => True

/-- The controller's sizes make a mapping. -/
def Controller.Maps (ctrl : Controller) : Prop :=
  MapsToDevice ctrl.windowWidth.toInt32 ctrl.windowHeight.toInt32 ctrl.deviceWidth
    ctrl.deviceHeight

section

variable {transform : CoordTransform} {ctrl : Controller}

theorem toUInt32_le {n : Int32} {size : UInt32} (hlow : 0 ≤ n.toInt)
    (hhigh : n.toInt ≤ size.toNat) : n.toUInt32 ≤ size := by
  rw [UInt32.le_iff_toNat_le, Int32.toNat_toUInt32_of_le (Int32.le_iff_toInt_le.2 hlow),
    Int32.toNatClampNeg]
  omega

theorem transform_on_device (htransform : transform.Computes) (hmaps : ctrl.Maps) (x y : Int16) :
    let dev := transform x.toInt32 y.toInt32 ctrl.windowWidth ctrl.windowHeight ctrl.deviceWidth
      ctrl.deviceHeight
    dev.1.toUInt32 ≤ ctrl.deviceWidth ∧ dev.2.toUInt32 ≤ ctrl.deviceHeight := by
  obtain ⟨dev, hdev⟩ := Option.isSome_iff_exists.1 (hmaps.defined x y)
  obtain ⟨⟨hxlow, hxhigh⟩, hylow, hyhigh⟩ := hmaps.bounded x y dev hdev
  dsimp only
  rw [htransform _ _ _ _ _ _ dev hdev]
  exact ⟨toUInt32_le hxlow hxhigh, toUInt32_le hylow hyhigh⟩

/-- The touch of a mouse event lies on the device. -/
theorem mouse_on_device (htransform : transform.Computes) (hmaps : ctrl.Maps) (x y : Int16)
    (buttons action : UInt32) :
    ∀ msg ∈ controllerOnMouseEvent transform ctrl x.toInt32 y.toInt32 buttons action,
      msg.OnDevice := by
  intro msg hmsg
  rw [controllerOnMouseEvent] at hmsg
  split at hmsg
  · exact absurd hmsg List.not_mem_nil
  split at hmsg
  · exact absurd hmsg List.not_mem_nil
  obtain rfl := List.mem_singleton.1 hmsg
  exact transform_on_device htransform hmaps x y

/-- The scroll of a wheel event lies on the device. -/
theorem wheel_on_device (htransform : transform.Computes) (hmaps : ctrl.Maps) (x y : Int16)
    (delta : Int32) :
    ∀ msg ∈ controllerOnWheelEvent transform ctrl x.toInt32 y.toInt32 delta, msg.OnDevice := by
  intro msg hmsg
  rw [controllerOnWheelEvent] at hmsg
  split at hmsg
  · exact absurd hmsg List.not_mem_nil
  obtain rfl := List.mem_singleton.1 hmsg
  exact transform_on_device htransform hmaps x y

end

end Autoscrcpy
