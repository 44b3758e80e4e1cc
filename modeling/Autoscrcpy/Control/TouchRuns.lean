import Autoscrcpy.Control.Controller
import Autoscrcpy.Lib.Runs

/-!
# Mouse buttons and the touch pointer

A run of mouse events of the window, and the touch events that the controller injects for its one
pointer. A press of either button sends `DOWN` and a release `UP`, whatever the other button does,
so the touch stream is a sequence of gestures exactly when the buttons are never held together
(`touchStream_gestures_iff`).
-/

namespace Autoscrcpy

open Runs

/-! ## The mouse -/

inductive MouseButton where
  | left
  | right
  deriving DecidableEq, Repr

/-- A mouse event of the window, with its point. -/
inductive MouseEvent where
  | press (b : MouseButton) (x y : Int32)
  | release (b : MouseButton) (x y : Int32)
  | move (x y : Int32)
  deriving DecidableEq, Repr

/-- The buttons that are held. -/
structure MouseButtons where
  left : Bool
  right : Bool
  deriving DecidableEq, Repr

namespace MouseButtons

def none : MouseButtons := ⟨false, false⟩

def get (held : MouseButtons) : MouseButton → Bool
  | .left => held.left
  | .right => held.right

def set (held : MouseButtons) (b : MouseButton) (down : Bool) : MouseButtons :=
  match b with
  | .left => { held with left := down }
  | .right => { held with right := down }

/-- Some button is held. -/
def any (held : MouseButtons) : Bool := held.left || held.right

/-- The flags `MK_LBUTTON` and `MK_RBUTTON` as `WndProc` hands them on. -/
def mask (held : MouseButtons) : UInt32 :=
  (if held.left then 1 else 0) ||| (if held.right then 2 else 0)

end MouseButtons

def MouseButton.other : MouseButton → MouseButton
  | .left => .right
  | .right => .left

/-- The `buttons` argument of a press or release. -/
def MouseButton.flag : MouseButton → UInt32
  | .left => 1
  | .right => 2

namespace MouseEvent

def apply (held : MouseButtons) : MouseEvent → MouseButtons
  | press b _ _ => held.set b true
  | release b _ _ => held.set b false
  | move _ _ => held

/-- What the physical buttons allow: a press of a button that is up, a release of one that is
held. -/
def Possible (held : MouseButtons) : MouseEvent → Prop
  | press b _ _ => held.get b = false
  | release b _ _ => held.get b = true
  | move _ _ => True

/-- No press while the other button is held. -/
def Alone (held : MouseButtons) : MouseEvent → Prop
  | press b _ _ => held.get b.other = false
  | _ => True

end MouseEvent

/-! ## The touch stream -/

section Touch

variable (transform : CoordTransform) (ctrl : Controller)

/-- The mouse messages of `WndProc`: the call of `controller_on_mouse_event` for an event. -/
def mouseMessages (held : MouseButtons) : MouseEvent → List ControlMsg
  | .press b x y => controllerOnMouseEvent transform ctrl x y b.flag 1
  | .release b x y => controllerOnMouseEvent transform ctrl x y b.flag 0
  | .move x y => controllerOnMouseEvent transform ctrl x y held.mask 2

/-- The actions of a touch event on the device. -/
inductive TouchAction where
  | down
  | up
  | move
  deriving DecidableEq, Repr

/-- The action of an `INJECT_TOUCH_EVENT` message. -/
def ControlMsg.touch : ControlMsg → Option TouchAction
  | .injectTouchEvent action _ _ _ _ _ _ _ _ _ =>
      if action = 0 then some .down else if action = 1 then some .up
      else if action = 2 then some .move else none
  | _ => none

/-- The touch events for one event of the window. -/
def touchesFor (held : MouseButtons) (e : MouseEvent) : List TouchAction :=
  (mouseMessages transform ctrl held e).filterMap ControlMsg.touch

/-- The touch events for a run of mouse events that starts with no button held. -/
def touchStream (events : List MouseEvent) : List TouchAction :=
  emits MouseEvent.apply (touchesFor transform ctrl) .none events

/-- Whether the pointer is down after a touch event. -/
def TouchAction.apply (isDown : Bool) : TouchAction → Bool
  | down => true
  | up => false
  | move => isDown

/-- A `DOWN` only while the pointer is up, a `MOVE` or `UP` only while it is down. -/
def TouchAction.Ok (isDown : Bool) : TouchAction → Prop
  | down => isDown = false
  | up => isDown = true
  | move => isDown = true

/-- The stream is a sequence of `DOWN MOVE* UP`, the last of them perhaps not finished. -/
def Gestures (l : List TouchAction) : Prop :=
  ∀ x ∈ visits TouchAction.apply false l, x.2.Ok x.1

/-- The touch stream consists of gestures, and the pointer is up whenever no button is held. -/
def TouchesWellFormed (events : List MouseEvent) : Prop :=
  Gestures (touchStream transform ctrl events) ∧
    ∀ pre, pre <+: events → final MouseEvent.apply .none pre = .none →
      final TouchAction.apply false (touchStream transform ctrl pre) = false

end Touch

/-- A run that the physical buttons allow. -/
def MouseConsistent (events : List MouseEvent) : Prop :=
  ∀ x ∈ visits MouseEvent.apply .none events, x.2.Possible x.1

/-- No button is pressed while the other one is held. -/
def ButtonsAlone (events : List MouseEvent) : Prop :=
  ∀ x ∈ visits MouseEvent.apply .none events, x.2.Alone x.1

/-! ## Buttons and pointer -/

section Runs

variable {transform : CoordTransform} {ctrl : Controller}

/-- A controller that sends mouse events. -/
structure Controller.Active (ctrl : Controller) : Prop where
  enabled : ctrl.enabled = true
  width : ctrl.deviceWidth ≠ 0
  height : ctrl.deviceHeight ≠ 0

theorem mask_eq_zero_iff (held : MouseButtons) : held.mask = 0 ↔ held.any = false := by
  rcases held with ⟨_ | _, _ | _⟩ <;> decide

/-- What each event of the window makes of the pointer. -/
theorem touchesFor_eq (h : ctrl.Active) (held : MouseButtons) (e : MouseEvent) :
    touchesFor transform ctrl held e =
      match e with
      | .press _ _ _ => [.down]
      | .release _ _ _ => [.up]
      | .move _ _ => if held.any then [.move] else [] := by
  have hon : ¬ (ctrl.enabled = false ∨ ctrl.deviceWidth = 0 ∨ ctrl.deviceHeight = 0) := by
    simp [h.enabled, h.width, h.height]
  cases e with
  | press b x y => simp [touchesFor, mouseMessages, controllerOnMouseEvent, hon, ControlMsg.touch]
  | release b x y => simp [touchesFor, mouseMessages, controllerOnMouseEvent, hon, ControlMsg.touch]
  | move x y =>
    by_cases hmask : held.mask = 0
    · simp [touchesFor, mouseMessages, controllerOnMouseEvent, hmask,
        (mask_eq_zero_iff held).1 hmask]
    · have hany : held.any = true := by
        rw [← Bool.not_eq_false]
        exact fun hf => hmask ((mask_eq_zero_iff held).2 hf)
      simp [touchesFor, mouseMessages, controllerOnMouseEvent, hon, hmask, ControlMsg.touch, hany]

/-- At most one button is held, and the pointer is down exactly while one is. -/
structure PointerFollows (held : MouseButtons) (isDown : Bool) : Prop where
  single : held.left = true → held.right = true → False
  pointer : isDown = held.any

theorem any_eq (held : MouseButtons) (b : MouseButton) :
    held.any = (held.get b || held.get b.other) := by
  cases b with
  | left => rfl
  | right => exact Bool.or_comm ..

@[simp] theorem get_set (held : MouseButtons) (b : MouseButton) (down : Bool) :
    (held.set b down).get b = down := by cases b <;> rfl

@[simp] theorem get_set_other (held : MouseButtons) (b : MouseButton) (down : Bool) :
    (held.set b down).get b.other = held.get b.other := by cases b <;> rfl

/-- The same from the side of one button. -/
theorem pointerFollows_iff (b : MouseButton) {held : MouseButtons} {isDown : Bool} :
    PointerFollows held isDown ↔
      (held.get b = true → held.get b.other = false) ∧
        isDown = (held.get b || held.get b.other) := by
  rw [← any_eq]
  constructor
  · rintro ⟨hsingle, hpointer⟩
    refine ⟨fun hb => Bool.eq_false_iff.2 fun ho => ?_, hpointer⟩
    cases b with
    | left => exact hsingle hb ho
    | right => exact hsingle ho hb
  · rintro ⟨hsingle, hpointer⟩
    refine ⟨fun hl hr => ?_, hpointer⟩
    cases b with
    | left => exact absurd (hr.symm.trans (hsingle hl)) (by decide)
    | right => exact absurd (hl.symm.trans (hsingle hr)) (by decide)

/-- One event that the buttons allow: the pointer goes on following the buttons, through touch
events of a gesture, exactly when no button is pressed while the other is held. -/
theorem step_follows (h : ctrl.Active) {held : MouseButtons} {isDown : Bool}
    (hf : PointerFollows held isDown) {e : MouseEvent} (hp : e.Possible held) :
    ((∀ x ∈ visits TouchAction.apply isDown (touchesFor transform ctrl held e), x.2.Ok x.1) ↔
        e.Alone held) ∧
      (e.Alone held → PointerFollows (e.apply held)
        (final TouchAction.apply isDown (touchesFor transform ctrl held e))) := by
  rw [touchesFor_eq h]
  cases e with
  | press b x y =>
    obtain ⟨-, rfl⟩ := (pointerFollows_iff b).1 hf
    have hup : held.get b = false := hp
    simp only [visits_cons, visits_nil, List.forall_mem_singleton, TouchAction.Ok, hup,
      Bool.false_or]
    refine ⟨Iff.rfl, fun ha => (pointerFollows_iff b).2 ?_⟩
    have hother : held.get b.other = false := ha
    have hfinal : final TouchAction.apply false [.down] = true := rfl
    simp [MouseEvent.apply, hfinal, hother]
  | release b x y =>
    obtain ⟨hsingle, rfl⟩ := (pointerFollows_iff b).1 hf
    have hdown : held.get b = true := hp
    have hother := hsingle hdown
    simp only [visits_cons, visits_nil, List.forall_mem_singleton, TouchAction.Ok, hdown,
      Bool.true_or]
    refine ⟨iff_of_true trivial trivial, fun _ => (pointerFollows_iff b).2 ?_⟩
    have hfinal : final TouchAction.apply true [.up] = false := rfl
    simp [MouseEvent.apply, hfinal, hother]
  | move x y =>
    obtain ⟨hsingle, rfl⟩ := hf
    refine ⟨iff_of_true ?_ trivial, fun _ => ⟨hsingle, ?_⟩⟩
    · intro z hz
      split_ifs at hz with hany
      · rw [visits_cons, visits_nil, List.mem_singleton] at hz
        subst hz
        exact hany
      · cases hz
    · show final TouchAction.apply held.any (if held.any then [.move] else []) = held.any
      split_ifs <;> rfl

/-- Along a run that the buttons allow, the stream consists of gestures exactly when no button is
pressed while the other is held; the pointer then follows the buttons. -/
theorem gestures_iff_alone (h : ctrl.Active) {events : List MouseEvent}
    (hc : MouseConsistent events) :
    (Gestures (touchStream transform ctrl events) ↔ ButtonsAlone events) ∧
      (ButtonsAlone events → PointerFollows (final MouseEvent.apply .none events)
        (final TouchAction.apply false (touchStream transform ctrl events))) := by
  induction events using List.reverseRecOn with
  | nil =>
    refine ⟨iff_of_true ?_ ?_, fun _ => ⟨by decide, rfl⟩⟩
    · exact fun x hx => by cases hx
    · exact fun x hx => by cases hx
  | append_singleton events e ih =>
    have hvisits : visits MouseEvent.apply .none (events ++ [e]) =
        visits MouseEvent.apply .none events ++ [(final MouseEvent.apply .none events, e)] := by
      rw [visits_append]
      rfl
    have hstream : touchStream transform ctrl (events ++ [e]) =
        touchStream transform ctrl events ++
          touchesFor transform ctrl (final MouseEvent.apply .none events) e :=
      emits_append_singleton ..
    rw [MouseConsistent, hvisits, List.forall_mem_append, List.forall_mem_singleton] at hc
    obtain ⟨hiff, hfollows⟩ := ih hc.1
    have halone : ButtonsAlone (events ++ [e]) ↔
        ButtonsAlone events ∧ e.Alone (final MouseEvent.apply .none events) := by
      rw [ButtonsAlone, hvisits, List.forall_mem_append, List.forall_mem_singleton]
      rfl
    rw [halone, hstream, Gestures, visits_append, List.forall_mem_append, final_append_singleton,
      final_append]
    constructor
    · rw [← hiff]
      refine and_congr_right fun hg => ?_
      exact (step_follows h (hfollows (hiff.1 hg)) hc.2).1
    · rintro ⟨ha, he⟩
      exact (step_follows h (hfollows ha) hc.2).2 he

/-- The touch stream is well formed exactly when no button is pressed while the other is held. -/
theorem touchStream_gestures_iff (h : ctrl.Active) {events : List MouseEvent}
    (hc : MouseConsistent events) :
    TouchesWellFormed transform ctrl events ↔ ButtonsAlone events := by
  refine ⟨fun hw => (gestures_iff_alone h hc).1.1 hw.1, fun ha => ?_⟩
  refine ⟨(gestures_iff_alone h hc).1.2 ha, fun pre hpre hnone => ?_⟩
  obtain ⟨post, rfl⟩ := hpre
  have prefix_of {P : MouseButtons × MouseEvent → Prop}
      (hall : ∀ x ∈ visits MouseEvent.apply .none (pre ++ post), P x) :
      ∀ x ∈ visits MouseEvent.apply .none pre, P x := by
    rw [visits_append, List.forall_mem_append] at hall
    exact hall.1
  have hfollows : PointerFollows (final MouseEvent.apply .none pre)
      (final TouchAction.apply false (touchStream transform ctrl pre)) :=
    (gestures_iff_alone h (prefix_of hc)).2 (prefix_of ha)
  rw [hfollows.pointer, hnone]
  rfl

end Runs

/-- A phone, and a window that shows it unscaled. -/
def unscaled : CoordTransform := fun x y _ _ _ _ => (x, y)

def phone : Controller := ⟨1080, 1920, 1080, 1920, true⟩

theorem phone_active : phone.Active := ⟨rfl, by decide, by decide⟩

/-- A drag with the left button and then a click with the right one. -/
theorem touchStream_gestures_iff_drag :
    TouchesWellFormed unscaled phone
      [.press .left 10 10, .move 20 20, .release .left 20 20, .press .right 30 30,
        .release .right 30 30] :=
  (touchStream_gestures_iff phone_active
    (by simp [MouseConsistent, MouseEvent.Possible, MouseEvent.apply, MouseButtons.get,
      MouseButtons.set, MouseButtons.none])).2
    (by simp [ButtonsAlone, MouseEvent.Alone, MouseEvent.apply, MouseButtons.get,
      MouseButtons.set, MouseButtons.none, MouseButton.other])

/-- The right button pressed and released while the left one is held. -/
def overlap : List MouseEvent :=
  [.press .left 10 10, .press .right 10 10, .release .left 10 10, .move 20 20,
    .release .right 20 20]

/-- The overlapping buttons send a second `DOWN`, and then `MOVE` and `UP` with the pointer up. -/
theorem overlap_sends_two_downs :
    MouseConsistent overlap ∧
      touchStream unscaled phone overlap = [.down, .down, .up, .move, .up] ∧
      ¬ Gestures (touchStream unscaled phone overlap) := by
  refine ⟨?_, by decide, ?_⟩
  · simp [overlap, MouseConsistent, MouseEvent.Possible, MouseEvent.apply, MouseButtons.get,
      MouseButtons.set, MouseButtons.none]
  · rw [show touchStream unscaled phone overlap = [.down, .down, .up, .move, .up] by decide]
    simp [Gestures, TouchAction.Ok, TouchAction.apply]

end Autoscrcpy
