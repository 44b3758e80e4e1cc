import Autoscrcpy.Adb.Binary

/-!
# Control messages

The messages that the controller builds and `control_msg_serialize`. A message is its type with the
arguments that the callers pass at `msg_data`; the serialiser reads the ones that it needs.
-/

namespace Autoscrcpy

/-- The message types that `control_msg_serialize` knows, with their arguments. -/
inductive ControlMsg where
  | injectKeycode (action keycode repeats metastate : UInt32)
  | injectTouchEvent (action pointerIdHigh pointerIdLow x y width height pressure actionButton
      buttons : UInt32)
  | injectScrollEvent (x y width height hscroll vscroll buttons : UInt32)
  | backOrScreenOn (action : UInt32)
  | expandNotificationPanel
  | expandSettingsPanel
  | collapsePanels
  | setDisplayPower (on : Bool)
  | rotateDevice
  | openHardKeyboardSettings
  | resetVideo
  deriving DecidableEq, Repr

namespace ControlMsg

/-- The value of `enum control_msg_type`. -/
def type : ControlMsg → UInt8
  | injectKeycode .. => 0
  | injectTouchEvent .. => 2
  | injectScrollEvent .. => 3
  | backOrScreenOn _ => 4
  | expandNotificationPanel => 5
  | expandSettingsPanel => 6
  | collapsePanels => 7
  | setDisplayPower _ => 10
  | rotateDevice => 11
  | openHardKeyboardSettings => 15
  | resetVideo => 17

/-- What follows the type byte. The action of `backOrScreenOn` is not written. -/
def body : ControlMsg → List UInt8
  | injectKeycode action keycode repeats metastate =>
      action.toUInt8 :: (write32be keycode ++ write32be repeats ++ write32be metastate)
  | injectTouchEvent action pointerIdHigh pointerIdLow x y width height pressure actionButton
      buttons =>
      action.toUInt8 ::
        (write64be ((pointerIdHigh.toUInt64 <<< 32) ||| pointerIdLow.toUInt64) ++
          write32be x ++ write32be y ++ write16be width.toUInt16 ++ write16be height.toUInt16 ++
          write16be pressure.toUInt16 ++ write32be actionButton ++ write32be buttons)
  | injectScrollEvent x y width height hscroll vscroll buttons =>
      write32be x ++ write32be y ++ write16be width.toUInt16 ++ write16be height.toUInt16 ++
        write16be hscroll.toUInt16 ++ write16be vscroll.toUInt16 ++ write32be buttons
  | setDisplayPower on => [if on then 1 else 0]
  | _ => []

/-- The buffer size that a type asks for; types without arguments ask for none. -/
def minSize : ControlMsg → ℕ
  | injectKeycode .. => 14
  | injectTouchEvent .. => 32
  | injectScrollEvent .. => 21
  | setDisplayPower _ => 2
  | _ => 0

end ControlMsg

/-- `control_msg_serialize`: the bytes written to a buffer of `bufSize` bytes, none where it
returns `0`. -/
def controlMsgSerialize (m : ControlMsg) (bufSize : ℕ) : List UInt8 :=
  if bufSize < m.minSize then [] else m.type :: m.body

/-- With the buffers of the callers every message is serialised, to at most 32 bytes. -/
theorem length_controlMsgSerialize (m : ControlMsg) :
    (controlMsgSerialize m 64).length = m.body.length + 1 ∧ m.body.length < 32 := by
  have hmin : ¬ 64 < m.minSize := by cases m <;> simp [ControlMsg.minSize]
  rw [controlMsgSerialize, if_neg hmin]
  refine ⟨List.length_cons, ?_⟩
  cases m <;> simp [ControlMsg.body]

end Autoscrcpy
