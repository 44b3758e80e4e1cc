import Autoscrcpy.Adb.Send
import Autoscrcpy.Control.ControlMsg
import Autoscrcpy.Lib.PrefixCode

/-!
# The control stream

The control socket carries the bytes of `control_msg_serialize` one message after the other, without
lengths. `controlMsgDecode` reads a message back from its type byte and the fields of its type; the
action of `backOrScreenOn` is not on the wire, so two sequences have the same bytes exactly when
they differ in these actions at most (`controlStream_eq_iff`). Sends that all return `true` put
these bytes on the socket, whatever parts it takes them in (`controlSends_eq_iff`).
-/

namespace Autoscrcpy

open PartialWrite

namespace ControlMsg

/-- Every argument fits into its field. -/
def InWidth : ControlMsg → Prop
  | injectKeycode action _ _ _ => action.toNat < 2 ^ 8
  | injectTouchEvent action _ _ _ _ width height pressure _ _ =>
      action.toNat < 2 ^ 8 ∧ width.toNat < 2 ^ 16 ∧ height.toNat < 2 ^ 16 ∧
        pressure.toNat < 2 ^ 16
  | injectScrollEvent _ _ width height hscroll vscroll _ =>
      width.toNat < 2 ^ 16 ∧ height.toNat < 2 ^ 16 ∧ hscroll.toNat < 2 ^ 16 ∧
        vscroll.toNat < 2 ^ 16
  | _ => True

/-- The message as the stream tells it. -/
def withoutAction : ControlMsg → ControlMsg
  | backOrScreenOn _ => backOrScreenOn 0
  | m => m

/-- The bytes depend on the message without its action. -/
theorem withoutAction_bytes (m : ControlMsg) :
    m.withoutAction.type :: m.withoutAction.body = m.type :: m.body := by
  cases m <;> rfl

end ControlMsg

/-- A message that is serialised: its arguments fit, and so does the message into its buffer. -/
structure SentControlMsg where
  msg : ControlMsg
  bufSize : ℕ
  inWidth : msg.InWidth
  accepted : msg.minSize ≤ bufSize

/-- The bytes that go to the control socket. -/
def SentControlMsg.bytes (m : SentControlMsg) : List UInt8 := controlMsgSerialize m.msg m.bufSize

theorem SentControlMsg.bytes_eq (m : SentControlMsg) : m.bytes = m.msg.type :: m.msg.body :=
  if_neg (not_lt.2 m.accepted)

theorem SentControlMsg.bytes_ne_nil (m : SentControlMsg) : m.bytes ≠ [] := by
  rw [m.bytes_eq]
  exact List.cons_ne_nil _ _

/-! ## Reading a message back -/

/-- The message at the head of a stream, and the rest. -/
def controlMsgDecode : List UInt8 → Option (ControlMsg × List UInt8)
  | [] => none
  | type :: t =>
      if type = 0 then
        some (.injectKeycode (t.getD 0 0).toUInt32 (read32be (t.drop 1)) (read32be (t.drop 5))
          (read32be (t.drop 9)), t.drop 13)
      else if type = 2 then
        some (.injectTouchEvent (t.getD 0 0).toUInt32 (read32be (t.drop 1)) (read32be (t.drop 5))
          (read32be (t.drop 9)) (read32be (t.drop 13)) (read16be (t.drop 17)).toUInt32
          (read16be (t.drop 19)).toUInt32 (read16be (t.drop 21)).toUInt32 (read32be (t.drop 23))
          (read32be (t.drop 27)), t.drop 31)
      else if type = 3 then
        some (.injectScrollEvent (read32be t) (read32be (t.drop 4)) (read16be (t.drop 8)).toUInt32
          (read16be (t.drop 10)).toUInt32 (read16be (t.drop 12)).toUInt32
          (read16be (t.drop 14)).toUInt32 (read32be (t.drop 16)), t.drop 20)
      else if type = 10 then some (.setDisplayPower (t.getD 0 0 ≠ 0), t.drop 1)
      else if type = 4 then some (.backOrScreenOn 0, t)
      else if type = 5 then some (.expandNotificationPanel, t)
      else if type = 6 then some (.expandSettingsPanel, t)
      else if type = 7 then some (.collapsePanels, t)
      else if type = 11 then some (.rotateDevice, t)
      else if type = 15 then some (.openHardKeyboardSettings, t)
      else if type = 17 then some (.resetVideo, t)
      else none

theorem toUInt8_toUInt32 {x : UInt32} (h : x.toNat < 2 ^ 8) : x.toUInt8.toUInt32 = x :=
  UInt32.toNat_inj.1 (Nat.mod_eq_of_lt h)

theorem toUInt16_toUInt32 {x : UInt32} (h : x.toNat < 2 ^ 16) : x.toUInt16.toUInt32 = x :=
  UInt32.toNat_inj.1 (Nat.mod_eq_of_lt h)

/-- A word of two halves is written as the one half and then the other. -/
theorem write64be_halves (high low : UInt32) :
    write64be ((high.toUInt64 <<< 32) ||| low.toUInt64) = write32be high ++ write32be low := by
  have hhigh : (((high.toUInt64 <<< 32) ||| low.toUInt64) >>> 32).toUInt32 = high := by
    apply UInt32.toBitVec_inj.1
    apply BitVec.eq_of_getLsbD_eq
    intro i hi
    change ((((high.toBitVec.setWidth 64) <<< 32 ||| low.toBitVec.setWidth 64) >>> 32).setWidth
      32).getLsbD i = _
    simp [hi, show 32 + i < 64 by omega, show i < 64 by omega]
  have hlow : ((high.toUInt64 <<< 32) ||| low.toUInt64).toUInt32 = low := by
    apply UInt32.toBitVec_inj.1
    apply BitVec.eq_of_getLsbD_eq
    intro i hi
    change (((high.toBitVec.setWidth 64) <<< 32 ||| low.toBitVec.setWidth 64).setWidth
      32).getLsbD i = _
    simp [hi]
  rw [write64be, hhigh, hlow]

/-- A message in front of anything is read back, without its action. -/
theorem controlMsgDecode_append {m : ControlMsg} (h : m.InWidth) (t : List UInt8) :
    controlMsgDecode (m.type :: m.body ++ t) = some (m.withoutAction, t) := by
  cases m with
  | injectKeycode action keycode repeats metastate =>
    have haction := toUInt8_toUInt32 h
    show some (ControlMsg.injectKeycode action.toUInt8.toUInt32
      (read32be (write32be keycode ++ (write32be repeats ++ (write32be metastate ++ t))))
      (read32be (write32be repeats ++ (write32be metastate ++ t)))
      (read32be (write32be metastate ++ t)), t) = _
    simp only [haction, read32be_write32be]
    rfl
  | injectTouchEvent action pointerIdHigh pointerIdLow x y width height pressure actionButton
      buttons =>
    obtain ⟨haction, hwidth, hheight, hpressure⟩ := h
    have haction := toUInt8_toUInt32 haction
    have hwidth := toUInt16_toUInt32 hwidth
    have hheight := toUInt16_toUInt32 hheight
    have hpressure := toUInt16_toUInt32 hpressure
    rw [ControlMsg.body, write64be_halves]
    let t₁ := write16be pressure.toUInt16 ++ (write32be actionButton ++ (write32be buttons ++ t))
    let t₂ := write32be y ++ (write16be width.toUInt16 ++ (write16be height.toUInt16 ++ t₁))
    let t₃ := write32be x ++ t₂
    show some (ControlMsg.injectTouchEvent action.toUInt8.toUInt32
      (read32be (write32be pointerIdHigh ++ (write32be pointerIdLow ++ t₃)))
      (read32be (write32be pointerIdLow ++ t₃)) (read32be t₃) (read32be t₂)
      (read16be (write16be width.toUInt16 ++ (write16be height.toUInt16 ++ t₁))).toUInt32
      (read16be (write16be height.toUInt16 ++ t₁)).toUInt32 (read16be t₁).toUInt32
      (read32be (write32be actionButton ++ (write32be buttons ++ t)))
      (read32be (write32be buttons ++ t)), t) = _
    simp only [t₃, t₂, t₁, haction, hwidth, hheight, hpressure, read32be_write32be,
      read16be_write16be]
    rfl
  | injectScrollEvent x y width height hscroll vscroll buttons =>
    obtain ⟨hwidth, hheight, hhscroll, hvscroll⟩ := h
    have hwidth := toUInt16_toUInt32 hwidth
    have hheight := toUInt16_toUInt32 hheight
    have hhscroll := toUInt16_toUInt32 hhscroll
    have hvscroll := toUInt16_toUInt32 hvscroll
    let t₁ := write16be hscroll.toUInt16 ++ (write16be vscroll.toUInt16 ++ (write32be buttons ++ t))
    let t₂ := write16be width.toUInt16 ++ (write16be height.toUInt16 ++ t₁)
    show some (ControlMsg.injectScrollEvent (read32be (write32be x ++ (write32be y ++ t₂)))
      (read32be (write32be y ++ t₂)) (read16be t₂).toUInt32
      (read16be (write16be height.toUInt16 ++ t₁)).toUInt32 (read16be t₁).toUInt32
      (read16be (write16be vscroll.toUInt16 ++ (write32be buttons ++ t))).toUInt32
      (read32be (write32be buttons ++ t)), t) = _
    simp only [t₂, t₁, hwidth, hheight, hhscroll, hvscroll, read32be_write32be, read16be_write16be]
    rfl
  | setDisplayPower on => cases on <;> rfl
  | backOrScreenOn action => rfl
  | expandNotificationPanel => rfl
  | expandSettingsPanel => rfl
  | collapsePanels => rfl
  | rotateDevice => rfl
  | openHardKeyboardSettings => rfl
  | resetVideo => rfl

/-! ## Sequences of messages -/

theorem SentControlMsg.decodes :
    PrefixCode.Decodes SentControlMsg.bytes (·.msg.withoutAction) controlMsgDecode := fun m t => by
  rw [m.bytes_eq]
  exact controlMsgDecode_append m.inWidth t

/-- The bytes of two sequences are the same exactly when the messages are, up to the actions that
are not written. -/
theorem controlStream_eq_iff (ms ms' : List SentControlMsg) :
    ms.flatMap SentControlMsg.bytes = ms'.flatMap SentControlMsg.bytes ↔
      ms.map (·.msg.withoutAction) = ms'.map (·.msg.withoutAction) :=
  SentControlMsg.decodes.flatMap_eq_iff SentControlMsg.bytes_ne_nil
    (fun m => m.type :: m.body) fun m => by rw [m.bytes_eq, m.msg.withoutAction_bytes]

/-! ## Sending them -/

/-- `control_socket_send_msg`, which returns `true` where the loop is done. -/
def controlSocketSendMsg (valid : Bool) (data : List UInt8) (answers : List (Answer SocketSignal)) :
    Flush UInt8 SocketSignal Unit :=
  if valid then writeAll socketSendReact data answers else ⟨[], .stopped (), 0, answers⟩

theorem controlSocketSendMsg_sends (valid : Bool) (data : List UInt8)
    (answers : List (Answer SocketSignal)) :
    (controlSocketSendMsg valid data answers).sent <+: data := by
  unfold controlSocketSendMsg
  split_ifs
  · exact writeAll_prefix ..
  · exact List.nil_prefix

theorem controlSocketSendMsg_done_iff (valid : Bool) {data : List UInt8} (hne : data ≠ [])
    (answers : List (Answer SocketSignal)) :
    (controlSocketSendMsg valid data answers).status = .done ↔
      (controlSocketSendMsg valid data answers).sent = data := by
  unfold controlSocketSendMsg
  split_ifs
  · exact writeAll_done_iff ..
  · simpa using hne.symm

/-- What a sequence of sends puts on the socket, and whether all of them returned `true`. The
controller does not look at the result of a send and goes on with the next message. -/
def controlSends (valid : Bool) :
    List SentControlMsg → List (Answer SocketSignal) → List UInt8 × Bool
  | [], _ => ([], true)
  | m :: ms, answers =>
      let r := controlSocketSendMsg valid m.bytes answers
      let rest := controlSends valid ms r.rest
      (r.sent ++ rest.1, r.status = .done && rest.2)

theorem length_controlSends_le (valid : Bool) (ms : List SentControlMsg)
    (answers : List (Answer SocketSignal)) :
    (controlSends valid ms answers).1.length ≤ (ms.flatMap SentControlMsg.bytes).length := by
  induction ms generalizing answers with
  | nil => rfl
  | cons m ms ih =>
    rw [controlSends, List.flatMap_cons, List.length_append, List.length_append]
    exact Nat.add_le_add (controlSocketSendMsg_sends ..).length_le (ih _)

/-- All sends return `true` exactly when all the bytes are on the socket. -/
theorem controlSends_ok_iff (valid : Bool) (ms : List SentControlMsg)
    (answers : List (Answer SocketSignal)) :
    (controlSends valid ms answers).2 = true ↔
      (controlSends valid ms answers).1 = ms.flatMap SentControlMsg.bytes := by
  induction ms generalizing answers with
  | nil => exact iff_of_true rfl rfl
  | cons m ms ih =>
    simp only [controlSends, List.flatMap_cons, Bool.and_eq_true, decide_eq_true_eq, ih,
      controlSocketSendMsg_done_iff valid m.bytes_ne_nil]
    constructor
    · rintro ⟨hsent, hrest⟩
      rw [hsent, hrest]
    · intro hall
      -- neither part is longer than its message, so neither is shorter
      have hsent := controlSocketSendMsg_sends valid m.bytes answers
      have hlen := congrArg List.length hall
      have hle := length_controlSends_le valid ms (controlSocketSendMsg valid m.bytes answers).rest
      rw [List.length_append, List.length_append] at hlen
      exact List.append_inj hall (by have := hsent.length_le; omega)

/-- Of sends that all return `true` the socket has the same bytes exactly when the messages are the
same, up to the actions that are not written. -/
theorem controlSends_eq_iff {valid : Bool} {ms ms' : List SentControlMsg}
    {answers answers' : List (Answer SocketSignal)}
    (h : (controlSends valid ms answers).2 = true)
    (h' : (controlSends valid ms' answers').2 = true) :
    (controlSends valid ms answers).1 = (controlSends valid ms' answers').1 ↔
      ms.map (·.msg.withoutAction) = ms'.map (·.msg.withoutAction) := by
  rw [(controlSends_ok_iff ..).1 h, (controlSends_ok_iff ..).1 h', controlStream_eq_iff]

/-! ## Telling sequences apart -/

/-- The bytes tell two sequences apart. -/
def ToldApart (ms ms' : List SentControlMsg) : Prop :=
  ms.map (·.msg) ≠ ms'.map (·.msg) →
    ms.flatMap SentControlMsg.bytes ≠ ms'.flatMap SentControlMsg.bytes

end Autoscrcpy
