import Autoscrcpy.Adb.Binary

/-!
# Device messages

The messages that the device sends on the control socket, and `device_msg_deserialize`. Its layout
has an eight-byte sequence before a clipboard text and an id and a length before UHID data, so what
it decodes is shorter than its input by these headers.
-/

namespace Autoscrcpy

abbrev DEVICE_MSG_TYPE_CLIPBOARD : UInt8 := 0
abbrev DEVICE_MSG_TYPE_ACK_CLIPBOARD : UInt8 := 1
abbrev DEVICE_MSG_TYPE_UHID_OUTPUT : UInt8 := 2

/-- `struct device_msg`; the lengths are those of the lists. -/
inductive DeviceMsg where
  | clipboard (text : List UInt8) (sequence : UInt64)
  | ackClipboard (sequence : UInt64)
  | uhidOutput (id : UInt16) (data : List UInt8)
  deriving DecidableEq, Repr

/-- `device_msg_deserialize` on the `len` bytes at `data`; nothing for the result `-1`. `mallocOk`
tells whether memory for a text or for data could be allocated. -/
def deviceMsgDeserialize (mallocOk : Bool) (data : List UInt8) (len : UInt32) : Option DeviceMsg :=
  if len < 1 then none
  else if data.getD 0 0 = DEVICE_MSG_TYPE_CLIPBOARD then
    if len < 9 then none
    else if mallocOk = false then none
    else some (.clipboard ((data.drop 9).take (len - 9).toNat) (read64be (data.drop 1)))
  else if data.getD 0 0 = DEVICE_MSG_TYPE_ACK_CLIPBOARD then
    if len < 9 then none else some (.ackClipboard (read64be (data.drop 1)))
  else if data.getD 0 0 = DEVICE_MSG_TYPE_UHID_OUTPUT then
    if len < 5 then none
    else if len < 5 + (read16be (data.drop 3)).toUInt32 then none
    else if mallocOk = false then none
    else some (.uhidOutput (read16be (data.drop 1))
      ((data.drop 5).take (read16be (data.drop 3)).toNat))
  else none

/-- The bytes that a decoded message takes besides its text or data. -/
def DeviceMsg.headerLength : DeviceMsg → ℕ
  | clipboard _ _ => 9
  | ackClipboard _ => 9
  | uhidOutput _ _ => 5

/-- The text or data of a message. -/
def DeviceMsg.body : DeviceMsg → List UInt8
  | clipboard text _ => text
  | ackClipboard _ => []
  | uhidOutput _ data => data

/-- The header and a 16-bit size do not wrap. -/
theorem toNat_five_add (size : UInt16) : (5 + size.toUInt32).toNat = 5 + size.toNat := by
  have hlt := size.toNat_lt
  rw [UInt32.toNat_add, UInt16.toNat_toUInt32]
  exact Nat.mod_eq_of_lt (by simp only [UInt32.reduceToNat]; omega)

/-- A decoded message fits into the input with its header. -/
theorem deserialize_length {mallocOk : Bool} {data : List UInt8} {len : UInt32} {d : DeviceMsg}
    (h : deviceMsgDeserialize mallocOk data len = some d) :
    d.headerLength + d.body.length ≤ len.toNat := by
  unfold deviceMsgDeserialize at h
  split_ifs at h with _ _ h9 _ _ h9 _ h5 hn
  · obtain rfl := Option.some.inj h
    have hle : (9 : UInt32) ≤ len := UInt32.not_lt.1 h9
    have hsub : (len - 9).toNat = len.toNat - 9 := UInt32.toNat_sub_of_le _ _ hle
    have hnat : 9 ≤ len.toNat := UInt32.le_iff_toNat_le.1 hle
    simp only [DeviceMsg.headerLength, DeviceMsg.body, List.length_take, hsub]
    omega
  · obtain rfl := Option.some.inj h
    have hnat : 9 ≤ len.toNat := UInt32.le_iff_toNat_le.1 (UInt32.not_lt.1 h9)
    simpa [DeviceMsg.headerLength, DeviceMsg.body] using hnat
  · obtain rfl := Option.some.inj h
    have hnat := UInt32.le_iff_toNat_le.1 (UInt32.not_lt.1 hn)
    rw [toNat_five_add] at hnat
    simp only [DeviceMsg.headerLength, DeviceMsg.body, List.length_take]
    omega

/-- The type byte and a sequence decode to an acknowledgement. -/
theorem deserialize_ack (mallocOk : Bool) (sequence : UInt64) :
    deviceMsgDeserialize mallocOk (DEVICE_MSG_TYPE_ACK_CLIPBOARD :: write64be sequence) 9 =
      some (.ackClipboard sequence) := by
  have hseq := read64be_write64be sequence []
  rw [List.append_nil] at hseq
  simp only [deviceMsgDeserialize, List.getD_cons_zero, List.drop_succ_cons, List.drop_zero, hseq]
  rw [if_neg (by decide), if_neg (by decide), if_pos trivial, if_neg (by decide)]

end Autoscrcpy
