import Autoscrcpy.Adb.Transport
import Autoscrcpy.Device.DeviceMsg

/-!
# Receiving device messages

`control_socket_recv_msg` reads a device message and returns a buffer of the type byte and the body:
the length in front of a clipboard text, and the id and the size in front of UHID data, are read and
not kept. `device_msg_deserialize` expects headers in the buffer, so of the three kinds only the
acknowledgement, which has no such header, survives both (`survives_iff`).
-/

namespace Autoscrcpy

open SegStream

/-! ## The stream -/

/-- A message as the device writes it on the control stream. -/
inductive DeviceMessage where
  | clipboard (text : List UInt8) (fits : text.length < 2 ^ 31)
  | ackClipboard (sequence : UInt64)
  | uhidOutput (id : UInt16) (data : List UInt8) (fits : data.length < 2 ^ 16)

namespace DeviceMessage

def type : DeviceMessage → UInt8
  | clipboard _ _ => DEVICE_MSG_TYPE_CLIPBOARD
  | ackClipboard _ => DEVICE_MSG_TYPE_ACK_CLIPBOARD
  | uhidOutput _ _ _ => DEVICE_MSG_TYPE_UHID_OUTPUT

/-- The size header of a message. -/
def sizeHeader : DeviceMessage → List UInt8
  | clipboard text _ => write32be (UInt32.ofNat text.length)
  | ackClipboard _ => []
  | uhidOutput id data _ => write16be id ++ write16be (UInt16.ofNat data.length)

def body : DeviceMessage → List UInt8
  | clipboard text _ => text
  | ackClipboard sequence => write64be sequence
  | uhidOutput _ data _ => data

def toBytes (m : DeviceMessage) : List UInt8 := m.type :: (m.sizeHeader ++ m.body)

/-- The decoded message is the one that was sent; the stream has no sequence for a clipboard text.
-/
def DecodesTo : DeviceMessage → DeviceMsg → Prop
  | clipboard text _, d => ∃ sequence, d = .clipboard text sequence
  | ackClipboard sequence, d => d = .ackClipboard sequence
  | uhidOutput id data _, d => d = .uhidOutput id data

theorem length_body_lt (m : DeviceMessage) : m.body.length < 2 ^ 31 := by
  cases m with
  | clipboard text fits => exact fits
  | ackClipboard sequence =>
    simp only [body, length_write64be]
    omega
  | uhidOutput id data fits =>
    simp only [body]
    omega

end DeviceMessage

/-! ## `control_socket_recv_msg` -/

/-- The returned buffer, with the size returned for it. -/
structure ControlBuffer where
  data : List UInt8
  size : UInt32
  deriving DecidableEq, Repr

/-- The single `recv` of a size header; it fails unless it brings all four bytes. -/
def recvSizeHeader (s : Source UInt8 SocketSignal) :
    Option (List UInt8) × Source UInt8 SocketSignal :=
  match readOnce 4 s with
  | (.got xs, s') => (if xs.length = 4 then some xs else none, s')
  | (_, s') => (none, s')

/-- The payload size for a type byte. -/
def recvPayloadSize (typeByte : UInt8) (s : Source UInt8 SocketSignal) :
    Option UInt32 × Source UInt8 SocketSignal :=
  if typeByte = DEVICE_MSG_TYPE_CLIPBOARD then
    let r := recvSizeHeader s
    (r.1.map read32be, r.2)
  else if typeByte = DEVICE_MSG_TYPE_UHID_OUTPUT then
    let r := recvSizeHeader s
    (r.1.map fun hdr => (read16be (hdr.drop 2)).toUInt32, r.2)
  else (some (if typeByte = DEVICE_MSG_TYPE_ACK_CLIPBOARD then 8 else 0), s)

/-- Every result of `recv` without data makes `control_socket_recv_msg` return `false`. -/
def controlReact : SocketSignal → Option Unit := fun _ => some ()

/-- `control_socket_recv_msg`; nothing when it returns `false`. `mallocOk` tells whether the buffer
could be allocated. -/
def controlSocketRecvMsg (mallocOk : Bool) (s : Source UInt8 SocketSignal) :
    Option ControlBuffer × Source UInt8 SocketSignal :=
  match readOnce 1 s with
  | (.got xs, s₁) =>
      let typeByte := xs.getD 0 0
      match recvPayloadSize typeByte s₁ with
      | (none, s₂) => (none, s₂)
      | (some payloadSize, s₂) =>
          if mallocOk = false then (none, s₂)
          else
            -- the loop compares with `(int)payload_size`
            let f := readExact controlReact () payloadSize.toInt32.toInt.toNat s₂
            if f.stop = none then (some ⟨typeByte :: f.got, 1 + payloadSize⟩, f.rest)
            else (none, f.rest)
  | (_, s₁) => (none, s₁)

/-! ## What it returns for a message -/

theorem recvSizeHeader_some {s : Source UInt8 SocketSignal} {hdr t : List UInt8}
    (hlen : hdr.length = 4) (hc : content s = hdr ++ t) {xs : List UInt8}
    (h : (recvSizeHeader s).1 = some xs) : xs = hdr ∧ content (recvSizeHeader s).2 = t := by
  unfold recvSizeHeader at h ⊢
  rcases hr : readOnce 4 s with ⟨r, s'⟩
  cases r with
  | got ys =>
    simp only [hr] at h ⊢
    split_ifs at h with h4
    obtain rfl := Option.some.inj h
    have happ := (readOnce_got hr).1.symm.trans hc
    exact List.append_inj happ (h4.trans hlen.symm)
  | signal e => simp [hr] at h
  | ended => simp [hr] at h

/-- A payload size that is returned is the size of the body. -/
theorem recvPayloadSize_some (m : DeviceMessage) {s : Source UInt8 SocketSignal} {t : List UInt8}
    (hc : content s = m.sizeHeader ++ t) {n : UInt32} (h : (recvPayloadSize m.type s).1 = some n) :
    n.toNat = m.body.length ∧ content (recvPayloadSize m.type s).2 = t := by
  cases m with
  | clipboard text fits =>
    simp only [recvPayloadSize, DeviceMessage.type, if_true] at h ⊢
    obtain ⟨xs, hxs, rfl⟩ := Option.map_eq_some_iff.1 h
    obtain ⟨rfl, hrest⟩ := recvSizeHeader_some (by rfl) hc hxs
    refine ⟨?_, hrest⟩
    rw [DeviceMessage.sizeHeader, ← List.append_nil (write32be _), read32be_write32be]
    exact Nat.mod_eq_of_lt (fits.trans (by decide))
  | ackClipboard sequence =>
    simp only [recvPayloadSize, DeviceMessage.type] at h ⊢
    obtain rfl := Option.some.inj h
    exact ⟨rfl, hc⟩
  | uhidOutput id data fits =>
    simp only [recvPayloadSize, DeviceMessage.type] at h ⊢
    obtain ⟨xs, hxs, rfl⟩ := Option.map_eq_some_iff.1 h
    obtain ⟨rfl, hrest⟩ := recvSizeHeader_some (by rfl) hc hxs
    refine ⟨?_, hrest⟩
    have hsize : ((DeviceMessage.uhidOutput id data fits).sizeHeader).drop 2 =
        write16be (UInt16.ofNat data.length) ++ [] := rfl
    rw [hsize, read16be_write16be, UInt16.toNat_toUInt32]
    exact Nat.mod_eq_of_lt fits

/-- A length below 2^31 keeps its value as an `int`. -/
theorem toNat_signedLength {n : UInt32} (h : n.toNat < 2 ^ 31) :
    n.toInt32.toInt.toNat = n.toNat := by
  have hsigned : n.toInt32.toInt = n.toBitVec.toNat :=
    BitVec.toInt_eq_toNat_of_lt (by
      show 2 * n.toNat < 2 ^ 32
      omega)
  rw [hsigned, Int.toNat_natCast]
  rfl

/-- Whatever the segments of the stream and its signals, a buffer that is returned is the type byte
and the body. -/
theorem controlSocketRecvMsg_some (m : DeviceMessage) {mallocOk : Bool}
    {s : Source UInt8 SocketSignal} {t : List UInt8} (hc : content s = m.toBytes ++ t)
    {buf : ControlBuffer} (h : (controlSocketRecvMsg mallocOk s).1 = some buf) :
    buf.data = m.type :: m.body ∧ buf.size.toNat = 1 + m.body.length := by
  unfold controlSocketRecvMsg at h
  rcases hr : readOnce 1 s with ⟨r, s₁⟩
  cases r with
  | signal e => simp [hr] at h
  | ended => simp [hr] at h
  | got xs =>
    simp only [hr] at h
    obtain ⟨happ, hle, hne, -⟩ := readOnce_got hr
    obtain ⟨b, rfl⟩ := List.length_eq_one_iff.1
      (le_antisymm hle (List.length_pos_iff.2 (hne one_pos)))
    rw [hc, DeviceMessage.toBytes, List.cons_append, List.singleton_append, List.cons.injEq,
      List.append_assoc] at happ
    obtain ⟨rfl, hc₁⟩ := happ
    simp only [List.getD_cons_zero] at h
    rcases hp : recvPayloadSize m.type s₁ with ⟨o, s₂⟩
    cases o with
    | none => simp [hp] at h
    | some n =>
      simp only [hp] at h
      have hpay := recvPayloadSize_some m hc₁.symm (n := n)
      rw [hp] at hpay
      obtain ⟨hn, hc₂⟩ := hpay rfl
      have hlt := m.length_body_lt
      rw [toNat_signedLength (hn ▸ hlt), hn] at h
      split_ifs at h with hm hstop
      obtain rfl := Option.some.inj h
      refine ⟨?_, ?_⟩
      · rw [(readExact_append_of_full hc₂ hstop).1]
      · rw [UInt32.toNat_add, hn]
        exact Nat.mod_eq_of_lt (by simp only [UInt32.reduceToNat]; omega)

/-- An acknowledgement that no signal interrupts is received, in pieces of any size. -/
theorem controlSocketRecvMsg_ack (sequence : UInt64) {s : Source UInt8 SocketSignal}
    {t : List UInt8} (hc : content s = (DeviceMessage.ackClipboard sequence).toBytes ++ t)
    (hs : ∀ k ∈ stops controlReact s, (DeviceMessage.ackClipboard sequence).toBytes.length ≤ k) :
    ∃ buf, (controlSocketRecvMsg true s).1 = some buf := by
  have hnine : (DeviceMessage.ackClipboard sequence).toBytes.length = 9 := rfl
  rw [hnine] at hs
  obtain ⟨xs, s₁, hr, hstops⟩ := readOnce_of_stops (n := 1)
    (show ∀ e, controlReact e ≠ none by simp [controlReact]) (by simp [hc, DeviceMessage.toBytes])
    fun k hk => lt_of_lt_of_le (by omega) (hs k hk)
  obtain ⟨happ, hle, hne, -⟩ := readOnce_got hr
  obtain ⟨b, rfl⟩ := List.length_eq_one_iff.1
    (le_antisymm hle (List.length_pos_iff.2 (hne one_pos)))
  rw [hc, DeviceMessage.toBytes, List.cons_append, List.singleton_append, List.cons.injEq] at happ
  obtain ⟨rfl, hc₁⟩ := happ
  have hfull : (readExact controlReact () 8 s₁).stop = none := by
    refine readExact_full ?_ fun k hk => ?_
    · simp [← hc₁, DeviceMessage.sizeHeader, DeviceMessage.body]
    · have hk9 := hs (k + 1) (hstops ▸ List.mem_map_of_mem hk)
      omega
  have hpay : recvPayloadSize (DeviceMessage.ackClipboard sequence).type s₁ = (some 8, s₁) := rfl
  have hsize : (8 : UInt32).toInt32.toInt.toNat = 8 := rfl
  simp only [controlSocketRecvMsg, hr, List.getD_cons_zero, hpay, hsize, Bool.true_eq_false,
    if_false, if_pos hfull]
  exact ⟨_, rfl⟩

/-! ## Receive and parse -/

/-- The message is received, the buffer is accepted, and the decoded message is the one sent. -/
def Survives (m : DeviceMessage) (s : Source UInt8 SocketSignal) : Prop :=
  ∃ buf d, (controlSocketRecvMsg true s).1 = some buf ∧
    deviceMsgDeserialize true buf.data buf.size = some d ∧ m.DecodesTo d

/-- A buffer of one type byte and the body is too short for a text or for data with a header. -/
theorem not_decodesTo_of_body {m : DeviceMessage} (hm : ∀ sequence, m ≠ .ackClipboard sequence)
    {data : List UInt8} {len : UInt32} (hlen : len.toNat = 1 + m.body.length) {d : DeviceMsg}
    (hd : deviceMsgDeserialize true data len = some d) : ¬ m.DecodesTo d := by
  have hle := deserialize_length hd
  rw [hlen] at hle
  intro h
  cases m with
  | clipboard text fits =>
    obtain ⟨sequence, rfl⟩ := h
    simp only [DeviceMsg.headerLength, DeviceMsg.body, DeviceMessage.body] at hle
    omega
  | ackClipboard sequence => exact hm sequence rfl
  | uhidOutput id data fits =>
    obtain rfl := h
    simp only [DeviceMsg.headerLength, DeviceMsg.body, DeviceMessage.body] at hle
    omega

/-- Of the messages that no signal interrupts, exactly the acknowledgements survive. -/
theorem survives_iff (m : DeviceMessage) {s : Source UInt8 SocketSignal} {t : List UInt8}
    (hc : content s = m.toBytes ++ t)
    (hs : ∀ k ∈ stops controlReact s, m.toBytes.length ≤ k) :
    Survives m s ↔ ∃ sequence, m = .ackClipboard sequence := by
  constructor
  · rintro ⟨buf, d, hrecv, hd, hdec⟩
    by_contra! hm
    exact not_decodesTo_of_body hm (controlSocketRecvMsg_some m hc hrecv).2 hd hdec
  · rintro ⟨sequence, rfl⟩
    obtain ⟨buf, hrecv⟩ := controlSocketRecvMsg_ack sequence hc hs
    obtain ⟨hdata, hsize⟩ := controlSocketRecvMsg_some _ hc hrecv
    refine ⟨buf, .ackClipboard sequence, hrecv, ?_, rfl⟩
    have hlen : buf.size = 9 := UInt32.toNat_inj.1 hsize
    rw [hdata, hlen]
    exact deserialize_ack true sequence

/-- An acknowledgement that arrives as one byte and then eight, before a would-block. -/
theorem survives_iff_ack :
    Survives (.ackClipboard 7)
      [.data 1 [], .data 0 [0, 0, 0, 0, 0, 0, 7], .signal .wouldBlock] :=
  (survives_iff (.ackClipboard 7) (List.append_nil _).symm
    (by simp [stops, controlReact, DeviceMessage.toBytes, DeviceMessage.sizeHeader,
      DeviceMessage.body])).2 ⟨7, rfl⟩

/-- The clipboard text `"hi"`: three bytes are returned, and the parser expects nine. -/
theorem clipboardText_rejected :
    (controlSocketRecvMsg true [.data 0 [], .data 0 [0, 0, 2], .data 104 [105]]).1 =
        some ⟨[0, 104, 105], 3⟩ ∧
      deviceMsgDeserialize true [0, 104, 105] 3 = none ∧
        ¬ Survives (.clipboard [104, 105] (by decide))
          [.data 0 [], .data 0 [0, 0, 2], .data 104 [105]] := by
  have hrecv : (controlSocketRecvMsg true
      [.data 0 [], .data 0 [0, 0, 2], .data 104 [105]]).1 = some ⟨[0, 104, 105], 3⟩ := by
    decide
  refine ⟨hrecv, by decide, ?_⟩
  rintro ⟨buf, d, hbuf, hd, -⟩
  obtain rfl := Option.some.inj (hrecv.symm.trans hbuf)
  have hreject : deviceMsgDeserialize true [0, 104, 105] 3 = none := by decide
  exact absurd (hreject.symm.trans hd) (by simp)

end Autoscrcpy
