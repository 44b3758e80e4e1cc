import Autoscrcpy.Adb.Message
import Autoscrcpy.Adb.Transport

/-!
# Sending ADB messages

`adb_send_msg` writes the header and then the payload to the socket, each in a loop of its own that
tries again after every would-block. `adb_send_msg_tls` copies both into one buffer and writes that
with `tls_send`, giving up after 500 attempts in a row without progress.

`adbSendMsg_sendsFrame` and `adbSendMsgTls_sendsFrame` say the same of both: what the transport
accepts is a prefix of one frame, and the call returns `0` exactly when the whole frame was
accepted.
-/

namespace Autoscrcpy

open PartialWrite

/-! ## The arguments of a send -/

/-- The message arguments of a send call; `data = none` is the null pointer. -/
structure SendArgs where
  cmd : UInt32
  arg0 : UInt32
  arg1 : UInt32
  data : Option (List UInt8)
  dataLen : UInt32
  skipChecksum : Bool
  deriving DecidableEq, Repr

namespace SendArgs

/-- The bytes at `data` that belong to the message. -/
def payload (a : SendArgs) : List UInt8 := (a.data.getD []).take a.dataLen.toNat

/-- The header with the given checksum field. -/
def header (a : SendArgs) (dataCheck : UInt32) : AdbMessage where
  command := a.cmd
  arg0 := a.arg0
  arg1 := a.arg1
  dataLength := a.dataLen
  dataCheck := dataCheck
  magic := a.cmd ^^^ 0xffffffff

/-- What the caller of a send owes: `data` points to `data_len` bytes, or there are none. -/
structure Valid (a : SendArgs) : Prop where
  nonnull : a.data.isSome ∨ a.dataLen = 0
  readable : ∀ buf ∈ a.data, a.dataLen.toNat ≤ buf.length

/-- The packet of a message: its header, with the byte sum unless checksums are skipped, and its
payload. -/
def packet (a : SendArgs) : Packet where
  hdr := a.header (if a.skipChecksum then 0 else adbChecksum a.payload)
  payload := a.payload

/-- The bytes of the packet. -/
def frame (a : SendArgs) : List UInt8 := a.packet.toBytes

theorem Valid.length_payload {a : SendArgs} (v : a.Valid) : a.payload.length = a.dataLen.toNat := by
  unfold payload
  rcases h : a.data with _ | buf
  · have hz := v.nonnull
    rw [h] at hz
    simp only [Option.isSome_none, Bool.false_eq_true, false_or] at hz
    simp [hz]
  · have := v.readable buf h
    simp only [Option.getD_some, List.length_take]
    omega

theorem Valid.length_frame {a : SendArgs} (v : a.Valid) :
    a.frame.length = 24 + a.dataLen.toNat := by
  simp [frame, packet, v.length_payload]

end SendArgs

/-! ## The send functions -/

/-- The return value (`none` while the call has not returned), the bytes the transport accepted and
the number of calls of the transport. -/
structure SendOutcome where
  ret : Option ℤ
  accepted : List UInt8
  calls : ℕ
  deriving DecidableEq, Repr

/-- Both loops return `-1` when a send fails and when they give up. -/
def statusRet : Status Unit → Option ℤ
  | .done => some 0
  | .stopped () => some (-1)
  | .gaveUp => some (-1)
  | .pending => none

/-- A would-block is tried again; `0` and every other error end the call. -/
def socketSendReact : SocketSignal → Option Unit
  | .wouldBlock => none
  | .closed => some ()
  | .error => some ()

/-- A result `0` is tried again; a negative one ends the call. -/
def tlsSendReact : TlsSignal → Option Unit
  | .again => none
  | .fail => some ()

/-- `adb_send_msg`. The `(int)` casts of the lengths to send are the identity below `2 ^ 31`; a
longer rest is offered as a negative length, of which a transport accepts nothing, and that is one
of the answers it may give to a rest of its true length. -/
def adbSendMsg (a : SendArgs) (answers : List (Answer SocketSignal)) : SendOutcome :=
  let dataCheck := if a.skipChecksum then 0 else adbChecksum a.payload
  let h := writeAll socketSendReact (a.header dataCheck).toBytes answers
  if h.status = .done then
    if 0 < a.dataLen ∧ a.data.isSome then
      let p := writeAll socketSendReact a.payload h.rest
      ⟨statusRet p.status, h.sent ++ p.sent, h.calls + p.calls⟩
    else ⟨some 0, h.sent, h.calls⟩
  else ⟨statusRet h.status, h.sent, h.calls⟩

/-- The write buffer of `adb_send_msg_tls`; bytes that nothing was copied to are shown as `0`. -/
def tlsWriteBuffer (a : SendArgs) : List UInt8 :=
  let dataCheck := if a.data.isSome ∧ a.skipChecksum = false then adbChecksum a.payload else 0
  let totalLen : UInt32 := 24 + a.dataLen
  ((a.header dataCheck).toBytes ++
    if a.data.isSome ∧ 0 < a.dataLen then a.payload
    else List.replicate a.dataLen.toNat 0).take totalLen.toNat

/-- `adb_send_msg_tls` on a TLS connection; `mallocOk` tells whether the write buffer could be
allocated. -/
def adbSendMsgTls (a : SendArgs) (mallocOk : Bool) (answers : List (Answer TlsSignal)) :
    SendOutcome :=
  if mallocOk then
    let f := writeBounded tlsSendReact 500 0 (tlsWriteBuffer a) answers
    ⟨statusRet f.status, f.sent, f.calls⟩
  else ⟨some (-1), [], 0⟩

/-! ## Both send the frame -/

/-- A call that keeps to a frame: it hands over a prefix of it, returns `0` exactly when all of it
was accepted, and returns nothing but `0` and `-1`. -/
structure SendOutcome.SendsFrame (o : SendOutcome) (frame : List UInt8) : Prop where
  accepted_prefix : o.accepted <+: frame
  ret_zero_iff : o.ret = some 0 ↔ o.accepted = frame
  ret_cases : o.ret = none ∨ o.ret = some 0 ∨ o.ret = some (-1)

theorem statusRet_cases (s : Status Unit) :
    statusRet s = none ∨ statusRet s = some 0 ∨ statusRet s = some (-1) := by
  rcases s with _ | ⟨⟨⟩⟩ | _ | _ <;> simp [statusRet]

theorem statusRet_eq_zero_iff (s : Status Unit) : statusRet s = some 0 ↔ s = .done := by
  rcases s with _ | ⟨⟨⟩⟩ | _ | _ <;> simp [statusRet]

theorem statusRet_eq_none_iff (s : Status Unit) : statusRet s = none ↔ s = .pending := by
  rcases s with _ | ⟨⟨⟩⟩ | _ | _ <;> simp [statusRet]

theorem adbSendMsg_sendsFrame {a : SendArgs} (v : a.Valid)
    (answers : List (Answer SocketSignal)) : (adbSendMsg a answers).SendsFrame a.frame := by
  set hdr := (a.header (if a.skipChecksum then 0 else adbChecksum a.payload)).toBytes with hhdr
  have hframe : a.frame = hdr ++ a.payload := rfl
  have hpre := writeAll_prefix socketSendReact hdr answers
  by_cases hdone : (writeAll socketSendReact hdr answers).status = .done
  · have hsent := (writeAll_done_iff socketSendReact hdr answers).1 hdone
    by_cases hbody : 0 < a.dataLen ∧ a.data.isSome
    · have hpay := writeAll_prefix socketSendReact a.payload
        (writeAll socketSendReact hdr answers).rest
      refine ⟨?_, ?_, ?_⟩
      · simp only [adbSendMsg, ← hhdr, if_pos hdone, if_pos hbody, hsent, hframe]
        exact (List.prefix_append_right_inj hdr).2 hpay
      · simp only [adbSendMsg, ← hhdr, if_pos hdone, if_pos hbody, hsent, hframe]
        rw [statusRet_eq_zero_iff, writeAll_done_iff, List.append_right_inj]
      · simp only [adbSendMsg, ← hhdr, if_pos hdone, if_pos hbody]
        exact statusRet_cases _
    · have hzero : a.dataLen.toNat = 0 := by
        by_contra hne
        have hpos : 0 < a.dataLen := UInt32.lt_iff_toNat_lt.2 (Nat.pos_of_ne_zero hne)
        rcases v.nonnull with h | h
        · exact hbody ⟨hpos, h⟩
        · exact hne (by rw [h]; rfl)
      have hnil : a.payload = [] := List.eq_nil_of_length_eq_zero (by rw [v.length_payload, hzero])
      have hwhole : a.frame = hdr := hframe.trans (by rw [hnil, List.append_nil])
      have houtcome : adbSendMsg a answers =
          ⟨some 0, hdr, (writeAll socketSendReact hdr answers).calls⟩ := by
        simp only [adbSendMsg, ← hhdr, if_pos hdone, if_neg hbody, hsent]
      rw [houtcome, hwhole]
      exact ⟨List.prefix_rfl, iff_of_true rfl rfl, Or.inr (Or.inl rfl)⟩
  · -- A header that was not sent whole is not the frame, even when the payload is empty.
    have hne : (writeAll socketSendReact hdr answers).sent ≠ a.frame := by
      intro h
      rw [h, hframe] at hpre
      have hle := hpre.length_le
      rw [List.length_append] at hle
      have hnil : a.payload = [] := List.eq_nil_of_length_eq_zero (by omega)
      exact hdone ((writeAll_done_iff ..).2 (by rw [h, hframe, hnil, List.append_nil]))
    refine ⟨?_, ?_, ?_⟩
    · simp only [adbSendMsg, ← hhdr, if_neg hdone]
      exact hpre.trans (List.prefix_append hdr a.payload)
    · simp only [adbSendMsg, ← hhdr, if_neg hdone, statusRet_eq_zero_iff]
      exact iff_of_false hdone hne
    · simp only [adbSendMsg, ← hhdr, if_neg hdone]
      exact statusRet_cases _

/-- The parts in which `adb_send_msg` hands its frame to the socket, one for each `send` that takes
something. No part reaches from the header into the payload. -/
def adbSendMsgPieces (a : SendArgs) (answers : List (Answer SocketSignal)) : List (List UInt8) :=
  let hdr := (a.header (if a.skipChecksum then 0 else adbChecksum a.payload)).toBytes
  let h := writeAll socketSendReact hdr answers
  writePieces socketSendReact hdr answers ++
    if h.status = .done ∧ 0 < a.dataLen ∧ a.data.isSome then
      writePieces socketSendReact a.payload h.rest
    else []

theorem flatten_adbSendMsgPieces (a : SendArgs) (answers : List (Answer SocketSignal)) :
    (adbSendMsgPieces a answers).flatten = (adbSendMsg a answers).accepted := by
  unfold adbSendMsgPieces adbSendMsg
  dsimp only
  generalize (a.header (if a.skipChecksum then 0 else adbChecksum a.payload)).toBytes = hdr
  rw [List.flatten_append, flatten_writePieces]
  by_cases hdone : (writeAll socketSendReact hdr answers).status = .done
  · by_cases hbody : 0 < a.dataLen ∧ a.data.isSome
    · rw [if_pos ⟨hdone, hbody⟩, if_pos hdone, if_pos hbody, flatten_writePieces]
    · rw [if_neg fun h => hbody h.2, if_pos hdone, if_neg hbody]
      exact List.append_nil _
  · rw [if_neg fun h => hdone h.1, if_neg hdone]
    exact List.append_nil _

theorem ne_nil_of_mem_adbSendMsgPieces {a : SendArgs} {answers : List (Answer SocketSignal)}
    {p : List UInt8} (h : p ∈ adbSendMsgPieces a answers) : p ≠ [] := by
  rcases List.mem_append.1 h with h | h
  · exact ne_nil_of_mem_writePieces _ h
  · generalize (a.header (if a.skipChecksum then 0 else adbChecksum a.payload)).toBytes = hdr at h
    split_ifs at h
    · exact ne_nil_of_mem_writePieces _ h
    · cases h

/-- The write buffer holds the frame: the guard on the checksum makes no difference for a null
`data`, whose length is `0`. -/
theorem tlsWriteBuffer_eq {a : SendArgs} (v : a.Valid) (hlen : 24 + a.dataLen.toNat < 2 ^ 32) :
    tlsWriteBuffer a = a.frame := by
  have htotal : (24 + a.dataLen : UInt32).toNat = 24 + a.dataLen.toNat := by
    rw [UInt32.toNat_add]
    exact Nat.mod_eq_of_lt hlen
  have hbody : (if a.data.isSome ∧ 0 < a.dataLen then a.payload
      else List.replicate a.dataLen.toNat 0) = a.payload := by
    split_ifs with h
    · rfl
    · have hzero : a.dataLen.toNat = 0 := by
        by_contra hne
        have hpos : 0 < a.dataLen := UInt32.lt_iff_toNat_lt.2 (Nat.pos_of_ne_zero hne)
        rcases v.nonnull with hd | hd
        · exact h ⟨hd, hpos⟩
        · exact hne (by rw [hd]; rfl)
      rw [List.eq_nil_of_length_eq_zero (v.length_payload.trans hzero), hzero, List.replicate_zero]
  have hcheck : (if a.data.isSome ∧ a.skipChecksum = false then adbChecksum a.payload else 0) =
      if a.skipChecksum then 0 else adbChecksum a.payload := by
    cases hs : a.skipChecksum with
    | true => simp
    | false =>
      rcases hd : a.data with _ | buf
      · simp [SendArgs.payload, hd]
      · simp
  rw [tlsWriteBuffer, hbody, hcheck, htotal]
  exact List.take_of_length_le (by simp [v.length_payload])

theorem adbSendMsgTls_sendsFrame {a : SendArgs} (v : a.Valid)
    (hlen : 24 + a.dataLen.toNat < 2 ^ 32) (mallocOk : Bool) (answers : List (Answer TlsSignal)) :
    (adbSendMsgTls a mallocOk answers).SendsFrame a.frame := by
  cases mallocOk with
  | false =>
    have hne : a.frame ≠ [] := List.ne_nil_of_length_pos (by rw [v.length_frame]; omega)
    exact ⟨List.nil_prefix, by simpa [adbSendMsgTls] using hne.symm, Or.inr (Or.inr rfl)⟩
  | true =>
    refine ⟨?_, ?_, ?_⟩
    · simp only [adbSendMsgTls, if_true, tlsWriteBuffer_eq v hlen]
      exact writeBounded_prefix ..
    · simp only [adbSendMsgTls, if_true, tlsWriteBuffer_eq v hlen]
      rw [statusRet_eq_zero_iff, writeBounded_done_iff]
    · simp only [adbSendMsgTls, if_true]
      exact statusRet_cases _

/-- The TLS path makes at most 500 calls for each byte of the frame, and has returned after them. -/
theorem adbSendMsgTls_calls {a : SendArgs} (v : a.Valid) (hlen : 24 + a.dataLen.toNat < 2 ^ 32)
    (mallocOk : Bool) (answers : List (Answer TlsSignal)) :
    (adbSendMsgTls a mallocOk answers).calls ≤ 500 * (24 + a.dataLen.toNat) ∧
      (500 * (24 + a.dataLen.toNat) ≤ answers.length →
        (adbSendMsgTls a mallocOk answers).ret ≠ none) := by
  cases mallocOk with
  | false => simp [adbSendMsgTls]
  | true =>
    have hne : a.frame ≠ [] := List.ne_nil_of_length_pos (by rw [v.length_frame]; omega)
    obtain ⟨hle, hpending⟩ := writeBounded_calls tlsSendReact (Nat.zero_le 500) hne answers
    rw [v.length_frame] at hle hpending
    simp only [adbSendMsgTls, if_true, tlsWriteBuffer_eq v hlen]
    refine ⟨by omega, fun hanswers => ?_⟩
    rw [ne_eq, statusRet_eq_none_iff]
    intro hp
    have := hpending hp
    omega

/-- Both send paths hand their transport a prefix of the same frame of `24 + data_len` bytes and
return `0` exactly when all of it was accepted; the TLS path returns after at most 500 calls for
each byte of the frame. -/
theorem send_paths_agree {a : SendArgs} (v : a.Valid) (hlen : 24 + a.dataLen.toNat < 2 ^ 32)
    (mallocOk : Bool) (plain : List (Answer SocketSignal)) (tls : List (Answer TlsSignal)) :
    a.frame.length = 24 + a.dataLen.toNat ∧
      (adbSendMsg a plain).SendsFrame a.frame ∧
      (adbSendMsgTls a mallocOk tls).SendsFrame a.frame ∧
      (adbSendMsgTls a mallocOk tls).calls ≤ 500 * (24 + a.dataLen.toNat) ∧
      (500 * (24 + a.dataLen.toNat) ≤ tls.length → (adbSendMsgTls a mallocOk tls).ret ≠ none) :=
  ⟨v.length_frame, adbSendMsg_sendsFrame v plain, adbSendMsgTls_sendsFrame v hlen mallocOk tls,
    adbSendMsgTls_calls v hlen mallocOk tls⟩

/-- An `OKAY` without payload, sent with one would-block on each path. -/
theorem send_paths_agree_okay :
    (SendArgs.frame ⟨ADB_OKAY, 1, 2, none, 0, true⟩).length = 24 ∧
      (adbSendMsg ⟨ADB_OKAY, 1, 2, none, 0, true⟩
        [.accept 9, .signal .wouldBlock, .accept 30]).ret = some 0 ∧
      (adbSendMsgTls ⟨ADB_OKAY, 1, 2, none, 0, true⟩ true
        [.accept 9, .signal .again, .accept 30]).ret = some 0 := by
  have h := send_paths_agree (a := ⟨ADB_OKAY, 1, 2, none, 0, true⟩)
    ⟨Or.inr rfl, by simp⟩ (by decide) true
    [.accept 9, .signal .wouldBlock, .accept 30] [.accept 9, .signal .again, .accept 30]
  exact ⟨h.1, h.2.1.ret_zero_iff.2 (by decide), h.2.2.1.ret_zero_iff.2 (by decide)⟩

end Autoscrcpy
