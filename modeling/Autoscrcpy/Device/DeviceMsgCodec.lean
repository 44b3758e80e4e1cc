import Autoscrcpy.Device.DeviceMsg

/-!
# Writing device messages

`device_msg_serialize_clipboard` and `device_msg_serialize_ack_clipboard`, against the parser of the
same file. The writer puts the length of a text between the sequence and the text, and the parser
knows no such field: what it decodes is the four bytes of the length, then the text
(`deserialize_serialize_clipboard`). So the two agree on the texts that the writer refuses
(`clipboardRoundTrip_iff`), and on every acknowledgement (`ackRoundTrip`).
-/

namespace Autoscrcpy

/-- What a call of `device_msg_serialize_*` returns, and the bytes that it stores at `buf`. -/
structure SerializedMsg where
  ret : Int32
  stored : List UInt8
  deriving DecidableEq, Repr

/-- `device_msg_serialize_clipboard` on the `len` bytes at `text`. The sum of the size is a
`uint32_t`. -/
def deviceMsgSerializeClipboard (text : List UInt8) (len : UInt32) (sequence : UInt64)
    (bufSize : UInt32) : SerializedMsg :=
  let total : UInt32 := 1 + 8 + 4 + len
  if total > bufSize then ⟨-1, []⟩
  else ⟨total.toInt32, DEVICE_MSG_TYPE_CLIPBOARD ::
    (write64be sequence ++ write32be len ++ text.take len.toNat)⟩

/-- `device_msg_serialize_ack_clipboard`. -/
def deviceMsgSerializeAckClipboard (sequence : UInt64) (bufSize : UInt32) : SerializedMsg :=
  if bufSize < 9 then ⟨-1, []⟩ else ⟨9, DEVICE_MSG_TYPE_ACK_CLIPBOARD :: write64be sequence⟩

/-- `device_msg_deserialize` on the stored bytes. -/
def SerializedMsg.decoded (r : SerializedMsg) : Option DeviceMsg :=
  deviceMsgDeserialize true r.stored (UInt32.ofNat r.stored.length)

/-! ## Texts -/

/-- The writer refuses a text exactly when it does not fit, and what it stores for one that fits has
the right length and decodes to the text and its sequence. -/
structure ClipboardRoundTrip (text : List UInt8) (len : UInt32) (sequence : UInt64)
    (bufSize : UInt32) : Prop where
  refused : (deviceMsgSerializeClipboard text len sequence bufSize).ret = -1 ↔
    bufSize.toNat < 13 + len.toNat
  length : 13 + len.toNat ≤ bufSize.toNat →
    (deviceMsgSerializeClipboard text len sequence bufSize).stored.length = 13 + len.toNat
  decoded : 13 + len.toNat ≤ bufSize.toNat →
    (deviceMsgSerializeClipboard text len sequence bufSize).decoded =
      some (.clipboard text sequence)

/-- The size that the writer compares with that of the buffer. -/
theorem toNat_clipboardTotal (len : UInt32) :
    (1 + 8 + 4 + len : UInt32).toNat = (13 + len.toNat) % 2 ^ 32 :=
  UInt32.toNat_add 13 len

theorem serializeClipboard_of_lt {text : List UInt8} {len : UInt32} {sequence : UInt64}
    {bufSize : UInt32} (h : bufSize.toNat < (13 + len.toNat) % 2 ^ 32) :
    deviceMsgSerializeClipboard text len sequence bufSize = ⟨-1, []⟩ := by
  rw [← toNat_clipboardTotal, ← UInt32.lt_iff_toNat_lt] at h
  exact if_pos h

theorem serializeClipboard_of_le {text : List UInt8} {len : UInt32} {sequence : UInt64}
    {bufSize : UInt32} (h : (13 + len.toNat) % 2 ^ 32 ≤ bufSize.toNat) :
    deviceMsgSerializeClipboard text len sequence bufSize =
      ⟨(1 + 8 + 4 + len : UInt32).toInt32, DEVICE_MSG_TYPE_CLIPBOARD ::
        (write64be sequence ++ write32be len ++ text.take len.toNat)⟩ := by
  rw [← toNat_clipboardTotal, ← UInt32.le_iff_toNat_le] at h
  exact if_neg (UInt32.not_lt.2 h)

/-- What the parser makes of a text that fits: the length field is part of the text. -/
theorem deserialize_serialize_clipboard {text : List UInt8} {len : UInt32}
    (hlen : text.length = len.toNat) {sequence : UInt64} {bufSize : UInt32}
    (hfit : 13 + len.toNat ≤ bufSize.toNat) :
    (deviceMsgSerializeClipboard text len sequence bufSize).stored.length = 13 + len.toNat ∧
      (deviceMsgSerializeClipboard text len sequence bufSize).decoded =
        some (.clipboard (write32be len ++ text) sequence) := by
  have hlt : 13 + len.toNat < 2 ^ 32 := hfit.trans_lt bufSize.toNat_lt
  rw [serializeClipboard_of_le (by rwa [Nat.mod_eq_of_lt hlt]), ← hlen, List.take_length,
    List.append_assoc]
  set body := write32be len ++ text with hbody
  have hstored : (DEVICE_MSG_TYPE_CLIPBOARD :: (write64be sequence ++ body)).length =
      13 + text.length := by
    simp only [hbody, List.length_cons, List.length_append, length_write64be, length_write32be]
    omega
  refine ⟨hstored, ?_⟩
  have hn : (UInt32.ofNat (13 + text.length)).toNat = 13 + text.length :=
    Nat.mod_eq_of_lt (hlen ▸ hlt)
  have hlen1 : ¬ UInt32.ofNat (13 + text.length) < 1 := by
    rw [UInt32.lt_iff_toNat_lt, hn, UInt32.toNat_one]
    omega
  have hlen9 : (9 : UInt32) ≤ UInt32.ofNat (13 + text.length) := by
    rw [UInt32.le_iff_toNat_le, hn]
    exact Nat.le_add_right_of_le (by decide)
  have hrest : (UInt32.ofNat (13 + text.length) - 9).toNat = body.length := by
    rw [UInt32.toNat_sub_of_le _ _ hlen9, hn, hbody, List.length_append, length_write32be]
    exact Nat.sub_eq_of_eq_add (by simp only [UInt32.reduceToNat]; omega)
  have hdrop : (write64be sequence ++ body).drop 8 = body := rfl
  rw [SerializedMsg.decoded]
  simp only [deviceMsgDeserialize, hstored, List.getD_cons_zero, List.drop_succ_cons,
    List.drop_zero, if_neg hlen1, if_true, if_neg (UInt32.not_lt.2 hlen9), Bool.true_eq_false,
    if_false, hdrop, hrest, List.take_length, read64be_write64be]

/-- Writer and parser agree on a text exactly when the writer refuses it. -/
theorem clipboardRoundTrip_iff {text : List UInt8} {len : UInt32} (hlen : text.length = len.toNat)
    (sequence : UInt64) (bufSize : UInt32) :
    ClipboardRoundTrip text len sequence bufSize ↔
      bufSize.toNat < (13 + len.toNat) % 2 ^ 32 := by
  constructor
  · intro h
    by_contra! hle
    by_cases hfit : 13 + len.toNat ≤ bufSize.toNat
    · -- the decoded text is longer by the length field
      have hdec : (deviceMsgSerializeClipboard text len sequence bufSize).decoded = _ :=
        (deserialize_serialize_clipboard hlen hfit).2
      rw [h.decoded hfit, Option.some.injEq, DeviceMsg.clipboard.injEq] at hdec
      have := congrArg List.length hdec.1
      simp at this
    · -- the sum has wrapped, so the text is written although it does not fit
      have hret := h.refused.2 (by omega)
      rw [serializeClipboard_of_le hle] at hret
      have htotal := congrArg (fun x : Int32 => x.toUInt32.toNat) hret
      simp only [UInt32.toUInt32_toInt32, toNat_clipboardTotal] at htotal
      have hall : (13 + len.toNat) % 2 ^ 32 = 2 ^ 32 - 1 := htotal
      have := len.toNat_lt
      omega
  · intro h
    have hlt : bufSize.toNat < 13 + len.toNat := h.trans_le (Nat.mod_le _ _)
    exact ⟨by simp [serializeClipboard_of_lt h, hlt], fun hfit => absurd hlt (not_lt.2 hfit),
      fun hfit => absurd hlt (not_lt.2 hfit)⟩

/-! ## Acknowledgements -/

/-- An acknowledgement is refused exactly when the buffer has less than nine bytes, and one that is
not is decoded to its sequence. -/
structure AckRoundTrip (sequence : UInt64) (bufSize : UInt32) : Prop where
  refused : (deviceMsgSerializeAckClipboard sequence bufSize).ret = -1 ↔ bufSize < 9
  decoded : 9 ≤ bufSize →
    (deviceMsgSerializeAckClipboard sequence bufSize).decoded = some (.ackClipboard sequence)

theorem ackRoundTrip (sequence : UInt64) (bufSize : UInt32) : AckRoundTrip sequence bufSize := by
  constructor
  · unfold deviceMsgSerializeAckClipboard
    split_ifs with h
    · simp [h]
    · simp [h]
  · intro h
    rw [deviceMsgSerializeAckClipboard, if_neg (UInt32.not_lt.2 h)]
    exact deserialize_ack true sequence

/-- The writers and the parser agree on every acknowledgement, and on a text exactly when its size,
as the writer computes it, is larger than the buffer. -/
theorem serialize_deserialize_iff {text : List UInt8} {len : UInt32}
    (hlen : text.length = len.toNat) (sequence : UInt64) (bufSize : UInt32) :
    AckRoundTrip sequence bufSize ∧
      (ClipboardRoundTrip text len sequence bufSize ↔
        bufSize.toNat < (13 + len.toNat) % 2 ^ 32) :=
  ⟨ackRoundTrip sequence bufSize, clipboardRoundTrip_iff hlen sequence bufSize⟩

/-- Two bytes of text and a buffer that is too small by one. -/
theorem serialize_deserialize_iff_refused : ClipboardRoundTrip [104, 105] 2 7 14 :=
  (serialize_deserialize_iff rfl 7 14).2.2 (by decide)

/-- The text `"hi"` in a buffer of 64 bytes is decoded to six bytes. -/
theorem clipboardRoundTrip_fails :
    (deviceMsgSerializeClipboard [104, 105] 2 7 64).decoded =
        some (.clipboard [0, 0, 0, 2, 104, 105] 7) ∧
      ¬ ClipboardRoundTrip [104, 105] 2 7 64 := by
  refine ⟨by decide, fun h => ?_⟩
  have hlt := (clipboardRoundTrip_iff rfl 7 64).1 h
  exact absurd hlt (by decide)

end Autoscrcpy
