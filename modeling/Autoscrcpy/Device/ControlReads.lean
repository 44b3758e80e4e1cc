import Autoscrcpy.Device.ControlSocket

/-!
# Successive calls of `control_socket_recv_msg`

A message of the stream is a type byte, a size header for two of the types, and a payload of the
announced length (`StreamMessage`). The type byte and the payload may come in pieces, but the header
is read by one `recv` that has to bring its four bytes (`controlSocketRecvMsg_cut`), and the loop
for the payload compares with a signed length, so from 2^31 on it does not run
(`controlSocketRecvMsg_large`). Calls are complete and independent of the pieces exactly when no
header is cut and no length is that large (`recvComplete_iff`).
-/

namespace Autoscrcpy

open SegStream

/-! ## Messages of the stream -/

/-- The length of the size header for a type byte. -/
def headerLength (typeByte : UInt8) : ℕ :=
  if typeByte = DEVICE_MSG_TYPE_CLIPBOARD ∨ typeByte = DEVICE_MSG_TYPE_UHID_OUTPUT then 4 else 0

/-- What stands in front of a payload. -/
structure MessageHead where
  typeByte : UInt8
  header : List UInt8
  length_header : header.length = headerLength typeByte

namespace MessageHead

def toBytes (h : MessageHead) : List UInt8 := h.typeByte :: h.header

/-- The announced length, in exact arithmetic. -/
def payloadLength (h : MessageHead) : ℕ :=
  if h.typeByte = DEVICE_MSG_TYPE_CLIPBOARD then (read32be h.header).toNat
  else if h.typeByte = DEVICE_MSG_TYPE_UHID_OUTPUT then (read16be (h.header.drop 2)).toNat
  else if h.typeByte = DEVICE_MSG_TYPE_ACK_CLIPBOARD then 8
  else 0

end MessageHead

/-- A whole message. -/
structure StreamMessage extends MessageHead where
  payload : List UInt8
  length_payload : payload.length = toMessageHead.payloadLength

namespace StreamMessage

def toBytes (m : StreamMessage) : List UInt8 := m.toMessageHead.toBytes ++ m.payload

/-- What `control_socket_recv_msg` returns for a message. -/
def buffer (m : StreamMessage) : ControlBuffer :=
  ⟨m.typeByte :: m.payload, UInt32.ofNat (1 + m.payload.length)⟩

end StreamMessage

/-! ## Calls -/

/-- A call that returned `true`. -/
structure ControlRecv where
  before : Source UInt8 SocketSignal
  buf : ControlBuffer
  after : Source UInt8 SocketSignal

/-- Calls on one socket, up to the first that returns `false`; `mallocs` tells for each call whether
its `malloc` succeeds. -/
def controlRecvs : List Bool → Source UInt8 SocketSignal → List ControlRecv
  | [], _ => []
  | mallocOk :: mallocs, s =>
      match controlSocketRecvMsg mallocOk s with
      | (some buf, s') => ⟨s, buf, s'⟩ :: controlRecvs mallocs s'
      | (none, _) => []

/-- The size is one more than the announced length, and the buffer has the type byte and the whole
payload of the message that was read. -/
def ControlRecv.Exact (c : ControlRecv) : Prop :=
  ∃ m : StreamMessage, content c.before = m.toBytes ++ content c.after ∧
    c.buf.data = m.typeByte :: m.payload ∧ c.buf.size.toNat = 1 + m.payload.length

/-- The calls return what they return when the stream comes in one piece, and all of them are exact.
-/
structure RecvComplete (s : Source UInt8 SocketSignal) : Prop where
  onePiece : ∀ mallocs, (controlRecvs mallocs s).map (·.buf) =
    (controlRecvs mallocs (unread (content s) [])).map (·.buf)
  exact : ∀ mallocs, ∀ c ∈ controlRecvs mallocs s, c.Exact

/-- No segment ends inside the header `h` in front of the source. -/
def HeaderUncut (h : MessageHead) (s : Source UInt8 SocketSignal) : Prop :=
  ∀ c ∈ cuts s, c ≤ 1 ∨ h.toBytes.length ≤ c

/-- Wherever a head stands behind whole messages, it announces less than 2^31 bytes, and if they are
all there, its header comes in one piece. -/
def HeadersWhole (s : Source UInt8 SocketSignal) : Prop :=
  ∀ (ms : List StreamMessage) (h : MessageHead) (t : List UInt8),
    content s = ms.flatMap StreamMessage.toBytes ++ (h.toBytes ++ t) →
      h.payloadLength < 2 ^ 31 ∧
        (h.payloadLength ≤ t.length →
          ∀ c ∈ cuts s, c ≤ (ms.flatMap StreamMessage.toBytes).length + 1 ∨
            (ms.flatMap StreamMessage.toBytes).length + h.toBytes.length ≤ c)

/-! ## One call -/

/-- The end of a call, after the header. -/
def controlRecvPayload (mallocOk : Bool) (typeByte : UInt8) (payloadSize : UInt32)
    (s : Source UInt8 SocketSignal) : Option ControlBuffer × Source UInt8 SocketSignal :=
  if mallocOk = false then (none, s)
  else
    let f := readExact controlReact () payloadSize.toInt32.toInt.toNat s
    if f.stop = none then (some ⟨typeByte :: f.got, 1 + payloadSize⟩, f.rest)
    else (none, f.rest)

/-- The `recv` of a size header brings it exactly when no segment ends inside. -/
theorem recvSizeHeader_cases {s : Source UInt8 SocketSignal} {hdr t : List UInt8}
    (hlen : hdr.length = 4) (hc : content s = hdr ++ t) (hs : StopsAtEnd controlReact s) :
    ((∃ c ∈ cuts s, c < 4) ∧ (recvSizeHeader s).1 = none) ∨
      ((∀ c ∈ cuts s, 4 ≤ c) ∧ ∃ s', recvSizeHeader s = (some hdr, s') ∧ content s' = t ∧
        StopsAtEnd controlReact s' ∧ CutsBehind 4 s s') := by
  have hne : content s ≠ [] := by
    rw [hc]
    exact List.append_ne_nil_of_left_ne_nil (List.ne_nil_of_length_pos (by omega)) t
  obtain ⟨xs, s', hr, hs'⟩ := readOnce_of_stopsAtEnd (n := 4)
    (show ∀ e, controlReact e ≠ none by simp [controlReact]) hne hs
  obtain ⟨hcut, hfirst, hshift⟩ := readOnce_cuts hr
  obtain ⟨happ, hle, -, -⟩ := readOnce_got hr
  by_cases h4 : xs.length = 4
  · obtain ⟨rfl, ht⟩ := List.append_inj (happ.symm.trans hc) (h4.trans hlen.symm)
    refine Or.inr ⟨fun c hmem => h4 ▸ hfirst c hmem, s', ?_, ht, hs', h4 ▸ hshift⟩
    rw [recvSizeHeader, hr]
    simp only [if_pos h4]
  · refine Or.inl ⟨⟨xs.length, hcut.resolve_left h4, by omega⟩, ?_⟩
    rw [recvSizeHeader, hr]
    simp only [if_neg h4]

/-- The announced length is found exactly when no segment ends inside the header. -/
theorem recvPayloadSize_cases (h : MessageHead) {s : Source UInt8 SocketSignal} {t : List UInt8}
    (hc : content s = h.header ++ t) (hs : StopsAtEnd controlReact s) :
    ((∃ c ∈ cuts s, c < h.header.length) ∧ (recvPayloadSize h.typeByte s).1 = none) ∨
      ((∀ c ∈ cuts s, h.header.length ≤ c) ∧ ∃ n s', recvPayloadSize h.typeByte s = (some n, s') ∧
        n.toNat = h.payloadLength ∧ content s' = t ∧ StopsAtEnd controlReact s' ∧
        CutsBehind h.header.length s s') := by
  have hlen := h.length_header
  by_cases hclip : h.typeByte = DEVICE_MSG_TYPE_CLIPBOARD
  · rw [headerLength, if_pos (Or.inl hclip)] at hlen
    simp only [recvPayloadSize, MessageHead.payloadLength, if_pos hclip, hlen]
    rcases recvSizeHeader_cases hlen hc hs with ⟨hcut, hnone⟩ | ⟨hwhole, s', hhdr, hrest⟩
    · exact Or.inl ⟨hcut, by rw [hnone, Option.map_none]⟩
    · exact Or.inr ⟨hwhole, _, s', by rw [hhdr, Option.map_some], rfl, hrest⟩
  by_cases huhid : h.typeByte = DEVICE_MSG_TYPE_UHID_OUTPUT
  · rw [headerLength, if_pos (Or.inr huhid)] at hlen
    simp only [recvPayloadSize, MessageHead.payloadLength, if_neg hclip, if_pos huhid, hlen]
    rcases recvSizeHeader_cases hlen hc hs with ⟨hcut, hnone⟩ | ⟨hwhole, s', hhdr, hrest⟩
    · exact Or.inl ⟨hcut, by rw [hnone, Option.map_none]⟩
    · exact Or.inr ⟨hwhole, _, s', by rw [hhdr, Option.map_some], UInt16.toNat_toUInt32 _, hrest⟩
  · rw [headerLength, if_neg (not_or.2 ⟨hclip, huhid⟩)] at hlen
    rw [List.eq_nil_of_length_eq_zero hlen, List.nil_append] at hc
    simp only [recvPayloadSize, MessageHead.payloadLength, if_neg hclip, if_neg huhid, hlen]
    refine Or.inr ⟨fun c _ => Nat.zero_le c, _, s, rfl, ?_, hc, hs,
      CutsBehind.zero s⟩
    split_ifs <;> rfl

/-- A call in front of a head fails if the header is cut; else it goes on with the announced length
behind the head. -/
theorem controlSocketRecvMsg_head (mallocOk : Bool) (h : MessageHead)
    {s : Source UInt8 SocketSignal} {t : List UInt8} (hc : content s = h.toBytes ++ t)
    (hs : StopsAtEnd controlReact s) :
    (¬ HeaderUncut h s ∧ (controlSocketRecvMsg mallocOk s).1 = none) ∨
      (HeaderUncut h s ∧ ∃ n s', n.toNat = h.payloadLength ∧ content s' = t ∧
        StopsAtEnd controlReact s' ∧ CutsBehind h.toBytes.length s s' ∧
        controlSocketRecvMsg mallocOk s = controlRecvPayload mallocOk h.typeByte n s') := by
  obtain ⟨xs, s₁, hr, hs₁⟩ := readOnce_of_stopsAtEnd (n := 1)
    (show ∀ e, controlReact e ≠ none by simp [controlReact]) (by simp [hc, MessageHead.toBytes]) hs
  obtain ⟨happ, hle, hne, -⟩ := readOnce_got hr
  obtain ⟨-, -, hshift⟩ := readOnce_cuts hr
  obtain ⟨b, rfl⟩ := List.length_eq_one_iff.1
    (le_antisymm hle (List.length_pos_iff.2 (hne one_pos)))
  rw [hc, MessageHead.toBytes, List.cons_append, List.singleton_append, List.cons.injEq] at happ
  obtain ⟨rfl, hc₁⟩ := happ
  rw [List.length_singleton] at hshift
  have htotal : h.toBytes.length = 1 + h.header.length := Nat.add_comm h.header.length 1
  rcases recvPayloadSize_cases h hc₁.symm hs₁ with
    ⟨⟨c, hmem, hlt⟩, hnone⟩ | ⟨hwhole, n, s', hsize, hn, hc', hs', hshift'⟩
  · refine Or.inl ⟨fun huncut => ?_, ?_⟩
    · have hpos := pos_of_mem_cuts hmem
      have := huncut _ (hshift.mem hmem)
      omega
    · obtain ⟨s', hsize⟩ : ∃ s', recvPayloadSize h.typeByte s₁ = (none, s') :=
        ⟨_, Prod.ext hnone rfl⟩
      simp only [controlSocketRecvMsg, hr, List.getD_cons_zero, hsize]
  · refine Or.inr ⟨fun c hmem => ?_, n, s', hn, hc', hs', htotal ▸ hshift.trans hshift', ?_⟩
    · by_contra! hin
      have := hwhole (c - 1) (hshift.sub_mem hmem hin.1)
      omega
    · simp only [controlSocketRecvMsg, hr, List.getD_cons_zero, hsize]
      rfl

/-- A length from 2^31 on is negative as an `int`. -/
theorem toNat_signedLength_of_le {n : UInt32} (h : 2 ^ 31 ≤ n.toNat) :
    n.toInt32.toInt.toNat = 0 := by
  have hneg : n.toInt32.toInt < 0 := BitVec.toInt_neg_iff.2 (by
    show 2 ^ 32 ≤ 2 * n.toNat
    omega)
  exact Int.toNat_of_nonpos hneg.le

/-- A call whose header is cut fails. -/
theorem controlSocketRecvMsg_cut (mallocOk : Bool) {h : MessageHead}
    {s : Source UInt8 SocketSignal} {t : List UInt8} (hc : content s = h.toBytes ++ t)
    (hs : StopsAtEnd controlReact s) (hcut : ¬ HeaderUncut h s) :
    (controlSocketRecvMsg mallocOk s).1 = none := by
  rcases controlSocketRecvMsg_head mallocOk h hc hs with ⟨-, hnone⟩ | ⟨huncut, -⟩
  · exact hnone
  · exact absurd huncut hcut

/-- A call that finds a length from 2^31 on returns `true` with the type byte only. -/
theorem controlSocketRecvMsg_large {h : MessageHead} {s : Source UInt8 SocketSignal}
    {t : List UInt8} (hc : content s = h.toBytes ++ t) (hs : StopsAtEnd controlReact s)
    (huncut : HeaderUncut h s) (hlarge : 2 ^ 31 ≤ h.payloadLength) :
    ∃ size s', controlSocketRecvMsg true s = (some ⟨[h.typeByte], size⟩, s') ∧
      size.toNat ≠ 1 := by
  rcases controlSocketRecvMsg_head true h hc hs with ⟨hcut, -⟩ | ⟨-, n, s', hn, -, -, -, hcall⟩
  · exact absurd huncut hcut
  · refine ⟨1 + n, s', ?_, ?_⟩
    · rw [hcall, controlRecvPayload, toNat_signedLength_of_le (hn ▸ hlarge), readExact_zero]
      simp
    · have hlt := n.toNat_lt
      rw [UInt32.toNat_add, UInt32.toNat_one]
      omega

/-- A call in front of an uncut head with a smaller length returns the payload if it is all there.
-/
theorem controlSocketRecvMsg_small {h : MessageHead} {s : Source UInt8 SocketSignal}
    {t : List UInt8} (hc : content s = h.toBytes ++ t) (hs : StopsAtEnd controlReact s)
    (huncut : HeaderUncut h s) (hsmall : h.payloadLength < 2 ^ 31) :
    (t.length < h.payloadLength ∧ (controlSocketRecvMsg true s).1 = none) ∨
      (h.payloadLength ≤ t.length ∧ ∃ size s',
        controlSocketRecvMsg true s = (some ⟨h.typeByte :: t.take h.payloadLength, size⟩, s') ∧
        size.toNat = 1 + h.payloadLength ∧ content s' = t.drop h.payloadLength ∧
        StopsAtEnd controlReact s' ∧ CutsBehind (h.toBytes.length + h.payloadLength) s s') := by
  rcases controlSocketRecvMsg_head true h hc hs with
    ⟨hcut, -⟩ | ⟨-, n, s', hn, rfl, hs', hshift, hcall⟩
  · exact absurd huncut hcut
  rw [hcall, controlRecvPayload, toNat_signedLength (hn ▸ hsmall), ← hn]
  obtain ⟨hfull, hgot, hrest, hend⟩ := readExact_of_stopsAtEnd () hs' n.toNat
  by_cases hle : n.toNat ≤ (content s').length
  · right
    refine ⟨hle, 1 + n, _, ?_, ?_, hrest, hend, hshift.trans (cutsBehind_of_full (hfull.2 hle))⟩
    · simp only [if_pos (hfull.2 hle), hgot, Bool.true_eq_false, if_false]
    · rw [UInt32.toNat_add]
      exact Nat.mod_eq_of_lt (by simp only [UInt32.reduceToNat]; omega)
  · left
    refine ⟨not_le.1 hle, ?_⟩
    simp only [if_neg (fun hstop => hle (hfull.1 hstop)), Bool.true_eq_false, if_false]

theorem controlSocketRecvMsg_noMemory (s : Source UInt8 SocketSignal) :
    (controlSocketRecvMsg false s).1 = none := by
  unfold controlSocketRecvMsg
  split
  · dsimp only
    split <;> rfl
  · rfl

/-- A whole message with an uncut header is returned. -/
theorem controlSocketRecvMsg_whole {m : StreamMessage} {s : Source UInt8 SocketSignal}
    {t : List UInt8} (hc : content s = m.toBytes ++ t) (hs : StopsAtEnd controlReact s)
    (huncut : HeaderUncut m.toMessageHead s) (hsmall : m.payloadLength < 2 ^ 31) :
    ∃ s', controlSocketRecvMsg true s = (some m.buffer, s') ∧ content s' = t ∧
      StopsAtEnd controlReact s' ∧ CutsBehind m.toBytes.length s s' := by
  have hlen := m.length_payload
  rw [StreamMessage.toBytes, List.append_assoc] at hc
  rcases controlSocketRecvMsg_small hc hs huncut hsmall with
    ⟨hshort, -⟩ | ⟨-, size, s', hcall, hsize, hrest, hend, hshift⟩
  · rw [List.length_append] at hshort
    omega
  · rw [← hlen] at hcall hsize hrest hshift
    rw [List.take_left] at hcall
    rw [List.drop_left] at hrest
    rw [← List.length_append] at hshift
    refine ⟨s', ?_, hrest, hend, hshift⟩
    rw [hcall, StreamMessage.buffer, ← hsize, UInt32.ofNat_toNat]

/-- A header that is not all there is not read. -/
theorem recvPayloadSize_short {typeByte : UInt8} {s : Source UInt8 SocketSignal}
    (h : (content s).length < headerLength typeByte) : (recvPayloadSize typeByte s).1 = none := by
  by_cases hsized : typeByte = DEVICE_MSG_TYPE_CLIPBOARD ∨ typeByte = DEVICE_MSG_TYPE_UHID_OUTPUT
  · rw [headerLength, if_pos hsized] at h
    have hnone : (recvSizeHeader s).1 = none := by
      rcases hr : readOnce 4 s with ⟨r, s'⟩
      cases r with
      | signal e => simp [recvSizeHeader, hr]
      | ended => simp [recvSizeHeader, hr]
      | got xs =>
        have hle := congrArg List.length (readOnce_got hr).1
        rw [List.length_append] at hle
        rw [recvSizeHeader, hr]
        exact if_neg (by omega)
    unfold recvPayloadSize
    simp only [hnone, Option.map_none]
    rcases hsized with hclip | huhid
    · rw [if_pos hclip]
    · rw [if_neg (by rw [huhid]; decide), if_pos huhid]
  · rw [headerLength, if_neg hsized] at h
    exact absurd h (Nat.not_lt_zero _)

/-- A call that does not find a whole message, nor a length from 2^31 on, fails. -/
theorem controlSocketRecvMsg_none {s : Source UInt8 SocketSignal} (hs : StopsAtEnd controlReact s)
    (hno : ∀ (m : StreamMessage) (t : List UInt8), content s ≠ m.toBytes ++ t)
    (hsmall : ∀ (h : MessageHead) (t : List UInt8), content s = h.toBytes ++ t →
      h.payloadLength < 2 ^ 31) : (controlSocketRecvMsg true s).1 = none := by
  rcases hr : readOnce 1 s with ⟨r, s₁⟩
  cases r with
  | signal e => simp [controlSocketRecvMsg, hr]
  | ended => simp [controlSocketRecvMsg, hr]
  | got xs =>
    obtain ⟨happ, hle, hne, -⟩ := readOnce_got hr
    obtain ⟨b, rfl⟩ := List.length_eq_one_iff.1
      (le_antisymm hle (List.length_pos_iff.2 (hne one_pos)))
    rw [List.singleton_append] at happ
    by_cases hlen : headerLength b ≤ (content s₁).length
    · set h : MessageHead := ⟨b, (content s₁).take (headerLength b), by simp [hlen]⟩ with hh
      have hc : content s = h.toBytes ++ (content s₁).drop (headerLength b) := by
        rw [happ, MessageHead.toBytes, List.cons_append, List.take_append_drop]
      by_cases huncut : HeaderUncut h s
      · rcases controlSocketRecvMsg_small hc hs huncut (hsmall h _ hc) with
          ⟨-, hnone⟩ | ⟨hle, -⟩
        · exact hnone
        · refine absurd ?_ (hno ⟨h, _, List.length_take_of_le hle⟩
            (((content s₁).drop (headerLength b)).drop h.payloadLength))
          rw [StreamMessage.toBytes, List.append_assoc, List.take_append_drop, hc]
      · exact controlSocketRecvMsg_cut true hc hs huncut
    · obtain ⟨s', hsize⟩ : ∃ s', recvPayloadSize b s₁ = (none, s') :=
        ⟨_, Prod.ext (recvPayloadSize_short (not_le.1 hlen)) rfl⟩
      simp only [controlSocketRecvMsg, hr, List.getD_cons_zero, hsize]

/-! ## All calls -/

namespace HeadersWhole

variable {s : Source UInt8 SocketSignal}

theorem small (hw : HeadersWhole s) {h : MessageHead} {t : List UInt8}
    (hc : content s = h.toBytes ++ t) : h.payloadLength < 2 ^ 31 :=
  (hw [] h t hc).1

theorem uncut (hw : HeadersWhole s) {m : StreamMessage} {t : List UInt8}
    (hc : content s = m.toBytes ++ t) : HeaderUncut m.toMessageHead s := by
  rw [StreamMessage.toBytes, List.append_assoc] at hc
  have hcut := (hw [] m.toMessageHead (m.payload ++ t) hc).2 (by
    rw [List.length_append, m.length_payload]
    exact Nat.le_add_right _ _)
  simp only [List.flatMap_nil, List.length_nil, Nat.zero_add] at hcut
  exact hcut

/-- Behind a whole message it is the same. -/
theorem rest (hw : HeadersWhole s) {m : StreamMessage} {s' : Source UInt8 SocketSignal}
    (hc : content s = m.toBytes ++ content s')
    (hshift : CutsBehind m.toBytes.length s s') : HeadersWhole s' := by
  intro ms h t ht
  obtain ⟨hsmall, hcut⟩ := hw (m :: ms) h t (by
    rw [hc, ht, List.flatMap_cons, List.append_assoc])
  refine ⟨hsmall, fun hle c hmem => ?_⟩
  have := hcut hle _ (hshift.mem hmem)
  rw [List.flatMap_cons, List.length_append] at this
  omega

end HeadersWhole

/-- A whole message in front is returned, and what was whole behind it still is. -/
theorem controlSocketRecvMsg_step {m : StreamMessage} {s : Source UInt8 SocketSignal}
    {t : List UInt8} (hs : StopsAtEnd controlReact s) (hw : HeadersWhole s)
    (hc : content s = m.toBytes ++ t) :
    ∃ s', controlSocketRecvMsg true s = (some m.buffer, s') ∧ content s' = t ∧
      StopsAtEnd controlReact s' ∧ HeadersWhole s' := by
  have hsmall : m.payloadLength < 2 ^ 31 :=
    hw.small (by rw [hc, StreamMessage.toBytes, List.append_assoc])
  obtain ⟨s', hcall, rfl, hend, hshift⟩ := controlSocketRecvMsg_whole hc hs (hw.uncut hc) hsmall
  exact ⟨s', hcall, rfl, hend, hw.rest hc hshift⟩

@[simp] theorem recvCalls_of_none {mallocOk : Bool} {mallocs : List Bool}
    {s : Source UInt8 SocketSignal} (h : (controlSocketRecvMsg mallocOk s).1 = none) :
    controlRecvs (mallocOk :: mallocs) s = [] := by
  rw [controlRecvs]
  split
  · rename_i hsome
    rw [hsome] at h
    cases h
  · rfl

theorem recvCalls_of_some {mallocOk : Bool} {mallocs : List Bool}
    {s s' : Source UInt8 SocketSignal} {buf : ControlBuffer}
    (h : controlSocketRecvMsg mallocOk s = (some buf, s')) :
    controlRecvs (mallocOk :: mallocs) s = ⟨s, buf, s'⟩ :: controlRecvs mallocs s' := by
  rw [controlRecvs, h]

/-- Two sources with the same content make the calls return the same, and exact, buffers. -/
theorem recvCalls_eq (mallocs : List Bool) {s₁ s₂ : Source UInt8 SocketSignal}
    (hs₁ : StopsAtEnd controlReact s₁) (hs₂ : StopsAtEnd controlReact s₂) (hw₁ : HeadersWhole s₁)
    (hw₂ : HeadersWhole s₂) (hc : content s₁ = content s₂) :
    (controlRecvs mallocs s₁).map (·.buf) = (controlRecvs mallocs s₂).map (·.buf) ∧
      ∀ c ∈ controlRecvs mallocs s₁, c.Exact := by
  induction mallocs generalizing s₁ s₂ with
  | nil => simp [controlRecvs]
  | cons mallocOk mallocs ih =>
    cases mallocOk with
    | false => simp [controlSocketRecvMsg_noMemory]
    | true =>
      by_cases hm : ∃ (m : StreamMessage) (t : List UInt8), content s₁ = m.toBytes ++ t
      · obtain ⟨m, t, hc₁⟩ := hm
        obtain ⟨s₁', hcall₁, ht₁, hend₁, hrest₁⟩ := controlSocketRecvMsg_step hs₁ hw₁ hc₁
        obtain ⟨s₂', hcall₂, ht₂, hend₂, hrest₂⟩ :=
          controlSocketRecvMsg_step hs₂ hw₂ (hc.symm.trans hc₁)
        obtain ⟨hbufs, hexact⟩ := ih hend₁ hend₂ hrest₁ hrest₂ (ht₁.trans ht₂.symm)
        rw [recvCalls_of_some hcall₁, recvCalls_of_some hcall₂]
        refine ⟨congrArg (m.buffer :: ·) hbufs, List.forall_mem_cons.2 ⟨?_, hexact⟩⟩
        refine ⟨m, hc₁.trans (by rw [ht₁]), rfl, Nat.mod_eq_of_lt ?_⟩
        have := hw₁.small (h := m.toMessageHead) (by rw [hc₁, StreamMessage.toBytes,
          List.append_assoc])
        rw [m.length_payload]
        omega
      · push Not at hm
        have hnone₁ := controlSocketRecvMsg_none hs₁ hm fun h t => hw₁.small
        have hnone₂ := controlSocketRecvMsg_none hs₂ (hc ▸ hm) fun h t => hw₂.small
        simp [hnone₁, hnone₂]

theorem stopsAtEnd_onePiece (xs : List UInt8) : StopsAtEnd controlReact (unread xs []) :=
  stopsAtEnd_unread.2 fun _ hk => absurd hk List.not_mem_nil

/-- The only segment of a stream in one piece ends where the stream ends. -/
theorem cuts_onePiece {xs : List UInt8} {c : ℕ}
    (h : c ∈ cuts (unread xs ([] : Source UInt8 SocketSignal))) : c = xs.length := by
  rcases (mem_cuts_unread (pos_of_mem_cuts h)).1 h with hc | ⟨d, hd, -⟩
  · exact hc
  · cases hd

theorem headerUncut_onePiece (h : MessageHead) (t : List UInt8) :
    HeaderUncut h (unread (h.toBytes ++ t) []) := by
  intro c hmem
  rw [cuts_onePiece hmem, List.length_append]
  exact Or.inr (Nat.le_add_right _ _)

/-- The calls on a source with whole headers and smaller lengths are complete. -/
theorem recvComplete_of_headersWhole {s : Source UInt8 SocketSignal}
    (hs : StopsAtEnd controlReact s) (hw : HeadersWhole s) : RecvComplete s := by
  have hs' := stopsAtEnd_onePiece (content s)
  have hc : content (unread (content s) ([] : Source UInt8 SocketSignal)) = content s := by simp
  have hw' : HeadersWhole (unread (content s) []) := by
    intro ms h t ht
    rw [hc] at ht
    refine ⟨(hw ms h t ht).1, fun _ c hmem => Or.inr ?_⟩
    rw [cuts_onePiece hmem, ht, List.length_append, List.length_append]
    omega
  exact ⟨fun mallocs => (recvCalls_eq mallocs hs hs' hw hw' hc.symm).1,
    fun mallocs => (recvCalls_eq mallocs hs hs' hw hw' hc.symm).2⟩

/-! ## What a cut header or a large length does -/

theorem readOnce_onePiece (n : ℕ) (xs : List UInt8) :
    (readOnce n (unread xs ([] : Source UInt8 SocketSignal))).2 = unread (xs.drop n) [] := by
  cases xs with
  | nil => rw [List.drop_nil]; rfl
  | cons b bs => rfl

theorem readExact_onePiece (n : ℕ) (xs : List UInt8) :
    (readExact controlReact () n (unread xs [])).rest = unread (xs.drop n) [] := by
  have hnil (k : ℕ) :
      (readExact controlReact () k ([] : Source UInt8 SocketSignal)).rest = [] := by
    cases k <;> rfl
  rw [readExact_unread, hnil]

theorem recvPayloadSize_onePiece (typeByte : UInt8) (xs : List UInt8) :
    ∃ ys, (recvPayloadSize typeByte (unread xs [])).2 = unread ys [] := by
  have hhdr : (recvSizeHeader (unread xs [])).2 = unread (xs.drop 4) [] := by
    rw [← readOnce_onePiece 4 xs, recvSizeHeader]
    split
    · rename_i h
      rw [h]
    · rename_i h
      rw [h]
  unfold recvPayloadSize
  split_ifs
  · exact ⟨_, hhdr⟩
  · exact ⟨_, hhdr⟩
  · exact ⟨xs, rfl⟩
  · exact ⟨xs, rfl⟩

/-- A stream that comes in one piece is one piece also after a call. -/
theorem controlSocketRecvMsg_onePiece (xs : List UInt8) :
    ∃ ys, (controlSocketRecvMsg true (unread xs [])).2 = unread ys [] := by
  have hone := readOnce_onePiece 1 xs
  unfold controlSocketRecvMsg
  split
  · rename_i bs s₁ h
    obtain rfl : s₁ = unread (xs.drop 1) [] := (congrArg Prod.snd h).symm.trans hone
    obtain ⟨ys, hys⟩ := recvPayloadSize_onePiece (bs.getD 0 0) (xs.drop 1)
    dsimp only
    split
    · rename_i s₂ hsize
      exact ⟨ys, (congrArg Prod.snd hsize).symm.trans hys⟩
    · rename_i n s₂ hsize
      obtain rfl : s₂ = unread ys [] := (congrArg Prod.snd hsize).symm.trans hys
      refine ⟨ys.drop n.toInt32.toInt.toNat, ?_⟩
      simp only [Bool.true_eq_false, if_false]
      split_ifs
      · exact readExact_onePiece _ ys
      · exact readExact_onePiece _ ys
  · rename_i s₁ _ h
    exact ⟨xs.drop 1, (congrArg Prod.snd h).symm.trans hone⟩

/-- Calls that are complete are so behind the first message. -/
theorem RecvComplete.rest {s s' : Source UInt8 SocketSignal} {m : StreamMessage}
    (h : RecvComplete s) (hc : content s = m.toBytes ++ content s')
    (hcall : controlSocketRecvMsg true s = (some m.buffer, s'))
    (hsmall : m.payloadLength < 2 ^ 31) : RecvComplete s' := by
  obtain ⟨ys, hys⟩ := controlSocketRecvMsg_onePiece (content s)
  have hc' : content s = m.toMessageHead.toBytes ++ (m.payload ++ content s') := by
    rw [hc, StreamMessage.toBytes, List.append_assoc]
  obtain ⟨s₁, hcall₁, hc₁, -⟩ := controlSocketRecvMsg_whole (m := m) (t := content s')
    (by rw [content_unread, content_nil, List.append_nil, hc]) (stopsAtEnd_onePiece (content s))
    (hc' ▸ headerUncut_onePiece m.toMessageHead _) hsmall
  rw [hcall₁] at hys
  obtain rfl : s₁ = unread ys [] := hys
  rw [content_unread, content_nil, List.append_nil] at hc₁
  subst hc₁
  constructor
  · intro mallocs
    have hone := h.onePiece (true :: mallocs)
    rw [recvCalls_of_some hcall, recvCalls_of_some hcall₁, List.map_cons, List.map_cons] at hone
    exact (List.cons.inj hone).2
  · intro mallocs c hmem
    refine h.exact (true :: mallocs) c ?_
    rw [recvCalls_of_some hcall]
    exact List.mem_cons_of_mem _ hmem

/-- Where the calls are complete, the head in front is small, and uncut if its message is whole. -/
theorem RecvComplete.head {s : Source UInt8 SocketSignal} {h : MessageHead} {t : List UInt8}
    (hcomplete : RecvComplete s) (hs : StopsAtEnd controlReact s)
    (hc : content s = h.toBytes ++ t) :
    h.payloadLength < 2 ^ 31 ∧ (h.payloadLength ≤ t.length → HeaderUncut h s) := by
  have hone := hcomplete.onePiece [true]
  rw [hc] at hone
  have hs' := stopsAtEnd_onePiece (h.toBytes ++ t)
  have hc' : content (unread (h.toBytes ++ t) ([] : Source UInt8 SocketSignal)) =
      h.toBytes ++ t := by simp
  have huncut' := headerUncut_onePiece h t
  have hsmall : h.payloadLength < 2 ^ 31 := by
    by_contra! hlarge
    by_cases huncut : HeaderUncut h s
    · obtain ⟨size, s', hcall, hsize⟩ := controlSocketRecvMsg_large hc hs huncut hlarge
      obtain ⟨m, -, hdata, hm⟩ := hcomplete.exact [true] ⟨s, _, s'⟩
        (by rw [recvCalls_of_some hcall]; exact List.mem_cons_self ..)
      simp only [List.cons.injEq] at hdata
      rw [← hdata.2] at hm
      exact hsize hm
    · obtain ⟨size, s', hcall, -⟩ := controlSocketRecvMsg_large hc' hs' huncut' hlarge
      rw [recvCalls_of_none (controlSocketRecvMsg_cut true hc hs huncut),
        recvCalls_of_some hcall] at hone
      cases hone
  refine ⟨hsmall, fun hle => ?_⟩
  by_contra huncut
  rcases controlSocketRecvMsg_small hc' hs' huncut' hsmall with ⟨hlt, -⟩ | ⟨-, _, s', hcall, -⟩
  · omega
  · rw [recvCalls_of_none (controlSocketRecvMsg_cut true hc hs huncut),
      recvCalls_of_some hcall] at hone
    cases hone

theorem headersWhole_of_recvComplete {s : Source UInt8 SocketSignal}
    (hs : StopsAtEnd controlReact s) (hcomplete : RecvComplete s) : HeadersWhole s := by
  intro ms h t hc
  induction ms generalizing s with
  | nil =>
    rw [List.flatMap_nil, List.nil_append] at hc
    obtain ⟨hsmall, huncut⟩ := hcomplete.head hs hc
    refine ⟨hsmall, fun hle c hmem => ?_⟩
    rw [List.flatMap_nil, List.length_nil, Nat.zero_add, Nat.zero_add]
    exact huncut hle c hmem
  | cons m ms ih =>
    rw [List.flatMap_cons, List.append_assoc] at hc
    obtain ⟨hsmall, huncut⟩ := hcomplete.head hs (h := m.toMessageHead)
      (hc.trans (List.append_assoc ..))
    have huncut := huncut (by
      rw [List.length_append, m.length_payload]
      exact Nat.le_add_right _ _)
    obtain ⟨s', hcall, hc', hend, hshift⟩ := controlSocketRecvMsg_whole hc hs huncut hsmall
    obtain ⟨hlarge, hcut⟩ := ih hend (hcomplete.rest (hc' ▸ hc) hcall hsmall) hc'
    refine ⟨hlarge, fun hle c hmem => ?_⟩
    rw [List.flatMap_cons, List.length_append]
    by_cases hin : m.toBytes.length < c
    · have := hcut hle _ (hshift.sub_mem hmem hin)
      omega
    · exact Or.inl (by omega)

/-- The calls on a source that stops at its end only are complete exactly when no header of a whole
message is cut and no length is 2^31 or more. -/
theorem recvComplete_iff {s : Source UInt8 SocketSignal} (hs : StopsAtEnd controlReact s) :
    RecvComplete s ↔ HeadersWhole s :=
  ⟨headersWhole_of_recvComplete hs, recvComplete_of_headersWhole hs⟩

/-- An acknowledgement that comes as one byte and then eight. -/
theorem recvComplete_iff_ack : RecvComplete [.data 1 [], .data 0 [0, 0, 0, 0, 0, 0, 7]] := by
  refine (recvComplete_iff fun k hk => absurd hk List.not_mem_nil).2 fun ms h t hc => ?_
  have hack {h : MessageHead} {t : List UInt8}
      (hc : [1, 0, 0, 0, 0, 0, 0, 0, 7] = h.toBytes ++ t) :
      h.toBytes = [1] ∧ h.payloadLength = 8 := by
    obtain ⟨typeByte, header, hlen⟩ := h
    obtain ⟨rfl, -⟩ := List.cons.inj hc
    obtain rfl := List.eq_nil_of_length_eq_zero hlen
    exact ⟨rfl, rfl⟩
  cases ms with
  | nil =>
    obtain ⟨hbytes, hpayload⟩ := hack hc
    rw [hpayload, hbytes]
    exact ⟨by decide, fun _ c _ => (le_total c 1).imp id id⟩
  | cons m ms =>
    rw [List.flatMap_cons, StreamMessage.toBytes, List.append_assoc, List.append_assoc] at hc
    obtain ⟨hbytes, hpayload⟩ := hack hc
    have hlen := congrArg List.length hc
    rw [hbytes] at hlen
    simp only [List.length_append, m.length_payload, hpayload, MessageHead.toBytes] at hlen
    simp [content, Item.content] at hlen
    omega

/-- An empty text that is cut in its header is not returned; and a length of 2^31 makes the call
return a size of 2^31 + 1 with one byte received. -/
theorem recvComplete_fails :
    ¬ RecvComplete [.data 0 [0], .data 0 [0, 0]] ∧
      (controlSocketRecvMsg true [.data 0 [0x80, 0, 0, 0]]).1 = some ⟨[0], 0x80000001⟩ := by
  refine ⟨fun h => absurd (h.onePiece [true]) ?_, by decide⟩
  decide

end Autoscrcpy
