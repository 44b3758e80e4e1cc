import Autoscrcpy.Adb.Receive
import Autoscrcpy.Adb.Send

/-!
# Framing on the plain socket

The bytes that successful calls of `adb_send_msg` hand to the socket, read back with
`adb_recv_msg` in chunks of any size. Every call takes one frame off the stream, so the messages
come back once each and in order (`recvMany_frames`); a frame with a wrong `magic`, or with a
nonempty payload whose byte sum is not `data_check`, is refused by the call that reaches it.
-/

namespace Autoscrcpy

open SegStream PartialWrite

/-- What the socket accepted from a list of `adb_send_msg` calls. -/
def sendOutput (sends : List (SendArgs × List (Answer SocketSignal))) : List UInt8 :=
  sends.flatMap fun x => (adbSendMsg x.1 x.2).accepted

/-- `n` calls of `adb_recv_msg` with one header structure: the results and what is left. -/
def recvMany (maxPayload : Int32) (skip : Bool) :
    ℕ → List UInt8 → Source UInt8 SocketSignal → List RecvMsg × Source UInt8 SocketSignal
  | 0, _, s => ([], s)
  | n + 1, hdr₀, s =>
      let r := adbRecvMsg hdr₀ maxPayload skip s
      let rs := recvMany maxPayload skip n r.1.hdr.toBytes r.2
      (r.1 :: rs.1, rs.2)

/-- A message that a receiver with buffer size `maxPayload` can take: the receiver skips checksums
or the sender does not. -/
structure SendArgs.Receivable (maxPayload : Int32) (skip : Bool) (a : SendArgs) : Prop where
  valid : a.Valid
  fits : (a.dataLen.toNat : ℤ) ≤ maxPayload.toInt
  checks : skip = true ∨ a.skipChecksum = false

section Framing

variable {maxPayload : Int32} {skip : Bool}

theorem SendArgs.Receivable.wellFormed {a : SendArgs} (h : a.Receivable maxPayload skip) :
    a.packet.WellFormed maxPayload skip where
  magic := rfl
  length := h.valid.length_payload.symm
  fits := by
    rw [packet, h.valid.length_payload]
    exact h.fits
  check := by
    rcases h.checks with hs | hs
    · exact Or.inl hs
    · exact Or.inr (Or.inr (by simp [packet, header, hs]))

/-- Successful sends hand over the frames, one after the other. -/
theorem sendOutput_eq {sends : List (SendArgs × List (Answer SocketSignal))}
    (hvalid : ∀ x ∈ sends, x.1.Valid) (hsent : ∀ x ∈ sends, (adbSendMsg x.1 x.2).ret = some 0) :
    sendOutput sends = sends.flatMap fun x => x.1.packet.toBytes := by
  unfold sendOutput
  apply List.flatMap_congr
  intro x hx
  exact (adbSendMsg_sendsFrame (hvalid x hx) x.2).ret_zero_iff.1 (hsent x hx)

/-- One call takes the packet at the head of the stream and nothing else. -/
theorem adbRecvMsg_packet {p : Packet} (w : p.WellFormed maxPayload skip) (hdr₀ : List UInt8)
    {s : Source UInt8 SocketSignal} (hs : ∀ e, .signal e ∉ s) {t : List UInt8}
    (hc : content s = p.toBytes ++ t) :
    (adbRecvMsg hdr₀ maxPayload skip s).1 = p.delivery ∧
      content (adbRecvMsg hdr₀ maxPayload skip s).2 = t ∧
      ∀ e, .signal e ∉ (adbRecvMsg hdr₀ maxPayload skip s).2 := by
  obtain ⟨hret, hrest, -⟩ := recvFrame_whole hdr₀ w hc
    (show ∀ k ∈ stops socketReact s, p.toBytes.length ≤ k by
      simp [stops_eq_nil fun e he => absurd he (hs e)])
  exact ⟨hret, hrest, fun e he => hs e (signal_mem_of_mem_recvFrame he)⟩

/-- Repeated calls deliver the packets at the head of the stream, in order. -/
theorem recvMany_packets (packets : List Packet)
    (hw : ∀ p ∈ packets, p.WellFormed maxPayload skip) (hdr₀ : List UInt8)
    {s : Source UInt8 SocketSignal} (hs : ∀ e, .signal e ∉ s) {t : List UInt8}
    (hc : content s = packets.flatMap Packet.toBytes ++ t) :
    (recvMany maxPayload skip packets.length hdr₀ s).1 = packets.map Packet.delivery ∧
      content (recvMany maxPayload skip packets.length hdr₀ s).2 = t ∧
      ∀ e, .signal e ∉ (recvMany maxPayload skip packets.length hdr₀ s).2 := by
  induction packets generalizing hdr₀ s with
  | nil => exact ⟨rfl, hc, hs⟩
  | cons p ps ih =>
    rw [List.flatMap_cons, List.append_assoc] at hc
    obtain ⟨hret, hrest, hs'⟩ := adbRecvMsg_packet (hw p (List.mem_cons_self ..)) hdr₀ hs hc
    obtain ⟨hrets, htail, hs''⟩ := ih (fun q hq => hw q (List.mem_cons_of_mem _ hq))
      (adbRecvMsg hdr₀ maxPayload skip s).1.hdr.toBytes hs' hrest
    simp only [List.length_cons, recvMany, List.map_cons, hret, List.cons.injEq, true_and]
    rw [hret] at hrets htail hs''
    exact ⟨hrets, htail, hs''⟩

/-- A frame that no receiver should accept: its `magic` is wrong, or the receiver checks byte sums
and that of its payload, which is not empty, differs from `data_check`. -/
structure Packet.Corrupt (skip : Bool) (p : Packet) : Prop where
  length : p.hdr.dataLength.toNat = p.payload.length
  wrong : ¬ p.hdr.MagicOk ∨
    skip = false ∧ p.payload ≠ [] ∧ adbChecksum p.payload ≠ p.hdr.dataCheck

theorem adbRecvMsg_corrupt {p : Packet} (h : p.Corrupt skip) (hdr₀ : List UInt8)
    {s : Source UInt8 SocketSignal} (hs : ∀ e, .signal e ∉ s) {t : List UInt8}
    (hc : content s = p.toBytes ++ t) : (adbRecvMsg hdr₀ maxPayload skip s).1.ret = -1 := by
  rw [Packet.toBytes, List.append_assoc] at hc
  obtain ⟨hfull, hrest, -, heq⟩ := readExact_header hdr₀ maxPayload skip hc
    (show ∀ k ∈ stops socketReact s, 24 ≤ k by
      simp [stops_eq_nil fun e he => absurd he (hs e)])
  rw [adbRecvMsg, heq]
  by_cases hm : p.hdr.MagicOk
  · obtain ⟨hskip, hne, hsum⟩ := h.wrong.resolve_left (not_not.2 hm)
    have hz : p.hdr.dataLength ≠ 0 := by
      intro hz
      have hl := h.length
      rw [hz] at hl
      exact hne (List.eq_nil_of_length_eq_zero hl.symm)
    by_cases hbig : maxPayload < p.hdr.dataLength.toInt32
    · rw [recvPayload, if_neg (not_not.2 hm), if_neg hz, if_pos hbig]
    · have hs' : ∀ e, .signal e ∉ (readExact socketReact (-1) 24 s).rest :=
        fun e he => hs e (signal_mem_of_mem_rest he)
      have hbody : (readExact socketReact (-1) p.payload.length
          (readExact socketReact (-1) 24 s).rest).stop = none :=
        readExact_full (by simp [hrest]) (by simp [stops_eq_nil fun e he => absurd he (hs' e)])
      rw [recvPayload_of_body hm hz hbig, h.length]
      simp only [payloadResult, hbody, (readExact_append_of_full hrest hbody).1]
      exact if_pos ⟨hskip, hsum⟩
  · rw [recvPayload, if_pos hm]

end Framing

/-- The frames of successful sends, cut into chunks of any size, come back through repeated
`adb_recv_msg` calls: after `k` calls the first `k` messages were returned with result `1`, each
with its command, arguments, length and payload, and exactly `24 + length` bytes were taken for
each. A corrupt frame that follows is refused. -/
theorem recvMany_sendOutput (maxPayload : Int32) (skip : Bool)
    (sends : List (SendArgs × List (Answer SocketSignal)))
    (hmsgs : ∀ x ∈ sends, x.1.Receivable maxPayload skip)
    (hsent : ∀ x ∈ sends, (adbSendMsg x.1 x.2).ret = some 0)
    (hdr₀ : List UInt8) (s : Source UInt8 SocketSignal) (hs : ∀ e, .signal e ∉ s)
    (t : List UInt8) (hc : content s = sendOutput sends ++ t) :
    (∀ k ≤ sends.length,
      List.Forall₂ (fun r (x : SendArgs × List (Answer SocketSignal)) =>
          r.ret = 1 ∧ r.hdr.command = x.1.cmd ∧ r.hdr.arg0 = x.1.arg0 ∧ r.hdr.arg1 = x.1.arg1 ∧
            r.hdr.dataLength = x.1.dataLen ∧ r.payload = x.1.payload)
        (recvMany maxPayload skip k hdr₀ s).1 (sends.take k) ∧
      content (recvMany maxPayload skip k hdr₀ s).2 =
        (content s).drop ((sends.take k).map fun x => 24 + x.1.dataLen.toNat).sum) ∧
    ∀ p t', p.Corrupt skip → t = Packet.toBytes p ++ t' → ∀ hdr₁,
      (adbRecvMsg hdr₁ maxPayload skip
        (recvMany maxPayload skip sends.length hdr₀ s).2).1.ret = -1 := by
  rw [sendOutput_eq (fun x hx => (hmsgs x hx).valid) hsent] at hc
  have hframes (l : List (SendArgs × List (Answer SocketSignal))) :
      (l.flatMap fun x => x.1.packet.toBytes) =
        (l.map fun x => x.1.packet).flatMap Packet.toBytes := by
    rw [List.flatMap_map]
  have hwf (l : List (SendArgs × List (Answer SocketSignal))) (hl : ∀ x ∈ l, x ∈ sends) :
      ∀ p ∈ l.map fun x => x.1.packet, p.WellFormed maxPayload skip := by
    intro p hp
    obtain ⟨x, hx, rfl⟩ := List.mem_map.1 hp
    exact (hmsgs x (hl x hx)).wellFormed
  refine ⟨fun k hk => ?_, fun p t' hp ht hdr₁ => ?_⟩
  · -- The first `k` frames are followed by the others.
    have hsplit : content s = ((sends.take k).map fun x => x.1.packet).flatMap Packet.toBytes ++
        (((sends.drop k).flatMap fun x => x.1.packet.toBytes) ++ t) := by
      rw [hc, ← hframes, ← List.append_assoc, ← List.flatMap_append, List.take_append_drop]
    obtain ⟨hret, hrest, -⟩ := recvMany_packets _
      (hwf _ fun x => List.mem_of_mem_take) hdr₀ hs hsplit
    rw [List.length_map, List.length_take_of_le hk] at hret hrest
    refine ⟨?_, ?_⟩
    · rw [hret, List.map_map, List.forall₂_map_left_iff, List.forall₂_same]
      exact fun x _ => ⟨rfl, rfl, rfl, rfl, rfl, rfl⟩
    · rw [hrest, hsplit, List.drop_left']
      rw [List.length_flatMap, List.map_map]
      congr 1
      apply List.map_congr_left
      intro x hx
      have hlen := (hmsgs x (List.mem_of_mem_take hx)).valid.length_payload
      simp [SendArgs.packet, hlen]
  · rw [hframes, ht] at hc
    obtain ⟨-, hrest, hs'⟩ := recvMany_packets _
      (hwf _ fun x => id) hdr₀ hs hc
    rw [List.length_map] at hrest hs'
    exact adbRecvMsg_corrupt hp hdr₁ hs' hrest

/-- A `WRTE` of three bytes, sent in pieces with a would-block between them. -/
def threeBytes : SendArgs × List (Answer SocketSignal) :=
  (⟨ADB_WRTE, 1, 2, some [10, 20, 30], 3, false⟩,
    [.accept 20, .signal .wouldBlock, .accept 9, .accept 1, .accept 1])

/-- The frame of the same message with a wrong byte sum. -/
def wrongSum : Packet := ⟨threeBytes.1.header 61, threeBytes.1.payload⟩

/-- Both frames, cut inside the payload of the first one. -/
def threeBytesTwice : Source UInt8 SocketSignal :=
  unread ((sendOutput [threeBytes] ++ wrongSum.toBytes).take 26)
    (unread ((sendOutput [threeBytes] ++ wrongSum.toBytes).drop 26) [])

theorem recvMany_sendOutput_threeBytes :
    content (recvMany 1048576 false 1 [] threeBytesTwice).2 = (content threeBytesTwice).drop 27 ∧
      (adbRecvMsg [] 1048576 false (recvMany 1048576 false 1 [] threeBytesTwice).2).1.ret = -1 := by
  have hmsg : threeBytes.1.Receivable 1048576 false :=
    ⟨⟨Or.inl rfl, by simp [threeBytes]⟩, by decide, Or.inr rfl⟩
  have hs : ∀ e, .signal e ∉ threeBytesTwice := by
    intro e he
    simpa using mem_of_mem_unread (mem_of_mem_unread he)
  have h := recvMany_sendOutput 1048576 false [threeBytes] (by simpa using hmsg) (by decide) []
    threeBytesTwice hs wrongSum.toBytes (by simp [threeBytesTwice])
  exact ⟨(h.1 1 le_rfl).2, h.2 wrongSum [] ⟨rfl, Or.inr ⟨rfl, by decide, by decide⟩⟩ (by simp) []⟩

/-- An `OKAY` that announces a byte sum for its empty payload. -/
def okayWithSum : Packet := ⟨⟨ADB_OKAY, 7, 1, 0, 1, ADB_OKAY ^^^ 0xffffffff⟩, []⟩

/-- The byte sum of an empty payload is not compared with `data_check`. -/
theorem adbRecvMsg_empty_payload_unchecked :
    adbChecksum okayWithSum.payload ≠ okayWithSum.hdr.dataCheck ∧
      (adbRecvMsg [] 1048576 false (unread okayWithSum.toBytes [])).1.ret = 1 := by
  decide

end Autoscrcpy
