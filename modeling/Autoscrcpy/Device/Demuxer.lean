import Autoscrcpy.Device.PacketReads

/-!
# The demuxer

`demuxer_recv_packet` of `demuxer.c`, the other reader of the packet format, and where it and
`video_socket_read_packet` agree (`readers_agree_iff`): it looks at bits 62 and 61 of a header only,
so it takes the height of a session packet for the size of a payload.
-/

namespace Autoscrcpy

open SegStream

/-! ## `demuxer_recv_packet` -/

def scPacketFlagConfig : UInt64 := (1 : UInt64) <<< 62

def scPacketFlagKeyFrame : UInt64 := (1 : UInt64) <<< 61

def scPacketPtsMask : UInt64 := scPacketFlagKeyFrame - 1

/-- `sc_packet_t`; `data` holds the bytes at `data` (none for a null pointer). -/
structure ScPacket where
  data : List UInt8
  size : UInt32
  pts : Int64
  isConfig : Bool
  isKeyFrame : Bool
  deriving DecidableEq

/-- `pts_raw`: the first eight bytes of a header. -/
def ptsRaw (header : List UInt8) : UInt64 :=
  ((header.getD 0 0).toUInt64 <<< 56) ||| ((header.getD 1 0).toUInt64 <<< 48) |||
    ((header.getD 2 0).toUInt64 <<< 40) ||| ((header.getD 3 0).toUInt64 <<< 32) |||
    ((header.getD 4 0).toUInt64 <<< 24) ||| ((header.getD 5 0).toUInt64 <<< 16) |||
    ((header.getD 6 0).toUInt64 <<< 8) ||| (header.getD 7 0).toUInt64

/-- `payload_size`: of a config packet the lower 31 bits of the size field. -/
def payloadSize (header : List UInt8) : UInt32 :=
  if ptsRaw header &&& scPacketFlagConfig ≠ 0 then read32be (header.drop 8) &&& 0x7FFFFFFF
  else read32be (header.drop 8)

/-- The loop over the payload. From `2 ^ 31` on the length that it passes is a negative `int`:
Winsock refuses it (`refuses`), elsewhere it becomes a `size_t` and the loop reads on. -/
def demuxerRecvPayload (refuses : Bool) (size : UInt32) (fd : Source UInt8 SocketSignal) :
    Fill UInt8 SocketSignal ℤ :=
  if refuses ∧ 2 ^ 31 ≤ size.toNat then ⟨[], some (-1), fd⟩ else recvAll size.toNat fd

/-- The result of a call: whether it succeeded, the packet, and what is left to read. -/
structure DemuxerRecv where
  ok : Bool
  packet : ScPacket
  fd : Source UInt8 SocketSignal

/-- `demuxer_recv_packet`; its loops over the header and the payload are those of `recv_all`.
`mallocOk` tells whether the payload buffer could be allocated. -/
def demuxerRecvPacket (mallocOk refuses : Bool) (packet : ScPacket)
    (fd : Source UInt8 SocketSignal) : DemuxerRecv :=
  let header := recvAll 12 fd
  if header.stop ≠ none then ⟨false, packet, header.rest⟩
  else
    let size := payloadSize header.got
    let packet : ScPacket := {
      data := []
      size := 0
      pts := (ptsRaw header.got &&& scPacketPtsMask).toInt64
      isConfig := ptsRaw header.got &&& scPacketFlagConfig ≠ 0
      isKeyFrame := ptsRaw header.got &&& scPacketFlagKeyFrame ≠ 0 }
    if 0 < size then
      if mallocOk = false then ⟨false, packet, header.rest⟩
      else
        let payload := demuxerRecvPayload refuses size header.rest
        if payload.stop ≠ none then ⟨false, packet, payload.rest⟩
        else ⟨true, { packet with data := payload.got, size := size }, payload.rest⟩
    else ⟨true, packet, header.rest⟩

/-! ## What the readers find -/

/-- What a call finds: the payload, unless it fails, and the bytes behind the packet. -/
structure Reading where
  payload : Option (List UInt8)
  rest : List UInt8
  deriving DecidableEq

/-- What a call of `video_socket_read_packet` finds. -/
def PacketResult.reading (r : PacketResult) (rest : List UInt8) : Reading :=
  ⟨if r.ok then some r.data else none, rest⟩

/-- What a call of `demuxer_recv_packet` finds. -/
def DemuxerRecv.reading (r : DemuxerRecv) : Reading :=
  ⟨if r.ok then some r.packet.data else none, content r.fd⟩

/-- What successive calls of `video_socket_read_packet` find. -/
def videoReadings : List Bool → VideoSocket → List Reading
  | [], _ => []
  | mallocOk :: mallocs, sock =>
      let r := videoSocketReadPacket mallocOk sock
      r.result.reading r.sock.content :: videoReadings mallocs r.sock

/-- What successive calls of `demuxer_recv_packet` find. -/
def demuxerReadings (refuses : Bool) :
    List Bool → ScPacket → Source UInt8 SocketSignal → List Reading
  | [], _, _ => []
  | mallocOk :: mallocs, packet, fd =>
      let r := demuxerRecvPacket mallocOk refuses packet fd
      r.reading :: demuxerReadings refuses mallocs r.packet r.fd

/-- The headers of successive packets. -/
def packetHeaders : List Bool → List UInt8 → List (List UInt8)
  | [], _ => []
  | allocated :: allocs, bytes =>
      if bytes.length < 12 then []
      else bytes.take 12 :: packetHeaders allocs (parsePacket allocated 0 0 bytes).2

/-- Every media packet has a size of 10 MB at most. -/
def MediaSizesWithin (allocs : List Bool) (bytes : List UInt8) : Prop :=
  ∀ header ∈ packetHeaders allocs bytes,
    (read64be header).toNat.testBit 63 = false →
      (read32be (header.drop 8)).toNat ≤ 10 * 1024 * 1024

/-- Every session packet reads as a packet without payload to the demuxer as well. -/
def SessionsPayloadless (allocs : List Bool) (bytes : List UInt8) : Prop :=
  ∀ header ∈ packetHeaders allocs bytes,
    (read64be header).toNat.testBit 63 = true → payloadSize header = 0

/-! ## The demuxer on a byte string -/

/-- The packet at the head of a byte string as the demuxer takes it. -/
def demuxPacket (allocated refuses : Bool) (bytes : List UInt8) : Reading :=
  if bytes.length < 12 then ⟨none, []⟩
  else
    let size := (payloadSize (bytes.take 12)).toNat
    if size = 0 then ⟨some [], bytes.drop 12⟩
    else if allocated = false ∨ refuses ∧ 2 ^ 31 ≤ size then ⟨none, bytes.drop 12⟩
    else if bytes.length < 12 + size then ⟨none, []⟩
    else ⟨some ((bytes.drop 12).take size), bytes.drop (12 + size)⟩

theorem demuxPacket_eq {fd : Source UInt8 SocketSignal} (hs : StopsAtEnd recvAllReact fd)
    (mallocOk refuses : Bool) (packet : ScPacket) :
    demuxPacket mallocOk refuses (content fd) =
        (demuxerRecvPacket mallocOk refuses packet fd).reading ∧
      StopsAtEnd recvAllReact (demuxerRecvPacket mallocOk refuses packet fd).fd := by
  obtain ⟨hstop, hgot, hrest, hend⟩ := readExact_of_stopsAtEnd (-1 : ℤ) hs 12
  simp only [demuxerRecvPacket, recvAll, hgot, demuxPacket, DemuxerRecv.reading]
  by_cases hshort : (content fd).length < 12
  · have hne : (readExact recvAllReact (-1) 12 fd).stop ≠ none := fun h => by
      have := hstop.1 h
      omega
    rw [List.drop_eq_nil_of_le (by omega)] at hrest
    simp only [if_pos hne, if_pos hshort, Bool.false_eq_true, if_false, hrest, hend, and_self]
  have hnone := hstop.2 (show 12 ≤ (content fd).length by omega)
  set size := payloadSize ((content fd).take 12)
  have hzero : size.toNat = 0 ↔ ¬ 0 < size := by
    rw [UInt32.pos_iff_ne_zero, not_not]
    exact UInt32.toNat_inj (b := 0)
  simp only [hnone, ne_eq, not_true_eq_false, if_false, if_neg hshort, hzero]
  by_cases h₀ : 0 < size
  · simp only [h₀, not_true_eq_false, if_false, if_true]
    cases mallocOk with
    | false => simp only [true_or, if_true, Bool.false_eq_true, if_false, hrest, hend, and_self]
    | true =>
      simp only [demuxerRecvPayload, recvAll, Bool.true_eq_false, false_or, if_false]
      by_cases hrefused : refuses ∧ 2 ^ 31 ≤ size.toNat
      · simp only [if_pos hrefused, reduceCtorEq, not_false_eq_true, if_true, Bool.false_eq_true,
          if_false, hrest, hend, and_self]
      obtain ⟨hstop₂, hgot₂, hrest₂, hend₂⟩ :=
        readExact_of_stopsAtEnd (-1 : ℤ) hend size.toNat
      rw [hrest] at hgot₂ hrest₂ hstop₂
      rw [List.length_drop] at hstop₂
      rw [List.drop_drop] at hrest₂
      simp only [if_neg hrefused, hgot₂]
      by_cases hlong : (content fd).length < 12 + size.toNat
      · have hne := mt hstop₂.1 (show ¬ size.toNat ≤ (content fd).length - 12 by omega)
        rw [List.drop_eq_nil_of_le (by omega)] at hrest₂
        simp only [if_pos hlong, hne, not_false_eq_true, if_true, Bool.false_eq_true, if_false,
          hrest₂, hend₂, and_self]
      · have hfull := hstop₂.2 (by omega)
        simp only [if_neg hlong, hfull, not_true_eq_false, if_false, if_true, hrest₂, hend₂,
          and_self]
  · simp only [h₀, not_false_eq_true, if_true, if_false, hrest, hend, and_self]

/-! ## Agreement -/

/-- The packet at the head of a byte string as the video socket takes it. -/
def videoPacket (allocated : Bool) (bytes : List UInt8) : Reading :=
  let r := parsePacket allocated 0 0 bytes
  r.1.reading r.2

/-- The session so far does not matter to where packets end and what they carry. -/
theorem videoPacket_eq (allocated : Bool) (width height : UInt32) (bytes : List UInt8) :
    videoPacket allocated bytes =
      (parsePacket allocated width height bytes).1.reading
        (parsePacket allocated width height bytes).2 := by
  simp only [videoPacket, parsePacket]
  split_ifs <;> rfl

theorem read64be_take (bytes : List UInt8) : read64be (bytes.take 12) = read64be bytes := by
  have hhigh := read32be_drop_take (show 0 + 4 ≤ 12 by omega) bytes
  have hlow := read32be_drop_take (show 4 + 4 ≤ 12 by omega) bytes
  rw [List.drop_zero, List.drop_zero] at hhigh
  rw [read64be, read64be, hhigh, hlow]

/-- A size that is not too large has no bit 31 to be masked. -/
theorem payloadSize_of_small {header : List UInt8}
    (h : (read32be (header.drop 8)).toNat ≤ 10 * 1024 * 1024) :
    payloadSize header = read32be (header.drop 8) := by
  have hmask : read32be (header.drop 8) &&& 0x7FFFFFFF = read32be (header.drop 8) := by
    apply UInt32.toNat_inj.1
    rw [UInt32.toNat_and]
    exact (Nat.and_two_pow_sub_one_eq_mod _ 31).trans (Nat.mod_eq_of_lt (by omega))
  rw [payloadSize, hmask, ite_self]

/-- On a media packet of 10 MB at most the readers agree. -/
theorem demuxPacket_media (allocated refuses : Bool) {bytes : List UInt8}
    (hmedia : (read64be bytes).toNat.testBit 63 = false)
    (hsize : (read32be (bytes.drop 8)).toNat ≤ 10 * 1024 * 1024) :
    demuxPacket allocated refuses bytes = videoPacket allocated bytes := by
  have hfield := read32be_drop_take (show 8 + 4 ≤ 12 by omega) bytes
  have hpayload : payloadSize (bytes.take 12) = read32be (bytes.drop 8) := by
    rw [payloadSize_of_small (by rwa [hfield]), hfield]
  have hlarge : ¬ 10 * 1024 * 1024 < (read32be (bytes.drop 8)).toNat := by omega
  have hneg : ¬ 2 ^ 31 ≤ (read32be (bytes.drop 8)).toNat := by omega
  simp only [demuxPacket, videoPacket, parsePacket, hpayload, hmedia, hlarge, hneg, and_false,
    or_false, false_or, Bool.false_eq_true, if_false]
  split_ifs <;> rfl

/-- On a session packet the readers agree exactly when it has no payload to the demuxer. -/
theorem demuxPacket_session (allocated refuses : Bool) {bytes : List UInt8}
    (hlong : ¬ bytes.length < 12) (hsession : (read64be bytes).toNat.testBit 63 = true) :
    demuxPacket allocated refuses bytes = videoPacket allocated bytes ↔
      payloadSize (bytes.take 12) = 0 := by
  have hvideo : videoPacket allocated bytes = ⟨some [], bytes.drop 12⟩ := by
    simp only [videoPacket, parsePacket, if_neg hlong, if_pos hsession]
    split_ifs <;> rfl
  have hzero : payloadSize (bytes.take 12) = 0 ↔ (payloadSize (bytes.take 12)).toNat = 0 :=
    UInt32.toNat_inj.symm
  rw [hvideo, demuxPacket, if_neg hlong, hzero]
  refine ⟨fun h => ?_, fun h => if_pos h⟩
  by_contra hne
  rw [if_neg hne] at h
  split_ifs at h with hrefused hend
  · cases h
  · cases h
  · have hnil : (bytes.drop 12).take (payloadSize (bytes.take 12)).toNat = [] :=
      Option.some.inj (congrArg Reading.payload h)
    have hlen := congrArg List.length hnil
    rw [List.length_take, List.length_drop, List.length_nil] at hlen
    omega

theorem packetHeaders_short (allocs : List Bool) {bytes : List UInt8} (h : bytes.length < 12) :
    packetHeaders allocs bytes = [] := by
  cases allocs with
  | nil => rfl
  | cons allocated allocs => rw [packetHeaders, if_pos h]

theorem packetHeaders_cons (allocated : Bool) (allocs : List Bool) {bytes : List UInt8}
    (h : ¬ bytes.length < 12) :
    packetHeaders (allocated :: allocs) bytes =
      bytes.take 12 :: packetHeaders allocs (videoPacket allocated bytes).rest := by
  rw [packetHeaders, if_neg h]
  rfl

/-- One packet: where no media packet is too large, the readers agree on it exactly when it is no
session packet with a payload to the demuxer. -/
theorem demuxPacket_eq_videoPacket_iff (allocated refuses : Bool) {bytes : List UInt8}
    (hlong : ¬ bytes.length < 12)
    (hsize : (read64be (bytes.take 12)).toNat.testBit 63 = false →
      (read32be ((bytes.take 12).drop 8)).toNat ≤ 10 * 1024 * 1024) :
    demuxPacket allocated refuses bytes = videoPacket allocated bytes ↔
      ((read64be (bytes.take 12)).toNat.testBit 63 = true →
        payloadSize (bytes.take 12) = 0) := by
  rw [read64be_take, read32be_drop_take (by omega)] at hsize
  rw [read64be_take]
  cases hbit : (read64be bytes).toNat.testBit 63 with
  | false => simp only [demuxPacket_media allocated refuses hbit (hsize hbit), reduceCtorEq,
      false_imp_iff]
  | true => simp only [demuxPacket_session allocated refuses hlong hbit, true_imp_iff]

/-- On one byte stream, where every media packet has a size of 10 MB at most, the readers find the
same packets exactly when the demuxer finds no payload behind the header of a session packet. Each
reader may get the bytes in pieces of its own. -/
theorem readers_agree_iff (refuses : Bool) (mallocs : List Bool) (packet : ScPacket)
    {sock : VideoSocket} {fd : Source UInt8 SocketSignal}
    (hsock : StopsAtEnd recvAllReact sock.fd) (hfd : StopsAtEnd recvAllReact fd)
    (hsame : content fd = sock.content) (hsizes : MediaSizesWithin mallocs sock.content) :
    demuxerReadings refuses mallocs packet fd = videoReadings mallocs sock ↔
      SessionsPayloadless mallocs sock.content := by
  induction mallocs generalizing packet sock fd with
  | nil => simp [demuxerReadings, videoReadings, SessionsPayloadless, packetHeaders]
  | cons mallocOk mallocs ih =>
    obtain ⟨hparse, hsock'⟩ := parsePacket_eq hsock mallocOk
    obtain ⟨hdemux, hfd'⟩ := demuxPacket_eq hfd mallocOk refuses packet
    have hvideo := videoPacket_eq mallocOk sock.width sock.height sock.content
    rw [hparse] at hvideo
    rw [hsame] at hdemux
    -- behind a packet on which they agree, the readers are on one byte stream again
    have hrest (h : demuxPacket mallocOk refuses sock.content = videoPacket mallocOk sock.content) :
        content (demuxerRecvPacket mallocOk refuses packet fd).fd =
          (videoSocketReadPacket mallocOk sock).sock.content := by
      rw [hdemux, hvideo] at h
      exact congrArg Reading.rest h
    have hleft : (videoPacket mallocOk sock.content).rest =
        (videoSocketReadPacket mallocOk sock).sock.content := by rw [hvideo]; rfl
    simp only [demuxerReadings, videoReadings, List.cons.injEq]
    rw [← hdemux, ← hvideo]
    by_cases hshort : sock.content.length < 12
    · have hhead : demuxPacket mallocOk refuses sock.content =
          videoPacket mallocOk sock.content := by
        simp only [demuxPacket, videoPacket, parsePacket, if_pos hshort]
        rfl
      have hnil : (videoSocketReadPacket mallocOk sock).sock.content.length < 12 := by
        rw [← hleft]
        simp [videoPacket, parsePacket, hshort, PacketResult.reading]
      have htail := ih (demuxerRecvPacket mallocOk refuses packet fd).packet hsock' hfd'
        (hrest hhead) (by simp [MediaSizesWithin, packetHeaders_short mallocs hnil])
      simp only [hhead, true_and, htail, SessionsPayloadless, packetHeaders_short _ hnil,
        packetHeaders_short _ hshort]
    · simp only [MediaSizesWithin, packetHeaders_cons mallocOk mallocs hshort,
        List.forall_mem_cons, hleft] at hsizes
      simp only [SessionsPayloadless, packetHeaders_cons mallocOk mallocs hshort,
        List.forall_mem_cons, hleft]
      rw [← demuxPacket_eq_videoPacket_iff mallocOk refuses hshort hsizes.1]
      exact and_congr_right fun hhead => ih _ hsock' hfd' (hrest hhead) hsizes.2

/-- A packet of two bytes with the flag of a config packet, in pieces for the one reader and in one
piece for the other. -/
theorem readers_agree_iff_config :
    demuxerReadings true [true, true] ⟨[], 0, 0, false, false⟩
        [.data 0x40 [0, 0, 0, 0, 0, 0, 0, 0, 0, 0, 2, 7, 9]] =
      videoReadings [true, true] ⟨0, 0, 0, [0x40, 0, 0, 0],
        [.data 0 [0, 0, 0, 0], .signal .wouldBlock, .data 0 [0, 2, 7], .data 9 []]⟩ := by
  refine (readers_agree_iff _ _ _ ?_ ?_ rfl ?_).2 ?_
  · show ∀ k ∈ stops recvAllReact _, _
    decide
  · show ∀ k ∈ stops recvAllReact _, _
    decide
  · unfold MediaSizesWithin
    decide
  · unfold SessionsPayloadless
    decide

/-- The header of a session of 1280 x 768 pixels, alone in the stream. -/
def sessionStream : Source UInt8 SocketSignal :=
  [.data 0x80 [0, 0, 0, 0, 0, 5, 0, 0, 0, 3, 0]]

/-- The demuxer waits for 768 bytes behind the session header, and fails; the video socket has a
session. -/
theorem session_disagrees :
    StopsAtEnd recvAllReact sessionStream ∧ MediaSizesWithin [true] (content sessionStream) ∧
      demuxerReadings true [true] ⟨[], 0, 0, false, false⟩ sessionStream ≠
        videoReadings [true] ⟨0, 0, 0, [], sessionStream⟩ := by
  refine ⟨?_, ?_, by decide⟩
  · show ∀ k ∈ stops recvAllReact _, _
    decide
  · unfold MediaSizesWithin
    decide

end Autoscrcpy
