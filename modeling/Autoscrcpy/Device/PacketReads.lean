import Autoscrcpy.Device.VideoSocket

/-!
# Successive reads of the video socket

`parsePacket` is the packet format on a byte string: a header of twelve bytes; with its bit 63 set a
session packet, which is the header only; else a media packet, whose size the last four bytes tell.

`packetResults_onePiece`: the calls of `video_socket_read_packet` on one socket tell what the
packets of its bytes tell, wherever these wait (in `pending` or in the socket) and however the
socket brings them. A call that fails is one of them: the next call goes on where it left the bytes.
-/

namespace Autoscrcpy

open SegStream

/-! ## The packet format on a byte string -/

/-- What a call of `video_socket_read_packet` tells: whether it succeeded, the bytes at `*data`
(their number is `*size`), and the width and the height in `video_socket_t`. -/
structure PacketResult where
  ok : Bool
  data : List UInt8
  width : UInt32
  height : UInt32
  deriving DecidableEq

/-- The packet at the head of a byte string, and the bytes behind it; `width` and `height` are those
of the session so far, and `allocated` tells whether there is memory for a payload. -/
def parsePacket (allocated : Bool) (width height : UInt32) (bytes : List UInt8) :
    PacketResult × List UInt8 :=
  if bytes.length < 12 then (⟨false, [], width, height⟩, [])
  else if (read64be bytes).toNat.testBit 63 then
    let w := read32be (bytes.drop 4)
    let h := read32be (bytes.drop 8)
    (if w ≠ 0 ∧ h ≠ 0 then ⟨true, [], w, h⟩ else ⟨true, [], width, height⟩, bytes.drop 12)
  else
    let size := (read32be (bytes.drop 8)).toNat
    if size = 0 then (⟨true, [], width, height⟩, bytes.drop 12)
    else if 10 * 1024 * 1024 < size ∨ allocated = false then
      (⟨false, [], width, height⟩, bytes.drop 12)
    else if bytes.length < 12 + size then (⟨false, [], width, height⟩, [])
    else (⟨true, (bytes.drop 12).take size, width, height⟩, bytes.drop (12 + size))

/-- The results of successive packets, one for each entry of `allocs`. -/
def parsePackets : List Bool → UInt32 → UInt32 → List UInt8 → List PacketResult
  | [], _, _, _ => []
  | allocated :: allocs, width, height, bytes =>
      let r := parsePacket allocated width height bytes
      r.1 :: parsePackets allocs r.1.width r.1.height r.2

/-! ## Calls of `video_socket_read_packet` -/

def ReadPacket.result (r : ReadPacket) : PacketResult := ⟨r.ok, r.data, r.sock.width, r.sock.height⟩

/-- The results of successive calls, also after a call that failed; `mallocs` tells for each call
whether its `malloc` succeeds. -/
def packetResults : List Bool → VideoSocket → List PacketResult
  | [], _ => []
  | mallocOk :: mallocs, sock =>
      let r := videoSocketReadPacket mallocOk sock
      r.result :: packetResults mallocs r.sock

/-- What `recv_all_pending` brings and leaves is read off the bytes that are left, those of
`pending` and those of the socket. -/
theorem recvAllPending_of_stopsAtEnd {sock : VideoSocket} (hs : StopsAtEnd recvAllReact sock.fd)
    (len : ℕ) :
    ∃ stop sock', recvAllPending sock len = (sock.content.take len, stop, sock') ∧
      (stop = none ↔ len ≤ sock.content.length) ∧ sock'.content = sock.content.drop len ∧
      StopsAtEnd recvAllReact sock'.fd ∧ sock'.width = sock.width ∧
      sock'.height = sock.height := by
  have hall : StopsAtEnd recvAllReact (unread sock.pending sock.fd) := stopsAtEnd_unread.2 hs
  obtain ⟨hstop, hgot, hrest, hend⟩ := readExact_of_stopsAtEnd (-1 : ℤ) hall len
  have htake : len - (sock.pending.take len).length = len - sock.pending.length := by
    rw [List.length_take]
    omega
  rw [readExact_unread] at hstop hgot hrest hend
  rw [content_unread] at hstop hgot hrest
  rw [content_unread] at hrest
  refine ⟨_, { sock with pending := sock.pending.drop len, fd := _ }, ?_, hstop, hrest,
    stopsAtEnd_unread.1 hend, rfl, rfl⟩
  rw [recvAllPending, htake, recvAll]
  exact Prod.ext hgot rfl

theorem read32be_drop_take {k n : ℕ} (h : k + 4 ≤ n) (bytes : List UInt8) :
    read32be ((bytes.take n).drop k) = read32be (bytes.drop k) := by
  have hgetD (i : ℕ) (hi : i < 4) :
      ((bytes.take n).drop k).getD i 0 = (bytes.drop k).getD i 0 := by
    rw [List.getD_eq_getElem?_getD, List.getD_eq_getElem?_getD, List.getElem?_drop,
      List.getElem?_drop, List.getElem?_take_of_lt (by omega)]
  simp only [read32be, hgetD 0 (by omega), hgetD 1 (by omega), hgetD 2 (by omega),
    hgetD 3 (by omega)]

/-- The test of the reader on the first byte is the test on bit 63. -/
theorem isSession_eq_testBit (bytes : List UInt8) :
    isSession (bytes.take 12) = (read64be bytes).toNat.testBit 63 := by
  have hbyte : (bytes.take 12).getD 0 0 = bytes.getD 0 0 := by cases bytes <;> rfl
  have hbit : (read64be bytes).toNat.testBit 63 = (bytes.getD 0 0).toBitVec.getLsbD 7 := by
    change (read64be bytes).toBitVec.getLsbD 63 = _
    simp only [read64be, read32be, UInt64.toBitVec_or, UInt64.toBitVec_shiftLeft,
      UInt32.toBitVec_toUInt64, UInt32.toBitVec_or, UInt32.toBitVec_shiftLeft,
      UInt8.toBitVec_toUInt32, BitVec.getLsbD_or, BitVec.getLsbD_setWidth]
    simp
  rw [isSession, hbyte, hbit, Bool.decide_congr (and_0x80_ne_zero_iff _)]
  exact (BitVec.msb_eq_decide (bytes.getD 0 0).toBitVec).symm

/-- A call tells what the packet at the head of the bytes tells, and leaves the bytes behind it. -/
theorem parsePacket_eq {sock : VideoSocket} (hs : StopsAtEnd recvAllReact sock.fd)
    (mallocOk : Bool) :
    parsePacket mallocOk sock.width sock.height sock.content =
        ((videoSocketReadPacket mallocOk sock).result,
          (videoSocketReadPacket mallocOk sock).sock.content) ∧
      StopsAtEnd recvAllReact (videoSocketReadPacket mallocOk sock).sock.fd := by
  obtain ⟨stop, sock₁, hread, hstop, hcontent, hs₁, hw, hh⟩ := recvAllPending_of_stopsAtEnd hs 12
  simp only [videoSocketReadPacket, hread, parsePacket]
  by_cases hshort : sock.content.length < 12
  · have hne : stop ≠ none := fun h => by have := hstop.1 h; omega
    have hnil : sock₁.content = [] := by rw [hcontent, List.drop_eq_nil_of_le (by omega)]
    simp only [if_pos hne, if_pos hshort, ReadPacket.result, hw, hh, hnil, hs₁, and_self]
  have hnone : stop = none := hstop.2 (by omega)
  simp only [hnone, ne_eq, not_true_eq_false, if_false, if_neg hshort, isSession_eq_testBit,
    read32be_drop_take (show 4 + 4 ≤ 12 by omega), read32be_drop_take (show 8 + 4 ≤ 12 by omega)]
  by_cases hbit : (read64be sock.content).toNat.testBit 63
  · simp only [if_pos hbit, UInt32.pos_iff_ne_zero]
    split_ifs
    · exact ⟨by rw [← hcontent]; rfl, hs₁⟩
    · exact ⟨by rw [← hcontent, ← hw, ← hh]; rfl, hs₁⟩
  simp only [if_neg hbit]
  set size := read32be (sock.content.drop 8)
  have hzero : size.toNat = 0 ↔ size = 0 := UInt32.toNat_inj (b := 0)
  have hlarge : 10 * 1024 * 1024 < size.toNat ↔ 10 * 1024 * 1024 < size :=
    (UInt32.lt_iff_toNat_lt (a := 10 * 1024 * 1024)).symm
  obtain ⟨stop₂, sock₂, hread₂, hstop₂, hcontent₂, hs₂, hw₂, hh₂⟩ :=
    recvAllPending_of_stopsAtEnd hs₁ size.toNat
  rw [hcontent, List.length_drop] at hstop₂
  rw [hcontent] at hread₂
  rw [hcontent, List.drop_drop] at hcontent₂
  simp only [hzero, hlarge, hread₂]
  by_cases h₀ : size = 0
  · simp only [if_pos h₀, ReadPacket.result, hw, hh, hcontent, hs₁, and_self]
  by_cases hbig : 10 * 1024 * 1024 < size
  · simp only [if_neg h₀, hbig, true_or, if_true, ReadPacket.result, hw, hh, hcontent, hs₁,
      and_self]
  cases mallocOk with
  | false =>
    simp only [if_neg h₀, if_neg hbig, or_true, if_true, ReadPacket.result, hw, hh, hcontent, hs₁,
      and_self]
  | true =>
    simp only [if_neg h₀, hbig, Bool.true_eq_false, or_self, if_false]
    by_cases hend : sock.content.length < 12 + size.toNat
    · have hne : stop₂ ≠ none := fun h => by have := hstop₂.1 h; omega
      have hnil : sock₂.content = [] := by rw [hcontent₂, List.drop_eq_nil_of_le (by omega)]
      simp only [if_pos hend, if_pos hne, ReadPacket.result, hw₂, hh₂, hw, hh, hnil, hs₂, and_self]
    · have hfull : stop₂ = none := hstop₂.2 (by omega)
      simp only [if_neg hend, hfull, not_true_eq_false, if_false, ReadPacket.result, hw₂, hh₂, hw,
        hh, hcontent₂, hs₂, and_self]

/-- The calls on a socket tell what the packets of its bytes tell. -/
theorem packetResults_eq_parsePackets (mallocs : List Bool) {sock : VideoSocket}
    (hs : StopsAtEnd recvAllReact sock.fd) :
    packetResults mallocs sock = parsePackets mallocs sock.width sock.height sock.content := by
  induction mallocs generalizing sock with
  | nil => rfl
  | cons mallocOk mallocs ih =>
    obtain ⟨hparse, hs'⟩ := parsePacket_eq hs mallocOk
    simp only [packetResults, parsePackets, hparse, ih hs']
    rfl

/-- The calls tell the same as with nothing pending and all bytes in one piece, and what the packets
of all bytes tell: `P` waits in `pending`, and the socket brings `S` in any pieces, with
would-blocks between them. -/
theorem packetResults_onePiece (mallocs : List Bool) (codecId width height : UInt32)
    (P S : List UInt8) {fd : Source UInt8 SocketSignal} (hS : content fd = S)
    (hend : StopsAtEnd recvAllReact fd) :
    packetResults mallocs ⟨codecId, width, height, P, fd⟩ =
        packetResults mallocs ⟨codecId, width, height, [], unread (P ++ S) []⟩ ∧
      packetResults mallocs ⟨codecId, width, height, P, fd⟩ =
        parsePackets mallocs width height (P ++ S) := by
  subst hS
  have hpiece : StopsAtEnd recvAllReact (unread (P ++ content fd) []) :=
    stopsAtEnd_unread.2 fun k hk => absurd hk List.not_mem_nil
  have hcut := packetResults_eq_parsePackets mallocs
    (show StopsAtEnd recvAllReact (VideoSocket.mk codecId width height P fd).fd from hend)
  refine ⟨hcut.trans ?_, hcut⟩
  rw [packetResults_eq_parsePackets mallocs hpiece, VideoSocket.content, VideoSocket.content,
    content_unread, content_nil, List.append_nil, List.nil_append]

/-- A session and a packet of two bytes: five bytes wait in `pending`, and the socket brings the
rest in pieces. -/
theorem packetResults_onePiece_straddling :
    packetResults [true, true, true] ⟨0, 0, 0, [0x80, 0, 0, 0, 0],
        [.data 0 [1, 2, 0], .signal .wouldBlock, .data 0 [0, 7, 0], .data 0 [0, 0, 0, 0, 0, 0, 0],
          .data 0 [0, 2, 5, 6], .signal .closed]⟩ =
      [⟨true, [], 258, 7⟩, ⟨true, [5, 6], 258, 7⟩, ⟨false, [], 258, 7⟩] := by
  refine (packetResults_onePiece _ _ _ _ _ _ rfl ?_).2.trans (by decide)
  show ∀ k ∈ stops recvAllReact _, _
  decide

/-! ## The pending bytes -/

/-- `server_start` leaves twelve pending bytes at most. -/
theorem length_pending_start {mallocOk : Bool} {s : Source UInt8 SocketSignal} {sock : VideoSocket}
    (h : serverStartVideo mallocOk s = some sock) : sock.pending.length ≤ 12 := by
  dsimp only [serverStartVideo] at h
  split at h
  · rename_i hstops
    have hlen := (readExact_full_iff recvAllReact (-1 : ℤ) 12 _).1 hstops.2.2.2
    cases h
    dsimp only
    split_ifs
    · exact Nat.zero_le 12
    · exact hlen.le
  · cases h

/-- No call adds pending bytes, so the casts of `pending_size` to `int` keep its value. -/
theorem length_pending_read (mallocOk : Bool) (sock : VideoSocket) :
    (videoSocketReadPacket mallocOk sock).sock.pending.length ≤ sock.pending.length := by
  have hle (sock : VideoSocket) (len : ℕ) :
      (recvAllPending sock len).2.2.pending.length ≤ sock.pending.length := by
    simp [recvAllPending]
  have hheader := hle sock 12
  have hpayload := hle (recvAllPending sock 12).2.2
    (read32be ((recvAllPending sock 12).1.drop 8)).toNat
  simp only [videoSocketReadPacket]
  split_ifs
  all_goals first | exact hheader | exact hpayload.trans hheader

end Autoscrcpy
