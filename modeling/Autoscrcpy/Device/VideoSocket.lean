import Mathlib.Data.Nat.Bitwise
import Autoscrcpy.Adb.Binary
import Autoscrcpy.Adb.Transport

/-!
# The video socket

The packet format of the video stream, what `server_start` reads from it before the pipeline starts
(dummy byte, device name, codec block, and twelve bytes that are a session header or the header of
the first media packet), and `video_socket_read_packet`.

`readPackets_payload`: called repeatedly after `server_start`, `video_socket_read_packet` brings the
payloads of the packets, however the twelve bytes were left.
-/

namespace Autoscrcpy

open SegStream

/-! ## Packets -/

/-- A packet of the video stream. A session packet is a header with the first bit set; a media
packet has a header with its flags, time and size, and a payload of this size. -/
inductive VideoPacket where
  | session (flags width height : UInt32) (marked : 0x80000000 ≤ flags)
  | media (ptsFlags : UInt64) (payload : List UInt8) (unmarked : ptsFlags < 0x8000000000000000)
      (fits : payload.length < 2 ^ 32)

namespace VideoPacket

def header : VideoPacket → List UInt8
  | session flags width height _ => write32be flags ++ (write32be width ++ write32be height)
  | media ptsFlags payload _ _ => write64be ptsFlags ++ write32be (UInt32.ofNat payload.length)

def payload : VideoPacket → List UInt8
  | session _ _ _ _ => []
  | media _ payload _ _ => payload

def toBytes (p : VideoPacket) : List UInt8 := p.header ++ p.payload

@[simp] theorem length_header (p : VideoPacket) : p.header.length = 12 := by
  cases p <;> rfl

@[simp] theorem length_toBytes (p : VideoPacket) : p.toBytes.length = 12 + p.payload.length := by
  simp [toBytes]

end VideoPacket

/-! ## What `server_start` reads -/

/-- `video_socket_t`: `pending` holds the bytes at `pending` (none for a null pointer), and `fd`
what is left to read from the socket. -/
structure VideoSocket where
  codecId : UInt32
  width : UInt32
  height : UInt32
  pending : List UInt8
  fd : Source UInt8 SocketSignal

/-- `recv_all` tries again after a would-block; `0` and every other error end it. -/
def recvAllReact : SocketSignal → Option ℤ
  | .wouldBlock => none
  | .closed => some (-1)
  | .error => some (-1)

/-- `recv_all`. -/
def recvAll (len : ℕ) (s : Source UInt8 SocketSignal) : Fill UInt8 SocketSignal ℤ :=
  readExact recvAllReact (-1) len s

/-- The test on the first byte of a header for a session packet. -/
def isSession (header : List UInt8) : Bool := header.getD 0 0 &&& 0x80 ≠ 0

/-- The reads of `server_start` on the video socket; nothing when one of them fails. `mallocOk`
tells whether the pending buffer could be allocated. -/
def serverStartVideo (mallocOk : Bool) (s : Source UInt8 SocketSignal) : Option VideoSocket :=
  let dummy := recvAll 1 s
  let devname := recvAll 64 dummy.rest
  let codecDim := recvAll 12 devname.rest
  let sessionHdr := recvAll 12 codecDim.rest
  if dummy.stop = none ∧ devname.stop = none ∧ codecDim.stop = none ∧ sessionHdr.stop = none then
    some {
      codecId := read32be codecDim.got
      width := read32be (codecDim.got.drop 4)
      height := read32be (codecDim.got.drop 8)
      pending := if isSession sessionHdr.got ∨ mallocOk = false then [] else sessionHdr.got
      fd := sessionHdr.rest }
  else none

/-! ## `video_socket_read_packet` -/

/-- `recv_all_pending`: the pending bytes first, then the socket. -/
def recvAllPending (sock : VideoSocket) (len : ℕ) : List UInt8 × Option ℤ × VideoSocket :=
  let taken := sock.pending.take len
  let f := recvAll (len - taken.length) sock.fd
  (taken ++ f.got, f.stop, { sock with pending := sock.pending.drop len, fd := f.rest })

/-- The result of a call: whether it succeeded, and the bytes at `*data` (none for a null pointer).
-/
structure ReadPacket where
  ok : Bool
  data : List UInt8
  sock : VideoSocket

/-- `video_socket_read_packet`; `mallocOk` tells whether the payload buffer could be allocated. -/
def videoSocketReadPacket (mallocOk : Bool) (sock : VideoSocket) : ReadPacket :=
  let h := recvAllPending sock 12
  let sock := h.2.2
  if h.2.1 ≠ none then ⟨false, [], sock⟩
  else if isSession h.1 then
    let w := read32be (h.1.drop 4)
    let ht := read32be (h.1.drop 8)
    ⟨true, [], if 0 < w ∧ 0 < ht then { sock with width := w, height := ht } else sock⟩
  else
    let packetSize := read32be (h.1.drop 8)
    if packetSize = 0 then ⟨true, [], sock⟩
    else if 10 * 1024 * 1024 < packetSize then ⟨false, [], sock⟩
    else if mallocOk = false then ⟨false, [], sock⟩
    else
      let p := recvAllPending sock packetSize.toNat
      if p.2.1 ≠ none then ⟨false, [], p.2.2⟩ else ⟨true, p.1, p.2.2⟩

/-- The bytes that are left to read, with the pending ones. -/
def VideoSocket.content (sock : VideoSocket) : List UInt8 :=
  sock.pending ++ SegStream.content sock.fd

/-- The socket brings data and would-blocks only. -/
def VideoSocket.Live (s : Source UInt8 SocketSignal) : Prop := ∀ e, .signal e ∈ s → e = .wouldBlock

/-! ## Reading from a live socket -/

/-- `recv_all` brings exactly the bytes at the head of the content. -/
theorem recvAll_of_live {s : Source UInt8 SocketSignal} (hs : VideoSocket.Live s)
    {xs t : List UInt8} (hc : content s = xs ++ t) :
    (recvAll xs.length s).stop = none ∧ (recvAll xs.length s).got = xs ∧
      content (recvAll xs.length s).rest = t := by
  have hstops : stops recvAllReact s = [] := by
    apply stops_eq_nil
    intro e he
    rw [hs e he]
    rfl
  have hfull : (recvAll xs.length s).stop = none :=
    readExact_full (by simp [hc]) (by simp [hstops])
  exact ⟨hfull, readExact_append_of_full hc hfull⟩

theorem live_rest {s : Source UInt8 SocketSignal} (hs : VideoSocket.Live s) (n : ℕ) :
    VideoSocket.Live (recvAll n s).rest :=
  fun e he => hs e (signal_mem_of_mem_rest he)

/-- The reads of `server_start` succeed on a stream that is long enough; the twelve bytes after the
codec block are kept unless they are a session header. -/
theorem serverStartVideo_of_live (mallocOk : Bool) {s : Source UInt8 SocketSignal}
    (hs : VideoSocket.Live s) {metadata hdr t : List UInt8} (hm : metadata.length = 77)
    (hh : hdr.length = 12) (hc : content s = metadata ++ (hdr ++ t)) :
    ∃ v, serverStartVideo mallocOk s = some v ∧
      v.pending = (if isSession hdr ∨ mallocOk = false then [] else hdr) ∧ content v.fd = t ∧
        ∀ e, .signal e ∈ v.fd → .signal e ∈ s := by
  have hsplit : metadata = metadata.take 1 ++ ((metadata.drop 1).take 64 ++ metadata.drop 65) := by
    rw [show metadata.drop 65 = (metadata.drop 1).drop 64 by rw [List.drop_drop],
      List.take_append_drop, List.take_append_drop]
  have h₁ : (metadata.take 1).length = 1 := by simp [hm]
  have h₂ : ((metadata.drop 1).take 64).length = 64 := by simp [hm]
  have h₃ : (metadata.drop 65).length = 12 := by simp [hm]
  rw [hsplit] at hc
  simp only [List.append_assoc] at hc
  obtain ⟨hd, -, hdr₁⟩ := recvAll_of_live hs hc
  rw [h₁] at hd hdr₁
  obtain ⟨hn, -, hdr₂⟩ := recvAll_of_live (live_rest hs 1) hdr₁
  rw [h₂] at hn hdr₂
  obtain ⟨hcd, -, hdr₃⟩ := recvAll_of_live (live_rest (live_rest hs 1) 64) hdr₂
  rw [h₃] at hcd hdr₃
  obtain ⟨hse, hgot, hdr₄⟩ := recvAll_of_live (live_rest (live_rest (live_rest hs 1) 64) 12) hdr₃
  rw [hh] at hse hgot hdr₄
  refine ⟨_, if_pos ⟨hd, hn, hcd, hse⟩, by simp only [hgot], hdr₄, fun e he => ?_⟩
  exact signal_mem_of_mem_rest (signal_mem_of_mem_rest (signal_mem_of_mem_rest
    (signal_mem_of_mem_rest he)))

/-- `recv_all_pending` brings the bytes at the head of what is left, pending bytes included. -/
theorem recvAllPending_of_live {sock : VideoSocket} (hs : VideoSocket.Live sock.fd)
    {xs t : List UInt8} (hc : sock.content = xs ++ t) :
    ∃ sock', recvAllPending sock xs.length = (xs, none, sock') ∧ sock'.content = t ∧
      VideoSocket.Live sock'.fd := by
  have htake : (sock.pending.take xs.length).length = min xs.length sock.pending.length :=
    List.length_take
  have hlen := congrArg List.length hc
  rw [VideoSocket.content, List.length_append, List.length_append] at hlen
  set n := xs.length - (sock.pending.take xs.length).length with hn
  have hfull : (recvAll n sock.fd).stop = none := by
    refine readExact_full (by omega) ?_
    rw [stops_eq_nil fun e he => by rw [hs e he]; rfl]
    simp
  have hsub : n = xs.length - sock.pending.length := by omega
  have hgot : sock.pending.take xs.length ++ (recvAll n sock.fd).got = xs := by
    rw [recvAll, readExact_got_of_full hfull, hsub, ← List.take_append, ← VideoSocket.content, hc,
      List.take_left]
  have hrest : sock.pending.drop xs.length ++ content (recvAll n sock.fd).rest = t := by
    rw [recvAll, readExact_rest_of_full hfull, hsub, ← List.drop_append, ← VideoSocket.content, hc,
      List.drop_left]
  refine ⟨{ sock with pending := sock.pending.drop xs.length, fd := (recvAll n sock.fd).rest }, ?_,
    hrest, live_rest hs n⟩
  rw [recvAllPending, ← hn, hgot, hfull]

/-! ## Packets as the reader sees them -/

theorem and_0x80_ne_zero_iff (b : UInt8) : b &&& 0x80 ≠ 0 ↔ 128 ≤ b.toNat := by
  have hb := b.toNat_lt
  rw [ne_eq, ← UInt8.toNat_inj, UInt8.toNat_and]
  have h128 : (0x80 : UInt8).toNat = 2 ^ 7 := rfl
  rw [h128, Nat.and_two_pow, Nat.testBit_eq_decide_div_mod_eq]
  by_cases h : b.toNat / 2 ^ 7 % 2 = 1 <;> simp <;> omega

theorem isSession_header (p : VideoPacket) (t : List UInt8) :
    isSession (p.header ++ t) = match p with
      | .session _ _ _ _ => true
      | .media _ _ _ _ => false := by
  cases p with
  | session flags width height marked =>
    have h := UInt32.le_iff_toNat_le.1 marked
    have hlt := flags.toNat_lt
    have hbyte : ((flags >>> 24).toUInt8).toNat = flags.toNat / 2 ^ 24 % 256 := by
      simp [UInt32.toNat_shiftRight, Nat.shiftRight_eq_div_pow]
    refine decide_eq_true ((and_0x80_ne_zero_iff _).2 ?_)
    show 128 ≤ ((flags >>> 24).toUInt8).toNat
    rw [hbyte]
    change 2147483648 ≤ flags.toNat at h
    omega
  | media ptsFlags payload unmarked fits =>
    have h := UInt64.lt_iff_toNat_lt.1 unmarked
    have hbyte : (((ptsFlags >>> 32).toUInt32 >>> 24).toUInt8).toNat =
        ptsFlags.toNat / 2 ^ 32 / 2 ^ 24 % 256 := by
      have hlt := ptsFlags.toNat_lt
      simp [UInt32.toNat_shiftRight, UInt64.toNat_shiftRight, Nat.shiftRight_eq_div_pow]
      omega
    refine decide_eq_false (not_not.2 ?_)
    have hlow : ¬ 128 ≤ (((ptsFlags >>> 32).toUInt32 >>> 24).toUInt8).toNat := by
      rw [hbyte]
      change ptsFlags.toNat < 9223372036854775808 at h
      omega
    exact not_not.1 fun hne => hlow ((and_0x80_ne_zero_iff _).1 hne)

/-- A call takes the packet at the head of what is left, and brings its payload. -/
theorem videoSocketReadPacket_of_live {sock : VideoSocket} (hs : VideoSocket.Live sock.fd)
    {p : VideoPacket} (hsmall : p.payload.length ≤ 10 * 1024 * 1024) {t : List UInt8}
    (hc : sock.content = p.toBytes ++ t) :
    ∃ sock', videoSocketReadPacket true sock = ⟨true, p.payload, sock'⟩ ∧ sock'.content = t ∧
      VideoSocket.Live sock'.fd := by
  rw [VideoPacket.toBytes, List.append_assoc] at hc
  obtain ⟨sock₁, hread, hc₁, hs₁⟩ := recvAllPending_of_live hs hc
  rw [VideoPacket.length_header] at hread
  have hsession := isSession_header p []
  rw [List.append_nil] at hsession
  simp only [videoSocketReadPacket, hread, ne_eq, not_true_eq_false, if_false, hsession]
  cases p with
  | session flags width height marked =>
    simp only [if_true]
    split_ifs
    · exact ⟨_, rfl, hc₁, hs₁⟩
    · exact ⟨_, rfl, hc₁, hs₁⟩
  | media ptsFlags payload unmarked fits =>
    simp only [VideoPacket.payload] at hc₁ hsmall ⊢
    have hsize : read32be ((VideoPacket.media ptsFlags payload unmarked fits).header.drop 8) =
        UInt32.ofNat payload.length := read32be_write32be _ []
    have hnat : (UInt32.ofNat payload.length).toNat = payload.length :=
      Nat.mod_eq_of_lt (by simpa using fits)
    simp only [hsize, Bool.false_eq_true, if_false]
    by_cases hz : payload = []
    · subst hz
      exact ⟨sock₁, by simp, by simpa using hc₁, hs₁⟩
    · have hne : UInt32.ofNat payload.length ≠ 0 := by
        intro h
        rw [h] at hnat
        exact hz (List.eq_nil_of_length_eq_zero hnat.symm)
      have hle : ¬ 10 * 1024 * 1024 < UInt32.ofNat payload.length := by
        rw [UInt32.lt_iff_toNat_lt, hnat]
        exact not_lt.2 hsmall
      obtain ⟨sock₂, hread₂, hc₂, hs₂⟩ := recvAllPending_of_live hs₁ hc₁
      refine ⟨sock₂, ?_, hc₂, hs₂⟩
      simp only [if_neg hne, if_neg hle, hnat, hread₂, Bool.true_eq_false, if_false,
        not_true_eq_false]

/-- The data of `n` calls of `video_socket_read_packet`, as long as they succeed. -/
def readPackets : ℕ → VideoSocket → List (List UInt8)
  | 0, _ => []
  | n + 1, sock =>
      let r := videoSocketReadPacket true sock
      if r.ok then r.data :: readPackets n r.sock else []

/-- After `server_start` the packet reader brings the payloads of all packets, however their first
twelve bytes were left. -/
theorem readPackets_payload {packets : List VideoPacket}
    (hsmall : ∀ p ∈ packets, p.payload.length ≤ 10 * 1024 * 1024) {sock : VideoSocket}
    (hs : VideoSocket.Live sock.fd) (hc : sock.content = packets.flatMap VideoPacket.toBytes) :
    readPackets packets.length sock = packets.map VideoPacket.payload := by
  induction packets generalizing sock with
  | nil => rfl
  | cons p ps ih =>
    obtain ⟨hp, hps⟩ := List.forall_mem_cons.1 hsmall
    rw [List.flatMap_cons] at hc
    obtain ⟨sock', hread, hc', hs'⟩ := videoSocketReadPacket_of_live hs hp hc
    simp only [List.length_cons, readPackets, hread, if_true, List.map_cons, ih hps hs' hc']

end Autoscrcpy
