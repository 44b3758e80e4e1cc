import Autoscrcpy.Device.PacketReads
import Autoscrcpy.Lib.Heap

/-!
# The audio socket

`audio_socket_read_metadata` takes the codec id from the head of the audio stream, and
`audio_socket_read_packet` a packet: a header of twelve bytes with the time and the size, and a
payload of this size in a block of its own. On a stream of packets the calls bring the payloads in
order, wherever the stream is cut (`parseAudioPacket_eq`, `parseAudioPacket_toBytes`).
-/

namespace Autoscrcpy

open SegStream

/-! ## Packets -/

/-- A packet of the audio stream, no larger than the reader takes. -/
structure AudioPacket where
  pts : UInt64
  payload : List UInt8
  small : payload.length ≤ 1024 * 1024

namespace AudioPacket

def toBytes (p : AudioPacket) : List UInt8 :=
  write64be p.pts ++ (write32be (UInt32.ofNat p.payload.length) ++ p.payload)

@[simp] theorem length_toBytes (p : AudioPacket) : p.toBytes.length = 12 + p.payload.length := by
  simp [toBytes, write64be, write32be]
  omega

end AudioPacket

/-! ## `audio_socket_read_metadata` -/

/-- `audio_socket_t`; `fd` holds what is left to read from the socket. -/
structure AudioSocket where
  codecId : UInt32
  sampleRate : UInt32
  channels : UInt32
  fd : Source UInt8 SocketSignal

/-- `audio_socket_init`. -/
def audioSocketInit (fd : Source UInt8 SocketSignal) : AudioSocket := ⟨0, 0, 0, fd⟩

/-- `audio_socket_read_metadata`; its loop is that of `recv_all`. -/
def audioSocketReadMetadata (sock : AudioSocket) : Bool × AudioSocket :=
  let f := recvAll 4 sock.fd
  if f.stop ≠ none then (false, { sock with fd := f.rest })
  else
    let sock := { sock with codecId := read32be f.got, fd := f.rest }
    if sock.codecId = 0 then (false, sock)
    else if sock.codecId = 1 then (false, sock)
    else (true, { sock with sampleRate := 48000, channels := 2 })

/-! ## `audio_socket_read_packet` -/

/-- What a call did: the block at `*data` and the bytes in it (their number is `*size`) unless it
failed, the socket, and the heap. -/
structure AudioRead where
  packet : Option (ℕ × List UInt8)
  sock : AudioSocket
  heap : Heap

/-- `MAX_AUDIO_PACKET_SIZE`. -/
def MAX_AUDIO_PACKET_SIZE : UInt32 := 1024 * 1024

/-- `audio_socket_read_packet`; its loops are those of `recv_all`, and `mallocOk` tells whether the
payload buffer could be allocated. -/
def audioSocketReadPacket (mallocOk : Bool) (sock : AudioSocket) (h : Heap) : AudioRead :=
  let header := recvAll 12 sock.fd
  if header.stop ≠ none then ⟨none, { sock with fd := header.rest }, h⟩
  else
    let packetSize := read32be (header.got.drop 8)
    if MAX_AUDIO_PACKET_SIZE < packetSize then ⟨none, { sock with fd := header.rest }, h⟩
    else if mallocOk = false then ⟨none, { sock with fd := header.rest }, h⟩
    else
      let data := h.next
      let payload := recvAll packetSize.toNat header.rest
      -- the parts that arrive are stored into the block, also when the rest does not come
      let h := if payload.got = [] then h.malloc else h.malloc.use data
      if payload.stop ≠ none then ⟨none, { sock with fd := payload.rest }, h.free data⟩
      else ⟨some (data, payload.got), { sock with fd := payload.rest }, h⟩

/-- A call keeps the blocks of its caller, and gives it the block of the packet. -/
theorem audioSocketReadPacket_owns (mallocOk : Bool) (sock : AudioSocket) {h : Heap}
    {held : List ℕ} (ho : h.Owns held) :
    (audioSocketReadPacket mallocOk sock h).heap.Owns
      ((audioSocketReadPacket mallocOk sock h).packet.toList.map Prod.fst ++ held) := by
  have huse : h.malloc.use h.next = h.malloc := ho.malloc.use (List.mem_cons_self ..)
  simp only [audioSocketReadPacket, huse, ite_self]
  split_ifs
  · exact ho
  · exact ho
  · exact ho
  · exact ho.malloc.free
  · exact ho.malloc

/-! ## The packets of a stream -/

/-- The packet at the head of a byte string and the bytes behind it; `allocated` tells whether there
is memory for the payload. -/
def parseAudioPacket (allocated : Bool) (bytes : List UInt8) : Option (List UInt8) × List UInt8 :=
  if bytes.length < 12 then (none, [])
  else
    let size := (read32be (bytes.drop 8)).toNat
    if 1024 * 1024 < size ∨ allocated = false then (none, bytes.drop 12)
    else if bytes.length < 12 + size then (none, [])
    else (some ((bytes.drop 12).take size), bytes.drop (12 + size))

/-- A call takes the packet at the head of the bytes that are left, however the socket brings them,
and leaves the bytes behind it. -/
theorem parseAudioPacket_eq {sock : AudioSocket} (hs : StopsAtEnd recvAllReact sock.fd)
    (mallocOk : Bool) (h : Heap) :
    parseAudioPacket mallocOk (content sock.fd) =
        ((audioSocketReadPacket mallocOk sock h).packet.map Prod.snd,
          content (audioSocketReadPacket mallocOk sock h).sock.fd) ∧
      StopsAtEnd recvAllReact (audioSocketReadPacket mallocOk sock h).sock.fd := by
  obtain ⟨hstop, hgot, hrest, hend⟩ := readExact_of_stopsAtEnd (-1 : ℤ) hs 12
  simp only [audioSocketReadPacket, parseAudioPacket, recvAll, hgot]
  by_cases hshort : (content sock.fd).length < 12
  · have hne : (readExact recvAllReact (-1) 12 sock.fd).stop ≠ none := fun hn => by
      have := hstop.1 hn
      omega
    rw [List.drop_eq_nil_of_le (by omega)] at hrest
    simp only [if_pos hshort, if_pos hne, hrest, hend, Option.map_none, and_self]
  have hnone : (readExact recvAllReact (-1) 12 sock.fd).stop = none := hstop.2 (by omega)
  simp only [hnone, ne_eq, not_true_eq_false, if_false, if_neg hshort,
    read32be_drop_take (show 8 + 4 ≤ 12 by omega)]
  set size := read32be ((content sock.fd).drop 8)
  have hlarge : 1024 * 1024 < size.toNat ↔ MAX_AUDIO_PACKET_SIZE < size :=
    (UInt32.lt_iff_toNat_lt (a := MAX_AUDIO_PACKET_SIZE)).symm
  obtain ⟨hstop₂, hgot₂, hrest₂, hend₂⟩ := readExact_of_stopsAtEnd (-1 : ℤ) hend size.toNat
  rw [hrest, List.length_drop] at hstop₂
  rw [hrest] at hgot₂
  rw [hrest, List.drop_drop] at hrest₂
  simp only [hlarge]
  by_cases hbig : MAX_AUDIO_PACKET_SIZE < size
  · simp only [hbig, true_or, if_true, hrest, hend, Option.map_none, and_self]
  cases mallocOk with
  | false => simp only [if_neg hbig, or_true, if_true, hrest, hend, Option.map_none, and_self]
  | true =>
    simp only [hbig, Bool.true_eq_false, or_self, if_false]
    by_cases hcut : (content sock.fd).length < 12 + size.toNat
    · have hne : (readExact recvAllReact (-1) size.toNat
          (readExact recvAllReact (-1) 12 sock.fd).rest).stop ≠ none := fun hn => by
        have := hstop₂.1 hn
        omega
      rw [List.drop_eq_nil_of_le (by omega)] at hrest₂
      simp only [if_pos hcut, if_pos hne, hrest₂, hend₂, Option.map_none, and_self]
    · have hnone₂ : (readExact recvAllReact (-1) size.toNat
          (readExact recvAllReact (-1) 12 sock.fd).rest).stop = none := hstop₂.2 (by omega)
      simp only [if_neg hcut, hnone₂, not_true_eq_false, if_false, hgot₂, hrest₂, hend₂,
        Option.map_some, and_self]

/-- The payload of a packet at the head of a byte string. -/
theorem parseAudioPacket_toBytes (p : AudioPacket) (t : List UInt8) :
    parseAudioPacket true (p.toBytes ++ t) = (some p.payload, t) := by
  have hsize : (read32be ((p.toBytes ++ t).drop 8)).toNat = p.payload.length := by
    rw [AudioPacket.toBytes, List.append_assoc, List.append_assoc]
    have hdrop : (write64be p.pts ++ (write32be (UInt32.ofNat p.payload.length) ++
        (p.payload ++ t))).drop 8 =
        write32be (UInt32.ofNat p.payload.length) ++ (p.payload ++ t) := rfl
    rw [hdrop, read32be_write32be]
    have := p.small
    exact Nat.mod_eq_of_lt (show p.payload.length < 2 ^ 32 by omega)
  have hpayload : (p.toBytes ++ t).drop 12 = p.payload ++ t := rfl
  have hrest : (p.toBytes ++ t).drop (12 + p.payload.length) = t := List.drop_left' (by simp)
  have hlen : (p.toBytes ++ t).length = 12 + p.payload.length + t.length := by simp
  have hsmall := p.small
  rw [parseAudioPacket]
  simp only [hsize, hlen, hpayload, hrest, Bool.true_eq_false, or_false, List.take_left]
  rw [if_neg (by omega), if_neg (by omega), if_neg (by omega)]

/-- The codec id is taken off the head of the stream, and the rest is left. -/
theorem audioSocketReadMetadata_of_stopsAtEnd (sock : AudioSocket)
    (hs : StopsAtEnd recvAllReact sock.fd) {codecId : UInt32} {t : List UInt8}
    (hc : content sock.fd = write32be codecId ++ t) :
    (audioSocketReadMetadata sock).1 = (codecId ≠ 0 ∧ codecId ≠ 1 : Bool) ∧
      (audioSocketReadMetadata sock).2.codecId = codecId ∧
      content (audioSocketReadMetadata sock).2.fd = t ∧
      StopsAtEnd recvAllReact (audioSocketReadMetadata sock).2.fd := by
  obtain ⟨hstop, hgot, hrest, hend⟩ := readExact_of_stopsAtEnd (-1 : ℤ) hs 4
  have hnone : (readExact recvAllReact (-1) 4 sock.fd).stop = none :=
    hstop.2 (by simp [hc, write32be])
  have htake : (content sock.fd).take 4 = write32be codecId := by rw [hc]; rfl
  have hdrop : (content sock.fd).drop 4 = t := by rw [hc]; rfl
  have hread : read32be (write32be codecId) = codecId := by
    have := read32be_write32be codecId []
    rwa [List.append_nil] at this
  simp only [audioSocketReadMetadata, recvAll, hnone, ne_eq, not_true_eq_false, if_false, hgot,
    htake, hread]
  rw [hdrop] at hrest
  split_ifs with h0 h1
  · exact ⟨by simp [h0], rfl, hrest, hend⟩
  · exact ⟨by simp [h1], rfl, hrest, hend⟩
  · exact ⟨by simp [h0, h1], rfl, hrest, hend⟩

end Autoscrcpy
