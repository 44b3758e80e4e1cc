import Autoscrcpy.Device.VideoSocket

/-!
# The video thread

`video_thread_func` hands what `recv` brings to the decoder as it is: it does not use
`video_socket_read_packet` and does not look at `pending`. `decoderInput_eq_iff`: it passes the
media payloads, and nothing else, only when the stream is a single packet, whose header
`server_start` has taken off. `readPackets_after_server_start` is the same stream through the
packet reader.
-/

namespace Autoscrcpy

open SegStream

/-- The buffers that `video_thread_func` passes to `video_decoder_decode` until `recv` fails or the
stream ends: what each `recv` into 128 KiB brings. -/
def videoThreadFunc (sock : VideoSocket) : List (List UInt8) := readChunks (128 * 1024 - 1) sock.fd

/-- Everything that the decoder is given. -/
def decoderInput (sock : VideoSocket) : List UInt8 := (videoThreadFunc sock).flatten

/-- A stream of packets loses its first header to `server_start`; the decoder gets all the rest. -/
theorem decoderInput_of_packets (mallocOk : Bool) {metadata : List UInt8}
    (hm : metadata.length = 77) {p : VideoPacket} {ps : List VideoPacket}
    {s : Source UInt8 SocketSignal} (hs : ∀ e, .signal e ∉ s)
    (hc : content s = metadata ++ (p :: ps).flatMap VideoPacket.toBytes) :
    ∃ sock, serverStartVideo mallocOk s = some sock ∧
      decoderInput sock = p.payload ++ ps.flatMap VideoPacket.toBytes := by
  rw [List.flatMap_cons, VideoPacket.toBytes, List.append_assoc] at hc
  obtain ⟨sock, hstart, -, hrest, hsig⟩ := serverStartVideo_of_live mallocOk
    (fun e he => absurd he (hs e)) hm p.length_header hc
  refine ⟨sock, hstart, ?_⟩
  rw [decoderInput, videoThreadFunc, flatten_readChunks _ fun e he => hs e (hsig e he), hrest]

/-- For every stream of packets behind the metadata, every cut into `recv` chunks, and however the
first twelve bytes are left, the decoder is given exactly the media payloads if and only if the
stream is one packet. -/
theorem decoderInput_eq_iff (mallocOk : Bool) {metadata : List UInt8} (hm : metadata.length = 77)
    {packets : List VideoPacket} (hne : packets ≠ []) {s : Source UInt8 SocketSignal}
    (hs : ∀ e, .signal e ∉ s)
    (hc : content s = metadata ++ packets.flatMap VideoPacket.toBytes) :
    ∃ sock, serverStartVideo mallocOk s = some sock ∧
      (decoderInput sock = packets.flatMap VideoPacket.payload ↔ packets.length = 1) := by
  obtain ⟨p, ps, rfl⟩ := List.exists_cons_of_ne_nil hne
  obtain ⟨sock, hstart, hinput⟩ := decoderInput_of_packets mallocOk hm hs hc
  refine ⟨sock, hstart, ?_⟩
  rw [hinput, List.flatMap_cons, List.append_right_inj, List.length_cons]
  constructor
  · intro h
    cases ps with
    | nil => rfl
    | cons q qs =>
      -- Every header that is passed on makes the input longer than the payloads.
      have hle (l : List VideoPacket) :
          (l.flatMap VideoPacket.payload).length ≤ (l.flatMap VideoPacket.toBytes).length := by
        induction l with
        | nil => simp
        | cons x l ih =>
          simp only [List.flatMap_cons, List.length_append, VideoPacket.length_toBytes]
          omega
      have hlen := congrArg List.length h
      have hqs := hle qs
      simp only [List.flatMap_cons, List.length_append, VideoPacket.length_toBytes] at hlen
      omega
  · intro h
    have hps : ps = [] := List.eq_nil_of_length_eq_zero (by omega)
    rw [hps]
    rfl

/-- The packet reader, on the state that `server_start` leaves, brings exactly the media payloads.
-/
theorem readPackets_after_server_start {metadata : List UInt8} (hm : metadata.length = 77)
    {packets : List VideoPacket} (hne : packets ≠ [])
    (hsmall : ∀ p ∈ packets, p.payload.length ≤ 10 * 1024 * 1024)
    {s : Source UInt8 SocketSignal} (hs : VideoSocket.Live s)
    (hc : content s = metadata ++ packets.flatMap VideoPacket.toBytes) :
    ∃ sock n, serverStartVideo true s = some sock ∧
      (readPackets n sock).flatten = packets.flatMap VideoPacket.payload := by
  obtain ⟨p, ps, rfl⟩ := List.exists_cons_of_ne_nil hne
  obtain ⟨hp, hps⟩ := List.forall_mem_cons.1 hsmall
  have hc' := hc
  rw [List.flatMap_cons, VideoPacket.toBytes, List.append_assoc] at hc'
  obtain ⟨sock, hstart, hpending, hrest, hsig⟩ := serverStartVideo_of_live true hs hm
    p.length_header hc'
  have hlive : VideoSocket.Live sock.fd := fun e he => hs e (hsig e he)
  have hsession := isSession_header p []
  rw [List.append_nil] at hsession
  cases p with
  | session flags width height marked =>
    -- The header was a packet of its own, without payload.
    have hleft : sock.content = ps.flatMap VideoPacket.toBytes := by
      rw [VideoSocket.content, hpending, hrest, if_pos (Or.inl hsession)]
      rfl
    refine ⟨sock, ps.length, hstart, ?_⟩
    rw [readPackets_payload hps hlive hleft, List.flatMap_cons, List.flatMap_def]
    rfl
  | media ptsFlags payload unmarked fits =>
    set q := VideoPacket.media ptsFlags payload unmarked fits
    have hleft : sock.content = (q :: ps).flatMap VideoPacket.toBytes := by
      rw [VideoSocket.content, hpending, hrest, if_neg (by simp [hsession]), List.flatMap_cons,
        VideoPacket.toBytes, List.append_assoc]
    refine ⟨sock, (q :: ps).length, hstart, ?_⟩
    rw [readPackets_payload hsmall hlive hleft, List.flatMap_def]

/-- A session packet and a media packet of one byte. -/
def sessionThenMedia : List VideoPacket :=
  [.session 0x80000000 1920 1080 (by decide), .media 5 [7] (by decide) (by decide)]

/-- The packets behind the metadata, in one piece. -/
def videoStream (packets : List VideoPacket) : Source UInt8 SocketSignal :=
  unread (List.replicate 77 0 ++ packets.flatMap VideoPacket.toBytes) []

theorem no_signal_videoStream (packets : List VideoPacket) : ∀ e, .signal e ∉ videoStream packets :=
  fun e he => by simpa using mem_of_mem_unread he

theorem content_videoStream (packets : List VideoPacket) :
    content (videoStream packets) =
      List.replicate 77 0 ++ packets.flatMap VideoPacket.toBytes := by
  simp [videoStream]

theorem decoderInput_eq_iff_media :
    ∃ sock, serverStartVideo true (videoStream sessionThenMedia.tail) = some sock ∧
      decoderInput sock = [7] := by
  obtain ⟨sock, hstart, hiff⟩ := decoderInput_eq_iff true (List.length_replicate ..)
    (show sessionThenMedia.tail ≠ [] by simp [sessionThenMedia])
    (no_signal_videoStream _) (content_videoStream _)
  exact ⟨sock, hstart, hiff.2 rfl⟩

/-- The header of the media packet goes to the decoder. -/
theorem decoderInput_sessionThenMedia :
    ∃ sock, serverStartVideo true (videoStream sessionThenMedia) = some sock ∧
      decoderInput sock = [0, 0, 0, 0, 0, 0, 0, 5, 0, 0, 0, 1, 7] ∧
      sessionThenMedia.flatMap VideoPacket.payload = [7] := by
  obtain ⟨sock, hstart, hinput⟩ := decoderInput_of_packets true (List.length_replicate ..)
    (no_signal_videoStream _) (content_videoStream sessionThenMedia)
  exact ⟨sock, hstart, hinput.trans (by decide), rfl⟩

end Autoscrcpy
