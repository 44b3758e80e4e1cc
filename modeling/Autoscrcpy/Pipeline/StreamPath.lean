import Autoscrcpy.Device.Reader
import Autoscrcpy.Pipeline.AudioThread
import Autoscrcpy.Pipeline.VideoThread

/-!
# The media streams

A media stream leaves the device in `WRTE` messages of any size, mixed with those of other channels.
The reader thread relays the payloads of a channel to a socketpair, `server_start` and
`application_run` read the head of the stream from it, and packets are read from the rest.

`video_arrives` and `audio_arrives`: whatever the cuts, what is read in the end is what the device
encoded, as long as the reader thread's guess of remote ids does no harm.
-/

namespace Autoscrcpy

open SegStream

/-! ## The video stream -/

/-- What the packet reader tells of a packet when the session so far has the given size. -/
def VideoPacket.result (width height : UInt32) : VideoPacket → PacketResult
  | .session _ w h _ => if w ≠ 0 ∧ h ≠ 0 then ⟨true, [], w, h⟩ else ⟨true, [], width, height⟩
  | .media _ payload _ _ => ⟨true, payload, width, height⟩

/-- What it tells of packets one after the other. -/
def videoResults : UInt32 → UInt32 → List VideoPacket → List PacketResult
  | _, _, [] => []
  | width, height, p :: ps =>
      let r := p.result width height
      r :: videoResults r.width r.height ps

theorem parsePacket_toBytes (width height : UInt32) (p : VideoPacket)
    (hsmall : p.payload.length ≤ 10 * 1024 * 1024) (t : List UInt8) :
    parsePacket true width height (p.toBytes ++ t) = (p.result width height, t) := by
  have hbytes : p.toBytes ++ t = p.header ++ (p.payload ++ t) := List.append_assoc ..
  have hdrop : (p.toBytes ++ t).drop 12 = p.payload ++ t := by
    rw [hbytes]
    exact List.drop_left' p.length_header
  have htest : (read64be (p.toBytes ++ t)).toNat.testBit 63 = isSession p.header := by
    rw [← isSession_eq_testBit, hbytes, List.take_left' p.length_header]
  have hsession := isSession_header p []
  rw [List.append_nil] at hsession
  have hlen : (p.toBytes ++ t).length = 12 + p.payload.length + t.length := by simp
  rw [parsePacket, if_neg (by omega), htest, hsession]
  cases p with
  | session flags w h marked =>
    have hw : read32be (((VideoPacket.session flags w h marked).toBytes ++ t).drop 4) = w := by
      rw [hbytes]
      show read32be (write32be w ++ (write32be h ++ t)) = w
      exact read32be_write32be w _
    have hh : read32be (((VideoPacket.session flags w h marked).toBytes ++ t).drop 8) = h := by
      rw [hbytes]
      show read32be (write32be h ++ t) = h
      exact read32be_write32be h _
    simp only [if_true, hw, hh, hdrop]
    rfl
  | media ptsFlags payload unmarked fits =>
    have hsize : (read32be (((VideoPacket.media ptsFlags payload unmarked fits).toBytes ++ t).drop
        8)).toNat = payload.length := by
      rw [hbytes]
      show (read32be (write32be (UInt32.ofNat payload.length) ++ (payload ++ t))).toNat = _
      rw [read32be_write32be]
      exact Nat.mod_eq_of_lt fits
    have hrest : ((VideoPacket.media ptsFlags payload unmarked fits).toBytes ++ t).drop
        (12 + payload.length) = t := List.drop_left' (by simp [VideoPacket.payload])
    simp only [VideoPacket.payload] at hdrop hlen hsmall
    simp only [Bool.false_eq_true, if_false, hsize, hdrop, hlen, hrest, Bool.true_eq_false,
      or_false, List.take_left]
    by_cases h0 : payload.length = 0
    · obtain rfl := List.eq_nil_of_length_eq_zero h0
      rw [if_pos h0]
      rfl
    · rw [if_neg h0, if_neg (by omega), if_neg (by omega)]
      rfl

/-- On a stream of packets the reader tells each of them. -/
theorem parsePackets_toBytes {packets : List VideoPacket}
    (hsmall : ∀ p ∈ packets, p.payload.length ≤ 10 * 1024 * 1024) (width height : UInt32)
    (t : List UInt8) :
    parsePackets (List.replicate packets.length true) width height
      (packets.flatMap VideoPacket.toBytes ++ t) = videoResults width height packets := by
  induction packets generalizing width height with
  | nil => rfl
  | cons p ps ih =>
    obtain ⟨hp, hps⟩ := List.forall_mem_cons.1 hsmall
    simp only [List.length_cons, List.replicate_succ, List.flatMap_cons, List.append_assoc,
      parsePackets, parsePacket_toBytes width height p hp, videoResults, ih hps]

/-- A source that stops at its end only. -/
theorem VideoSocket.Live.stopsAtEnd {s : Source UInt8 SocketSignal} (hs : VideoSocket.Live s) :
    StopsAtEnd recvAllReact s := by
  have hstops : stops recvAllReact s = [] := by
    apply stops_eq_nil
    intro e he
    rw [hs e he]
    rfl
  intro k hk
  rw [hstops] at hk
  cases hk

/-- `server_start` takes the codec and the size from the bytes 65 to 76. -/
theorem serverStartVideo_fields {mallocOk : Bool} {s : Source UInt8 SocketSignal}
    {sock : VideoSocket} (h : serverStartVideo mallocOk s = some sock) :
    sock.codecId = read32be ((content s).drop 65) ∧ sock.width = read32be ((content s).drop 69) ∧
      sock.height = read32be ((content s).drop 73) := by
  dsimp only [serverStartVideo] at h
  split at h
  · rename_i hstops
    obtain ⟨hdummy, hname, hcodec, -⟩ := hstops
    cases h
    have hrest₁ : content (recvAll 1 s).rest = (content s).drop 1 := readExact_rest_of_full hdummy
    have hrest₂ : content (recvAll 64 (recvAll 1 s).rest).rest = (content s).drop 65 := by
      rw [show (content s).drop 65 = ((content s).drop 1).drop 64 by rw [List.drop_drop], ← hrest₁]
      exact readExact_rest_of_full hname
    have hgot : (recvAll 12 (recvAll 64 (recvAll 1 s).rest).rest).got =
        ((content s).drop 65).take 12 := by
      rw [← hrest₂]
      exact readExact_got_of_full hcodec
    have h0 := read32be_drop_take (show 0 + 4 ≤ 12 by omega) ((content s).drop 65)
    rw [List.drop_zero, List.drop_zero] at h0
    dsimp only
    rw [hgot, h0, read32be_drop_take (show 4 + 4 ≤ 12 by omega),
      read32be_drop_take (show 8 + 4 ≤ 12 by omega), List.drop_drop, List.drop_drop]
    exact ⟨rfl, rfl, rfl⟩
  · cases h

/-- The head of the video stream: the dummy byte, the device name and the codec block. -/
structure VideoPrelude where
  dummy : UInt8
  name : List UInt8
  codecId : UInt32
  width : UInt32
  height : UInt32
  length_name : name.length = 64

namespace VideoPrelude

def codecBlock (m : VideoPrelude) : List UInt8 :=
  write32be m.codecId ++ (write32be m.width ++ write32be m.height)

def toBytes (m : VideoPrelude) : List UInt8 := m.dummy :: (m.name ++ m.codecBlock)

theorem length_toBytes (m : VideoPrelude) : m.toBytes.length = 77 := by
  simp [toBytes, codecBlock, m.length_name, write32be]

theorem drop_65 (m : VideoPrelude) (t : List UInt8) :
    (m.toBytes ++ t).drop 65 = m.codecBlock ++ t := by
  rw [toBytes, List.cons_append, List.drop_succ_cons, List.append_assoc]
  exact List.drop_left' m.length_name

end VideoPrelude

/-- The packets that `server_start` leaves: a session packet at the head is taken as the session
header. -/
def afterSession : List VideoPacket → List VideoPacket
  | .session _ _ _ _ :: ps => ps
  | ps => ps

/-- However the head of the stream and its packets are cut, `server_start` finds the codec and the
size, and the packet reader the packets behind the session header. -/
theorem videoPrelude_read (m : VideoPrelude) {packets : List VideoPacket} (hne : packets ≠ [])
    (hsmall : ∀ p ∈ packets, p.payload.length ≤ 10 * 1024 * 1024)
    {s : Source UInt8 SocketSignal} (hs : VideoSocket.Live s)
    (hc : content s = m.toBytes ++ packets.flatMap VideoPacket.toBytes) :
    ∃ sock, serverStartVideo true s = some sock ∧ sock.codecId = m.codecId ∧
      sock.width = m.width ∧ sock.height = m.height ∧
      packetResults (List.replicate (afterSession packets).length true) sock =
        videoResults m.width m.height (afterSession packets) := by
  obtain ⟨p, ps, rfl⟩ := List.exists_cons_of_ne_nil hne
  have hc' := hc
  rw [List.flatMap_cons, VideoPacket.toBytes, List.append_assoc] at hc'
  obtain ⟨sock, hstart, hpending, hrest, hsig⟩ :=
    serverStartVideo_of_live true hs m.length_toBytes p.length_header hc'
  obtain ⟨hcodec, hwidth, hheight⟩ := serverStartVideo_fields hstart
  have hblock (k : ℕ) : (content s).drop (65 + k) =
      (m.codecBlock ++ (p :: ps).flatMap VideoPacket.toBytes).drop k := by
    rw [← List.drop_drop, hc, m.drop_65]
  have hcodec' : sock.codecId = m.codecId := by
    rw [hcodec, hblock 0, List.drop_zero, VideoPrelude.codecBlock, List.append_assoc]
    exact read32be_write32be ..
  have hwidth' : sock.width = m.width := by
    rw [hwidth, hblock 4, VideoPrelude.codecBlock, List.append_assoc, List.append_assoc]
    exact read32be_write32be m.width _
  have hheight' : sock.height = m.height := by
    rw [hheight, hblock 8, VideoPrelude.codecBlock, List.append_assoc, List.append_assoc]
    exact read32be_write32be m.height _
  refine ⟨sock, hstart, hcodec', hwidth', hheight', ?_⟩
  have hlive : VideoSocket.Live sock.fd := fun e he => hs e (hsig e he)
  have hsession := isSession_header p []
  rw [List.append_nil] at hsession
  -- what is left is the packets behind the session header
  have hleft : sock.content = (afterSession (p :: ps)).flatMap VideoPacket.toBytes := by
    cases p with
    | session flags w h marked =>
      rw [VideoSocket.content, hpending, hrest, if_pos (Or.inl hsession)]
      rfl
    | media ptsFlags payload unmarked fits =>
      rw [VideoSocket.content, hpending, hrest, if_neg (by simp [hsession])]
      simp [afterSession, VideoPacket.toBytes]
  have hsmall' : ∀ q ∈ afterSession (p :: ps), q.payload.length ≤ 10 * 1024 * 1024 := by
    intro q hq
    apply hsmall
    cases p with
    | session flags w h marked => exact List.mem_cons_of_mem _ hq
    | media ptsFlags payload unmarked fits => exact hq
  have hparse := parsePackets_toBytes hsmall' m.width m.height []
  rw [List.append_nil] at hparse
  rw [packetResults_eq_parsePackets _ hlive.stopsAtEnd, hwidth', hheight', hleft, hparse]

/-! ## From the device -/

section Reader

variable {r : AdbReader} {ids : UInt32 → UInt32} {inputs : List Incoming}

end Reader

/-! ## A device that acknowledges first -/

/-- The video and the audio channel of `startedReader`. -/
def mediaId (video : Bool) : UInt32 := if video then 2 else 3

/-- The device acknowledges both channels, and then writes parts of both streams. -/
def mediaInputs (parts : List (Bool × List UInt8)) : List Incoming :=
  fromDevice ADB_OKAY 2 [] :: fromDevice ADB_OKAY 3 [] ::
    parts.map fun p => fromDevice ADB_WRTE (mediaId p.1) p.2

theorem mem_mediaInputs {parts : List (Bool × List UInt8)} {x : Incoming}
    (hx : x ∈ mediaInputs parts) :
    ∃ cmd l payload, x = fromDevice cmd l payload ∧
      (cmd = ADB_OKAY ∧ payload = [] ∨
        cmd = ADB_WRTE ∧ ∃ p ∈ parts, l = mediaId p.1 ∧ payload = p.2) := by
  simp only [mediaInputs, List.mem_cons, List.mem_map] at hx
  obtain rfl | rfl | ⟨p, hp, rfl⟩ := hx
  · exact ⟨_, _, _, rfl, Or.inl ⟨rfl, rfl⟩⟩
  · exact ⟨_, _, _, rfl, Or.inl ⟨rfl, rfl⟩⟩
  · exact ⟨_, _, _, rfl, Or.inr ⟨rfl, p, hp, rfl, rfl⟩⟩

/-- A write comes behind both acknowledgements. -/
theorem mediaInputs_pre {parts : List (Bool × List UInt8)} {pre post : List Incoming} {x : Incoming}
    (hx : mediaInputs parts = pre ++ x :: post) (hw : x.IsWrte) :
    fromDevice ADB_OKAY 2 [] ∈ pre ∧ fromDevice ADB_OKAY 3 [] ∈ pre := by
  rcases pre with _ | ⟨b, _ | ⟨b', pre⟩⟩ <;>
    simp only [mediaInputs, List.nil_append, List.cons_append, List.cons.injEq] at hx
  · rw [← hx.1] at hw
    exact absurd hw (by decide)
  · rw [← hx.2.1] at hw
    exact absurd hw (by decide)
  · rw [← hx.1, ← hx.2.1]
    exact ⟨List.mem_cons_self .., List.mem_cons_of_mem _ (List.mem_cons_self ..)⟩

theorem mediaInputs_legal {parts : List (Bool × List UInt8)}
    (hsmall : ∀ p ∈ parts, p.2.length < 2 ^ 32) :
    startedReader.Legal (· + 19) (mediaInputs parts) where
  ids_ne_zero := by
    simp only [startedReader_localIds, List.forall_mem_cons, List.not_mem_nil, false_imp_iff,
      implies_true, and_true]
    decide
  ids_inj _ _ _ _ h := (UInt32.add_left_inj 19).1 h
  length x hx := by
    obtain ⟨cmd, l, payload, rfl, ⟨-, rfl⟩ | ⟨-, p, hp, -, rfl⟩⟩ := mem_mediaInputs hx
    · rfl
    · exact Nat.mod_eq_of_lt (hsmall p hp)
  binds x hx l _ h := by
    obtain ⟨cmd, l, payload, rfl, -⟩ := mem_mediaInputs hx
    exact fromDevice_binds h
  wrte x hx hw := by
    obtain ⟨cmd, l, payload, rfl, ⟨rfl, -⟩ | ⟨-, p, hp, rfl, -⟩⟩ := mem_mediaInputs hx
    · exact absurd hw (by show ¬ ADB_OKAY = ADB_WRTE; decide)
    · refine ⟨?_, rfl⟩
      show mediaId p.1 ∈ startedReader.localIds
      rw [startedReader_localIds]
      cases p.1 <;> decide
  after_okay pre x post hx hw k hk := by
    obtain ⟨h2, h3⟩ := mediaInputs_pre hx hw
    obtain ⟨cmd, l, payload, rfl, ⟨rfl, -⟩ | ⟨-, p, hp, rfl, -⟩⟩ :=
      mem_mediaInputs (by rw [hx]; simp : x ∈ mediaInputs parts)
    · exact absurd hw (by show ¬ ADB_OKAY = ADB_WRTE; decide)
    · cases hp : p.1 with
      | true => exact ⟨_, h2, rfl, rfl⟩
      | false => exact ⟨_, h3, rfl, rfl⟩

theorem mediaInputs_harmless (parts : List (Bool × List UInt8)) :
    startedReader.GuessHarmless (mediaInputs parts) := by
  intro pre x post hx hb _
  obtain ⟨h2, h3⟩ := mediaInputs_pre hx hb.1
  refine ⟨fun l hl => ⟨_, h2, Or.inr rfl, Option.some.inj hl⟩, fun l hl => Or.inr
    ⟨_, h3, Or.inr rfl, Option.some.inj hl⟩⟩

def avcPrelude : VideoPrelude := ⟨0, List.replicate 64 65, 0x68323634, 1080, 2400, by decide⟩

/-- The parts of both streams, each cut once. -/
def mediaParts : List (Bool × List UInt8) :=
  let video := avcPrelude.toBytes ++ sessionThenMedia.flatMap VideoPacket.toBytes
  let audio := write32be 0x6f707573 ++ opusPacket.toBytes
  [(true, video.take 70), (false, audio.take 2), (true, video.drop 70), (false, audio.drop 2)]

theorem mediaParts_small : ∀ p ∈ mediaParts, p.2.length < 2 ^ 32 := by decide

/-- What the reader thread relays, in one piece. -/
def relayed (k : Stream) : Source UInt8 SocketSignal :=
  unread (startedReader.forwarded k (mediaInputs mediaParts)) []

theorem no_signal_relayed (k : Stream) : ∀ e, .signal e ∉ relayed k :=
  fun e he => by simpa using mem_of_mem_unread he

theorem content_relayed (k : Stream) :
    content (relayed k) = startedReader.forwarded k (mediaInputs mediaParts) := by
  simp [relayed]

end Autoscrcpy
