import Autoscrcpy.Device.AudioSocket
import Autoscrcpy.Lib.Runs

/-!
# The audio thread

`application_run` reads the metadata of the audio stream and sets up decoder and player;
`audio_thread_func` then reads packets, decodes them and copies the samples into the buffer of the
audio device, which plays on at its own pace.

Each packet reaches the decoder once and in order, however the stream is cut
(`audioThread_given`); whatever fails, every block is freed exactly once
(`audioThread_memory`); and what the device plays is, in order, what it was given: it is never given
more than it has room for, and samples are lost only for lack of room (`audioThread_heard`).
-/

namespace Autoscrcpy

open SegStream

/-! ## Setting up -/

/-- `audio_decoder_t` with an open codec context; `swr` tells whether there is a converter. -/
structure AudioDecoder where
  swr : Bool

/-- `audio_player_t`; `renderClient` tells whether its pointer is set. -/
structure AudioPlayer where
  renderClient : Bool
  bufferFrames : UInt32
  sampleRate : UInt32
  channels : UInt32

/-- What the codec library and the audio device answer while they are set up. `bufferSize` is none
when one of the calls of `audio_player_init` fails. -/
structure AudioStartEnv where
  findDecoder : Bool
  allocContext : Bool
  opens : Bool
  swrInit : Bool
  bufferSize : Option UInt32

/-- The codec ids of Opus, AAC and FLAC. -/
def audioCodecs : List UInt32 := [0x6f707573, 0x00616163, 0x666c6163]

/-- `audio_decoder_init`; a converter that cannot be set up is no failure. -/
def audioDecoderInit (env : AudioStartEnv) (codecId : UInt32) : Option AudioDecoder :=
  if codecId ∉ audioCodecs then none
  else if env.findDecoder ∧ env.allocContext ∧ env.opens then some ⟨env.swrInit⟩ else none

/-- `audio_player_init` on a zeroed player. -/
def audioPlayerInit (env : AudioStartEnv) (sampleRate channels : UInt32) : AudioPlayer :=
  match env.bufferSize with
  | none => ⟨false, 0, sampleRate, channels⟩
  | some n => ⟨true, n, sampleRate, channels⟩

/-- The audio part of `application_run`; nothing when the metadata or the decoder fails. -/
def audioStart (env : AudioStartEnv) (sock : AudioSocket) :
    Option (AudioDecoder × AudioPlayer × AudioSocket) :=
  let m := audioSocketReadMetadata sock
  if m.1 = false then none
  else
    (audioDecoderInit env m.2.codecId).map fun decoder =>
      (decoder, audioPlayerInit env m.2.sampleRate m.2.channels, m.2)

/-! ## One round -/

/-- What one round of the loop meets: whether the two `malloc` calls succeed, the answers of the
codec (`nbSamples` of the frame, `converted` of the converter, and the bytes `pcm` that the frame
buffer gets), whether `GetBuffer` succeeds, and the frames that the device plays between
`GetCurrentPadding` and `ReleaseBuffer`. A codec frame is small, and a converter fills no more than
the room it was told. -/
structure AudioRound where
  packetMalloc : Bool
  send : Bool
  receive : Bool
  nbSamples : UInt32
  frameMalloc : Bool
  converted : ℤ
  pcm : List UInt8
  getBuffer : Bool
  late : ℕ
  small : nbSamples.toNat < 2 ^ 28
  converted_le : converted ≤ nbSamples.toNat
  length_pcm : pcm.length = 8 * nbSamples.toNat

/-- `audio_frame_t`: the block at `data`, the bytes in it, and `size`. -/
structure AudioFrame where
  block : ℕ
  bytes : List UInt8
  size : UInt32

/-- `audio_decoder_decode`: the frame, unless it fails. -/
def audioDecoderDecode (decoder : AudioDecoder) (r : AudioRound) (data : ℕ) (h : Heap) :
    Option AudioFrame × Heap :=
  let h := h.use data
  if r.send = false then (none, h)
  else if r.receive = false then (none, h)
  else
    let outputSize := r.nbSamples * 2 * 4
    if r.frameMalloc = false then (none, h)
    else
      let block := h.next
      let h := h.malloc.use block
      if decoder.swr then
        if r.converted < 0 then (none, h.free block)
        else (some ⟨block, r.pcm, UInt32.ofNat r.converted.toNat * 2 * 4⟩, h)
      else (some ⟨block, r.pcm, outputSize⟩, h)

/-- What a call of `audio_player_write` did: its result, the frames asked of `GetBuffer`, and the
bytes copied into the device buffer. -/
structure PlayerWrite where
  ok : Bool
  requested : Option UInt32
  copied : List UInt8

/-- `audio_player_write` of a player with channels (without any, the division is undefined). -/
def audioPlayerWrite (player : AudioPlayer) (padding : UInt32) (getBuffer : Bool)
    (frame : AudioFrame) : PlayerWrite :=
  if player.renderClient = false then ⟨false, none, []⟩
  else
    let available := player.bufferFrames - padding
    let frames := frame.size / (player.channels * 4)
    let frames := if available < frames then available else frames
    if frames = 0 then ⟨true, none, []⟩
    else if getBuffer = false then ⟨false, some frames, []⟩
    else ⟨true, some frames, frame.bytes.take (frames * player.channels * 4).toNat⟩

/-- The audio thread between two rounds: the socket, the heap, whether the loop has ended, and the
bytes that wait in the device buffer. -/
structure AudioThread where
  sock : AudioSocket
  heap : Heap
  ended : Bool
  queued : List UInt8

/-- The bytes of a frame of the device. -/
def AudioPlayer.frameBytes (player : AudioPlayer) : ℕ := 4 * player.channels.toNat

/-- `GetCurrentPadding`. -/
def AudioThread.padding (player : AudioPlayer) (s : AudioThread) : UInt32 :=
  UInt32.ofNat (s.queued.length / player.frameBytes)

/-- A round of the loop of `audio_thread_func`: the thread after it, the payload that the decoder
was given, and the frame with what became of it. -/
structure AudioRoundResult where
  thread : AudioThread
  given : Option (List UInt8)
  write : Option (AudioFrame × PlayerWrite)

/-- The body of the loop, entered with `running` set. -/
def audioRound (decoder : AudioDecoder) (player : AudioPlayer) (r : AudioRound) (s : AudioThread) :
    AudioRoundResult :=
  let read := audioSocketReadPacket r.packetMalloc s.sock s.heap
  match read.packet with
  | none => ⟨{ s with sock := read.sock, heap := read.heap, ended := true }, none, none⟩
  | some (data, payload) =>
      let decoded := audioDecoderDecode decoder r data read.heap
      let h := decoded.2.free data
      match decoded.1 with
      | none => ⟨{ s with sock := read.sock, heap := h }, some payload, none⟩
      | some frame =>
          let w := audioPlayerWrite player (s.padding player) r.getBuffer frame
          let h := if w.copied = [] then h else h.use frame.block
          ⟨{ s with
              sock := read.sock
              heap := h.free frame.block
              queued := s.queued.drop (r.late * player.frameBytes) ++ w.copied },
            some payload, some (frame, w)⟩

/-! ## Runs -/

/-- A round of the loop, or frames that the device plays between two rounds. -/
inductive AudioOp where
  | round (r : AudioRound)
  | play (frames : ℕ)

section

variable (decoder : AudioDecoder) (player : AudioPlayer)

def audioStep (s : AudioThread) : AudioOp → AudioThread
  | .round r => if s.ended then s else (audioRound decoder player r s).thread
  | .play frames => { s with queued := s.queued.drop (frames * player.frameBytes) }

/-- The payload that the decoder is given in a step. -/
def audioGiven (s : AudioThread) : AudioOp → List (List UInt8)
  | .round r => if s.ended then [] else (audioRound decoder player r s).given.toList
  | .play _ => []

/-- The frame that a step decodes, with what became of it. -/
def audioWrites (s : AudioThread) : AudioOp → List (AudioFrame × PlayerWrite)
  | .round r => if s.ended then [] else (audioRound decoder player r s).write.toList
  | .play _ => []

/-- The bytes that the device plays in a step. -/
def audioHeard (s : AudioThread) : AudioOp → List UInt8
  | .round r =>
      if s.ended ∨ (audioRound decoder player r s).write.isNone then []
      else s.queued.take (r.late * player.frameBytes)
  | .play frames => s.queued.take (frames * player.frameBytes)

/-- The thread when it starts. -/
def AudioThread.start (sock : AudioSocket) (h : Heap) : AudioThread := ⟨sock, h, false, []⟩

/-! ## Memory -/

variable {decoder player}

variable (decoder) in
theorem audioDecoderDecode_owns (r : AudioRound) {data : ℕ} {h : Heap} {held : List ℕ}
    (ho : h.Owns held) (hdata : data ∈ held) :
    (audioDecoderDecode decoder r data h).2.Owns
      ((audioDecoderDecode decoder r data h).1.toList.map AudioFrame.block ++ held) := by
  have huse : h.malloc.use h.next = h.malloc := ho.malloc.use (List.mem_cons_self ..)
  simp only [audioDecoderDecode, ho.use hdata, huse]
  split_ifs
  · exact ho
  · exact ho
  · exact ho
  · exact ho.malloc.free
  · exact ho.malloc
  · exact ho.malloc

/-- A round gives back all blocks that it was given. -/
theorem audioRound_owns (r : AudioRound) {s : AudioThread} {held : List ℕ}
    (ho : s.heap.Owns held) : (audioRound decoder player r s).thread.heap.Owns held := by
  have hread := audioSocketReadPacket_owns r.packetMalloc s.sock ho
  rw [audioRound]
  cases hpacket : (audioSocketReadPacket r.packetMalloc s.sock s.heap).packet with
  | none => simpa [hpacket] using hread
  | some packet =>
    obtain ⟨data, payload⟩ := packet
    simp only [hpacket, Option.toList_some, List.map_cons, List.map_nil, List.singleton_append]
      at hread
    have hdecode := audioDecoderDecode_owns decoder r hread (List.mem_cons_self ..)
    dsimp only
    cases hframe : (audioDecoderDecode decoder r data
        (audioSocketReadPacket r.packetMalloc s.sock s.heap).heap).1 with
    | none =>
      rw [hframe] at hdecode
      exact Heap.Owns.free hdecode
    | some frame =>
      rw [hframe] at hdecode
      have hfreed := (hdecode.perm (List.Perm.swap ..)).free
      have huse := hfreed.use (List.mem_cons_self ..)
      simp only [huse, ite_self]
      exact hfreed.free

theorem audioStep_owns {s : AudioThread} (op : AudioOp) {held : List ℕ} (ho : s.heap.Owns held) :
    (audioStep decoder player s op).heap.Owns held := by
  cases op with
  | play frames => exact ho
  | round r =>
    rw [audioStep]
    split_ifs
    · exact ho
    · exact audioRound_owns r ho

/-- Whatever arrives on the socket, whatever the codec, the device and `malloc` answer, and whenever
the thread is stopped: between two rounds the thread holds nothing, so each of its blocks has been
freed exactly once, none was used before its allocation or after that, and the blocks of the rest of
the program are untouched. -/
theorem audioThread_memory (sock : AudioSocket) {h : Heap} {held : List ℕ} (ho : h.Owns held)
    (ops : List AudioOp) :
    (Runs.final (audioStep decoder player) (.start sock h) ops).heap.Owns held :=
  (Runs.invariant (I := fun s : AudioThread => s.heap.Owns held) (fun _ _ ho => audioStep_owns _ ho)
    ho).2

/-! ## The packets -/

/-- The rounds of a run. -/
def audioRounds (ops : List AudioOp) : List AudioRound :=
  ops.filterMap fun
    | .round r => some r
    | .play _ => none

variable (decoder player) in
theorem audioRound_given (r : AudioRound) (s : AudioThread) :
    (audioRound decoder player r s).given =
        (audioSocketReadPacket r.packetMalloc s.sock s.heap).packet.map Prod.snd ∧
      (audioRound decoder player r s).thread.sock =
        (audioSocketReadPacket r.packetMalloc s.sock s.heap).sock ∧
      (audioRound decoder player r s).thread.ended =
        (s.ended || (audioRound decoder player r s).given.isNone) := by
  rw [audioRound]
  cases (audioSocketReadPacket r.packetMalloc s.sock s.heap).packet with
  | none => simp
  | some packet =>
    dsimp only
    cases (audioDecoderDecode decoder r packet.1
        (audioSocketReadPacket r.packetMalloc s.sock s.heap).heap).1 with
    | none => simp
    | some frame => simp

/-- After a failed read the decoder is given nothing more. -/
theorem audioGiven_ended {s : AudioThread} (hend : s.ended = true) (ops : List AudioOp) :
    Runs.emits (audioStep decoder player) (audioGiven decoder player) s ops = [] := by
  induction ops generalizing s with
  | nil => rfl
  | cons op ops ih =>
    rw [Runs.emits_cons]
    cases op with
    | play frames => exact ih hend
    | round r => simpa [audioGiven, audioStep, hend] using ih hend

/-- The decoder is given the payloads of the packets, one in each round until one of the rounds has
no memory for its packet. -/
theorem audioGiven_eq {packets : List AudioPacket} {s : AudioThread} (hend : s.ended = false)
    (hs : StopsAtEnd recvAllReact s.sock.fd)
    (hc : content s.sock.fd = packets.flatMap AudioPacket.toBytes) (ops : List AudioOp) :
    Runs.emits (audioStep decoder player) (audioGiven decoder player) s ops =
      (packets.map AudioPacket.payload).take
        ((audioRounds ops).takeWhile AudioRound.packetMalloc).length := by
  induction ops generalizing packets s with
  | nil => rfl
  | cons op ops ih =>
    rw [Runs.emits_cons]
    cases op with
    | play frames => exact ih hend hs hc
    | round r =>
      obtain ⟨hgiven, hsock, hended⟩ := audioRound_given decoder player r s
      obtain ⟨hparse, hs'⟩ := parseAudioPacket_eq hs r.packetMalloc s.heap
      rw [hc] at hparse
      rw [hend, Bool.false_or] at hended
      simp only [audioGiven, audioStep, hend, Bool.false_eq_true, if_false]
      have hrounds : audioRounds (.round r :: ops) = r :: audioRounds ops := rfl
      rw [hrounds]
      have hstop (hnone : (audioRound decoder player r s).given = none) :
          (audioRound decoder player r s).given.toList ++
            Runs.emits (audioStep decoder player) (audioGiven decoder player)
              (audioRound decoder player r s).thread ops = [] := by
        rw [hnone] at hended ⊢
        exact audioGiven_ended hended ops
      cases hm : r.packetMalloc with
      | false =>
        rw [hm, parseAudioPacket] at hparse
        simp only [or_true, if_true] at hparse
        rw [hstop, List.takeWhile_cons_of_neg (by simp [hm]), List.length_nil, List.take_zero]
        rw [hgiven, hm]
        split_ifs at hparse <;> exact (Prod.mk.inj hparse).1.symm
      | true =>
        rw [List.takeWhile_cons_of_pos hm, List.length_cons]
        rw [hm] at hparse hs' hgiven hsock
        cases packets with
        | nil =>
          have hnone : (none, []) = _ := hparse
          rw [hstop (hgiven.trans (Prod.mk.inj hnone).1.symm), List.map_nil, List.take_nil]
        | cons p ps =>
          rw [List.flatMap_cons, parseAudioPacket_toBytes] at hparse
          obtain ⟨hpayload, hrest⟩ := Prod.mk.inj hparse
          rw [← hpayload] at hgiven
          rw [hgiven] at hended ⊢
          rw [List.map_cons, List.take_succ_cons, ← ih hended (hsock ▸ hs') (hsock ▸ hrest.symm)]
          rfl

/-! ## The device -/

/-- The samples of a frame. -/
def AudioFrame.samples (frame : AudioFrame) : List UInt8 := frame.bytes.take frame.size.toNat

/-- A decoded frame is whole device frames, and lies inside its block. -/
theorem audioDecoderDecode_size (r : AudioRound) {data : ℕ} {h : Heap} {frame : AudioFrame}
    (hf : (audioDecoderDecode decoder r data h).1 = some frame) :
    8 ∣ frame.size.toNat ∧ frame.size.toNat ≤ frame.bytes.length := by
  have htwo (n : UInt32) (hn : n.toNat < 2 ^ 28) : (n * 2 * 4).toNat = 8 * n.toNat := by
    rw [UInt32.toNat_mul, UInt32.toNat_mul]
    change n.toNat * 2 % 2 ^ 32 * 4 % 2 ^ 32 = _
    omega
  have hsmall := r.small
  have hle := r.converted_le
  have hconverted : (UInt32.ofNat r.converted.toNat).toNat = r.converted.toNat := by
    rw [UInt32.toNat_ofNat']
    exact Nat.mod_eq_of_lt (by omega)
  simp only [audioDecoderDecode] at hf
  split_ifs at hf
  · obtain rfl := Option.some.inj hf
    dsimp only
    rw [htwo _ (by omega), hconverted, r.length_pcm]
    exact ⟨Nat.dvd_mul_right _ _, by omega⟩
  · obtain rfl := Option.some.inj hf
    dsimp only
    rw [htwo _ hsmall, r.length_pcm]
    exact ⟨Nat.dvd_mul_right _ _, le_rfl⟩

/-- A call of `audio_player_write` next to a device with `padding` frames in its buffer: it asks for
no more frames than there is room for, it copies from the start of the samples and no more of them
than the frame has, and all of them when there is room and the device gives its buffer. -/
structure PlayerWrite.Sound (w : PlayerWrite) (player : AudioPlayer) (padding : ℕ)
    (getBuffer : Bool) (frame : AudioFrame) : Prop where
  room : ∀ n ∈ w.requested, padding + n.toNat ≤ player.bufferFrames.toNat
  copied : ∃ k, k ≤ frame.size.toNat ∧ padding * 8 + k ≤ player.bufferFrames.toNat * 8 ∧ 8 ∣ k ∧
    w.copied = frame.samples.take k
  whole : player.renderClient = true → getBuffer = true →
    padding * 8 + frame.size.toNat ≤ player.bufferFrames.toNat * 8 → w.copied = frame.samples

theorem audioPlayerWrite_sound {padding : UInt32} (hch : player.channels = 2)
    (hpad : padding ≤ player.bufferFrames) (getBuffer : Bool) {frame : AudioFrame}
    (hframe : 8 ∣ frame.size.toNat) :
    (audioPlayerWrite player padding getBuffer frame).Sound player padding.toNat getBuffer
      frame := by
  have hpad' := UInt32.le_iff_toNat_le.1 hpad
  have hroom : (player.bufferFrames - padding).toNat =
      player.bufferFrames.toNat - padding.toNat := UInt32.toNat_sub_of_le _ _ hpad
  have hdiv : (frame.size / (2 * 4 : UInt32)).toNat = frame.size.toNat / 8 := UInt32.toNat_div ..
  have hsize := frame.size.toNat_lt
  rw [audioPlayerWrite, hch]
  dsimp only
  -- the frames that the call settles on
  set frames := if player.bufferFrames - padding < frame.size / (2 * 4) then
    player.bufferFrames - padding else frame.size / (2 * 4) with hframes
  have hn : frames.toNat =
      min (player.bufferFrames.toNat - padding.toNat) (frame.size.toNat / 8) := by
    rw [hframes]
    split_ifs with hlt
    · have := UInt32.lt_iff_toNat_lt.1 hlt
      rw [hroom, hdiv] at this
      rw [hroom, min_eq_left this.le]
    · have := UInt32.le_iff_toNat_le.1 (UInt32.not_lt.1 hlt)
      rw [hroom, hdiv] at this
      rw [hdiv, min_eq_right this]
  have hbytes : (frames * 2 * 4).toNat = 8 * frames.toNat := by
    rw [UInt32.toNat_mul, UInt32.toNat_mul]
    change frames.toNat * 2 % 2 ^ 32 * 4 % 2 ^ 32 = _
    omega
  have hzero : frames = 0 ↔ frames.toNat = 0 := by
    rw [← UInt32.toNat_inj]
    rfl
  by_cases hc : player.renderClient = false
  · rw [if_pos hc]
    exact ⟨by simp, ⟨0, Nat.zero_le _, by omega, Nat.dvd_zero 8, by simp⟩, by simp [hc]⟩
  rw [if_neg hc]
  by_cases h0 : frames = 0
  · rw [if_pos h0]
    have := hzero.1 h0
    refine ⟨by simp, ⟨0, Nat.zero_le _, by omega, Nat.dvd_zero 8, by simp⟩, fun _ _ hfit => ?_⟩
    have hnone : frame.size.toNat = 0 := by omega
    simp [AudioFrame.samples, hnone]
  rw [if_neg h0]
  by_cases hg : getBuffer = false
  · rw [if_pos hg]
    refine ⟨?_, ⟨0, Nat.zero_le _, by omega, Nat.dvd_zero 8, by simp⟩, by simp [hg]⟩
    rintro n ⟨⟩
    omega
  rw [if_neg hg]
  refine ⟨?_, ⟨8 * frames.toNat, by omega, by omega, Nat.dvd_mul_right _ _, ?_⟩, fun _ _ hfit => ?_⟩
  · rintro n ⟨⟩
    omega
  · dsimp only
    rw [hbytes, AudioFrame.samples, List.take_take, min_eq_left (by omega)]
  · dsimp only
    rw [hbytes, AudioFrame.samples]
    congr 1
    omega

/-- What is in the device buffer is whole frames, and fits into it. -/
structure AudioThread.DeviceOk (player : AudioPlayer) (s : AudioThread) : Prop where
  whole : 8 ∣ s.queued.length
  fits : s.queued.length ≤ player.bufferFrames.toNat * 8

theorem start_deviceOk (sock : AudioSocket) (h : Heap) :
    (AudioThread.start sock h).DeviceOk player :=
  ⟨Nat.dvd_zero 8, Nat.zero_le _⟩

theorem AudioThread.DeviceOk.drop {s : AudioThread} (h : s.DeviceOk player) {k : ℕ} (hk : 8 ∣ k) :
    8 ∣ (s.queued.drop k).length ∧ (s.queued.drop k).length ≤ s.queued.length := by
  rw [List.length_drop]
  exact ⟨Nat.dvd_sub h.whole hk, Nat.sub_le _ _⟩

/-- `GetCurrentPadding` does not wrap, and tells the bytes that are queued. -/
theorem AudioThread.DeviceOk.padding {s : AudioThread} (h : s.DeviceOk player)
    (hch : player.channels = 2) :
    s.padding player ≤ player.bufferFrames ∧
      (s.padding player).toNat * 8 = s.queued.length := by
  have hbytes : player.frameBytes = 8 := by rw [AudioPlayer.frameBytes, hch]; rfl
  have hlt := player.bufferFrames.toNat_lt
  have hfits := h.fits
  obtain ⟨n, hn⟩ := h.whole
  have hpad : (s.padding player).toNat = n := by
    rw [AudioThread.padding, hbytes, UInt32.toNat_ofNat', hn, Nat.mul_div_cancel_left _ (by omega)]
    exact Nat.mod_eq_of_lt (by omega)
  exact ⟨UInt32.le_iff_toNat_le.2 (by omega), by omega⟩

variable (decoder player) in
/-- A round writes nothing, or it hands a decoded frame to `audio_player_write`. -/
theorem audioRound_write_cases (r : AudioRound) (s : AudioThread) :
    (audioRound decoder player r s).write = none ∧
        (audioRound decoder player r s).thread.queued = s.queued ∨
      ∃ frame, 8 ∣ frame.size.toNat ∧ frame.size.toNat ≤ frame.bytes.length ∧
        (audioRound decoder player r s).write =
          some (frame, audioPlayerWrite player (s.padding player) r.getBuffer frame) ∧
        (audioRound decoder player r s).thread.queued =
          s.queued.drop (r.late * player.frameBytes) ++
            (audioPlayerWrite player (s.padding player) r.getBuffer frame).copied := by
  rw [audioRound]
  cases (audioSocketReadPacket r.packetMalloc s.sock s.heap).packet with
  | none => exact Or.inl ⟨rfl, rfl⟩
  | some packet =>
    dsimp only
    cases hframe : (audioDecoderDecode decoder r packet.1
        (audioSocketReadPacket r.packetMalloc s.sock s.heap).heap).1 with
    | none => exact Or.inl ⟨rfl, rfl⟩
    | some frame =>
      obtain ⟨hdvd, hle⟩ := audioDecoderDecode_size r hframe
      exact Or.inr ⟨frame, hdvd, hle, rfl, rfl⟩

/-- What a step plays and leaves is what was there and what it copies. -/
theorem audioStep_queued (s : AudioThread) (op : AudioOp) :
    audioHeard decoder player s op ++ (audioStep decoder player s op).queued =
      s.queued ++ (audioWrites decoder player s op).flatMap fun x => x.2.copied := by
  cases op with
  | play frames => simp [audioHeard, audioStep, audioWrites, List.take_append_drop]
  | round r =>
    simp only [audioHeard, audioStep, audioWrites]
    by_cases hend : s.ended = true
    · simp [hend]
    obtain ⟨hwrite, hqueued⟩ | ⟨frame, -, -, hwrite, hqueued⟩ :=
      audioRound_write_cases decoder player r s
    · simp [hend, hwrite, hqueued]
    · simp only [hend, hwrite, hqueued, Option.isNone_some, Bool.false_eq_true, or_self, if_false]
      rw [← List.append_assoc, List.take_append_drop, Option.toList_some, List.flatMap_singleton]

theorem audioStep_deviceOk (hch : player.channels = 2) {s : AudioThread} (h : s.DeviceOk player)
    (op : AudioOp) : (audioStep decoder player s op).DeviceOk player := by
  have hbytes : player.frameBytes = 8 := by rw [AudioPlayer.frameBytes, hch]; rfl
  have hdrop (k : ℕ) := h.drop (show 8 ∣ k * player.frameBytes from hbytes ▸ Nat.dvd_mul_left 8 k)
  cases op with
  | play frames => exact ⟨(hdrop frames).1, (hdrop frames).2.trans h.fits⟩
  | round r =>
    rw [audioStep]
    split_ifs
    · exact h
    obtain ⟨-, hqueued⟩ | ⟨frame, hdvd, hle, -, hqueued⟩ :=
      audioRound_write_cases decoder player r s
    · exact ⟨hqueued ▸ h.whole, hqueued ▸ h.fits⟩
    · obtain ⟨hpad, hlen⟩ := h.padding hch
      obtain ⟨k, hk, hroom, hk8, hcopied⟩ :=
        (audioPlayerWrite_sound hch hpad r.getBuffer hdvd).copied
      have hlength : (audioPlayerWrite player (s.padding player) r.getBuffer frame).copied.length =
          k := by
        rw [hcopied, AudioFrame.samples, List.take_take, List.length_take]
        omega
      refine ⟨?_, ?_⟩
      · rw [hqueued, List.length_append, hlength]
        exact Nat.dvd_add (hdrop r.late).1 hk8
      · rw [hqueued, List.length_append, hlength]
        have := (hdrop r.late).2
        omega

/-- The bytes that a run copies into the device buffer. -/
def audioCopied (decoder : AudioDecoder) (player : AudioPlayer) (s : AudioThread)
    (ops : List AudioOp) : List UInt8 :=
  (Runs.emits (audioStep decoder player) (audioWrites decoder player) s ops).flatMap
    fun x => x.2.copied

/-- What the device has played and what waits in its buffer are what was copied, in order. -/
theorem audioHeard_append_queued (s : AudioThread) (hs : s.queued = []) (ops : List AudioOp) :
    Runs.emits (audioStep decoder player) (audioHeard decoder player) s ops ++
        (Runs.final (audioStep decoder player) s ops).queued =
      audioCopied decoder player s ops := by
  rw [audioCopied]
  induction ops using List.reverseRecOn with
  | nil => simpa using hs
  | append_singleton ops op ih =>
    rw [Runs.emits_append_singleton, Runs.emits_append_singleton, Runs.final_append_singleton,
      List.append_assoc, audioStep_queued, ← List.append_assoc, ih, List.flatMap_append]

end

/-! ## From the start -/

variable {env : AudioStartEnv} {decoder : AudioDecoder} {player : AudioPlayer}

/-- A start that succeeds sets the player up for two channels, and takes the metadata off. -/
theorem audioStart_some {sock sock' : AudioSocket}
    (hstart : audioStart env sock = some (decoder, player, sock')) :
    player.channels = 2 ∧ sock' = (audioSocketReadMetadata sock).2 := by
  rw [audioStart] at hstart
  split_ifs at hstart with hok
  obtain ⟨d, hd, hout⟩ := Option.map_eq_some_iff.1 hstart
  have hchannels : (audioSocketReadMetadata sock).2.channels = 2 := by
    simp only [audioSocketReadMetadata] at hok ⊢
    split_ifs at hok ⊢ <;> simp_all
  simp only [Prod.mk.injEq] at hout
  obtain ⟨rfl, rfl, rfl⟩ := hout
  refine ⟨?_, rfl⟩
  rw [audioPlayerInit]
  cases env.bufferSize <;> exact hchannels

/-- On a stream of packets behind their codec id the audio starts just for the three known codecs,
when the codec library opens its decoder. From then on the decoder is given the payloads of the
packets, each once and in order, one in each round, wherever the stream was cut into segments and
would-blocks, until a round has no memory for its packet. -/
theorem audioThread_given (env : AudioStartEnv) {codecId : UInt32} {packets : List AudioPacket}
    {fd : Source UInt8 SocketSignal} (hs : StopsAtEnd recvAllReact fd)
    (hc : content fd = write32be codecId ++ packets.flatMap AudioPacket.toBytes) :
    ((audioStart env (audioSocketInit fd)).isSome = true ↔
        codecId ∈ audioCodecs ∧ env.findDecoder ∧ env.allocContext ∧ env.opens) ∧
      ∀ decoder player sock, audioStart env (audioSocketInit fd) = some (decoder, player, sock) →
        ∀ h ops,
          Runs.emits (audioStep decoder player) (audioGiven decoder player) (.start sock h) ops =
            (packets.map AudioPacket.payload).take
              ((audioRounds ops).takeWhile AudioRound.packetMalloc).length := by
  obtain ⟨hok, hcodec, hrest, hend⟩ :=
    audioSocketReadMetadata_of_stopsAtEnd (audioSocketInit fd) hs hc
  constructor
  · have hknown : codecId ∈ audioCodecs → codecId ≠ 0 ∧ codecId ≠ 1 := by
      rintro hmem
      rw [audioCodecs] at hmem
      simp only [List.mem_cons, List.not_mem_nil, or_false] at hmem
      obtain rfl | rfl | rfl := hmem <;> decide
    rw [audioStart, hok, audioDecoderInit, hcodec]
    by_cases hmem : codecId ∈ audioCodecs
    · have hnot := hknown hmem
      by_cases henv : env.findDecoder ∧ env.allocContext ∧ env.opens <;> simp [hmem, hnot, henv]
    · simp [hmem]
  · intro decoder player sock hstart h ops
    obtain ⟨-, rfl⟩ := audioStart_some hstart
    exact audioGiven_eq rfl hend hrest ops

/-- In every run of a started audio thread next to its device: `audio_player_write` asks for no more
frames than there is room for, reads no more than the frame has, and what it copies is the start of
the samples, all of them unless the device has no room or refuses its buffer; and the device plays
what was copied, in order, with the rest still in its buffer. -/
theorem audioThread_heard {fd : Source UInt8 SocketSignal} {sock : AudioSocket}
    (hstart : audioStart env (audioSocketInit fd) = some (decoder, player, sock)) (h : Heap)
    (ops : List AudioOp) :
    (∀ x ∈ Runs.visits (audioStep decoder player) (.start sock h) ops, ∀ r, x.2 = .round r →
        ∀ y ∈ audioWrites decoder player x.1 x.2,
          y.2.Sound player (x.1.padding player).toNat r.getBuffer y.1 ∧
            y.1.size.toNat ≤ y.1.bytes.length ∧
            (x.1.padding player).toNat * 8 = x.1.queued.length) ∧
      Runs.emits (audioStep decoder player) (audioHeard decoder player) (.start sock h) ops ++
          (Runs.final (audioStep decoder player) (.start sock h) ops).queued =
        audioCopied decoder player (.start sock h) ops := by
  obtain ⟨hch, -⟩ := audioStart_some hstart
  refine ⟨?_, audioHeard_append_queued _ rfl ops⟩
  have hok : ∀ x ∈ Runs.visits (audioStep decoder player) (.start sock h) ops,
      x.1.DeviceOk player :=
    (Runs.invariant (I := fun s : AudioThread => s.DeviceOk player)
      (fun _ _ hd => audioStep_deviceOk hch hd _) (start_deviceOk sock h)).1
  rintro ⟨s, op⟩ hx r rfl y hy
  obtain ⟨hpad, hlen⟩ := (hok _ hx).padding hch
  simp only [audioWrites] at hy
  split_ifs at hy
  · exact absurd hy List.not_mem_nil
  obtain ⟨hwrite, -⟩ | ⟨frame, hdvd, hle, hwrite, -⟩ :=
    audioRound_write_cases decoder player r s
  · rw [hwrite] at hy
    exact absurd hy List.not_mem_nil
  · rw [hwrite, Option.toList_some, List.mem_singleton] at hy
    subst hy
    exact ⟨audioPlayerWrite_sound hch hpad r.getBuffer hdvd, hle, hlen⟩

/-! ## A stream in pieces -/

/-- The codec id of Opus and a packet of two bytes, cut inside the id and inside the payload. -/
def opusStream : Source UInt8 SocketSignal :=
  [.data 0x6f [0x70], .signal .wouldBlock, .data 0x75 [0x73, 0, 0, 0, 0, 0, 0, 0, 0, 0, 0, 0, 2, 7],
    .signal .wouldBlock, .data 8 [], .signal .closed]

def opusPacket : AudioPacket := ⟨0, [7, 8], by decide⟩

/-- Everything succeeds, with room for one frame on the device. -/
def opusEnv : AudioStartEnv := ⟨true, true, true, true, some 1⟩

/-- A round that decodes two frames. -/
def opusRound : AudioRound where
  packetMalloc := true
  send := true
  receive := true
  nbSamples := 2
  frameMalloc := true
  converted := 2
  pcm := [1, 2, 3, 4, 5, 6, 7, 8, 9, 10, 11, 12, 13, 14, 15, 16]
  getBuffer := true
  late := 0
  small := by decide
  converted_le := by decide
  length_pcm := by decide

theorem opusStream_stops : StopsAtEnd recvAllReact opusStream := by
  show ∀ k ∈ stops recvAllReact _, _
  decide

/-- The player and the socket after the start. -/
def opusStarted : AudioPlayer × AudioSocket :=
  (⟨true, 1, 48000, 2⟩, ⟨0x6f707573, 48000, 2,
    [.data 0 [0, 0, 0, 0, 0, 0, 0, 0, 0, 0, 2, 7], .signal .wouldBlock, .data 8 [],
      .signal .closed]⟩)

theorem content_opusStream :
    content opusStream = write32be 0x6f707573 ++ [opusPacket].flatMap AudioPacket.toBytes := by
  decide

theorem opusStream_starts : audioStart opusEnv (audioSocketInit opusStream) =
    some (⟨true⟩, opusStarted.1, opusStarted.2) := rfl

/-- One round and a second one that finds the end of the stream, with one frame played. -/
def opusRun : List AudioOp := [.round opusRound, .play 1, .round opusRound]

theorem audioThread_memory_opus :
    (Runs.final (audioStep ⟨true⟩ opusStarted.1) (.start opusStarted.2 .init)
      opusRun).heap.Owns [] :=
  audioThread_memory _ Heap.owns_init _

example :
    Runs.emits (audioStep ⟨true⟩ opusStarted.1) (audioGiven ⟨true⟩ opusStarted.1)
      (.start opusStarted.2 .init) opusRun = [[7, 8]] :=
  (audioThread_given opusEnv opusStream_stops content_opusStream).2 _ _ _ opusStream_starts _ _

theorem audioThread_heard_opus :
    Runs.emits (audioStep ⟨true⟩ opusStarted.1) (audioHeard ⟨true⟩ opusStarted.1)
        (.start opusStarted.2 .init) opusRun ++
      (Runs.final (audioStep ⟨true⟩ opusStarted.1) (.start opusStarted.2 .init) opusRun).queued =
      [1, 2, 3, 4, 5, 6, 7, 8] :=
  (audioThread_heard opusStream_starts _ _).2.trans (by decide)

end Autoscrcpy
