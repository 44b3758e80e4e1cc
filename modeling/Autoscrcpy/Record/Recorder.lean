import Mathlib.Tactic

/-!
# The recorder

`recorder.c` and `muxer.c`: a recording is set up in steps that can each fail, takes samples of
video and audio, and is closed. FFmpeg is what its calls return, and every call returns.

`respectsContainer_iff`: the recorder does not remember which steps have succeeded, and its stream
indices start at zero. It writes a trailer without a header whenever the set-up failed or never
happened, and audio into the video stream whenever no audio stream was added.
-/

namespace Autoscrcpy

/-! ## The muxer -/

/-- `AVMediaType`. -/
inductive MediaType
  | video
  | audio
  deriving DecidableEq, Repr

/-- `AVCodecID`. -/
inductive AVCodecID
  | none
  | h264
  | hevc
  | av1
  | opus
  | aac
  | flac
  deriving DecidableEq, Repr

/-- `AVStream` with its `codecpar`. -/
structure AVStream where
  codecType : MediaType
  codecId : AVCodecID
  width : UInt32
  height : UInt32
  sampleRate : UInt32
  channels : UInt32
  deriving DecidableEq, Repr

/-- `AVFormatContext`: its streams, in the order of their indices. -/
abbrev AVFormatContext := List AVStream

/-- `recorder_config_t`. The file name and the format go to FFmpeg only. -/
structure RecorderConfig where
  videoCodec : UInt32
  audioCodec : UInt32
  width : UInt32
  height : UInt32
  sampleRate : UInt32
  channels : UInt32

/-- What the calls of FFmpeg during `recorder_init` give. -/
structure InitSteps where
  /-- `avformat_alloc_output_context2`. -/
  allocContext : Bool
  /-- `AVFMT_NOFILE` in the flags of the format. -/
  noFile : Bool
  /-- `avio_open`. -/
  openFile : Bool
  /-- `avformat_new_stream` for the video. -/
  newVideoStream : Bool
  /-- `avformat_new_stream` for the audio. -/
  newAudioStream : Bool
  /-- `avformat_write_header`. -/
  writeHeader : Bool

/-- `muxer_init`: what it returns and leaves in `fmt_ctx`. -/
def muxerInit (steps : InitSteps) : Bool × Option AVFormatContext :=
  if steps.allocContext = false then (false, none)
  else if steps.noFile = false ∧ steps.openFile = false then (false, some [])
  else (true, some [])

/-- A stream is added with its index, or -1; one without a known codec stays all the same. -/
def muxerAddStream (fmtCtx : AVFormatContext) (created : Bool) (stream : AVStream)
    (codec : Option AVCodecID) : ℤ × AVFormatContext :=
  if created = false then (-1, fmtCtx)
  else
    match codec with
    | none => (-1, fmtCtx ++ [stream])
    | some codecId => (fmtCtx.length, fmtCtx ++ [{ stream with codecId }])

/-- The switch of `muxer_add_video_stream`. -/
def videoCodecId (codecId : UInt32) : Option AVCodecID :=
  if codecId = 0x68323634 then some .h264
  else if codecId = 0x68323635 then some .hevc
  else if codecId = 0x00617631 then some .av1
  else none

/-- The switch of `muxer_add_audio_stream`. -/
def audioCodecId (codecId : UInt32) : Option AVCodecID :=
  if codecId = 0x6f707573 then some .opus
  else if codecId = 0x61616320 then some .aac
  else if codecId = 0x666c6163 then some .flac
  else none

/-- `muxer_add_video_stream`. -/
def muxerAddVideoStream (fmtCtx : AVFormatContext) (created : Bool)
    (codecId width height : UInt32) : ℤ × AVFormatContext :=
  muxerAddStream fmtCtx created
    { codecType := .video, codecId := .none, width, height, sampleRate := 0, channels := 0 }
    (videoCodecId codecId)

/-- `muxer_add_audio_stream`. -/
def muxerAddAudioStream (fmtCtx : AVFormatContext) (created : Bool)
    (codecId sampleRate channels : UInt32) : ℤ × AVFormatContext :=
  muxerAddStream fmtCtx created
    { codecType := .audio, codecId := .none, width := 0, height := 0, sampleRate, channels }
    (audioCodecId codecId)

/-- What is passed to one of the two writing functions of the recorder. -/
structure Sample where
  kind : MediaType
  data : List UInt8
  pts : Int64
  deriving DecidableEq, Repr

/-- The calls that reach the container: `muxer_write_header` with its result, `muxer_write_packet`
with the context and the index it is given, and `muxer_write_trailer`. -/
inductive MuxerCall
  | writeHeader (ok : Bool)
  | writePacket (fmtCtx : Option AVFormatContext) (streamIndex : ℤ) (sample : Sample)
  | writeTrailer
  deriving DecidableEq, Repr

/-! ## The recorder -/

/-- `recorder_t` with the context of its muxer. -/
structure Recorder where
  fmtCtx : Option AVFormatContext
  videoStream : ℤ
  audioStream : ℤ
  deriving DecidableEq, Repr

/-- `recorder_create`: two blocks from `calloc`. -/
def recorderCreate (recAlloc muxAlloc : Bool) : Option Recorder :=
  if recAlloc = false then none
  else if muxAlloc = false then none
  else some { fmtCtx := none, videoStream := 0, audioStream := 0 }

/-- "Add audio stream if needed", from there to the end of `recorder_init`. -/
def recorderInitAudio (recorder : Recorder) (fmtCtx : AVFormatContext) (config : RecorderConfig)
    (steps : InitSteps) : Bool × Recorder × List MuxerCall :=
  let (audioStream, fmtCtx) :=
    if config.audioCodec ≠ 0 then
      muxerAddAudioStream fmtCtx steps.newAudioStream config.audioCodec config.sampleRate
        config.channels
    else (recorder.audioStream, fmtCtx)
  let recorder := { recorder with fmtCtx := some fmtCtx, audioStream }
  if config.audioCodec ≠ 0 ∧ recorder.audioStream < 0 then (false, recorder, [])
  else (steps.writeHeader, recorder, [.writeHeader steps.writeHeader])

/-- `recorder_init`: what it returns, the recorder behind it and the calls of the container. -/
def recorderInit (recorder : Recorder) (config : RecorderConfig) (steps : InitSteps) :
    Bool × Recorder × List MuxerCall :=
  match muxerInit steps with
  | (true, some fmtCtx) =>
      let (videoStream, fmtCtx) :=
        muxerAddVideoStream fmtCtx steps.newVideoStream config.videoCodec config.width config.height
      let recorder := { recorder with fmtCtx := some fmtCtx, videoStream }
      if recorder.videoStream < 0 then (false, recorder, [])
      else recorderInitAudio recorder fmtCtx config steps
  | (_, fmtCtx) => (false, { recorder with fmtCtx }, [])

/-- `recorder_write_video`. -/
def recorderWriteVideo (recorder : Recorder) (sample : Sample) : MuxerCall :=
  .writePacket recorder.fmtCtx recorder.videoStream sample

/-- `recorder_write_audio`. -/
def recorderWriteAudio (recorder : Recorder) (sample : Sample) : MuxerCall :=
  .writePacket recorder.fmtCtx recorder.audioStream sample

/-- A sample goes to the function for its kind. -/
def Recorder.write (recorder : Recorder) (sample : Sample) : MuxerCall :=
  match sample.kind with
  | .video => recorderWriteVideo recorder sample
  | .audio => recorderWriteAudio recorder sample

/-- `recorder_destroy`. The muxer is there whenever the recorder is. -/
def recorderDestroy (recorder : Option Recorder) : List MuxerCall :=
  match recorder with
  | none => []
  | some _ => [.writeTrailer]

/-- A recording: the allocations of `recorder_create`, a call of `recorder_init` or none, samples in
any order, and `recorder_destroy`. -/
structure Recording where
  recAlloc : Bool
  muxAlloc : Bool
  init : Option (RecorderConfig × InitSteps)
  samples : List Sample

/-- The recorder when the samples come, and the calls until then. -/
def Recording.prepared (recording : Recording) (recorder : Recorder) : Recorder × List MuxerCall :=
  match recording.init with
  | none => (recorder, [])
  | some (config, steps) => (recorderInit recorder config steps).2

/-- The calls of a recording, in order. -/
def Recording.calls (recording : Recording) : List MuxerCall :=
  match recorderCreate recording.recAlloc recording.muxAlloc with
  | none => recorderDestroy none
  | some recorder =>
      let (recorder, calls) := recording.prepared recorder
      calls ++ recording.samples.map recorder.write ++ recorderDestroy (some recorder)

/-! ## What a container asks for -/

/-- A trailer is written only after a header was. -/
def TrailerAfterHeader (calls : List MuxerCall) : Prop :=
  ∀ pre post, calls = pre ++ .writeTrailer :: post → .writeHeader true ∈ pre

/-- The type of the stream at an index. -/
def streamType (fmtCtx : Option AVFormatContext) (streamIndex : ℤ) : Option MediaType :=
  match fmtCtx, streamIndex with
  | some streams, .ofNat index => streams[index]?.map AVStream.codecType
  | _, _ => none

/-- Audio never goes to the index of a video stream. -/
def AudioApart (calls : List MuxerCall) : Prop :=
  ∀ fmtCtx streamIndex sample, .writePacket fmtCtx streamIndex sample ∈ calls →
    sample.kind = .audio → streamType fmtCtx streamIndex ≠ some .video

/-- Recording respects the container's order and streams. -/
structure RespectsContainer (calls : List MuxerCall) : Prop where
  order : TrailerAfterHeader calls
  streams : AudioApart calls

/-- The steps of `recorder_init` up to the header succeed. -/
structure InitSteps.ReachHeader (steps : InitSteps) (config : RecorderConfig) : Prop where
  context : steps.allocContext = true
  file : steps.noFile = true ∨ steps.openFile = true
  video : steps.newVideoStream = true ∧ (videoCodecId config.videoCodec).isSome
  audio : config.audioCodec ≠ 0 →
    steps.newAudioStream = true ∧ (audioCodecId config.audioCodec).isSome

/-- Every step of `recorder_init` succeeds. -/
structure InitSteps.Succeed (steps : InitSteps) (config : RecorderConfig) : Prop extends
    steps.ReachHeader config where
  header : steps.writeHeader = true

/-! ## The set-up -/

section Setup

variable {config : RecorderConfig} {steps : InitSteps}

theorem muxerAddStream_added (fmtCtx : AVFormatContext) (stream : AVStream) {created : Bool}
    {codec : Option AVCodecID} (h : created = true ∧ codec.isSome) :
    ∃ added : AVStream, added.codecType = stream.codecType ∧
      muxerAddStream fmtCtx created stream codec = ((fmtCtx.length : ℤ), fmtCtx ++ [added]) := by
  obtain ⟨rfl, hcodec⟩ := h
  obtain ⟨codecId, rfl⟩ := Option.isSome_iff_exists.1 hcodec
  exact ⟨{ stream with codecId := codecId }, rfl, rfl⟩

theorem muxerAddStream_failed (fmtCtx : AVFormatContext) (stream : AVStream) {created : Bool}
    {codec : Option AVCodecID} (h : ¬(created = true ∧ codec.isSome)) :
    (muxerAddStream fmtCtx created stream codec).1 = -1 := by
  cases created with
  | false => rfl
  | true =>
    cases codec with
    | none => rfl
    | some codecId => exact absurd ⟨rfl, rfl⟩ h

theorem muxerAddVideoStream_added (fmtCtx : AVFormatContext)
    (h : steps.newVideoStream = true ∧ (videoCodecId config.videoCodec).isSome) :
    ∃ added : AVStream, added.codecType = .video ∧
      muxerAddVideoStream fmtCtx steps.newVideoStream config.videoCodec config.width
        config.height = ((fmtCtx.length : ℤ), fmtCtx ++ [added]) := by
  exact muxerAddStream_added fmtCtx ⟨.video, .none, config.width, config.height, 0, 0⟩ h

theorem muxerAddAudioStream_added (fmtCtx : AVFormatContext)
    (h : steps.newAudioStream = true ∧ (audioCodecId config.audioCodec).isSome) :
    ∃ added : AVStream, added.codecType = .audio ∧
      muxerAddAudioStream fmtCtx steps.newAudioStream config.audioCodec config.sampleRate
        config.channels = ((fmtCtx.length : ℤ), fmtCtx ++ [added]) := by
  exact muxerAddStream_added fmtCtx ⟨.audio, .none, 0, 0, config.sampleRate, config.channels⟩ h

theorem muxerInit_opened (hcontext : steps.allocContext = true)
    (hfile : steps.noFile = true ∨ steps.openFile = true) : muxerInit steps = (true, some []) := by
  have hopened : ¬(steps.noFile = false ∧ steps.openFile = false) := by
    rintro ⟨hno, hopen⟩
    rw [hno, hopen] at hfile
    exact absurd hfile (by decide)
  rw [muxerInit, if_neg (by simp [hcontext]), if_neg hopened]

theorem muxerInit_not_opened
    (h : ¬(steps.allocContext = true ∧ (steps.noFile = true ∨ steps.openFile = true))) :
    ∃ fmtCtx, muxerInit steps = (false, fmtCtx) := by
  rw [muxerInit]
  split_ifs with hcontext hfile
  · exact ⟨_, rfl⟩
  · exact ⟨_, rfl⟩
  · refine absurd ⟨by simpa using hcontext, ?_⟩ h
    by_contra hnone
    rw [not_or, Bool.not_eq_true, Bool.not_eq_true] at hnone
    exact hfile hnone

/-- The streams behind a set-up that reached the header: the video stream and, where the
configuration has an audio codec, behind it the audio stream. -/
theorem recorderInit_of_reach (recorder : Recorder) (h : steps.ReachHeader config) :
    ∃ fmtCtx : AVFormatContext,
      recorderInit recorder config steps =
        (steps.writeHeader,
          { fmtCtx := some fmtCtx
            videoStream := 0
            audioStream := if config.audioCodec = 0 then recorder.audioStream else 1 },
          [.writeHeader steps.writeHeader]) ∧
      fmtCtx.map AVStream.codecType =
        if config.audioCodec = 0 then [.video] else [.video, .audio] := by
  obtain ⟨video, hvideo, hadded⟩ := muxerAddVideoStream_added [] h.video
  rw [recorderInit, muxerInit_opened h.context h.file]
  dsimp only
  rw [hadded, if_neg (by simp), recorderInitAudio]
  by_cases hcodec : config.audioCodec = 0
  · simp only [hcodec]
    exact ⟨[video], rfl, congrArg (· :: []) hvideo⟩
  · obtain ⟨audio, haudio, hadded'⟩ := muxerAddAudioStream_added [video] (h.audio hcodec)
    simp only [if_pos hcodec, if_neg hcodec, List.nil_append, hadded']
    rw [if_neg fun h => absurd h.2 (by simp)]
    exact ⟨[video, audio], rfl, by rw [List.map_cons, List.map_cons, hvideo, haudio, List.map_nil]⟩

/-- Before the header nothing reaches the container. -/
theorem recorderInit_of_not_reach (recorder : Recorder) (h : ¬steps.ReachHeader config) :
    (recorderInit recorder config steps).1 = false ∧
      (recorderInit recorder config steps).2.2 = [] := by
  by_cases hopened : steps.allocContext = true ∧ (steps.noFile = true ∨ steps.openFile = true)
  swap
  · obtain ⟨fmtCtx, hinit⟩ := muxerInit_not_opened hopened
    rw [recorderInit, hinit]
    exact ⟨rfl, rfl⟩
  rw [recorderInit, muxerInit_opened hopened.1 hopened.2]
  dsimp only
  by_cases hvideo : steps.newVideoStream = true ∧ (videoCodecId config.videoCodec).isSome
  swap
  · rw [if_pos (by rw [muxerAddVideoStream, muxerAddStream_failed _ _ hvideo]; decide)]
    exact ⟨rfl, rfl⟩
  obtain ⟨video, -, hadded⟩ := muxerAddVideoStream_added [] hvideo
  rw [hadded, if_neg (by simp), recorderInitAudio]
  have hcodec : config.audioCodec ≠ 0 := fun hzero =>
    h ⟨hopened.1, hopened.2, hvideo, fun hne => absurd hzero hne⟩
  have haudio : ¬(steps.newAudioStream = true ∧ (audioCodecId config.audioCodec).isSome) :=
    fun haudio => h ⟨hopened.1, hopened.2, hvideo, fun _ => haudio⟩
  have hneg : (muxerAddAudioStream ([] ++ [video]) steps.newAudioStream config.audioCodec
      config.sampleRate config.channels).1 < 0 := by
    rw [muxerAddAudioStream, muxerAddStream_failed _ _ haudio]
    decide
  simp only [if_pos hcodec]
  rw [if_pos ⟨hcodec, hneg⟩]
  exact ⟨rfl, rfl⟩

/-- The call of the header is the only one of `recorder_init` that reaches the container. -/
theorem recorderInit_calls (recorder : Recorder) (config : RecorderConfig) (steps : InitSteps) :
    ∀ call ∈ (recorderInit recorder config steps).2.2, call = .writeHeader steps.writeHeader := by
  by_cases h : steps.ReachHeader config
  · obtain ⟨fmtCtx, heq, -⟩ := recorderInit_of_reach recorder h
    rw [heq]
    simp
  · rw [(recorderInit_of_not_reach recorder h).2]
    simp

theorem header_mem_iff (recorder : Recorder) :
    .writeHeader true ∈ (recorderInit recorder config steps).2.2 ↔ steps.Succeed config := by
  constructor
  · intro hmem
    by_cases h : steps.ReachHeader config
    · have hcall := recorderInit_calls recorder config steps _ hmem
      exact ⟨h, (MuxerCall.writeHeader.inj hcall).symm⟩
    · rw [(recorderInit_of_not_reach recorder h).2] at hmem
      exact absurd hmem List.not_mem_nil
  · intro h
    obtain ⟨fmtCtx, heq, -⟩ := recorderInit_of_reach recorder h.toReachHeader
    rw [heq, h.header]
    exact List.mem_singleton_self _

end Setup

/-! ## Recordings -/

/-- The set-up of a recording. -/
def Recording.SetUp (recording : Recording) : Prop :=
  ∃ config steps, recording.init = some (config, steps) ∧ steps.Succeed config ∧
    (config.audioCodec = 0 → ∀ sample ∈ recording.samples, sample.kind ≠ .audio)

section Recording

variable {recording : Recording} {recorder : Recorder}

theorem trailerAfterHeader_iff {calls : List MuxerCall} (h : .writeTrailer ∉ calls) :
    TrailerAfterHeader (calls ++ [.writeTrailer]) ↔ .writeHeader true ∈ calls := by
  constructor
  · intro horder
    exact horder calls [] rfl
  · intro hheader pre post heq
    -- The trailer of the split is the last call, since no other call is one.
    rcases List.append_eq_append_iff.1 heq with ⟨rest, rfl, -⟩ | ⟨rest, rfl, hrest⟩
    · exact List.mem_append_left rest hheader
    · cases rest with
      | nil => simpa using hheader
      | cons call rest =>
        obtain ⟨rfl, -⟩ := List.cons_eq_cons.1 hrest
        exact absurd (List.mem_append_right pre List.mem_cons_self) h

/-- Samples are passed on as packets. -/
theorem samples_calls {samples : List Sample} :
    ∀ call ∈ samples.map recorder.write, ∃ fmtCtx streamIndex sample,
      call = .writePacket fmtCtx streamIndex sample := by
  intro call hcall
  obtain ⟨sample, -, rfl⟩ := List.mem_map.1 hcall
  rw [Recorder.write]
  cases sample.kind <;> exact ⟨_, _, _, rfl⟩

/-- The set-up makes no call but that of the header. -/
theorem prepared_calls :
    ∀ call ∈ (recording.prepared recorder).2, ∃ ok, call = .writeHeader ok := by
  rw [Recording.prepared]
  cases recording.init with
  | none => simp
  | some setup =>
    intro call hcall
    exact ⟨_, recorderInit_calls recorder setup.1 setup.2 call hcall⟩

/-- The calls of a recording whose recorder was created. -/
theorem calls_of_created (hrec : recording.recAlloc = true) (hmux : recording.muxAlloc = true) :
    recording.calls =
      let prepared := recording.prepared { fmtCtx := none, videoStream := 0, audioStream := 0 }
      prepared.2 ++ recording.samples.map prepared.1.write ++ [.writeTrailer] := by
  rw [Recording.calls, recorderCreate, if_neg (by simp [hrec]), if_neg (by simp [hmux])]
  rfl

theorem calls_of_not_created (h : ¬(recording.recAlloc = true ∧ recording.muxAlloc = true)) :
    recording.calls = [] := by
  rw [Recording.calls, recorderCreate]
  cases hrec : recording.recAlloc with
  | false => rfl
  | true =>
    cases hmux : recording.muxAlloc with
    | false => rfl
    | true => exact absurd ⟨hrec, hmux⟩ h

/-- The order, said of the set-up: nothing but the header comes before the samples. -/
theorem order_iff (samples : List Sample) :
    TrailerAfterHeader ((recording.prepared recorder).2 ++
        samples.map (recording.prepared recorder).1.write ++ [.writeTrailer]) ↔
      .writeHeader true ∈ (recording.prepared recorder).2 := by
  rw [trailerAfterHeader_iff, List.mem_append, or_iff_left]
  · intro hmem
    obtain ⟨_, _, _, heq⟩ := samples_calls _ hmem
    exact absurd heq (by simp)
  · rw [List.mem_append, not_or]
    constructor
    · intro hmem
      obtain ⟨ok, heq⟩ := prepared_calls _ hmem
      exact absurd heq (by simp)
    · intro hmem
      obtain ⟨_, _, _, heq⟩ := samples_calls _ hmem
      exact absurd heq (by simp)

/-- The streams, said of the recorder behind the set-up: its index for audio decides. -/
theorem streams_iff (samples : List Sample) :
    AudioApart ((recording.prepared recorder).2 ++
        samples.map (recording.prepared recorder).1.write ++ [.writeTrailer]) ↔
      ∀ sample ∈ samples, sample.kind = .audio →
        streamType (recording.prepared recorder).1.fmtCtx
          (recording.prepared recorder).1.audioStream ≠ some .video := by
  constructor
  · intro hapart sample hmem hkind
    refine hapart _ _ sample ?_ hkind
    refine List.mem_append_left _ (List.mem_append_right _ (List.mem_map.2 ⟨sample, hmem, ?_⟩))
    rw [Recorder.write, hkind]
    rfl
  · intro hsamples fmtCtx streamIndex sample hmem hkind
    rcases List.mem_append.1 hmem with hmem | hmem
    · rcases List.mem_append.1 hmem with hmem | hmem
      · obtain ⟨ok, heq⟩ := prepared_calls _ hmem
        exact absurd heq (by simp)
      · obtain ⟨sample', hmem', hwrite⟩ := List.mem_map.1 hmem
        obtain rfl : sample' = sample := by
          rw [Recorder.write] at hwrite
          split at hwrite <;> exact (MuxerCall.writePacket.inj hwrite).2.2
        rw [Recorder.write, hkind] at hwrite
        obtain ⟨rfl, rfl, -⟩ := MuxerCall.writePacket.inj hwrite
        exact hsamples sample' hmem' hkind
    · exact absurd (List.mem_singleton.1 hmem) (by simp)

theorem prepared_header_iff :
    .writeHeader true ∈ (recording.prepared recorder).2 ↔
      ∃ config steps, recording.init = some (config, steps) ∧ steps.Succeed config := by
  rw [Recording.prepared]
  cases recording.init with
  | none => simp
  | some setup =>
    dsimp only
    rw [header_mem_iff]
    constructor
    · exact fun h => ⟨setup.1, setup.2, rfl, h⟩
    · rintro ⟨config, steps, heq, h⟩
      obtain rfl := Option.some.inj heq
      exact h

/-- Behind a set-up that succeeded, the index for audio that `calloc` gave is that of the video. -/
theorem prepared_audio_iff {config : RecorderConfig} {steps : InitSteps}
    (hinit : recording.init = some (config, steps)) (h : steps.Succeed config)
    (hzero : recorder.audioStream = 0) :
    streamType (recording.prepared recorder).1.fmtCtx (recording.prepared recorder).1.audioStream =
        some .video ↔ config.audioCodec = 0 := by
  obtain ⟨fmtCtx, heq, htypes⟩ := recorderInit_of_reach recorder h.toReachHeader
  rw [Recording.prepared, hinit]
  dsimp only
  rw [heq, hzero]
  have hget (index : ℕ) : (fmtCtx[index]?).map AVStream.codecType =
      (fmtCtx.map AVStream.codecType)[index]? := List.getElem?_map.symm
  by_cases hcodec : config.audioCodec = 0
  · rw [if_pos hcodec] at htypes
    refine iff_of_true ?_ hcodec
    rw [if_pos hcodec]
    exact (hget 0).trans (by rw [htypes]; rfl)
  · rw [if_neg hcodec] at htypes
    refine iff_of_false ?_ hcodec
    rw [if_neg hcodec]
    have haudio : streamType (some fmtCtx) 1 = some .audio := (hget 1).trans (by rw [htypes]; rfl)
    rw [haudio]
    decide

/-- A recording respects its container if and only if nothing was created, or the set-up was called
and succeeded, and audio comes only with an audio codec. -/
theorem respectsContainer_iff (recording : Recording) :
    RespectsContainer recording.calls ↔
      ¬(recording.recAlloc = true ∧ recording.muxAlloc = true) ∨ recording.SetUp := by
  by_cases hcreated : recording.recAlloc = true ∧ recording.muxAlloc = true
  swap
  · refine iff_of_true ?_ (Or.inl hcreated)
    rw [calls_of_not_created hcreated]
    exact ⟨fun pre post h => absurd h (by simp), fun _ _ _ h => absurd h List.not_mem_nil⟩
  rw [or_iff_right (not_not.2 hcreated), calls_of_created hcreated.1 hcreated.2]
  dsimp only
  constructor
  · rintro ⟨horder, hstreams⟩
    rw [order_iff, prepared_header_iff] at horder
    rw [streams_iff] at hstreams
    obtain ⟨config, steps, hinit, hsucceed⟩ := horder
    refine ⟨config, steps, hinit, hsucceed, fun hcodec sample hmem hkind => ?_⟩
    exact hstreams sample hmem hkind ((prepared_audio_iff hinit hsucceed rfl).2 hcodec)
  · rintro ⟨config, steps, hinit, hsucceed, hsamples⟩
    constructor
    · rw [order_iff, prepared_header_iff]
      exact ⟨config, steps, hinit, hsucceed⟩
    · rw [streams_iff]
      intro sample hmem hkind hvideo
      exact hsamples ((prepared_audio_iff hinit hsucceed rfl).1 hvideo) sample hmem hkind

end Recording

-- Without an audio codec the index for audio is the one that `calloc` left, that of the video.
example : ¬AudioApart (Recording.calls
    { recAlloc := true
      muxAlloc := true
      init := some (⟨0x68323634, 0, 1080, 2400, 0, 0⟩, ⟨true, false, true, true, true, true⟩)
      samples := [⟨.audio, [1], 0⟩] }) := fun h =>
  h (some [⟨.video, .h264, 1080, 2400, 0, 0⟩]) 0 ⟨.audio, [1], 0⟩ (by decide) rfl rfl

/-- A recording to a file that cannot be opened: its trailer is written without a header. -/
theorem not_respectsContainer_unopened :
    ¬RespectsContainer (Recording.calls
      { recAlloc := true
        muxAlloc := true
        init := some (⟨0x68323634, 0x6f707573, 1080, 2400, 48000, 2⟩,
          ⟨true, false, false, true, true, true⟩)
        samples := [] }) := fun h =>
  absurd (h.order [] [] (by decide)) (by decide)

end Autoscrcpy
