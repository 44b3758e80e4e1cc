import Autoscrcpy.Lib.Ring
import Autoscrcpy.Lib.Runs
import Mathlib.Data.Int.GCD

/-!
# The audio regulator

A ring buffer of bytes between the decoder and the player. All of its arithmetic is that of 32-bit
words: the loop of `audio_regulator_push` that drops the oldest frames can take `buffered` below
zero, and both functions copy in two pieces without looking whether the second fits.

The loop ends whatever is pushed (`dropOldest_ends`), and after it the positions are inside the
buffer; what can leave it are the copies of a push, and `regulator_within_iff` says when.
-/

namespace Autoscrcpy

open RingBuffer Runs

/-! ## The state -/

abbrev BUFFER_DURATION_MS : UInt32 := 50

/-- `audio_regulator_t` without its mutex; `buf` is the memory from the buffer on. -/
structure AudioRegulator where
  buf : ℕ → UInt8
  bufSize : UInt32
  writePos : UInt32
  readPos : UInt32
  buffered : UInt32
  sampleRate : UInt32
  channels : UInt32
  bytesPerSample : UInt32
  underflowCount : UInt32

/-- `bytes_per_frame`. -/
def AudioRegulator.bytesPerFrame (ar : AudioRegulator) : UInt32 := ar.channels * ar.bytesPerSample

/-- `audio_regulator_init`, with what `malloc` returns. -/
def audioRegulatorInit (memory : Option (ℕ → UInt8))
    (sampleRate channels bytesPerSample : UInt32) : Option AudioRegulator :=
  let bytesPerFrame := channels * bytesPerSample
  let framesPerBuffer := sampleRate * BUFFER_DURATION_MS / 1000
  memory.map fun buf =>
    { buf
      bufSize := framesPerBuffer * bytesPerFrame
      writePos := 0
      readPos := 0
      buffered := 0
      sampleRate
      channels
      bytesPerSample
      underflowCount := 0 }

/-- What is pushed: bytes whose number is a 32-bit word. -/
structure AudioData where
  bytes : List UInt8
  fits : bytes.length < 2 ^ 32

def AudioData.size (data : AudioData) : UInt32 := UInt32.ofNat data.bytes.length

/-- A copy into or out of the buffer. -/
structure BufCopy where
  offset : ℕ
  length : ℕ
  deriving DecidableEq, Repr

/-! ## Pushing -/

/-- One round of the loop that drops the oldest data. -/
def AudioRegulator.dropFrame (ar : AudioRegulator) : AudioRegulator :=
  { ar with
    readPos := (ar.readPos + ar.bytesPerFrame) % ar.bufSize
    buffered := ar.buffered - ar.bytesPerFrame }

/-- `while (buffered + size > buf_size)`, with at most `fuel` rounds. -/
def dropOldest (size : UInt32) : ℕ → AudioRegulator → Option AudioRegulator
  | 0, _ => none
  | fuel + 1, ar =>
      if ar.bufSize < ar.buffered + size then dropOldest size fuel ar.dropFrame else some ar

/-- `first_chunk`: how much of a block of `size` bytes at `pos` there is room for before the end. -/
def firstChunk (bufSize pos size : UInt32) : UInt32 :=
  if size < bufSize - pos then size else bufSize - pos

/-- The copies of a block: up to the end of the buffer, and what is left from its start. -/
def blockCopies (bufSize pos size : UInt32) : List BufCopy :=
  let first := firstChunk bufSize pos size
  ⟨pos.toNat, first.toNat⟩ :: if first < size then [⟨0, (size - first).toNat⟩] else []

/-- The data written behind what is buffered, in two pieces. -/
def AudioRegulator.write (ar : AudioRegulator) (data : AudioData) : AudioRegulator :=
  let first := firstChunk ar.bufSize ar.writePos data.size
  let buf := store ar.buf ar.writePos.toNat (data.bytes.take first.toNat)
  { ar with
    buf := if first < data.size then store buf 0 (data.bytes.drop first.toNat) else buf
    writePos := (ar.writePos + data.size) % ar.bufSize
    buffered := ar.buffered + data.size }

/-- `audio_regulator_push`: the regulator and the copies; `none` if the loop does not end. The loop
depends on `buffered` only, so that it comes round after at most `2 ^ 32` rounds. -/
def audioRegulatorPush (ar : AudioRegulator) (data : AudioData) :
    Option (AudioRegulator × List BufCopy) :=
  (dropOldest data.size (2 ^ 32) ar).map fun ar =>
    (ar.write data, blockCopies ar.bufSize ar.writePos data.size)

/-! ## Pulling -/

/-- The first `size` bytes from the read position on, in two pieces. -/
def AudioRegulator.copyOut (ar : AudioRegulator) (size : UInt32) : List UInt8 :=
  let first := firstChunk ar.bufSize ar.readPos size
  block ar.buf ar.readPos.toNat first.toNat ++
    if first < size then block ar.buf 0 (size - first).toNat else []

/-- What `audio_regulator_pull` leaves, puts out and copies. -/
structure RegulatorPull where
  regulator : AudioRegulator
  out : List UInt8
  copies : List BufCopy

/-- `audio_regulator_pull`. -/
def audioRegulatorPull (ar : AudioRegulator) (samples : UInt32) : RegulatorPull :=
  let bytesNeeded := samples * ar.channels * ar.bytesPerSample
  if bytesNeeded ≤ ar.buffered then
    { regulator :=
        { ar with
          readPos := (ar.readPos + bytesNeeded) % ar.bufSize
          buffered := ar.buffered - bytesNeeded }
      out := ar.copyOut bytesNeeded
      copies := blockCopies ar.bufSize ar.readPos bytesNeeded }
  else
    -- Underflow: what there is, and silence.
    { regulator :=
        { ar with
          readPos := 0
          writePos := 0
          buffered := 0
          underflowCount := ar.underflowCount + 1 }
      out := (if 0 < ar.buffered then ar.copyOut ar.buffered else []) ++
        List.replicate (bytesNeeded - ar.buffered).toNat 0
      copies := if 0 < ar.buffered then blockCopies ar.bufSize ar.readPos ar.buffered else [] }

/-- `audio_regulator_buffered_samples`. -/
def audioRegulatorBufferedSamples (ar : AudioRegulator) : UInt32 :=
  ar.buffered / (ar.channels * ar.bytesPerSample)

/-! ## Runs -/

/-- A call on a regulator. -/
inductive RegulatorOp where
  | push (data : AudioData)
  | pull (samples : UInt32)

def RegulatorOp.step (ar : AudioRegulator) : RegulatorOp → AudioRegulator
  | push data => ((audioRegulatorPush ar data).map Prod.fst).getD ar
  | pull samples => (audioRegulatorPull ar samples).regulator

/-- The positions are inside the buffer, and no more is buffered than it holds. -/
structure AudioRegulator.Bounds (ar : AudioRegulator) : Prop where
  readPos : ar.readPos < ar.bufSize
  writePos : ar.writePos < ar.bufSize
  buffered : ar.buffered ≤ ar.bufSize

/-- A copy lies inside the buffer. -/
def BufCopy.Inside (c : BufCopy) (ar : AudioRegulator) : Prop :=
  c.offset + c.length ≤ ar.bufSize.toNat

/-- The call ends, keeps the bounds and copies inside the buffer. -/
def RegulatorOp.Within (ar : AudioRegulator) : RegulatorOp → Prop
  | push data => ∃ r, audioRegulatorPush ar data = some r ∧ r.1.Bounds ∧ ∀ c ∈ r.2, c.Inside ar
  | pull samples =>
      (audioRegulatorPull ar samples).regulator.Bounds ∧
        ∀ c ∈ (audioRegulatorPull ar samples).copies, c.Inside ar

/-! ## The loop ends -/

theorem dropFrames_bufSize (k : ℕ) (ar : AudioRegulator) :
    (AudioRegulator.dropFrame^[k] ar).bufSize = ar.bufSize := by
  induction k with
  | zero => rfl
  | succ k ih =>
    rw [Function.iterate_succ_apply']
    exact ih

theorem dropFrames_bytesPerFrame (k : ℕ) (ar : AudioRegulator) :
    (AudioRegulator.dropFrame^[k] ar).bytesPerFrame = ar.bytesPerFrame := by
  induction k with
  | zero => rfl
  | succ k ih =>
    rw [Function.iterate_succ_apply']
    exact ih

theorem dropFrames_buffered (k : ℕ) (ar : AudioRegulator) :
    (AudioRegulator.dropFrame^[k] ar).buffered =
      ar.buffered - UInt32.ofNat k * ar.bytesPerFrame := by
  induction k with
  | zero => simp
  | succ k ih =>
    rw [Function.iterate_succ_apply', AudioRegulator.dropFrame, ih, dropFrames_bytesPerFrame,
      UInt32.ofNat_add]
    grind

/-- What the loop leaves: some frames are dropped, each for want of room. -/
theorem dropOldest_eq_some {size : UInt32} {fuel : ℕ} {ar ar' : AudioRegulator}
    (h : dropOldest size fuel ar = some ar') :
    ∃ k, ar' = AudioRegulator.dropFrame^[k] ar ∧ ¬ ar'.bufSize < ar'.buffered + size ∧
      ∀ j < k, ar.bufSize < (AudioRegulator.dropFrame^[j] ar).buffered + size := by
  induction fuel generalizing ar with
  | zero => cases h
  | succ fuel ih =>
    rw [dropOldest] at h
    split_ifs at h with hfull
    · obtain ⟨k, heq, hroom, hfirst⟩ := ih h
      refine ⟨k + 1, heq, hroom, fun j hj => ?_⟩
      cases j with
      | zero => exact hfull
      | succ j => exact hfirst j (by omega)
    · obtain rfl := Option.some.inj h
      exact ⟨0, rfl, hfull, fun j hj => absurd hj (Nat.not_lt_zero j)⟩

/-- The loop ends if some number of dropped frames makes room. -/
theorem dropOldest_of_room {size : UInt32} {k fuel : ℕ} {ar : AudioRegulator} (hk : k < fuel)
    (h : ¬ ar.bufSize < (AudioRegulator.dropFrame^[k] ar).buffered + size) :
    ∃ ar', dropOldest size fuel ar = some ar' := by
  induction fuel generalizing k ar with
  | zero => exact absurd hk (Nat.not_lt_zero k)
  | succ fuel ih =>
    rw [dropOldest]
    split_ifs with hfull
    · cases k with
      | zero => exact absurd hfull h
      | succ k => exact ih (Nat.lt_of_succ_lt_succ hk) h
    · exact ⟨ar, rfl⟩

/-- Among the multiples of a frame there is one that leaves a remainder only, which is less than the
buffer: a common divisor of the frame and the word size divides the buffer. -/
theorem exists_room {ar : AudioRegulator} (hpos : 0 < ar.bufSize)
    (hframes : Nat.gcd ar.bytesPerFrame.toNat (2 ^ 32) ∣ ar.bufSize.toNat) (size : UInt32) :
    ∃ k < 2 ^ 32, ¬ ar.bufSize < (AudioRegulator.dropFrame^[k] ar).buffered + size := by
  set g := Nat.gcd ar.bytesPerFrame.toNat (2 ^ 32) with hg
  have hle : g ≤ ar.bufSize.toNat := Nat.le_of_dvd (UInt32.lt_iff_toNat_lt.1 hpos) hframes
  have hlt : g < 2 ^ 32 := hle.trans_lt ar.bufSize.toNat_lt
  have hgpos : 0 < g := Nat.gcd_pos_of_pos_right _ (by norm_num)
  obtain ⟨m, -, hm⟩ := Nat.exists_mul_mod_eq_gcd hlt
  set c := (ar.buffered + size).toNat with hc
  obtain ⟨t, ht⟩ : g ∣ c - c % g := Nat.dvd_sub_mod c
  have hclt : c < 2 ^ 32 := (ar.buffered + size).toNat_lt
  refine ⟨m * t % 2 ^ 32, Nat.mod_lt _ (by norm_num), ?_⟩
  have hword : (UInt32.ofNat (m * t % 2 ^ 32) * ar.bytesPerFrame).toNat = c - c % g := by
    have hk : m * t % 2 ^ 32 < 2 ^ 32 := Nat.mod_lt _ (by norm_num)
    rw [UInt32.toNat_mul, UInt32.toNat_ofNat_of_lt' hk]
    calc m * t % 2 ^ 32 * ar.bytesPerFrame.toNat % 2 ^ 32
        = ar.bytesPerFrame.toNat * m % 2 ^ 32 * t % 2 ^ 32 := by
          rw [Nat.mod_mul_mod, Nat.mod_mul_mod]
          congr 1
          ring
      _ = (c - c % g) % 2 ^ 32 := by rw [hm, ht]
      _ = c - c % g := Nat.mod_eq_of_lt (by omega)
  have hrest : ((AudioRegulator.dropFrame^[m * t % 2 ^ 32] ar).buffered + size).toNat = c % g := by
    have hswap : ar.buffered - UInt32.ofNat (m * t % 2 ^ 32) * ar.bytesPerFrame + size =
        ar.buffered + size - UInt32.ofNat (m * t % 2 ^ 32) * ar.bytesPerFrame := by grind
    have hcle : UInt32.ofNat (m * t % 2 ^ 32) * ar.bytesPerFrame ≤ ar.buffered + size := by
      rw [UInt32.le_iff_toNat_le, hword]
      exact Nat.sub_le _ _
    rw [dropFrames_buffered, hswap, UInt32.toNat_sub_of_le _ _ hcle, hword, ← hc]
    exact Nat.sub_sub_self (Nat.mod_le _ _)
  rw [UInt32.lt_iff_toNat_lt, hrest, not_lt]
  exact (Nat.mod_lt c hgpos).le.trans hle

/-! ## Bounds -/

/-- What every regulator keeps: its bounds, and a size that the common divisor of a frame and the
word size divides. -/
structure AudioRegulator.Sound (ar : AudioRegulator) : Prop extends ar.Bounds where
  positive : 0 < ar.bufSize
  frames : Nat.gcd ar.bytesPerFrame.toNat (2 ^ 32) ∣ ar.bufSize.toNat

theorem sound_init {memory : Option (ℕ → UInt8)} {sampleRate channels bytesPerSample : UInt32}
    {ar : AudioRegulator}
    (h : audioRegulatorInit memory sampleRate channels bytesPerSample = some ar)
    (hsize : 0 < ar.bufSize) : ar.Sound := by
  obtain ⟨buf, -, rfl⟩ := Option.map_eq_some_iff.1 h
  refine ⟨⟨hsize, hsize, UInt32.zero_le⟩, hsize, ?_⟩
  rw [UInt32.toNat_mul]
  exact (Nat.dvd_mod_iff (Nat.gcd_dvd_right _ _)).2 ((Nat.gcd_dvd_left _ _).mul_left _)

theorem dropFrames_sound {ar : AudioRegulator} (h : ar.readPos < ar.bufSize)
    (hpos : 0 < ar.bufSize) (k : ℕ) :
    (AudioRegulator.dropFrame^[k] ar).readPos < ar.bufSize ∧
      (AudioRegulator.dropFrame^[k] ar).writePos = ar.writePos := by
  induction k with
  | zero => exact ⟨h, rfl⟩
  | succ k ih =>
    rw [Function.iterate_succ_apply']
    refine ⟨?_, ih.2⟩
    rw [← dropFrames_bufSize k ar] at hpos ⊢
    exact UInt32.mod_lt _ hpos

/-- A push ends, keeps the regulator sound and copies its block to the write position. -/
theorem audioRegulatorPush_sound {ar : AudioRegulator} (h : ar.Sound) (data : AudioData) :
    ∃ ar', audioRegulatorPush ar data =
      some (ar', blockCopies ar.bufSize ar.writePos data.size) ∧ ar'.Sound ∧
        ar'.bufSize = ar.bufSize := by
  obtain ⟨k, hk, hroom⟩ := exists_room h.positive h.frames data.size
  obtain ⟨dropped, hdropped⟩ := dropOldest_of_room hk hroom
  obtain ⟨n, rfl, hfits, -⟩ := dropOldest_eq_some hdropped
  obtain ⟨hread, hwrite⟩ := dropFrames_sound h.readPos h.positive n
  have hsize := dropFrames_bufSize n ar
  have hframe := dropFrames_bytesPerFrame n ar
  refine ⟨(AudioRegulator.dropFrame^[n] ar).write data, ?_, ⟨⟨?_, ?_, ?_⟩, ?_, ?_⟩, hsize⟩
  · rw [audioRegulatorPush, hdropped, Option.map_some, hsize, hwrite]
  · exact hsize.symm ▸ hread
  · exact UInt32.mod_lt _ (hsize.symm ▸ h.positive)
  · exact UInt32.not_lt.1 hfits
  · exact hsize.symm ▸ h.positive
  · change Nat.gcd (AudioRegulator.dropFrame^[n] ar).bytesPerFrame.toNat _ ∣
      (AudioRegulator.dropFrame^[n] ar).bufSize.toNat
    rw [hframe, hsize]
    exact h.frames

theorem toNat_firstChunk {bufSize pos : UInt32} (hpos : pos.toNat < bufSize.toNat)
    (size : UInt32) :
    (firstChunk bufSize pos size).toNat = min (bufSize.toNat - pos.toNat) size.toNat := by
  have hroom : (bufSize - pos).toNat = bufSize.toNat - pos.toNat :=
    UInt32.toNat_sub_of_le _ _ (UInt32.le_iff_toNat_le.2 hpos.le)
  rw [firstChunk]
  split_ifs with hfits
  · rw [UInt32.lt_iff_toNat_lt] at hfits
    omega
  · rw [UInt32.lt_iff_toNat_lt] at hfits
    omega

/-- What is left of a block behind its first piece. -/
theorem toNat_sub_firstChunk (bufSize pos size : UInt32) :
    (size - firstChunk bufSize pos size).toNat =
      size.toNat - (firstChunk bufSize pos size).toNat := by
  refine UInt32.toNat_sub_of_le _ _ ?_
  rw [firstChunk]
  split_ifs with hfits
  · exact UInt32.le_refl size
  · exact UInt32.not_lt.1 hfits

/-- The pieces of a block that starts inside the buffer. -/
theorem blockCopies_inside_iff {ar : AudioRegulator} {pos : UInt32} (hpos : pos < ar.bufSize)
    (size : UInt32) :
    (∀ c ∈ blockCopies ar.bufSize pos size, c.Inside ar) ↔
      pos.toNat + size.toNat ≤ 2 * ar.bufSize.toNat := by
  have hlt := UInt32.lt_iff_toNat_lt.1 hpos
  have hfirst := toNat_firstChunk hlt size
  have hrest := toNat_sub_firstChunk ar.bufSize pos size
  rw [blockCopies]
  split_ifs with hmore
  · simp only [List.forall_mem_cons, List.not_mem_nil, false_imp_iff, implies_true, and_true,
      BufCopy.Inside]
    omega
  · have hle := UInt32.le_iff_toNat_le.1 (UInt32.not_lt.1 hmore)
    simp only [List.forall_mem_singleton, BufCopy.Inside]
    omega

theorem audioRegulatorPull_sound {ar : AudioRegulator} (h : ar.Sound) (samples : UInt32) :
    (audioRegulatorPull ar samples).regulator.Sound ∧
      (audioRegulatorPull ar samples).regulator.bufSize = ar.bufSize ∧
        ∀ c ∈ (audioRegulatorPull ar samples).copies, c.Inside ar := by
  have hread := UInt32.lt_iff_toNat_lt.1 h.readPos
  have hbuffered := UInt32.le_iff_toNat_le.1 h.buffered
  have hinside := blockCopies_inside_iff h.readPos
  rw [audioRegulatorPull]
  split_ifs with henough hsome
  · have hle := UInt32.le_iff_toNat_le.1 henough
    refine ⟨⟨⟨UInt32.mod_lt _ h.positive, h.writePos, ?_⟩, h.positive, h.frames⟩, rfl,
      (hinside _).2 (by omega)⟩
    rw [UInt32.le_iff_toNat_le, UInt32.toNat_sub_of_le _ _ henough]
    exact (Nat.sub_le _ _).trans hbuffered
  · exact ⟨⟨⟨h.positive, h.positive, UInt32.zero_le⟩, h.positive, h.frames⟩, rfl,
      (hinside _).2 (by omega)⟩
  · exact ⟨⟨⟨h.positive, h.positive, UInt32.zero_le⟩, h.positive, h.frames⟩, rfl, by simp⟩

/-- A push to a sound regulator stays within exactly if its block ends before the buffer does for
the second time. -/
theorem push_within_iff {ar : AudioRegulator} (h : ar.Sound) (data : AudioData) :
    (RegulatorOp.push data).Within ar ↔
      ar.writePos.toNat + data.bytes.length ≤ 2 * ar.bufSize.toNat := by
  obtain ⟨ar', hpush, hsound, -⟩ := audioRegulatorPush_sound h data
  have hsize : data.size.toNat = data.bytes.length := UInt32.toNat_ofNat_of_lt' data.fits
  rw [← hsize, ← blockCopies_inside_iff h.writePos, RegulatorOp.Within]
  constructor
  · rintro ⟨r, hr, -, hcopies⟩
    obtain rfl := Option.some.inj (hpush.symm.trans hr)
    exact hcopies
  · intro hcopies
    exact ⟨_, hpush, hsound.toBounds, hcopies⟩

theorem step_sound {ar : AudioRegulator} (h : ar.Sound) (op : RegulatorOp) :
    (op.step ar).Sound := by
  cases op with
  | push data =>
    obtain ⟨ar', hpush, hsound, -⟩ := audioRegulatorPush_sound h data
    rw [RegulatorOp.step, hpush]
    exact hsound
  | pull samples => exact (audioRegulatorPull_sound h samples).1

/-- The block of a push ends before the buffer does for the second time. -/
def RegulatorOp.BlockFits (ar : AudioRegulator) : RegulatorOp → Prop
  | push data => ar.writePos.toNat + data.bytes.length ≤ 2 * ar.bufSize.toNat
  | pull _ => True

/-- From an initialised regulator with a buffer, all calls of a run stay within exactly if the block
of every push fits. -/
theorem regulator_within_iff {memory : Option (ℕ → UInt8)}
    {sampleRate channels bytesPerSample : UInt32} {ar : AudioRegulator}
    (hinit : audioRegulatorInit memory sampleRate channels bytesPerSample = some ar)
    (hsize : 0 < ar.bufSize) (ops : List RegulatorOp) :
    (∀ x ∈ visits RegulatorOp.step ar ops, x.2.Within x.1) ↔
      ∀ x ∈ visits RegulatorOp.step ar ops, x.2.BlockFits x.1 := by
  have hsound : ∀ x ∈ visits RegulatorOp.step ar ops, x.1.Sound :=
    (invariant (fun x _ h => step_sound h x.2) (sound_init hinit hsize)).1
  apply forall₂_congr
  intro x hx
  obtain ⟨s, op⟩ := x
  cases op with
  | push data => exact push_within_iff (hsound _ hx) data
  | pull samples =>
    obtain ⟨hnext, -, hcopies⟩ := audioRegulatorPull_sound (hsound _ hx) samples
    exact iff_of_true ⟨hnext.toBounds, hcopies⟩ trivial

/-- A regulator for 16-bit stereo at 48 kHz: 50 ms are 9600 bytes. -/
def stereoRegulator : AudioRegulator where
  buf := fun _ => 0
  bufSize := 9600
  writePos := 0
  readPos := 0
  buffered := 0
  sampleRate := 48000
  channels := 2
  bytesPerSample := 2
  underflowCount := 0

theorem stereoRegulator_init :
    audioRegulatorInit (some fun _ => 0) 48000 2 2 = some stereoRegulator := rfl

/-- One frame. -/
def stereoPush : RegulatorOp := .push ⟨[1, 2, 3, 4], by decide⟩

theorem regulator_within_iff_stereo :
    RegulatorOp.Within stereoRegulator stereoPush ∧
      RegulatorOp.Within (RegulatorOp.step stereoRegulator stereoPush) (.pull 2) := by
  have hfits : ∀ x ∈ visits RegulatorOp.step stereoRegulator [stereoPush, .pull 2],
      x.2.BlockFits x.1 := by
    intro x hx
    obtain rfl | hx := List.mem_cons.1 hx
    · exact (by decide : 0 + 4 ≤ 2 * 9600)
    · obtain rfl := List.mem_singleton.1 hx
      trivial
  have hwithin := (regulator_within_iff stereoRegulator_init (by decide) _).2 hfits
  constructor
  · exact hwithin _ (List.mem_cons_self ..)
  · exact hwithin _ (List.mem_cons_of_mem _ (List.mem_cons_self ..))

/-- A frame of 120 ms does not fit. -/
theorem regulator_overrun :
    ¬ ∀ ops : List RegulatorOp, ∀ x ∈ visits RegulatorOp.step stereoRegulator ops,
      x.2.Within x.1 := by
  have hlen : (List.replicate 23040 (0 : UInt8)).length = 23040 := List.length_replicate
  intro h
  have hwithin := h [.push ⟨List.replicate 23040 0, by rw [hlen]; decide⟩] _
    (List.mem_singleton_self _)
  have hfits := (push_within_iff (sound_init stereoRegulator_init (by decide)) _).1 hwithin
  dsimp only at hfits
  rw [hlen] at hfits
  exact absurd hfits (by decide)

end Autoscrcpy
