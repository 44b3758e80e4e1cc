import Autoscrcpy.Audio.Regulator
import Autoscrcpy.Lib.DropQueue

/-!
# The regulator as a queue

A regulator whose pushes are whole frames that the buffer can hold is a queue that drops its oldest
frames: `Holds` relates the two, wherever the data lies in the ring, every call keeps the relation
(`push_holds`, `pull_holds`), and `regulator_refines` is about whole runs.
-/

namespace Autoscrcpy

open RingBuffer Runs

/-! ## The relation -/

/-- The regulator holds the items of the queue, from its read position on. -/
structure AudioRegulator.Holds (ar : AudioRegulator) (q : DropQueue UInt8) : Prop where
  small : ar.bufSize.toNat < 2 ^ 31
  frame : 0 < ar.bytesPerFrame.toNat
  readPos : ar.readPos.toNat < ar.bufSize.toNat
  writePos : ar.writePos.toNat = (ar.readPos.toNat + ar.buffered.toNat) % ar.bufSize.toNat
  bounded : ar.buffered.toNat ≤ ar.bufSize.toNat
  whole : ar.bytesPerFrame.toNat ∣ ar.buffered.toNat
  items : cells ar.bufSize.toNat ar.buf ar.readPos.toNat ar.buffered.toNat = q.items
  count : ar.underflowCount = UInt32.ofNat q.underflows

theorem AudioRegulator.Holds.length {ar : AudioRegulator} {q : DropQueue UInt8} (h : ar.Holds q) :
    q.items.length = ar.buffered.toNat := by rw [← h.items, length_cells]

/-- The format of a regulator, which no call changes. -/
structure AudioRegulator.SameFormat (ar ar' : AudioRegulator) : Prop where
  bufSize : ar'.bufSize = ar.bufSize
  channels : ar'.channels = ar.channels
  bytesPerSample : ar'.bytesPerSample = ar.bytesPerSample

/-! ## Dropping -/

section Drop

variable {ar : AudioRegulator} {q : DropQueue UInt8}

/-- As long as the frames are there, dropping them moves the read position. -/
theorem dropFrames_holds (h : ar.Holds q) {k : ℕ}
    (hk : ar.bytesPerFrame.toNat * k ≤ ar.buffered.toNat) :
    (AudioRegulator.dropFrame^[k] ar).buffered.toNat =
        ar.buffered.toNat - ar.bytesPerFrame.toNat * k ∧
      (AudioRegulator.dropFrame^[k] ar).readPos.toNat =
        (ar.readPos.toNat + ar.bytesPerFrame.toNat * k) % ar.bufSize.toNat := by
  have hsmall := h.small
  have hbounded := h.bounded
  have hpos : 0 < ar.bufSize.toNat := (Nat.zero_le _).trans_lt h.readPos
  induction k with
  | zero => exact ⟨rfl, (Nat.mod_eq_of_lt h.readPos).symm⟩
  | succ k ih =>
    rw [Nat.mul_succ] at hk
    obtain ⟨hbuffered, hread⟩ := ih (by omega)
    have hframe := dropFrames_bytesPerFrame k ar
    have hsize := dropFrames_bufSize k ar
    set dropped := AudioRegulator.dropFrame^[k] ar
    have hlt : dropped.readPos.toNat < ar.bufSize.toNat := hread ▸ Nat.mod_lt _ hpos
    rw [Function.iterate_succ_apply']
    constructor
    · change (dropped.buffered - dropped.bytesPerFrame).toNat = _
      rw [hframe, UInt32.toNat_sub_of_le _ _ (UInt32.le_iff_toNat_le.2 (by omega)), hbuffered,
        Nat.mul_succ, Nat.sub_sub]
    · change ((dropped.readPos + dropped.bytesPerFrame) % dropped.bufSize).toNat = _
      have hnowrap : dropped.readPos.toNat + ar.bytesPerFrame.toNat < 2 ^ 32 := by omega
      rw [hframe, hsize, UInt32.toNat_mod, UInt32.toNat_add, Nat.mod_eq_of_lt hnowrap, hread,
        Nat.mod_add_mod, Nat.mul_succ, Nat.add_assoc]

theorem dropFrames_format (ar : AudioRegulator) (k : ℕ) :
    ar.SameFormat (AudioRegulator.dropFrame^[k] ar) ∧
      (AudioRegulator.dropFrame^[k] ar).buf = ar.buf ∧
      (AudioRegulator.dropFrame^[k] ar).writePos = ar.writePos ∧
      (AudioRegulator.dropFrame^[k] ar).underflowCount = ar.underflowCount := by
  induction k with
  | zero => exact ⟨⟨rfl, rfl, rfl⟩, rfl, rfl, rfl⟩
  | succ k ih =>
    obtain ⟨⟨hsize, hchannels, hsample⟩, hrest⟩ := ih
    rw [Function.iterate_succ_apply']
    exact ⟨⟨hsize, hchannels, hsample⟩, hrest⟩

/-- The loop drops as few frames as it can. -/
theorem dropOldest_least (h : ar.Holds q) {size : UInt32}
    (hfits : size.toNat ≤ ar.bufSize.toNat) {fuel : ℕ} {ar' : AudioRegulator}
    (hdrop : dropOldest size fuel ar = some ar') :
    ar' = AudioRegulator.dropFrame^[DropQueue.unitsToDrop ar.bufSize.toNat ar.bytesPerFrame.toNat
        ar.buffered.toNat size.toNat] ar ∧
      ar.bytesPerFrame.toNat * DropQueue.unitsToDrop ar.bufSize.toNat ar.bytesPerFrame.toNat
        ar.buffered.toNat size.toNat ≤ ar.buffered.toNat := by
  have hsmall := h.small
  have hbounded := h.bounded
  obtain ⟨k, rfl, hroom, hfirst⟩ := dropOldest_eq_some hdrop
  -- Below the last frame nothing wraps, so that the test of the loop is that of the numbers.
  have htest {j : ℕ} (hj : ar.bytesPerFrame.toNat * j ≤ ar.buffered.toNat) :
      ar.bufSize < (AudioRegulator.dropFrame^[j] ar).buffered + size ↔
        ¬ ar.buffered.toNat - ar.bytesPerFrame.toNat * j + size.toNat ≤ ar.bufSize.toNat := by
    have hbuffered := (dropFrames_holds h hj).1
    rw [UInt32.lt_iff_toNat_lt, UInt32.toNat_add, Nat.mod_eq_of_lt (by omega), hbuffered, not_le]
  obtain ⟨frames, hframes⟩ := h.whole
  have hk : k ≤ frames := by
    by_contra hlt
    have hempty := (htest hframes.ge).1 (hfirst frames (not_le.1 hlt))
    omega
  have hle : ar.bytesPerFrame.toNat * k ≤ ar.buffered.toNat :=
    hframes ▸ Nat.mul_le_mul_left _ hk
  have hleast : IsLeast {j | ar.buffered.toNat - ar.bytesPerFrame.toNat * j + size.toNat ≤
      ar.bufSize.toNat} k := by
    constructor
    · rw [dropFrames_bufSize] at hroom
      exact not_not.1 fun hno => hroom ((htest hle).2 hno)
    · intro j hj
      by_contra hlt
      have hjk : j < k := not_le.1 hlt
      have hjle : ar.bytesPerFrame.toNat * j ≤ ar.buffered.toNat :=
        (Nat.mul_le_mul_left _ hjk.le).trans hle
      exact (htest hjle).1 (hfirst j hjk) hj
  rw [(DropQueue.isLeast_unitsToDrop h.frame hfits _).unique hleast]
  exact ⟨rfl, hle⟩

end Drop

/-- The state after the loop. -/
theorem dropOldest_holds {ar ar' : AudioRegulator} {q : DropQueue UInt8} (h : ar.Holds q)
    {size : UInt32} (hfits : size.toNat ≤ ar.bufSize.toNat) {fuel : ℕ}
    (hdrop : dropOldest size fuel ar = some ar') :
    ar.SameFormat ar' ∧ ar'.buffered.toNat + size.toNat ≤ ar.bufSize.toNat ∧
      ar'.Holds { q with items := q.items.drop (ar.bytesPerFrame.toNat *
        DropQueue.unitsToDrop ar.bufSize.toNat ar.bytesPerFrame.toNat q.items.length
          size.toNat) } := by
  obtain ⟨rfl, hle⟩ := dropOldest_least h hfits hdrop
  have hleast := (DropQueue.isLeast_unitsToDrop h.frame hfits ar.buffered.toNat).1
  rw [Set.mem_ofPred_eq] at hleast
  rw [h.length]
  set k := DropQueue.unitsToDrop ar.bufSize.toNat ar.bytesPerFrame.toNat ar.buffered.toNat
    size.toNat
  obtain ⟨hbuffered, hread⟩ := dropFrames_holds h hle
  obtain ⟨hformat, hbuf, hwrite, hcount⟩ := dropFrames_format ar k
  have hpos : 0 < ar.bufSize.toNat := (Nat.zero_le _).trans_lt h.readPos
  have hbounded := h.bounded
  have hframe := dropFrames_bytesPerFrame k ar
  refine ⟨hformat, by rwa [hbuffered], ?_⟩
  constructor
  · rw [hformat.bufSize]
    exact h.small
  · rw [hframe]
    exact h.frame
  · rw [hformat.bufSize, hread]
    exact Nat.mod_lt _ hpos
  · rw [hformat.bufSize, hwrite, h.writePos, hread, hbuffered, Nat.mod_add_mod, Nat.add_assoc,
      Nat.add_sub_cancel' hle]
  · rw [hformat.bufSize, hbuffered]
    omega
  · rw [hframe, hbuffered]
    exact Nat.dvd_sub h.whole (Nat.dvd_mul_right _ _)
  · rw [hformat.bufSize, hbuf, hread, hbuffered, ← cells_drop, h.items]
  · rw [hcount]
    exact h.count

/-! ## Pushing -/

theorem AudioData.toNat_size (data : AudioData) : data.size.toNat = data.bytes.length :=
  UInt32.toNat_ofNat_of_lt' data.fits

/-- The two pieces are the block. -/
theorem write_buf {ar : AudioRegulator} (hpos : ar.writePos.toNat < ar.bufSize.toNat)
    (data : AudioData) :
    (ar.write data).buf =
      storeRound ar.bufSize.toNat ar.buf ar.writePos.toNat data.bytes := by
  have hfirst := toNat_firstChunk hpos data.size
  have hsize := data.toNat_size
  rw [AudioRegulator.write, storeRound, ← hsize, ← hfirst]
  dsimp only
  split_ifs with hmore
  · rfl
  · have hnone : data.bytes.drop (firstChunk ar.bufSize ar.writePos data.size).toNat = [] := by
      rw [UInt32.lt_iff_toNat_lt] at hmore
      exact List.drop_eq_nil_of_le (by omega)
    rw [hnone, store_nil]

/-- A push of whole frames that the buffer can hold is a push to the queue. -/
theorem push_holds {ar : AudioRegulator} {q : DropQueue UInt8} (h : ar.Holds q) {data : AudioData}
    (hfits : data.bytes.length ≤ ar.bufSize.toNat)
    (hwhole : ar.bytesPerFrame.toNat ∣ data.bytes.length) {ar' : AudioRegulator}
    {copies : List BufCopy} (hpush : audioRegulatorPush ar data = some (ar', copies)) :
    ar.SameFormat ar' ∧
      ar'.Holds (q.push ar.bufSize.toNat ar.bytesPerFrame.toNat data.bytes) := by
  have hsize := data.toNat_size
  obtain ⟨dropped, hdrop, heq⟩ := Option.map_eq_some_iff.1 hpush
  obtain ⟨rfl, -⟩ := Prod.mk.inj heq
  obtain ⟨hformat, hroom, hheld⟩ := dropOldest_holds h (hsize ▸ hfits) hdrop
  have hpos : 0 < ar.bufSize.toNat := (Nat.zero_le _).trans_lt h.readPos
  have hsmall := h.small
  have hframe : dropped.bytesPerFrame = ar.bytesPerFrame := by
    rw [AudioRegulator.bytesPerFrame, hformat.channels, hformat.bytesPerSample]
    rfl
  have hwrite : dropped.writePos.toNat < dropped.bufSize.toNat := by
    rw [hheld.writePos, hformat.bufSize]
    exact Nat.mod_lt _ hpos
  have hnowrap : dropped.writePos.toNat + data.size.toNat < 2 ^ 32 := by
    rw [hformat.bufSize] at hwrite
    omega
  have hbuffered : (dropped.buffered + data.size).toNat =
      dropped.buffered.toNat + data.bytes.length := by
    rw [UInt32.toNat_add, Nat.mod_eq_of_lt (by omega), hsize]
  refine ⟨⟨hformat.bufSize, hformat.channels, hformat.bytesPerSample⟩, ?_⟩
  constructor
  · exact hheld.small
  · exact hheld.frame
  · exact hheld.readPos
  · change ((dropped.writePos + data.size) % dropped.bufSize).toNat =
      (dropped.readPos.toNat + (dropped.buffered + data.size).toNat) % dropped.bufSize.toNat
    rw [hbuffered, UInt32.toNat_mod, UInt32.toNat_add, Nat.mod_eq_of_lt hnowrap, hheld.writePos,
      Nat.mod_add_mod, hsize, Nat.add_assoc]
  · change (dropped.buffered + data.size).toNat ≤ dropped.bufSize.toNat
    rw [hbuffered, hformat.bufSize]
    omega
  · change dropped.bytesPerFrame.toNat ∣ (dropped.buffered + data.size).toNat
    rw [hbuffered]
    exact Nat.dvd_add hheld.whole (hframe ▸ hwhole)
  · change cells dropped.bufSize.toNat (dropped.write data).buf dropped.readPos.toNat
      (dropped.buffered + data.size).toNat = _
    rw [write_buf hwrite, hbuffered, hheld.writePos,
      cells_storeRound (hformat.bufSize ▸ hpos) (by rw [hformat.bufSize]; omega), hheld.items,
      hsize]
    rfl
  · exact hheld.count

/-! ## Pulling -/

/-- What is copied out is what the cells hold. -/
theorem copyOut_eq {ar : AudioRegulator} {size : UInt32}
    (hread : ar.readPos.toNat < ar.bufSize.toNat) (hsize : size.toNat ≤ ar.bufSize.toNat) :
    ar.copyOut size = cells ar.bufSize.toNat ar.buf ar.readPos.toNat size.toNat := by
  have hfirst := toNat_firstChunk hread size
  have hrest := toNat_sub_firstChunk ar.bufSize ar.readPos size
  rw [cells_eq_blocks hread hsize, ← hfirst, AudioRegulator.copyOut]
  split_ifs with hmore
  · rw [hrest]
  · rw [UInt32.lt_iff_toNat_lt] at hmore
    rw [Nat.sub_eq_zero_of_le (by omega), block_zero]

/-- How many bytes a pull asks for. -/
def AudioRegulator.bytesNeeded (ar : AudioRegulator) (samples : UInt32) : ℕ :=
  samples.toNat * ar.channels.toNat * ar.bytesPerSample.toNat

theorem toNat_bytesNeeded {ar : AudioRegulator} {samples : UInt32}
    (h : ar.bytesNeeded samples < 2 ^ 32) :
    (samples * ar.channels * ar.bytesPerSample).toNat = ar.bytesNeeded samples := by
  rw [UInt32.toNat_mul, UInt32.toNat_mul, Nat.mod_mul_mod]
  exact Nat.mod_eq_of_lt h

/-- A pull takes whole frames. -/
theorem dvd_bytesNeeded {ar : AudioRegulator} {samples : UInt32}
    (h : ar.bytesNeeded samples < 2 ^ 32) :
    ar.bytesPerFrame.toNat ∣ ar.bytesNeeded samples := by
  rw [AudioRegulator.bytesNeeded, Nat.mul_assoc] at h ⊢
  rcases Nat.eq_zero_or_pos samples.toNat with hzero | hpos
  · rw [hzero, Nat.zero_mul]
    exact Nat.dvd_zero _
  · have hlt : ar.channels.toNat * ar.bytesPerSample.toNat < 2 ^ 32 :=
      (Nat.le_mul_of_pos_left _ hpos).trans_lt h
    rw [AudioRegulator.bytesPerFrame, UInt32.toNat_mul, Nat.mod_eq_of_lt hlt]
    exact Nat.dvd_mul_left _ _

/-- A pull that finds enough takes it off. -/
theorem taken_holds {ar : AudioRegulator} {q : DropQueue UInt8} (h : ar.Holds q) {size : UInt32}
    (hle : size.toNat ≤ ar.buffered.toNat) (hwhole : ar.bytesPerFrame.toNat ∣ size.toNat) :
    { ar with
      readPos := (ar.readPos + size) % ar.bufSize
      buffered := ar.buffered - size }.Holds { q with items := q.items.drop size.toNat } := by
  have hsmall := h.small
  have hbounded := h.bounded
  have hread := h.readPos
  have hpos : 0 < ar.bufSize.toNat := (Nat.zero_le _).trans_lt hread
  have hnext : ((ar.readPos + size) % ar.bufSize).toNat =
      (ar.readPos.toNat + size.toNat) % ar.bufSize.toNat := by
    have hnowrap : ar.readPos.toNat + size.toNat < 2 ^ 32 := by omega
    rw [UInt32.toNat_mod, UInt32.toNat_add, Nat.mod_eq_of_lt hnowrap]
  have hleft : (ar.buffered - size).toNat = ar.buffered.toNat - size.toNat :=
    UInt32.toNat_sub_of_le _ _ (UInt32.le_iff_toNat_le.2 hle)
  constructor
  · exact hsmall
  · exact h.frame
  · exact hnext ▸ Nat.mod_lt _ hpos
  · change ar.writePos.toNat = _
    dsimp only
    rw [hnext, hleft, h.writePos, Nat.mod_add_mod, Nat.add_assoc, Nat.add_sub_cancel' hle]
  · dsimp only
    rw [hleft]
    exact (Nat.sub_le _ _).trans hbounded
  · dsimp only
    rw [hleft]
    exact Nat.dvd_sub h.whole hwhole
  · dsimp only
    rw [hnext, hleft, ← cells_drop, h.items]
  · exact h.count

/-- After an underflow nothing is left. -/
theorem emptied_holds {ar : AudioRegulator} {q : DropQueue UInt8} (h : ar.Holds q) :
    { ar with
      readPos := 0
      writePos := 0
      buffered := 0
      underflowCount := ar.underflowCount + 1 }.Holds ⟨[], q.underflows + 1⟩ where
  small := h.small
  frame := h.frame
  readPos := (Nat.zero_le _).trans_lt h.readPos
  writePos := (Nat.zero_mod _).symm
  bounded := Nat.zero_le _
  whole := Nat.dvd_zero _
  items := rfl
  count := by
    dsimp only
    rw [h.count, UInt32.ofNat_add]
    rfl

/-- A pull is a pull from the queue, with zeros for silence. -/
theorem pull_holds {ar : AudioRegulator} {q : DropQueue UInt8} (h : ar.Holds q) {samples : UInt32}
    (hfits : ar.bytesNeeded samples < 2 ^ 32) :
    ar.SameFormat (audioRegulatorPull ar samples).regulator ∧
      (audioRegulatorPull ar samples).out = q.pulled 0 (ar.bytesNeeded samples) ∧
      (audioRegulatorPull ar samples).regulator.Holds (q.pull (ar.bytesNeeded samples)) := by
  have hneeded := toNat_bytesNeeded hfits
  have hwhole := dvd_bytesNeeded hfits
  rw [← hneeded] at hwhole ⊢
  rw [audioRegulatorPull, DropQueue.pulled, DropQueue.pull, h.length]
  by_cases henough : samples * ar.channels * ar.bytesPerSample ≤ ar.buffered
  · have hle := UInt32.le_iff_toNat_le.1 henough
    rw [if_pos henough, if_pos hle, Nat.sub_eq_zero_of_le hle, List.replicate_zero,
      List.append_nil, ← h.items, cells_take hle, h.items]
    exact ⟨⟨rfl, rfl, rfl⟩, copyOut_eq h.readPos (hle.trans h.bounded), taken_holds h hle hwhole⟩
  · have hlt := UInt32.lt_iff_toNat_lt.1 (UInt32.not_le.1 henough)
    have hall : q.items.take (samples * ar.channels * ar.bytesPerSample).toNat = q.items :=
      List.take_of_length_le (h.length ▸ hlt.le)
    have hdata : (if 0 < ar.buffered then ar.copyOut ar.buffered else []) = q.items := by
      split_ifs with hsome
      · rw [copyOut_eq h.readPos h.bounded, h.items]
      · have hzero : ar.buffered.toNat = 0 := by
          rw [UInt32.lt_iff_toNat_lt] at hsome
          exact Nat.le_zero.1 (not_lt.1 hsome)
        rw [← h.items, hzero, cells_zero]
    rw [if_neg henough, if_neg (not_le.2 hlt), hall]
    refine ⟨⟨rfl, rfl, rfl⟩, ?_, emptied_holds h⟩
    dsimp only
    rw [hdata, UInt32.toNat_sub_of_le _ _ (UInt32.le_iff_toNat_le.2 hlt.le)]

/-! ## Runs -/

namespace RegulatorOp

/-- A push is of whole frames that the buffer can hold, and the byte count of a pull is a word. -/
def Allowed (ar : AudioRegulator) : RegulatorOp → Prop
  | push data => data.bytes.length ≤ ar.bufSize.toNat ∧ ar.bytesPerFrame.toNat ∣ data.bytes.length
  | pull samples => ar.bytesNeeded samples < 2 ^ 32

/-- What a call puts out. -/
def out (ar : AudioRegulator) : RegulatorOp → List (List UInt8)
  | push _ => []
  | pull samples => [(audioRegulatorPull ar samples).out]

/-- The call on the queue, for the format of a regulator. -/
def queueStep (ar : AudioRegulator) (q : DropQueue UInt8) : RegulatorOp → DropQueue UInt8
  | push data => q.push ar.bufSize.toNat ar.bytesPerFrame.toNat data.bytes
  | pull samples => q.pull (ar.bytesNeeded samples)

def queueOut (ar : AudioRegulator) (q : DropQueue UInt8) : RegulatorOp → List (List UInt8)
  | push _ => []
  | pull samples => [q.pulled 0 (ar.bytesNeeded samples)]

end RegulatorOp

theorem AudioRegulator.SameFormat.bytesPerFrame {ar ar' : AudioRegulator} (h : ar.SameFormat ar') :
    ar'.bytesPerFrame = ar.bytesPerFrame := by
  rw [AudioRegulator.bytesPerFrame, h.channels, h.bytesPerSample]
  rfl

theorem AudioRegulator.SameFormat.bytesNeeded {ar ar' : AudioRegulator} (h : ar.SameFormat ar')
    (samples : UInt32) : ar'.bytesNeeded samples = ar.bytesNeeded samples := by
  rw [AudioRegulator.bytesNeeded, h.channels, h.bytesPerSample]
  rfl

theorem AudioRegulator.SameFormat.trans {a b c : AudioRegulator} (h : a.SameFormat b)
    (h' : b.SameFormat c) : a.SameFormat c :=
  ⟨h'.bufSize.trans h.bufSize, h'.channels.trans h.channels,
    h'.bytesPerSample.trans h.bytesPerSample⟩

/-- The relation of a run: a sound regulator of the format holds the queue. -/
structure Simulates (ar₀ ar : AudioRegulator) (q : DropQueue UInt8) : Prop where
  sound : ar.Sound
  format : ar₀.SameFormat ar
  holds : ar.Holds q

/-- A call does to the regulator what it does to the queue, and puts the same out. -/
theorem Simulates.step {ar₀ ar : AudioRegulator} {q : DropQueue UInt8} (h : Simulates ar₀ ar q)
    {op : RegulatorOp} (hop : op.Allowed ar₀) :
    Simulates ar₀ (op.step ar) (op.queueStep ar₀ q) ∧ op.out ar = op.queueOut ar₀ q := by
  cases op with
  | push data =>
    obtain ⟨hfits, hwhole⟩ := hop
    rw [← h.format.bufSize] at hfits
    rw [← h.format.bytesPerFrame] at hwhole
    obtain ⟨ar', hpush, hsound, -⟩ := audioRegulatorPush_sound h.sound data
    obtain ⟨hformat, hholds⟩ := push_holds h.holds hfits hwhole hpush
    have hstep : (RegulatorOp.push data).step ar = ar' := by
      rw [RegulatorOp.step, hpush]
      rfl
    rw [hstep, RegulatorOp.queueStep, ← h.format.bufSize, ← h.format.bytesPerFrame]
    exact ⟨⟨hsound, h.format.trans hformat, hholds⟩, rfl⟩
  | pull samples =>
    rw [RegulatorOp.Allowed, ← h.format.bytesNeeded] at hop
    obtain ⟨hformat, hout, hholds⟩ := pull_holds h.holds hop
    rw [RegulatorOp.queueStep, RegulatorOp.out, RegulatorOp.queueOut, ← h.format.bytesNeeded, hout]
    exact ⟨⟨(audioRegulatorPull_sound h.sound samples).1, h.format.trans hformat, hholds⟩, rfl⟩

/-- A whole run. -/
theorem Simulates.run {ar₀ ar : AudioRegulator} {q : DropQueue UInt8} (h : Simulates ar₀ ar q)
    {ops : List RegulatorOp} (hops : ∀ op ∈ ops, op.Allowed ar₀) :
    Simulates ar₀ (final RegulatorOp.step ar ops) (final (RegulatorOp.queueStep ar₀) q ops) ∧
      emits RegulatorOp.step RegulatorOp.out ar ops =
        emits (RegulatorOp.queueStep ar₀) (RegulatorOp.queueOut ar₀) q ops := by
  induction ops generalizing ar q with
  | nil => exact ⟨h, rfl⟩
  | cons op ops ih =>
    obtain ⟨hop, hrest⟩ := List.forall_mem_cons.1 hops
    obtain ⟨hstep, hout⟩ := h.step hop
    obtain ⟨hfinal, houts⟩ := ih hstep hrest
    exact ⟨hfinal, by rw [emits_cons, emits_cons, hout, houts]⟩

theorem simulates_init {memory : Option (ℕ → UInt8)}
    {sampleRate channels bytesPerSample : UInt32} {ar : AudioRegulator}
    (hinit : audioRegulatorInit memory sampleRate channels bytesPerSample = some ar)
    (hsize : 0 < ar.bufSize) (hsmall : ar.bufSize.toNat < 2 ^ 31) : Simulates ar ar .empty where
  sound := sound_init hinit hsize
  format := ⟨rfl, rfl, rfl⟩
  holds := by
    obtain ⟨buf, -, rfl⟩ := Option.map_eq_some_iff.1 hinit
    have hpos := UInt32.lt_iff_toNat_lt.1 hsize
    refine ⟨hsmall, ?_, hpos, (Nat.zero_mod _).symm, Nat.zero_le _, Nat.dvd_zero _, rfl, rfl⟩
    refine Nat.pos_of_ne_zero fun hzero => ?_
    have hframe : channels * bytesPerSample = 0 := UInt32.toNat_inj.1 hzero
    dsimp only at hsize
    rw [hframe, UInt32.mul_zero] at hsize
    exact absurd hsize (by decide)

/-- From an initialised regulator with a buffer below `2 ^ 31` bytes, every run of allowed calls
puts out what the queue puts out, its pushes end, and the number of buffered samples and of
underflows is that of the queue. -/
theorem regulator_refines {memory : Option (ℕ → UInt8)}
    {sampleRate channels bytesPerSample : UInt32} {ar : AudioRegulator}
    (hinit : audioRegulatorInit memory sampleRate channels bytesPerSample = some ar)
    (hsize : 0 < ar.bufSize) (hsmall : ar.bufSize.toNat < 2 ^ 31) {ops : List RegulatorOp}
    (hops : ∀ op ∈ ops, op.Allowed ar) :
    let held := final RegulatorOp.step ar ops
    let q := final (RegulatorOp.queueStep ar) .empty ops
    emits RegulatorOp.step RegulatorOp.out ar ops =
        emits (RegulatorOp.queueStep ar) (RegulatorOp.queueOut ar) .empty ops ∧
      (∀ data, (audioRegulatorPush held data).isSome) ∧
      (audioRegulatorBufferedSamples held).toNat * ar.bytesPerFrame.toNat = q.items.length ∧
      held.underflowCount = UInt32.ofNat q.underflows := by
  intro held q
  obtain ⟨hrun, hout⟩ := (simulates_init hinit hsize hsmall).run hops
  refine ⟨hout, fun data => ?_, ?_, hrun.holds.count⟩
  · obtain ⟨ar', hpush, -⟩ := audioRegulatorPush_sound hrun.sound data
    rw [hpush]
    rfl
  · rw [audioRegulatorBufferedSamples, ← AudioRegulator.bytesPerFrame, UInt32.toNat_div,
      ← hrun.format.bytesPerFrame, Nat.div_mul_cancel hrun.holds.whole, hrun.holds.length]

/-- One frame is pushed and two are pulled. -/
theorem regulator_refines_stereo :
    emits RegulatorOp.step RegulatorOp.out stereoRegulator
      [.push ⟨[1, 2, 3, 4], by decide⟩, .pull 2] = [[1, 2, 3, 4, 0, 0, 0, 0]] := by
  have hops : ∀ op ∈ [RegulatorOp.push ⟨[1, 2, 3, 4], by decide⟩, .pull 2],
      op.Allowed stereoRegulator := by
    intro op hop
    obtain rfl | hop := List.mem_cons.1 hop
    · exact ⟨by decide, by decide⟩
    · obtain rfl := List.mem_singleton.1 hop
      exact (by decide : 2 * 2 * 2 < 2 ^ 32)
  exact (regulator_refines stereoRegulator_init (by decide) (by decide) hops).1.trans (by decide)

end Autoscrcpy
