import Autoscrcpy.Adb.Lifecycle

/-!
# The reader thread

`adb_reader_thread` relays the `WRTE` payloads of three channels to local sockets. It dispatches on
the remote ids of the channels, and a `WRTE` that finds the video or audio channel without a remote
id gives it its own `arg0`: a guess that the `OKAY` of the channel later corrects.

`channel_final` says what the remote ids are after any messages, and `forwarded_exact_iff` when the
three streams are exactly the payloads of their channels.
-/

namespace Autoscrcpy

open Runs

/-- The streams that the reader relays. -/
inductive Stream where
  | video
  | audio
  | ctrl
  deriving DecidableEq, Repr

/-- `adb_reader_t`: the connection and the slots of its channels (`none` for a null pointer). -/
structure AdbReader where
  conn : AdbConnection
  videoChan : Option ℕ
  audioChan : Option ℕ
  ctrlChan : Option ℕ
  deriving DecidableEq

/-- A complete message, with what the libraries and the peer answer while it is handled. -/
structure Incoming where
  packet : Packet
  env : HandleEnv

namespace Incoming

def IsWrte (x : Incoming) : Prop := x.packet.hdr.command = ADB_WRTE

instance (x : Incoming) : Decidable x.IsWrte :=
  inferInstanceAs (Decidable (x.packet.hdr.command = ADB_WRTE))

/-- The message makes its `arg0` the remote id of the channel with the local id. -/
def Binds (x : Incoming) (localId : UInt32) : Prop :=
  (x.packet.hdr.command = ADB_OPEN ∨ x.packet.hdr.command = ADB_OKAY) ∧
    x.packet.hdr.arg1 = localId

instance (x : Incoming) (localId : UInt32) : Decidable (x.Binds localId) :=
  inferInstanceAs (Decidable (_ ∧ _))

theorem IsWrte.not_binds {x : Incoming} (h : x.IsWrte) (localId : UInt32) : ¬ x.Binds localId := by
  rintro ⟨hc | hc, -⟩ <;> rw [h] at hc <;> revert hc <;> decide

/-- The payload of a `WRTE` for the channel with the local id. -/
def ownPayload (localId : UInt32) (x : Incoming) : List UInt8 :=
  if x.IsWrte ∧ x.packet.hdr.arg1 = localId then x.packet.payload else []

end Incoming

/-! ## The thread -/

/-- The first `WRTE` that finds a channel without remote id sets it. -/
def AdbChannel.guess (arg0 : UInt32) (c : AdbChannel) : AdbChannel :=
  if c.remoteId = 0 then { c with remoteId := arg0 } else c

@[simp] theorem AdbChannel.guess_localId (arg0 : UInt32) (c : AdbChannel) :
    (c.guess arg0).localId = c.localId := by
  unfold AdbChannel.guess
  split_ifs <;> rfl

def AdbConnection.guessRemoteId (conn : AdbConnection) (slot : Option ℕ) (arg0 : UInt32) :
    AdbConnection :=
  slot.elim conn fun i => conn.modifyChannel i (AdbChannel.guess arg0)

namespace AdbReader

def chan (r : AdbReader) : Stream → Option ℕ
  | .video => r.videoChan
  | .audio => r.audioChan
  | .ctrl => r.ctrlChan

/-- The channel of a stream. -/
def channel (r : AdbReader) (k : Stream) : Option AdbChannel :=
  (r.chan k).bind fun i => r.conn.channels.slots[i]?

/-- The remote id of the channel of a stream. -/
def remoteIdOf (r : AdbReader) (k : Stream) : Option UInt32 := (r.channel k).map AdbChannel.remoteId

/-- The local id of the channel of a stream. -/
def localIdOf (r : AdbReader) (k : Stream) : Option UInt32 := (r.channel k).map AdbChannel.localId

/-- The stream that a `WRTE` is dispatched to. -/
def route (r : AdbReader) (msg : AdbMessage) : Option Stream :=
  if r.remoteIdOf .video = some msg.arg0 ∧ 0 < msg.dataLength then some .video
  else if r.remoteIdOf .audio = some msg.arg0 ∧ 0 < msg.dataLength then some .audio
  else if r.remoteIdOf .ctrl = some msg.arg0 ∧ 0 < msg.dataLength then some .ctrl
  else none

end AdbReader

/-- What the thread does with one message: the messages it sends, and the bytes it forwards. -/
structure ReaderStep where
  reader : AdbReader
  sent : List Sent
  forward : Option (Stream × List UInt8)

/-- The body of the loop of `adb_reader_thread` after a receive call that returned `1`. -/
def adbReaderMessage (r : AdbReader) (x : Incoming) : ReaderStep :=
  let msg := x.packet.hdr
  if x.IsWrte then
    let conn := (r.conn.guessRemoteId r.videoChan msg.arg0).guessRemoteId r.audioChan msg.arg0
    let r := { r with conn := conn }
    ⟨r, [conn.sendEmpty ADB_OKAY msg.arg1 msg.arg0 true],
      (r.route msg).map fun k => (k, x.packet.payload.take msg.dataLength.toNat)⟩
  else if msg.command = ADB_OKAY then
    ⟨{ r with conn := r.conn.bindChannel msg.arg1 msg.arg0 }, [], none⟩
  else
    let h := sessionHandleMessage x.env r.conn msg x.packet.payload
    ⟨{ r with conn := h.conn }, h.sent, none⟩

namespace AdbReader

def step (r : AdbReader) (x : Incoming) : AdbReader := (adbReaderMessage r x).reader

/-- The bytes that a message makes the thread send to the socket of a stream. -/
def bytesTo (k : Stream) (r : AdbReader) (x : Incoming) : List UInt8 :=
  match (adbReaderMessage r x).forward with
  | some (k', bytes) => if k' = k then bytes else []
  | none => []

/-- All that the thread sends to the socket of a stream. -/
def forwarded (r : AdbReader) (k : Stream) (inputs : List Incoming) : List UInt8 :=
  emits step (bytesTo k) r inputs

/-! ## The channels after one message -/

theorem step_of_wrte (r : AdbReader) {x : Incoming} (h : x.IsWrte) :
    r.step x = { r with
      conn := (r.conn.guessRemoteId r.videoChan x.packet.hdr.arg0).guessRemoteId r.audioChan
        x.packet.hdr.arg0 } := by
  simp [step, adbReaderMessage, h]

/-- Outside `WRTE` the thread does to the channels what `session_handle_message` does. -/
theorem step_channels_of_not_wrte (r : AdbReader) {x : Incoming} (h : ¬ x.IsWrte) :
    (r.step x).conn.channels =
      (sessionHandleMessage x.env r.conn x.packet.hdr x.packet.payload).conn.channels := by
  by_cases hokay : x.packet.hdr.command = ADB_OKAY
  · simp [step, adbReaderMessage, h, hokay, sessionHandleMessage_channels,
      AdbConnection.bindChannel]
  · simp [step, adbReaderMessage, h, hokay]

@[simp] theorem step_chan (r : AdbReader) (x : Incoming) (k : Stream) :
    (r.step x).chan k = r.chan k := by
  unfold step adbReaderMessage
  cases k <;> dsimp only <;> split_ifs <;> rfl

/-- The local ids of the connection. -/
def localIds (r : AdbReader) : List UInt32 := r.conn.channels.slots.map AdbChannel.localId

/-- The state that `server_start` hands to the thread: distinct local ids, and a channel of its own,
without remote id, for each stream that is enabled. -/
structure Ready (r : AdbReader) : Prop where
  nodup : r.localIds.Nodup
  opened : ∀ k i, r.chan k = some i → ∃ c, r.conn.channels.slots[i]? = some c ∧ c.remoteId = 0
  distinct : ∀ k k' i, r.chan k = some i → r.chan k' = some i → k = k'

theorem guessRemoteId_getElem? (conn : AdbConnection) (slot : Option ℕ) (arg0 : UInt32) (i : ℕ) :
    (conn.guessRemoteId slot arg0).channels.slots[i]? =
      (conn.channels.slots[i]?).map fun c => if slot = some i then c.guess arg0 else c := by
  cases slot with
  | none => simp [AdbConnection.guessRemoteId]
  | some j =>
    simp only [AdbConnection.guessRemoteId, Option.elim_some, AdbConnection.channels_modifyChannel,
      ChannelTable.slots_modify, List.getElem?_modify, Option.some.injEq]
    split_ifs <;> simp

/-- Slot by slot, what a message does to the ids. -/
theorem step_getElem? (r : AdbReader) (hd : r.localIds.Nodup) (x : Incoming) {i : ℕ}
    {c : AdbChannel} (h : r.conn.channels.slots[i]? = some c) :
    ∃ c', (r.step x).conn.channels.slots[i]? = some c' ∧ c'.localId = c.localId ∧
      c'.remoteId =
        if x.Binds c.localId then x.packet.hdr.arg0
        else if x.IsWrte ∧ (r.videoChan = some i ∨ r.audioChan = some i) ∧ c.remoteId = 0 then
          x.packet.hdr.arg0
        else c.remoteId := by
  by_cases hw : x.IsWrte
  · rw [step_of_wrte r hw]
    simp only [guessRemoteId_getElem?, h, Option.map_some, if_neg (hw.not_binds c.localId), hw,
      true_and]
    refine ⟨_, rfl, ?_, ?_⟩
    · split_ifs <;> simp
    · by_cases hv : r.videoChan = some i <;> by_cases ha : r.audioChan = some i <;>
        by_cases h0 : c.remoteId = 0 <;> simp [hv, ha, AdbChannel.guess, h0]
  · rw [step_channels_of_not_wrte r hw, sessionHandleMessage_channels]
    have hbind : x.Binds c.localId ↔
        (x.packet.hdr.command = ADB_OPEN ∨ x.packet.hdr.command = ADB_OKAY) ∧
          r.conn.channels.slotOf x.packet.hdr.arg1 = i := by
      rw [ChannelTable.slotOf_eq_iff hd h, Incoming.Binds]
      exact and_congr_right fun _ => eq_comm
    simp only [hw, false_and, if_false]
    by_cases hcmd : x.packet.hdr.command = ADB_OPEN ∨ x.packet.hdr.command = ADB_OKAY
    · by_cases hslot : r.conn.channels.slotOf x.packet.hdr.arg1 = i
      · rw [if_pos (hbind.2 ⟨hcmd, hslot⟩)]
        exact ⟨c.bind x.packet.hdr.arg0, by simp [hcmd, hslot, h], rfl, rfl⟩
      · rw [if_neg fun hb => hslot (hbind.1 hb).2]
        exact ⟨c, by simp [hcmd, hslot, h], rfl, rfl⟩
    · rw [if_neg fun hb => hcmd (hbind.1 hb).1, if_neg hcmd]
      by_cases hclse : x.packet.hdr.command = ADB_CLSE
      · rw [if_pos hclse]
        by_cases hslot : r.conn.channels.slotOf x.packet.hdr.arg0 = i
        · exact ⟨c.close, by simp [hslot, h], rfl, rfl⟩
        · exact ⟨c, by simp [hslot, h], rfl, rfl⟩
      · exact ⟨c, by simp [hclse, h], rfl, rfl⟩

theorem step_localIds (r : AdbReader) (x : Incoming) : (r.step x).localIds = r.localIds := by
  unfold localIds
  by_cases hw : x.IsWrte
  · have hguess (conn : AdbConnection) (slot : Option ℕ) (arg0 : UInt32) :
        (conn.guessRemoteId slot arg0).channels.slots.map AdbChannel.localId =
          conn.channels.slots.map AdbChannel.localId := by
      cases slot with
      | none => rfl
      | some i => exact ChannelTable.map_localId_modify _ _ fun c => by simp
    rw [step_of_wrte r hw]
    exact (hguess ..).trans (hguess ..)
  · rw [step_channels_of_not_wrte r hw, sessionHandleMessage_channels]
    split_ifs
    · exact ChannelTable.map_localId_modify _ _ fun _ => rfl
    · exact ChannelTable.map_localId_modify _ _ fun _ => rfl
    · rfl

/-! ## The channels after any messages -/

/-- What the device keeps to: `ids` gives each channel a distinct nonzero id, its messages carry
that id, and the `WRTE` messages of the relayed channels come after an `OKAY` of theirs. -/
structure Legal (r : AdbReader) (ids : UInt32 → UInt32) (inputs : List Incoming) : Prop where
  ids_ne_zero : ∀ l ∈ r.localIds, ids l ≠ 0
  ids_inj : ∀ l ∈ r.localIds, ∀ l' ∈ r.localIds, ids l = ids l' → l = l'
  length : ∀ x ∈ inputs, x.packet.hdr.dataLength.toNat = x.packet.payload.length
  binds : ∀ x ∈ inputs, ∀ l ∈ r.localIds, x.Binds l → x.packet.hdr.arg0 = ids l
  wrte : ∀ x ∈ inputs, x.IsWrte →
    x.packet.hdr.arg1 ∈ r.localIds ∧ x.packet.hdr.arg0 = ids x.packet.hdr.arg1
  after_okay : ∀ pre x post, inputs = pre ++ x :: post → x.IsWrte → ∀ k,
    r.localIdOf k = some x.packet.hdr.arg1 →
      ∃ b ∈ pre, b.packet.hdr.command = ADB_OKAY ∧ b.packet.hdr.arg1 = x.packet.hdr.arg1

/-- The `arg0` of the first `WRTE`; `0` when there is none. -/
def firstWrte (inputs : List Incoming) : UInt32 :=
  ((inputs.find? fun x => x.IsWrte).map fun x => x.packet.hdr.arg0).getD 0

theorem firstWrte_append_wrte (pre post : List Incoming) {x : Incoming} (h : x.IsWrte) :
    firstWrte (pre ++ x :: post) = firstWrte (pre ++ [x]) := by
  simp only [firstWrte, List.find?_append, List.find?_cons, h, decide_true]

/-- The remote id of a channel after some messages: the id of the device once it is bound, before
that `arg0` of the first `WRTE` where the thread guesses. -/
def remoteIdAfter (ids : UInt32 → UInt32) (guesses : Bool) (localId : UInt32)
    (inputs : List Incoming) : UInt32 :=
  if ∃ b ∈ inputs, b.Binds localId then ids localId
  else if guesses then firstWrte inputs else 0

/-- The thread guesses the ids of the video and the audio channel. -/
def guesses : Stream → Bool
  | .video => true
  | .audio => true
  | .ctrl => false

/-- One more message, on the closed form of the remote id. -/
theorem remoteIdAfter_append {ids : UInt32 → UInt32} {localId : UInt32} {pre : List Incoming}
    {x : Incoming} (g : Bool) (hid : ids localId ≠ 0)
    (hwrte : ∀ y ∈ pre, y.IsWrte → y.packet.hdr.arg0 ≠ 0)
    (hbind : x.Binds localId → x.packet.hdr.arg0 = ids localId) :
    remoteIdAfter ids g localId (pre ++ [x]) =
      if x.Binds localId then x.packet.hdr.arg0
      else if x.IsWrte ∧ g = true ∧ remoteIdAfter ids g localId pre = 0 then x.packet.hdr.arg0
      else remoteIdAfter ids g localId pre := by
  unfold remoteIdAfter
  by_cases hb : x.Binds localId
  · rw [if_pos ⟨x, by simp, hb⟩, if_pos hb, hbind hb]
  · have hex : (∃ b ∈ pre ++ [x], b.Binds localId) ↔ ∃ b ∈ pre, b.Binds localId := by
      simp [or_and_right, exists_or, hb]
    simp only [hex, if_neg hb]
    by_cases hpre : ∃ b ∈ pre, b.Binds localId
    · simp [if_pos hpre, hid]
    · cases g with
      | false => simp [if_neg hpre]
      | true =>
        simp only [if_neg hpre, if_true, true_and]
        -- A guess is not zero once there was a `WRTE`.
        cases hf : pre.find? fun y => y.IsWrte with
        | none =>
          by_cases hw : x.IsWrte <;> simp [firstWrte, List.find?_append, hf, hw]
        | some y =>
          have hyw : y.IsWrte := by simpa using List.find?_some hf
          have hy : y.packet.hdr.arg0 ≠ 0 := hwrte y (List.mem_of_find?_eq_some hf) hyw
          simp [firstWrte, List.find?_append, hf, hy]

theorem final_chan (r : AdbReader) (inputs : List Incoming) (k : Stream) :
    (final step r inputs).chan k = r.chan k := by
  induction inputs using List.reverseRecOn with
  | nil => rfl
  | append_singleton inputs x ih => rw [final_append_singleton, step_chan, ih]

theorem final_localIds (r : AdbReader) (inputs : List Incoming) :
    (final step r inputs).localIds = r.localIds := by
  induction inputs using List.reverseRecOn with
  | nil => rfl
  | append_singleton inputs x ih => rw [final_append_singleton, step_localIds, ih]

/-- The channel of a stream after any messages with the ids of the device. -/
theorem channel_final {r : AdbReader} (hr : r.Ready) {ids : UInt32 → UInt32} {k : Stream} {i : ℕ}
    (hk : r.chan k = some i) {c : AdbChannel} (hc : r.conn.channels.slots[i]? = some c)
    (hid : ids c.localId ≠ 0) {inputs : List Incoming}
    (hwrte : ∀ y ∈ inputs, y.IsWrte → y.packet.hdr.arg0 ≠ 0)
    (hbind : ∀ y ∈ inputs, y.Binds c.localId → y.packet.hdr.arg0 = ids c.localId) :
    ∃ c', (final step r inputs).conn.channels.slots[i]? = some c' ∧ c'.localId = c.localId ∧
      c'.remoteId = remoteIdAfter ids (guesses k) c.localId inputs := by
  induction inputs using List.reverseRecOn with
  | nil =>
    obtain ⟨c', hc', h0⟩ := hr.opened k i hk
    obtain rfl : c' = c := Option.some.inj (hc'.symm.trans hc)
    refine ⟨c', hc, rfl, ?_⟩
    simp [remoteIdAfter, firstWrte, h0]
  | append_singleton pre x ih =>
    obtain ⟨c', hc', hl, hrem⟩ := ih (fun y hy => hwrte y (by simp [hy]))
      fun y hy => hbind y (by simp [hy])
    obtain ⟨c'', hc'', hl', hrem'⟩ := step_getElem? (final step r pre)
      (by rw [final_localIds]; exact hr.nodup) x hc'
    refine ⟨c'', by rw [final_append_singleton, hc''], hl'.trans hl, ?_⟩
    rw [hrem', hl, hrem, remoteIdAfter_append (guesses k) hid (fun y hy => hwrte y (by simp [hy]))
      (hbind x (by simp))]
    -- The slots of the video and the audio channel are those of the streams that are guessed.
    have hguess : ((final step r pre).videoChan = some i ∨ (final step r pre).audioChan = some i) ↔
        guesses k = true := by
      have hv : (final step r pre).videoChan = r.chan .video := final_chan r pre .video
      have ha : (final step r pre).audioChan = r.chan .audio := final_chan r pre .audio
      rw [hv, ha]
      constructor
      · rintro (h | h)
        · rw [hr.distinct k .video i hk h]
          rfl
        · rw [hr.distinct k .audio i hk h]
          rfl
      · intro h
        cases k with
        | video => exact Or.inl hk
        | audio => exact Or.inr hk
        | ctrl => cases h
    simp only [hguess]

/-! ## Where a message goes -/

theorem localIdOf_eq_some_iff {r : AdbReader} {k : Stream} {l : UInt32} :
    r.localIdOf k = some l ↔
      ∃ i c, r.chan k = some i ∧ r.conn.channels.slots[i]? = some c ∧ c.localId = l := by
  simp only [localIdOf, channel, Option.map_eq_some_iff, Option.bind_eq_some_iff]
  constructor
  · rintro ⟨c, ⟨i, hi, hc⟩, hl⟩
    exact ⟨i, c, hi, hc, hl⟩
  · rintro ⟨i, c, hi, hc, hl⟩
    exact ⟨c, ⟨i, hi, hc⟩, hl⟩

theorem mem_localIds_of_localIdOf {r : AdbReader} {k : Stream} {l : UInt32}
    (h : r.localIdOf k = some l) : l ∈ r.localIds := by
  obtain ⟨i, c, -, hc, rfl⟩ := localIdOf_eq_some_iff.1 h
  exact List.mem_map_of_mem (List.mem_of_getElem? hc)

/-- Different streams have different local ids. -/
theorem Ready.stream_eq {r : AdbReader} (hr : r.Ready) {k k' : Stream} {l : UInt32}
    (h : r.localIdOf k = some l) (h' : r.localIdOf k' = some l) : k = k' := by
  obtain ⟨i, c, hi, hc, rfl⟩ := localIdOf_eq_some_iff.1 h
  obtain ⟨i', c', hi', hc', hl⟩ := localIdOf_eq_some_iff.1 h'
  have hslot := ChannelTable.slotOf_of_nodup hr.nodup hc
  rw [← hl, ChannelTable.slotOf_of_nodup hr.nodup hc'] at hslot
  exact hr.distinct k k' i hi (hslot ▸ hi')

section Legal

variable {r : AdbReader} {ids : UInt32 → UInt32} {inputs pre post : List Incoming} {x : Incoming}

theorem Legal.wrte_ne_zero (hl : r.Legal ids inputs) :
    ∀ y ∈ inputs, y.IsWrte → y.packet.hdr.arg0 ≠ 0 := by
  intro y hy hw
  obtain ⟨hmem, hid⟩ := hl.wrte y hy hw
  rw [hid]
  exact hl.ids_ne_zero _ hmem

/-- The remote id of a stream when a `WRTE` is dispatched is the one that the message carries if it
is a message of the stream, or if the stream is not bound yet and its guess is this id. -/
theorem Legal.remoteIdOf_eq_iff (hr : r.Ready) (hl : r.Legal ids inputs)
    (hx : inputs = pre ++ x :: post) (hw : x.IsWrte) {k : Stream} {l : UInt32}
    (hk : r.localIdOf k = some l) :
    (final step r (pre ++ [x])).remoteIdOf k = some x.packet.hdr.arg0 ↔
      (x.packet.hdr.arg1 = l ∨
        guesses k = true ∧ x.packet.hdr.arg0 = firstWrte inputs ∧ ¬ ∃ b ∈ pre, b.Binds l) := by
  have hmem : ∀ y ∈ pre ++ [x], y ∈ inputs := by
    intro y hy
    rw [hx]
    simp only [List.mem_append, List.mem_cons] at hy ⊢
    tauto
  obtain ⟨hx1, hx0⟩ := hl.wrte x (hmem x (by simp)) hw
  have hlmem := mem_localIds_of_localIdOf hk
  obtain ⟨i, c, hi, hc, rfl⟩ := localIdOf_eq_some_iff.1 hk
  obtain ⟨c', hc', -, hrem⟩ := channel_final hr hi hc (hl.ids_ne_zero _ hlmem)
    (fun y hy => hl.wrte_ne_zero y (hmem y hy)) fun y hy => hl.binds y (hmem y hy) _ hlmem
  have hremote : (final step r (pre ++ [x])).remoteIdOf k = some c'.remoteId := by
    rw [remoteIdOf, channel, final_chan, hi, Option.bind_some, hc', Option.map_some]
  have hbound : (∃ b ∈ pre ++ [x], b.Binds c.localId) ↔ ∃ b ∈ pre, b.Binds c.localId := by
    simp [or_and_right, exists_or, hw.not_binds]
  have hfirst : firstWrte (pre ++ [x]) = firstWrte inputs := by
    rw [hx, firstWrte_append_wrte pre post hw]
  have hown : x.packet.hdr.arg1 = c.localId → ∃ b ∈ pre, b.Binds c.localId := by
    intro h
    obtain ⟨b, hb, hcmd, harg⟩ := hl.after_okay pre x post hx hw k (by rw [hk, h])
    exact ⟨b, hb, Or.inr hcmd, harg.trans h⟩
  rw [hremote, Option.some.injEq, hrem, remoteIdAfter, hfirst]
  simp only [hbound]
  by_cases hb : ∃ b ∈ pre, b.Binds c.localId
  · rw [if_pos hb, hx0]
    constructor
    · exact fun h => Or.inl (hl.ids_inj _ hlmem _ hx1 h).symm
    · rintro (h | ⟨-, -, h⟩)
      · rw [h]
      · exact absurd hb h
  · rw [if_neg hb]
    have hne : x.packet.hdr.arg0 ≠ 0 := hl.wrte_ne_zero x (hmem x (by simp)) hw
    constructor
    · intro h
      cases hg : guesses k with
      | true =>
        rw [hg, if_pos rfl] at h
        exact Or.inr ⟨rfl, h.symm, hb⟩
      | false =>
        rw [hg, if_neg (by decide)] at h
        exact absurd h.symm hne
    · rintro (h | ⟨hg, h, -⟩)
      · exact absurd (hown h) hb
      · rw [hg, if_pos rfl, h]

end Legal

theorem route_eq_video_iff {r : AdbReader} {msg : AdbMessage} (h : 0 < msg.dataLength) :
    r.route msg = some .video ↔ r.remoteIdOf .video = some msg.arg0 := by
  unfold route
  split_ifs <;> simp_all

theorem route_eq_audio_iff {r : AdbReader} {msg : AdbMessage} (h : 0 < msg.dataLength) :
    r.route msg = some .audio ↔
      r.remoteIdOf .video ≠ some msg.arg0 ∧ r.remoteIdOf .audio = some msg.arg0 := by
  unfold route
  split_ifs <;> simp_all

theorem route_eq_ctrl_iff {r : AdbReader} {msg : AdbMessage} (h : 0 < msg.dataLength) :
    r.route msg = some .ctrl ↔
      r.remoteIdOf .video ≠ some msg.arg0 ∧ r.remoteIdOf .audio ≠ some msg.arg0 ∧
        r.remoteIdOf .ctrl = some msg.arg0 := by
  unfold route
  split_ifs <;> simp_all

/-! ## The streams -/

/-- A `WRTE` sends its payload to the stream it is dispatched to. -/
theorem bytesTo_of_wrte {r : AdbReader} {x : Incoming} (hw : x.IsWrte)
    (hlen : x.packet.hdr.dataLength.toNat = x.packet.payload.length) (k : Stream) :
    bytesTo k r x =
      if (r.step x).route x.packet.hdr = some k then x.packet.payload else [] := by
  simp only [bytesTo, step, adbReaderMessage, if_pos hw]
  cases route _ x.packet.hdr with
  | none => simp
  | some k' => simp [hlen]

theorem bytesTo_of_not_wrte {r : AdbReader} {x : Incoming} (hw : ¬ x.IsWrte) (k : Stream) :
    bytesTo k r x = [] := by
  simp only [bytesTo, adbReaderMessage, if_neg hw]
  split_ifs <;> rfl

/-- The message that a visit is about brings bytes of its channel. -/
def Brings (x : Incoming) : Prop := x.IsWrte ∧ x.packet.payload ≠ []

theorem Brings.length_pos {x : Incoming} (h : Brings x)
    (hlen : x.packet.hdr.dataLength.toNat = x.packet.payload.length) :
    0 < x.packet.hdr.dataLength := by
  rw [UInt32.lt_iff_toNat_lt, hlen]
  exact List.length_pos_of_ne_nil h.2

/-- What goes to a stream is what belongs to it, for one message. -/
def Exact (r : AdbReader) (inputs : List Incoming) (k : Stream) (l : UInt32) : Prop :=
  ∀ pre x post, inputs = pre ++ x :: post → Brings x →
    ((final step r (pre ++ [x])).route x.packet.hdr = some k ↔ x.packet.hdr.arg1 = l)

section Streams

variable {r : AdbReader} {ids : UInt32 → UInt32} {inputs : List Incoming}

/-- Every message of a stream is dispatched to it. -/
def OwnRouted (r : AdbReader) (inputs : List Incoming) (k : Stream) (l : UInt32) : Prop :=
  ∀ pre x post, inputs = pre ++ x :: post → Brings x → x.packet.hdr.arg1 = l →
    (final step r (pre ++ [x])).route x.packet.hdr = some k

theorem mem_visits_step {v : AdbReader × Incoming} (hv : v ∈ visits step r inputs) :
    ∃ pre post, inputs = pre ++ v.2 :: post ∧ v.1.step v.2 = final step r (pre ++ [v.2]) := by
  obtain ⟨pre, post, hx, hs⟩ := mem_visits_iff.1 hv
  exact ⟨pre, post, hx, by rw [final_append_singleton, hs]⟩

theorem bytesTo_eq_ownPayload_iff (hl : r.Legal ids inputs) {k : Stream} {l : UInt32} :
    (∀ v ∈ visits step r inputs, bytesTo k v.1 v.2 = v.2.ownPayload l) ↔ Exact r inputs k l := by
  constructor
  · rintro h pre x post hx ⟨hw, hne⟩
    have hv : (final step r pre, x) ∈ visits step r inputs := mem_visits_iff.2 ⟨pre, post, hx, rfl⟩
    have heq := h _ hv
    rw [bytesTo_of_wrte hw (hl.length x (by simp [hx]))] at heq
    rw [final_append_singleton]
    unfold Incoming.ownPayload at heq
    simp only [hw, true_and] at heq
    split_ifs at heq with hroute hown
    · exact iff_of_true hroute hown
    · exact absurd heq hne
    · exact absurd heq.symm hne
    · exact iff_of_false hroute ‹_›
  · intro h v hv
    obtain ⟨pre, post, hx, hs⟩ := mem_visits_step hv
    by_cases hw : v.2.IsWrte
    · rw [bytesTo_of_wrte hw (hl.length v.2 (by simp [hx])), hs]
      by_cases hne : v.2.packet.payload = []
      · simp [Incoming.ownPayload, hne]
      · simp only [h pre v.2 post hx ⟨hw, hne⟩, Incoming.ownPayload, hw, true_and]
    · rw [bytesTo_of_not_wrte hw, Incoming.ownPayload, if_neg fun h' => hw h'.1]

/-- Where a stream gets all of its own, it is exact only if it gets nothing else. -/
theorem forwarded_eq_iff (hl : r.Legal ids inputs) {k : Stream} {l : UInt32}
    (hown : OwnRouted r inputs k l) :
    r.forwarded k inputs = inputs.flatMap (Incoming.ownPayload l) ↔ Exact r inputs k l := by
  rw [← bytesTo_eq_ownPayload_iff hl, ← emits_const step (Incoming.ownPayload l) r inputs]
  apply emits_eq_iff_of_length_le
  intro v hv
  obtain ⟨pre, post, hx, hs⟩ := mem_visits_step hv
  unfold Incoming.ownPayload
  split_ifs with h
  · by_cases hne : v.2.packet.payload = []
    · simp [hne]
    · rw [bytesTo_of_wrte h.1 (hl.length v.2 (by simp [hx])), hs,
        if_pos (hown pre v.2 post hx ⟨h.1, hne⟩ h.2)]
  · exact Nat.zero_le _

/-- Before every message with the id of the first `WRTE`, the channel is bound. -/
def BoundAtGuess (inputs pre : List Incoming) (x : Incoming) (l : UInt32) : Prop :=
  x.packet.hdr.arg0 = firstWrte inputs → ∃ b ∈ pre, b.Binds l

theorem Legal.bound_of_own (hl : r.Legal ids inputs) {pre post : List Incoming} {x : Incoming}
    (hx : inputs = pre ++ x :: post) (hw : x.IsWrte) {k : Stream} {l : UInt32}
    (hk : r.localIdOf k = some l) (hown : x.packet.hdr.arg1 = l) : ∃ b ∈ pre, b.Binds l := by
  obtain ⟨b, hb, hcmd, harg⟩ := hl.after_okay pre x post hx hw k (by rw [hk, hown])
  exact ⟨b, hb, Or.inr hcmd, harg.trans hown⟩

/-- A stream without a channel has no remote id. -/
theorem remoteIdOf_final_none (hr : r.Ready) {k : Stream} (h : r.localIdOf k = none)
    (msgs : List Incoming) : (final step r msgs).remoteIdOf k = none := by
  have hk : r.chan k = none := by
    by_contra hne
    obtain ⟨i, hi⟩ := Option.ne_none_iff_exists'.1 hne
    obtain ⟨c, hc, -⟩ := hr.opened k i hi
    rw [localIdOf_eq_some_iff.2 ⟨i, c, hi, hc, rfl⟩] at h
    cases h
  rw [remoteIdOf, channel, final_chan, hk]
  rfl

/-- A stream whose channel is bound at every guess matches its own messages and no others. -/
theorem remoteIdOf_eq_iff_of_bound (hr : r.Ready) (hl : r.Legal ids inputs)
    {pre post : List Incoming} {x : Incoming} (hx : inputs = pre ++ x :: post) (hw : x.IsWrte)
    {k : Stream}
    (hb : ∀ l, r.localIdOf k = some l → guesses k = true → BoundAtGuess inputs pre x l) :
    (final step r (pre ++ [x])).remoteIdOf k = some x.packet.hdr.arg0 ↔
      r.localIdOf k = some x.packet.hdr.arg1 := by
  cases hk : r.localIdOf k with
  | none =>
    rw [remoteIdOf_final_none hr hk]
    simp
  | some l =>
    rw [hl.remoteIdOf_eq_iff hr hx hw hk, Option.some.injEq]
    constructor
    · rintro (h | ⟨hg, hfirst, hnot⟩)
      · exact h.symm
      · exact absurd (hb l hk hg hfirst) hnot
    · exact fun h => Or.inl h.symm

/-- The guess does no harm: when a message with the id of the first `WRTE` brings bytes, the video
channel is bound, and the audio channel is bound too or the message belongs to the video channel. -/
def GuessHarmless (r : AdbReader) (inputs : List Incoming) : Prop :=
  ∀ pre x post, inputs = pre ++ x :: post → Brings x → x.packet.hdr.arg0 = firstWrte inputs →
    (∀ l, r.localIdOf .video = some l → ∃ b ∈ pre, b.Binds l) ∧
      ∀ l, r.localIdOf .audio = some l →
        r.localIdOf .video = some x.packet.hdr.arg1 ∨ ∃ b ∈ pre, b.Binds l

/-- The video stream is exact when no foreign message is dispatched to it. -/
theorem exact_video_iff (hr : r.Ready) (hl : r.Legal ids inputs) {l : UInt32}
    (hk : r.localIdOf .video = some l) :
    r.forwarded .video inputs = inputs.flatMap (Incoming.ownPayload l) ↔
      ∀ pre x post, inputs = pre ++ x :: post → Brings x → BoundAtGuess inputs pre x l := by
  have hroute : ∀ pre x post, inputs = pre ++ x :: post → Brings x →
      ((final step r (pre ++ [x])).route x.packet.hdr = some .video ↔
        x.packet.hdr.arg1 = l ∨
          guesses .video = true ∧ x.packet.hdr.arg0 = firstWrte inputs ∧
            ¬ ∃ b ∈ pre, b.Binds l) := by
    intro pre x post hx hb
    rw [route_eq_video_iff (hb.length_pos (hl.length x (by simp [hx])))]
    exact hl.remoteIdOf_eq_iff hr hx hb.1 hk
  rw [forwarded_eq_iff hl fun pre x post hx hb hown => (hroute pre x post hx hb).2 (Or.inl hown)]
  constructor
  · intro h pre x post hx hb hfirst
    by_contra hnot
    have hown := (h pre x post hx hb).1 ((hroute pre x post hx hb).2 (Or.inr ⟨rfl, hfirst, hnot⟩))
    exact hnot (hl.bound_of_own hx hb.1 hk hown)
  · intro h pre x post hx hb
    rw [hroute pre x post hx hb]
    refine ⟨fun hcase => hcase.resolve_right fun ⟨_, hfirst, hnot⟩ => ?_, Or.inl⟩
    exact hnot (h pre x post hx hb hfirst)

/-- Where the video stream takes its own messages only, the audio stream is exact when no message
of a third channel is dispatched to it. -/
theorem exact_audio_iff (hr : r.Ready) (hl : r.Legal ids inputs)
    (hvideo : ∀ l, r.localIdOf .video = some l →
      ∀ pre x post, inputs = pre ++ x :: post → Brings x → BoundAtGuess inputs pre x l)
    {l : UInt32} (hk : r.localIdOf .audio = some l) :
    r.forwarded .audio inputs = inputs.flatMap (Incoming.ownPayload l) ↔
      ∀ pre x post, inputs = pre ++ x :: post → Brings x →
        r.localIdOf .video = some x.packet.hdr.arg1 ∨ BoundAtGuess inputs pre x l := by
  have hroute : ∀ pre x post, inputs = pre ++ x :: post → Brings x →
      ((final step r (pre ++ [x])).route x.packet.hdr = some .audio ↔
        r.localIdOf .video ≠ some x.packet.hdr.arg1 ∧
          (x.packet.hdr.arg1 = l ∨
            guesses .audio = true ∧ x.packet.hdr.arg0 = firstWrte inputs ∧
              ¬ ∃ b ∈ pre, b.Binds l)) := by
    intro pre x post hx hb
    rw [route_eq_audio_iff (hb.length_pos (hl.length x (by simp [hx]))),
      hl.remoteIdOf_eq_iff hr hx hb.1 hk, ne_eq, ne_eq,
      remoteIdOf_eq_iff_of_bound hr hl hx hb.1 fun l' hl' _ => hvideo l' hl' pre x post hx hb]
  have hother (x : Incoming) (hown : x.packet.hdr.arg1 = l) :
      r.localIdOf .video ≠ some x.packet.hdr.arg1 := by
    intro h
    rw [hown] at h
    cases hr.stream_eq h hk
  rw [forwarded_eq_iff hl fun pre x post hx hb hown =>
    (hroute pre x post hx hb).2 ⟨hother x hown, Or.inl hown⟩]
  constructor
  · intro h pre x post hx hb
    apply or_iff_not_imp_left.2
    intro hv hfirst
    by_contra hnot
    have hown := (h pre x post hx hb).1
      ((hroute pre x post hx hb).2 ⟨hv, Or.inr ⟨rfl, hfirst, hnot⟩⟩)
    exact hnot (hl.bound_of_own hx hb.1 hk hown)
  · intro h pre x post hx hb
    rw [hroute pre x post hx hb]
    refine ⟨fun ⟨hv, hcase⟩ => hcase.resolve_right fun ⟨_, hfirst, hnot⟩ => ?_,
      fun hown => ⟨hother x hown, Or.inl hown⟩⟩
    exact hnot ((h pre x post hx hb).resolve_left hv hfirst)

/-- Where the other two streams take their own messages only, the control stream is exact. -/
theorem exact_ctrl (hr : r.Ready) (hl : r.Legal ids inputs) (h : r.GuessHarmless inputs)
    {l : UInt32} (hk : r.localIdOf .ctrl = some l) :
    r.forwarded .ctrl inputs = inputs.flatMap (Incoming.ownPayload l) := by
  have hexact : Exact r inputs .ctrl l := by
    intro pre x post hx hb
    have hvideo := remoteIdOf_eq_iff_of_bound hr hl hx hb.1 (k := .video)
      fun l' hl' _ hfirst => (h pre x post hx hb hfirst).1 l' hl'
    rw [route_eq_ctrl_iff (hb.length_pos (hl.length x (by simp [hx]))), ne_eq, ne_eq, hvideo,
      hl.remoteIdOf_eq_iff hr hx hb.1 hk]
    constructor
    · rintro ⟨-, -, hown | ⟨hg, -⟩⟩
      · exact hown
      · cases hg
    · intro hown
      have hne (k : Stream) (hk' : k ≠ .ctrl) : r.localIdOf k ≠ some x.packet.hdr.arg1 := by
        intro hk''
        rw [hown] at hk''
        exact hk' (hr.stream_eq hk'' hk)
      have haudio := remoteIdOf_eq_iff_of_bound hr hl hx hb.1 (k := .audio)
        fun l' hl' _ hfirst => ((h pre x post hx hb hfirst).2 l' hl').resolve_left
          (hne .video (by decide))
      exact ⟨hne .video (by decide), fun ha => hne .audio (by decide) (haudio.1 ha), Or.inl hown⟩
  exact (forwarded_eq_iff hl fun pre x post hx hb => (hexact pre x post hx hb).2).2 hexact

end Streams

/-- Each stream that is enabled is exactly the payloads of the `WRTE` messages of its channel, in
order, if and only if the guess does no harm. -/
theorem forwarded_exact_iff {r : AdbReader} (hr : r.Ready) {ids : UInt32 → UInt32}
    {inputs : List Incoming} (hl : r.Legal ids inputs) :
    (∀ k l, r.localIdOf k = some l →
        r.forwarded k inputs = inputs.flatMap (Incoming.ownPayload l)) ↔
      r.GuessHarmless inputs := by
  constructor
  · intro h
    have hvideo := fun l hk => (exact_video_iff hr hl hk).1 (h .video l hk)
    intro pre x post hx hb hfirst
    refine ⟨fun l hk => hvideo l hk pre x post hx hb hfirst, fun l hk => ?_⟩
    exact ((exact_audio_iff hr hl hvideo hk).1 (h .audio l hk) pre x post hx hb).imp_right
      fun hbound => hbound hfirst
  · intro h k l hk
    have hvideo : ∀ l, r.localIdOf .video = some l →
        ∀ pre x post, inputs = pre ++ x :: post → Brings x → BoundAtGuess inputs pre x l :=
      fun l hl' pre x post hx hb hfirst => (h pre x post hx hb hfirst).1 l hl'
    cases k with
    | video => exact (exact_video_iff hr hl hk).2 (hvideo l hk)
    | audio =>
      refine (exact_audio_iff hr hl hvideo hk).2 fun pre x post hx hb => ?_
      apply or_iff_not_imp_left.2
      intro hv hfirst
      exact ((h pre x post hx hb hfirst).2 l hk).resolve_left hv
    | ctrl => exact exact_ctrl hr hl h hk

end AdbReader

/-! ## The start of the thread -/

/-- The service of the three channels. -/
def scrcpyService : List UInt8 := "localabstract:scrcpy".toUTF8.toList

/-- One of the opens of `server_start`: the connection and the slot, or nothing when it failed. -/
def openIfEnabled (enabled : Bool) (sendRet : ℤ) (conn : AdbConnection) :
    Option (AdbConnection × Option ℕ) :=
  if enabled then
    match (sessionOpenChannel conn scrcpyService sendRet).2.2 with
    | none => none
    | some slot => some ((sessionOpenChannel conn scrcpyService sendRet).1, some slot)
  else some (conn, none)

/-- The reader that `server_start` builds on a connection: it opens the video channel, and the audio
and control channels where they are enabled. -/
def startReader (conn : AdbConnection) (audio control : Bool) (sendRet : Stream → ℤ) :
    Option AdbReader := do
  let (conn, videoChan) ← openIfEnabled true (sendRet .video) conn
  let (conn, audioChan) ← openIfEnabled audio (sendRet .audio) conn
  let (conn, ctrlChan) ← openIfEnabled control (sendRet .ctrl) conn
  return ⟨conn, videoChan, audioChan, ctrlChan⟩

/-- An open keeps the channels that are there, and puts one without remote id behind them. -/
theorem openIfEnabled_some {enabled : Bool} {sendRet : ℤ} {conn conn' : AdbConnection}
    {slot : Option ℕ} {n : ℕ} (hf : FreshIds (n + 1) conn)
    (h : openIfEnabled enabled sendRet conn = some (conn', slot)) :
    FreshIds n conn' ∧ conn.channels.slots <+: conn'.channels.slots ∧
      ∀ i, slot = some i → conn.channels.slots.length ≤ i ∧
        ∃ c, conn'.channels.slots[i]? = some c ∧ c.remoteId = 0 := by
  unfold openIfEnabled at h
  split_ifs at h
  · have hfresh := hf.openChannel scrcpyService sendRet
    unfold sessionOpenChannel at h hfresh
    split_ifs at h hfresh
    obtain ⟨rfl, rfl⟩ := Prod.ext_iff.1 (Option.some.inj h)
    refine ⟨hfresh, List.prefix_append _ _, fun i hi => ?_⟩
    obtain rfl : conn.channels.count = i := Option.some.inj hi
    exact ⟨le_rfl, newChannel conn.nextLocalId scrcpyService, List.getElem?_concat_length, rfl⟩
  · obtain ⟨rfl, rfl⟩ := Prod.ext_iff.1 (Option.some.inj h)
    exact ⟨⟨hf.nodup, hf.below, Nat.lt_of_succ_lt hf.room⟩, List.prefix_rfl, by simp⟩

/-- `server_start` hands the thread a state that is ready. -/
theorem startReader_ready {conn : AdbConnection} (hf : FreshIds 3 conn) {audio control : Bool}
    {sendRet : Stream → ℤ} {r : AdbReader} (h : startReader conn audio control sendRet = some r) :
    r.Ready := by
  simp only [startReader, Option.bind_eq_bind, Option.bind_eq_some_iff, Option.pure_def,
    Option.some.injEq, Prod.exists] at h
  obtain ⟨conn₁, v, hv, conn₂, a, ha, conn₃, c, hc, rfl⟩ := h
  obtain ⟨hf₁, hp₁, hv⟩ := openIfEnabled_some hf hv
  obtain ⟨hf₂, hp₂, ha⟩ := openIfEnabled_some hf₁ ha
  obtain ⟨hf₃, hp₃, hc⟩ := openIfEnabled_some hf₂ hc
  have hlater {l l' : List AdbChannel} (hp : l <+: l') {i : ℕ}
      (hi : ∃ c, l[i]? = some c ∧ c.remoteId = 0) : ∃ c, l'[i]? = some c ∧ c.remoteId = 0 := by
    obtain ⟨c, hc, h0⟩ := hi
    obtain ⟨t, rfl⟩ := hp
    exact ⟨c, by rw [List.getElem?_append_left (List.getElem?_eq_some_iff.1 hc).1, hc], h0⟩
  have hlt {l : List AdbChannel} {i : ℕ} (hi : ∃ c, l[i]? = some c ∧ c.remoteId = 0) :
      i < l.length := by
    obtain ⟨c, hc, -⟩ := hi
    exact (List.getElem?_eq_some_iff.1 hc).1
  refine ⟨hf₃.nodup, fun k i hk => ?_, fun k k' i hk hk' => ?_⟩
  · cases k with
    | video => exact hlater (hp₂.trans hp₃) (hv i hk).2
    | audio => exact hlater hp₃ (ha i hk).2
    | ctrl => exact (hc i hk).2
  · -- The three slots lie in ranges of the table that follow each other.
    have hvi : ∀ i, v = some i → i < conn₁.channels.slots.length := fun i hi => hlt (hv i hi).2
    have hai : ∀ i, a = some i →
        conn₁.channels.slots.length ≤ i ∧ i < conn₂.channels.slots.length :=
      fun i hi => ⟨(ha i hi).1, hlt (ha i hi).2⟩
    have hci : ∀ i, c = some i → conn₂.channels.slots.length ≤ i := fun i hi => (hc i hi).1
    have h₂ := hp₂.length_le
    cases k <;> cases k' <;> simp only [AdbReader.chan] at hk hk' <;> grind

/-! ## Two traces -/

/-- A connection whose shell channel is open, with the channels of a reader that relays all three
streams; the device numbers the channel `l` with `l + 19`. -/
def startedReader : AdbReader where
  conn := { AdbConnection.initial with
    state := .connected
    channels := ⟨[⟨1, 20, [], .open⟩, newChannel 2 scrcpyService, newChannel 3 scrcpyService,
      newChannel 4 scrcpyService], by decide⟩
    nextLocalId := 5 }
  videoChan := some 1
  audioChan := some 2
  ctrlChan := some 3

theorem startedReader_ready : startedReader.Ready where
  nodup := by decide
  opened k i hk := by
    cases k <;> obtain rfl := Option.some.inj hk <;> exact ⟨_, rfl, rfl⟩
  distinct k k' i hk hk' := by
    cases k <;> cases k' <;> simp only [startedReader, AdbReader.chan, Option.some.injEq] at hk hk'
    all_goals first
      | rfl
      | omega

/-- A message of the device about the channel `l`. -/
def fromDevice (cmd l : UInt32) (payload : List UInt8) : Incoming where
  packet := ⟨⟨cmd, l + 19, l, UInt32.ofNat payload.length, 0, cmd ^^^ 0xffffffff⟩, payload⟩
  env := .idle

theorem fromDevice_binds {cmd l l' : UInt32} {payload : List UInt8}
    (h : (fromDevice cmd l payload).Binds l') :
    (fromDevice cmd l payload).packet.hdr.arg0 = l' + 19 := by
  obtain ⟨-, rfl⟩ := h
  rfl

/-- The shell writes before the video channel is acknowledged. -/
def shellFirst : List Incoming := [fromDevice ADB_WRTE 1 [104, 105]]

/-- The video channel is acknowledged, and then video and shell write. -/
def videoFirst : List Incoming :=
  [fromDevice ADB_OKAY 2 [], fromDevice ADB_WRTE 2 [7], fromDevice ADB_WRTE 1 [104, 105]]

/-- The shell channel is none of the relayed ones. -/
theorem startedReader_shell (k : Stream) : startedReader.localIdOf k ≠ some 1 := by
  cases k <;> decide

theorem startedReader_localIds : startedReader.localIds = [1, 2, 3, 4] := by decide

theorem videoFirst_legal : startedReader.Legal (· + 19) videoFirst where
  ids_ne_zero := by
    simp only [startedReader_localIds, List.forall_mem_cons, List.not_mem_nil, false_imp_iff,
      implies_true, and_true]
    decide
  ids_inj _ _ _ _ h := (UInt32.add_left_inj 19).1 h
  length := by decide
  binds x hx l _ h := by
    simp only [videoFirst, List.mem_cons, List.not_mem_nil, or_false] at hx
    rcases hx with rfl | rfl | rfl <;> exact fromDevice_binds h
  wrte := by decide
  after_okay pre x post hx hw k hk := by
    rcases pre with _ | ⟨b, _ | ⟨b', _ | ⟨b'', pre⟩⟩⟩ <;>
      simp only [videoFirst, List.nil_append, List.cons_append, List.cons.injEq] at hx
    · rw [← hx.1] at hw
      exact absurd hw (by decide)
    · rw [← hx.1, ← hx.2.1]
      exact ⟨_, List.mem_singleton_self _, rfl, rfl⟩
    · rw [← hx.2.2.1] at hk
      exact absurd hk (startedReader_shell k)
    · simp at hx

theorem shellFirst_legal : startedReader.Legal (· + 19) shellFirst where
  ids_ne_zero := videoFirst_legal.ids_ne_zero
  ids_inj := videoFirst_legal.ids_inj
  length := by decide
  binds x hx l _ h := by
    obtain rfl := List.mem_singleton.1 hx
    exact fromDevice_binds h
  wrte := by decide
  after_okay pre x post hx hw k hk := by
    rcases pre with _ | ⟨b, pre⟩ <;>
      simp only [shellFirst, List.nil_append, List.cons_append, List.cons.injEq] at hx
    · rw [← hx.1] at hk
      exact absurd hk (startedReader_shell k)
    · simp at hx

theorem forwarded_exact_iff_videoFirst :
    startedReader.forwarded .video videoFirst = videoFirst.flatMap (Incoming.ownPayload 2) := by
  refine (AdbReader.forwarded_exact_iff startedReader_ready videoFirst_legal).2 ?_ .video 2 rfl
  intro pre x post hx hb hfirst
  rcases pre with _ | ⟨b, _ | ⟨b', _ | ⟨b'', pre⟩⟩⟩ <;>
    simp only [videoFirst, List.nil_append, List.cons_append, List.cons.injEq] at hx
  · rw [← hx.1] at hb
    exact absurd hb.1 (by decide)
  · rw [← hx.1, ← hx.2.1]
    refine ⟨fun l hl => ⟨_, List.mem_singleton_self _, Or.inr rfl, Option.some.inj hl⟩,
      fun l _ => Or.inl rfl⟩
  · rw [← hx.2.2.1] at hfirst
    exact absurd hfirst (by decide)
  · simp at hx

/-- What the shell writes goes to the video stream. -/
theorem shellFirst_reaches_video :
    startedReader.Legal (· + 19) shellFirst ∧ startedReader.localIdOf .video = some 2 ∧
      startedReader.forwarded .video shellFirst = [104, 105] ∧
      shellFirst.flatMap (Incoming.ownPayload 2) = [] :=
  ⟨shellFirst_legal, rfl, by decide, by decide⟩

end Autoscrcpy
