import Autoscrcpy.Device.Reader

/-!
# Acknowledgements

Three pieces of code answer with `OKAY`: `session_handle_message` to every `OPEN` and to a `WRTE`
whose two ids it finds, and `adb_reader_thread` to every `WRTE`. None of them looks at the state of
a channel. An `OKAY` names an open channel with both ids, and an unknown or closed channel gets
none, in exactly the steps whose message is `Dispatch.Addressed` to an open channel.
-/

namespace Autoscrcpy

open Runs

/-! ## The two dispatchers -/

/-- A step of a connection that has a reader: an operation of the session, or a message that
`adb_reader_thread` takes. -/
inductive Dispatch where
  | session (op : SessionOp)
  | reader (x : Incoming)

namespace Dispatch

def step (r : AdbReader) : Dispatch → AdbReader
  | session op => { r with conn := op.step r.conn }
  | reader x => r.step x

/-- The message that is handled. -/
def message : Dispatch → Option AdbMessage
  | session (.handleMessage _ msg _) => some msg
  | session _ => none
  | reader x => some x.packet.hdr

/-- What the handling of a message sends. -/
def sent (r : AdbReader) : Dispatch → List Sent
  | session (.handleMessage env msg payload) => (sessionHandleMessage env r.conn msg payload).sent
  | session _ => []
  | reader x => (adbReaderMessage r x).sent

/-- The calls of `on_shell_output`. -/
def shell (r : AdbReader) : Dispatch → List (List UInt8)
  | session (.handleMessage env msg payload) => (sessionHandleMessage env r.conn msg payload).shell
  | session _ => []
  | reader x =>
      if x.IsWrte ∨ x.packet.hdr.command = ADB_OKAY then []
      else (sessionHandleMessage x.env r.conn x.packet.hdr x.packet.payload).shell

end Dispatch

/-- The local and the remote id that each `OKAY` among the messages names. -/
def acks (sent : List Sent) : List (UInt32 × UInt32) :=
  (sent.filter fun m => m.msg.cmd = ADB_OKAY).map fun m => (m.msg.arg0, m.msg.arg1)

namespace AdbConnection

/-- A channel of the table is open and has both ids. -/
def OpenFor (conn : AdbConnection) (localId remoteId : UInt32) : Prop :=
  ∃ c ∈ conn.channels.slots, c.localId = localId ∧ c.remoteId = remoteId ∧ c.state = .open

/-- A channel of the table has both ids. -/
def HasBoth (conn : AdbConnection) (localId remoteId : UInt32) : Prop :=
  ∃ c ∈ conn.channels.slots, c.localId = localId ∧ c.remoteId = remoteId

/-- The channel with the local id is unknown or closed. -/
def Missing (conn : AdbConnection) (localId : UInt32) : Prop :=
  ∀ c, conn.channels.slots[conn.channels.slotOf localId]? = some c → c.state = .closed

end AdbConnection

/-- A channel of the table is open, has the local id, and is bound to the remote id or bound to it
by the thread, as one of the two channels that have none yet. -/
def AdbReader.TakesFor (r : AdbReader) (localId remoteId : UInt32) : Prop :=
  ∃ i c, r.conn.channels.slots[i]? = some c ∧ c.localId = localId ∧ c.state = .open ∧
    (c.remoteId = remoteId ∨ c.remoteId = 0 ∧ (r.videoChan = some i ∨ r.audioChan = some i))

namespace Dispatch

/-- Only open, known channels are acknowledged or delivered to. -/
structure Lawful (r : AdbReader) (d : Dispatch) : Prop where
  acknowledged : ∀ ids ∈ acks (d.sent r), (d.step r).conn.OpenFor ids.1 ids.2
  delivered : ∀ msg, d.message = some msg → d.shell r ≠ [] →
    (d.step r).conn.OpenFor msg.arg1 msg.arg0
  silent : ∀ msg, d.message = some msg → msg.command = ADB_OPEN ∨ msg.command = ADB_WRTE →
    r.conn.Missing msg.arg1 → acks (d.sent r) = [] ∧ d.shell r = []

/-- An `OPEN` names a channel that is there and not closed, and a `WRTE` for which the dispatcher
has an answer a channel that is open; for the thread that is every `WRTE`. -/
def Addressed (r : AdbReader) : Dispatch → Prop
  | session (.handleMessage _ msg _) =>
      (msg.command = ADB_OPEN → ¬ r.conn.Missing msg.arg1) ∧
        (msg.command = ADB_WRTE → r.conn.HasBoth msg.arg1 msg.arg0 →
          r.conn.OpenFor msg.arg1 msg.arg0 ∧ ¬ r.conn.Missing msg.arg1)
  | session _ => True
  | reader x =>
      (x.packet.hdr.command = ADB_OPEN → ¬ r.conn.Missing x.packet.hdr.arg1) ∧
        (x.packet.hdr.command = ADB_WRTE →
          r.TakesFor x.packet.hdr.arg1 x.packet.hdr.arg0 ∧ ¬ r.conn.Missing x.packet.hdr.arg1)

end Dispatch

/-! ## What is acknowledged -/

theorem acks_append (l l' : List Sent) : acks (l ++ l') = acks l ++ acks l' := by
  rw [acks, List.filter_append, List.map_append]
  rfl

theorem signReply_acks (conn : AdbConnection) (signToken : List UInt8 → Option (List UInt8))
    (token : List UInt8) : acks (conn.signReply signToken token) = [] := by
  unfold AdbConnection.signReply
  split <;> rfl

theorem tlsRound_acks (signToken : List UInt8 → Option (List UInt8)) (conn : AdbConnection)
    (r : RecvMsg) (buf : List UInt8) : acks (tlsRound signToken conn r buf).2 = [] := by
  unfold tlsRound
  split_ifs
  · rfl
  · exact signReply_acks ..
  · rfl
  · rfl
  · rfl

theorem tlsRounds_acks (signToken : List UInt8 → Option (List UInt8)) (conn : AdbConnection)
    (results : List (RecvMsg × List UInt8)) :
    acks ((tlsRounds signToken conn results).flatMap TlsRound.sent) = [] := by
  induction results generalizing conn with
  | nil => rfl
  | cons x results ih =>
    obtain ⟨r, buf⟩ := x
    rw [tlsRounds]
    split_ifs
    · rfl
    · dsimp only
      rw [List.flatMap_cons, acks_append, ih, tlsRound_acks, List.append_nil]

theorem handleStls_acks (env : HandleEnv) (conn : AdbConnection) :
    acks (handleStls env conn).sent = [] ∧ (handleStls env conn).shell = [] := by
  unfold handleStls
  split_ifs
  · exact ⟨rfl, rfl⟩
  · exact ⟨rfl, rfl⟩
  · rcases env.rpl with _ | rpl
    · exact ⟨rfl, rfl⟩
    · exact ⟨tlsRounds_acks _ _ _, rfl⟩

theorem handleAuth_acks (env : HandleEnv) (conn : AdbConnection) (msg : AdbMessage)
    (payload : List UInt8) :
    acks (handleAuth env conn msg payload).sent = [] ∧
      (handleAuth env conn msg payload).shell = [] := by
  unfold handleAuth
  split_ifs
  · split <;> exact ⟨rfl, rfl⟩
  · exact ⟨rfl, rfl⟩

theorem hasBoth_iff (conn : AdbConnection) (localId remoteId : UInt32) :
    conn.HasBoth localId remoteId ↔
      conn.channels.slotOfBoth localId remoteId < conn.channels.count := by
  rw [ChannelTable.slotOfBoth, ChannelTable.count, List.findIdx_lt_length]
  simp [AdbConnection.HasBoth]

theorem sessionHandleMessage_of_open (env : HandleEnv) (conn : AdbConnection) {msg : AdbMessage}
    (payload : List UInt8) (h : msg.command = ADB_OPEN) :
    sessionHandleMessage env conn msg payload =
      ⟨conn.bindChannel msg.arg1 msg.arg0, [conn.sendEmpty ADB_OKAY msg.arg1 msg.arg0 true],
        []⟩ := by
  rw [sessionHandleMessage, h]
  rfl

theorem sessionHandleMessage_of_wrte (env : HandleEnv) (conn : AdbConnection) {msg : AdbMessage}
    (payload : List UInt8) (h : msg.command = ADB_WRTE) :
    sessionHandleMessage env conn msg payload = handleWrte conn msg payload := by
  rw [sessionHandleMessage, h]
  rfl

/-- Other messages are not acknowledged, and nothing of them is delivered. -/
theorem sessionHandleMessage_silent (env : HandleEnv) (conn : AdbConnection) {msg : AdbMessage}
    (payload : List UInt8) (hopen : msg.command ≠ ADB_OPEN) (hwrte : msg.command ≠ ADB_WRTE) :
    acks (sessionHandleMessage env conn msg payload).sent = [] ∧
      (sessionHandleMessage env conn msg payload).shell = [] := by
  rw [sessionHandleMessage, if_neg hopen, if_neg hwrte]
  split_ifs
  · exact ⟨rfl, rfl⟩
  · exact handleStls_acks env conn
  · exact handleAuth_acks env conn msg payload
  · exact ⟨rfl, rfl⟩
  · exact ⟨rfl, rfl⟩
  · exact ⟨rfl, rfl⟩

/-- A `WRTE` is answered if the table has both its ids. -/
theorem handleWrte_of_hasBoth {conn : AdbConnection} {msg : AdbMessage} (payload : List UInt8)
    (h : conn.HasBoth msg.arg1 msg.arg0) :
    (handleWrte conn msg payload).conn = conn ∧
      (handleWrte conn msg payload).sent = [conn.sendEmpty ADB_OKAY msg.arg1 msg.arg0 true] := by
  rw [handleWrte, if_pos ((hasBoth_iff ..).1 h)]
  exact ⟨rfl, rfl⟩

theorem handleWrte_of_not_hasBoth {conn : AdbConnection} {msg : AdbMessage} (payload : List UInt8)
    (h : ¬ conn.HasBoth msg.arg1 msg.arg0) : handleWrte conn msg payload = ⟨conn, [], []⟩ := by
  rw [handleWrte, if_neg fun hlt => h ((hasBoth_iff ..).2 hlt)]

/-! ## Lawful steps -/

/-- An acknowledged message is lawful exactly if its channel is open after it and was not missing
before. -/
theorem lawful_of_ack {r : AdbReader} {d : Dispatch} {msg : AdbMessage}
    (hmsg : d.message = some msg) (hcmd : msg.command = ADB_OPEN ∨ msg.command = ADB_WRTE)
    (hacks : acks (d.sent r) = [(msg.arg1, msg.arg0)]) :
    d.Lawful r ↔ (d.step r).conn.OpenFor msg.arg1 msg.arg0 ∧ ¬ r.conn.Missing msg.arg1 := by
  constructor
  · intro h
    refine ⟨h.acknowledged (msg.arg1, msg.arg0) (by simp [hacks]), fun hmissing => ?_⟩
    have hnone := (h.silent msg hmsg hcmd hmissing).1
    rw [hacks] at hnone
    cases hnone
  · rintro ⟨hopen, hthere⟩
    refine ⟨?_, ?_, ?_⟩
    · intro ids hids
      rw [hacks, List.mem_singleton] at hids
      rwa [hids]
    · intro msg' hmsg' _
      obtain rfl := Option.some.inj (hmsg.symm.trans hmsg')
      exact hopen
    · intro msg' hmsg' _ hmissing
      obtain rfl := Option.some.inj (hmsg.symm.trans hmsg')
      exact absurd hmissing hthere

/-- A message that nothing answers is lawful. -/
theorem lawful_of_no_ack {r : AdbReader} {d : Dispatch} (hacks : acks (d.sent r) = [])
    (hshell : d.shell r = []) : d.Lawful r where
  acknowledged ids hids := by
    rw [hacks] at hids
    cases hids
  delivered _ _ h := absurd hshell h
  silent _ _ _ _ := ⟨hacks, hshell⟩

/-- To be lawful is a matter of what the step does. -/
theorem Dispatch.Lawful.of_same {r : AdbReader} {d d' : Dispatch} (h : d.Lawful r)
    (hmsg : d'.message = d.message) (hsent : d'.sent r = d.sent r) (hshell : d'.shell r = d.shell r)
    (hstep : d'.step r = d.step r) : d'.Lawful r where
  acknowledged := by
    rw [hsent, hstep]
    exact h.acknowledged
  delivered := by
    rw [hmsg, hshell, hstep]
    exact h.delivered
  silent := by
    rw [hmsg, hsent, hshell]
    exact h.silent

/-- After an `OPEN` for a channel of the table, this channel is open with both ids. -/
theorem openFor_bindChannel {conn : AdbConnection} {localId : UInt32}
    (h : ¬ conn.Missing localId) (remoteId : UInt32) :
    (conn.bindChannel localId remoteId).OpenFor localId remoteId := by
  rw [AdbConnection.Missing] at h
  push Not at h
  obtain ⟨c, hc, -⟩ := h
  have hget : (conn.bindChannel localId remoteId).channels.slots[conn.channels.slotOf localId]? =
      some (c.bind remoteId) := by
    simp [AdbConnection.bindChannel, hc]
  have hid : c.localId = localId := ChannelTable.localId_of_slotOf hc
  exact ⟨c.bind remoteId, List.mem_of_getElem? hget, hid, rfl, rfl⟩

/-- A slot after the guesses of the thread. -/
theorem guesses_getElem? (r : AdbReader) (arg0 : UInt32) (i : ℕ) :
    ((r.conn.guessRemoteId r.videoChan arg0).guessRemoteId r.audioChan arg0).channels.slots[i]? =
      (r.conn.channels.slots[i]?).map fun c =>
        if r.videoChan = some i ∨ r.audioChan = some i then c.guess arg0 else c := by
  have htwice (c : AdbChannel) : (c.guess arg0).guess arg0 = c.guess arg0 := by
    unfold AdbChannel.guess
    split_ifs with h h' <;> rfl
  rw [AdbReader.guessRemoteId_getElem?, AdbReader.guessRemoteId_getElem?, Option.map_map]
  refine congrArg (Option.map · r.conn.channels.slots[i]?) (funext fun c => ?_)
  by_cases hv : r.videoChan = some i <;> by_cases ha : r.audioChan = some i <;>
    simp [hv, ha, htwice]

/-- The table after a `WRTE` that the thread took. -/
theorem openFor_guess_iff (r : AdbReader) (localId remoteId : UInt32) :
    ((r.conn.guessRemoteId r.videoChan remoteId).guessRemoteId r.audioChan remoteId).OpenFor localId
        remoteId ↔ r.TakesFor localId remoteId := by
  constructor
  · rintro ⟨c', hmem, hlocal, hremote, hstate⟩
    obtain ⟨i, hi⟩ := List.mem_iff_getElem?.1 hmem
    rw [guesses_getElem?, Option.map_eq_some_iff] at hi
    obtain ⟨c, hc, rfl⟩ := hi
    refine ⟨i, c, hc, ?_⟩
    unfold AdbChannel.guess at hlocal hremote hstate
    split_ifs at hlocal hremote hstate with hslot hzero
    · exact ⟨hlocal, hstate, Or.inr ⟨hzero, hslot⟩⟩
    · exact ⟨hlocal, hstate, Or.inl hremote⟩
    · exact ⟨hlocal, hstate, Or.inl hremote⟩
  · rintro ⟨i, c, hc, hlocal, hstate, hremote⟩
    have hi := guesses_getElem? r remoteId i
    rw [hc, Option.map_some] at hi
    refine ⟨_, List.mem_of_getElem? hi, ?_⟩
    unfold AdbChannel.guess
    split_ifs with hslot hzero
    · exact ⟨hlocal, rfl, hstate⟩
    · exact ⟨hlocal, hremote.resolve_right fun h => hzero h.1, hstate⟩
    · exact ⟨hlocal, hremote.resolve_right fun h => hslot h.2, hstate⟩

theorem lawful_session_iff (r : AdbReader) (env : HandleEnv) (msg : AdbMessage)
    (payload : List UInt8) :
    (Dispatch.session (.handleMessage env msg payload)).Lawful r ↔
      (Dispatch.session (.handleMessage env msg payload)).Addressed r := by
  set d := Dispatch.session (.handleMessage env msg payload)
  by_cases hopen : msg.command = ADB_OPEN
  · have hne : msg.command ≠ ADB_WRTE := by
      rw [hopen]
      decide
    have hhandled := sessionHandleMessage_of_open env r.conn payload hopen
    have hacks : acks (d.sent r) = [(msg.arg1, msg.arg0)] := by
      change acks (sessionHandleMessage env r.conn msg payload).sent = _
      rw [hhandled]
      rfl
    have hconn : (d.step r).conn = r.conn.bindChannel msg.arg1 msg.arg0 := by
      change (sessionHandleMessage env r.conn msg payload).conn = _
      rw [hhandled]
    rw [lawful_of_ack rfl (Or.inl hopen) hacks, hconn]
    exact ⟨fun h => ⟨fun _ => h.2, fun hwrte => absurd hwrte hne⟩,
      fun h => ⟨openFor_bindChannel (h.1 hopen) _, h.1 hopen⟩⟩
  by_cases hwrte : msg.command = ADB_WRTE
  · have hhandled := sessionHandleMessage_of_wrte env r.conn payload hwrte
    by_cases hboth : r.conn.HasBoth msg.arg1 msg.arg0
    · obtain ⟨hsame, hsent⟩ := handleWrte_of_hasBoth payload hboth
      have hacks : acks (d.sent r) = [(msg.arg1, msg.arg0)] := by
        change acks (sessionHandleMessage env r.conn msg payload).sent = _
        rw [hhandled, hsent]
        rfl
      have hconn : (d.step r).conn = r.conn := by
        change (sessionHandleMessage env r.conn msg payload).conn = _
        rw [hhandled, hsame]
      rw [lawful_of_ack rfl (Or.inr hwrte) hacks, hconn]
      exact ⟨fun h => ⟨fun ho => absurd ho hopen, fun _ _ => h⟩, fun h => h.2 hwrte hboth⟩
    · have hnone := handleWrte_of_not_hasBoth payload hboth
      have hsilent : acks (sessionHandleMessage env r.conn msg payload).sent = [] ∧
          (sessionHandleMessage env r.conn msg payload).shell = [] := by
        rw [hhandled, hnone]
        exact ⟨rfl, rfl⟩
      exact iff_of_true (lawful_of_no_ack hsilent.1 hsilent.2)
        ⟨fun ho => absurd ho hopen, fun _ h => absurd h hboth⟩
  · have hsilent := sessionHandleMessage_silent env r.conn payload hopen hwrte
    exact iff_of_true (lawful_of_no_ack hsilent.1 hsilent.2)
      ⟨fun ho => absurd ho hopen, fun hw => absurd hw hwrte⟩

theorem lawful_reader_iff (r : AdbReader) (x : Incoming) :
    (Dispatch.reader x).Lawful r ↔ (Dispatch.reader x).Addressed r := by
  by_cases hwrte : x.IsWrte
  · have hne : x.packet.hdr.command ≠ ADB_OPEN := by
      rw [show x.packet.hdr.command = ADB_WRTE from hwrte]
      decide
    have hacks : acks ((Dispatch.reader x).sent r) =
        [(x.packet.hdr.arg1, x.packet.hdr.arg0)] := by
      change acks (adbReaderMessage r x).sent = _
      rw [adbReaderMessage, if_pos hwrte]
      rfl
    have hconn : ((Dispatch.reader x).step r).conn =
        (r.conn.guessRemoteId r.videoChan x.packet.hdr.arg0).guessRemoteId r.audioChan
          x.packet.hdr.arg0 := by
      change (r.step x).conn = _
      rw [AdbReader.step_of_wrte r hwrte]
    rw [lawful_of_ack rfl (Or.inr hwrte) hacks, hconn, openFor_guess_iff]
    exact ⟨fun h => ⟨fun ho => absurd ho hne, fun _ => h⟩, fun h => h.2 hwrte⟩
  · by_cases hokay : x.packet.hdr.command = ADB_OKAY
    · have hne : x.packet.hdr.command ≠ ADB_OPEN := by
        rw [hokay]
        decide
      have hsent : (adbReaderMessage r x).sent = [] := by
        rw [adbReaderMessage, if_neg hwrte, if_pos hokay]
      have hacks : acks ((Dispatch.reader x).sent r) = [] := congrArg acks hsent
      exact iff_of_true (lawful_of_no_ack hacks (if_pos (Or.inr hokay)))
        ⟨fun ho => absurd ho hne, fun hw => absurd hw hwrte⟩
    · -- The thread hands the message on.
      have hstep : (adbReaderMessage r x).reader =
          (Dispatch.session (.handleMessage x.env x.packet.hdr x.packet.payload)).step r := by
        rw [adbReaderMessage, if_neg hwrte, if_neg hokay]
        rfl
      have hsent : (adbReaderMessage r x).sent =
          (sessionHandleMessage x.env r.conn x.packet.hdr x.packet.payload).sent := by
        rw [adbReaderMessage, if_neg hwrte, if_neg hokay]
      have hshell : (Dispatch.reader x).shell r =
          (sessionHandleMessage x.env r.conn x.packet.hdr x.packet.payload).shell :=
        if_neg (not_or.2 ⟨hwrte, hokay⟩)
      set d := Dispatch.session (.handleMessage x.env x.packet.hdr x.packet.payload) with hd
      have hsame : (Dispatch.reader x).Lawful r ↔ d.Lawful r := by
        constructor
        · intro h
          exact h.of_same rfl hsent.symm hshell.symm hstep.symm
        · intro h
          exact h.of_same rfl hsent hshell hstep
      rw [hsame, hd, lawful_session_iff]
      exact and_congr_right fun _ => ⟨fun _ hw => absurd hw hwrte, fun _ hw => absurd hw hwrte⟩

/-- A step is lawful exactly if its message is addressed to an open channel. -/
theorem lawful_iff (r : AdbReader) (d : Dispatch) : d.Lawful r ↔ d.Addressed r := by
  cases d with
  | reader x => exact lawful_reader_iff r x
  | session op =>
    cases op with
    | handleMessage env msg payload => exact lawful_session_iff r env msg payload
    | openChannel service sendRet => exact iff_of_true (lawful_of_no_ack rfl rfl) trivial
    | closeChannel slot => exact iff_of_true (lawful_of_no_ack rfl rfl) trivial
    | disconnect => exact iff_of_true (lawful_of_no_ack rfl rfl) trivial

/-- In every run, exactly if every message that is answered is addressed to an open channel, only
open, known channels are acknowledged or delivered to. -/
theorem acknowledged_iff (r : AdbReader) (ops : List Dispatch) :
    (∀ x ∈ visits Dispatch.step r ops, x.2.Lawful x.1) ↔
      ∀ x ∈ visits Dispatch.step r ops, x.2.Addressed x.1 :=
  forall₂_congr fun x _ => lawful_iff x.1 x.2

/-- An `OPEN` for a channel that nobody opened is acknowledged. -/
theorem acknowledged_unknown :
    ¬ ∀ ops : List Dispatch,
      ∀ x ∈ visits Dispatch.step ⟨AdbConnection.initial, none, none, none⟩ ops,
        x.2.Lawful x.1 := by
  intro h
  have hlawful := h [.session (.handleMessage .idle ⟨ADB_OPEN, 9, 5, 0, 0, ADB_OPEN ^^^ 0xffffffff⟩
    [])] _ (List.mem_singleton_self _)
  obtain ⟨c, hc, -⟩ := hlawful.acknowledged (5, 9) (List.mem_singleton_self _)
  cases hc

end Autoscrcpy
