import Autoscrcpy.Adb.Checksums
import Autoscrcpy.Device.ServerStart
import Autoscrcpy.Lib.SharedWire

/-!
# The threads that send

While the server runs three threads send on one socket: the reader thread with the `OKAY` of every
`WRTE` and with what `session_handle_message` sends for it, the control sender, and the main thread
with its shell commands. Only the first kind of `OKAY` and the control sender hold `send_lock`.

The frames stay whole exactly in the runs in which no send without the lock overlaps another one
(`framesWhole_iff`).
-/

namespace Autoscrcpy

open Runs SharedWire PartialWrite

/-! ## Calls of the main thread -/

/-- The call of `server_kill`. -/
def serverKill (conn : AdbConnection) (sendRet : ℤ) : SenderRun :=
  adbShell conn "pkill -f com.genymobile.scrcpy.Server".toUTF8.toList sendRet

/-- `power_set_screen_power`. -/
def powerSetScreenPower (conn : AdbConnection) (on : Bool) (sendRet : ℤ) : SenderRun :=
  adbShell conn
    (if on then "input keyevent KEYCODE_WAKEUP".toUTF8.toList
      else "input keyevent KEYCODE_SLEEP".toUTF8.toList) sendRet

/-- A call of the main thread while the server runs. -/
inductive MainCall where
  | shell (command : List UInt8)
  | kill
  | screenPower (on : Bool)
  deriving DecidableEq

def MainCall.run (conn : AdbConnection) (sendRet : ℤ) : MainCall → SenderRun
  | shell command => adbShell conn command sendRet
  | kill => serverKill conn sendRet
  | screenPower on => powerSetScreenPower conn on sendRet

/-! ## What the threads send -/

inductive SendThread where
  | reader
  | ctrlSender
  | main
  deriving DecidableEq, Repr

/-- A call of `adb_send_msg`, and whether `send_lock` is held around it. -/
structure ThreadSend where
  locked : Bool
  msg : SendArgs
  deriving DecidableEq

/-- The messages that `adb_send_msg_conn` passes on to `adb_send_msg`. -/
def plainSends (locked : Bool) (sent : List Sent) : List ThreadSend :=
  (sent.filter fun m => !m.tls).map fun m => ⟨locked, m.msg⟩

/-- The calls of the threads, each with the state that it sees. -/
structure ThreadCalls where
  reader : List (AdbReader × Incoming)
  ctrlSender : List (AdbReader × ControlChunk)
  main : List (AdbConnection × MainCall × ℤ)

/-- What a thread sends, in order. The reader holds the lock for the `OKAY` of a `WRTE` and not for
what `session_handle_message` sends. -/
def ThreadCalls.sends (calls : ThreadCalls) : SendThread → List ThreadSend
  | .reader => calls.reader.flatMap fun x =>
      plainSends (decide x.2.IsWrte) (adbReaderMessage x.1 x.2).sent
  | .ctrlSender => calls.ctrlSender.flatMap fun x =>
      plainSends true ((ctrlSenderChunk x.1 x.2).map Passed.sent)
  | .main => calls.main.flatMap fun x =>
      plainSends false ((x.2.1.run x.1 x.2.2).sent.map Passed.sent)

/-- A send that goes through, with the answers of the socket to it. -/
structure WireSend where
  send : ThreadSend
  answers : List (Answer SocketSignal)
  whole : (adbSendMsg send.msg answers).ret = some 0

/-- The frame of a send in the pieces that the socket took. -/
def WireSend.job (x : WireSend) : Job UInt8 where
  locked := x.send.locked
  pieces := adbSendMsgPieces x.send.msg x.answers
  nonempty _ h := ne_nil_of_mem_adbSendMsgPieces h

/-- The calls of the threads, and how the socket takes what they send. -/
structure SendRun where
  calls : ThreadCalls
  writes : SendThread → List WireSend
  sends : ∀ t, (writes t).map WireSend.send = calls.sends t

namespace SendRun

variable (run : SendRun)

def jobs (t : SendThread) : List (Job UInt8) := (run.writes t).map WireSend.job

/-- The threads, the lock and the socket after the steps of a schedule. -/
def state (sched : List SendThread) : State SendThread UInt8 := final (step run.jobs) .start sched

/-- The bytes that the socket took. -/
def stream (sched : List SendThread) : List UInt8 := (run.state sched).wire.map Prod.snd

end SendRun

/-! ## Complete frames -/

/-- A complete ADB frame. -/
structure Packet.Complete (p : Packet) : Prop where
  magic : p.hdr.MagicOk
  length : p.hdr.dataLength.toNat = p.payload.length

/-- The bytes are complete frames one after the other. -/
def FramesOnly (bytes : List UInt8) : Prop :=
  ∃ packets : List Packet, (∀ p ∈ packets, p.Complete) ∧ bytes = packets.flatMap Packet.toBytes

/-- No thread is inside a frame. -/
def AtRest (s : State SendThread UInt8) : Prop := ∀ t n sent rest, ¬ Inside s t n sent rest

/-- The frames do not interleave: they follow each other on the socket, with at most one unfinished
frame at the end, and where no frame is unfinished the bytes are complete frames. -/
structure SendRun.FramesWhole (run : SendRun) (sched : List SendThread) : Prop where
  frames : WholeFrames run.jobs (run.state sched)
  bytes : AtRest (run.state sched) → FramesOnly (run.stream sched)

/-! ## Every send is a frame -/

/-- Every message of a list is passed with as much data as it announces. -/
def AllValid (sent : List Sent) : Prop := ∀ m ∈ sent, m.msg.Valid

theorem allValid_nil : AllValid [] := by simp [AllValid]

theorem allValid_singleton {m : Sent} (h : m.msg.Valid) : AllValid [m] := by
  simpa [AllValid] using h

theorem allValid_signReply (conn : AdbConnection)
    (signToken : List UInt8 → Option (List UInt8)) (token : List UInt8) :
    AllValid (conn.signReply signToken token) := by
  unfold AdbConnection.signReply
  split
  · exact allValid_singleton (conn.send_valid ..)
  · exact allValid_nil

theorem tlsRound_sent_valid (signToken : List UInt8 → Option (List UInt8)) (conn : AdbConnection)
    (r : RecvMsg) (buf : List UInt8) : AllValid (tlsRound signToken conn r buf).2 := by
  unfold tlsRound
  split_ifs
  · exact allValid_nil
  · exact allValid_signReply _ _ _
  · exact allValid_singleton (conn.sendEmpty_valid ..)
  · exact allValid_nil
  · exact allValid_nil

theorem tlsRounds_sent_valid (signToken : List UInt8 → Option (List UInt8)) (conn : AdbConnection)
    (results : List (RecvMsg × List UInt8)) :
    AllValid ((tlsRounds signToken conn results).flatMap TlsRound.sent) := by
  induction results generalizing conn with
  | nil => exact allValid_nil
  | cons x rs ih =>
    obtain ⟨r, buf⟩ := x
    unfold tlsRounds
    split_ifs
    · exact allValid_nil
    · exact List.forall_mem_append.2 ⟨tlsRound_sent_valid _ _ _ _, ih _⟩

theorem sessionHandleMessage_sent_valid (env : HandleEnv) (conn : AdbConnection) (msg : AdbMessage)
    (payload : List UInt8) : AllValid (sessionHandleMessage env conn msg payload).sent := by
  unfold sessionHandleMessage
  split_ifs
  · exact allValid_nil
  · unfold handleStls
    split_ifs
    · exact allValid_nil
    · exact allValid_singleton (conn.sendEmpty_valid ..)
    · split
      · exact allValid_singleton (conn.sendEmpty_valid ..)
      · exact List.forall_mem_cons.2 ⟨conn.sendEmpty_valid .., tlsRounds_sent_valid _ _ _⟩
  · unfold handleAuth
    split_ifs
    · split
      · exact allValid_singleton (conn.send_valid ..)
      · exact allValid_nil
    · exact allValid_nil
  · exact allValid_singleton (conn.sendEmpty_valid ..)
  · exact allValid_nil
  · unfold handleWrte
    split
    · exact allValid_singleton (conn.sendEmpty_valid ..)
    · exact allValid_nil
  · exact allValid_nil
  · exact allValid_nil

theorem adbReaderMessage_sent_valid (r : AdbReader) (x : Incoming) :
    AllValid (adbReaderMessage r x).sent := by
  unfold adbReaderMessage
  dsimp only
  split_ifs
  · exact allValid_singleton (AdbConnection.sendEmpty_valid ..)
  · exact allValid_nil
  · exact sessionHandleMessage_sent_valid _ _ _ _

theorem ctrlSenderChunk_sent_valid (r : AdbReader) (chunk : ControlChunk) :
    AllValid ((ctrlSenderChunk r chunk).map Passed.sent) := by
  unfold ctrlSenderChunk
  split
  · exact allValid_nil
  · split_ifs
    · exact allValid_singleton (r.conn.send_valid ..)
    · exact allValid_nil

theorem MainCall.sent_valid (conn : AdbConnection) (sendRet : ℤ) (call : MainCall) :
    AllValid ((call.run conn sendRet).sent.map Passed.sent) := by
  have hshell (command : List UInt8) :
      AllValid ((adbShell conn command sendRet).sent.map Passed.sent) :=
    fun m hm => ((SessionCall.shell command sendRet).sent_unsummed conn m hm).valid
  cases call with
  | shell command => exact hshell command
  | kill => exact hshell _
  | screenPower on => exact hshell _

theorem valid_of_mem_plainSends {locked : Bool} {sent : List Sent} (h : AllValid sent)
    {x : ThreadSend} (hx : x ∈ plainSends locked sent) : x.msg.Valid := by
  obtain ⟨m, hm, rfl⟩ := List.mem_map.1 hx
  exact h m (List.mem_filter.1 hm).1

theorem ThreadCalls.sends_valid (calls : ThreadCalls) (t : SendThread) :
    ∀ x ∈ calls.sends t, x.msg.Valid := by
  intro x hx
  cases t with
  | reader =>
    obtain ⟨call, -, hx⟩ := List.mem_flatMap.1 hx
    exact valid_of_mem_plainSends (adbReaderMessage_sent_valid _ _) hx
  | ctrlSender =>
    obtain ⟨call, -, hx⟩ := List.mem_flatMap.1 hx
    exact valid_of_mem_plainSends (ctrlSenderChunk_sent_valid _ _) hx
  | main =>
    obtain ⟨call, -, hx⟩ := List.mem_flatMap.1 hx
    exact valid_of_mem_plainSends (call.2.1.sent_valid _ _) hx

theorem SendArgs.Valid.complete {a : SendArgs} (h : a.Valid) : a.packet.Complete :=
  ⟨rfl, h.length_payload.symm⟩

/-- The pieces of a send make up its frame. -/
theorem WireSend.job_frame (x : WireSend) (h : x.send.msg.Valid) :
    x.job.frame = x.send.msg.packet.toBytes :=
  (flatten_adbSendMsgPieces ..).trans
    ((adbSendMsg_sendsFrame h x.answers).ret_zero_iff.1 x.whole)

theorem frameOf_packets (run : SendRun) (i : SendThread × ℕ) : FramesOnly (frameOf run.jobs i) := by
  obtain ⟨t, n⟩ := i
  unfold frameOf SendRun.jobs
  rw [List.getElem?_map]
  cases hx : (run.writes t)[n]? with
  | none => exact ⟨[], by simp, rfl⟩
  | some x =>
    have hmem : x.send ∈ run.calls.sends t := by
      rw [← run.sends t]
      exact List.mem_map_of_mem (List.mem_of_getElem? hx)
    have hvalid := run.calls.sends_valid t x.send hmem
    refine ⟨[x.send.msg.packet], List.forall_mem_singleton.2 hvalid.complete, ?_⟩
    rw [List.flatMap_singleton]
    exact x.job_frame hvalid

theorem FramesOnly.append {xs ys : List UInt8} (hx : FramesOnly xs) (hy : FramesOnly ys) :
    FramesOnly (xs ++ ys) := by
  obtain ⟨ps, hps, rfl⟩ := hx
  obtain ⟨qs, hqs, rfl⟩ := hy
  exact ⟨ps ++ qs, List.forall_mem_append.2 ⟨hps, hqs⟩, List.flatMap_append.symm⟩

theorem framesOnly_blocks (run : SendRun) (ids : List (SendThread × ℕ)) :
    FramesOnly ((ids.flatMap (block (frameOf run.jobs))).map Prod.snd) := by
  induction ids with
  | nil => exact ⟨[], by simp, rfl⟩
  | cons i ids ih =>
    rw [List.flatMap_cons, List.map_append]
    refine FramesOnly.append ?_ ih
    have hsnd : (block (frameOf run.jobs) i).map Prod.snd = frameOf run.jobs i := by
      simp [block, Function.comp_def]
    rw [hsnd]
    exact frameOf_packets run i

/-- Where whole frames lie on the socket and no thread is inside one, the bytes are complete
frames. -/
theorem framesOnly_of_wholeFrames {run : SendRun} {sched : List SendThread}
    (h : WholeFrames run.jobs (run.state sched)) (hrest : AtRest (run.state sched)) :
    FramesOnly (run.stream sched) := by
  obtain ⟨ids, part, hwire, rfl | ⟨u, n, sent, rest, hin, -⟩⟩ := h
  · rw [SendRun.stream, hwire, List.append_nil]
    exact framesOnly_blocks run ids
  · exact absurd hin (hrest u n sent rest)

/-- The frames do not interleave if and only if no piece of a frame is written while another thread
is inside a frame, unless both hold `send_lock`. -/
theorem framesWhole_iff (run : SendRun) (sched : List SendThread) :
    run.FramesWhole sched ↔
      ∀ x ∈ visits (step run.jobs) .start sched, Separate run.jobs x.1 x.2 := by
  rw [← wholeFrames_iff]
  exact ⟨fun h => h.frames, fun h => ⟨h, framesOnly_of_wholeFrames h⟩⟩

/-! ## An overlap -/

/-- Complete frames begin with a frame, and complete frames follow it. -/
theorem FramesOnly.next {bytes : List UInt8} (h : FramesOnly bytes) (hne : bytes ≠ []) :
    (AdbMessage.ofBytes bytes).MagicOk ∧
      FramesOnly (bytes.drop (24 + (AdbMessage.ofBytes bytes).dataLength.toNat)) := by
  obtain ⟨packets, hc, rfl⟩ := h
  cases packets with
  | nil => exact absurd rfl hne
  | cons p ps =>
    obtain ⟨hp, hps⟩ := List.forall_mem_cons.1 hc
    rw [List.flatMap_cons]
    have hhdr : AdbMessage.ofBytes (p.toBytes ++ ps.flatMap Packet.toBytes) = p.hdr := by
      rw [Packet.toBytes, List.append_assoc, AdbMessage.ofBytes_toBytes_append]
    rw [hhdr, hp.length]
    refine ⟨hp.magic, ps, hps, ?_⟩
    exact List.drop_left' p.length_toBytes

/-- A connection with its control channel open. -/
def openedControl : AdbConnection :=
  (sessionHandleMessage .idle
    (sessionOpenChannel (AdbConnection.initial.negotiate 0x01000001 4096) scrcpyService 0).1
    ⟨ADB_OKAY, 7, 1, 0, 0, ADB_OKAY ^^^ 0xffffffff⟩ []).conn

/-- The control sender has three bytes to send while the main thread calls `server_kill`. -/
def overlapCalls : ThreadCalls where
  reader := []
  ctrlSender := [(⟨openedControl, none, none, some 0⟩, ⟨[1, 2, 3], by decide, by decide⟩)]
  main := [(openedControl, .kill, 0)]

/-- Both sends go through, each in a piece for the header and one for the payload. -/
def overlapRun : SendRun where
  calls := overlapCalls
  writes
    | .reader => []
    | .ctrlSender => [⟨⟨true, ⟨ADB_WRTE, 1, 7, some [1, 2, 3], 3, true⟩⟩,
        [.accept 23, .accept 2], by decide +kernel⟩]
    | .main => [⟨⟨false, ⟨ADB_OPEN, 2, 0,
        some ("shell:pkill -f com.genymobile.scrcpy.Server".toUTF8.toList ++ [0]), 44, true⟩⟩,
        [.accept 23, .accept 43], by decide +kernel⟩]
  sends t := by cases t <;> decide +kernel

/-- The main thread sends between the header and the payload of the control sender. -/
def overlapSched : List SendThread :=
  [.ctrlSender, .ctrlSender, .main, .main, .main, .main, .ctrlSender, .ctrlSender]

/-- All sends have ended, and the bytes are not complete frames: after three bytes that belong to
the `OPEN` no header follows. -/
theorem overlap_breaks_frames :
    [SendThread.reader, .ctrlSender, .main].map (overlapRun.state overlapSched).pos =
        [.idle 0, .idle 1, .idle 1] ∧
      ¬ FramesOnly (overlapRun.stream overlapSched) ∧
      ¬ overlapRun.FramesWhole overlapSched := by
  have hpos : [SendThread.reader, .ctrlSender, .main].map (overlapRun.state overlapSched).pos =
      [.idle 0, .idle 1, .idle 1] := by decide +kernel
  have hbytes : ¬ FramesOnly (overlapRun.stream overlapSched) := by
    intro h
    have hnext := (h.next (by decide +kernel)).2
    exact absurd (hnext.next (by decide +kernel)).1 (by decide +kernel)
  refine ⟨hpos, hbytes, fun h => hbytes (h.bytes ?_)⟩
  intro t n sent rest hin
  simp only [List.map_cons, List.map_nil, List.cons.injEq, and_true] at hpos
  obtain ⟨hreader, hctrl, hmain⟩ := hpos
  cases t with
  | reader => exact absurd (hreader.symm.trans hin.pos) (by simp)
  | ctrlSender => exact absurd (hctrl.symm.trans hin.pos) (by simp)
  | main => exact absurd (hmain.symm.trans hin.pos) (by simp)

end Autoscrcpy
