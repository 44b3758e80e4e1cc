import Autoscrcpy.Adb.Session
import Autoscrcpy.Lib.CText

/-!
# Shell commands and file pushes

`adb_shell`, `adb_push` and `adb_sync_send` of `adb.c`. What the device answers and what `select`,
`fread` and the libraries return is the environment of a call: a list of rounds for each loop. A
list that is shorter than its loop stands for rounds in which nothing arrives.

A call is recorded with the messages that it passes to `adb_send_msg_conn` itself, each with the
limit that was negotiated when it was sent; the replies that `session_handle_message` sends while
the call waits are not among them.
-/

namespace Autoscrcpy

/-- A message passed to `adb_send_msg_conn`, with the `max_payload` of the connection then. -/
structure Passed where
  maxPayload : ℕ
  sent : Sent
  deriving DecidableEq, Repr

/-- The messages are passed to `adb_send_msg_conn`. -/
def AdbConnection.pass (conn : AdbConnection) (sent : List Sent) : List Passed :=
  sent.map (Passed.mk conn.maxPayload)

@[simp] theorem AdbConnection.map_sent_pass (conn : AdbConnection) (sent : List Sent) :
    (conn.pass sent).map Passed.sent = sent := by
  simp [pass, Function.comp_def]

/-- What a call leaves: the connection, the messages it sent and whether it succeeded. -/
structure SenderRun where
  conn : AdbConnection
  sent : List Passed
  ok : Bool

/-- A call that goes on only where the part before it succeeded. -/
def SenderRun.andThen (r : SenderRun) (f : AdbConnection → SenderRun) : SenderRun :=
  if r.ok then
    let r' := f r.conn
    ⟨r'.conn, r.sent ++ r'.sent, r'.ok⟩
  else r

/-! ## Shell commands -/

/-- The text that `snprintf` leaves in a buffer of `size` bytes. -/
def snprintf (size : ℕ) (text : List UInt8) : List UInt8 := text.take (size - 1)

/-- `session_open_channel` as part of a longer call. -/
def openService (conn : AdbConnection) (service : List UInt8) (sendRet : ℤ) : SenderRun :=
  let r := sessionOpenChannel conn service sendRet
  ⟨r.1, conn.pass r.2.1, r.2.2.isSome⟩

/-- The service of a shell command. -/
def shellService (command : List UInt8) : List UInt8 :=
  snprintf SERVICE_NAME_MAX ("shell:".toUTF8.toList ++ command)

/-- `adb_shell`, with the result of the send of its `OPEN`. -/
def adbShell (conn : AdbConnection) (command : List UInt8) (sendRet : ℤ) : SenderRun :=
  if conn.state ≠ .connected then ⟨conn, [], false⟩
  else openService conn (shellService command) sendRet

/-! ## Waiting for messages -/

/-- A round of a loop that waits for messages with `select` and a receive call; `buf` is what the
payload buffer held before. -/
structure ReceiveRound where
  selectRet : ℤ
  buf : List UInt8
  recv : RecvMsg
  handle : HandleEnv

namespace ReceiveRound

/-- The round received a message. -/
def Received (r : ReceiveRound) : Prop := 0 < r.selectRet ∧ r.recv.ret = 1

instance (r : ReceiveRound) : Decidable r.Received :=
  inferInstanceAs (Decidable (0 < r.selectRet ∧ r.recv.ret = 1))

/-- The payload buffer after the receive call. -/
def payload (r : ReceiveRound) : List UInt8 := storePayload r.buf r.recv

/-- A round that hands what it receives to `session_handle_message`. -/
def step (r : ReceiveRound) (conn : AdbConnection) : AdbConnection :=
  if r.Received then (sessionHandleMessage r.handle conn r.recv.hdr r.payload).conn else conn

end ReceiveRound

/-- The state of the channel in a slot. -/
def AdbConnection.chanState (conn : AdbConnection) (slot : ℕ) : Option AdbChanState :=
  (conn.channels.slots[slot]?).map AdbChannel.state

/-- `while (chan->state == CHAN_OPENING && retries > 0)`. -/
def awaitOpen (slot : ℕ) : AdbConnection → List ReceiveRound → AdbConnection
  | conn, [] => conn
  | conn, r :: rs =>
      if conn.chanState slot = some .opening then awaitOpen slot (r.step conn) rs else conn

/-! ## The sync protocol -/

abbrev SYNC_MAX_CHUNK : ℕ := 64 * 1024

/-- What one `fread` of the file brings. -/
structure SyncChunk where
  data : List UInt8
  nonempty : data ≠ []
  bounded : data.length ≤ SYNC_MAX_CHUNK
  deriving DecidableEq

/-- A sync request: its id, a length, and the data. -/
def syncRequest (id : String) (data : List UInt8) : List UInt8 :=
  id.toUTF8.toList ++ (write32le (UInt32.ofNat data.length) ++ data)

/-- The `SEND` request for a path. -/
def syncSend (path : List UInt8) : List UInt8 := syncRequest "SEND" path

/-- The `DATA` request for a chunk of the file. -/
def syncData (chunk : SyncChunk) : List UInt8 := syncRequest "DATA" chunk.data

/-- The `DONE` request. -/
def syncDone : List UInt8 := syncRequest "DONE" []

/-- A `WRTE` on the channel in a slot. -/
def AdbConnection.writeChannel (conn : AdbConnection) (slot : ℕ) (data : List UInt8) :
    List Passed :=
  match conn.channels.slots[slot]? with
  | none => []
  | some c => conn.pass [conn.send ADB_WRTE c.localId c.remoteId data true]

/-- The loop over the file of `adb_sync_send`, with a `session_poll` after each chunk. -/
def streamFile (slot : ℕ) :
    AdbConnection → List (SyncChunk × PollEnv) → AdbConnection × List Passed
  | conn, [] => (conn, [])
  | conn, (chunk, p) :: rest =>
      let r := streamFile slot (sessionPoll conn p).2.conn rest
      (r.1, conn.writeChannel slot (syncData chunk) ++ r.2)

/-- The wait for an answer: polls until one of them handled a message. -/
def awaitAnswer : AdbConnection → List PollEnv → AdbConnection
  | conn, [] => conn
  | conn, p :: ps =>
      if 0 < (sessionPoll conn p).1 then (sessionPoll conn p).2.conn
      else awaitAnswer (sessionPoll conn p).2.conn ps

/-- What happens during an `adb_push`: whether the file opens, the result of the send of the `OPEN`,
whether the buffer can be allocated, the rounds of the wait for the channel, the poll after `SEND`,
the chunks of the file with the poll after each, and the polls after `DONE`. -/
structure PushEnv where
  fileOpens : Bool
  openRet : ℤ
  bufferOk : Bool
  waits : List ReceiveRound
  afterSend : PollEnv
  chunks : List (SyncChunk × PollEnv)
  answers : List PollEnv

/-- `adb_sync_send` on the channel in a slot. -/
def adbSyncSend (conn : AdbConnection) (slot : ℕ) (remote : List UInt8) (env : PushEnv) :
    SenderRun :=
  if env.bufferOk = false then ⟨conn, [], false⟩
  else
    let opened := awaitOpen slot conn (env.waits.take 200)
    if opened.chanState slot ≠ some .open then ⟨opened, [], false⟩
    else
      let streamed := streamFile slot (sessionPoll opened env.afterSend).2.conn env.chunks
      ⟨awaitAnswer streamed.1 (env.answers.take 200),
        opened.writeChannel slot (syncSend remote) ++
          (streamed.2 ++ streamed.1.writeChannel slot syncDone), true⟩

/-- The service of a file push. -/
def syncService : List UInt8 := "sync:".toUTF8.toList

/-- `adb_push`. The channel is closed whatever `adb_sync_send` returned. -/
def adbPush (conn : AdbConnection) (remote : List UInt8) (env : PushEnv) : SenderRun :=
  if conn.state ≠ .connected then ⟨conn, [], false⟩
  else if env.fileOpens = false then ⟨conn, [], false⟩
  else
    let r := sessionOpenChannel conn syncService env.openRet
    match r.2.2 with
    | none => ⟨r.1, conn.pass r.2.1, false⟩
    | some slot =>
        let sync := adbSyncSend r.1 slot remote env
        let closed := sessionCloseChannel sync.conn slot
        ⟨closed.1, conn.pass r.2.1 ++ (sync.sent ++ sync.conn.pass closed.2), sync.ok⟩

/-! ## Slots stay -/

theorem sessionHandleMessage_count (env : HandleEnv) (conn : AdbConnection) (msg : AdbMessage)
    (payload : List UInt8) :
    (sessionHandleMessage env conn msg payload).conn.channels.count = conn.channels.count := by
  rw [sessionHandleMessage_channels]
  split_ifs <;> simp

theorem ReceiveRound.step_count (r : ReceiveRound) (conn : AdbConnection) :
    (r.step conn).channels.count = conn.channels.count := by
  unfold step
  split_ifs
  · exact sessionHandleMessage_count ..
  · rfl

theorem awaitOpen_count (slot : ℕ) (conn : AdbConnection) (rounds : List ReceiveRound) :
    (awaitOpen slot conn rounds).channels.count = conn.channels.count := by
  induction rounds generalizing conn with
  | nil => rfl
  | cons r rs ih =>
    rw [awaitOpen]
    split_ifs
    · rw [ih, r.step_count]
    · rfl

theorem sessionPoll_count (conn : AdbConnection) (p : PollEnv) :
    (sessionPoll conn p).2.conn.channels.count = conn.channels.count := by
  unfold sessionPoll
  split_ifs
  · rfl
  · rfl
  · split <;> rfl
  · split
    · rfl
    · exact sessionHandleMessage_count ..

theorem streamFile_count (slot : ℕ) (conn : AdbConnection) (chunks : List (SyncChunk × PollEnv)) :
    (streamFile slot conn chunks).1.channels.count = conn.channels.count := by
  induction chunks generalizing conn with
  | nil => rfl
  | cons x xs ih =>
    obtain ⟨chunk, p⟩ := x
    rw [streamFile]
    dsimp only
    rw [ih, sessionPoll_count]

/-- On a slot in use a write sends one message. -/
theorem writeChannel_eq {conn : AdbConnection} {slot : ℕ} (h : slot < conn.channels.count)
    (data : List UInt8) :
    ∃ c, conn.channels.slots[slot]? = some c ∧
      conn.writeChannel slot data =
        conn.pass [conn.send ADB_WRTE c.localId c.remoteId data true] := by
  refine ⟨_, List.getElem?_eq_getElem h, ?_⟩
  rw [AdbConnection.writeChannel, List.getElem?_eq_getElem h]

@[simp] theorem length_syncRequest (id : String) (data : List UInt8) :
    (syncRequest id data).length = id.toUTF8.toList.length + (4 + data.length) := by
  simp [syncRequest]

/-- The sync requests are named in four bytes. -/
theorem length_syncId : ∀ id ∈ ["SEND", "DATA", "DONE"], id.toUTF8.toList.length = 4 := by
  simp only [CText.toUTF8_toList]
  decide

end Autoscrcpy
