import Autoscrcpy.Adb.Push
import Autoscrcpy.Device.Reader

/-!
# Starting the server

The ADB session part of `server_start`: the push of the server file over the inline sync protocol,
the shell command that starts the server, and the opening of its channels; and the sends of
`ctrl_sender_thread`. The environment is given as in `Adb/Push`.
-/

namespace Autoscrcpy

/-! ## Configuration -/

/-- What `server_start` reads of `server_config`; `serverPath` says whether a file is to be pushed.
-/
structure ServerConfig where
  serverPath : Bool
  video : Bool
  audio : Bool
  control : Bool
  videoBitRate : UInt32
  audioBitRate : UInt32
  maxSize : UInt32
  deriving DecidableEq, Repr

/-- The path with its mode that `SEND` carries. -/
def serverPathMode : List UInt8 := "/data/local/tmp/scrcpy-server,0644".toUTF8.toList

/-- The shell command that starts the server. -/
def serverCommand (cfg : ServerConfig) : List UInt8 :=
  snprintf 1024 (("CLASSPATH=/data/local/tmp/scrcpy-server " ++
    "app_process / com.genymobile.scrcpy.Server 3.3.2 " ++ "tunnel_forward=true " ++
    "video=" ++ toString cfg.video ++ " audio=" ++ toString cfg.audio ++
    " control=" ++ toString cfg.control ++ " " ++
    "video_bit_rate=" ++ toString cfg.videoBitRate ++
    " audio_bit_rate=" ++ toString cfg.audioBitRate ++
    " max_size=" ++ toString cfg.maxSize ++ " " ++ "audio_codec=opus").toUTF8.toList)

/-! ## The phases -/

/-- What happens during the session part of `server_start`: the results of the sends of the `OPEN`
messages, the rounds of its waits and the chunks of the file. -/
structure StartEnv where
  fileOpens : Bool
  syncRet : ℤ
  waits : List ReceiveRound
  response : ReceiveRound
  chunks : List SyncChunk
  answers : List ReceiveRound
  shellRet : ℤ
  output : List ReceiveRound
  channelRet : Stream → ℤ

/-- The sync status ids, read as little-endian words. -/
abbrev SYNC_OKAY : UInt32 := 0x59414b4f
abbrev SYNC_FAIL : UInt32 := 0x4c494146

/-- The sync status in a round, for the sync channel with the local id. -/
def ReceiveRound.syncStatus (r : ReceiveRound) (localId : UInt32) : Option UInt32 :=
  if r.Received ∧ r.recv.hdr.command = ADB_WRTE ∧ r.recv.hdr.arg1 = localId ∧
      4 ≤ r.recv.hdr.dataLength then
    some (read32le r.payload)
  else none

/-- The wait for the sync response, and whether it was `OKAY`. -/
def awaitPush (localId : UInt32) : AdbConnection → List ReceiveRound → AdbConnection × Bool
  | conn, [] => (conn, false)
  | conn, r :: rs =>
      if r.syncStatus localId = some SYNC_OKAY then (r.step conn, true)
      else if r.syncStatus localId = some SYNC_FAIL then (r.step conn, false)
      else awaitPush localId (r.step conn) rs

/-- The local id of the channel in a slot. -/
def AdbConnection.localIdOf (conn : AdbConnection) (slot : ℕ) : UInt32 :=
  ((conn.channels.slots[slot]?).map AdbChannel.localId).getD 0

/-- The sync protocol of `server_start` on the channel in a slot. -/
def serverSync (conn : AdbConnection) (slot : ℕ) (env : StartEnv) : SenderRun :=
  let opened := awaitOpen slot conn (env.waits.take 200)
  if opened.chanState slot ≠ some .open then ⟨opened, [], false⟩
  else
    let streaming := env.response.step opened
    let sent := opened.writeChannel slot (syncSend serverPathMode) ++
      (env.chunks.flatMap (fun chunk => streaming.writeChannel slot (syncData chunk)) ++
        streaming.writeChannel slot syncDone)
    let answered := awaitPush (streaming.localIdOf slot) streaming (env.answers.take 200)
    if answered.2 then
      let closed := sessionCloseChannel answered.1 slot
      ⟨closed.1, sent ++ answered.1.pass closed.2, true⟩
    else ⟨answered.1, sent, false⟩

/-- The push of the server file. -/
def serverPush (conn : AdbConnection) (cfg : ServerConfig) (env : StartEnv) : SenderRun :=
  if cfg.serverPath = false then ⟨conn, [], true⟩
  else if env.fileOpens = false then ⟨conn, [], false⟩
  else
    let r := sessionOpenChannel conn syncService env.syncRet
    match r.2.2 with
    | none => ⟨r.1, conn.pass r.2.1, false⟩
    | some slot =>
        let sync := serverSync r.1 slot env
        ⟨sync.conn, conn.pass r.2.1 ++ sync.sent, sync.ok⟩

/-- The shell command, and the messages that arrive before the channels are opened. -/
def serverShell (cfg : ServerConfig) (env : StartEnv) (conn : AdbConnection) : SenderRun :=
  let r := adbShell conn (serverCommand cfg) env.shellRet
  if r.ok then { r with conn := (env.output.take 50).foldl (fun conn x => x.step conn) r.conn }
  else r

/-- One of the channel openings. -/
def openChannelIf (enabled : Bool) (sendRet : ℤ) (conn : AdbConnection) : SenderRun :=
  if enabled then openService conn scrcpyService sendRet else ⟨conn, [], true⟩

/-- The session part of `server_start` up to the reader thread. What the cleanup after a failure
sends is left out: it closes channels, with messages that carry no data. -/
def serverStart (conn : AdbConnection) (cfg : ServerConfig) (env : StartEnv) : SenderRun :=
  (serverPush conn cfg env).andThen fun conn =>
    (serverShell cfg env conn).andThen fun conn =>
      (openChannelIf true (env.channelRet .video) conn).andThen fun conn =>
        (openChannelIf cfg.audio (env.channelRet .audio) conn).andThen fun conn =>
          openChannelIf cfg.control (env.channelRet .ctrl) conn

theorem openChannelIf_openIfEnabled (enabled : Bool) (sendRet : ℤ) (conn : AdbConnection) :
    (openIfEnabled enabled sendRet conn).map Prod.fst =
      if (openChannelIf enabled sendRet conn).ok then some (openChannelIf enabled sendRet conn).conn
      else none := by
  unfold openIfEnabled openChannelIf openService
  cases enabled with
  | false => rfl
  | true =>
    rcases h : (sessionOpenChannel conn scrcpyService sendRet).2.2 with _ | slot <;> simp [h]

/-! ## The control sender -/

/-- What one `recv` of the control socketpair brings. -/
structure ControlChunk where
  data : List UInt8
  nonempty : data ≠ []
  bounded : data.length ≤ 1024

/-- The body of the loop of `ctrl_sender_thread`: what it sends for one chunk. -/
def ctrlSenderChunk (r : AdbReader) (chunk : ControlChunk) : List Passed :=
  match r.channel .ctrl with
  | none => []
  | some c =>
      if c.state = .open ∧ c.remoteId ≠ 0 then
        r.conn.pass [r.conn.send ADB_WRTE c.localId c.remoteId chunk.data true]
      else []

end Autoscrcpy
