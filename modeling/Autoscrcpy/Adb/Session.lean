import Autoscrcpy.Adb.Connection
import Autoscrcpy.Adb.Receive

/-!
# Handling incoming ADB messages

`session_handle_message` and the receive loop that follows a TLS handshake, which
`session_handle_message` (on `STLS`) and `adb_connect` both run. The loop is given as the list of
its rounds, one for each receive call, so that what a round did can be read off.

`sessionHandleMessage_channels` says once what a message does to the channel table.
-/

namespace Autoscrcpy

/-! ## Negotiated values -/

namespace AdbConnection

/-- How many payload bytes a `CNXN` handler copies into the banner: `(int)data_length`, cut so that
the terminator fits. A negative length has no meaning for `memcpy` and is shown as `0`. -/
def bannerLength (dataLength : UInt32) : ℕ :=
  if (BANNER_MAX : ℤ) ≤ dataLength.toInt32.toInt then BANNER_MAX - 1
  else dataLength.toInt32.toInt.toNat

/-- The banner array after the copy of a payload and its terminator. -/
def bannerCopy (banner : List UInt8) (dataLength : UInt32) (payload : List UInt8) : List UInt8 :=
  payload.take (bannerLength dataLength) ++ 0 :: banner.drop (bannerLength dataLength + 1)

/-- What a `CNXN` with a payload does to the banner. -/
def setBanner (conn : AdbConnection) (dataLength : UInt32) (payload : List UInt8) : AdbConnection :=
  if 0 < dataLength then { conn with banner := bannerCopy conn.banner dataLength payload } else conn

/-- `protocol_version` after a `CNXN`. -/
def negotiatedVersion (arg0 : UInt32) : Int32 :=
  (if arg0 < ADB_VERSION then arg0 else ADB_VERSION).toInt32

/-- `max_payload` after a `CNXN`. -/
def negotiatedPayload (arg1 : UInt32) : ℕ :=
  (if arg1 < UInt32.ofNat ADB_MAX_PAYLOAD then arg1 else UInt32.ofNat ADB_MAX_PAYLOAD).toNat

/-- What a `CNXN` sets besides the banner. -/
def negotiate (conn : AdbConnection) (arg0 arg1 : UInt32) : AdbConnection :=
  { conn with
    protocolVersion := negotiatedVersion arg0
    maxPayload := negotiatedPayload arg1
    state := .connected }

/-- The reply to an `STLS`. -/
def sendStls (conn : AdbConnection) : Sent := conn.sendEmpty ADB_STLS ADB_STLS_VERSION 0 false

/-- The reply to an `AUTH` token, when `crypto_sign_token` signs it. -/
def signReply (conn : AdbConnection) (signToken : List UInt8 → Option (List UInt8))
    (token : List UInt8) : List Sent :=
  match signToken token with
  | some sig => [conn.send ADB_AUTH ADB_AUTH_TYPE_RSAKEY 0 sig true]
  | none => []

end AdbConnection

/-! ## The receive loop after a TLS handshake -/

/-- One round: what its receive call left (with the payload buffer as it was then), and the
connection and the messages sent. -/
structure TlsRound where
  before : AdbConnection
  recv : RecvMsg
  buf : List UInt8
  after : AdbConnection
  sent : List Sent

/-- The body of the loop after its receive call. -/
def tlsRound (signToken : List UInt8 → Option (List UInt8)) (conn : AdbConnection) (r : RecvMsg)
    (buf : List UInt8) : AdbConnection × List Sent :=
  if r.ret < 0 then (conn, [])
  else if r.hdr.command = ADB_AUTH ∧ r.hdr.arg0 = ADB_AUTH_TYPE_TOKEN then
    (conn, conn.signReply signToken (buf.take r.hdr.dataLength.toNat))
  else if r.hdr.command = ADB_STLS then (conn, [conn.sendStls])
  else if r.hdr.command = ADB_CNXN then
    ((conn.setBanner r.hdr.dataLength buf).negotiate r.hdr.arg0 r.hdr.arg1, [])
  else (conn, [])

/-- The rounds of the loop for the results of its receive calls: it goes on while the state is not
`ADB_STATE_CONNECTED`. -/
def tlsRounds (signToken : List UInt8 → Option (List UInt8)) (conn : AdbConnection) :
    List (RecvMsg × List UInt8) → List TlsRound
  | [] => []
  | (r, buf) :: rs =>
      if conn.state = .connected then []
      else
        let o := tlsRound signToken conn r buf
        ⟨conn, r, buf, o.1, o.2⟩ :: tlsRounds signToken o.1 rs

/-- The connection after some rounds. -/
def afterRounds (conn : AdbConnection) : List TlsRound → AdbConnection
  | [] => conn
  | round :: rounds => afterRounds round.after rounds

/-- A receive call stores its payload at the start of the buffer. -/
def storePayload (buf : List UInt8) (r : RecvMsg) : List UInt8 :=
  r.payload ++ buf.drop r.payload.length

/-- The buffer after each of the receive calls that share it. -/
def sharedBuffer (buf : List UInt8) : List RecvMsg → List (RecvMsg × List UInt8)
  | [] => []
  | r :: rs => (r, storePayload buf r) :: sharedBuffer (storePayload buf r) rs

/-- The loop of `adb_connect`: at most 50 rounds, with a buffer on the stack for each (whose
content before the call is the second component). -/
def adbConnectTlsRounds (signToken : List UInt8 → Option (List UInt8)) (conn : AdbConnection)
    (results : List (RecvMsg × List UInt8)) : List TlsRound :=
  tlsRounds signToken conn ((results.take 50).map fun x => (x.1, storePayload x.2 x.1))

/-- The loop of `session_handle_message`: at most 50 rounds, with one buffer on the heap. -/
def stlsRounds (signToken : List UInt8 → Option (List UInt8)) (conn : AdbConnection)
    (rpl : List UInt8) (results : List RecvMsg) : List TlsRound :=
  tlsRounds signToken conn (sharedBuffer rpl (results.take 50))

/-! ## `session_handle_message` -/

/-- What the libraries and the peer answer while a message is handled: `crypto_sign_token`, whether
`tls_handshake` succeeds, the heap buffer (`none` when out of memory), and the results of the
receive calls after the handshake. -/
structure HandleEnv where
  signToken : List UInt8 → Option (List UInt8)
  handshakeOk : Bool
  rpl : Option (List UInt8)
  results : List RecvMsg

/-- Nothing is signed and no handshake succeeds. -/
def HandleEnv.idle : HandleEnv := ⟨fun _ => none, false, none, []⟩

/-- What `session_handle_message` leaves: the connection, the messages sent, and the calls of
`on_shell_output`. -/
structure Handled where
  conn : AdbConnection
  sent : List Sent
  shell : List (List UInt8)

/-- The connection when the receive loop after an `STLS` starts. -/
def AdbConnection.upgraded (conn : AdbConnection) : AdbConnection :=
  { conn with state := .tlsNegotiating, stlsSent := true, tls := true }

/-- The case `ADB_STLS`. -/
def handleStls (env : HandleEnv) (conn : AdbConnection) : Handled :=
  if conn.tls then ⟨conn, [], []⟩
  else
    let reply := conn.sendStls
    if env.handshakeOk = false then
      ⟨{ conn with state := .tlsNegotiating, stlsSent := true }, [reply], []⟩
    else
      match env.rpl with
      | none => ⟨conn.upgraded, [reply], []⟩
      | some rpl =>
          let rounds := stlsRounds env.signToken conn.upgraded rpl env.results
          ⟨afterRounds conn.upgraded rounds, reply :: rounds.flatMap TlsRound.sent, []⟩

/-- The case `ADB_AUTH`. -/
def handleAuth (env : HandleEnv) (conn : AdbConnection) (msg : AdbMessage)
    (payload : List UInt8) : Handled :=
  if msg.arg0 = ADB_AUTH_TYPE_TOKEN then
    match env.signToken (payload.take msg.dataLength.toNat) with
    | some sig =>
        ⟨{ conn with state := .authSent }, [conn.send ADB_AUTH ADB_AUTH_TYPE_RSAKEY 0 sig true], []⟩
    | none => ⟨conn, [], []⟩
  else ⟨conn, [], []⟩

/-- The assignments that `ADB_OPEN` and `ADB_OKAY` make to a channel. -/
def AdbChannel.bind (remoteId : UInt32) (c : AdbChannel) : AdbChannel :=
  { c with remoteId := remoteId, state := .open }

/-- The assignment that `ADB_CLSE` makes to a channel. -/
def AdbChannel.close (c : AdbChannel) : AdbChannel := { c with state := .closed }

/-- The loop of `ADB_OPEN` and `ADB_OKAY` over the channels. -/
def AdbConnection.bindChannel (conn : AdbConnection) (localId remoteId : UInt32) : AdbConnection :=
  conn.modifyChannel (conn.channels.slotOf localId) (AdbChannel.bind remoteId)

/-- The case `ADB_WRTE`. -/
def handleWrte (conn : AdbConnection) (msg : AdbMessage) (payload : List UInt8) : Handled :=
  if conn.channels.slotOfBoth msg.arg1 msg.arg0 < conn.channels.count then
    ⟨conn, [conn.sendEmpty ADB_OKAY msg.arg1 msg.arg0 true],
      if conn.onShellOutput then [payload.take msg.dataLength.toNat] else []⟩
  else ⟨conn, [], []⟩

/-- `session_handle_message`. -/
def sessionHandleMessage (env : HandleEnv) (conn : AdbConnection) (msg : AdbMessage)
    (payload : List UInt8) : Handled :=
  if msg.command = ADB_CNXN then
    ⟨(conn.setBanner msg.dataLength payload).negotiate msg.arg0 msg.arg1, [], []⟩
  else if msg.command = ADB_STLS then handleStls env conn
  else if msg.command = ADB_AUTH then handleAuth env conn msg payload
  else if msg.command = ADB_OPEN then
    ⟨conn.bindChannel msg.arg1 msg.arg0, [conn.sendEmpty ADB_OKAY msg.arg1 msg.arg0 true], []⟩
  else if msg.command = ADB_OKAY then ⟨conn.bindChannel msg.arg1 msg.arg0, [], []⟩
  else if msg.command = ADB_WRTE then handleWrte conn msg payload
  else if msg.command = ADB_CLSE then
    -- the local id is taken from `arg0`
    ⟨conn.modifyChannel (conn.channels.slotOf msg.arg0) AdbChannel.close, [], []⟩
  else ⟨conn, [], []⟩

/-! ## What a message does to the channels -/

theorem closeChannel_eq_self_iff {conn : AdbConnection} {i : ℕ} :
    conn.modifyChannel i AdbChannel.close = conn ↔
      ∀ c, conn.channels.slots[i]? = some c → c.state = .closed := by
  rw [modifyChannel_eq_self_iff]
  apply forall₂_congr
  intro c _
  rcases c with ⟨l, r, service, state⟩
  simp only [AdbChannel.close, AdbChannel.mk.injEq, true_and]
  exact eq_comm

/-- The operation left the channel table and the next local id alone. -/
structure SameTable (conn conn' : AdbConnection) : Prop where
  channels : conn'.channels = conn.channels
  nextLocalId : conn'.nextLocalId = conn.nextLocalId

theorem SameTable.refl (conn : AdbConnection) : SameTable conn conn := ⟨rfl, rfl⟩

theorem SameTable.trans {a b c : AdbConnection} (h : SameTable a b) (h' : SameTable b c) :
    SameTable a c :=
  ⟨h'.channels.trans h.channels, h'.nextLocalId.trans h.nextLocalId⟩

theorem sameTable_cnxn (conn : AdbConnection) (n arg0 arg1 : UInt32) (payload : List UInt8) :
    SameTable conn ((conn.setBanner n payload).negotiate arg0 arg1) := by
  unfold AdbConnection.setBanner
  split_ifs <;> exact ⟨rfl, rfl⟩

theorem tlsRound_sameTable (signToken : List UInt8 → Option (List UInt8)) (conn : AdbConnection)
    (r : RecvMsg) (buf : List UInt8) : SameTable conn (tlsRound signToken conn r buf).1 := by
  unfold tlsRound
  split_ifs
  · exact .refl conn
  · exact .refl conn
  · exact .refl conn
  · exact sameTable_cnxn ..
  · exact .refl conn

theorem afterRounds_sameTable (signToken : List UInt8 → Option (List UInt8)) (conn : AdbConnection)
    (results : List (RecvMsg × List UInt8)) :
    SameTable conn (afterRounds conn (tlsRounds signToken conn results)) := by
  induction results generalizing conn with
  | nil => exact .refl conn
  | cons x rs ih =>
    obtain ⟨r, buf⟩ := x
    unfold tlsRounds
    split_ifs with h
    · exact .refl conn
    · exact (tlsRound_sameTable signToken conn r buf).trans (ih _)

theorem handleStls_sameTable (env : HandleEnv) (conn : AdbConnection) :
    SameTable conn (handleStls env conn).conn := by
  have hup : SameTable conn conn.upgraded := ⟨rfl, rfl⟩
  unfold handleStls
  split_ifs
  · exact .refl conn
  · exact ⟨rfl, rfl⟩
  · rcases env.rpl with _ | rpl
    · exact hup
    · exact hup.trans (afterRounds_sameTable ..)

theorem handleAuth_sameTable (env : HandleEnv) (conn : AdbConnection) (msg : AdbMessage)
    (payload : List UInt8) : SameTable conn (handleAuth env conn msg payload).conn := by
  unfold handleAuth
  split_ifs
  · split <;> exact ⟨rfl, rfl⟩
  · exact .refl conn

theorem handleWrte_conn (conn : AdbConnection) (msg : AdbMessage) (payload : List UInt8) :
    (handleWrte conn msg payload).conn = conn := by
  unfold handleWrte
  split_ifs <;> rfl

/-- All that a message can do to the channel table: `OPEN` and `OKAY` bind the first channel with
the local id `arg1`, and `CLSE` closes the first one with the local id `arg0`. -/
theorem sessionHandleMessage_channels (env : HandleEnv) (conn : AdbConnection) (msg : AdbMessage)
    (payload : List UInt8) :
    (sessionHandleMessage env conn msg payload).conn.channels =
      if msg.command = ADB_OPEN ∨ msg.command = ADB_OKAY then
        conn.channels.modify (conn.channels.slotOf msg.arg1) (AdbChannel.bind msg.arg0)
      else if msg.command = ADB_CLSE then
        conn.channels.modify (conn.channels.slotOf msg.arg0) AdbChannel.close
      else conn.channels := by
  unfold sessionHandleMessage
  split_ifs with _ _ _ _ _ _ _ _ _ _ h <;> first
    | rfl
    | simp_all [(handleStls_sameTable env conn).channels,
        (handleAuth_sameTable env conn msg payload).channels, (sameTable_cnxn ..).channels,
        handleWrte_conn, ADB_CNXN, ADB_STLS, ADB_AUTH, ADB_OPEN, ADB_OKAY, ADB_WRTE, ADB_CLSE]

theorem sessionHandleMessage_nextLocalId (env : HandleEnv) (conn : AdbConnection)
    (msg : AdbMessage) (payload : List UInt8) :
    (sessionHandleMessage env conn msg payload).conn.nextLocalId = conn.nextLocalId := by
  unfold sessionHandleMessage
  split_ifs
  · exact (sameTable_cnxn ..).nextLocalId
  · exact (handleStls_sameTable env conn).nextLocalId
  · exact (handleAuth_sameTable env conn msg payload).nextLocalId
  · rfl
  · rfl
  · rw [handleWrte_conn]
  · rfl
  · rfl

/-! ## `session_poll` -/

/-- What happens during one `session_poll`: the result of `select`, the payload buffer (`none` when
out of memory), what its receive call leaves, and the answers while a message is handled. -/
structure PollEnv where
  selectRet : ℤ
  payload : Option (List UInt8)
  recv : RecvMsg
  handle : HandleEnv

/-- `session_poll`: its return value and what it did. -/
def sessionPoll (conn : AdbConnection) (p : PollEnv) : ℤ × Handled :=
  if conn.fdOpen = false then (-1, ⟨conn, [], []⟩)
  else if p.selectRet ≤ 0 then (p.selectRet, ⟨conn, [], []⟩)
  else
    match p.payload with
    | none => (-1, ⟨conn, [], []⟩)
    | some buf =>
        if p.recv.ret < 0 then (-1, ⟨conn, [], []⟩)
        else (1, sessionHandleMessage p.handle conn p.recv.hdr (storePayload buf p.recv))

end Autoscrcpy
