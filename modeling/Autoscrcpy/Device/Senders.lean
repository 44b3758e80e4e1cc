import Autoscrcpy.Adb.SentSizes
import Autoscrcpy.Device.ServerStart

/-!
# The negotiated limit

The senders cut their data into sizes of their own: services with their terminator, sync requests of
8 bytes and up to 64 KiB of a file, control chunks of up to 1 KiB. None of them looks at
`max_payload`, so they keep to it exactly where these sizes do (`senders_within_iff`).
-/

namespace Autoscrcpy

open SizeRule

/-! ## Calls -/

/-- A call that sends data on a connected connection: of `session_open_channel`, `adb_shell`,
`adb_push`, `server_start`, or the body of the loop of `ctrl_sender_thread` with the slot of the
control channel. -/
inductive SenderCall where
  | openChannel (service : List UInt8) (sendRet : ℤ)
  | shell (command : List UInt8) (sendRet : ℤ)
  | push (remote : List UInt8) (env : PushEnv)
  | start (cfg : ServerConfig) (env : StartEnv)
  | control (chan : Option ℕ) (chunk : ControlChunk)

/-- The messages of a call. -/
def SenderCall.sent (conn : AdbConnection) : SenderCall → List Passed
  | openChannel service sendRet => (openService conn service sendRet).sent
  | shell command sendRet => (adbShell conn command sendRet).sent
  | push remote env => (adbPush conn remote env).sent
  | start cfg env => (serverStart conn cfg env).sent
  | control chan chunk => ctrlSenderChunk ⟨conn, none, none, chan⟩ chunk

/-- No message announces more data than the limit at its time. -/
def WithinLimit (sent : List Passed) : Prop :=
  ∀ m ∈ sent, m.sent.msg.dataLen.toNat ≤ m.maxPayload

instance (sent : List Passed) : Decidable (WithinLimit sent) :=
  inferInstanceAs (Decidable (∀ m ∈ sent, m.sent.msg.dataLen.toNat ≤ m.maxPayload))

/-- At most `max_payload` bytes of data. -/
def negotiatedLimit : SizeRule := ⟨fun limit n => n ≤ limit, Nat.zero_le⟩

theorem withinLimit_iff {sent : List Passed} : WithinLimit sent ↔ negotiatedLimit.Keeps sent :=
  Iff.rfl

/-! ## Sizes that fit -/

section Fits

variable (conn : AdbConnection)

/-- The `OPEN` and, where the sync channel opens, the requests for the server file; there is one
receive call, before the file. -/
def ServerPushFits (cfg : ServerConfig) (env : StartEnv) : Prop :=
  cfg.serverPath → env.fileOpens → conn.channels.count < MAX_CHANNELS →
    6 ≤ conn.maxPayload ∧ (0 ≤ env.syncRet → SyncOpens conn env.syncRet env.waits →
      let opened := afterSyncOpen conn env.syncRet env.waits
      let limit := (env.response.step opened).maxPayload
      negotiatedLimit.SyncFits opened.maxPayload serverPathMode (env.chunks.map (Prod.mk limit))
        limit)

/-- One part of a longer call fits, and the next one fits where the call reaches it. -/
def ThenFits (fits : Prop) (r : SenderRun) (next : AdbConnection → Prop) : Prop :=
  fits ∧ (r.ok → next r.conn)

/-- Every part of `server_start` that is reached fits. -/
def StartFits (cfg : ServerConfig) (env : StartEnv) : Prop :=
  ThenFits (ServerPushFits conn cfg env) (serverPush conn cfg env) fun conn =>
    ThenFits (negotiatedLimit.ShellFits conn (serverCommand cfg)) (serverShell cfg env conn)
        fun conn =>
      ThenFits (negotiatedLimit.OpenFits conn scrcpyService)
          (openChannelIf true (env.channelRet .video) conn) fun conn =>
        ThenFits (cfg.audio → negotiatedLimit.OpenFits conn scrcpyService)
            (openChannelIf cfg.audio (env.channelRet .audio) conn) fun conn =>
          cfg.control → negotiatedLimit.OpenFits conn scrcpyService

end Fits

/-- The sizes that a call works with fit into the limits at their times. -/
def SenderCall.Fits (conn : AdbConnection) : SenderCall → Prop
  | openChannel service _ => negotiatedLimit.OpenFits conn service
  | shell command _ => negotiatedLimit.ShellFits conn command
  | push remote env => negotiatedLimit.PushFits conn remote env
  | start cfg env => StartFits conn cfg env
  | control chan chunk =>
      ∀ i ∈ chan, ∀ c, conn.channels.slots[i]? = some c → c.state = .open → c.remoteId ≠ 0 →
        chunk.data.length ≤ conn.maxPayload

/-! ## The parts of the start -/

section Start

variable {conn : AdbConnection} {slot : ℕ}

theorem keeps_andThen {r : SenderRun} {f : AdbConnection → SenderRun} :
    negotiatedLimit.Keeps (r.andThen f).sent ↔
      ThenFits (negotiatedLimit.Keeps r.sent) r fun conn =>
        negotiatedLimit.Keeps (f conn).sent := by
  unfold SenderRun.andThen ThenFits
  cases r.ok with
  | true => simp only [if_true, keeps_append, true_imp_iff]
  | false => simp

theorem thenFits_congr {p q : Prop} {r : SenderRun} {f g : AdbConnection → Prop} (h : p ↔ q)
    (hf : ∀ conn, f conn ↔ g conn) : ThenFits p r f ↔ ThenFits q r g :=
  and_congr h (imp_congr_right fun _ => hf r.conn)

theorem openChannelIf_keeps (enabled : Bool) (sendRet : ℤ) :
    negotiatedLimit.Keeps (openChannelIf enabled sendRet conn).sent ↔
      (enabled → negotiatedLimit.OpenFits conn scrcpyService) := by
  cases enabled with
  | true => simpa [openChannelIf] using openService_keeps scrcpyService sendRet
  | false => simp [openChannelIf]

theorem serverShell_keeps (cfg : ServerConfig) (env : StartEnv) :
    negotiatedLimit.Keeps (serverShell cfg env conn).sent ↔
      negotiatedLimit.ShellFits conn (serverCommand cfg) := by
  rw [← adbShell_keeps (serverCommand cfg) env.shellRet, serverShell]
  split_ifs <;> rfl

theorem serverRequests_keeps {opened streaming : AdbConnection}
    (hopened : slot < opened.channels.count) (hstreaming : slot < streaming.channels.count)
    (chunks : List SyncChunk) :
    negotiatedLimit.Keeps (opened.writeChannel slot (syncSend serverPathMode) ++
        (chunks.flatMap (fun chunk => streaming.writeChannel slot (syncData chunk)) ++
          streaming.writeChannel slot syncDone)) ↔
      negotiatedLimit.SyncFits opened.maxPayload serverPathMode
        (chunks.map (Prod.mk streaming.maxPayload)) streaming.maxPayload := by
  have hchunks : negotiatedLimit.Keeps
      (chunks.flatMap fun chunk => streaming.writeChannel slot (syncData chunk)) ↔
      ∀ x ∈ chunks.map (Prod.mk streaming.maxPayload),
        negotiatedLimit.allows x.1 (8 + x.2.data.length) := by
    rw [List.forall_mem_map]
    induction chunks with
    | nil => simp
    | cons chunk chunks ih =>
      rw [List.flatMap_cons, keeps_append, writeChannel_keeps hstreaming, length_syncData,
        List.forall_mem_cons, ih]
  rw [keeps_append, keeps_append, writeChannel_keeps hopened, hchunks,
    writeChannel_keeps hstreaming, length_syncSend, length_syncDone]
  exact ⟨fun ⟨hp, hc, hd⟩ => ⟨hp, hc, hd⟩, fun ⟨hp, hc, hd⟩ => ⟨hp, hc, hd⟩⟩

theorem serverSync_keeps (h : slot < conn.channels.count) (env : StartEnv) :
    negotiatedLimit.Keeps (serverSync conn slot env).sent ↔
      ((awaitOpen slot conn (env.waits.take 200)).chanState slot = some .open →
        let opened := awaitOpen slot conn (env.waits.take 200)
        let limit := (env.response.step opened).maxPayload
        negotiatedLimit.SyncFits opened.maxPayload serverPathMode (env.chunks.map (Prod.mk limit))
          limit) := by
  have hopened : slot < (awaitOpen slot conn (env.waits.take 200)).channels.count := by
    rwa [awaitOpen_count]
  unfold serverSync
  generalize awaitOpen slot conn (env.waits.take 200) = opened at hopened
  by_cases hopen : opened.chanState slot = some .open
  · have hstreaming : slot < (env.response.step opened).channels.count := by
      rwa [ReceiveRound.step_count]
    simp only [hopen, ne_eq, not_true_eq_false, if_false, true_imp_iff]
    -- the `CLSE` after an `OKAY` carries no data
    rw [← serverRequests_keeps hopened hstreaming env.chunks]
    split_ifs
    · exact keeps_append.trans (and_iff_left (keeps_close slot))
    · rfl
  · simp [hopen]

theorem serverPush_keeps (cfg : ServerConfig) (env : StartEnv) :
    negotiatedLimit.Keeps (serverPush conn cfg env).sent ↔ ServerPushFits conn cfg env := by
  have hopen := negotiatedLimit.openSync_keeps conn env.syncRet
  unfold serverPush ServerPushFits SyncOpens afterSyncOpen
  cases hpath : cfg.serverPath with
  | false => simp
  | true =>
    cases hfile : env.fileOpens with
    | false => simp
    | true =>
      simp only [Bool.true_eq_false, if_false, true_imp_iff]
      rw [sessionOpenChannel_slot]
      by_cases hslot : conn.channels.count < MAX_CHANNELS ∧ 0 ≤ env.syncRet
      · obtain ⟨hcount, hret⟩ := hslot
        have hlt := sessionOpenChannel_count syncService hcount hret
        simp only [hcount, hret, and_self, if_true, true_imp_iff] at hopen ⊢
        rw [keeps_append, hopen, serverSync_keeps hlt]
        rfl
      · rw [if_neg hslot]
        exact hopen.trans (imp_congr_right fun hcount =>
          (and_iff_left fun hret => absurd ⟨hcount, hret⟩ hslot).symm)

theorem serverStart_keeps (cfg : ServerConfig) (env : StartEnv) :
    negotiatedLimit.Keeps (serverStart conn cfg env).sent ↔ StartFits conn cfg env := by
  unfold serverStart StartFits
  rw [keeps_andThen]
  refine thenFits_congr (serverPush_keeps cfg env) fun conn => ?_
  rw [keeps_andThen]
  refine thenFits_congr (serverShell_keeps cfg env) fun conn => ?_
  rw [keeps_andThen]
  refine thenFits_congr ((openChannelIf_keeps true _).trans (by simp)) fun conn => ?_
  rw [keeps_andThen]
  exact thenFits_congr (openChannelIf_keeps cfg.audio _) fun conn =>
    openChannelIf_keeps cfg.control _

end Start

/-! ## All senders -/

theorem ctrlSenderChunk_keeps (conn : AdbConnection) (chan : Option ℕ) (chunk : ControlChunk) :
    negotiatedLimit.Keeps (ctrlSenderChunk ⟨conn, none, none, chan⟩ chunk) ↔
      (SenderCall.control chan chunk).Fits conn := by
  have hsmall : chunk.data.length % 2 ^ 32 = chunk.data.length :=
    Nat.mod_eq_of_lt (by have := chunk.bounded; omega)
  unfold SenderCall.Fits ctrlSenderChunk AdbReader.channel AdbReader.chan
  cases chan with
  | none => simp
  | some i =>
    rcases hi : conn.channels.slots[i]? with _ | c
    · simp [hi]
    · simp only [Option.bind_some, hi, Option.mem_def, Option.some.injEq, forall_eq']
      by_cases hopen : c.state = .open ∧ c.remoteId ≠ 0
      · rw [if_pos hopen, keeps_send, hsmall]
        exact ⟨fun h _ _ => h, fun h => h hopen.1 hopen.2⟩
      · rw [if_neg hopen]
        exact iff_of_true keeps_nil fun hstate hid => absurd ⟨hstate, hid⟩ hopen

/-- Every sender keeps to the limit exactly where the sizes that it works with itself fit: nothing
is cut to `max_payload`. -/
theorem senders_within_iff (conn : AdbConnection) (call : SenderCall) :
    WithinLimit (call.sent conn) ↔ call.Fits conn := by
  rw [withinLimit_iff]
  cases call with
  | openChannel service sendRet => exact openService_keeps service sendRet
  | shell command sendRet => exact adbShell_keeps command sendRet
  | push remote env => exact adbPush_keeps remote env
  | start cfg env => exact serverStart_keeps cfg env
  | control chan chunk => exact ctrlSenderChunk_keeps conn chan chunk

/-- A push to a device that advertised 4096 bytes and opens the sync channel: the message with the
first chunk of 4089 bytes announces 4097. -/
def smallLimitPush : PushEnv where
  fileOpens := true
  openRet := 0
  bufferOk := true
  waits := [⟨1, [], ⟨1, ⟨ADB_OKAY, 7, 1, 0, 0, ADB_OKAY ^^^ 0xffffffff⟩, []⟩, .idle⟩]
  afterSend := ⟨0, none, ⟨0, ⟨0, 0, 0, 0, 0, 0⟩, []⟩, .idle⟩
  chunks := [(⟨List.replicate 4089 0, by decide +kernel, by decide +kernel⟩,
    ⟨0, none, ⟨0, ⟨0, 0, 0, 0, 0, 0⟩, []⟩, .idle⟩)]
  answers := []

/-- What the push passes to `adb_send_msg_conn`. -/
def smallLimitSent : List Passed :=
  SenderCall.sent (AdbConnection.initial.negotiate 0x01000001 4096)
    (.push "/data/local/tmp/f".toUTF8.toList smallLimitPush)

theorem smallLimitPush_exceeds :
    smallLimitSent.map (fun m => (m.maxPayload, m.sent.msg.dataLen)) =
        [(4096, 6), (4096, 25), (4096, 4097), (4096, 8), (4096, 0)] ∧
      ¬ WithinLimit smallLimitSent := by
  decide +kernel

end Autoscrcpy
