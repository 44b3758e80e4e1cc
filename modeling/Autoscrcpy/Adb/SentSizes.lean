import Autoscrcpy.Adb.Push

/-!
# The sizes of outgoing messages

The data lengths that `session_open_channel`, `adb_shell` and `adb_push` announce, for any rule that
says which lengths may be announced: a service with its terminator, the requests of the sync
protocol (8 bytes and a path, 8 bytes and up to 64 KiB of the file, 8 bytes), and nothing with a
`CLSE`.
-/

namespace Autoscrcpy

/-- Which data lengths may be announced at which `max_payload`. A message without data always may.
-/
structure SizeRule where
  allows : ℕ → ℕ → Prop
  nothing : ∀ limit, allows limit 0

/-- The connection after some polls. -/
def afterPolls : AdbConnection → List PollEnv → AdbConnection
  | conn, [] => conn
  | conn, p :: ps => afterPolls (sessionPoll conn p).2.conn ps

/-- The limit at the time of each chunk, when a poll follows each. -/
def chunkLimits : AdbConnection → List (SyncChunk × PollEnv) → List (ℕ × SyncChunk)
  | _, [] => []
  | conn, (chunk, p) :: rest =>
      (conn.maxPayload, chunk) :: chunkLimits (sessionPoll conn p).2.conn rest

namespace SizeRule

variable (rule : SizeRule)

/-- Every message keeps to the rule at its time. -/
def Keeps (sent : List Passed) : Prop :=
  ∀ m ∈ sent, rule.allows m.maxPayload m.sent.msg.dataLen.toNat

/-- The requests for a file keep to the rule at their times: the path, each chunk, and `DONE`. -/
structure SyncFits (limit : ℕ) (path : List UInt8) (chunks : List (ℕ × SyncChunk)) (last : ℕ) :
    Prop where
  path : rule.allows limit ((8 + path.length) % 2 ^ 32)
  chunks : ∀ x ∈ chunks, rule.allows x.1 (8 + x.2.data.length)
  done : rule.allows last 8

section Fits

variable (conn : AdbConnection)

/-- A service that can be announced, where there is a slot for it. -/
def OpenFits (service : List UInt8) : Prop :=
  conn.channels.count < MAX_CHANNELS → rule.allows conn.maxPayload ((service.length + 1) % 2 ^ 32)

/-- A shell command, cut to the service buffer. -/
def ShellFits (command : List UInt8) : Prop :=
  conn.state = .connected → conn.channels.count < MAX_CHANNELS →
    rule.allows conn.maxPayload (min 255 (6 + command.length) + 1)

end Fits

end SizeRule

section SyncOpen

variable (conn : AdbConnection)

/-- The connection after the wait for the sync channel, opened in the next slot. -/
def afterSyncOpen (openRet : ℤ) (waits : List ReceiveRound) : AdbConnection :=
  awaitOpen conn.channels.count (openService conn syncService openRet).conn (waits.take 200)

/-- The sync channel becomes open while the call waits for it. -/
def SyncOpens (openRet : ℤ) (waits : List ReceiveRound) : Prop :=
  (afterSyncOpen conn openRet waits).chanState conn.channels.count = some .open

/-- The `OPEN` and, where the sync channel opens, the requests of a push. -/
def SizeRule.PushFits (rule : SizeRule) (remote : List UInt8) (env : PushEnv) : Prop :=
  conn.state = .connected → env.fileOpens → conn.channels.count < MAX_CHANNELS →
    rule.allows conn.maxPayload 6 ∧
      (0 ≤ env.openRet → env.bufferOk → SyncOpens conn env.openRet env.waits →
        let opened := afterSyncOpen conn env.openRet env.waits
        let polled := (sessionPoll opened env.afterSend).2.conn
        rule.SyncFits opened.maxPayload remote (chunkLimits polled env.chunks)
          (afterPolls polled (env.chunks.map Prod.snd)).maxPayload)

end SyncOpen

namespace SizeRule

variable {rule : SizeRule}

/-! ## Messages and services -/

section Sizes

variable {conn : AdbConnection}

@[simp] theorem keeps_nil : rule.Keeps [] := by simp [Keeps]

theorem keeps_append {l l' : List Passed} :
    rule.Keeps (l ++ l') ↔ rule.Keeps l ∧ rule.Keeps l' :=
  List.forall_mem_append

theorem keeps_send (cmd arg0 arg1 : UInt32) (data : List UInt8) (skip : Bool) :
    rule.Keeps (conn.pass [conn.send cmd arg0 arg1 data skip]) ↔
      rule.allows conn.maxPayload (data.length % 2 ^ 32) := by
  show (∀ m ∈ [_], _) ↔ _
  rw [List.forall_mem_singleton]
  show rule.allows conn.maxPayload (UInt32.ofNat data.length).toNat ↔ _
  rw [UInt32.toNat_ofNat']

/-- A message without data keeps to every rule. -/
theorem keeps_close (slot : ℕ) : rule.Keeps (conn.pass (sessionCloseChannel conn slot).2) := by
  unfold sessionCloseChannel
  split
  · exact keeps_nil
  · split_ifs
    · exact keeps_nil
    · intro m hm
      rw [List.mem_singleton.1 hm]
      exact rule.nothing conn.maxPayload
    · exact keeps_nil

theorem openService_keeps (service : List UInt8) (sendRet : ℤ) :
    rule.Keeps (openService conn service sendRet).sent ↔ rule.OpenFits conn service := by
  unfold openService sessionOpenChannel OpenFits
  by_cases hcount : conn.channels.count < MAX_CHANNELS
  · have hlen : (service ++ [0]).length = service.length + 1 := by simp
    simp only [dif_pos hcount]
    rw [← hlen, ← keeps_send ADB_OPEN conn.nextLocalId 0 (service ++ [0]) true]
    split_ifs <;> simp only [true_imp_iff, hcount] <;> rfl
  · simp only [hcount, false_imp_iff, iff_true]
    exact keeps_nil

theorem length_shellService (command : List UInt8) :
    (shellService command).length = min 255 (6 + command.length) := by
  have hprefix : "shell:".toUTF8.toList.length = 6 := by
    rw [CText.toUTF8_toList]
    rfl
  rw [shellService, snprintf, List.length_take, List.length_append, hprefix]
  rfl

theorem adbShell_keeps (command : List UInt8) (sendRet : ℤ) :
    rule.Keeps (adbShell conn command sendRet).sent ↔ rule.ShellFits conn command := by
  unfold adbShell ShellFits
  by_cases hstate : conn.state = .connected
  · rw [if_neg (not_not.2 hstate), openService_keeps, OpenFits, length_shellService]
    have hsmall : (min 255 (6 + command.length) + 1) % 2 ^ 32 = min 255 (6 + command.length) + 1 :=
      Nat.mod_eq_of_lt (by omega)
    rw [hsmall]
    exact ⟨fun h _ => h, fun h => h hstate⟩
  · simp [hstate]

theorem openSync_keeps (conn : AdbConnection) (openRet : ℤ) :
    rule.Keeps (conn.pass (sessionOpenChannel conn syncService openRet).2.1) ↔
      (conn.channels.count < MAX_CHANNELS → rule.allows conn.maxPayload 6) := by
  have hlen : (syncService.length + 1) % 2 ^ 32 = 6 := by
    rw [syncService, CText.toUTF8_toList]
    rfl
  have h : rule.Keeps (openService conn syncService openRet).sent ↔
      rule.OpenFits conn syncService := openService_keeps syncService openRet
  rwa [OpenFits, hlen] at h

end Sizes

/-! ## Sync requests -/

section Sync

variable {conn : AdbConnection} {slot : ℕ}

theorem writeChannel_keeps (h : slot < conn.channels.count) (data : List UInt8) :
    rule.Keeps (conn.writeChannel slot data) ↔
      rule.allows conn.maxPayload (data.length % 2 ^ 32) := by
  obtain ⟨c, -, heq⟩ := writeChannel_eq h data
  rw [heq, keeps_send]

theorem length_syncData (chunk : SyncChunk) :
    (syncData chunk).length % 2 ^ 32 = 8 + chunk.data.length := by
  have hid := length_syncId "DATA" (by simp)
  have hle : chunk.data.length ≤ 65536 := chunk.bounded
  rw [syncData, length_syncRequest, hid]
  omega

theorem length_syncSend (path : List UInt8) : (syncSend path).length = 8 + path.length := by
  have hid := length_syncId "SEND" (by simp)
  rw [syncSend, length_syncRequest, hid]
  omega

theorem length_syncDone : syncDone.length % 2 ^ 32 = 8 := by
  rw [syncDone, length_syncRequest, length_syncId "DONE" (by simp)]
  rfl

theorem streamFile_conn (conn : AdbConnection) (chunks : List (SyncChunk × PollEnv)) :
    (streamFile slot conn chunks).1 = afterPolls conn (chunks.map Prod.snd) := by
  induction chunks generalizing conn with
  | nil => rfl
  | cons x xs ih => exact ih _

theorem streamFile_keeps (h : slot < conn.channels.count)
    (chunks : List (SyncChunk × PollEnv)) :
    rule.Keeps (streamFile slot conn chunks).2 ↔
      ∀ x ∈ chunkLimits conn chunks, rule.allows x.1 (8 + x.2.data.length) := by
  induction chunks generalizing conn with
  | nil => simp [streamFile, chunkLimits]
  | cons x xs ih =>
    obtain ⟨chunk, p⟩ := x
    rw [streamFile, chunkLimits]
    dsimp only
    rw [keeps_append, writeChannel_keeps h, length_syncData, List.forall_mem_cons,
      ih (by rwa [sessionPoll_count])]

theorem adbSyncSend_keeps (h : slot < conn.channels.count) (remote : List UInt8)
    (env : PushEnv) :
    rule.Keeps (adbSyncSend conn slot remote env).sent ↔
      (env.bufferOk → (awaitOpen slot conn (env.waits.take 200)).chanState slot = some .open →
        let opened := awaitOpen slot conn (env.waits.take 200)
        let polled := (sessionPoll opened env.afterSend).2.conn
        rule.SyncFits opened.maxPayload remote (chunkLimits polled env.chunks)
          (afterPolls polled (env.chunks.map Prod.snd)).maxPayload) := by
  have hopened : slot < (awaitOpen slot conn (env.waits.take 200)).channels.count := by
    rwa [awaitOpen_count]
  unfold adbSyncSend
  cases env.bufferOk with
  | false => simp
  | true =>
    simp only [Bool.true_eq_false, if_false, true_imp_iff]
    by_cases hopen : (awaitOpen slot conn (env.waits.take 200)).chanState slot = some .open
    · simp only [hopen, ne_eq, not_true_eq_false, if_false, true_imp_iff]
      rw [keeps_append, keeps_append, writeChannel_keeps hopened,
        streamFile_keeps (by rwa [sessionPoll_count]),
        writeChannel_keeps (by rwa [streamFile_count, sessionPoll_count]), streamFile_conn,
        length_syncSend, length_syncDone]
      exact ⟨fun ⟨hp, hc, hd⟩ => ⟨hp, hc, hd⟩, fun ⟨hp, hc, hd⟩ => ⟨hp, hc, hd⟩⟩
    · simp [hopen]

end Sync

end SizeRule

/-! ## Pushes -/

section Pushes

variable {conn : AdbConnection}

/-- An open leaves nothing where the table is full or the send fails, and the next slot otherwise.
-/
theorem sessionOpenChannel_slot (service : List UInt8) (openRet : ℤ) :
    (sessionOpenChannel conn service openRet).2.2 =
      if conn.channels.count < MAX_CHANNELS ∧ 0 ≤ openRet then some conn.channels.count
      else none := by
  unfold sessionOpenChannel
  by_cases hcount : conn.channels.count < MAX_CHANNELS
  · by_cases hsend : openRet < 0
    · simp [hcount, hsend]
    · simp [hcount, hsend, not_lt.1 hsend]
  · simp [hcount]

theorem sessionOpenChannel_count (service : List UInt8) {openRet : ℤ}
    (h : conn.channels.count < MAX_CHANNELS) (hret : 0 ≤ openRet) :
    conn.channels.count < (sessionOpenChannel conn service openRet).1.channels.count := by
  unfold sessionOpenChannel
  simp only [dif_pos h, if_neg (not_lt.2 hret)]
  show _ < (conn.channels.slots ++ [_]).length
  rw [List.length_append]
  exact Nat.lt_succ_self _

theorem SizeRule.adbPush_keeps {rule : SizeRule} (remote : List UInt8) (env : PushEnv) :
    rule.Keeps (adbPush conn remote env).sent ↔ rule.PushFits conn remote env := by
  have hopen := rule.openSync_keeps conn env.openRet
  unfold adbPush PushFits SyncOpens afterSyncOpen
  by_cases hstate : conn.state = .connected
  case neg => simp [hstate]
  cases hfile : env.fileOpens with
  | false => simp [hstate]
  | true =>
    simp only [hstate, ne_eq, not_true_eq_false, if_false, Bool.true_eq_false, true_imp_iff]
    rw [sessionOpenChannel_slot]
    by_cases hslot : conn.channels.count < MAX_CHANNELS ∧ 0 ≤ env.openRet
    · obtain ⟨hcount, hret⟩ := hslot
      have hlt := sessionOpenChannel_count syncService hcount hret
      simp only [hcount, hret, and_self, if_true, true_imp_iff] at hopen ⊢
      rw [keeps_append, keeps_append, hopen, adbSyncSend_keeps hlt, and_iff_left (keeps_close _)]
      rfl
    · rw [if_neg hslot]
      exact hopen.trans (imp_congr_right fun hcount =>
        (and_iff_left fun hret => absurd ⟨hcount, hret⟩ hslot).symm)

end Pushes

end Autoscrcpy
