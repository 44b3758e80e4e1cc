import Autoscrcpy.Adb.ConnReceive
import Autoscrcpy.Adb.SentSizes

/-!
# Checksums at both ends

Every payload that the session code sends goes out with `data_check = 0`: the senders skip the byte
sum at every version. The receivers skip it from `ADB_VERSION_SKIP_CHECKSUM` on, and below it they
accept a payload only where the bytes sum to `0` (`endpoints_agree_iff`).
-/

namespace Autoscrcpy

open SegStream

/-! ## Byte sums -/

theorem adbChecksum_toNat (data : List UInt8) :
    (adbChecksum data).toNat = (data.map UInt8.toNat).sum % 2 ^ 32 := by
  have hfold (l : List UInt8) (acc : UInt32) :
      (l.foldl (fun sum b => sum + b.toUInt32) acc).toNat =
        (acc.toNat + (l.map UInt8.toNat).sum) % 2 ^ 32 := by
    induction l generalizing acc with
    | nil => simp [Nat.mod_eq_of_lt acc.toNat_lt]
    | cons b bs ih =>
      rw [List.foldl_cons, ih, UInt32.toNat_add, List.map_cons, List.sum_cons,
        UInt8.toNat_toUInt32, Nat.mod_add_mod, Nat.add_assoc]
  rw [adbChecksum, hfold, UInt32.toNat_zero, Nat.zero_add]

/-- Up to 16 MiB a sum is `0` only where every byte is. -/
theorem adbChecksum_ne_zero {data : List UInt8} (hlen : data.length ≤ 2 ^ 24) {b : UInt8}
    (hb : b ∈ data) (hne : b ≠ 0) : adbChecksum data ≠ 0 := by
  have hpos : 0 < b.toNat := Nat.pos_of_ne_zero fun h => hne (UInt8.toNat_inj.1 h)
  have hle : b.toNat ≤ (data.map UInt8.toNat).sum :=
    List.single_le_sum (fun _ _ => Nat.zero_le _) _ (List.mem_map_of_mem hb)
  have hsum : (data.map UInt8.toNat).sum ≤ 255 * data.length := by
    rw [← data.length_map UInt8.toNat, Nat.mul_comm, ← smul_eq_mul]
    refine List.sum_le_card_nsmul _ 255 fun n hn => ?_
    obtain ⟨c, -, rfl⟩ := List.mem_map.1 hn
    exact Nat.le_of_lt_succ c.toNat_lt
  intro hzero
  have h := adbChecksum_toNat data
  rw [hzero, Nat.mod_eq_of_lt (by omega)] at h
  exact absurd h (by simp only [UInt32.toNat_zero]; omega)

/-! ## Calls that send payloads -/

/-- A call of `session_send_cnxn`, `session_open_channel`, `adb_shell` or `adb_push`. -/
inductive SessionCall where
  | sendCnxn
  | openChannel (service : List UInt8) (sendRet : ℤ)
  | shell (command : List UInt8) (sendRet : ℤ)
  | push (remote : List UInt8) (env : PushEnv)

/-- The messages that a call passes to `adb_send_msg_conn`. -/
def SessionCall.sent (conn : AdbConnection) : SessionCall → List Sent
  | sendCnxn => (sessionSendCnxn conn).2
  | openChannel service sendRet => (sessionOpenChannel conn service sendRet).2.1
  | shell command sendRet => (adbShell conn command sendRet).sent.map Passed.sent
  | push remote env => (adbPush conn remote env).sent.map Passed.sent

/-- A message that goes out without a byte sum. -/
structure Sent.Unsummed (m : Sent) : Prop where
  valid : m.msg.Valid
  skips : m.msg.skipChecksum = true

theorem unsummed_send (conn : AdbConnection) (cmd arg0 arg1 : UInt32) (data : List UInt8) :
    (conn.send cmd arg0 arg1 data true).Unsummed := ⟨conn.send_valid .., rfl⟩

theorem unsummed_sendEmpty (conn : AdbConnection) (cmd arg0 arg1 : UInt32) :
    (conn.sendEmpty cmd arg0 arg1 true).Unsummed := ⟨conn.sendEmpty_valid .., rfl⟩

theorem sessionOpenChannel_unsummed (conn : AdbConnection) (service : List UInt8) (sendRet : ℤ) :
    ∀ m ∈ (sessionOpenChannel conn service sendRet).2.1, m.Unsummed := by
  unfold sessionOpenChannel
  split_ifs
  · simpa using unsummed_send ..
  · simpa using unsummed_send ..
  · simp

theorem sessionCloseChannel_unsummed (conn : AdbConnection) (slot : ℕ) :
    ∀ m ∈ (sessionCloseChannel conn slot).2, m.Unsummed := by
  unfold sessionCloseChannel
  split
  · simp
  · split_ifs
    · simp
    · simpa using unsummed_sendEmpty ..
    · simp

/-- Everything in a list of passed messages goes out without a byte sum. -/
def AllUnsummed (sent : List Passed) : Prop := ∀ m ∈ sent, m.sent.Unsummed

theorem allUnsummed_append {l l' : List Passed} :
    AllUnsummed (l ++ l') ↔ AllUnsummed l ∧ AllUnsummed l' := List.forall_mem_append

theorem allUnsummed_pass {conn : AdbConnection} {sent : List Sent} (h : ∀ m ∈ sent, m.Unsummed) :
    AllUnsummed (conn.pass sent) := by
  intro m hm
  obtain ⟨m', hm', rfl⟩ := List.mem_map.1 hm
  exact h m' hm'

theorem allUnsummed_nil : AllUnsummed [] := by simp [AllUnsummed]

theorem writeChannel_unsummed (conn : AdbConnection) (slot : ℕ) (data : List UInt8) :
    AllUnsummed (conn.writeChannel slot data) := by
  unfold AdbConnection.writeChannel
  split
  · exact allUnsummed_nil
  · exact allUnsummed_pass (by simpa using unsummed_send ..)

theorem streamFile_unsummed (slot : ℕ) (conn : AdbConnection)
    (chunks : List (SyncChunk × PollEnv)) : AllUnsummed (streamFile slot conn chunks).2 := by
  induction chunks generalizing conn with
  | nil => exact allUnsummed_nil
  | cons x xs ih => exact allUnsummed_append.2 ⟨writeChannel_unsummed _ _ _, ih _⟩

theorem adbSyncSend_unsummed (conn : AdbConnection) (slot : ℕ) (remote : List UInt8)
    (env : PushEnv) : AllUnsummed (adbSyncSend conn slot remote env).sent := by
  unfold adbSyncSend
  dsimp only
  split_ifs
  · exact allUnsummed_nil
  · exact allUnsummed_nil
  · exact allUnsummed_append.2 ⟨writeChannel_unsummed _ _ _,
      allUnsummed_append.2 ⟨streamFile_unsummed _ _ _, writeChannel_unsummed _ _ _⟩⟩

theorem adbPush_unsummed (conn : AdbConnection) (remote : List UInt8) (env : PushEnv) :
    AllUnsummed (adbPush conn remote env).sent := by
  have hopen : AllUnsummed (conn.pass (sessionOpenChannel conn syncService env.openRet).2.1) :=
    allUnsummed_pass (sessionOpenChannel_unsummed _ _ _)
  unfold adbPush
  split_ifs
  · exact allUnsummed_nil
  · exact allUnsummed_nil
  · dsimp only
    split
    · exact hopen
    · exact allUnsummed_append.2 ⟨hopen, allUnsummed_append.2 ⟨adbSyncSend_unsummed _ _ _ _,
        allUnsummed_pass (sessionCloseChannel_unsummed _ _)⟩⟩

theorem adbShell_unsummed (conn : AdbConnection) (command : List UInt8) (sendRet : ℤ) :
    AllUnsummed (adbShell conn command sendRet).sent := by
  unfold adbShell
  split_ifs
  · exact allUnsummed_nil
  · exact allUnsummed_pass (sessionOpenChannel_unsummed _ _ _)

/-- No call sends a byte sum. -/
theorem SessionCall.sent_unsummed (conn : AdbConnection) (call : SessionCall) :
    ∀ m ∈ call.sent conn, m.Unsummed := by
  have hpassed {l : List Passed} (h : AllUnsummed l) : ∀ m ∈ l.map Passed.sent, m.Unsummed := by
    intro m hm
    obtain ⟨m', hm', rfl⟩ := List.mem_map.1 hm
    exact h m' hm'
  cases call with
  | sendCnxn =>
    show ∀ m ∈ (sessionSendCnxn conn).2, m.Unsummed
    unfold sessionSendCnxn
    split_ifs
    · simp
    · simpa using unsummed_send ..
  | openChannel service sendRet => exact sessionOpenChannel_unsummed _ _ _
  | shell command sendRet => exact hpassed (adbShell_unsummed _ _ _)
  | push remote env => exact hpassed (adbPush_unsummed _ _ _)

/-! ## Calls that receive them -/

/-- A receiving call: `session_recv_msg` with the size of its buffer, or `session_poll`. -/
inductive ReceiveCall where
  | recvMsg (maxPayload : Int32)
  | poll

/-- The buffer size that the call passes on. -/
def ReceiveCall.maxPayload : ReceiveCall → Int32
  | recvMsg maxPayload => maxPayload
  | poll => Int32.ofNat ADB_MAX_PAYLOAD

/-- What the call returns for the bytes on its transport; `buf` is what the payload buffer of
`session_poll` held, and `env` what answers it while it handles the message. -/
def ReceiveCall.ret (conn : AdbConnection) (hdr₀ buf : List UInt8) (env : HandleEnv)
    (w : ConnSource) : ReceiveCall → ℤ
  | recvMsg maxPayload => (sessionRecvMsg conn hdr₀ maxPayload w).1.ret
  | poll =>
      (sessionPoll conn ⟨1, some buf,
        (sessionRecvMsg conn hdr₀ (Int32.ofNat ADB_MAX_PAYLOAD) w).1, env⟩).1

/-- The call accepts a message, in whatever pieces its frame arrives. -/
def ReceiveCall.Accepts (conn : AdbConnection) (call : ReceiveCall) (m : Sent) : Prop :=
  ∀ hdr₀ buf env w t, w.Quiet conn.tls → w.bytes conn.tls = m.msg.frame ++ t →
    call.ret conn hdr₀ buf env w = 1

/-- The receiver's condition on a payload without a byte sum. -/
def Acceptable (receiver : AdbConnection) (maxPayload : Int32) (msg : SendArgs) : Prop :=
  msg.dataLen.toInt32 ≤ maxPayload ∧
    (receiver.skipsChecksum = true ∨ adbChecksum msg.payload = 0)

section Accepts

variable {receiver : AdbConnection} {m : Sent}

instance (maxPayload : Int32) (msg : SendArgs) : Decidable (Acceptable receiver maxPayload msg) :=
  inferInstanceAs (Decidable (_ ∧ _))

theorem sessionRecvMsg_unsummed (hm : m.Unsummed) (hne : m.msg.payload ≠ []) (hdr₀ : List UInt8)
    (maxPayload : Int32) {w : ConnSource} (hw : w.Quiet receiver.tls) {t : List UInt8}
    (hc : w.bytes receiver.tls = m.msg.frame ++ t) :
    (sessionRecvMsg receiver hdr₀ maxPayload w).1.ret =
      if Acceptable receiver maxPayload m.msg then 1 else -1 := by
  have hcheck : m.msg.packet.hdr.dataCheck = 0 := if_pos hm.skips
  obtain ⟨-, h⟩ := adbRecvMsgConn_packet receiver hdr₀ maxPayload receiver.skipsChecksum
    (p := m.msg.packet) rfl hm.valid.length_payload.symm hw hc
  have hsize : maxPayload < m.msg.packet.hdr.dataLength.toInt32 ↔
      ¬ m.msg.dataLen.toInt32 ≤ maxPayload := Int32.not_le.symm
  by_cases hbig : m.msg.dataLen.toInt32 ≤ maxPayload
  · rw [if_neg fun hp => hsize.1 hp.2 hbig] at h
    rw [sessionRecvMsg, h.1, hcheck]
    show (if _ ∧ m.msg.payload ≠ [] ∧ adbChecksum m.msg.payload ≠ 0 then (-1 : ℤ) else 1) = _
    cases hskip : receiver.skipsChecksum with
    | true => simp [Acceptable, hskip, hbig]
    | false =>
      by_cases hsum : adbChecksum m.msg.payload = 0 <;>
        simp [Acceptable, hskip, hbig, hne, hsum]
  · rw [if_pos ⟨hne, hsize.2 hbig⟩] at h
    rw [sessionRecvMsg, h.1, if_neg fun ha => hbig ha.1]

theorem sessionPoll_ret {conn : AdbConnection} (hfd : conn.fdOpen = true) (buf : List UInt8)
    {r : RecvMsg} {p : Prop} [Decidable p] (hr : r.ret = if p then 1 else -1) (env : HandleEnv) :
    (sessionPoll conn ⟨1, some buf, r, env⟩).1 = if p then 1 else -1 := by
  unfold sessionPoll
  split_ifs at hr with hp <;> simp [hfd, hr, hp]

/-- A payload without a byte sum is accepted where it fits and the receiver skips the sum, or the
sum is `0`. -/
theorem accepts_iff (hfd : receiver.fdOpen = true) (call : ReceiveCall) (hm : m.Unsummed)
    (hne : m.msg.payload ≠ []) :
    call.Accepts receiver m ↔ Acceptable receiver call.maxPayload m.msg := by
  have hret (hdr₀ buf : List UInt8) (env : HandleEnv) {w : ConnSource} {t : List UInt8}
      (hw : w.Quiet receiver.tls) (hc : w.bytes receiver.tls = m.msg.frame ++ t) :
      call.ret receiver hdr₀ buf env w =
        if Acceptable receiver call.maxPayload m.msg then 1 else -1 := by
    cases call with
    | recvMsg maxPayload => exact sessionRecvMsg_unsummed hm hne hdr₀ maxPayload hw hc
    | poll => exact sessionPoll_ret hfd buf (sessionRecvMsg_unsummed hm hne hdr₀ _ hw hc) env
  constructor
  · intro h
    have hc : (ConnSource.atOnce m.msg.frame).bytes receiver.tls = m.msg.frame ++ [] := by simp
    have hquiet := ConnSource.quiet_atOnce m.msg.frame receiver.tls
    have hone := h [] [] .idle _ [] hquiet hc
    rw [hret [] [] .idle hquiet hc] at hone
    by_contra hno
    rw [if_neg hno] at hone
    exact absurd hone (by decide)
  · intro h hdr₀ buf env w t hw hc
    rw [hret hdr₀ buf env hw hc, if_pos h]

end Accepts

/-! ## Both ends -/

/-- The bytes of an `OPEN`: the service with its terminator. -/
def openPayload (service : List UInt8) : List UInt8 :=
  (service ++ [0]).take (UInt32.ofNat (service ++ [0]).length).toNat

/-- The payloads of a call sum to `0`, or there are none. -/
def SessionCall.ZeroSum (conn : AdbConnection) : SessionCall → Prop
  | sendCnxn => conn.cnxnSent = true
  | openChannel service _ =>
      conn.channels.count < MAX_CHANNELS → adbChecksum (openPayload service) = 0
  | shell _ _ => ¬ (conn.state = .connected ∧ conn.channels.count < MAX_CHANNELS)
  | push _ env =>
      ¬ (conn.state = .connected ∧ env.fileOpens = true ∧ conn.channels.count < MAX_CHANNELS)

theorem sessionOpenChannel_sent (conn : AdbConnection) (service : List UInt8) (sendRet : ℤ) :
    (sessionOpenChannel conn service sendRet).2.1 =
      if conn.channels.count < MAX_CHANNELS then
        [conn.send ADB_OPEN conn.nextLocalId 0 (service ++ [0]) true]
      else [] := by
  unfold sessionOpenChannel
  by_cases hcount : conn.channels.count < MAX_CHANNELS
  · simp only [hcount, dif_pos, if_true]
    split_ifs <;> rfl
  · simp [hcount]

theorem adbChecksum_openPayload_ne_zero {service : List UInt8} (hlen : service.length < 2 ^ 24)
    {b : UInt8} (hb : b ∈ service) (hne : b ≠ 0) : adbChecksum (openPayload service) ≠ 0 := by
  have hwhole : openPayload service = service ++ [0] := by
    refine List.take_of_length_le ?_
    rw [UInt32.toNat_ofNat', List.length_append, List.length_singleton]
    omega
  rw [hwhole]
  refine adbChecksum_ne_zero ?_ (List.mem_append_left _ hb) hne
  rw [List.length_append, List.length_singleton]
  omega

theorem adbChecksum_shell_ne_zero (command : List UInt8) :
    adbChecksum (openPayload (shellService command)) ≠ 0 := by
  have hprefix : "shell:".toUTF8.toList = 115 :: "hell:".toUTF8.toList := by
    rw [CText.toUTF8_toList, CText.toUTF8_toList]
    rfl
  have hmem : 115 ∈ shellService command := by
    rw [shellService, snprintf, hprefix]
    exact List.mem_cons_self ..
  refine adbChecksum_openPayload_ne_zero ?_ hmem (by decide)
  have hle : (shellService command).length ≤ SERVICE_NAME_MAX - 1 := List.length_take_le ..
  exact hle.trans_lt (by decide)

/-- The `OPEN` of a push is passed on before anything else can fail. -/
theorem open_mem_adbPush {conn : AdbConnection} {remote : List UInt8} {env : PushEnv}
    (h : conn.state = .connected ∧ env.fileOpens = true ∧ conn.channels.count < MAX_CHANNELS) :
    conn.send ADB_OPEN conn.nextLocalId 0 (syncService ++ [0]) true ∈
      (SessionCall.push remote env).sent conn := by
  obtain ⟨hstate, hfile, hcount⟩ := h
  have hsent := sessionOpenChannel_sent conn syncService env.openRet
  rw [if_pos hcount] at hsent
  show _ ∈ (adbPush conn remote env).sent.map Passed.sent
  unfold adbPush
  simp only [hstate, hfile, ne_eq, not_true_eq_false, if_false, Bool.true_eq_false]
  split
  · rw [hsent]
    exact List.mem_singleton_self _
  · rw [hsent]
    exact List.mem_cons_self ..

theorem checksum_of_ne_nil_iff (data : List UInt8) :
    (data ≠ [] → adbChecksum data = 0) ↔ adbChecksum data = 0 := by
  refine ⟨fun h => ?_, fun h _ => h⟩
  by_cases hnil : data = []
  · rw [hnil, adbChecksum_nil]
  · exact h hnil

/-- Every payload of a list sums to `0`. -/
def AllZeroSum (sent : List Sent) : Prop :=
  ∀ m ∈ sent, m.msg.payload ≠ [] → adbChecksum m.msg.payload = 0

theorem openChannel_zeroSum_iff (conn : AdbConnection) (service : List UInt8) (sendRet : ℤ) :
    AllZeroSum (sessionOpenChannel conn service sendRet).2.1 ↔
      (conn.channels.count < MAX_CHANNELS → adbChecksum (openPayload service) = 0) := by
  rw [sessionOpenChannel_sent, AllZeroSum]
  split_ifs with hcount
  · rw [List.forall_mem_singleton, checksum_of_ne_nil_iff]
    exact ⟨fun h _ => h, fun h => h hcount⟩
  · simp [hcount]

theorem sendCnxn_zeroSum_iff (conn : AdbConnection) :
    AllZeroSum (sessionSendCnxn conn).2 ↔ conn.cnxnSent = true := by
  have hbanner : adbChecksum (adbBanner.take (UInt32.ofNat adbBanner.length).toNat) ≠ 0 := by
    rw [adbBanner, CText.toUTF8_toList]
    decide
  unfold sessionSendCnxn AllZeroSum
  split_ifs with hsent
  · simp [hsent]
  · rw [List.forall_mem_singleton, checksum_of_ne_nil_iff]
    exact iff_of_false hbanner hsent

theorem shell_zeroSum_iff (conn : AdbConnection) (command : List UInt8) (sendRet : ℤ) :
    AllZeroSum ((adbShell conn command sendRet).sent.map Passed.sent) ↔
      ¬ (conn.state = .connected ∧ conn.channels.count < MAX_CHANNELS) := by
  unfold adbShell
  split_ifs with hstate
  · simpa [AllZeroSum] using fun h => absurd h hstate
  · simp only [openService, AdbConnection.map_sent_pass]
    rw [openChannel_zeroSum_iff, not_and]
    exact ⟨fun h _ hcount => adbChecksum_shell_ne_zero command (h hcount),
      fun h hcount => absurd hcount (h (not_not.1 hstate))⟩

theorem push_zeroSum_iff (conn : AdbConnection) (remote : List UInt8) (env : PushEnv) :
    AllZeroSum ((adbPush conn remote env).sent.map Passed.sent) ↔
      ¬ (conn.state = .connected ∧ env.fileOpens = true ∧
        conn.channels.count < MAX_CHANNELS) := by
  have hsync : adbChecksum (openPayload syncService) ≠ 0 := by
    rw [syncService, CText.toUTF8_toList]
    decide
  constructor
  · intro h hopen
    exact hsync ((checksum_of_ne_nil_iff _).1 (h _ (open_mem_adbPush hopen)))
  · intro h
    unfold adbPush AllZeroSum
    split_ifs with hstate hfile
    · simp
    · simp
    · have hcount : ¬ conn.channels.count < MAX_CHANNELS := fun hcount =>
        h ⟨not_not.1 hstate, by simpa using hfile, hcount⟩
      have hfull : sessionOpenChannel conn syncService env.openRet = (conn, [], none) := by
        rw [sessionOpenChannel, dif_neg hcount]
      simp [hfull, AdbConnection.pass]

/-- What a call has to send for all its payloads to sum to `0`. -/
theorem SessionCall.zeroSum_iff (conn : AdbConnection) (call : SessionCall) :
    AllZeroSum (call.sent conn) ↔ call.ZeroSum conn := by
  cases call with
  | sendCnxn => exact sendCnxn_zeroSum_iff conn
  | openChannel service sendRet => exact openChannel_zeroSum_iff conn service sendRet
  | shell command sendRet => exact shell_zeroSum_iff conn command sendRet
  | push remote env => exact push_zeroSum_iff conn remote env

/-- The lengths that a receive call has room for. The size check is made where there is a payload,
and signed. -/
def roomIn (maxPayload : Int32) : SizeRule where
  allows _ n := n ≠ 0 → (UInt32.ofNat n).toInt32 ≤ maxPayload
  nothing _ h := absurd rfl h

/-- The data of a call fits into a receive call's buffer. -/
def SessionCall.Fits (conn : AdbConnection) (maxPayload : Int32) : SessionCall → Prop
  | sendCnxn => conn.cnxnSent = false → (Int32.ofNat adbBanner.length) ≤ maxPayload
  | openChannel service _ => (roomIn maxPayload).OpenFits conn service
  | shell command _ => (roomIn maxPayload).ShellFits conn command
  | push remote env => (roomIn maxPayload).PushFits conn remote env

theorem room_iff {m : Sent} (hm : m.msg.Valid) (limit : ℕ) (maxPayload : Int32) :
    (roomIn maxPayload).allows limit m.msg.dataLen.toNat ↔
      (m.msg.payload ≠ [] → m.msg.dataLen.toInt32 ≤ maxPayload) := by
  have hne : m.msg.dataLen.toNat ≠ 0 ↔ m.msg.payload ≠ [] := by
    rw [← hm.length_payload, Ne, List.length_eq_zero_iff]
  show (m.msg.dataLen.toNat ≠ 0 → (UInt32.ofNat m.msg.dataLen.toNat).toInt32 ≤ maxPayload) ↔ _
  rw [hne, UInt32.ofNat_toNat]

theorem keeps_roomIn_iff {sent : List Passed} (h : AllUnsummed sent) (maxPayload : Int32) :
    (roomIn maxPayload).Keeps sent ↔
      ∀ m ∈ sent.map Passed.sent, m.msg.payload ≠ [] → m.msg.dataLen.toInt32 ≤ maxPayload := by
  rw [List.forall_mem_map]
  exact forall₂_congr fun m hm => room_iff (h m hm).valid m.maxPayload maxPayload

/-- The payloads that a call passes on have room where its data fits. -/
theorem SessionCall.fits_iff (conn : AdbConnection) (maxPayload : Int32) (call : SessionCall) :
    (∀ m ∈ call.sent conn, m.msg.payload ≠ [] → m.msg.dataLen.toInt32 ≤ maxPayload) ↔
      call.Fits conn maxPayload := by
  cases call with
  | sendCnxn =>
    have hne : (conn.send ADB_CNXN ADB_VERSION (UInt32.ofNat ADB_MAX_PAYLOAD) adbBanner
        true).msg.payload ≠ [] := by
      show adbBanner.take (UInt32.ofNat adbBanner.length).toNat ≠ []
      rw [adbBanner, CText.toUTF8_toList]
      decide
    have hlen : (UInt32.ofNat adbBanner.length).toInt32 = Int32.ofNat adbBanner.length := by
      rw [adbBanner, CText.toUTF8_toList]
      decide
    show (∀ m ∈ (sessionSendCnxn conn).2, _) ↔ (conn.cnxnSent = false → _)
    unfold sessionSendCnxn
    split_ifs with hsent
    · simp [hsent]
    · rw [List.forall_mem_singleton, ← hlen]
      exact ⟨fun h _ => h hne, fun h _ => h (by simpa using hsent)⟩
  | openChannel service sendRet =>
    have hunsummed : AllUnsummed (openService conn service sendRet).sent :=
      allUnsummed_pass (sessionOpenChannel_unsummed conn service sendRet)
    have h := keeps_roomIn_iff hunsummed maxPayload
    rw [openService, AdbConnection.map_sent_pass] at h
    exact h.symm.trans (SizeRule.openService_keeps service sendRet)
  | shell command sendRet =>
    exact (keeps_roomIn_iff (adbShell_unsummed _ _ _) _).symm.trans (SizeRule.adbShell_keeps ..)
  | push remote env =>
    exact (keeps_roomIn_iff (adbPush_unsummed _ _ _) _).symm.trans (SizeRule.adbPush_keeps ..)

/-- Every payload that the sender passes on is accepted by the receiver. -/
def EndpointsAgree (sender receiver : AdbConnection) (call : SessionCall) (recv : ReceiveCall) :
    Prop :=
  ∀ m ∈ call.sent sender, m.msg.payload ≠ [] → recv.Accepts receiver m

/-- Both ends agree exactly where the payloads fit and the receiver skips the byte sum or all of
them sum to `0`: the senders skip it at every version. -/
theorem endpoints_agree_iff (sender : AdbConnection) {receiver : AdbConnection}
    (hfd : receiver.fdOpen = true) (call : SessionCall) (recv : ReceiveCall) :
    EndpointsAgree sender receiver call recv ↔
      call.Fits sender recv.maxPayload ∧
        (receiver.skipsChecksum = true ∨ call.ZeroSum sender) := by
  rw [← SessionCall.fits_iff, ← SessionCall.zeroSum_iff]
  have haccepts : ∀ m ∈ call.sent sender, m.msg.payload ≠ [] →
      (recv.Accepts receiver m ↔ Acceptable receiver recv.maxPayload m.msg) :=
    fun m hm hne => accepts_iff hfd recv (call.sent_unsummed sender m hm) hne
  constructor
  · intro h
    refine ⟨fun m hm hne => ((haccepts m hm hne).1 (h m hm hne)).1, ?_⟩
    cases hskip : receiver.skipsChecksum with
    | true => exact Or.inl rfl
    | false =>
      refine Or.inr fun m hm hne => ?_
      exact ((haccepts m hm hne).1 (h m hm hne)).2.resolve_left (by simp [hskip])
  · rintro ⟨hsize, hsum⟩ m hm hne
    exact (haccepts m hm hne).2 ⟨hsize m hm hne, hsum.imp_right fun h => h m hm hne⟩

theorem endpoints_agree_iff_cnxn :
    EndpointsAgree .initial (AdbConnection.initial.negotiate 0x01000001 4096) .sendCnxn .poll :=
  (endpoints_agree_iff .initial (by rfl) .sendCnxn .poll).2
    ⟨fun _ => by decide +kernel, Or.inl (by decide)⟩

/-- The first message of a connection is refused by a peer that has not negotiated a version. -/
theorem initial_refuses_cnxn :
    (SessionCall.sendCnxn.sent .initial).map (fun m =>
        (ReceiveCall.recvMsg 1048576).ret .initial [] [] .idle (.atOnce m.msg.frame)) = [-1] ∧
      ¬ EndpointsAgree .initial .initial .sendCnxn .poll := by
  refine ⟨by decide +kernel, fun h => ?_⟩
  let m := AdbConnection.initial.send ADB_CNXN ADB_VERSION (UInt32.ofNat ADB_MAX_PAYLOAD)
    adbBanner true
  have hone := h m (List.mem_singleton_self m) (by decide +kernel) [] [] .idle
    (.atOnce m.msg.frame) [] (ConnSource.quiet_atOnce _ _) (by simp)
  exact absurd hone (by decide +kernel)

end Autoscrcpy
