import Autoscrcpy.Adb.Session

/-!
# The callers of the receive functions

`adb_recv_msg_conn` returns `1` for a complete message, `-1` for an error and, on TLS, `0` when the
connection had nothing more to read; the header is then filled in part. Three callers test only for
a negative result: the receive loops of `adb_connect` and of `session_handle_message` after a TLS
handshake, and `session_poll`. They act on a partial message exactly where its header and buffer,
as they stand, ask for something: `HeaderInert` and `MessageInert` say when they do not.
-/

namespace Autoscrcpy

open SegStream

/-! ## The outcomes of a receive call -/

/-- The return values of the receive functions. -/
def RecvMsg.Outcome (r : RecvMsg) : Prop := r.ret = 1 ∨ r.ret = 0 ∨ r.ret = -1

theorem recvFrame_ret {ε : Type} {react : ε → Option ℤ} (codes : ℤ → Prop) (hone : codes 1)
    (hfail : codes (-1)) (hreact : ∀ e r, react e = some r → codes r) (hdr₀ : List UInt8)
    (maxPayload : Int32) (skip : Bool) (s : Source UInt8 ε) :
    codes (recvFrame react hdr₀ maxPayload skip s).1.ret := by
  have hstop {n : ℕ} {u : Source UInt8 ε} {r : ℤ} (h : (readExact react (-1) n u).stop = some r) :
      codes r := by
    rcases stops_of_stop h with ⟨e, -, he, -⟩ | ⟨rfl, -⟩
    · exact hreact e r he
    · exact hfail
  rcases h : (readExact react (-1) 24 s).stop with _ | r
  · rw [recvFrame_of_full h]
    set hdr := AdbMessage.ofBytes ((readExact react (-1) 24 s).got ++
      hdr₀.drop (readExact react (-1) 24 s).got.length)
    by_cases hm : hdr.MagicOk
    · by_cases hz : hdr.dataLength = 0
      · rw [recvPayload, if_neg (not_not.2 hm), if_pos hz]
        exact hone
      · by_cases hbig : maxPayload < hdr.dataLength.toInt32
        · rw [recvPayload, if_neg (not_not.2 hm), if_neg hz, if_pos hbig]
          exact hfail
        · rw [recvPayload_of_body hm hz hbig]
          simp only [payloadResult]
          rcases hp : (readExact react (-1) hdr.dataLength.toNat
            (readExact react (-1) 24 s).rest).stop with _ | r
          · simp only
            split_ifs
            · exact hfail
            · exact hone
          · exact hstop hp
    · rw [recvPayload, if_pos hm]
      exact hfail
  · rw [(recvFrame_of_stop _ _ _ h).1]
    exact hstop h

theorem adbRecvMsgTls_outcome (hdr₀ : List UInt8) (maxPayload : Int32) (skip : Bool)
    (s : Source UInt8 TlsSignal) : (adbRecvMsgTls hdr₀ maxPayload skip s).1.Outcome := by
  refine recvFrame_ret (fun r => r = 1 ∨ r = 0 ∨ r = -1) (Or.inl rfl)
    (Or.inr (Or.inr rfl)) ?_ hdr₀ maxPayload skip s
  intro e r h
  cases e <;> simp only [tlsReact, Option.some.injEq] at h <;> omega

/-- Without TLS a receive call never returns `0`. -/
theorem adbRecvMsg_ret_ne_zero (hdr₀ : List UInt8) (maxPayload : Int32) (skip : Bool)
    (s : Source UInt8 SocketSignal) : (adbRecvMsg hdr₀ maxPayload skip s).1.ret ≠ 0 := by
  refine recvFrame_ret (fun r => r ≠ 0) (by decide) (by decide) ?_ hdr₀ maxPayload skip s
  intro e r h
  cases e <;> simp only [socketReact, Option.some.injEq] at h <;> omega

/-! ## The receive loops after a TLS handshake -/

/-- The round changed the connection or sent something. -/
def TlsRound.Acts (x : TlsRound) : Prop := x.after ≠ x.before ∨ x.sent ≠ []

/-- A header, with the payload buffer, on which a round of the receive loop does nothing: it is no
`CNXN`, no `STLS`, and no `AUTH` token that can be signed. -/
structure HeaderInert (signToken : List UInt8 → Option (List UInt8)) (hdr : AdbMessage)
    (buf : List UInt8) : Prop where
  cnxn : hdr.command ≠ ADB_CNXN
  stls : hdr.command ≠ ADB_STLS
  auth : hdr.command = ADB_AUTH → hdr.arg0 = ADB_AUTH_TYPE_TOKEN →
    signToken (buf.take hdr.dataLength.toNat) = none

section TlsRounds

variable {signToken : List UInt8 → Option (List UInt8)}

/-- A round of the loop is its body on the state before, which was not `ADB_STATE_CONNECTED`. -/
theorem mem_tlsRounds {conn : AdbConnection} {results : List (RecvMsg × List UInt8)}
    {x : TlsRound} (h : x ∈ tlsRounds signToken conn results) :
    x.before.state ≠ .connected ∧ (x.recv, x.buf) ∈ results ∧
      (x.after, x.sent) = tlsRound signToken x.before x.recv x.buf := by
  induction results generalizing conn with
  | nil => simp [tlsRounds] at h
  | cons y rs ih =>
    obtain ⟨r, buf⟩ := y
    rw [tlsRounds] at h
    split_ifs at h with hc
    · simp at h
    · rcases List.mem_cons.1 h with rfl | h
      · exact ⟨hc, List.mem_cons_self .., rfl⟩
      · obtain ⟨hstate, hmem, heq⟩ := ih h
        exact ⟨hstate, List.mem_cons_of_mem _ hmem, heq⟩

/-- On a result that is not negative the body does nothing exactly for an inert header. -/
theorem tlsRound_eq_iff {conn : AdbConnection} (hc : conn.state ≠ .connected) {r : RecvMsg}
    (hr : ¬ r.ret < 0) (buf : List UInt8) :
    tlsRound signToken conn r buf = (conn, []) ↔ HeaderInert signToken r.hdr buf := by
  unfold tlsRound
  rw [if_neg hr]
  split_ifs with hauth hstls hcnxn
  · obtain ⟨hcmd, harg⟩ := hauth
    simp only [Prod.mk.injEq, true_and, AdbConnection.signReply]
    constructor
    · intro h
      refine ⟨by rw [hcmd]; decide, by rw [hcmd]; decide, fun _ _ => ?_⟩
      split at h
      · cases h
      · assumption
    · intro h
      rw [h.auth hcmd harg]
  · simp only [Prod.mk.injEq, true_and, List.cons_ne_nil, false_iff]
    exact fun h => h.stls hstls
  · refine iff_of_false (fun h => hc ?_) fun h => h.cnxn hcnxn
    rw [← congrArg (fun o => o.1.state) h]
    rfl
  · exact iff_of_true rfl ⟨hcnxn, hstls, fun hcmd harg => absurd ⟨hcmd, harg⟩ hauth⟩

/-- The rounds of a receive loop act on complete messages only, if and only if the partial ones that
they see are inert. -/
theorem tlsRounds_acts_iff {conn : AdbConnection} {results : List (RecvMsg × List UInt8)}
    (hout : ∀ x ∈ results, x.1.Outcome) :
    (∀ x ∈ tlsRounds signToken conn results, x.Acts → x.recv.ret = 1) ↔
      ∀ x ∈ tlsRounds signToken conn results, x.recv.ret = 0 →
        HeaderInert signToken x.recv.hdr x.buf := by
  apply forall₂_congr
  intro x hx
  obtain ⟨hstate, hmem, heq⟩ := mem_tlsRounds hx
  have hacts : ¬ x.Acts ↔ tlsRound signToken x.before x.recv x.buf = (x.before, []) := by
    rw [← heq, Prod.mk.injEq, TlsRound.Acts, not_or, not_not, not_not]
  have hret : x.recv.Outcome := hout _ hmem
  rcases hret with h | h | h
  · exact iff_of_true (fun _ => h) fun h' => absurd (h.symm.trans h') (by decide)
  · rw [← tlsRound_eq_iff hstate (by omega) x.buf, ← hacts]
    constructor
    · intro h' _ ha
      exact absurd (h.symm.trans (h' ha)) (by decide)
    · intro h' ha
      exact absurd ha (h' h)
  · refine iff_of_true (fun ha => absurd ha (hacts.2 ?_)) fun h' => by omega
    rw [tlsRound, if_pos (by omega)]

end TlsRounds

/-! ## `session_poll` -/

/-- The handler changed the connection or sent something. -/
def Handled.Acts (conn : AdbConnection) (h : Handled) : Prop := h.conn ≠ conn ∨ h.sent ≠ []

theorem Handled.not_acts_iff {conn : AdbConnection} {h : Handled} :
    ¬ h.Acts conn ↔ h.conn = conn ∧ h.sent = [] := by
  rw [Handled.Acts, not_or, not_not, not_not]

/-- A message, with its payload buffer, that a TLS connection does not react to. -/
@[mk_iff] structure MessageInert (signToken : List UInt8 → Option (List UInt8))
    (conn : AdbConnection) (msg : AdbMessage) (payload : List UInt8) : Prop where
  /-- everything that a `CNXN` sets has its value already -/
  cnxn : msg.command = ADB_CNXN → conn.state = .connected ∧
    conn.protocolVersion = AdbConnection.negotiatedVersion msg.arg0 ∧
    conn.maxPayload = AdbConnection.negotiatedPayload msg.arg1 ∧
    (0 < msg.dataLength →
      conn.banner = AdbConnection.bannerCopy conn.banner msg.dataLength payload)
  auth : msg.command = ADB_AUTH → msg.arg0 = ADB_AUTH_TYPE_TOKEN →
    signToken (payload.take msg.dataLength.toNat) = none
  open_ : msg.command ≠ ADB_OPEN
  okay : msg.command = ADB_OKAY → ∀ c,
    conn.channels.slots[conn.channels.slotOf msg.arg1]? = some c →
      c.state = .open ∧ c.remoteId = msg.arg0
  wrte : msg.command = ADB_WRTE →
    ¬ conn.channels.slotOfBoth msg.arg1 msg.arg0 < conn.channels.count
  clse : msg.command = ADB_CLSE → ∀ c,
    conn.channels.slots[conn.channels.slotOf msg.arg0]? = some c → c.state = .closed

theorem bindChannel_eq_self_iff {conn : AdbConnection} {localId remoteId : UInt32} :
    conn.bindChannel localId remoteId = conn ↔
      ∀ c, conn.channels.slots[conn.channels.slotOf localId]? = some c →
        c.state = .open ∧ c.remoteId = remoteId := by
  rw [AdbConnection.bindChannel, modifyChannel_eq_self_iff]
  apply forall₂_congr
  intro c _
  rcases c with ⟨l, r, service, state⟩
  simp only [AdbChannel.bind, AdbChannel.mk.injEq, true_and]
  exact ⟨fun h => ⟨h.2.symm, h.1.symm⟩, fun h => ⟨h.2.symm, h.1.symm⟩⟩

theorem cnxn_eq_self_iff {conn : AdbConnection} {arg0 arg1 dataLength : UInt32}
    {payload : List UInt8} :
    (conn.setBanner dataLength payload).negotiate arg0 arg1 = conn ↔
      conn.state = .connected ∧ conn.protocolVersion = AdbConnection.negotiatedVersion arg0 ∧
        conn.maxPayload = AdbConnection.negotiatedPayload arg1 ∧
        (0 < dataLength →
          conn.banner = AdbConnection.bannerCopy conn.banner dataLength payload) := by
  unfold AdbConnection.setBanner
  split_ifs with h
  · simp only [AdbConnection.negotiate, AdbConnection.ext_iff, true_and, and_true, h, forall_const]
    exact ⟨fun ⟨a, b, c, d⟩ => ⟨a.symm, c.symm, d.symm, b.symm⟩,
      fun ⟨a, b, c, d⟩ => ⟨a.symm, d.symm, b.symm, c.symm⟩⟩
  · simp only [AdbConnection.negotiate, AdbConnection.ext_iff, true_and, and_true, h,
      false_implies]
    exact ⟨fun ⟨a, b, c⟩ => ⟨a.symm, b.symm, c.symm⟩, fun ⟨a, b, c⟩ => ⟨a.symm, b.symm, c.symm⟩⟩

/-- A TLS connection does nothing on a message exactly when the message is inert. -/
theorem sessionHandleMessage_inert_iff {env : HandleEnv} {conn : AdbConnection}
    (ht : conn.tls = true) (msg : AdbMessage) (payload : List UInt8) :
    ¬ (sessionHandleMessage env conn msg payload).Acts conn ↔
      MessageInert env.signToken conn msg payload := by
  rw [Handled.not_acts_iff, messageInert_iff]
  unfold sessionHandleMessage
  split_ifs with hcnxn hstls hauth hopen hokay hwrte hclse
  · simp [hcnxn, cnxn_eq_self_iff, ADB_CNXN, ADB_AUTH, ADB_OPEN, ADB_OKAY, ADB_WRTE, ADB_CLSE]
  · simp [hstls, handleStls, ht, ADB_STLS, ADB_CNXN, ADB_AUTH, ADB_OPEN, ADB_OKAY, ADB_WRTE,
      ADB_CLSE]
  · have hsign : (handleAuth env conn msg payload).conn = conn ∧
        (handleAuth env conn msg payload).sent = [] ↔
        (msg.arg0 = ADB_AUTH_TYPE_TOKEN →
          env.signToken (payload.take msg.dataLength.toNat) = none) := by
      unfold handleAuth
      split_ifs with harg
      · split <;> simp_all
      · simp [harg]
    simp [hauth, hsign, ADB_AUTH, ADB_CNXN, ADB_OPEN, ADB_OKAY, ADB_WRTE, ADB_CLSE]
  · simp [hopen]
  · simp [hokay, bindChannel_eq_self_iff, ADB_OKAY, ADB_CNXN, ADB_AUTH, ADB_OPEN, ADB_WRTE,
      ADB_CLSE]
  · have hfound : (handleWrte conn msg payload).conn = conn ∧
        (handleWrte conn msg payload).sent = [] ↔
        ¬ conn.channels.slotOfBoth msg.arg1 msg.arg0 < conn.channels.count := by
      unfold handleWrte
      split_ifs with hslot <;> simp [hslot]
    simp [hwrte, hfound, ADB_WRTE, ADB_CNXN, ADB_AUTH, ADB_OPEN, ADB_OKAY, ADB_CLSE]
  · simp [hclse, closeChannel_eq_self_iff, ADB_CLSE, ADB_CNXN, ADB_AUTH, ADB_OPEN, ADB_OKAY,
      ADB_WRTE]
  · simp [hcnxn, hauth, hopen, hokay, hwrte, hclse]

/-- The poll reached the handler with the given payload buffer. -/
def PollEnv.Reaches (p : PollEnv) (conn : AdbConnection) (buf : List UInt8) : Prop :=
  conn.fdOpen = true ∧ 0 < p.selectRet ∧ p.payload = some buf ∧ 0 ≤ p.recv.ret

/-- A poll that does anything has reached the handler, and does what the handler does. -/
theorem sessionPoll_acts_iff {conn : AdbConnection} {p : PollEnv} :
    (sessionPoll conn p).2.Acts conn ↔
      ∃ buf, p.Reaches conn buf ∧
        (sessionHandleMessage p.handle conn p.recv.hdr (storePayload buf p.recv)).Acts conn := by
  unfold sessionPoll PollEnv.Reaches
  by_cases hfd : conn.fdOpen = false
  · simp [hfd, Handled.Acts]
  · by_cases hsel : p.selectRet ≤ 0
    · simp [hfd, hsel, not_lt.2 hsel, Handled.Acts]
    · rcases hbuf : p.payload with _ | buf
      · simp [hfd, hsel, Handled.Acts]
      · by_cases hret : p.recv.ret < 0
        · simp [hfd, hsel, hret, not_le.2 hret, Handled.Acts]
        · simp [hfd, hsel, hret, not_lt.1 hret, not_le.1 hsel]

/-- `session_poll` acts on a complete message only, if and only if a partial one that it hands to
the handler is inert. -/
theorem sessionPoll_complete_iff {conn : AdbConnection} {p : PollEnv} (hout : p.recv.Outcome)
    (htls : p.recv.ret = 0 → conn.tls = true) :
    ((sessionPoll conn p).2.Acts conn → p.recv.ret = 1) ↔
      (p.recv.ret = 0 → ∀ buf, p.Reaches conn buf →
        MessageInert p.handle.signToken conn p.recv.hdr (storePayload buf p.recv)) := by
  rw [sessionPoll_acts_iff]
  rcases hout with h | h | h
  · exact iff_of_true (fun _ => h) fun h' => absurd (h.symm.trans h') (by decide)
  · constructor
    · intro hcomplete _ buf hreach
      rw [← sessionHandleMessage_inert_iff (htls h)]
      intro hacts
      exact absurd (h.symm.trans (hcomplete ⟨buf, hreach, hacts⟩)) (by decide)
    · rintro hinert ⟨buf, hreach, hacts⟩
      exact absurd hacts ((sessionHandleMessage_inert_iff (htls h) ..).2 (hinert h buf hreach))
  · refine iff_of_true ?_ fun h' => by omega
    rintro ⟨buf, ⟨-, -, -, hret⟩, -⟩
    omega

/-! ## All three -/

theorem sharedBuffer_outcome {buf : List UInt8} {results : List RecvMsg}
    (h : ∀ r ∈ results, r.Outcome) : ∀ x ∈ sharedBuffer buf results, x.1.Outcome := by
  induction results generalizing buf with
  | nil => simp [sharedBuffer]
  | cons r rs ih =>
    obtain ⟨hr, hrs⟩ := List.forall_mem_cons.1 h
    exact List.forall_mem_cons.2 ⟨hr, ih hrs⟩

/-- Each of the three callers changes the connection or sends a reply only after a receive call that
returned `1`, if and only if what it looks at after a return value `0` is inert as it stands. The
results of the receive calls are arbitrary; only a TLS connection returns `0`. -/
theorem receive_sites_complete_iff (signToken : List UInt8 → Option (List UInt8))
    (conn : AdbConnection) {stack : List (RecvMsg × List UInt8)}
    (hstack : ∀ x ∈ stack, x.1.Outcome) (rpl : List UInt8) {results : List RecvMsg}
    (hresults : ∀ r ∈ results, r.Outcome) {p : PollEnv} (hpoll : p.recv.Outcome)
    (htls : p.recv.ret = 0 → conn.tls = true) :
    ((∀ x ∈ adbConnectTlsRounds signToken conn stack, x.Acts → x.recv.ret = 1) ↔
        ∀ x ∈ adbConnectTlsRounds signToken conn stack, x.recv.ret = 0 →
          HeaderInert signToken x.recv.hdr x.buf) ∧
      ((∀ x ∈ stlsRounds signToken conn rpl results, x.Acts → x.recv.ret = 1) ↔
        ∀ x ∈ stlsRounds signToken conn rpl results, x.recv.ret = 0 →
          HeaderInert signToken x.recv.hdr x.buf) ∧
      (((sessionPoll conn p).2.Acts conn → p.recv.ret = 1) ↔
        (p.recv.ret = 0 → ∀ buf, p.Reaches conn buf →
          MessageInert p.handle.signToken conn p.recv.hdr (storePayload buf p.recv))) := by
  refine ⟨tlsRounds_acts_iff ?_, tlsRounds_acts_iff (sharedBuffer_outcome ?_),
    sessionPoll_complete_iff hpoll htls⟩
  · intro x hx
    obtain ⟨y, hy, rfl⟩ := List.mem_map.1 hx
    exact hstack y (List.mem_of_mem_take hy)
  · exact fun r hr => hresults r (List.mem_of_mem_take hr)

/-- The connection of `adb_connect` when its TLS loop starts. -/
def tlsConnection : AdbConnection := { AdbConnection.initial with state := .authSent, tls := true }

/-- A receive call on a zeroed header when only the command of a `CNXN` has arrived. -/
def partialCnxn : RecvMsg :=
  (adbRecvMsgTls (List.replicate 24 0) 4096 true
    (unread (write32le ADB_CNXN) [.signal .again])).1

/-- The same when nothing has arrived. -/
def partialNothing : RecvMsg :=
  (adbRecvMsgTls (List.replicate 24 0) 4096 true [.signal .again]).1

/-- Nothing has arrived at any of the three callers. -/
theorem receive_sites_complete_nothing :
    List.Forall (fun x => x.Acts → x.recv.ret = 1)
      (adbConnectTlsRounds (fun _ => none) tlsConnection [(partialNothing, [])]) := by
  have hout : partialNothing.Outcome := adbRecvMsgTls_outcome ..
  have hzero : partialNothing.hdr.command = 0 := by decide
  have hstack : ∀ x ∈ ([(partialNothing, [])] : List (RecvMsg × List UInt8)), x.1.Outcome := by
    simpa using hout
  have hresults : ∀ r ∈ [partialNothing], r.Outcome := by simpa using hout
  have hpoll : (⟨1, some [], partialNothing, .idle⟩ : PollEnv).recv.Outcome := hout
  rw [List.forall_iff_forall_mem]
  refine (receive_sites_complete_iff (fun _ => none) tlsConnection hstack [] hresults hpoll
    fun _ => rfl).1.2 ?_
  intro x hx _
  have hmem := (mem_tlsRounds hx).2.1
  simp only [List.take_succ_cons, List.take_nil, List.map_cons, List.map_nil, List.mem_singleton,
    Prod.mk.injEq] at hmem
  rw [hmem.1]
  exact ⟨by rw [hzero]; decide, by rw [hzero]; decide, fun _ _ => rfl⟩

/-- Four bytes of a `CNXN` connect the session, with version and payload limit `0`. -/
theorem partialCnxn_connects :
    partialCnxn.ret = 0 ∧
      (adbConnectTlsRounds (fun _ => none) tlsConnection [(partialCnxn, [])]).map (fun x =>
          (x.before.state, x.after.state, x.after.protocolVersion, x.after.maxPayload)) =
        [(.authSent, .connected, 0, 0)] := by
  decide

end Autoscrcpy
