import Autoscrcpy.Adb.ConnReceive
import Autoscrcpy.Adb.SessionRuns
import Autoscrcpy.Device.ServerStart

/-!
# The receive loops of the start

The TLS loop of `adb_connect` and the loops of `server_start` receive into buffers of 4096 bytes,
while `session_send_cnxn` allows the device to send `ADB_MAX_PAYLOAD`. A message between these sizes
is refused after its header was read, and the next call starts inside its payload
(`receives_whole_iff`).
-/

namespace Autoscrcpy

open SegStream

/-! ## Transports -/

/-- The results of receive calls on the TLS context, each with a header structure set to zero. -/
def tlsReceives : ℕ → Source UInt8 TlsSignal → List RecvMsg × Source UInt8 TlsSignal
  | 0, s => ([], s)
  | n + 1, s =>
      let r := adbRecvMsgTls (List.replicate 24 0) (Int32.ofNat ADB_MAX_PAYLOAD) true s
      let rs := tlsReceives n r.2
      (r.1 :: rs.1, rs.2)

/-! ## Loops -/

/-- What a round of a receive loop meets besides the bytes of the transport: the result of `select`,
the contents of the header structure and of the buffer, and what the libraries answer while a
message is handled. -/
structure RoundEnv where
  selectRet : ℤ
  hdr₀ : List UInt8
  buf : List UInt8
  signToken : List UInt8 → Option (List UInt8)
  handshakeOk : Bool
  rpl : Option (List UInt8)

/-- The environment of a message that is handled; the receive calls after a handshake read from the
TLS context. -/
def RoundEnv.handleEnv (e : RoundEnv) (w : ConnSource) : HandleEnv :=
  ⟨e.signToken, e.handshakeOk, e.rpl, (tlsReceives 50 w.tls).1⟩

/-- How many receive calls `session_handle_message` makes itself. -/
def handleReads (env : HandleEnv) (conn : AdbConnection) (hdr : AdbMessage) : ℕ :=
  if hdr.command = ADB_STLS ∧ conn.tls = false ∧ env.handshakeOk = true then
    match env.rpl with
    | none => 0
    | some rpl => (stlsRounds env.signToken conn.upgraded rpl env.results).length
  else 0

/-- A receive loop. `selects` says whether a round asks `select` first, and `idleEnds` whether the
loop ends when that reports nothing; `body` is what a round does with what it received, and whether
the loop goes on; `reads` is how many receive calls that makes. -/
structure ReceiveLoop where
  rounds : ℕ
  bufSize : Int32
  selects : Bool
  idleEnds : Bool
  goesOn : AdbConnection → Bool
  body : ReceiveRound → AdbConnection → AdbConnection × Bool
  reads : ReceiveRound → AdbConnection → ℕ

/-- The receive calls that handling the message of a round makes. -/
def ReceiveRound.reads (r : ReceiveRound) (conn : AdbConnection) : ℕ :=
  if r.Received then handleReads r.handle conn r.recv.hdr else 0

/-- The loop after the TLS handshake of `adb_connect`. -/
def adbConnectTlsLoop : ReceiveLoop where
  rounds := 50
  bufSize := 4096
  selects := false
  idleEnds := false
  goesOn conn := conn.state ≠ .connected
  body r conn := ((tlsRound r.handle.signToken conn r.recv r.payload).1, true)
  reads _ _ := 0

/-- The loop of `server_start` that takes what is left of the handshake off the transport. -/
def drainLoop : ReceiveLoop where
  rounds := 10
  bufSize := 4096
  selects := true
  idleEnds := true
  goesOn _ := true
  body _ conn := (conn, true)
  reads _ _ := 0

/-- The wait of `server_start` for its sync channel, in the given slot. -/
def syncWaitLoop (slot : ℕ) : ReceiveLoop where
  rounds := 200
  bufSize := 4096
  selects := true
  idleEnds := false
  goesOn conn := conn.chanState slot = some .opening
  body r conn := (r.step conn, true)
  reads := ReceiveRound.reads

/-- The receive call between `SEND` and the file: a loop of one round. -/
def responseLoop : ReceiveLoop where
  rounds := 1
  bufSize := 4096
  selects := true
  idleEnds := false
  goesOn _ := true
  body r conn := (r.step conn, true)
  reads := ReceiveRound.reads

/-- The wait of `server_start` for the answer to its push. -/
def pushAnswerLoop (slot : ℕ) : ReceiveLoop where
  rounds := 200
  bufSize := 4096
  selects := true
  idleEnds := false
  goesOn _ := true
  body r conn :=
    let status := r.syncStatus (conn.localIdOf slot)
    (r.step conn, status ≠ some SYNC_OKAY ∧ status ≠ some SYNC_FAIL)
  reads := ReceiveRound.reads

/-- The loop of `server_start` after the shell command. -/
def shellDrainLoop : ReceiveLoop where
  rounds := 50
  bufSize := 4096
  selects := true
  idleEnds := false
  goesOn _ := true
  body r conn := (r.step conn, true)
  reads := ReceiveRound.reads

/-! ## Runs -/

/-- A receive call: whether the connection had a TLS context, the transport before the call, the
result, and the transport after it. -/
structure RecvCall where
  tls : Bool
  before : ConnSource
  recv : RecvMsg
  after : ConnSource

/-- What a round that receives does: its call, the connection and the transport after it, and
whether the loop goes on. -/
structure RoundResult where
  call : RecvCall
  conn : AdbConnection
  source : ConnSource
  goesOn : Bool

def ReceiveLoop.round (L : ReceiveLoop) (conn : AdbConnection) (w : ConnSource) (e : RoundEnv) :
    RoundResult :=
  let r := adbRecvMsgConn conn e.hdr₀ L.bufSize true w
  let round : ReceiveRound :=
    ⟨if L.selects then e.selectRet else 1, e.buf, r.1, e.handleEnv r.2⟩
  let next := L.body round conn
  -- what handling the message reads is gone from the TLS context
  ⟨⟨conn.tls, w, r.1, r.2⟩, next.1,
    { r.2 with tls := (tlsReceives (L.reads round conn) r.2.tls).2 }, next.2⟩

/-- The calls of a loop, and the connection and the transport that it leaves. -/
structure LoopRun where
  calls : List RecvCall
  conn : AdbConnection
  source : ConnSource

/-- At most `n` rounds of a loop. -/
def ReceiveLoop.run (L : ReceiveLoop) : ℕ → AdbConnection → ConnSource → List RoundEnv → LoopRun
  | 0, conn, w, _ => ⟨[], conn, w⟩
  | _ + 1, conn, w, [] => ⟨[], conn, w⟩
  | n + 1, conn, w, e :: es =>
      if L.goesOn conn = false then ⟨[], conn, w⟩
      else if L.selects ∧ e.selectRet ≤ 0 then
        if L.idleEnds then ⟨[], conn, w⟩ else L.run n conn w es
      else
        let x := L.round conn w e
        let rest := if x.goesOn then L.run n x.conn x.source es else ⟨[], x.conn, x.source⟩
        { rest with calls := x.call :: rest.calls }

/-- The places of the receive calls. -/
inductive ReceiveSite where
  | connectTls
  | drain
  | syncWait (slot : ℕ)
  | response
  | pushAnswer (slot : ℕ)
  | shellDrain

/-- The loop at a place. -/
def ReceiveSite.loop : ReceiveSite → ReceiveLoop
  | connectTls => adbConnectTlsLoop
  | drain => drainLoop
  | syncWait slot => syncWaitLoop slot
  | response => responseLoop
  | pushAnswer slot => pushAnswerLoop slot
  | shellDrain => shellDrainLoop

/-- A loop with what comes before it: the connection is used to send, to open and to close channels,
and nothing is received. -/
structure Phase where
  prepare : AdbConnection → AdbConnection
  prepare_tls : ∀ conn, (prepare conn).tls = conn.tls
  site : ReceiveSite
  envs : List RoundEnv

/-- The calls of loops one after the other. -/
def phasesRun (conn : AdbConnection) (w : ConnSource) : List Phase → List RecvCall
  | [] => []
  | p :: ps =>
      let r := p.site.loop.run p.site.loop.rounds (p.prepare conn) w p.envs
      r.calls ++ phasesRun r.conn r.source ps

/-! ## The loops as rounds of messages -/

/-- A round in which nothing arrives. -/
def ReceiveRound.nothing : ReceiveRound := ⟨0, [], ⟨0, ⟨0, 0, 0, 0, 0, 0⟩, []⟩, .idle⟩

theorem ReceiveRound.nothing_step (conn : AdbConnection) : nothing.step conn = conn :=
  if_neg fun h => absurd h.1 (by decide)

/-- On the connection the wait for the sync channel is `awaitOpen`, for the rounds that it makes. -/
theorem syncWaitLoop_conn (slot n : ℕ) (conn : AdbConnection) (w : ConnSource)
    (es : List RoundEnv) : ∃ rounds, rounds.length ≤ n ∧
      ((syncWaitLoop slot).run n conn w es).conn = awaitOpen slot conn rounds := by
  induction n generalizing conn w es with
  | zero => exact ⟨[], le_rfl, rfl⟩
  | succ n ih =>
    cases es with
    | nil => exact ⟨[], Nat.zero_le _, rfl⟩
    | cons e es =>
      rw [ReceiveLoop.run]
      by_cases hopening : conn.chanState slot = some .opening
      · have hgoes : ¬ (syncWaitLoop slot).goesOn conn = false := by
          simp [syncWaitLoop, hopening]
        rw [if_neg hgoes]
        split_ifs with hidle hends
        · cases hends
        · obtain ⟨rounds, hlen, heq⟩ := ih conn w es
          refine ⟨.nothing :: rounds, Nat.succ_le_succ hlen, ?_⟩
          rw [heq, awaitOpen, if_pos hopening, ReceiveRound.nothing_step]
        · let r := adbRecvMsgConn conn e.hdr₀ 4096 true w
          obtain ⟨rounds, hlen, heq⟩ := ih ((syncWaitLoop slot).round conn w e).conn
            ((syncWaitLoop slot).round conn w e).source es
          refine ⟨⟨e.selectRet, e.buf, r.1, e.handleEnv r.2⟩ :: rounds, Nat.succ_le_succ hlen, ?_⟩
          rw [awaitOpen, if_pos hopening]
          exact heq
      · have hgoes : (syncWaitLoop slot).goesOn conn = false := by
          simp [syncWaitLoop, hopening]
        rw [if_pos hgoes]
        exact ⟨[], Nat.zero_le _, rfl⟩

/-- On the connection the loop after the shell command steps through the rounds that it makes. -/
theorem shellDrainLoop_conn (n : ℕ) (conn : AdbConnection) (w : ConnSource) (es : List RoundEnv) :
    ∃ rounds : List ReceiveRound, rounds.length ≤ n ∧ (shellDrainLoop.run n conn w es).conn =
      rounds.foldl (fun conn x => x.step conn) conn := by
  induction n generalizing conn w es with
  | zero => exact ⟨[], le_rfl, rfl⟩
  | succ n ih =>
    cases es with
    | nil => exact ⟨[], Nat.zero_le _, rfl⟩
    | cons e es =>
      rw [ReceiveLoop.run]
      split_ifs with hgoes hidle hends
      · cases hgoes
      · cases hends
      · obtain ⟨rounds, hlen, heq⟩ := ih conn w es
        exact ⟨rounds, Nat.le_succ_of_le hlen, heq⟩
      · let r := adbRecvMsgConn conn e.hdr₀ 4096 true w
        obtain ⟨rounds, hlen, heq⟩ := ih (shellDrainLoop.round conn w e).conn
          (shellDrainLoop.round conn w e).source es
        exact ⟨⟨e.selectRet, e.buf, r.1, e.handleEnv r.2⟩ :: rounds, Nat.succ_le_succ hlen, heq⟩

/-! ## Message boundaries -/

/-- A message that the device may send. -/
structure Packet.Legal (p : Packet) : Prop where
  magic : p.hdr.MagicOk
  length : p.hdr.dataLength.toNat = p.payload.length
  fits : p.payload.length ≤ ADB_MAX_PAYLOAD

/-- The transport brings legal messages and nothing else. -/
def ConnSource.MessagesOnly (w : ConnSource) (tls : Bool) : Prop :=
  w.Quiet tls ∧ ∃ ms : List Packet, (∀ p ∈ ms, p.Legal) ∧ w.bytes tls = ms.flatMap Packet.toBytes

/-- The transport in use, and the TLS context once there is one, are at a message boundary. What a
TLS handshake exchanges is on neither. -/
structure Aligned (conn : AdbConnection) (w : ConnSource) : Prop where
  used : w.MessagesOnly conn.tls
  tls : w.MessagesOnly true

namespace RecvCall

/-- The bytes that a call finds. -/
def bytes (c : RecvCall) : List UInt8 := c.before.bytes c.tls

/-- The call returns `1` with the message that it finds, takes the `24 + data_length` bytes of this
message, and leaves the transport at a message boundary. -/
def Whole (c : RecvCall) : Prop :=
  ∃ p, Packet.Legal p ∧ c.recv = p.delivery ∧ c.bytes = p.toBytes ++ c.after.bytes c.tls ∧
    c.after.MessagesOnly c.tls

/-- Where a call finds anything it receives a whole message. -/
def Good (c : RecvCall) : Prop := c.bytes ≠ [] → c.Whole

/-- A message that a call finds has at most 4096 bytes of data. -/
def Small (c : RecvCall) : Prop :=
  ∀ p t, Packet.Legal p → c.bytes = p.toBytes ++ t → p.hdr.dataLength ≤ 4096

end RecvCall

theorem Packet.Legal.size {p : Packet} (h : p.Legal) (bufSize : Int32) :
    bufSize < p.hdr.dataLength.toInt32 ↔ bufSize.toInt < p.hdr.dataLength.toNat := by
  have hlt : p.hdr.dataLength.toNat < 2 ^ 31 := by
    rw [h.length]
    exact h.fits.trans_lt (by decide)
  rw [Int32.lt_iff_toInt_lt, toInt_toInt32_of_lt _ hlt]

theorem le_bufSize_iff (v : UInt32) : v ≤ 4096 ↔ (v.toNat : ℤ) ≤ (4096 : Int32).toInt := by
  have hint : (4096 : Int32).toInt = 4096 := by decide
  rw [hint, UInt32.le_iff_toNat_le]
  exact_mod_cast Iff.rfl

section Calls

variable {conn : AdbConnection} {w : ConnSource} (hdr₀ : List UInt8)

/-- A call that finds nothing leaves nothing. -/
theorem adbRecvMsgConn_idle {maxPayload : Int32} (hquiet : w.Quiet conn.tls)
    (hnil : w.bytes conn.tls = []) :
    (adbRecvMsgConn conn hdr₀ maxPayload true w).2.MessagesOnly conn.tls := by
  have hle {ε : Type} {react : ε → Option ℤ} {s : Source UInt8 ε} (hs : content s = []) :
      content (recvFrame react hdr₀ maxPayload true s).2 = [] :=
    List.eq_nil_of_length_eq_zero
      (Nat.le_zero.1 ((recvFrame_content_le s).trans (by rw [hs]; rfl)))
  unfold adbRecvMsgConn
  cases htls : conn.tls with
  | true =>
    simp only [htls, ConnSource.Quiet, ConnSource.bytes, if_true] at hquiet hnil
    exact ⟨fun e he => hquiet e (signal_mem_of_mem_recvFrame he), [], by simp, hle hnil⟩
  | false =>
    simp only [htls, ConnSource.Quiet, ConnSource.bytes, Bool.false_eq_true, if_false]
      at hquiet hnil
    exact ⟨fun e he => hquiet e (signal_mem_of_mem_recvFrame he), [], by simp, hle hnil⟩

/-- A call whose buffer is large enough takes the message at the head of the transport. -/
theorem adbRecvMsgConn_messages {maxPayload : Int32} (h : w.MessagesOnly conn.tls)
    (hsmall : ∀ p t, Packet.Legal p → w.bytes conn.tls = p.toBytes ++ t →
      (p.hdr.dataLength.toNat : ℤ) ≤ maxPayload.toInt) :
    (adbRecvMsgConn conn hdr₀ maxPayload true w).2.MessagesOnly conn.tls ∧
      (w.bytes conn.tls ≠ [] → ∃ p, Packet.Legal p ∧
        (adbRecvMsgConn conn hdr₀ maxPayload true w).1 = p.delivery ∧
        w.bytes conn.tls =
          p.toBytes ++ (adbRecvMsgConn conn hdr₀ maxPayload true w).2.bytes conn.tls) := by
  obtain ⟨hquiet, ms, hlegal, hc⟩ := h
  cases ms with
  | nil => exact ⟨adbRecvMsgConn_idle hdr₀ hquiet hc, fun hne => absurd hc hne⟩
  | cons p ps =>
    have hp := hlegal p (List.mem_cons_self ..)
    rw [List.flatMap_cons] at hc
    obtain ⟨hquiet', h⟩ :=
      adbRecvMsgConn_packet conn hdr₀ maxPayload true hp.magic hp.length hquiet hc
    have hfits : ¬ maxPayload < p.hdr.dataLength.toInt32 := by
      rw [hp.size]
      exact not_lt.2 (hsmall p _ hp hc)
    rw [if_neg fun hbig => hfits hbig.2] at h
    obtain ⟨hret, hrest⟩ := h
    refine ⟨⟨hquiet', ps, fun q hq => hlegal q (List.mem_cons_of_mem _ hq), hrest⟩, fun _ => ?_⟩
    exact ⟨p, hp, by simpa [Packet.delivery] using hret, by rw [hc, hrest]⟩

/-- A call with a buffer of 4096 bytes. -/
def RecvCall.ofConn (conn : AdbConnection) (hdr₀ : List UInt8) (w : ConnSource) : RecvCall :=
  let r := adbRecvMsgConn conn hdr₀ 4096 true w
  ⟨conn.tls, w, r.1, r.2⟩

/-- Such a call is good exactly where the message that it finds is small. -/
theorem recvCall_good_iff (h : w.MessagesOnly conn.tls) :
    (RecvCall.ofConn conn hdr₀ w).Good ↔ (RecvCall.ofConn conn hdr₀ w).Small := by
  constructor
  · intro hgood p t hp hc
    have hne : (RecvCall.ofConn conn hdr₀ w).bytes ≠ [] := by
      rw [hc]
      exact List.append_ne_nil_of_left_ne_nil (List.ne_nil_of_length_pos (by simp)) t
    obtain ⟨q, -, hrecv, -⟩ := hgood hne
    by_contra hbig
    have hsize : (4096 : Int32) < p.hdr.dataLength.toInt32 := by
      rw [hp.size]
      exact not_le.1 fun hle => hbig ((le_bufSize_iff _).2 hle)
    have hlong : p.payload ≠ [] := by
      rintro hnil
      have hlen := hp.length
      rw [hnil] at hlen
      exact hbig (UInt32.le_iff_toNat_le.2 (by rw [hlen]; exact Nat.zero_le _))
    obtain ⟨-, hcall⟩ := adbRecvMsgConn_packet conn hdr₀ 4096 true hp.magic hp.length h.1 hc
    rw [if_pos ⟨hlong, hsize⟩] at hcall
    -- a refused message returns `-1`, a delivered one `1`
    have hret := congrArg RecvMsg.ret (hrecv.symm.trans hcall.1)
    exact absurd hret (show (1 : ℤ) ≠ -1 by decide)
  · intro hsmall hne
    obtain ⟨hrest, hwhole⟩ := adbRecvMsgConn_messages hdr₀ h fun p t hp hc =>
      (le_bufSize_iff _).1 (hsmall p t hp hc)
    obtain ⟨p, hp, hrecv, hbytes⟩ := hwhole hne
    exact ⟨p, hp, hrecv, hbytes, hrest⟩

end Calls

/-- Receiving with a buffer of `ADB_MAX_PAYLOAD` bytes keeps a TLS context at a message boundary. -/
theorem tlsReceives_messages (n : ℕ) {w : ConnSource} (h : w.MessagesOnly true) :
    ({ w with tls := (tlsReceives n w.tls).2 } : ConnSource).MessagesOnly true := by
  induction n generalizing w with
  | zero => exact h
  | succ n ih =>
    let conn : AdbConnection := { AdbConnection.initial with tls := true }
    have hfits (p : Packet) (hp : p.Legal) :
        (p.hdr.dataLength.toNat : ℤ) ≤ (Int32.ofNat ADB_MAX_PAYLOAD).toInt := by
      have hmax : (Int32.ofNat ADB_MAX_PAYLOAD).toInt = ADB_MAX_PAYLOAD := by decide
      rw [hmax, hp.length]
      exact_mod_cast hp.fits
    have hcall : (adbRecvMsgConn conn (List.replicate 24 0) (Int32.ofNat ADB_MAX_PAYLOAD) true
        w).2.MessagesOnly true :=
      (adbRecvMsgConn_messages (List.replicate 24 0) (show w.MessagesOnly conn.tls from h)
        fun p t hp _ => hfits p hp).1
    exact ih hcall

/-! ## Runs of the loops -/

theorem ReceiveSite.bufSize (site : ReceiveSite) : site.loop.bufSize = 4096 := by
  cases site <;> rfl

theorem ReceiveRound.step_tls (r : ReceiveRound) {conn : AdbConnection} (h : conn.tls = true) :
    (r.step conn).tls = true := by
  unfold step
  split_ifs
  · have htls := Autoscrcpy.step_tls (.handleMessage r.handle r.recv.hdr r.payload) conn
    rw [h, Bool.true_or] at htls
    exact htls
  · exact h

/-- No loop gives a TLS context up. -/
theorem ReceiveSite.body_tls (site : ReceiveSite) (r : ReceiveRound) {conn : AdbConnection}
    (h : conn.tls = true) : (site.loop.body r conn).1.tls = true := by
  cases site with
  | connectTls => exact (tlsRound_tls ..).trans h
  | drain => exact h
  | syncWait slot => exact r.step_tls h
  | response => exact r.step_tls h
  | pushAnswer slot => exact r.step_tls h
  | shellDrain => exact r.step_tls h

/-- One round with a small message keeps both transports at a message boundary. -/
theorem Aligned.round {conn conn' : AdbConnection} {w : ConnSource} (h : Aligned conn w)
    (hdr₀ : List UInt8) (hsmall : (RecvCall.ofConn conn hdr₀ w).Small)
    (htls : conn.tls = true → conn'.tls = true) (k : ℕ) :
    Aligned conn' { (adbRecvMsgConn conn hdr₀ 4096 true w).2 with
      tls := (tlsReceives k (adbRecvMsgConn conn hdr₀ 4096 true w).2.tls).2 } := by
  have hused := (adbRecvMsgConn_messages hdr₀ h.used fun p t hp hc =>
    (le_bufSize_iff _).1 (hsmall p t hp hc)).1
  have hother : (adbRecvMsgConn conn hdr₀ 4096 true w).2.MessagesOnly true := by
    cases hc : conn.tls with
    | true => rwa [hc] at hused
    | false =>
      have hsame : (adbRecvMsgConn conn hdr₀ 4096 true w).2.tls = w.tls := by
        simp [adbRecvMsgConn, hc]
      obtain ⟨hquiet, ms, hlegal, hbytes⟩ := h.tls
      exact ⟨by rwa [ConnSource.Quiet, hsame], ms, hlegal, by rwa [ConnSource.bytes, hsame]⟩
  have hread := tlsReceives_messages k hother
  refine ⟨?_, hread⟩
  cases hc' : conn'.tls with
  | true => exact hread
  | false =>
    have hc : conn.tls = false := by
      by_contra hne
      rw [htls (by simpa using hne)] at hc'
      cases hc'
    rw [hc] at hused
    exact hused

/-- A round from a message boundary. -/
theorem ReceiveSite.round_good_iff (site : ReceiveSite) {conn : AdbConnection} {w : ConnSource}
    (h : Aligned conn w) (e : RoundEnv) :
    ((site.loop.round conn w e).call.Good ↔ (site.loop.round conn w e).call.Small) ∧
      ((site.loop.round conn w e).call.Small →
        Aligned (site.loop.round conn w e).conn (site.loop.round conn w e).source) := by
  rw [ReceiveLoop.round, site.bufSize]
  exact ⟨recvCall_good_iff e.hdr₀ h.used, fun hsmall => h.round e.hdr₀ hsmall (site.body_tls _) _⟩

/-- From a message boundary the calls of a loop are good exactly where the messages that they find
are small, and then the loop ends at a message boundary. -/
theorem ReceiveSite.run_good_iff (site : ReceiveSite) (n : ℕ) {conn : AdbConnection}
    {w : ConnSource} (h : Aligned conn w) (es : List RoundEnv) :
    ((∀ c ∈ (site.loop.run n conn w es).calls, c.Good) ↔
        ∀ c ∈ (site.loop.run n conn w es).calls, c.Small) ∧
      ((∀ c ∈ (site.loop.run n conn w es).calls, c.Small) →
        Aligned (site.loop.run n conn w es).conn (site.loop.run n conn w es).source) := by
  induction n generalizing conn w es with
  | zero => exact ⟨by simp [ReceiveLoop.run], fun _ => h⟩
  | succ n ih =>
    cases es with
    | nil => exact ⟨by simp [ReceiveLoop.run], fun _ => h⟩
    | cons e es =>
      rw [ReceiveLoop.run]
      obtain ⟨hcall, hnext⟩ := site.round_good_iff h e
      generalize site.loop.round conn w e = x at hcall hnext
      by_cases hgoes : site.loop.goesOn conn = false
      · rw [if_pos hgoes]
        exact ⟨by simp, fun _ => h⟩
      rw [if_neg hgoes]
      by_cases hidle : site.loop.selects ∧ e.selectRet ≤ 0
      · rw [if_pos hidle]
        split_ifs
        · exact ⟨by simp, fun _ => h⟩
        · exact ih h es
      rw [if_neg hidle]
      simp only [List.forall_mem_cons]
      cases hon : x.goesOn with
      | true =>
        constructor
        · constructor
          · intro hgood
            have hsmall := hcall.1 hgood.1
            exact ⟨hsmall, (ih (hnext hsmall) es).1.1 hgood.2⟩
          · intro hsmall
            exact ⟨hcall.2 hsmall.1, (ih (hnext hsmall.1) es).1.2 hsmall.2⟩
        · intro hsmall
          exact (ih (hnext hsmall.1) es).2 hsmall.2
      | false => exact ⟨by simpa using hcall, fun hsmall => hnext hsmall.1⟩

theorem Aligned.prepare {conn : AdbConnection} {w : ConnSource} (h : Aligned conn w) (p : Phase) :
    Aligned (p.prepare conn) w :=
  ⟨by rw [p.prepare_tls]; exact h.used, h.tls⟩

/-- Every receive call of the phases takes exactly one message off the transport. -/
def ReceivesWhole (conn : AdbConnection) (w : ConnSource) (phases : List Phase) : Prop :=
  ∀ c ∈ phasesRun conn w phases, c.Good

/-- From a message boundary every receive call of the loops takes exactly one message off the
transport, exactly where the messages that the calls find have at most 4096 bytes of data. -/
theorem receives_whole_iff (phases : List Phase) {conn : AdbConnection} {w : ConnSource}
    (h : Aligned conn w) :
    ReceivesWhole conn w phases ↔ ∀ c ∈ phasesRun conn w phases, c.Small := by
  unfold ReceivesWhole
  induction phases generalizing conn w with
  | nil => simp [phasesRun]
  | cons p ps ih =>
    have hrun := p.site.run_good_iff p.site.loop.rounds (h.prepare p) p.envs
    rw [phasesRun]
    simp only [List.forall_mem_append]
    constructor
    · intro hgood
      have hsmall := hrun.1.1 hgood.1
      exact ⟨hsmall, (ih (hrun.2 hsmall)).1 hgood.2⟩
    · intro hsmall
      exact ⟨hrun.1.2 hsmall.1, (ih (hrun.2 hsmall.1)).2 hsmall.2⟩

/-! ## Runs on given messages -/

theorem aligned_atOnce (conn : AdbConnection) {ms : List Packet} (h : ∀ p ∈ ms, p.Legal) :
    Aligned conn (.atOnce (ms.flatMap Packet.toBytes)) :=
  ⟨⟨ConnSource.quiet_atOnce .., ms, h, ConnSource.bytes_atOnce ..⟩,
    ⟨ConnSource.quiet_atOnce .., ms, h, ConnSource.bytes_atOnce ..⟩⟩

theorem RecvCall.small_of_length {c : RecvCall} (h : c.bytes.length ≤ 24 + 4096) : c.Small := by
  intro p t hp hc
  rw [hc, List.length_append, Packet.length_toBytes] at h
  rw [UInt32.le_iff_toNat_le, hp.length]
  show p.payload.length ≤ 4096
  omega

/-- A round in which there is something to read and nothing else happens. -/
def readyRound : RoundEnv := ⟨1, [], [], fun _ => none, false, none⟩

/-- The loop after the shell command, right after the connection was opened. -/
def shellDrainPhase (envs : List RoundEnv) : Phase where
  prepare conn := (adbShell conn [] 0).conn
  prepare_tls conn := by
    unfold adbShell openService
    split_ifs
    · rfl
    · exact (sessionOpenChannel_sameSession ..).tls
  site := .shellDrain
  envs := envs

/-- The `OKAY` of the shell channel. -/
def shellOkay : Packet := ⟨⟨ADB_OKAY, 7, 1, 0, 0, ADB_OKAY ^^^ 0xffffffff⟩, []⟩

theorem shellOkay_legal : shellOkay.Legal := ⟨rfl, rfl, Nat.zero_le _⟩

theorem receives_whole_iff_okay :
    ReceivesWhole (AdbConnection.initial.negotiate 0x01000001 1048576)
      (.atOnce ([shellOkay].flatMap Packet.toBytes)) [shellDrainPhase [readyRound]] := by
  have hshort : ∀ c ∈ phasesRun (AdbConnection.initial.negotiate 0x01000001 1048576)
      (.atOnce ([shellOkay].flatMap Packet.toBytes)) [shellDrainPhase [readyRound]],
      c.bytes.length ≤ 24 + 4096 := by decide
  exact (receives_whole_iff _ (aligned_atOnce _ (List.forall_mem_singleton.2 shellOkay_legal))).2
    fun c hc => RecvCall.small_of_length (hshort c hc)

/-- Output of the shell command: one byte more than the buffer holds. -/
def longOutput : Packet :=
  ⟨⟨ADB_WRTE, 7, 1, 4097, 0, ADB_WRTE ^^^ 0xffffffff⟩, List.replicate 4097 0⟩

theorem longOutput_legal : longOutput.Legal where
  magic := rfl
  length := by
    rw [longOutput, List.length_replicate]
    rfl
  fits := by
    rw [longOutput, List.length_replicate]
    decide

/-- The long output with the `OKAY` after it. -/
def longOutputSource : ConnSource :=
  .atOnce ([longOutput, shellOkay].flatMap Packet.toBytes)

/-- The calls that find the long output and the `OKAY` after it. -/
def longOutputCalls : List RecvCall :=
  phasesRun (AdbConnection.initial.negotiate 0x01000001 1048576) longOutputSource
    [shellDrainPhase [readyRound, readyRound]]

/-- The long output is refused with its payload still on the transport, where the next call takes a
header from it. -/
theorem longOutput_desynchronises :
    (longOutput.Legal ∧ shellOkay.Legal) ∧
      longOutputCalls.map (fun c => (c.bytes.length, c.recv.ret, (c.after.bytes c.tls).length)) =
        [(4145, -1, 4121), (4121, -1, 4097)] ∧
      ¬ ReceivesWhole (AdbConnection.initial.negotiate 0x01000001 1048576) longOutputSource
        [shellDrainPhase [readyRound, readyRound]] := by
  have hrun : longOutputCalls.map
      (fun c => (c.bytes.length, c.recv.ret, (c.after.bytes c.tls).length)) =
        [(4145, -1, 4121), (4121, -1, 4097)] := by decide +kernel
  refine ⟨⟨longOutput_legal, shellOkay_legal⟩, hrun, fun h => ?_⟩
  cases hcalls : longOutputCalls with
  | nil => simp [hcalls] at hrun
  | cons c cs =>
    simp only [hcalls, List.map_cons, List.cons.injEq, Prod.mk.injEq] at hrun
    obtain ⟨⟨hlen, hret, -⟩, -⟩ := hrun
    have hne : c.bytes ≠ [] := List.ne_nil_of_length_pos (by omega)
    have hmem : c ∈ longOutputCalls := by simp [hcalls]
    obtain ⟨p, -, hrecv, -⟩ := h c hmem hne
    rw [hrecv] at hret
    exact absurd hret (show (1 : ℤ) ≠ -1 by decide)

end Autoscrcpy
