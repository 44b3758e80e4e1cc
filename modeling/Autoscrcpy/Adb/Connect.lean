import Autoscrcpy.Adb.BannerCopy
import Autoscrcpy.Device.ReceiveLoops

/-!
# The handshake of `adb_connect`

`adb_connect` sends its `CNXN` and then reads messages from the socket, at most one in each of 100
tries, until one decides: a `CNXN` ends the handshake, an `STLS` takes it to TLS, where at most 50
receive calls wait for a `CNXN`. Tokens are signed on both sides.

`adbConnect_messages`: whatever `select` reports and however the messages are cut into segments, the
result is that of `handshake`, which looks at the messages only, and the transport is left right
behind the message that connected. `adbConnect_noPlain`: whatever arrives, once an `STLS` was
answered nothing goes over the plain socket any more, neither in the handshake nor on the connection
that it returns.
-/

namespace Autoscrcpy

open SegStream Runs

/-! ## Rounds that end at a message -/

section TakeThrough

variable {α : Type*} (q : α → Bool)

/-- What a loop of `n` rounds takes of a list when it ends behind the first element with `q`. -/
def takeThrough : ℕ → List α → List α
  | 0, _ => []
  | _ + 1, [] => []
  | n + 1, a :: l => if q a then [a] else a :: takeThrough n l

@[simp] theorem takeThrough_zero (l : List α) : takeThrough q 0 l = [] := rfl

@[simp] theorem takeThrough_nil (n : ℕ) : takeThrough q n [] = [] := by cases n <;> rfl

variable {q}

theorem takeThrough_of_pos {a : α} (h : q a = true) (n : ℕ) (l : List α) :
    takeThrough q (n + 1) (a :: l) = [a] := if_pos h

theorem takeThrough_of_neg {a : α} (h : ¬ q a = true) (n : ℕ) (l : List α) :
    takeThrough q (n + 1) (a :: l) = a :: takeThrough q n l := if_neg h

end TakeThrough

/-! ## `adb_connect` -/

/-- What `adb_connect` meets besides the bytes of its transports: whether there is a connection
structure with a connected socket, the payload buffer (`none` when out of memory), what `select`
reports in each try, `crypto_sign_token`, whether `tls_handshake` succeeds, and what the buffer on
the stack holds in each round behind it. -/
structure ConnectEnv where
  opened : Bool
  payload : Option (List UInt8)
  ready : ℕ → Bool
  signToken : List UInt8 → Option (List UInt8)
  handshakeOk : Bool
  rpl : ℕ → List UInt8

/-- What `adb_connect` returns (`none` for the null pointer), what it sent, and what it left on the
transports. -/
structure ConnectRun where
  conn : Option AdbConnection
  sent : List Sent
  source : ConnSource

/-- The rest of a run, behind some messages. -/
def ConnectRun.after (sent : List Sent) (r : ConnectRun) : ConnectRun :=
  { r with sent := sent ++ r.sent }

/-- A loop has ended: only a connection in `ADB_STATE_CONNECTED` is returned. -/
def connectEnd (conn : AdbConnection) (w : ConnSource) : ConnectRun :=
  ⟨if conn.state = .connected then some conn else none, [], w⟩

/-- The read of a message in the plaintext loop, with what is left: `connectRead`. -/
def connectRecv (s : Source UInt8 SocketSignal) :
    Option (AdbMessage × List UInt8) × Source UInt8 SocketSignal :=
  let h := readExact socketReact (-1) ADB_MSG_HEADER_SIZE s
  let hdr := AdbMessage.ofBytes h.got
  if h.stop ≠ none ∨ ¬ hdr.MagicOk then (none, h.rest)
  else if 0 < hdr.dataLength ∧ hdr.dataLength.toNat ≤ ADB_MAX_PAYLOAD then
    let p := readExact socketReact (-1) hdr.dataLength.toNat h.rest
    (if p.stop ≠ none then none else some (hdr, p.got), p.rest)
  else (some (hdr, []), h.rest)

section Code

variable (env : ConnectEnv)

/-- The loop behind the TLS handshake, with `n` of its 50 rounds left. -/
def connectTlsLoop : ℕ → AdbConnection → ConnSource → ConnectRun
  | 0, conn, w => connectEnd conn w
  | n + 1, conn, w =>
      if conn.state = .connected then connectEnd conn w
      else
        let r := adbRecvMsgConn conn (List.replicate 24 0) 4096 true w
        let round := tlsRound env.signToken conn r.1 (storePayload (env.rpl (49 - n)) r.1)
        (connectTlsLoop n round.1 r.2).after round.2

/-- The branch `ADB_STLS` of the plaintext loop behind its reply. -/
def connectUpgrade (conn : AdbConnection) (w : ConnSource) : ConnectRun :=
  if env.handshakeOk then connectTlsLoop env 50 { conn with tls := true } w else ⟨none, [], w⟩

/-- The plaintext loop, over what `select` reports in the tries that are left. -/
def connectLoop : List Bool → AdbConnection → List UInt8 → ConnSource → ConnectRun
  | [], conn, _, w => connectEnd conn w
  | ready :: tries, conn, payload, w =>
      if conn.state = .connected then connectEnd conn w
      else if ready = false then connectLoop tries conn payload w
      else
        let r := connectRecv w.plain
        let w := { w with plain := r.2 }
        match r.1 with
        | none => ⟨none, [], w⟩
        | some (hdr, got) =>
            let payload := got ++ payload.drop got.length
            -- the 24 bytes that are sent here are those of this message (`sendStls_frame`)
            if hdr.command = ADB_STLS then (connectUpgrade env conn w).after [conn.sendStls]
            else if hdr.command = ADB_AUTH then
              (connectLoop tries conn payload w).after
                (if hdr.arg0 = ADB_AUTH_TYPE_TOKEN then
                  conn.signReply env.signToken (payload.take hdr.dataLength.toNat) else [])
            else if hdr.command = ADB_CNXN then
              connectLoop tries ((conn.setBanner hdr.dataLength payload).negotiate hdr.arg0
                hdr.arg1) payload w
            else connectLoop tries conn payload w

/-- What `select` reports in the 100 tries. -/
def ConnectEnv.tries : List Bool := (List.range 100).map env.ready

/-- `adb_connect`. The channel table is empty, so that the disconnect after a failure sends
nothing. -/
def adbConnect (w : ConnSource) : ConnectRun :=
  if env.opened = false then ⟨none, [], w⟩
  else
    let c := sessionSendCnxn .initial
    match env.payload with
    | none => ⟨none, c.2, w⟩
    | some payload => (connectLoop env env.tries c.1 payload w).after c.2

end Code

/-- The reply to an `STLS` as the plaintext loop writes it. -/
theorem sendStls_frame (conn : AdbConnection) : conn.sendStls.msg.frame =
    (⟨ADB_STLS, 0x01000000, 0, 0, 0, ADB_STLS ^^^ 0xffffffff⟩ : AdbMessage).toBytes := by
  rfl

/-! ## The handshake as messages -/

def Packet.isCnxn (p : Packet) : Bool := p.hdr.command = ADB_CNXN

/-- The messages that the plaintext loop ends at. -/
def Packet.decides (p : Packet) : Bool := p.hdr.command = ADB_STLS ∨ p.hdr.command = ADB_CNXN

/-- The connection that a `CNXN` makes. -/
def AdbConnection.accept (conn : AdbConnection) (p : Packet) : AdbConnection :=
  (conn.setBanner p.hdr.dataLength p.payload).negotiate p.hdr.arg0 p.hdr.arg1

/-- The answer to a message of the handshake. -/
def AdbConnection.reply (conn : AdbConnection) (signToken : List UInt8 → Option (List UInt8))
    (p : Packet) : List Sent :=
  if p.hdr.command = ADB_AUTH ∧ p.hdr.arg0 = ADB_AUTH_TYPE_TOKEN then
    conn.signReply signToken p.payload
  else if p.hdr.command = ADB_STLS then [conn.sendStls]
  else []

/-- The connection behind the first `CNXN` of the client, and the same one with a TLS context. -/
def connectPlain : AdbConnection := (sessionSendCnxn .initial).1

def connectSecure : AdbConnection := { connectPlain with tls := true }

section Handshake

variable (env : ConnectEnv)

/-- The messages that the plaintext loop takes: one in each try in which `select` reports
something. -/
def ConnectEnv.heardPlain (ms : List Packet) : List Packet :=
  takeThrough Packet.decides (env.tries.count true) ms

/-- The messages that the loop behind the TLS handshake takes. -/
def heardSecure (ts : List Packet) : List Packet := takeThrough Packet.isCnxn 50 ts

/-- What `adb_connect` returns, and the answers that it sends, when the device sends the messages
`ms` on the socket and `ts` over TLS. -/
def handshake (ms ts : List Packet) : Option AdbConnection × List Sent :=
  let answers := (env.heardPlain ms).flatMap (connectPlain.reply env.signToken)
  match (env.heardPlain ms).find? Packet.decides with
  | none => (none, answers)
  | some p =>
      if p.isCnxn then (some (connectPlain.accept p), answers)
      else if env.handshakeOk then
        (((heardSecure ts).find? Packet.isCnxn).map connectSecure.accept,
          answers ++ (heardSecure ts).flatMap (connectSecure.reply env.signToken))
      else (none, answers)

end Handshake

/-- A transport brings legal messages, in segments of any size, and nothing else. -/
structure ConnSource.Brings (w : ConnSource) (tls : Bool) (ms : List Packet) : Prop where
  quiet : w.Quiet tls
  legal : ∀ p ∈ ms, p.Legal
  bytes : w.bytes tls = ms.flatMap Packet.toBytes

/-! ## One message -/

theorem bannerLength_le (dataLength : UInt32) (h : dataLength.toNat < 2 ^ 31) :
    AdbConnection.bannerLength dataLength ≤ dataLength.toNat := by
  unfold AdbConnection.bannerLength
  rw [toInt_toInt32_of_lt _ h]
  split_ifs <;> omega

theorem Packet.Legal.lt {p : Packet} (h : p.Legal) : p.hdr.dataLength.toNat < 2 ^ 31 := by
  rw [h.length]
  exact h.fits.trans_lt (by decide)

/-- The rest of the buffer behind a payload is not copied. -/
theorem setBanner_append {p : Packet} (h : p.Legal) (conn : AdbConnection) (rest : List UInt8) :
    conn.setBanner p.hdr.dataLength (p.payload ++ rest) =
      conn.setBanner p.hdr.dataLength p.payload := by
  have hle : AdbConnection.bannerLength p.hdr.dataLength ≤ p.payload.length :=
    (bannerLength_le _ h.lt).trans_eq h.length
  rw [AdbConnection.setBanner, AdbConnection.setBanner, AdbConnection.bannerCopy,
    AdbConnection.bannerCopy, List.take_append_of_le_length hle]

theorem take_payload {p : Packet} (h : p.Legal) (rest : List UInt8) :
    (p.payload ++ rest).take p.hdr.dataLength.toNat = p.payload := by
  rw [h.length, List.take_left]

section Commands

variable {signToken : List UInt8 → Option (List UInt8)} {conn : AdbConnection} {p : Packet}

theorem Packet.decides_of_stls (p : Packet) (h : p.hdr.command = ADB_STLS) : p.decides = true :=
  decide_eq_true (Or.inl h)

theorem Packet.not_isCnxn_of_stls (p : Packet) (h : p.hdr.command = ADB_STLS) :
    ¬ p.isCnxn = true := by
  rw [Packet.isCnxn, h]
  decide

theorem Packet.not_decides_of_auth (p : Packet) (h : p.hdr.command = ADB_AUTH) :
    ¬ p.decides = true := by
  rw [Packet.decides, h]
  decide

theorem reply_of_stls (h : p.hdr.command = ADB_STLS) :
    conn.reply signToken p = [conn.sendStls] := by
  have hne : ¬ p.hdr.command = ADB_AUTH := by
    rw [h]
    decide
  rw [AdbConnection.reply, if_neg fun hauth => hne hauth.1, if_pos h]

theorem reply_of_auth (h : p.hdr.command = ADB_AUTH) : conn.reply signToken p =
    if p.hdr.arg0 = ADB_AUTH_TYPE_TOKEN then conn.signReply signToken p.payload else [] := by
  have hne : ¬ p.hdr.command = ADB_STLS := by
    rw [h]
    decide
  rw [AdbConnection.reply, if_neg hne]
  simp only [h, true_and]

theorem reply_of_ne (hauth : ¬ p.hdr.command = ADB_AUTH) (hstls : ¬ p.hdr.command = ADB_STLS) :
    conn.reply signToken p = [] := by
  rw [AdbConnection.reply, if_neg fun h => hauth h.1, if_neg hstls]

end Commands

theorem connectRecv_fst (s : Source UInt8 SocketSignal) : (connectRecv s).1 = connectRead s := by
  unfold connectRecv connectRead
  dsimp only
  split_ifs <;> rfl

theorem connectRecv_message {w : ConnSource} {p : Packet} {ms : List Packet}
    (h : w.Brings false (p :: ms)) :
    (connectRecv w.plain).1 = some (p.hdr, p.payload) ∧
      ({ w with plain := (connectRecv w.plain).2 } : ConnSource).Brings false ms := by
  obtain ⟨hp, hms⟩ := List.forall_mem_cons.1 h.legal
  have hquiet : ∀ e, .signal e ∉ w.plain := h.quiet
  have hbytes : content w.plain = p.hdr.toBytes ++ (p.payload ++ ms.flatMap Packet.toBytes) := by
    have hb : content w.plain = (p :: ms).flatMap Packet.toBytes := h.bytes
    rw [hb, List.flatMap_cons, Packet.toBytes, List.append_assoc]
  obtain ⟨hfull, hrest, -, -⟩ := readExact_header [] 0 true hbytes
    (show ∀ k ∈ stops socketReact w.plain, 24 ≤ k by
      simp [stops_eq_nil fun e he => absurd he (hquiet e)])
  have hquiet' : ∀ e, .signal e ∉ (readExact socketReact (-1) 24 w.plain).rest :=
    fun e he => hquiet e (signal_mem_of_mem_rest he)
  have hgot : AdbMessage.ofBytes (readExact socketReact (-1) 24 w.plain).got = p.hdr := by
    have hfill := (readExact_append_of_full hbytes
      (by rwa [AdbMessage.length_toBytes])).1
    rw [AdbMessage.length_toBytes] at hfill
    rw [hfill, ← List.append_nil p.hdr.toBytes, AdbMessage.ofBytes_toBytes_append]
  have hpass : ¬ ((readExact socketReact (-1) ADB_MSG_HEADER_SIZE w.plain).stop ≠ none ∨
      ¬ p.hdr.MagicOk) := not_or.2 ⟨not_not.2 hfull, not_not.2 hp.magic⟩
  rw [connectRecv]
  dsimp only
  rw [hgot, if_neg hpass]
  by_cases hzero : 0 < p.hdr.dataLength
  · have hfits : p.hdr.dataLength.toNat ≤ ADB_MAX_PAYLOAD := hp.length ▸ hp.fits
    have hbody : (readExact socketReact (-1) p.payload.length
        (readExact socketReact (-1) 24 w.plain).rest).stop = none :=
      readExact_quiet hquiet' (by rw [hrest, List.length_append]; exact Nat.le_add_right ..)
    obtain ⟨hpayload, htail⟩ := readExact_append_of_full hrest hbody
    rw [if_pos ⟨hzero, hfits⟩, hp.length, if_neg (not_not.2 hbody), hpayload]
    exact ⟨rfl, fun e he => hquiet' e (signal_mem_of_mem_rest he), hms, htail⟩
  · have hnil : p.payload = [] := by
      rw [← List.length_eq_zero_iff, ← hp.length]
      exact Nat.eq_zero_of_not_pos fun hpos => hzero (UInt32.lt_iff_toNat_lt.2 hpos)
    rw [if_neg fun hread => hzero hread.1, hnil]
    rw [hnil] at hrest
    exact ⟨rfl, hquiet', hms, hrest⟩

theorem connectRecv_idle {w : ConnSource} (h : w.Brings false []) :
    (connectRecv w.plain).1 = none := by
  have hnil : content w.plain = [] := h.bytes
  have hshort : (readExact socketReact (-1) 24 w.plain).stop ≠ none := by
    intro hfull
    have hlen := (readExact_full_iff socketReact (-1) 24 w.plain).1 hfull
    rw [readExact_got_of_full hfull, hnil] at hlen
    exact absurd hlen (by decide)
  rw [connectRecv]
  exact congrArg Prod.fst (if_pos (Or.inl hshort))

/-- A receive call of the loop behind the TLS handshake. -/
theorem adbRecvMsgConn_secure {conn : AdbConnection} (htls : conn.tls = true) (hdr₀ : List UInt8)
    {w : ConnSource} {p : Packet} {ts : List Packet} (h : w.Brings true (p :: ts))
    (hsmall : p.payload.length ≤ 4096) :
    (adbRecvMsgConn conn hdr₀ 4096 true w).1 = p.delivery ∧
      (adbRecvMsgConn conn hdr₀ 4096 true w).2.Brings true ts := by
  obtain ⟨hp, hts⟩ := List.forall_mem_cons.1 h.legal
  obtain ⟨hquiet, hcall⟩ := adbRecvMsgConn_packet conn hdr₀ 4096 true hp.magic hp.length
    (by rw [htls]; exact h.quiet) (by rw [htls, h.bytes, List.flatMap_cons])
  have hfits : ¬ (4096 : Int32) < p.hdr.dataLength.toInt32 := by
    have hsize : (4096 : Int32).toInt = 4096 := by decide
    rw [hp.size, not_lt, hp.length, hsize]
    exact_mod_cast hsmall
  rw [if_neg fun hbig => hfits hbig.2, htls] at hcall
  rw [htls] at hquiet
  exact ⟨by simpa [Packet.delivery] using hcall.1, hquiet, hts, hcall.2⟩

theorem adbRecvMsgConn_secure_idle {conn : AdbConnection} (htls : conn.tls = true)
    (hdr₀ : List UInt8) {w : ConnSource} (h : w.Brings true []) :
    (adbRecvMsgConn conn hdr₀ 4096 true w).1.ret < 0 ∧
      (adbRecvMsgConn conn hdr₀ 4096 true w).2.Brings true [] := by
  have hnil : w.tls = [] := eq_nil_of_quiet h.quiet h.bytes
  have hcall : adbRecvMsgConn conn hdr₀ 4096 true w =
      (⟨-1, AdbMessage.ofBytes hdr₀, []⟩, { w with tls := [] }) := by
    rw [adbRecvMsgConn, if_pos htls, hnil]
    rfl
  rw [hcall]
  exact ⟨Int.negSucc_lt_zero 0, fun e he => absurd he List.not_mem_nil, by simp, rfl⟩

theorem tlsRound_delivery {p : Packet} (hp : p.Legal)
    (signToken : List UInt8 → Option (List UInt8)) (conn : AdbConnection) (buf : List UInt8) :
    tlsRound signToken conn p.delivery (storePayload buf p.delivery) =
      (if p.isCnxn then conn.accept p else conn, conn.reply signToken p) := by
  have hbuf : storePayload buf p.delivery = p.payload ++ buf.drop p.payload.length := rfl
  have hret : ¬ p.delivery.ret < 0 := Int.not_lt.2 Int.one_nonneg
  have hhdr : p.delivery.hdr = p.hdr := rfl
  rw [tlsRound, if_neg hret, hhdr, hbuf, take_payload hp, setBanner_append hp]
  unfold AdbConnection.reply Packet.isCnxn AdbConnection.accept
  by_cases hcnxn : p.hdr.command = ADB_CNXN
  · have hauth : ADB_CNXN ≠ ADB_AUTH := by decide
    have hstls : ADB_CNXN ≠ ADB_STLS := by decide
    simp only [hcnxn, hauth, hstls, false_and, decide_true, if_true, if_false]
  · simp only [hcnxn, decide_false, Bool.false_eq_true, if_false]
    split_ifs <;> rfl

/-! ## The loop behind the TLS handshake -/

section Loops

variable (env : ConnectEnv)

theorem connectEnd_of_ne {conn : AdbConnection} (h : conn.state ≠ .connected) (w : ConnSource) :
    connectEnd conn w = ⟨none, [], w⟩ := by
  rw [connectEnd, if_neg h]

theorem connectEnd_connected {conn : AdbConnection} (h : conn.state = .connected)
    (w : ConnSource) : connectEnd conn w = ⟨some conn, [], w⟩ := by
  rw [connectEnd, if_pos h]

theorem connectTlsLoop_connected {conn : AdbConnection} (h : conn.state = .connected) (n : ℕ)
    (w : ConnSource) : connectTlsLoop env n conn w = ⟨some conn, [], w⟩ := by
  cases n with
  | zero => exact connectEnd_connected h w
  | succ n => rw [connectTlsLoop, if_pos h, connectEnd_connected h]

/-- What the rounds of the loop meet besides the bytes. -/
def connectRounds : ℕ → List RoundEnv
  | 0 => []
  | n + 1 =>
      ⟨1, List.replicate 24 0, env.rpl (49 - n), env.signToken, false, none⟩ :: connectRounds n

/-- The loop is the receive loop `adbConnectTlsLoop`, with what it sends. -/
theorem connectTlsLoop_run (n : ℕ) (conn : AdbConnection) (w : ConnSource) :
    let run := adbConnectTlsLoop.run n conn w (connectRounds env n)
    (connectTlsLoop env n conn w).conn =
        (if run.conn.state = .connected then some run.conn else none) ∧
      (connectTlsLoop env n conn w).source = run.source := by
  induction n generalizing conn w with
  | zero => exact ⟨rfl, rfl⟩
  | succ n ih =>
    rw [connectTlsLoop, connectRounds, ReceiveLoop.run]
    by_cases hstate : conn.state = .connected
    · have hends : adbConnectTlsLoop.goesOn conn = false := by simp [adbConnectTlsLoop, hstate]
      rw [if_pos hstate, if_pos hends]
      exact ⟨rfl, rfl⟩
    · have hgoes : ¬ adbConnectTlsLoop.goesOn conn = false := by simp [adbConnectTlsLoop, hstate]
      rw [if_neg hstate, if_neg hgoes]
      exact ih _ _

/-- What the messages `heard` make of a connection that waits for a `CNXN`, with the messages that
they leave. -/
structure Heard (env : ConnectEnv) (conn : AdbConnection) (tls : Bool) (heard rest : List Packet)
    (r : ConnectRun) : Prop where
  returned : r.conn = (heard.find? Packet.isCnxn).map conn.accept
  sent : r.sent = heard.flatMap (conn.reply env.signToken)
  source : r.conn ≠ none → r.source.Brings tls rest

theorem connectTlsLoop_messages {conn : AdbConnection} (hstate : conn.state ≠ .connected)
    (htls : conn.tls = true) (n : ℕ) {w : ConnSource} {ts : List Packet} (h : w.Brings true ts)
    (hsmall : ∀ p ∈ takeThrough Packet.isCnxn n ts, p.payload.length ≤ 4096) :
    Heard env conn true (takeThrough Packet.isCnxn n ts)
      (ts.drop (takeThrough Packet.isCnxn n ts).length) (connectTlsLoop env n conn w) := by
  induction n generalizing w ts with
  | zero =>
    rw [connectTlsLoop, connectEnd_of_ne hstate]
    exact ⟨rfl, rfl, fun hne => absurd rfl hne⟩
  | succ n ih =>
    rw [connectTlsLoop, if_neg hstate]
    dsimp only
    cases ts with
    | nil =>
      obtain ⟨hret, hrest⟩ := adbRecvMsgConn_secure_idle htls (List.replicate 24 0) h
      have hround (buf : List UInt8) : tlsRound env.signToken conn
          (adbRecvMsgConn conn (List.replicate 24 0) 4096 true w).1 buf = (conn, []) := if_pos hret
      have hnext := ih hrest (by simp)
      rw [takeThrough_nil] at hnext ⊢
      rw [hround]
      exact hnext
    | cons p ts =>
      have hp : p.Legal := h.legal p (List.mem_cons_self ..)
      have hhead : p ∈ takeThrough Packet.isCnxn (n + 1) (p :: ts) := by
        rw [takeThrough]
        split_ifs <;> simp
      obtain ⟨hcall, hrest⟩ := adbRecvMsgConn_secure htls (List.replicate 24 0) h (hsmall p hhead)
      rw [hcall, tlsRound_delivery hp]
      by_cases hcnxn : p.isCnxn = true
      · rw [takeThrough_of_pos hcnxn, if_pos hcnxn, connectTlsLoop_connected env rfl]
        refine ⟨?_, ?_, fun _ => hrest⟩
        · simp [ConnectRun.after, hcnxn]
        · simp [ConnectRun.after]
      · rw [takeThrough_of_neg hcnxn] at hsmall ⊢
        rw [if_neg hcnxn]
        obtain ⟨hreturned, hsent, hsource⟩ :=
          ih hrest fun q hq => hsmall q (List.mem_cons_of_mem _ hq)
        refine ⟨?_, ?_, hsource⟩
        · simpa [ConnectRun.after, hcnxn] using hreturned
        · simpa [ConnectRun.after] using hsent

/-! ## The plaintext loop -/

theorem connectLoop_connected {conn : AdbConnection} (h : conn.state = .connected)
    (tries : List Bool) (payload : List UInt8) (w : ConnSource) :
    connectLoop env tries conn payload w = ⟨some conn, [], w⟩ := by
  cases tries with
  | nil => exact connectEnd_connected h w
  | cons ready tries => rw [connectLoop, if_pos h, connectEnd_connected h]

/-- What the messages `heard` make of the plaintext loop: without one that decides it fails, and a
`CNXN` or an `STLS` is taken with the transport right behind it. -/
structure HeardPlain (env : ConnectEnv) (conn : AdbConnection) (w : ConnSource)
    (heard rest : List Packet) (r : ConnectRun) : Prop where
  undecided : heard.find? Packet.decides = none →
    r.conn = none ∧ r.sent = heard.flatMap (conn.reply env.signToken)
  decided : ∀ p, heard.find? Packet.decides = some p →
    ∃ w' : ConnSource, w'.tls = w.tls ∧ w'.Brings false rest ∧
      r = (if p.isCnxn then ⟨some (conn.accept p), [], w'⟩ else connectUpgrade env conn w').after
        (heard.flatMap (conn.reply env.signToken))

/-- One more message in front that does not decide. -/
theorem HeardPlain.cons {env : ConnectEnv} {conn : AdbConnection} {w w' : ConnSource}
    {heard rest : List Packet} {r : ConnectRun} (h : HeardPlain env conn w' heard rest r)
    (htls : w'.tls = w.tls) {p : Packet} (hp : ¬ p.decides = true) :
    HeardPlain env conn w (p :: heard) rest (r.after (conn.reply env.signToken p)) where
  undecided hnone := by
    rw [List.find?_cons_of_neg hp] at hnone
    obtain ⟨hconn, hsent⟩ := h.undecided hnone
    exact ⟨hconn, by rw [ConnectRun.after, hsent, List.flatMap_cons]⟩
  decided q hq := by
    rw [List.find?_cons_of_neg hp] at hq
    obtain ⟨w'', hsame, hrest, hr⟩ := h.decided q hq
    refine ⟨w'', hsame.trans htls, hrest, ?_⟩
    rw [hr]
    simp [ConnectRun.after]

theorem connectLoop_messages {conn : AdbConnection} (hstate : conn.state ≠ .connected)
    (tries : List Bool) (payload : List UInt8) {w : ConnSource} {ms : List Packet}
    (h : w.Brings false ms) :
    HeardPlain env conn w (takeThrough Packet.decides (tries.count true) ms)
      (ms.drop (takeThrough Packet.decides (tries.count true) ms).length)
      (connectLoop env tries conn payload w) := by
  induction tries generalizing payload w ms with
  | nil =>
    rw [connectLoop, connectEnd_of_ne hstate]
    exact ⟨fun _ => ⟨rfl, rfl⟩, fun p hp => by simp at hp⟩
  | cons ready tries ih =>
    rw [connectLoop, if_neg hstate]
    cases ready with
    | false => exact ih payload h
    | true =>
      rw [if_neg Bool.true_eq_false_eq_False, List.count_cons_self]
      cases ms with
      | nil =>
        dsimp only
        rw [connectRecv_idle h]
        refine ⟨fun _ => ⟨rfl, ?_⟩, fun p hp => ?_⟩
        · simp
        · simp at hp
      | cons p ms =>
        have hp : p.Legal := h.legal p (List.mem_cons_self ..)
        obtain ⟨hrecv, hrest⟩ := connectRecv_message h
        dsimp only
        rw [hrecv]
        dsimp only
        rw [take_payload hp, setBanner_append hp]
        generalize hw : ({ w with plain := (connectRecv w.plain).2 } : ConnSource) = w' at hrest ⊢
        have htls : w'.tls = w.tls := by rw [← hw]
        by_cases hstls : p.hdr.command = ADB_STLS
        · have hdecides := p.decides_of_stls hstls
          rw [if_pos hstls, takeThrough_of_pos hdecides]
          refine ⟨fun hnone => by simp [hdecides] at hnone, fun q hq => ⟨w', htls, hrest, ?_⟩⟩
          obtain rfl : p = q := by simpa [hdecides] using hq
          rw [if_neg (p.not_isCnxn_of_stls hstls), List.flatMap_singleton, reply_of_stls hstls]
        rw [if_neg hstls]
        by_cases hauth : p.hdr.command = ADB_AUTH
        · have hdecides := p.not_decides_of_auth hauth
          rw [if_pos hauth, takeThrough_of_neg hdecides, ← reply_of_auth hauth]
          exact (ih _ hrest).cons htls hdecides
        rw [if_neg hauth]
        have hreply : conn.reply env.signToken p = [] := reply_of_ne hauth hstls
        by_cases hcnxn : p.hdr.command = ADB_CNXN
        · have hdecides : p.decides = true := decide_eq_true (Or.inr hcnxn)
          rw [if_pos hcnxn, takeThrough_of_pos hdecides, connectLoop_connected env rfl]
          refine ⟨fun hnone => by simp [hdecides] at hnone, fun q hq => ⟨w', htls, hrest, ?_⟩⟩
          obtain rfl : p = q := by simpa [hdecides] using hq
          rw [if_pos (show p.isCnxn = true from decide_eq_true hcnxn), List.flatMap_singleton,
            hreply]
          rfl
        · have hdecides : ¬ p.decides = true := by simp [Packet.decides, hstls, hcnxn]
          have hnext := (ih (p.payload ++ payload.drop p.payload.length) hrest).cons htls hdecides
          rw [hreply] at hnext
          rw [if_neg hcnxn, takeThrough_of_neg hdecides]
          exact hnext

/-! ## The whole handshake -/

theorem negotiate_tls (conn : AdbConnection) (n arg0 arg1 : UInt32) (payload : List UInt8) :
    ((conn.setBanner n payload).negotiate arg0 arg1).tls = conn.tls := by
  rw [AdbConnection.negotiate, AdbConnection.setBanner]
  split_ifs <;> rfl

theorem connectPlain_state : connectPlain.state ≠ .connected := AdbConnState.noConfusion

theorem connectSecure_state : connectSecure.state ≠ .connected := AdbConnState.noConfusion

theorem connectUpgrade_of_ok (hok : env.handshakeOk = true) (w : ConnSource) :
    connectUpgrade env connectPlain w = connectTlsLoop env 50 connectSecure w := if_pos hok

theorem adbConnect_opened {payload : List UInt8} (hopened : env.opened = true)
    (hpayload : env.payload = some payload) (w : ConnSource) :
    adbConnect env w =
      (connectLoop env env.tries connectPlain payload w).after (sessionSendCnxn .initial).2 := by
  rw [adbConnect, if_neg (by simp [hopened]), hpayload]
  rfl

/-- For all answers of `select` and all segmentations of legal messages, of which those that the
loop behind the TLS handshake takes fit into its buffer: `adb_connect` returns and sends what
`handshake` says, and leaves the transport right behind the message that connected. -/
theorem adbConnect_messages {payload : List UInt8} (hopened : env.opened = true)
    (hpayload : env.payload = some payload) {w : ConnSource} {ms ts : List Packet}
    (hplain : w.Brings false ms) (hsecure : w.Brings true ts)
    (hsmall : ∀ p ∈ heardSecure ts, p.payload.length ≤ 4096) :
    (adbConnect env w).conn = (handshake env ms ts).1 ∧
      (adbConnect env w).sent = (sessionSendCnxn .initial).2 ++ (handshake env ms ts).2 ∧
      ∀ conn, (adbConnect env w).conn = some conn →
        (adbConnect env w).source.Brings conn.tls
          (if conn.tls then ts.drop (heardSecure ts).length
            else ms.drop (env.heardPlain ms).length) := by
  have hloop := connectLoop_messages env connectPlain_state env.tries payload hplain
  rw [adbConnect_opened env hopened hpayload]
  generalize connectLoop env env.tries connectPlain payload w = r at hloop
  change HeardPlain env connectPlain w (env.heardPlain ms) _ r at hloop
  rw [handshake]
  cases hfind : (env.heardPlain ms).find? Packet.decides with
  | none =>
    obtain ⟨hconn, hsent⟩ := hloop.undecided hfind
    refine ⟨hconn, by rw [ConnectRun.after, hsent], fun conn hsome => ?_⟩
    rw [ConnectRun.after, hconn] at hsome
    cases hsome
  | some p =>
    obtain ⟨w', htls, hrest, rfl⟩ := hloop.decided p hfind
    by_cases hcnxn : p.isCnxn = true
    · dsimp only
      rw [if_pos hcnxn, if_pos hcnxn]
      refine ⟨rfl, by simp [ConnectRun.after], fun conn hsome => ?_⟩
      obtain rfl := Option.some.inj hsome
      have hno : (connectPlain.accept p).tls = false := negotiate_tls ..
      rw [hno]
      exact hrest
    · dsimp only
      rw [if_neg hcnxn, if_neg hcnxn]
      by_cases hok : env.handshakeOk = true
      · rw [if_pos hok, connectUpgrade_of_ok env hok]
        have hsecure' : w'.Brings true ts :=
          ⟨by simpa [ConnSource.Quiet, htls] using hsecure.quiet, hsecure.legal,
            by simpa [ConnSource.bytes, htls] using hsecure.bytes⟩
        obtain ⟨hreturned, hsent, hsource⟩ :=
          connectTlsLoop_messages env connectSecure_state rfl 50 hsecure' hsmall
        refine ⟨hreturned, by simp only [ConnectRun.after, hsent, heardSecure],
          fun conn hsome => ?_⟩
        have hreturn : (connectTlsLoop env 50 connectSecure w').conn = some conn := hsome
        have hyes : conn.tls = true := by
          rw [hreturned, Option.map_eq_some_iff] at hreturn
          obtain ⟨q, -, rfl⟩ := hreturn
          exact negotiate_tls ..
        rw [hyes]
        exact hsource (by rw [hreturn]; exact Option.some_ne_none _)
      · rw [if_neg hok, connectUpgrade, if_neg hok]
        exact ⟨rfl, by simp [ConnectRun.after], fun conn hsome => by cases hsome⟩

/-! ## Whatever arrives -/

/-- What a connection keeps from its start to the end of the handshake. -/
structure Handshaking (conn : AdbConnection) : Prop where
  table : SameTable .initial conn
  range : NegotiatedRange conn

theorem handshaking_plain : Handshaking connectPlain where
  table := ⟨rfl, rfl⟩
  range := ⟨by decide, by decide, le_rfl⟩

theorem Handshaking.secure {conn : AdbConnection} (h : Handshaking conn) :
    Handshaking { conn with tls := true } :=
  ⟨⟨h.table.channels, h.table.nextLocalId⟩, h.range.congr rfl rfl⟩

theorem Handshaking.accept {conn : AdbConnection} (h : Handshaking conn) (n arg0 arg1 : UInt32)
    (payload : List UInt8) : Handshaking ((conn.setBanner n payload).negotiate arg0 arg1) :=
  ⟨h.table.trans (sameTable_cnxn ..), negotiatedRange_negotiate ..⟩

theorem Handshaking.round {conn : AdbConnection} (h : Handshaking conn)
    (signToken : List UInt8 → Option (List UInt8)) (r : RecvMsg) (buf : List UInt8) :
    Handshaking (tlsRound signToken conn r buf).1 :=
  ⟨h.table.trans (tlsRound_sameTable ..), tlsRound_range h.range r buf⟩

/-- What a loop of the handshake returns from a connection: a connected one that has kept what it
had. -/
def Returns (conn : Option AdbConnection) (tls : Bool) : Prop :=
  ∀ c, conn = some c → c.state = .connected ∧ Handshaking c ∧ c.tls = tls

theorem returns_end {conn : AdbConnection} (h : Handshaking conn) (w : ConnSource) :
    Returns (connectEnd conn w).conn conn.tls := by
  intro c hc
  rw [connectEnd] at hc
  split_ifs at hc with hstate
  obtain rfl := Option.some.inj hc
  exact ⟨hstate, h, rfl⟩

theorem tlsRound_sent_tls (signToken : List UInt8 → Option (List UInt8)) {conn : AdbConnection}
    (htls : conn.tls = true) (r : RecvMsg) (buf : List UInt8) :
    ∀ m ∈ (tlsRound signToken conn r buf).2, m.tls = true := by
  unfold tlsRound AdbConnection.signReply
  split_ifs
  · simp
  · split <;> simp [AdbConnection.send, htls]
  · simp [AdbConnection.sendStls, AdbConnection.sendEmpty, htls]
  · simp
  · simp

/-- Behind the TLS handshake everything goes over TLS. -/
theorem connectTlsLoop_secure (n : ℕ) {conn : AdbConnection} (h : Handshaking conn)
    (htls : conn.tls = true) (w : ConnSource) :
    Returns (connectTlsLoop env n conn w).conn true ∧
      ∀ m ∈ (connectTlsLoop env n conn w).sent, m.tls = true := by
  induction n generalizing conn w with
  | zero => exact ⟨htls ▸ returns_end h w, by simp [connectTlsLoop, connectEnd]⟩
  | succ n ih =>
    rw [connectTlsLoop]
    split_ifs
    · exact ⟨htls ▸ returns_end h w, by simp [connectEnd]⟩
    · let r := adbRecvMsgConn conn (List.replicate 24 0) 4096 true w
      let buf := storePayload (env.rpl (49 - n)) r.1
      obtain ⟨hreturns, hsent⟩ :=
        ih (h.round env.signToken r.1 buf) ((tlsRound_tls ..).trans htls) r.2
      refine ⟨hreturns, fun m hm => ?_⟩
      rcases List.mem_append.1 hm with hm | hm
      · exact tlsRound_sent_tls env.signToken htls r.1 buf m hm
      · exact hsent m hm

/-- What the plaintext loop sends and returns: without an answer to an `STLS` a plain connection,
and behind one everything over TLS. -/
def StaysSecure (r : ConnectRun) : Prop :=
  ∃ front : List Sent, (∀ m ∈ front, m.msg.cmd ≠ ADB_STLS) ∧
    ((r.sent = front ∧ Returns r.conn false) ∨
      ∃ secure : List Sent, r.sent = front ++ connectPlain.sendStls :: secure ∧
        (∀ m ∈ secure, m.tls = true) ∧ Returns r.conn true)

theorem StaysSecure.after {r : ConnectRun} (h : StaysSecure r) {sent : List Sent}
    (hsent : ∀ m ∈ sent, m.msg.cmd ≠ ADB_STLS) : StaysSecure (r.after sent) := by
  obtain ⟨front, hfront, hrest⟩ := h
  refine ⟨sent ++ front, fun m hm => (List.mem_append.1 hm).elim (hsent m) (hfront m), ?_⟩
  rcases hrest with ⟨hr, hreturns⟩ | ⟨secure, hr, htls, hreturns⟩
  · exact Or.inl ⟨congrArg (sent ++ ·) hr, hreturns⟩
  · refine Or.inr ⟨secure, ?_, htls, hreturns⟩
    rw [ConnectRun.after, hr, List.append_assoc]

theorem staysSecure_plain {r : ConnectRun} (hsent : r.sent = []) (h : Returns r.conn false) :
    StaysSecure r := ⟨[], by simp, Or.inl ⟨hsent, h⟩⟩

theorem returns_none (tls : Bool) : Returns none tls := by
  intro c hc
  cases hc

theorem signReply_cmd (conn : AdbConnection) (signToken : List UInt8 → Option (List UInt8))
    (token : List UInt8) : ∀ m ∈ conn.signReply signToken token, m.msg.cmd ≠ ADB_STLS := by
  unfold AdbConnection.signReply
  split
  · intro m hm
    rw [List.mem_singleton.1 hm]
    show ADB_AUTH ≠ ADB_STLS
    decide
  · simp

theorem connectUpgrade_secure {conn : AdbConnection} (h : Handshaking conn) (w : ConnSource) :
    Returns (connectUpgrade env conn w).conn true ∧
      ∀ m ∈ (connectUpgrade env conn w).sent, m.tls = true := by
  unfold connectUpgrade
  split_ifs
  · exact connectTlsLoop_secure env 50 h.secure rfl w
  · exact ⟨returns_none true, by simp⟩

theorem staysSecure_end {conn : AdbConnection} (h : Handshaking conn) (htls : conn.tls = false)
    (w : ConnSource) : StaysSecure (connectEnd conn w) :=
  staysSecure_plain rfl (htls ▸ returns_end h w)

theorem connectLoop_staysSecure (tries : List Bool) {conn : AdbConnection} (h : Handshaking conn)
    (htls : conn.tls = false) (payload : List UInt8) (w : ConnSource) :
    StaysSecure (connectLoop env tries conn payload w) := by
  induction tries generalizing conn payload w with
  | nil => exact staysSecure_end h htls w
  | cons ready tries ih =>
    rw [connectLoop]
    split_ifs with hstate hready
    · exact staysSecure_end h htls w
    · exact ih h htls payload w
    · dsimp only
      split
      · exact staysSecure_plain rfl (returns_none false)
      · split_ifs with hstls hauth htoken hcnxn
        · obtain ⟨hreturns, hsent⟩ := connectUpgrade_secure env h _
          refine ⟨[], by simp, Or.inr ⟨_, ?_, hsent, hreturns⟩⟩
          rw [AdbConnection.sendStls, AdbConnection.sendEmpty, htls]
          rfl
        · exact (ih h htls _ _).after (signReply_cmd _ _ _)
        · exact (ih h htls _ _).after (by simp)
        · exact ih (h.accept ..) ((negotiate_tls ..).trans htls) _ _
        · exact ih h htls _ _

theorem adbConnect_staysSecure (w : ConnSource) : StaysSecure (adbConnect env w) := by
  have hcnxn : ∀ m ∈ (sessionSendCnxn .initial).2, m.msg.cmd ≠ ADB_STLS := by
    intro m hm
    rw [List.mem_singleton.1 (show m ∈ [_] from hm)]
    show ADB_CNXN ≠ ADB_STLS
    decide
  rw [adbConnect]
  split_ifs
  · exact staysSecure_plain rfl (returns_none false)
  · cases env.payload with
    | none => exact ⟨_, hcnxn, Or.inl ⟨rfl, returns_none false⟩⟩
    | some payload =>
      exact (connectLoop_staysSecure env env.tries handshaking_plain rfl payload w).after hcnxn

/-- For all answers and all bytes that arrive: behind an answer to an `STLS` every message of the
handshake goes over TLS, and so does every message of the connection that is returned, in every run
of its operations. -/
theorem adbConnect_noPlain (w : ConnSource) {pre post : List Sent} {m : Sent}
    (hsent : (adbConnect env w).sent = pre ++ m :: post) (hstls : m.msg.cmd = ADB_STLS) :
    (∀ m' ∈ post, m'.tls = true) ∧
      ∀ conn, (adbConnect env w).conn = some conn →
        ∀ ops, (final SessionOp.step conn ops).tls = true := by
  obtain ⟨front, hfront, ⟨hplain, -⟩ | ⟨secure, hsecure, htls, hreturns⟩⟩ :=
    adbConnect_staysSecure env w
  · have hm : m ∈ front := by simp [← hplain, hsent]
    exact absurd hstls (hfront m hm)
  · constructor
    · intro m' hm'
      rw [hsent] at hsecure
      rcases List.append_eq_append_iff.1 hsecure with ⟨mid, rfl, hmid⟩ | ⟨mid, rfl, hmid⟩
      · cases mid with
        | nil =>
          obtain ⟨-, rfl⟩ := List.cons_eq_cons.1 hmid
          exact htls m' hm'
        | cons m₀ mid =>
          obtain ⟨rfl, -⟩ := List.cons_eq_cons.1 hmid
          exact absurd hstls (hfront m (by simp))
      · cases mid with
        | nil =>
          obtain ⟨-, rfl⟩ := List.cons_eq_cons.1 hmid
          exact htls m' hm'
        | cons m₀ mid =>
          obtain ⟨-, rfl⟩ := List.cons_eq_cons.1 hmid
          exact htls m' (by simp [hm'])
    · intro conn hconn ops
      rw [final_tls, (hreturns conn hconn).2.2, Bool.true_or]

/-- The invariants of a connection hold in every run that does not use its local ids up. -/
theorem sessionInvariant_run {conn : AdbConnection} (htable : TableOrdered conn)
    (hrange : NegotiatedRange conn) {ops : List SessionOp}
    (hids : FreshIds (ops.countP SessionOp.opens) conn) :
    (∀ x ∈ visits SessionOp.step conn ops, SessionInvariant x.1) ∧
      SessionInvariant (final SessionOp.step conn ops) := by
  induction ops generalizing conn with
  | nil => exact ⟨by simp, .of htable hrange⟩
  | cons op ops ih =>
    have hcount : (op :: ops).countP SessionOp.opens =
        ops.countP SessionOp.opens + op.opens.toNat := by
      rw [List.countP_cons]
      cases op.opens <;> rfl
    rw [hcount] at hids
    have hstep : TableOrdered (op.step conn) := htable.step op fun hopen => by
      have hroom := hids.room
      rw [hopen, Bool.toNat_true] at hroom
      omega
    obtain ⟨hall, hfinal⟩ := ih hstep (step_range op hrange) (hids.step op)
    rw [visits_cons, List.forall_mem_cons]
    exact ⟨⟨.of htable hrange, hall⟩, hfinal⟩

/-- Whatever arrives, only a connection that is connected is returned, with TLS exactly where an
`STLS` was answered. It has no channels yet, and its invariants hold in every run of fewer than
`2 ^ 32 - 1` opens. -/
theorem adbConnect_session (w : ConnSource) {conn : AdbConnection}
    (hconn : (adbConnect env w).conn = some conn) {ops : List SessionOp}
    (hops : ops.countP SessionOp.opens + 1 < 2 ^ 32) :
    conn.state = .connected ∧ conn.channels = .empty ∧
      (conn.tls = true ↔ ∃ m ∈ (adbConnect env w).sent, m.msg.cmd = ADB_STLS) ∧
      (∀ x ∈ visits SessionOp.step conn ops, SessionInvariant x.1) ∧
      SessionInvariant (final SessionOp.step conn ops) := by
  have hruns (hkept : Handshaking conn) :
      (∀ x ∈ visits SessionOp.step conn ops, SessionInvariant x.1) ∧
        SessionInvariant (final SessionOp.step conn ops) := by
    have hids : conn.channels.slots.map AdbChannel.localId =
        AdbConnection.initial.channels.slots.map AdbChannel.localId := by rw [hkept.table.channels]
    exact sessionInvariant_run (tableOrdered_initial.congr hids hkept.table.nextLocalId) hkept.range
      ((freshIds_initial hops).congr hids hkept.table.nextLocalId)
  obtain ⟨front, hfront, ⟨hplain, hreturns⟩ | ⟨secure, hsecure, -, hreturns⟩⟩ :=
    adbConnect_staysSecure env w
  · obtain ⟨hstate, hkept, htls⟩ := hreturns conn hconn
    refine ⟨hstate, hkept.table.channels, ?_, hruns hkept⟩
    rw [htls, hplain]
    exact iff_of_false Bool.false_ne_true fun ⟨m, hm, hstls⟩ => hfront m hm hstls
  · obtain ⟨hstate, hkept, htls⟩ := hreturns conn hconn
    refine ⟨hstate, hkept.table.channels, iff_of_true htls ?_, hruns hkept⟩
    exact ⟨connectPlain.sendStls, by simp [hsecure], rfl⟩

end Loops

/-! ## A device that asks for TLS -/

def tokenPacket : Packet :=
  ⟨⟨ADB_AUTH, ADB_AUTH_TYPE_TOKEN, 0, 2, 0, ADB_AUTH ^^^ 0xffffffff⟩, [3, 4]⟩

def stlsPacket : Packet := ⟨⟨ADB_STLS, ADB_STLS_VERSION, 0, 0, 0, ADB_STLS ^^^ 0xffffffff⟩, []⟩

def deviceCnxn : Packet :=
  ⟨⟨ADB_CNXN, 0x01000001, 4096, 2, 0, ADB_CNXN ^^^ 0xffffffff⟩, [0x64, 0]⟩

/-- `select` reports nothing in every other try, and a token is signed with itself. -/
def upgradeEnv : ConnectEnv where
  opened := true
  payload := some []
  ready t := t % 2 = 1
  signToken := some
  handshakeOk := true
  rpl _ := []

/-- The token arrives in two segments. -/
def upgradeSource : ConnSource where
  plain := unread (tokenPacket.toBytes.take 7) (unread (tokenPacket.toBytes.drop 7)
    (unread stlsPacket.toBytes []))
  tls := unread (tokenPacket.toBytes ++ deviceCnxn.toBytes) []

theorem upgradeSource_plain : upgradeSource.Brings false [tokenPacket, stlsPacket] where
  quiet e he := by
    simp only [upgradeSource] at he
    exact List.not_mem_nil (mem_of_mem_unread (mem_of_mem_unread (mem_of_mem_unread he)))
  legal p hp := by
    rcases List.mem_pair.1 hp with rfl | rfl
    · exact ⟨rfl, rfl, by decide⟩
    · exact ⟨rfl, rfl, by decide⟩
  bytes := by
    simp only [ConnSource.bytes, upgradeSource, content_unread, content_nil, List.flatMap_cons,
      List.flatMap_nil, ← List.append_assoc, List.take_append_drop, if_false, Bool.false_eq_true]

theorem upgradeSource_secure : upgradeSource.Brings true [tokenPacket, deviceCnxn] where
  quiet e he := by
    simp only [upgradeSource] at he
    exact List.not_mem_nil (mem_of_mem_unread he)
  legal p hp := by
    rcases List.mem_pair.1 hp with rfl | rfl
    · exact ⟨rfl, rfl, by decide⟩
    · exact ⟨rfl, rfl, by decide⟩
  bytes := by
    simp only [ConnSource.bytes, upgradeSource, content_unread, content_nil, List.flatMap_cons,
      List.flatMap_nil, List.append_assoc, if_true]

theorem adbConnect_messages_upgrade :
    (adbConnect upgradeEnv upgradeSource).conn =
      (handshake upgradeEnv [tokenPacket, stlsPacket] [tokenPacket, deviceCnxn]).1 :=
  (adbConnect_messages upgradeEnv rfl rfl upgradeSource_plain upgradeSource_secure
    (by decide)).1

/-- The token is signed twice, and the `STLS` is answered in between. -/
theorem adbConnect_upgrade :
    (adbConnect upgradeEnv upgradeSource).conn = some (connectSecure.accept deviceCnxn) ∧
    (adbConnect upgradeEnv upgradeSource).sent = ((sessionSendCnxn .initial).2 ++
        [connectPlain.send ADB_AUTH ADB_AUTH_TYPE_RSAKEY 0 [3, 4] true]) ++
      connectPlain.sendStls ::
        [connectSecure.send ADB_AUTH ADB_AUTH_TYPE_RSAKEY 0 [3, 4] true] := by
  decide +kernel

theorem adbConnect_noPlain_upgrade :
    (∀ m ∈ [connectSecure.send ADB_AUTH ADB_AUTH_TYPE_RSAKEY 0 [3, 4] true], m.tls = true) ∧
      ∀ conn, (adbConnect upgradeEnv upgradeSource).conn = some conn →
        ∀ ops, (final SessionOp.step conn ops).tls = true :=
  adbConnect_noPlain upgradeEnv upgradeSource adbConnect_upgrade.2 rfl

theorem adbConnect_session_upgrade :
    SessionInvariant (final SessionOp.step (connectSecure.accept deviceCnxn)
      [.openChannel [0x73] 0]) :=
  (adbConnect_session upgradeEnv upgradeSource adbConnect_upgrade.1 (by decide)).2.2.2.2

end Autoscrcpy
