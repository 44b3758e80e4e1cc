import Autoscrcpy.Adb.Lifecycle

/-!
# Invariants of a connection

What holds over whole runs of the operations of `session.c`: the shape of the channel table and the
range of the negotiated values (`session_invariant`), how many channels a connection can ever open
(`opensSucceed_iff`), and when a connection that has seen an `STLS` can end up without TLS
(`noDowngrade_iff`).
-/

namespace Autoscrcpy

open Runs

/-! ## The negotiated values -/

/-- The values that a `CNXN` negotiates are in range. -/
structure NegotiatedRange (conn : AdbConnection) : Prop where
  version_nonneg : 0 ≤ conn.protocolVersion.toInt
  version_le : conn.protocolVersion.toInt ≤ ADB_VERSION.toNat
  payload_le : conn.maxPayload ≤ ADB_MAX_PAYLOAD

theorem negotiatedVersion_toInt (arg0 : UInt32) :
    (AdbConnection.negotiatedVersion arg0).toInt = min arg0.toNat ADB_VERSION.toNat := by
  have hver : ADB_VERSION.toNat = 16777217 := rfl
  have hlt : (if arg0 < ADB_VERSION then arg0 else ADB_VERSION).toNat < 2 ^ 31 := by
    split_ifs with h
    · have := UInt32.lt_iff_toNat_lt.1 h
      omega
    · omega
  rw [AdbConnection.negotiatedVersion, toInt_toInt32_of_lt _ hlt]
  split_ifs with h
  · have := UInt32.lt_iff_toNat_lt.1 h
    rw [min_eq_left (by exact_mod_cast this.le)]
  · have := UInt32.le_iff_toNat_le.1 (UInt32.not_lt.1 h)
    rw [min_eq_right (by exact_mod_cast this)]

theorem negotiatedPayload_eq (arg1 : UInt32) :
    AdbConnection.negotiatedPayload arg1 = min arg1.toNat ADB_MAX_PAYLOAD := by
  have hmax : (UInt32.ofNat ADB_MAX_PAYLOAD).toNat = ADB_MAX_PAYLOAD := rfl
  unfold AdbConnection.negotiatedPayload
  split_ifs with h
  · have := UInt32.lt_iff_toNat_lt.1 h
    omega
  · have := UInt32.le_iff_toNat_le.1 (UInt32.not_lt.1 h)
    omega

theorem negotiatedRange_negotiate (conn : AdbConnection) (arg0 arg1 : UInt32) :
    NegotiatedRange (conn.negotiate arg0 arg1) := by
  have hversion := negotiatedVersion_toInt arg0
  refine ⟨?_, ?_, ?_⟩
  · show 0 ≤ (AdbConnection.negotiatedVersion arg0).toInt
    omega
  · show (AdbConnection.negotiatedVersion arg0).toInt ≤ ADB_VERSION.toNat
    omega
  · show AdbConnection.negotiatedPayload arg1 ≤ ADB_MAX_PAYLOAD
    rw [negotiatedPayload_eq]
    exact min_le_right _ _

theorem NegotiatedRange.congr {conn conn' : AdbConnection} (h : NegotiatedRange conn)
    (hv : conn'.protocolVersion = conn.protocolVersion) (hp : conn'.maxPayload = conn.maxPayload) :
    NegotiatedRange conn' :=
  ⟨hv ▸ h.version_nonneg, hv ▸ h.version_le, hp ▸ h.payload_le⟩

theorem tlsRound_range {signToken : List UInt8 → Option (List UInt8)} {conn : AdbConnection}
    (h : NegotiatedRange conn) (r : RecvMsg) (buf : List UInt8) :
    NegotiatedRange (tlsRound signToken conn r buf).1 := by
  unfold tlsRound
  split_ifs
  · exact h
  · exact h
  · exact h
  · exact negotiatedRange_negotiate _ _ _
  · exact h

theorem afterRounds_range {signToken : List UInt8 → Option (List UInt8)} {conn : AdbConnection}
    (h : NegotiatedRange conn) (results : List (RecvMsg × List UInt8)) :
    NegotiatedRange (afterRounds conn (tlsRounds signToken conn results)) := by
  induction results generalizing conn with
  | nil => exact h
  | cons x rs ih =>
    obtain ⟨r, buf⟩ := x
    unfold tlsRounds
    split_ifs
    · exact h
    · exact ih (tlsRound_range h r buf)

theorem sessionHandleMessage_range {conn : AdbConnection} (h : NegotiatedRange conn)
    (env : HandleEnv) (msg : AdbMessage) (payload : List UInt8) :
    NegotiatedRange (sessionHandleMessage env conn msg payload).conn := by
  have hstls : NegotiatedRange (handleStls env conn).conn := by
    have hup : NegotiatedRange conn.upgraded := h.congr rfl rfl
    unfold handleStls
    split_ifs
    · exact h
    · exact h.congr rfl rfl
    · rcases env.rpl with _ | rpl
      · exact hup
      · exact afterRounds_range hup _
  have hauth : NegotiatedRange (handleAuth env conn msg payload).conn := by
    unfold handleAuth
    split_ifs
    · split
      · exact h.congr rfl rfl
      · exact h
    · exact h
  unfold sessionHandleMessage
  split_ifs
  · exact negotiatedRange_negotiate _ _ _
  · exact hstls
  · exact hauth
  · exact h.congr rfl rfl
  · exact h.congr rfl rfl
  · rw [handleWrte_conn]
    exact h
  · exact h.congr rfl rfl
  · exact h

/-! ## Frames of the local operations -/

/-- An operation that leaves the state of the transport and the negotiated values alone. -/
structure SameSession (conn conn' : AdbConnection) : Prop where
  state : conn'.state = conn.state
  tls : conn'.tls = conn.tls
  protocolVersion : conn'.protocolVersion = conn.protocolVersion
  maxPayload : conn'.maxPayload = conn.maxPayload

theorem SameSession.trans {a b c : AdbConnection} (h : SameSession a b) (h' : SameSession b c) :
    SameSession a c :=
  ⟨h'.state.trans h.state, h'.tls.trans h.tls, h'.protocolVersion.trans h.protocolVersion,
    h'.maxPayload.trans h.maxPayload⟩

theorem sessionOpenChannel_sameSession (conn : AdbConnection) (service : List UInt8)
    (sendRet : ℤ) : SameSession conn (sessionOpenChannel conn service sendRet).1 := by
  unfold sessionOpenChannel
  split_ifs <;> exact ⟨rfl, rfl, rfl, rfl⟩

theorem sessionCloseChannel_sameSession (conn : AdbConnection) (i : ℕ) :
    SameSession conn (sessionCloseChannel conn i).1 := by
  unfold sessionCloseChannel
  split
  · exact ⟨rfl, rfl, rfl, rfl⟩
  · split_ifs <;> exact ⟨rfl, rfl, rfl, rfl⟩

theorem closeChannels_sameSession (conn : AdbConnection) (is : List ℕ) :
    SameSession conn (closeChannels conn is).1 := by
  induction is generalizing conn with
  | nil => exact ⟨rfl, rfl, rfl, rfl⟩
  | cons i is ih => exact (sessionCloseChannel_sameSession conn i).trans (ih _)

theorem step_range (op : SessionOp) {conn : AdbConnection} (h : NegotiatedRange conn) :
    NegotiatedRange (op.step conn) := by
  cases op with
  | openChannel service sendRet =>
    have hs := sessionOpenChannel_sameSession conn service sendRet
    exact h.congr hs.protocolVersion hs.maxPayload
  | closeChannel slot =>
    have hs := sessionCloseChannel_sameSession conn slot
    exact h.congr hs.protocolVersion hs.maxPayload
  | handleMessage env msg payload => exact sessionHandleMessage_range h env msg payload
  | disconnect =>
    have hs := closeChannels_sameSession conn (List.range conn.channels.count)
    exact h.congr hs.protocolVersion hs.maxPayload

/-! ## The channel table -/

/-- The channel table of a connection: the local ids of its slots increase from slot to slot, start
above zero and stay below the next one. -/
structure TableOrdered (conn : AdbConnection) : Prop where
  increasing : (conn.channels.slots.map fun c => c.localId.toNat).Pairwise (· < ·)
  nonzero : ∀ c ∈ conn.channels.slots, 0 < c.localId.toNat
  below : ∀ c ∈ conn.channels.slots, c.localId.toNat < conn.nextLocalId.toNat
  next_pos : 0 < conn.nextLocalId.toNat

theorem tableOrdered_initial : TableOrdered AdbConnection.initial where
  increasing := List.Pairwise.nil
  nonzero := by simp [AdbConnection.initial, ChannelTable.empty]
  below := by simp [AdbConnection.initial, ChannelTable.empty]
  next_pos := by decide

theorem TableOrdered.congr {conn conn' : AdbConnection} (h : TableOrdered conn)
    (hids : conn'.channels.slots.map AdbChannel.localId =
      conn.channels.slots.map AdbChannel.localId)
    (hnext : conn'.nextLocalId = conn.nextLocalId) : TableOrdered conn' := by
  have hnat : (conn'.channels.slots.map fun c => c.localId.toNat) =
      conn.channels.slots.map fun c => c.localId.toNat := by
    have := congrArg (List.map UInt32.toNat) hids
    simpa only [List.map_map, Function.comp_def] using this
  have mem_old (c : AdbChannel) (hc : c ∈ conn'.channels.slots) :
      ∃ d ∈ conn.channels.slots, d.localId = c.localId := by
    have := List.mem_map_of_mem (f := AdbChannel.localId) hc
    rw [hids] at this
    exact List.mem_map.1 this
  refine ⟨hnat ▸ h.increasing, fun c hc => ?_, fun c hc => ?_, hnext ▸ h.next_pos⟩
  · obtain ⟨d, hd, heq⟩ := mem_old c hc
    rw [← heq]
    exact h.nonzero d hd
  · obtain ⟨d, hd, heq⟩ := mem_old c hc
    rw [← heq, hnext]
    exact h.below d hd

/-- Opening a channel appends the next id, or only takes it. -/
theorem TableOrdered.openChannel {conn : AdbConnection} (h : TableOrdered conn)
    (hroom : conn.nextLocalId.toNat + 1 < 2 ^ 32) (service : List UInt8) (sendRet : ℤ) :
    TableOrdered (sessionOpenChannel conn service sendRet).1 := by
  have hnext : (conn.nextLocalId + 1).toNat = conn.nextLocalId.toNat + 1 := by
    rw [UInt32.toNat_add, UInt32.toNat_one]
    exact Nat.mod_eq_of_lt hroom
  have hpos : 0 < (conn.nextLocalId + 1).toNat := by omega
  have hbelow (c : AdbChannel) (hc : c ∈ conn.channels.slots) :
      c.localId.toNat < (conn.nextLocalId + 1).toNat := by
    have := h.below c hc
    omega
  unfold sessionOpenChannel
  split_ifs
  · exact ⟨h.increasing, h.nonzero, hbelow, hpos⟩
  · refine ⟨?_, fun c hc => ?_, fun c hc => ?_, hpos⟩
    · simp only [ChannelTable.slots_push, List.map_append, List.map_cons, List.map_nil]
      refine List.pairwise_append.2 ⟨h.increasing, List.pairwise_singleton _ _, ?_⟩
      intro l hl l' hl'
      obtain ⟨c, hc, rfl⟩ := List.mem_map.1 hl
      rw [List.mem_singleton.1 hl']
      exact h.below c hc
    · rcases List.mem_append.1 hc with hc | hc
      · exact h.nonzero c hc
      · rw [List.mem_singleton.1 hc]
        exact h.next_pos
    · rcases List.mem_append.1 hc with hc | hc
      · exact hbelow c hc
      · rw [List.mem_singleton.1 hc]
        show conn.nextLocalId.toNat < (conn.nextLocalId + 1).toNat
        omega
  · exact h

theorem TableOrdered.step {conn : AdbConnection} (h : TableOrdered conn) (op : SessionOp)
    (hroom : op.opens → conn.nextLocalId.toNat + 1 < 2 ^ 32) : TableOrdered (op.step conn) := by
  cases op with
  | openChannel service sendRet => exact h.openChannel (hroom rfl) service sendRet
  | closeChannel slot =>
    exact h.congr (closeChannels_localIds conn [slot]) (sessionCloseChannel_nextLocalId conn slot)
  | handleMessage env msg payload =>
    exact h.congr (sessionHandleMessage_localIds env conn msg payload)
      (sessionHandleMessage_nextLocalId env conn msg payload)
  | disconnect =>
    exact h.congr (closeChannels_localIds conn _) (closeChannels_nextLocalId conn _)

/-- The invariant of a connection. Its ids determine their slots: `lookup` says that no id belongs
to two slots. -/
structure SessionInvariant (conn : AdbConnection) : Prop where
  count_le : conn.channels.count ≤ MAX_CHANNELS
  table : TableOrdered conn
  lookup : ∀ localId, conn.channels.slots.countP (fun c => c.localId = localId) ≤ 1
  negotiated : NegotiatedRange conn

theorem TableOrdered.lookup {conn : AdbConnection} (h : TableOrdered conn) (localId : UInt32) :
    conn.channels.slots.countP (fun c => c.localId = localId) ≤ 1 := by
  have hnodup : (conn.channels.slots.map fun c => c.localId.toNat).Nodup :=
    h.increasing.imp fun hlt => hlt.ne
  have hcount := List.nodup_iff_count_le_one.1 hnodup localId.toNat
  rw [List.count, List.countP_map] at hcount
  refine (List.countP_mono_left fun c _ hc => ?_).trans hcount
  have heq : c.localId = localId := of_decide_eq_true hc
  simp [heq]

theorem SessionInvariant.of {conn : AdbConnection} (h : TableOrdered conn)
    (hr : NegotiatedRange conn) : SessionInvariant conn :=
  ⟨conn.channels.bounded, h, h.lookup, hr⟩

/-- The local ids of a new connection do not run out before `2 ^ 32 - 1` opens. -/
theorem next_id_room {pre post : List SessionOp} {op : SessionOp} (hop : op.opens)
    (h : (pre ++ op :: post).countP SessionOp.opens + 1 < 2 ^ 32) :
    (final SessionOp.step .initial pre).nextLocalId.toNat + 1 < 2 ^ 32 := by
  have hcount : (pre ++ op :: post).countP SessionOp.opens =
      pre.countP SessionOp.opens + (post.countP SessionOp.opens + 1) := by
    rw [List.countP_append, List.countP_cons_of_pos hop]
  have hpre : 1 + pre.countP SessionOp.opens + 1 < 2 ^ 32 := by omega
  exact (freshIds_final hpre).room

/-- An open that returns no channel leaves every slot in use as it was. -/
theorem sessionOpenChannel_failed {conn : AdbConnection} {service : List UInt8} {sendRet : ℤ}
    (h : (sessionOpenChannel conn service sendRet).2.2 = none) :
    (sessionOpenChannel conn service sendRet).1.channels = conn.channels := by
  unfold sessionOpenChannel at h ⊢
  split_ifs at h ⊢
  · rfl
  · rfl

/-- In every run of a new connection with fewer than `2 ^ 32 - 1` opens the invariant holds in every
state and at the end, and an open that returns no channel leaves the slots in use as they were. -/
theorem session_invariant {ops : List SessionOp} (h : ops.countP SessionOp.opens + 1 < 2 ^ 32) :
    (∀ x ∈ visits SessionOp.step .initial ops, SessionInvariant x.1) ∧
      SessionInvariant (final SessionOp.step .initial ops) ∧
      ∀ x ∈ visits SessionOp.step .initial ops, ∀ service sendRet,
        x.2 = .openChannel service sendRet → (sessionOpenChannel x.1 service sendRet).2.2 = none →
          (x.2.step x.1).channels.slots = x.1.channels.slots := by
  have hrange : NegotiatedRange AdbConnection.initial :=
    ⟨by decide, by decide, le_rfl⟩
  have hinv : (∀ x ∈ visits SessionOp.step .initial ops,
        TableOrdered x.1 ∧ NegotiatedRange x.1) ∧
      TableOrdered (final SessionOp.step .initial ops) ∧
        NegotiatedRange (final SessionOp.step .initial ops) := by
    refine invariant (I := fun conn => TableOrdered conn ∧ NegotiatedRange conn) ?_
      ⟨tableOrdered_initial, hrange⟩
    rintro x hx ⟨htable, hr⟩
    obtain ⟨pre, post, hops, hstate⟩ := mem_visits_iff.1 hx
    refine ⟨htable.step x.2 fun hopen => ?_, step_range x.2 hr⟩
    rw [hstate]
    exact next_id_room hopen (hops ▸ h)
  refine ⟨fun x hx => ?_, .of hinv.2.1 hinv.2.2, fun x _ service sendRet hop hret => ?_⟩
  · exact .of (hinv.1 x hx).1 (hinv.1 x hx).2
  · rw [hop, SessionOp.step, sessionOpenChannel_failed hret]

/-- An open that is sent, one whose send fails, and a `CNXN`. -/
theorem session_invariant_three :
    SessionInvariant (final SessionOp.step .initial
      [.openChannel [0x73] 0, .openChannel [0x74] (-1),
        .handleMessage .idle ⟨ADB_CNXN, 0x01000000, 4096, 0, 0, ADB_CNXN ^^^ 0xffffffff⟩ []]) :=
  (session_invariant (by decide)).2.1

/-! ## How many channels a connection can open -/

/-- The channels that are not `CHAN_CLOSED`. -/
def AdbConnection.live (conn : AdbConnection) : ℕ :=
  conn.channels.slots.countP fun c => c.state ≠ .closed

/-- An open whose `OPEN` message can be sent. -/
def SessionOp.sendable : SessionOp → Bool
  | openChannel _ sendRet => 0 ≤ sendRet
  | _ => false

/-- Every open whose `OPEN` message can be sent returns a channel. -/
def OpensSucceed (conn : AdbConnection) (ops : List SessionOp) : Prop :=
  ∀ x ∈ visits SessionOp.step conn ops, ∀ service sendRet,
    x.2 = .openChannel service sendRet → 0 ≤ sendRet →
      (sessionOpenChannel x.1 service sendRet).2.2 ≠ none

theorem sessionOpenChannel_ne_none_iff {conn : AdbConnection} {service : List UInt8} {sendRet : ℤ}
    (h : 0 ≤ sendRet) :
    (sessionOpenChannel conn service sendRet).2.2 ≠ none ↔ conn.channels.count < MAX_CHANNELS := by
  unfold sessionOpenChannel
  have hsend : ¬ sendRet < 0 := by omega
  by_cases hcount : conn.channels.count < MAX_CHANNELS
  · simp [hcount, hsend]
  · simp [hcount]

/-- A slot in use stays in use: only an open changes the number of slots. -/
theorem step_count (op : SessionOp) (conn : AdbConnection) :
    (op.step conn).channels.count =
      if op.sendable ∧ conn.channels.count < MAX_CHANNELS then conn.channels.count + 1
      else conn.channels.count := by
  have of_localIds {conn' : AdbConnection}
      (h : conn'.channels.slots.map AdbChannel.localId =
        conn.channels.slots.map AdbChannel.localId) :
      conn'.channels.count = conn.channels.count := by
    simpa [ChannelTable.count] using congrArg List.length h
  cases op with
  | openChannel service sendRet =>
    by_cases hcount : conn.channels.count < MAX_CHANNELS
    · by_cases hsend : sendRet < 0
      · simp [SessionOp.step, sessionOpenChannel, SessionOp.sendable, hcount, hsend]
      · have hnonneg : 0 ≤ sendRet := by omega
        simp only [SessionOp.step, sessionOpenChannel, SessionOp.sendable, hcount, hsend, hnonneg,
          dif_pos, if_false, decide_true, and_self, if_true]
        simp [ChannelTable.count]
    · simp [SessionOp.step, sessionOpenChannel, hcount]
  | closeChannel slot => exact of_localIds (closeChannels_localIds conn [slot])
  | handleMessage env msg payload =>
    exact of_localIds (sessionHandleMessage_localIds env conn msg payload)
  | disconnect => exact of_localIds (closeChannels_localIds conn _)

/-- After any run the table holds one slot for each open that could be sent, as far as it goes. -/
theorem final_count (conn : AdbConnection) (ops : List SessionOp) :
    (final SessionOp.step conn ops).channels.count =
      min MAX_CHANNELS (conn.channels.count + ops.countP SessionOp.sendable) := by
  induction ops using List.reverseRecOn with
  | nil =>
    have := conn.channels.bounded
    simp only [final_nil, List.countP_nil, Nat.add_zero]
    exact (min_eq_right this).symm
  | append_singleton ops op ih =>
    rw [final_append_singleton, step_count, ih, List.countP_append, List.countP_singleton]
    cases op.sendable
    · simp
    · simp only [true_and, if_true]
      split_ifs with h <;> omega

/-- Whatever is closed in between, all opens of a run succeed exactly when they fit into the slots
that the table has left: a slot is never given back. -/
theorem opensSucceed_iff (conn : AdbConnection) (ops : List SessionOp) :
    OpensSucceed conn ops ↔
      conn.channels.count + ops.countP SessionOp.sendable ≤ MAX_CHANNELS := by
  constructor
  · intro h
    induction ops using List.reverseRecOn with
    | nil => exact conn.channels.bounded
    | append_singleton ops op ih =>
      have hle : conn.channels.count + ops.countP SessionOp.sendable ≤ MAX_CHANNELS := by
        refine ih fun x hx => h x ?_
        obtain ⟨pre, post, rfl, hstate⟩ := mem_visits_iff.1 hx
        exact mem_visits_iff.2 ⟨pre, post ++ [op], by simp, hstate⟩
      rw [List.countP_append, List.countP_singleton]
      cases hop : op.sendable with
      | false => simpa using hle
      | true =>
        cases op with
        | openChannel service sendRet =>
          have hsend : 0 ≤ sendRet := of_decide_eq_true hop
          have hmem : (final SessionOp.step conn ops, SessionOp.openChannel service sendRet) ∈
              visits SessionOp.step conn (ops ++ [.openChannel service sendRet]) :=
            mem_visits_iff.2 ⟨ops, [], rfl, rfl⟩
          have hlt := (sessionOpenChannel_ne_none_iff hsend).1
            (h _ hmem service sendRet rfl hsend)
          rw [final_count] at hlt
          simp only [if_true]
          omega
        | closeChannel slot => cases hop
        | handleMessage env msg payload => cases hop
        | disconnect => cases hop
  · intro h x hx service sendRet hop hsend
    obtain ⟨pre, post, rfl, hstate⟩ := mem_visits_iff.1 hx
    rw [List.countP_append, List.countP_cons, hop] at h
    simp only [SessionOp.sendable, decide_eq_true_eq, hsend, if_true] at h
    rw [sessionOpenChannel_ne_none_iff hsend, hstate, final_count]
    omega

/-- A shell command after another, each closed before the next one is opened. -/
def turnover (n : ℕ) : List SessionOp :=
  (List.range n).flatMap fun i => [.openChannel "shell:".toUTF8.toList 0, .closeChannel i]

/-- After 64 channels opened and closed one by one no channel can be opened. -/
theorem turnover_exhausts :
    ((visits SessionOp.step .initial (turnover MAX_CHANNELS)).all fun x =>
        x.1.live < MAX_CHANNELS) ∧
      (final SessionOp.step .initial (turnover MAX_CHANNELS)).live = 0 ∧
      (sessionOpenChannel (final SessionOp.step .initial (turnover MAX_CHANNELS))
        "shell:".toUTF8.toList 0).2.2 = none := by
  decide +kernel

/-! ## TLS is not given up -/

namespace SessionOp

/-- An incoming `STLS`. -/
def isStls : SessionOp → Bool
  | handleMessage _ msg _ => msg.command = ADB_STLS
  | _ => false

/-- An incoming `STLS` whose handshake succeeds. -/
def upgrades : SessionOp → Bool
  | handleMessage env msg _ => msg.command = ADB_STLS ∧ env.handshakeOk
  | _ => false

/-- An incoming `CNXN`. -/
def isCnxn : SessionOp → Bool
  | handleMessage _ msg _ => msg.command = ADB_CNXN
  | _ => false

end SessionOp

/-- Once an `STLS` was handled, a connection is `ADB_STATE_CONNECTED` with a TLS context only. -/
def NoDowngrade (conn : AdbConnection) (ops : List SessionOp) : Prop :=
  ∀ pre, pre <+: ops → pre.any SessionOp.isStls →
    (final SessionOp.step conn pre).state = .connected → (final SessionOp.step conn pre).tls

theorem tlsRound_tls (signToken : List UInt8 → Option (List UInt8)) (conn : AdbConnection)
    (r : RecvMsg) (buf : List UInt8) : (tlsRound signToken conn r buf).1.tls = conn.tls := by
  unfold tlsRound AdbConnection.setBanner
  split_ifs <;> rfl

theorem afterRounds_tls (signToken : List UInt8 → Option (List UInt8)) (conn : AdbConnection)
    (results : List (RecvMsg × List UInt8)) :
    (afterRounds conn (tlsRounds signToken conn results)).tls = conn.tls := by
  induction results generalizing conn with
  | nil => rfl
  | cons x rs ih =>
    obtain ⟨r, buf⟩ := x
    unfold tlsRounds
    split_ifs
    · rfl
    · rw [afterRounds, ih, tlsRound_tls]

theorem handleStls_tls (env : HandleEnv) (conn : AdbConnection) :
    (handleStls env conn).conn.tls = (conn.tls || env.handshakeOk) := by
  unfold handleStls
  cases htls : conn.tls with
  | true => simp [htls]
  | false =>
    cases hok : env.handshakeOk with
    | false => simp
    | true =>
      rcases env.rpl with _ | rpl
      · simp [AdbConnection.upgraded]
      · simp only [Bool.false_eq_true, if_false, Bool.true_eq_false, stlsRounds]
        rw [afterRounds_tls]
        rfl

theorem handleAuth_tls (env : HandleEnv) (conn : AdbConnection) (msg : AdbMessage)
    (payload : List UInt8) : (handleAuth env conn msg payload).conn.tls = conn.tls := by
  unfold handleAuth
  split_ifs
  · split <;> rfl
  · rfl

/-- An `AUTH` leads to `ADB_STATE_AUTH_SENT` or leaves the state. -/
theorem handleAuth_connected {env : HandleEnv} {conn : AdbConnection} {msg : AdbMessage}
    {payload : List UInt8} (h : (handleAuth env conn msg payload).conn.state = .connected) :
    conn.state = .connected := by
  unfold handleAuth at h
  split_ifs at h
  · split at h
    · cases h
    · exact h
  · exact h

theorem sessionHandleMessage_of_stls {msg : AdbMessage} (h : msg.command = ADB_STLS)
    (env : HandleEnv) (conn : AdbConnection) (payload : List UInt8) :
    sessionHandleMessage env conn msg payload = handleStls env conn := by
  have hcnxn : msg.command ≠ ADB_CNXN := by
    rw [h]
    decide
  rw [sessionHandleMessage, if_neg hcnxn, if_pos h]

theorem SessionOp.not_stls_of_cnxn {op : SessionOp} (h : op.isCnxn) :
    op.isStls = false ∧ op.upgrades = false := by
  cases op with
  | handleMessage env msg payload =>
    have hcmd : msg.command = ADB_CNXN := of_decide_eq_true h
    have hstls : msg.command ≠ ADB_STLS := by
      rw [hcmd]
      decide
    simp [isStls, upgrades, hstls]
  | openChannel service sendRet => cases h
  | closeChannel slot => cases h
  | disconnect => cases h

/-- A TLS context comes from a handshake after an `STLS` and from nothing else, and stays. -/
theorem step_tls (op : SessionOp) (conn : AdbConnection) :
    (op.step conn).tls = (conn.tls || op.upgrades) := by
  cases op with
  | openChannel service sendRet =>
    refine Eq.trans ?_ (Bool.or_false _).symm
    exact (sessionOpenChannel_sameSession conn service sendRet).tls
  | closeChannel slot =>
    refine Eq.trans ?_ (Bool.or_false _).symm
    exact (sessionCloseChannel_sameSession conn slot).tls
  | disconnect =>
    refine Eq.trans ?_ (Bool.or_false _).symm
    exact (closeChannels_sameSession conn (List.range conn.channels.count)).tls
  | handleMessage env msg payload =>
    by_cases hstls : msg.command = ADB_STLS
    · rw [SessionOp.step, sessionHandleMessage_of_stls hstls, handleStls_tls]
      simp [SessionOp.upgrades, hstls]
    · have hcnxn : ((conn.setBanner msg.dataLength payload).negotiate msg.arg0 msg.arg1).tls =
          conn.tls := by
        unfold AdbConnection.setBanner
        split_ifs <;> rfl
      simp only [SessionOp.upgrades, hstls, false_and, decide_false, Bool.or_false]
      simp only [SessionOp.step, sessionHandleMessage, if_neg hstls]
      split_ifs
      · exact hcnxn
      · exact handleAuth_tls env conn msg payload
      · rfl
      · rfl
      · rw [handleWrte_conn]
      · rfl
      · rfl

/-- A step leaves a connection without TLS in `ADB_STATE_CONNECTED` only by a `CNXN`, or by keeping
that state through anything but an `STLS`. -/
theorem step_state_connected {op : SessionOp} {conn : AdbConnection}
    (h : (op.step conn).state = .connected) (htls : (op.step conn).tls = false) :
    op.isCnxn ∨ conn.state = .connected ∧ op.isStls = false := by
  cases op with
  | openChannel service sendRet =>
    exact Or.inr ⟨(sessionOpenChannel_sameSession conn service sendRet).state ▸ h, rfl⟩
  | closeChannel slot =>
    exact Or.inr ⟨(sessionCloseChannel_sameSession conn slot).state ▸ h, rfl⟩
  | disconnect => cases h
  | handleMessage env msg payload =>
    simp only [SessionOp.isCnxn, SessionOp.isStls, decide_eq_true_eq, decide_eq_false_iff_not]
    by_cases hcnxn : msg.command = ADB_CNXN
    · exact Or.inl hcnxn
    · refine Or.inr ?_
      by_cases hstls : msg.command = ADB_STLS
      · -- A failed handshake leaves `ADB_STATE_TLS_NEGOTIATING`.
        rw [step_tls] at htls
        obtain ⟨hno, hfail⟩ := Bool.or_eq_false_iff.1 htls
        have hok : env.handshakeOk = false := by simpa [SessionOp.upgrades, hstls] using hfail
        rw [SessionOp.step, sessionHandleMessage_of_stls hstls] at h
        simp [handleStls, hno, hok] at h
      · refine ⟨?_, hstls⟩
        simp only [SessionOp.step, sessionHandleMessage, if_neg hcnxn, if_neg hstls] at h
        split_ifs at h
        · exact handleAuth_connected h
        · exact h
        · exact h
        · rwa [handleWrte_conn] at h
        · exact h
        · exact h

theorem final_tls (conn : AdbConnection) (ops : List SessionOp) :
    (final SessionOp.step conn ops).tls = (conn.tls || ops.any SessionOp.upgrades) := by
  induction ops using List.reverseRecOn with
  | nil => simp
  | append_singleton ops op ih =>
    rw [final_append_singleton, step_tls, ih, List.any_append, Bool.or_assoc]
    simp

/-- A `CNXN` is accepted whatever happened before. -/
theorem step_cnxn_state {op : SessionOp} (h : op.isCnxn) (conn : AdbConnection) :
    (op.step conn).state = .connected := by
  cases op with
  | handleMessage env msg payload =>
    have hcmd : msg.command = ADB_CNXN := of_decide_eq_true h
    rw [SessionOp.step, sessionHandleMessage, if_pos hcmd]
    rfl
  | openChannel service sendRet => cases h
  | closeChannel slot => cases h
  | disconnect => cases h

/-- Where a run with an `STLS` ends in `ADB_STATE_CONNECTED` without TLS, a `CNXN` came after an
`STLS`. -/
theorem cnxn_after_stls {conn : AdbConnection} {ops : List SessionOp}
    (hstls : ops.any SessionOp.isStls) (hstate : (final SessionOp.step conn ops).state = .connected)
    (htls : (final SessionOp.step conn ops).tls = false) :
    ∃ pre cnxn, pre ++ [cnxn] <+: ops ∧ cnxn.isCnxn ∧ pre.any SessionOp.isStls := by
  induction ops using List.reverseRecOn with
  | nil => simp at hstls
  | append_singleton ops op ih =>
    rw [final_append_singleton] at hstate htls
    rw [List.any_append] at hstls
    rcases step_state_connected hstate htls with hcnxn | ⟨hconnected, hother⟩
    · have hnot := (SessionOp.not_stls_of_cnxn hcnxn).1
      exact ⟨ops, op, List.prefix_rfl, hcnxn, by simpa [hnot] using hstls⟩
    · have hbefore : (final SessionOp.step conn ops).tls = false := by
        rw [step_tls] at htls
        exact (Bool.or_eq_false_iff.1 htls).1
      obtain ⟨pre, cnxn, hpre, hfound⟩ := ih (by simpa [hother] using hstls) hconnected hbefore
      exact ⟨pre, cnxn, hpre.trans (List.prefix_append ..), hfound⟩

/-- No plaintext connection after an `STLS`: the property holds of a run exactly when every `CNXN`
that comes after an `STLS` finds a TLS context, the one that the connection had or one from the
handshake of an `STLS` before it. -/
theorem noDowngrade_iff (conn : AdbConnection) (ops : List SessionOp) :
    NoDowngrade conn ops ↔
      ∀ pre cnxn, pre ++ [cnxn] <+: ops → cnxn.isCnxn → pre.any SessionOp.isStls →
        conn.tls ∨ pre.any SessionOp.upgrades := by
  constructor
  · intro h pre cnxn hpre hcnxn hstls
    have hstate : (final SessionOp.step conn (pre ++ [cnxn])).state = .connected := by
      rw [final_append_singleton]
      exact step_cnxn_state hcnxn _
    have htls := h _ hpre (by simp [hstls]) hstate
    rw [final_tls, List.any_append] at htls
    simpa [(SessionOp.not_stls_of_cnxn hcnxn).2] using htls
  · intro h pre hpre hstls hstate
    by_contra hno
    rw [Bool.not_eq_true] at hno
    obtain ⟨start, cnxn, hstart, hcnxn, hfirst⟩ := cnxn_after_stls hstls hstate hno
    have hctx := h start cnxn (hstart.trans hpre) hcnxn hfirst
    rw [final_tls] at hno
    obtain ⟨hconn, hup⟩ := Bool.or_eq_false_iff.1 hno
    have hnone : start.any SessionOp.upgrades = false := by
      rw [List.any_eq_false] at hup ⊢
      exact fun op hop => hup op (hstart.subset (List.mem_append_left _ hop))
    rw [hconn, hnone] at hctx
    simp at hctx

/-- An `STLS` whose handshake fails, then a `CNXN` in plain text. -/
def failedUpgrade : List SessionOp :=
  [.handleMessage .idle ⟨ADB_STLS, ADB_STLS_VERSION, 0, 0, 0, ADB_STLS ^^^ 0xffffffff⟩ [],
    .handleMessage .idle ⟨ADB_CNXN, 0x01000001, 4096, 0, 0, ADB_CNXN ^^^ 0xffffffff⟩ []]

theorem failedUpgrade_connects :
    failedUpgrade.any SessionOp.isStls ∧
      (final SessionOp.step .initial failedUpgrade).state = .connected ∧
      (final SessionOp.step .initial failedUpgrade).tls = false ∧
      ¬ NoDowngrade .initial failedUpgrade := by
  refine ⟨by decide, by decide, by decide, fun h => ?_⟩
  have htls := h failedUpgrade List.prefix_rfl (by decide) (by decide)
  exact absurd htls (by decide)

end Autoscrcpy
