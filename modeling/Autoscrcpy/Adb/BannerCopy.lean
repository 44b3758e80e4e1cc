import Autoscrcpy.Adb.ConnReceive
import Autoscrcpy.Adb.Session

/-!
# The copies into the banner

Four handlers of a `CNXN` copy its payload into `banner`: the plaintext handshake of `adb_connect`,
which reads the message itself, the loop after its TLS handshake, `session_handle_message`, and its
own loop after an `STLS`. All of them cut the signed reading of `data_length` from above only, and
none looks at how much of the payload arrived. A copy stays inside the banner and inside what was
received exactly when `CnxnHandler.Fits`.
-/

namespace Autoscrcpy

open SegStream

/-! ## What is copied -/

/-- `cl` of the handlers: the length that `memcpy` is given, and the index of the NUL. -/
def bannerCount (dataLength : UInt32) : ℤ :=
  if (BANNER_MAX : ℤ) ≤ dataLength.toInt32.toInt then BANNER_MAX - 1 else dataLength.toInt32.toInt

/-- A copy into the banner, with how many bytes of payload were received for the message. -/
structure BannerWrite where
  count : ℤ
  received : ℕ
  deriving DecidableEq, Repr

/-- The copy and its NUL stay inside the banner, and the copy inside what was received. -/
structure BannerWrite.Within (w : BannerWrite) : Prop where
  nonneg : 0 ≤ w.count
  le_max : w.count ≤ BANNER_MAX - 1
  le_received : w.count ≤ w.received
  nul : w.count < BANNER_MAX

/-- What the handling of a `CNXN` copies, if the message is one. -/
def cnxnWrite (hdr : AdbMessage) (received : ℕ) : Option BannerWrite :=
  if hdr.command = ADB_CNXN ∧ 0 < hdr.dataLength then some ⟨bannerCount hdr.dataLength, received⟩
  else none

/-- A negative count is what `bannerLength` shows as `0`. -/
theorem bannerLength_eq (dataLength : UInt32) :
    (AdbConnection.bannerLength dataLength : ℤ) = max 0 (bannerCount dataLength) := by
  unfold AdbConnection.bannerLength bannerCount
  split_ifs
  · rfl
  · rw [Int.toNat_eq_max, max_comm]

/-! ## The handlers -/

/-- What a handler starts with: the connection, what its header structure held, and the
transport. -/
structure CnxnInput where
  conn : AdbConnection
  hdr₀ : List UInt8
  source : ConnSource

/-- The reads of the plaintext handshake of `adb_connect`: the header and the payload; `none` for
`handshake_fail`. -/
def connectRead (s : Source UInt8 SocketSignal) : Option (AdbMessage × List UInt8) :=
  let h := readExact socketReact (-1) ADB_MSG_HEADER_SIZE s
  let hdr := AdbMessage.ofBytes h.got
  if h.stop ≠ none ∨ ¬ hdr.MagicOk then none
  else if 0 < hdr.dataLength ∧ hdr.dataLength.toNat ≤ ADB_MAX_PAYLOAD then
    let p := readExact socketReact (-1) hdr.dataLength.toNat h.rest
    if p.stop ≠ none then none else some (hdr, p.got)
  -- a payload that is too large is left unread, and the message is handled
  else some (hdr, [])

/-- The handlers. `session_handle_message` is called with what a receive call of its caller left;
`whole` says that the caller hands on complete messages only. -/
inductive CnxnHandler where
  | connect
  | connectTls
  | sessionCnxn (whole : Bool) (maxPayload : Int32) (skipChecksum : Bool)
  | sessionStls

/-- What a handler copies. -/
def CnxnHandler.write (x : CnxnInput) : CnxnHandler → Option BannerWrite
  | connect => (connectRead x.source.plain).bind fun m => cnxnWrite m.1 m.2.length
  | connectTls =>
      let r := (adbRecvMsgConn x.conn (List.replicate 24 0) 4096 true x.source).1
      if r.ret < 0 then none else cnxnWrite r.hdr r.payload.length
  | sessionCnxn whole maxPayload skipChecksum =>
      let r := (adbRecvMsgConn x.conn x.hdr₀ maxPayload skipChecksum x.source).1
      if r.ret < 0 ∨ (whole = true ∧ r.ret ≠ 1) then none else cnxnWrite r.hdr r.payload.length
  | sessionStls =>
      let r := (adbRecvMsgConn x.conn (List.replicate 24 0) (Int32.ofNat ADB_MAX_PAYLOAD) true
        x.source).1
      if r.ret < 0 then none else cnxnWrite r.hdr r.payload.length

/-! ## What arrives -/

/-- The bytes that arrive on the transport in use before it first has no more. -/
def ConnSource.arrived (w : ConnSource) (tls : Bool) : List UInt8 :=
  if tls then SegStream.arrived w.tls else SegStream.arrived w.plain

/-- The header structure once its bytes have arrived, or as many of them as do. -/
def headerOf (hdr₀ bytes : List UInt8) : AdbMessage :=
  AdbMessage.ofBytes (bytes.take 24 ++ hdr₀.drop (bytes.take 24).length)

/-- The length reads as a number that is not negative, and the part of the payload that is copied
arrives behind the header. -/
def PayloadArrives (hdr₀ bytes : List UInt8) : Prop :=
  (headerOf hdr₀ bytes).dataLength.toNat < 2 ^ 31 ∧
    min (headerOf hdr₀ bytes).dataLength.toNat (BANNER_MAX - 1) ≤ bytes.length - 24

/-- When the copy of a handler stays within: the plaintext handshake has read the payload, the
others have the part of it that they copy. -/
def CnxnHandler.Fits (x : CnxnInput) : CnxnHandler → Prop
  | connect => (headerOf [] (SegStream.arrived x.source.plain)).dataLength.toNat ≤ ADB_MAX_PAYLOAD
  | connectTls => PayloadArrives (List.replicate 24 0) (x.source.arrived x.conn.tls)
  | sessionCnxn .. => PayloadArrives x.hdr₀ (x.source.arrived x.conn.tls)
  | sessionStls => PayloadArrives (List.replicate 24 0) (x.source.arrived x.conn.tls)

/-! ## What is received -/

theorem toInt_toInt32_of_ge {v : UInt32} (h : 2 ^ 31 ≤ v.toNat) : v.toInt32.toInt < 0 := by
  rw [← Int32.toInt_toBitVec, UInt32.toBitVec_toInt32, BitVec.toInt_neg_iff]
  rw [UInt32.toNat_toBitVec]
  omega

/-- With a payload of which `bytes` bytes arrived at most. -/
theorem within_iff (dataLength : UInt32) (bytes : ℕ) :
    BannerWrite.Within ⟨bannerCount dataLength, min dataLength.toNat bytes⟩ ↔
      dataLength.toNat < 2 ^ 31 ∧ min dataLength.toNat (BANNER_MAX - 1) ≤ bytes := by
  have hmax : BANNER_MAX = 512 := rfl
  by_cases h : dataLength.toNat < 2 ^ 31
  · have hcount : bannerCount dataLength = min dataLength.toNat (BANNER_MAX - 1) := by
      rw [bannerCount, toInt_toInt32_of_lt _ h]
      split_ifs <;> omega
    constructor
    · intro w
      have hle : bannerCount dataLength ≤ (min dataLength.toNat bytes : ℕ) := w.le_received
      exact ⟨h, by omega⟩
    · rintro ⟨-, hle⟩
      refine ⟨?_, ?_, ?_, ?_⟩ <;> dsimp only <;> omega
  · have hneg := toInt_toInt32_of_ge (not_lt.1 h)
    have hcount : bannerCount dataLength = dataLength.toInt32.toInt := if_neg (by omega)
    refine iff_of_false (fun w => ?_) fun hle => h hle.1
    have hnonneg : 0 ≤ bannerCount dataLength := w.nonneg
    omega

theorem socketReact_ne_none (e : SocketSignal) : socketReact e ≠ none := by
  cases e <;> exact Option.some_ne_none _

theorem connectRead_eq_some {s : Source UInt8 SocketSignal} {m : AdbMessage × List UInt8}
    (h : connectRead s = some m) :
    m.1 = headerOf [] (SegStream.arrived s) ∧
      m.2.length = if m.1.dataLength.toNat ≤ ADB_MAX_PAYLOAD then m.1.dataLength.toNat else 0 := by
  have hgot := readExact_got_arrived (-1) socketReact_ne_none 24 s
  have hhdr : AdbMessage.ofBytes (readExact socketReact (-1) 24 s).got =
      headerOf [] (SegStream.arrived s) := by rw [hgot, headerOf, List.drop_nil, List.append_nil]
  rw [connectRead] at h
  dsimp only at h
  rw [hhdr] at h
  split_ifs at h with hfail hread hstop
  · have hfull := (readExact_full_iff socketReact (-1) _ _).1 (not_not.1 hstop)
    obtain rfl := Option.some.inj h
    exact ⟨rfl, by rw [if_pos hread.2, hfull]⟩
  · obtain rfl := Option.some.inj h
    refine ⟨rfl, ?_⟩
    dsimp only
    split_ifs with hle
    · have hzero : (headerOf [] (SegStream.arrived s)).dataLength.toNat = 0 := by
        by_contra hne
        exact hread ⟨UInt32.lt_iff_toNat_lt.2 (Nat.pos_of_ne_zero hne), hle⟩
      rw [hzero, List.length_nil]
    · rfl

/-- The checks that a header has passed when the call did not fail and the header that it leaves
announces a payload. -/
theorem recvPayload_checks {ε : Type} {react : ε → Option ℤ} {hdr : AdbMessage}
    {maxPayload : Int32} {skip : Bool} {s : Source UInt8 ε}
    (hret : ¬ (recvPayload react maxPayload skip hdr s).1.ret < 0)
    (hlen : 0 < (recvPayload react maxPayload skip hdr s).1.hdr.dataLength) :
    hdr.MagicOk ∧ hdr.dataLength ≠ 0 ∧ ¬ maxPayload < hdr.dataLength.toInt32 := by
  have hfails : ¬ ((-1 : ℤ) ≥ 0) := by decide
  have hmagic : hdr.MagicOk := by
    by_contra hno
    rw [recvPayload, if_pos hno] at hret
    exact hfails (not_lt.1 hret)
  have hzero : hdr.dataLength ≠ 0 := by
    intro hz
    rw [recvPayload, if_neg (not_not.2 hmagic), if_pos hz] at hlen
    exact absurd (hz ▸ hlen) (by decide)
  refine ⟨hmagic, hzero, fun hbig => ?_⟩
  rw [recvPayload, if_neg (not_not.2 hmagic), if_neg hzero, if_pos hbig] at hret
  exact hfails (not_lt.1 hret)

/-- After a call that did not fail, with a payload announced in the header as it stands. -/
theorem recvFrame_arrived {ε : Type} {react : ε → Option ℤ} (hreact : ∀ e, react e ≠ none)
    (hdr₀ : List UInt8) (maxPayload : Int32) (skip : Bool) (s : Source UInt8 ε)
    (hret : ¬ (recvFrame react hdr₀ maxPayload skip s).1.ret < 0)
    (hlen : 0 < (recvFrame react hdr₀ maxPayload skip s).1.hdr.dataLength) :
    (recvFrame react hdr₀ maxPayload skip s).1.hdr = headerOf hdr₀ (SegStream.arrived s) ∧
      (recvFrame react hdr₀ maxPayload skip s).1.payload.length =
        min (headerOf hdr₀ (SegStream.arrived s)).dataLength.toNat
          ((SegStream.arrived s).length - 24) := by
  have hgot := readExact_got_arrived (-1) hreact 24 s
  rcases hstop : (readExact react (-1) 24 s).stop with _ | r
  · -- The header arrived whole, and what is left of what arrived is payload.
    have hfull := (readExact_full_iff react (-1) 24 s).1 hstop
    have hrest := readExact_rest_arrived hreact hstop
    have hhdr : AdbMessage.ofBytes ((readExact react (-1) 24 s).got ++
        hdr₀.drop (readExact react (-1) 24 s).got.length) =
          headerOf hdr₀ (SegStream.arrived s) := by rw [hgot, headerOf]
    rw [recvFrame_of_full hstop, hhdr] at hret hlen ⊢
    set hdr := headerOf hdr₀ (SegStream.arrived s)
    obtain ⟨hmagic, hzero, hbig⟩ := recvPayload_checks hret hlen
    rw [recvPayload_of_body hmagic hzero hbig]
    refine ⟨rfl, ?_⟩
    dsimp only [payloadResult]
    rw [readExact_got_arrived _ hreact, hrest, List.length_take, List.length_drop]
  · -- The header did not arrive whole.
    have hshort : (SegStream.arrived s).length < 24 := by
      have hfull := readExact_full_iff react (-1) 24 s
      rw [hstop, hgot, List.length_take] at hfull
      simp at hfull
      omega
    have heq : (recvFrame react hdr₀ maxPayload skip s).1 =
        ⟨r, headerOf hdr₀ (SegStream.arrived s), []⟩ := by
      simp [recvFrame, hstop, headerOf, hgot]
    rw [heq]
    refine ⟨rfl, ?_⟩
    rw [List.length_nil, Nat.sub_eq_zero_of_le hshort.le, Nat.min_zero]

theorem cnxnWrite_eq_some {hdr : AdbMessage} {received : ℕ} {w : BannerWrite}
    (h : cnxnWrite hdr received = some w) :
    0 < hdr.dataLength ∧ w = ⟨bannerCount hdr.dataLength, received⟩ := by
  rw [cnxnWrite, Option.ite_none_right_eq_some] at h
  exact ⟨h.1.2, (Option.some.inj h.2).symm⟩

theorem tlsReact_ne_none (e : TlsSignal) : tlsReact e ≠ none := by
  cases e <;> exact Option.some_ne_none _

/-- What a receive call on a connection leaves of a message that is copied. -/
theorem received_within_iff {conn : AdbConnection} {hdr₀ : List UInt8} {maxPayload : Int32}
    {skip : Bool} {source : ConnSource} {w : BannerWrite}
    (hret : ¬ (adbRecvMsgConn conn hdr₀ maxPayload skip source).1.ret < 0)
    (h : cnxnWrite (adbRecvMsgConn conn hdr₀ maxPayload skip source).1.hdr
      (adbRecvMsgConn conn hdr₀ maxPayload skip source).1.payload.length = some w) :
    w.Within ↔ PayloadArrives hdr₀ (source.arrived conn.tls) := by
  obtain ⟨hlen, rfl⟩ := cnxnWrite_eq_some h
  have harrived : (adbRecvMsgConn conn hdr₀ maxPayload skip source).1.hdr =
        headerOf hdr₀ (source.arrived conn.tls) ∧
      (adbRecvMsgConn conn hdr₀ maxPayload skip source).1.payload.length =
        min (headerOf hdr₀ (source.arrived conn.tls)).dataLength.toNat
          ((source.arrived conn.tls).length - 24) := by
    unfold adbRecvMsgConn at hret hlen ⊢
    unfold ConnSource.arrived
    split_ifs at hret hlen ⊢ with htls
    · exact recvFrame_arrived tlsReact_ne_none hdr₀ maxPayload skip source.tls hret hlen
    · exact recvFrame_arrived socketReact_ne_none hdr₀ maxPayload skip source.plain hret hlen
  rw [harrived.1, harrived.2, within_iff, PayloadArrives]

/-- Whenever a handler copies into the banner, the copy stays inside the banner and inside what was
received exactly when the message fits the handler. -/
theorem bannerWrite_within_iff (handler : CnxnHandler) (x : CnxnInput) {w : BannerWrite}
    (h : handler.write x = some w) : w.Within ↔ handler.Fits x := by
  cases handler with
  | connect =>
    obtain ⟨m, hread, hwrite⟩ := Option.bind_eq_some_iff.1 h
    obtain ⟨hhdr, hlen⟩ := connectRead_eq_some hread
    obtain ⟨-, rfl⟩ := cnxnWrite_eq_some hwrite
    have hmax : ADB_MAX_PAYLOAD = 1048576 := rfl
    have hbanner : BANNER_MAX = 512 := rfl
    rw [CnxnHandler.Fits, ← hhdr]
    split_ifs at hlen with hle
    · -- The payload was read.
      have hw := within_iff m.1.dataLength m.1.dataLength.toNat
      rw [min_self, ← hlen] at hw
      exact iff_of_true (hw.2 (by omega)) hle
    · have hw := within_iff m.1.dataLength 0
      rw [Nat.min_zero, ← hlen] at hw
      exact iff_of_false (fun within => by have := hw.1 within; omega) hle
  | connectTls =>
    obtain ⟨hret, hwrite⟩ := Option.ite_none_left_eq_some.1 h
    exact received_within_iff hret hwrite
  | sessionCnxn whole maxPayload skip =>
    obtain ⟨hret, hwrite⟩ := Option.ite_none_left_eq_some.1 h
    exact received_within_iff (fun hneg => hret (Or.inl hneg)) hwrite
  | sessionStls =>
    obtain ⟨hret, hwrite⟩ := Option.ite_none_left_eq_some.1 h
    exact received_within_iff hret hwrite

/-- A `CNXN` header with the length, and a payload, on a fresh connection without TLS. -/
def plainCnxn (dataLength : UInt32) (payload : List UInt8) : CnxnInput where
  conn := AdbConnection.initial
  hdr₀ := []
  source := .atOnce ((AdbMessage.mk ADB_CNXN ADB_VERSION 0 dataLength 0
    (ADB_CNXN ^^^ 0xffffffff)).toBytes ++ payload)

theorem bannerWrite_within_iff_device :
    (BannerWrite.mk 3 3).Within ↔ CnxnHandler.connect.Fits (plainCnxn 3 [100, 101, 118]) :=
  bannerWrite_within_iff .connect _ (by decide)

/-- A payload that `adb_connect` takes for too large is not read, and 511 bytes of it are copied. -/
theorem bannerWrite_unread :
    ∃ w, CnxnHandler.connect.write (plainCnxn 0x100001 [100, 101, 118]) = some w ∧ ¬ w.Within := by
  refine ⟨⟨511, 0⟩, by decide, fun within => ?_⟩
  exact absurd within.le_received (by decide)

end Autoscrcpy
