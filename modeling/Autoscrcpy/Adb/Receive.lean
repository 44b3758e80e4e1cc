import Autoscrcpy.Lib.Framed
import Autoscrcpy.Adb.Message
import Autoscrcpy.Adb.Transport

/-!
# Receiving ADB messages

`adb_recv_msg` reads from the plain socket and `adb_recv_msg_tls` from `tls_recv`. Both fill the
24-byte header, check `magic` and the payload size, fill the payload and check the byte sum; they
differ in what a read without data makes them return. `recvFrame` is their common body.

The transport is a segmented source: the positive results of `recv` or `tls_recv` are taken from
its segments, the other results are its signals.
-/

namespace Autoscrcpy

open SegStream

/-! ## The receive functions -/

/-- What a receive call leaves: its return value, the header structure, and the bytes it stored in
the payload buffer. -/
structure RecvMsg where
  ret : ℤ
  hdr : AdbMessage
  payload : List UInt8
  deriving DecidableEq, Repr

/-- The receive functions once the payload loop has ended: the code of a read that failed, `-1` for
a byte sum that differs from `data_check` where it is checked, `1` otherwise. -/
def payloadResult {ε : Type} (skipChecksum : Bool) (hdr : AdbMessage) (p : Fill UInt8 ε ℤ) :
    RecvMsg where
  ret :=
    match p.stop with
    | some r => r
    | none => if skipChecksum = false ∧ adbChecksum p.got ≠ hdr.dataCheck then -1 else 1
  hdr := hdr
  payload := p.got

/-- The receive functions after a complete header. -/
def recvPayload {ε : Type} (react : ε → Option ℤ) (maxPayload : Int32) (skipChecksum : Bool)
    (hdr : AdbMessage) (s : Source UInt8 ε) : RecvMsg × Source UInt8 ε :=
  if ¬ hdr.MagicOk then (⟨-1, hdr, []⟩, s)
  else if hdr.dataLength = 0 then (⟨1, hdr, []⟩, s)
  -- `(int)data_length > max_payload`: both sides are signed
  else if maxPayload < hdr.dataLength.toInt32 then (⟨-1, hdr, []⟩, s)
  else
    let p := readExact react (-1) hdr.dataLength.toNat s
    (payloadResult skipChecksum hdr p, p.rest)

/-- The common body of `adb_recv_msg` and `adb_recv_msg_tls`. `hdr₀` is what the 24 bytes of
`out_hdr` were before; a header that is filled in part keeps their tail. -/
def recvFrame {ε : Type} (react : ε → Option ℤ) (hdr₀ : List UInt8) (maxPayload : Int32)
    (skipChecksum : Bool) (s : Source UInt8 ε) : RecvMsg × Source UInt8 ε :=
  let h := readExact react (-1) ADB_MSG_HEADER_SIZE s
  let hdr := AdbMessage.ofBytes (h.got ++ hdr₀.drop h.got.length)
  match h.stop with
  | some r => (⟨r, hdr, []⟩, h.rest)
  | none => recvPayload react maxPayload skipChecksum hdr h.rest

/-- Every result of `recv` without data makes `adb_recv_msg` return `-1`. -/
def socketReact : SocketSignal → Option ℤ
  | .wouldBlock => some (-1)
  | .closed => some (-1)
  | .error => some (-1)

/-- A negative result of `tls_recv` makes `adb_recv_msg_tls` return `-1`, and `0` makes it
return `0`. -/
def tlsReact : TlsSignal → Option ℤ
  | .again => some 0
  | .fail => some (-1)

def adbRecvMsg (hdr₀ : List UInt8) (maxPayload : Int32) (skipChecksum : Bool)
    (s : Source UInt8 SocketSignal) : RecvMsg × Source UInt8 SocketSignal :=
  recvFrame socketReact hdr₀ maxPayload skipChecksum s

def adbRecvMsgTls (hdr₀ : List UInt8) (maxPayload : Int32) (skipChecksum : Bool)
    (s : Source UInt8 TlsSignal) : RecvMsg × Source UInt8 TlsSignal :=
  recvFrame tlsReact hdr₀ maxPayload skipChecksum s

/-! ## Acceptable packets -/

/-- A packet that a receiver with buffer size `maxPayload` accepts. -/
structure Packet.WellFormed (maxPayload : Int32) (skipChecksum : Bool) (p : Packet) : Prop where
  magic : p.hdr.MagicOk
  length : p.hdr.dataLength.toNat = p.payload.length
  fits : (p.payload.length : ℤ) ≤ maxPayload.toInt
  check : skipChecksum = true ∨ p.payload = [] ∨ adbChecksum p.payload = p.hdr.dataCheck

/-- What a receive call leaves when it delivers a packet. -/
def Packet.delivery (p : Packet) : RecvMsg := ⟨1, p.hdr, p.payload⟩

/-- Below `2 ^ 31` the signed reading of a length is the length. -/
theorem toInt_toInt32_of_lt (v : UInt32) (h : v.toNat < 2 ^ 31) : v.toInt32.toInt = v.toNat := by
  rw [← Int32.toInt_toBitVec, UInt32.toBitVec_toInt32, BitVec.toInt_eq_toNat_of_lt]
  · rfl
  · rw [UInt32.toNat_toBitVec]
    omega

theorem not_lt_toInt32 {maxPayload : Int32} {v : UInt32} (h : (v.toNat : ℤ) ≤ maxPayload.toInt) :
    ¬ maxPayload < v.toInt32 := by
  have hmax := maxPayload.toInt_lt
  rw [Int32.lt_iff_toInt_lt, toInt_toInt32_of_lt v (by omega)]
  omega

theorem Packet.WellFormed.not_too_large {maxPayload : Int32} {skip : Bool} {p : Packet}
    (w : p.WellFormed maxPayload skip) : ¬ maxPayload < p.hdr.dataLength.toInt32 :=
  not_lt_toInt32 (by rw [w.length]; exact w.fits)

/-! ## What a call does with its source -/

section RecvFrame

variable {ε : Type} {react : ε → Option ℤ} {hdr₀ : List UInt8} {maxPayload : Int32} {skip : Bool}

variable (hdr₀ maxPayload skip) in
theorem recvFrame_of_stop {s : Source UInt8 ε} {r : ℤ}
    (h : (readExact react (-1) 24 s).stop = some r) :
    (recvFrame react hdr₀ maxPayload skip s).1.ret = r ∧
      (recvFrame react hdr₀ maxPayload skip s).2 = (readExact react (-1) 24 s).rest := by
  simp [recvFrame, h]

theorem recvFrame_of_full {s : Source UInt8 ε} (h : (readExact react (-1) 24 s).stop = none) :
    recvFrame react hdr₀ maxPayload skip s =
      recvPayload react maxPayload skip
        (AdbMessage.ofBytes ((readExact react (-1) 24 s).got ++
          hdr₀.drop (readExact react (-1) 24 s).got.length)) (readExact react (-1) 24 s).rest := by
  simp [recvFrame, h]

theorem recvPayload_of_body {hdr : AdbMessage} (hm : hdr.MagicOk) (hz : hdr.dataLength ≠ 0)
    (hbig : ¬ maxPayload < hdr.dataLength.toInt32) (s : Source UInt8 ε) :
    recvPayload react maxPayload skip hdr s =
      (payloadResult skip hdr (readExact react (-1) hdr.dataLength.toNat s),
        (readExact react (-1) hdr.dataLength.toNat s).rest) := by
  rw [recvPayload, if_neg (not_not.2 hm), if_neg hz, if_neg hbig]

variable (react maxPayload skip) in
/-- After the header a call either decides without reading, or reads the announced payload. -/
theorem recvPayload_cases (hdr : AdbMessage) (s : Source UInt8 ε) :
    (∃ r, recvPayload react maxPayload skip hdr s = (⟨r, hdr, []⟩, s)) ∨
      recvPayload react maxPayload skip hdr s =
        (payloadResult skip hdr (readExact react (-1) hdr.dataLength.toNat s),
          (readExact react (-1) hdr.dataLength.toNat s).rest) := by
  by_cases hm : hdr.MagicOk
  · by_cases hz : hdr.dataLength = 0
    · exact Or.inl ⟨1, by rw [recvPayload, if_neg (not_not.2 hm), if_pos hz]⟩
    · by_cases hbig : maxPayload < hdr.dataLength.toInt32
      · exact Or.inl ⟨-1, by rw [recvPayload, if_neg (not_not.2 hm), if_neg hz, if_pos hbig]⟩
      · exact Or.inr (recvPayload_of_body hm hz hbig s)
  · exact Or.inl ⟨-1, by rw [recvPayload, if_pos hm]⟩

theorem recvPayload_rest (hdr : AdbMessage) (s : Source UInt8 ε) :
    ∃ n, (recvPayload react maxPayload skip hdr s).2 = (readExact react (-1) n s).rest := by
  rcases recvPayload_cases react maxPayload skip hdr s with ⟨r, h⟩ | h
  · exact ⟨0, by simp [h]⟩
  · exact ⟨_, by rw [h]⟩

theorem recvPayload_consumes (hdr : AdbMessage) (s : Source UInt8 ε) :
    (recvPayload react maxPayload skip hdr s).1.payload.length +
      (content (recvPayload react maxPayload skip hdr s).2).length = (content s).length := by
  rcases recvPayload_cases react maxPayload skip hdr s with ⟨r, h⟩ | h
  · simp [h]
  · rw [h, ← readExact_content react (-1) hdr.dataLength.toNat s, List.length_append]
    rfl

variable (react hdr₀ maxPayload skip) in
/-- The source after a call: a header read, then possibly a payload read. -/
theorem recvFrame_rest (s : Source UInt8 ε) :
    ∃ n, (recvFrame react hdr₀ maxPayload skip s).2 =
      (readExact react (-1) n (readExact react (-1) 24 s).rest).rest := by
  rcases h : (readExact react (-1) 24 s).stop with _ | r
  · rw [recvFrame_of_full h]
    exact recvPayload_rest _ _
  · exact ⟨0, by simpa using (recvFrame_of_stop hdr₀ maxPayload skip h).2⟩

theorem recvFrame_size_lt {s : Source UInt8 ε} (hs : s ≠ []) :
    size (recvFrame react hdr₀ maxPayload skip s).2 < size s := by
  obtain ⟨n, h⟩ := recvFrame_rest react hdr₀ maxPayload skip s
  rw [h]
  exact (readExact_size_le ..).trans_lt (readExact_size_lt react (-1) (by decide) hs)

theorem signal_mem_of_mem_recvFrame {s : Source UInt8 ε} {e : ε}
    (h : .signal e ∈ (recvFrame react hdr₀ maxPayload skip s).2) : .signal e ∈ s := by
  obtain ⟨n, hr⟩ := recvFrame_rest react hdr₀ maxPayload skip s
  rw [hr] at h
  exact signal_mem_of_mem_rest (signal_mem_of_mem_rest h)

theorem readExact_content_le (n : ℕ) (s : Source UInt8 ε) :
    (content (readExact react (-1) n s).rest).length ≤ (content s).length := by
  rw [← readExact_content react (-1) n s, List.length_append]
  exact Nat.le_add_left _ _

theorem recvFrame_content_le (s : Source UInt8 ε) :
    (content (recvFrame react hdr₀ maxPayload skip s).2).length ≤ (content s).length := by
  obtain ⟨n, h⟩ := recvFrame_rest react hdr₀ maxPayload skip s
  rw [h]
  exact (readExact_content_le n _).trans (readExact_content_le 24 s)

/-- A call that returned `1` took a header and the payload it stored off the source. -/
theorem recvFrame_consumes (hreact : ∀ e, react e ≠ some 1) {s : Source UInt8 ε}
    (h : (recvFrame react hdr₀ maxPayload skip s).1.ret = 1) :
    24 + (recvFrame react hdr₀ maxPayload skip s).1.payload.length +
      (content (recvFrame react hdr₀ maxPayload skip s).2).length = (content s).length := by
  rcases hs : (readExact react (-1) 24 s).stop with _ | r
  · have hc := congrArg List.length (readExact_content react (-1) 24 s)
    rw [List.length_append, (readExact_full_iff ..).1 hs] at hc
    rw [recvFrame_of_full hs, Nat.add_assoc, recvPayload_consumes, hc]
  · rw [(recvFrame_of_stop _ _ _ hs).1] at h
    subst h
    rcases stops_of_stop hs with ⟨e, -, he, -⟩ | ⟨h, -⟩
    · exact absurd he (hreact e)
    · exact absurd h (by decide)

variable (hdr₀ maxPayload skip) in
/-- The header of a packet at the head of the content is read whole when no stop falls into it. -/
theorem readExact_header {s : Source UInt8 ε} {hdr : AdbMessage} {t : List UInt8}
    (hc : content s = hdr.toBytes ++ t) (hs : ∀ k ∈ stops react s, 24 ≤ k) :
    (readExact react (-1) 24 s).stop = none ∧
      content (readExact react (-1) 24 s).rest = t ∧
      stops react s = (stops react (readExact react (-1) 24 s).rest).map (· + 24) ∧
      recvFrame react hdr₀ maxPayload skip s =
        recvPayload react maxPayload skip hdr (readExact react (-1) 24 s).rest := by
  have hlen : 24 ≤ (content s).length := by simp [hc]
  have hfull : (readExact react (-1) 24 s).stop = none := readExact_full hlen hs
  obtain ⟨hgot, hrest⟩ := readExact_append_of_full hc hfull
  rw [AdbMessage.length_toBytes] at hgot hrest
  refine ⟨hfull, hrest, stops_of_full hfull, ?_⟩
  rw [recvFrame_of_full hfull, hgot, AdbMessage.ofBytes_toBytes_append]

variable (hdr₀) in
/-- A packet at the head of the content is delivered when no stop falls into it. -/
theorem recvFrame_whole {s : Source UInt8 ε} {p : Packet} {t : List UInt8}
    (w : p.WellFormed maxPayload skip) (hc : content s = p.toBytes ++ t)
    (hs : ∀ k ∈ stops react s, p.toBytes.length ≤ k) :
    (recvFrame react hdr₀ maxPayload skip s).1 = p.delivery ∧
      content (recvFrame react hdr₀ maxPayload skip s).2 = t ∧
      stops react s = (stops react (recvFrame react hdr₀ maxPayload skip s).2).map
        (· + p.toBytes.length) := by
  rw [Packet.length_toBytes] at hs ⊢
  rw [Packet.toBytes, List.append_assoc] at hc
  obtain ⟨-, hrest, hst, heq⟩ := readExact_header hdr₀ maxPayload skip hc
    fun k hk => (Nat.le_add_right _ _).trans (hs k hk)
  rw [heq]
  unfold recvPayload
  rw [if_neg (not_not.2 w.magic)]
  by_cases hz : p.hdr.dataLength = 0
  · have hp : p.payload = [] := List.eq_nil_of_length_eq_zero (by rw [← w.length, hz]; rfl)
    rw [if_pos hz]
    simp only [hp, Packet.delivery, List.length_nil, Nat.add_zero]
    exact ⟨trivial, by simpa [hp] using hrest, hst⟩
  · rw [if_neg hz, if_neg w.not_too_large]
    have hs' : ∀ k ∈ stops react (readExact react (-1) 24 s).rest, p.payload.length ≤ k := by
      intro k hk
      have := hs (k + 24) (by rw [hst]; exact List.mem_map_of_mem hk)
      omega
    have hfull : (readExact react (-1) p.payload.length
        (readExact react (-1) 24 s).rest).stop = none := readExact_full (by simp [hrest]) hs'
    obtain ⟨hgot, hrest'⟩ := readExact_append_of_full hrest hfull
    rw [w.length]
    refine ⟨?_, hrest', ?_⟩
    · have hok : ¬ (skip = false ∧ adbChecksum p.payload ≠ p.hdr.dataCheck) := by
        rintro ⟨hskip, hne⟩
        rcases w.check with h | h | h
        · rw [hskip] at h
          cases h
        · exact hz (UInt32.toNat_inj.1 (by rw [w.length, h]; rfl))
        · exact hne h
      simp only [payloadResult, hfull, hgot, if_neg hok, Packet.delivery]
    · rw [hst, stops_of_full hfull, List.map_map]
      apply List.map_congr_left
      intro k _
      simp only [Function.comp_apply]
      omega

variable (hdr₀ maxPayload skip) in
/-- A call whose source pauses inside a packet returns the code of the pause, and what it had read
of the packet is gone from the source. -/
theorem recvFrame_cut {s : Source UInt8 ε} {k : ℕ} {ks : List ℕ} {r : ℤ}
    (hr : ∀ e, .signal e ∈ s → react e = some r) (hs : stops react s = k :: ks)
    (hk : k < 24 ∨ ∃ p t, p.WellFormed maxPayload skip ∧ content s = Packet.toBytes p ++ t ∧
      k < p.toBytes.length) :
    (recvFrame react hdr₀ maxPayload skip s).1.ret = r ∧
      content (recvFrame react hdr₀ maxPayload skip s).2 = (content s).drop k ∧
      stops react s =
        (0 :: stops react (recvFrame react hdr₀ maxPayload skip s).2).map (· + k) := by
  by_cases hk24 : k < 24
  · obtain ⟨hstop, hrest, hst⟩ := readExact_paused (-1) hr hs hk24
    obtain ⟨hret, hres⟩ := recvFrame_of_stop hdr₀ maxPayload skip hstop
    rw [hres]
    exact ⟨hret, hrest, hst⟩
  · obtain ⟨p, t, w, hc, hlt⟩ := hk.resolve_left hk24
    rw [Packet.length_toBytes] at hlt
    rw [Packet.toBytes, List.append_assoc] at hc
    obtain ⟨hfull, -, hst, heq⟩ := readExact_header hdr₀ maxPayload skip hc
      fun j hj => (not_lt.1 hk24).trans (le_of_stops_cons hs j hj)
    have hz : p.hdr.dataLength ≠ 0 := by
      intro hz
      have := w.length
      rw [hz] at this
      simp only [UInt32.toNat_zero] at this
      omega
    have hst' : stops react (readExact react (-1) 24 s).rest = (k - 24) :: ks.map (· - 24) := by
      have := congrArg (List.map (· - 24)) (hst.symm.trans hs)
      simpa [Function.comp_def] using this
    have hbody : k - 24 < p.payload.length := by omega
    obtain ⟨hstop, hrest', hst''⟩ :=
      readExact_paused (-1) (fun e he => hr e (signal_mem_of_mem_rest he)) hst' hbody
    rw [heq, recvPayload_of_body w.magic hz w.not_too_large, w.length]
    refine ⟨by simp only [payloadResult, hstop], ?_, ?_⟩
    · rw [hrest', readExact_rest_of_full hfull, List.drop_drop]
      congr 1
      omega
    · rw [hst, hst'', List.map_map]
      apply List.map_congr_left
      intro j _
      simp only [Function.comp_apply]
      omega

theorem readExact_quiet {n : ℕ} {s : Source UInt8 ε} (hs : ∀ e, .signal e ∉ s)
    (hn : n ≤ (content s).length) : (readExact react (-1) n s).stop = none :=
  readExact_full hn (by simp [stops_eq_nil fun e he => absurd he (hs e)])

variable (react hdr₀ maxPayload skip) in
/-- A packet at the head of a source without signals: where it does not fit, its header is taken,
and otherwise all of it, with a result that depends on the byte sum. -/
theorem recvFrame_packet {p : Packet} (hm : p.hdr.MagicOk)
    (hlen : p.hdr.dataLength.toNat = p.payload.length) {s : Source UInt8 ε}
    (hs : ∀ e, .signal e ∉ s) {t : List UInt8} (hc : content s = p.toBytes ++ t) :
    if p.payload ≠ [] ∧ maxPayload < p.hdr.dataLength.toInt32 then
      (recvFrame react hdr₀ maxPayload skip s).1 = ⟨-1, p.hdr, []⟩ ∧
        content (recvFrame react hdr₀ maxPayload skip s).2 = p.payload ++ t
    else
      (recvFrame react hdr₀ maxPayload skip s).1 =
          ⟨if skip = false ∧ p.payload ≠ [] ∧ adbChecksum p.payload ≠ p.hdr.dataCheck then -1
            else 1, p.hdr, p.payload⟩ ∧
        content (recvFrame react hdr₀ maxPayload skip s).2 = t := by
  have hnil : p.hdr.dataLength = 0 ↔ p.payload = [] := by
    rw [← List.length_eq_zero_iff, ← hlen, ← UInt32.toNat_inj]
    rfl
  rw [Packet.toBytes, List.append_assoc] at hc
  obtain ⟨-, hrest, -, heq⟩ := readExact_header hdr₀ maxPayload skip hc
    (show ∀ k ∈ stops react s, 24 ≤ k by simp [stops_eq_nil fun e he => absurd he (hs e)])
  have hs' : ∀ e, .signal e ∉ (readExact react (-1) 24 s).rest :=
    fun e he => hs e (signal_mem_of_mem_rest he)
  rw [heq]
  by_cases hz : p.hdr.dataLength = 0
  · have hp := hnil.1 hz
    rw [if_neg (fun h => h.1 hp), recvPayload, if_neg (not_not.2 hm), if_pos hz]
    simpa [hp] using hrest
  · have hp : p.payload ≠ [] := fun hp => hz (hnil.2 hp)
    by_cases hbig : maxPayload < p.hdr.dataLength.toInt32
    · rw [if_pos ⟨hp, hbig⟩, recvPayload, if_neg (not_not.2 hm), if_neg hz, if_pos hbig]
      exact ⟨rfl, hrest⟩
    · have hbody : (readExact react (-1) p.payload.length
          (readExact react (-1) 24 s).rest).stop = none := readExact_quiet hs' (by simp [hrest])
      obtain ⟨hgot, htail⟩ := readExact_append_of_full hrest hbody
      rw [if_neg (fun h => hbig h.2), recvPayload_of_body hm hz hbig, hlen]
      refine ⟨?_, htail⟩
      simp only [payloadResult, hbody, hgot, ne_eq, hp, not_false_eq_true, true_and]

end RecvFrame

end Autoscrcpy
