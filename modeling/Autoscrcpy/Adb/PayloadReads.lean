import Autoscrcpy.Adb.Receive

/-!
# The lengths that the payload loops ask for

The payload loops of `adb_recv_msg` and `adb_recv_msg_tls` over the plain results of `recv` and
`tls_recv`, with every length they pass. Both the size check and the length passed are signed
readings of unsigned values: a `data_length` from `2 ^ 31` on passes the check as a negative number
and is asked for as one. Below `2 ^ 31` every read stays inside the buffer
(`payload_reads_within_iff`), and the loops store what `recvPayload` stores
(`adbRecvMsgPayload_received`).
-/

namespace Autoscrcpy

open SegStream

/-! ## The loops -/

/-- A read of a payload loop: how many bytes are stored already, and the length passed. -/
structure PayloadRead where
  received : ℕ
  len : Int32
  deriving DecidableEq, Repr

/-- What a payload loop does: its reads, the bytes stored at the end and the code of an early
return. -/
structure PayloadLoop where
  reads : List PayloadRead
  received : ℕ
  ret : Option ℤ
  deriving DecidableEq, Repr

/-- The read that a loop makes next: `(int)(data_length - received)` bytes. -/
def nextRead (dataLength : UInt32) (received : ℕ) : PayloadRead :=
  ⟨received, Int32.ofNat (dataLength.toNat - received)⟩

/-- `while (received < data_length)` over the results of its reads; `code` is what a result that is
not positive makes the function return. A list that runs out leaves the loop in its last read. -/
def payloadLoop (code : Int32 → ℤ) (dataLength : UInt32) : ℕ → List Int32 → PayloadLoop
  | received, [] =>
      ⟨if received < dataLength.toNat then [nextRead dataLength received] else [], received, none⟩
  | received, n :: ns =>
      if received < dataLength.toNat then
        if 0 < n then
          let l := payloadLoop code dataLength (received + n.toInt.toNat) ns
          { l with reads := nextRead dataLength received :: l.reads }
        else ⟨[nextRead dataLength received], received, some (code n)⟩
      else ⟨[], received, none⟩

/-- The receive functions after the header, up to the checksum. -/
def payloadPart (code : Int32 → ℤ) (maxPayload : Int32) (hdr : AdbMessage) (results : List Int32) :
    PayloadLoop :=
  if ¬ hdr.MagicOk then ⟨[], 0, some (-1)⟩
  else if hdr.dataLength = 0 then ⟨[], 0, none⟩
  else if maxPayload < hdr.dataLength.toInt32 then ⟨[], 0, some (-1)⟩
  else payloadLoop code hdr.dataLength 0 results

/-- The payload part of `adb_recv_msg` for the results of its `recv` calls. -/
def adbRecvMsgPayload (maxPayload : Int32) (hdr : AdbMessage) (results : List Int32) :
    PayloadLoop :=
  payloadPart (fun _ => -1) maxPayload hdr results

/-- The payload part of `adb_recv_msg_tls` for the results of its `tls_recv` calls. -/
def adbRecvMsgTlsPayload (maxPayload : Int32) (hdr : AdbMessage) (results : List Int32) :
    PayloadLoop :=
  payloadPart (fun n => if n < 0 then -1 else 0) maxPayload hdr results

/-! ## The loops of the receive functions -/

/-- The results of the reads that `readExact` makes; `code` gives the result of a signal. -/
def readResults {ε : Type} (code : ε → Int32) : ℕ → Source UInt8 ε → List Int32
  | 0, _ => []
  | _ + 1, [] => [-1]
  | _ + 1, .signal e :: _ => [code e]
  | n + 1, .data _ bs :: s =>
      if bs.length ≤ n then Int32.ofNat (bs.length + 1) :: readResults code (n - bs.length) s
      else [Int32.ofNat (n + 1)]

theorem int32_ofNat_pos {n : ℕ} (hpos : 0 < n) (h : n < 2 ^ 31) : 0 < Int32.ofNat n := by
  rw [Int32.lt_iff_toInt_lt, Int32.toInt_ofNat_of_lt h]
  show (0 : ℤ) < n
  exact_mod_cast hpos

/-- The loop of `recvPayload` is the loop over the results of its reads, when each of these fits
into an `int` as it does below `2 ^ 31`. -/
theorem payloadLoop_readExact {ε : Type} {react : ε → Option ℤ} {code : Int32 → ℤ}
    {result : ε → Int32} (hreact : ∀ e, react e = some (code (result e)))
    (hresult : ∀ e, result e ≤ 0) (heof : code (-1) = -1) {dataLength : UInt32}
    (hlt : dataLength.toNat < 2 ^ 31) {n : ℕ} (hn : n ≤ dataLength.toNat) (s : Source UInt8 ε) :
    (payloadLoop code dataLength (dataLength.toNat - n) (readResults result n s)).ret =
        (readExact react (-1) n s).stop ∧
      (payloadLoop code dataLength (dataLength.toNat - n) (readResults result n s)).received =
        dataLength.toNat - n + (readExact react (-1) n s).got.length := by
  induction n, s using readExact_induct react (-1) with
  | full s => simp [readResults, payloadLoop]
  | ended n =>
    have hread : dataLength.toNat - (n + 1) < dataLength.toNat := by omega
    have hneg : ¬ (0 : Int32) < -1 := by decide
    simp [readResults, payloadLoop, hread, hneg, heof]
  | passed n e s he ih =>
    rw [hreact] at he
    cases he
  | stopped n e s r he =>
    have hread : dataLength.toNat - (n + 1) < dataLength.toNat := by omega
    have hcode : code (result e) = r := by
      rw [hreact] at he
      exact Option.some.inj he
    simp [readResults, payloadLoop, hread, Int32.not_lt.2 (hresult e), hcode]
  | fits n b bs s h ih =>
    have hread : dataLength.toNat - (n + 1) < dataLength.toNat := by omega
    have hpos : 0 < Int32.ofNat (bs.length + 1) := int32_ofNat_pos (by omega) (by omega)
    have hnext : dataLength.toNat - (n + 1) + (Int32.ofNat (bs.length + 1)).toInt.toNat =
        dataLength.toNat - (n - bs.length) := by
      rw [Int32.toInt_ofNat_of_lt (by omega)]
      omega
    obtain ⟨hret, hreceived⟩ := ih (by omega)
    simp only [readResults, if_pos h, payloadLoop, if_pos hread, if_pos hpos, hnext,
      Fill.prepend_stop, Fill.prepend_got, List.length_append, List.length_cons]
    exact ⟨hret, by rw [hreceived]; omega⟩
  | filled n b bs s h =>
    have hread : dataLength.toNat - (n + 1) < dataLength.toNat := by omega
    have hpos : 0 < Int32.ofNat (n + 1) := int32_ofNat_pos (by omega) (by omega)
    have hnext : dataLength.toNat - (n + 1) + (Int32.ofNat (n + 1)).toInt.toNat =
        dataLength.toNat := by
      rw [Int32.toInt_ofNat_of_lt (by omega)]
      omega
    simp only [readResults, if_neg h, payloadLoop, if_pos hread, if_pos hpos, hnext,
      List.length_cons, List.length_take]
    exact ⟨trivial, by omega⟩

/-- What `recv` returns for a result without data. -/
def socketResult : SocketSignal → Int32
  | .wouldBlock => -1
  | .closed => 0
  | .error => -1

/-- What `tls_recv` returns for a result without data. -/
def tlsResult : TlsSignal → Int32
  | .again => 0
  | .fail => -1

theorem payloadPart_received {ε : Type} {react : ε → Option ℤ} {code : Int32 → ℤ}
    {result : ε → Int32} (hreact : ∀ e, react e = some (code (result e)))
    (hresult : ∀ e, result e ≤ 0) (heof : code (-1) = -1) (maxPayload : Int32) (skip : Bool)
    {hdr : AdbMessage} (hlt : hdr.dataLength.toNat < 2 ^ 31) (s : Source UInt8 ε) :
    (payloadPart code maxPayload hdr (readResults result hdr.dataLength.toNat s)).received =
      (recvPayload react maxPayload skip hdr s).1.payload.length := by
  unfold payloadPart recvPayload
  split_ifs
  · rfl
  · rfl
  · have h := (payloadLoop_readExact hreact hresult heof hlt le_rfl s).2
    rw [Nat.sub_self, Nat.zero_add] at h
    exact h
  · rfl

/-- Below `2 ^ 31` the loops over plain results store what the receive functions store. -/
theorem adbRecvMsgPayload_received (maxPayload : Int32) (skip : Bool) {hdr : AdbMessage}
    (hlt : hdr.dataLength.toNat < 2 ^ 31) (s : Source UInt8 SocketSignal)
    (t : Source UInt8 TlsSignal) :
    (adbRecvMsgPayload maxPayload hdr (readResults socketResult hdr.dataLength.toNat s)).received =
        (recvPayload socketReact maxPayload skip hdr s).1.payload.length ∧
      (adbRecvMsgTlsPayload maxPayload hdr
          (readResults tlsResult hdr.dataLength.toNat t)).received =
        (recvPayload tlsReact maxPayload skip hdr t).1.payload.length := by
  constructor
  · refine payloadPart_received (fun e => ?_) (fun e => ?_) rfl maxPayload skip hlt s
    · cases e <;> rfl
    · cases e <;> decide
  · refine payloadPart_received (fun e => ?_) (fun e => ?_) (by decide) maxPayload skip hlt t
    · cases e <;> decide
    · cases e <;> decide

/-! ## Reads inside the buffer -/

/-- The read asks for a length between 1 and what the buffer has left. -/
def PayloadRead.Within (maxPayload : Int32) (r : PayloadRead) : Prop :=
  1 ≤ r.len.toInt ∧ r.len.toInt ≤ maxPayload.toInt - r.received

theorem payloadLoop_within {code : Int32 → ℤ} {maxPayload : Int32} {dataLength : UInt32}
    (hlt : dataLength.toNat < 2 ^ 31) (hle : (dataLength.toNat : ℤ) ≤ maxPayload.toInt)
    (received : ℕ) (results : List Int32) :
    ∀ r ∈ (payloadLoop code dataLength received results).reads, r.Within maxPayload := by
  have hnext {k : ℕ} (hk : k < dataLength.toNat) : (nextRead dataLength k).Within maxPayload := by
    simp only [PayloadRead.Within, nextRead]
    rw [Int32.toInt_ofNat_of_lt (by omega)]
    omega
  induction results generalizing received with
  | nil =>
    intro r hr
    rw [payloadLoop] at hr
    split_ifs at hr with h
    · rw [List.mem_singleton.1 hr]
      exact hnext h
    · cases hr
  | cons n ns ih =>
    intro r hr
    rw [payloadLoop] at hr
    split_ifs at hr with h hpos
    · rcases List.mem_cons.1 hr with rfl | hr
      · exact hnext h
      · exact ih _ r hr
    · rw [List.mem_singleton.1 hr]
      exact hnext h
    · cases hr

/-- The first read of a loop asks for the whole length. -/
theorem nextRead_mem_payloadLoop (code : Int32 → ℤ) {dataLength : UInt32}
    (hpos : 0 < dataLength.toNat) (results : List Int32) :
    nextRead dataLength 0 ∈ (payloadLoop code dataLength 0 results).reads := by
  cases results with
  | nil => simp [payloadLoop, hpos]
  | cons n ns =>
    rw [payloadLoop, if_pos hpos]
    split_ifs <;> exact List.mem_cons_self ..

/-- From `2 ^ 31` on a length is negative as an `int`. -/
theorem toInt_toInt32_of_le {v : UInt32} (h : 2 ^ 31 ≤ v.toNat) : v.toInt32.toInt < 0 := by
  have hlt := v.toNat_lt
  have hmsb : v.toBitVec.toInt = (v.toNat : ℤ) - 2 ^ 32 := by
    rw [BitVec.toInt_eq_toNat_cond, UInt32.toNat_toBitVec, if_neg (by omega)]
    norm_num
  rw [← Int32.toInt_toBitVec, UInt32.toBitVec_toInt32, hmsb]
  omega

theorem payloadPart_within_iff (code : Int32 → ℤ) {maxPayload : Int32} (hmax : 1 ≤ maxPayload.toInt)
    (hdr : AdbMessage) (results : List Int32) :
    (∀ r ∈ (payloadPart code maxPayload hdr results).reads, r.Within maxPayload) ↔
      (hdr.MagicOk → hdr.dataLength.toNat < 2 ^ 31) := by
  unfold payloadPart
  by_cases hm : hdr.MagicOk
  · by_cases hz : hdr.dataLength = 0
    · simp [hm, hz]
    · have hpos : 0 < hdr.dataLength.toNat := by
        refine Nat.pos_of_ne_zero fun h => hz ?_
        exact UInt32.toNat_inj.1 h
      rw [if_neg (not_not.2 hm), if_neg hz]
      by_cases hlt : hdr.dataLength.toNat < 2 ^ 31
      · refine iff_of_true ?_ fun _ => hlt
        split_ifs with hbig
        · intro r hr
          cases hr
        · refine payloadLoop_within hlt ?_ 0 results
          rw [← toInt_toInt32_of_lt _ hlt, ← Int32.le_iff_toInt_le]
          exact Int32.not_lt.1 hbig
      · have hneg := toInt_toInt32_of_le (not_lt.1 hlt)
        have hpass : ¬ maxPayload < hdr.dataLength.toInt32 := by
          rw [Int32.lt_iff_toInt_lt]
          omega
        rw [if_neg hpass]
        refine iff_of_false (fun h => ?_) fun h => hlt (h hm)
        have hfirst := (h _ (nextRead_mem_payloadLoop code hpos results)).1
        have hlen : (nextRead hdr.dataLength 0).len = hdr.dataLength.toInt32 := by
          rw [nextRead, Nat.sub_zero]
          exact Int32.toBitVec_inj.1 (by simp)
        rw [hlen] at hfirst
        omega
  · simp [hm]

/-- Every payload read of both receive functions asks for at least one byte and no more than the
buffer has left, exactly when the header has a wrong `magic` or a `data_length` below `2 ^ 31`. -/
theorem payload_reads_within_iff {maxPayload : Int32} (hmax : 1 ≤ maxPayload.toInt)
    (hdr : AdbMessage) (results tlsResults : List Int32) :
    ((∀ r ∈ (adbRecvMsgPayload maxPayload hdr results).reads, r.Within maxPayload) ∧
        ∀ r ∈ (adbRecvMsgTlsPayload maxPayload hdr tlsResults).reads, r.Within maxPayload) ↔
      (hdr.MagicOk → hdr.dataLength.toNat < 2 ^ 31) := by
  rw [adbRecvMsgPayload, adbRecvMsgTlsPayload, payloadPart_within_iff _ hmax,
    payloadPart_within_iff _ hmax, and_self]

theorem payload_reads_within_iff_okay :
    ((adbRecvMsgPayload 4096 ⟨ADB_OKAY, 1, 2, 8, 0, ADB_OKAY ^^^ 0xffffffff⟩ [3, 5]).reads =
        [⟨0, 8⟩, ⟨3, 5⟩]) ∧
      List.Forall (PayloadRead.Within 4096)
        (adbRecvMsgPayload 4096 ⟨ADB_OKAY, 1, 2, 8, 0, ADB_OKAY ^^^ 0xffffffff⟩ [3, 5]).reads := by
  have hmax : 1 ≤ (4096 : Int32).toInt := by decide
  have h := (payload_reads_within_iff hmax
    ⟨ADB_OKAY, 1, 2, 8, 0, ADB_OKAY ^^^ 0xffffffff⟩ [3, 5] []).2 fun _ => by decide
  exact ⟨by decide, List.forall_iff_forall_mem.2 h.1⟩

/-- A `WRTE` that announces `2 ^ 31` bytes. -/
def hugeWrte : AdbMessage := ⟨ADB_WRTE, 1, 2, 0x80000000, 0, ADB_WRTE ^^^ 0xffffffff⟩

/-- The length passes the check of a buffer of 4096 bytes and is asked for as a negative number. A
`tls_recv` that takes it for an unsigned one stores a record of 16384 bytes behind the buffer's end,
and the loop goes on from there. -/
theorem hugeWrte_asks_negative :
    hugeWrte.MagicOk ∧
      (adbRecvMsgPayload 4096 hugeWrte [-1]).reads = [⟨0, -2147483648⟩] ∧
      (adbRecvMsgTlsPayload 4096 hugeWrte [16384]).reads =
        [⟨0, -2147483648⟩, ⟨16384, 2147467264⟩] := by
  decide

end Autoscrcpy
