import Autoscrcpy.Adb.Receive

/-!
# Calling the TLS receive again

`adb_recv_msg_tls` returns `0` on `WANT_READ` "so caller can retry", but its progress counter is
local: the next call starts with a header again. It is a framed receiver whose pauses are the
results `0` of `tls_recv`, and so it can be resumed exactly where a pause falls between two
messages.
-/

namespace Autoscrcpy

open SegStream

theorem tlsReact_ne_one (e : TlsSignal) : tlsReact e ≠ some 1 := by cases e <;> decide

theorem Packet.toBytes_pos (p : Packet) : 0 < p.toBytes.length := by
  rw [length_toBytes]
  omega

/-- `adb_recv_msg_tls` as a framed receiver of the packets it accepts. A caller calls again after
each return value `0`. -/
def tlsReceiver (hdr₀ : List UInt8) (maxPayload : Int32) (skip : Bool) :
    FrameReceiver UInt8 TlsSignal ℤ {p : Packet // p.WellFormed maxPayload skip} RecvMsg where
  react := tlsReact
  waits e := e = .again
  frame p := p.1.toBytes
  result p := p.1.delivery
  retry r := r.ret = 0
  call := adbRecvMsgTls hdr₀ maxPayload skip
  stop_of_waits e h := by
    subst h
    exact Option.some_ne_none 0
  frame_pos p := p.1.toBytes_pos
  result_final p := rfl
  shrinks _ hs := recvFrame_size_lt hs
  content_le s := recvFrame_content_le s
  signals _ _ h := signal_mem_of_mem_recvFrame h
  consumes s p h := by
    have hret : (adbRecvMsgTls hdr₀ maxPayload skip s).1.ret = 1 := by
      rw [h]
      rfl
    have hc := recvFrame_consumes tlsReact_ne_one hret
    have hp : (adbRecvMsgTls hdr₀ maxPayload skip s).1.payload = p.1.payload := by
      rw [h]
      rfl
    rw [adbRecvMsgTls] at hp ⊢
    rw [hp] at hc
    rw [Packet.length_toBytes]
    exact hc.le
  whole s p t hc hs := recvFrame_whole hdr₀ p.2 hc hs
  cut s k ks hw hs hk := by
    have hr : ∀ e, .signal e ∈ s → tlsReact e = some 0 := by
      intro e he
      rw [hw e he]
      rfl
    obtain ⟨hret, hrest, hst⟩ := recvFrame_cut hdr₀ maxPayload skip hr hs <| by
        rcases hk with rfl | ⟨p, t, hc, hlt⟩
        · exact Or.inl (by decide)
        · exact Or.inr ⟨p.1, t, p.2, hc, hlt⟩
    exact ⟨decide_eq_true hret, hrest, hst⟩

/-- What a caller gets from `adb_recv_msg_tls` that calls again after every `0`, until nothing is
left of the source: the results of the other calls. -/
def recvAllTls (hdr₀ : List UInt8) (maxPayload : Int32) (skip : Bool)
    (s : Source UInt8 TlsSignal) : List RecvMsg :=
  (tlsReceiver hdr₀ maxPayload skip).delivered s

/-- The offsets in the byte stream at which `tls_recv` returned `0`. -/
def tlsPauses (s : Source UInt8 TlsSignal) : List ℕ := stops tlsReact s

/-- Packets whose bytes arrive in any partial reads, paused any number of times, are delivered
exactly once each and in order if and only if every pause falls between two packets. -/
theorem recvAllTls_eq_iff (hdr₀ : List UInt8) (maxPayload : Int32) (skip : Bool)
    (packets : List Packet) (hwf : ∀ p ∈ packets, p.WellFormed maxPayload skip)
    (s : Source UInt8 TlsSignal) (hagain : ∀ e, .signal e ∈ s → e = .again)
    (hs : content s = packets.flatMap Packet.toBytes) :
    recvAllTls hdr₀ maxPayload skip s = packets.map Packet.delivery ↔
      ∀ k ∈ tlsPauses s, ∃ pre, pre <+: packets ∧ k = (pre.flatMap Packet.toBytes).length := by
  lift packets to List {p : Packet // p.WellFormed maxPayload skip} using hwf
  have hmap (ps : List {p : Packet // p.WellFormed maxPayload skip}) :
      (ps.map Subtype.val).flatMap Packet.toBytes = ps.flatMap fun p => p.1.toBytes := by
    rw [List.flatMap_map]
  have hframes : content s = packets.flatMap (tlsReceiver hdr₀ maxPayload skip).frame :=
    hs.trans (hmap packets)
  have h := (tlsReceiver hdr₀ maxPayload skip).resumes_iff hagain hframes
  rw [List.map_map]
  refine h.trans (forall₂_congr fun k _ => ?_)
  constructor
  · rintro ⟨pre, hp, rfl⟩
    exact ⟨pre.map Subtype.val, hp.map _, congrArg List.length (hmap pre).symm⟩
  · rintro ⟨pre, hp, rfl⟩
    obtain ⟨pre', hp', rfl⟩ := List.prefix_map_iff.1 hp
    exact ⟨pre', hp', congrArg List.length (hmap pre')⟩

/-- An `OKAY` of a device that calls the channel `7` for the channel `1` of the host. -/
def okayPacket : Packet := ⟨⟨ADB_OKAY, 7, 1, 0, 0, ADB_OKAY ^^^ 0xffffffff⟩, []⟩

theorem okayPacket_wellFormed : okayPacket.WellFormed 1048576 true :=
  ⟨by decide, by decide, by decide, Or.inl rfl⟩

/-- Pauses before, between and after two packets. -/
theorem recvAllTls_eq_iff_okay :
    recvAllTls [] 1048576 true (.signal .again :: unread okayPacket.toBytes
      (.signal .again :: unread okayPacket.toBytes [.signal .again])) =
      [okayPacket.delivery, okayPacket.delivery] := by
  refine (recvAllTls_eq_iff [] 1048576 true [okayPacket, okayPacket] ?_ _ ?_ (by simp)).2 ?_
  · simpa using okayPacket_wellFormed
  · intro e he
    rcases List.mem_cons.1 he with h | he
    · exact Item.signal.inj h
    · rcases List.mem_cons.1 (mem_of_mem_unread he) with h | he
      · exact Item.signal.inj h
      · simpa using mem_of_mem_unread he
  · intro k hk
    have hk' : k = 0 ∨ k = 24 ∨ k = 48 := by
      simpa [tlsPauses, stops, stops_unread, tlsReact, okayPacket] using hk
    rcases hk' with rfl | rfl | rfl
    · exact ⟨[], List.nil_prefix, rfl⟩
    · exact ⟨[okayPacket], by simp, by simp [okayPacket]⟩
    · exact ⟨_, List.prefix_rfl, by simp [okayPacket]⟩

/-- Two packets with a pause after the first four bytes. -/
def pausedInHeader : Source UInt8 TlsSignal :=
  unread (okayPacket.toBytes.take 4)
    (.signal .again :: unread (okayPacket.toBytes.drop 4 ++ okayPacket.toBytes) [])

/-- After the pause the next call takes the other twenty bytes and the first four of the next
packet for a header. -/
theorem recvAllTls_pausedInHeader :
    (∀ p ∈ [okayPacket, okayPacket], p.WellFormed 1048576 true) ∧
      (∀ e, .signal e ∈ pausedInHeader → e = .again) ∧
      content pausedInHeader = [okayPacket, okayPacket].flatMap Packet.toBytes ∧
      recvAllTls [] 1048576 true pausedInHeader ≠ [okayPacket, okayPacket].map Packet.delivery := by
  have hwf : ∀ p ∈ [okayPacket, okayPacket], p.WellFormed 1048576 true := by
    simpa using okayPacket_wellFormed
  have hagain : ∀ e, .signal e ∈ pausedInHeader → e = .again := by
    intro e he
    rcases List.mem_cons.1 (mem_of_mem_unread he) with h | h
    · exact Item.signal.inj h
    · exact absurd (mem_of_mem_unread h) (by simp)
  have hs : content pausedInHeader = [okayPacket, okayPacket].flatMap Packet.toBytes := by
    simp [pausedInHeader, ← List.append_assoc]
  have hstop : 4 ∈ stops tlsReact pausedInHeader := by
    simp [pausedInHeader, stops, stops_unread, tlsReact, okayPacket]
  refine ⟨hwf, hagain, hs, fun hd => ?_⟩
  let R := tlsReceiver [] 1048576 true
  let m : {p : Packet // p.WellFormed 1048576 true} := ⟨okayPacket, okayPacket_wellFormed⟩
  have hframes : content pausedInHeader = [m, m].flatMap R.frame := hs
  have hb : R.OnBoundary [m, m] 4 := R.onBoundary_of_delivered hagain hframes hd 4 hstop
  -- The first boundary after the start is the end of the first packet.
  have hle : 24 ≤ 4 := R.frame_le_of_onBoundary hb (by decide)
  exact absurd hle (by decide)

end Autoscrcpy
