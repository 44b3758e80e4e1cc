import Autoscrcpy.Adb.Session
import Autoscrcpy.Lib.Runs

/-!
# The life of a channel

Runs of opens, closes, incoming messages and disconnects on one connection, in any order. The step
lemma `step_getElem?` says what an operation makes of the channel in a slot. A channel advances from
opening over open to closed and keeps its remote id exactly where no `OPEN` or `OKAY` names a slot
that is past open or bound to another id (`keepsBinding_iff`); in such runs a slot sends at most
one `CLSE`.
-/

namespace Autoscrcpy

open Runs

/-! ## Operations -/

/-- An operation on a connection: a call of `session_open_channel` with the result of its send, of
`session_close_channel` on a slot, of `session_handle_message`, or of `session_disconnect`. -/
inductive SessionOp where
  | openChannel (service : List UInt8) (sendRet : ℤ)
  | closeChannel (slot : ℕ)
  | handleMessage (env : HandleEnv) (msg : AdbMessage) (payload : List UInt8)
  | disconnect

namespace SessionOp

def step (conn : AdbConnection) : SessionOp → AdbConnection
  | openChannel service sendRet => (sessionOpenChannel conn service sendRet).1
  | closeChannel slot => (sessionCloseChannel conn slot).1
  | handleMessage env msg payload => (sessionHandleMessage env conn msg payload).conn
  | disconnect => (sessionDisconnect conn).1

/-- The `CLSE` messages that an operation sends for the channel in slot `j`; those of a disconnect
are the ones that closing each slot sends. -/
def clses (j : ℕ) (conn : AdbConnection) : SessionOp → List Sent
  | closeChannel slot => if slot = j then closeSends conn j else []
  | disconnect => if j < conn.channels.count then closeSends conn j else []
  | _ => []

/-- What an operation makes of the channel `c` in slot `j`. -/
def onSlot (conn : AdbConnection) (j : ℕ) (c : AdbChannel) : SessionOp → AdbChannel
  | openChannel _ _ => c
  | closeChannel slot => if slot = j then c.close else c
  | handleMessage _ msg _ =>
      if msg.command = ADB_OPEN ∨ msg.command = ADB_OKAY then
        if conn.channels.slotOf msg.arg1 = j then c.bind msg.arg0 else c
      else if msg.command = ADB_CLSE then
        if conn.channels.slotOf msg.arg0 = j then c.close else c
      else c
  | disconnect => c.close

end SessionOp

/-- A disconnect sends what its operation sends for each slot. -/
theorem sessionDisconnect_sends (conn : AdbConnection) :
    (sessionDisconnect conn).2 =
      (List.range conn.channels.count).flatMap fun j => SessionOp.disconnect.clses j conn := by
  rw [sessionDisconnect, closeChannels_sends conn List.nodup_range]
  apply List.flatMap_congr
  intro j hj
  rw [SessionOp.clses, if_pos (List.mem_range.1 hj)]

/-! ## What an operation does to a slot -/

theorem sessionOpenChannel_slots (conn : AdbConnection) (service : List UInt8) (sendRet : ℤ) :
    (sessionOpenChannel conn service sendRet).1.channels.slots = conn.channels.slots ∨
      (sessionOpenChannel conn service sendRet).1.channels.slots =
        conn.channels.slots ++ [newChannel conn.nextLocalId service] := by
  unfold sessionOpenChannel
  split_ifs
  · exact Or.inl rfl
  · exact Or.inr rfl
  · exact Or.inl rfl

/-- The channel in a slot after one operation. -/
theorem step_getElem? (op : SessionOp) {conn : AdbConnection} {j : ℕ} {c : AdbChannel}
    (h : conn.channels.slots[j]? = some c) :
    (op.step conn).channels.slots[j]? = some (op.onSlot conn j c) := by
  have hlt : j < conn.channels.slots.length := (List.getElem?_eq_some_iff.1 h).1
  cases op with
  | openChannel service sendRet =>
    rcases sessionOpenChannel_slots conn service sendRet with hs | hs
    · simpa only [SessionOp.step, hs, SessionOp.onSlot] using h
    · simpa only [SessionOp.step, hs, List.getElem?_append_left hlt, SessionOp.onSlot] using h
  | closeChannel slot =>
    simp only [SessionOp.step, sessionCloseChannel_getElem?, h, Option.map_some, SessionOp.onSlot,
      AdbChannel.close]
  | handleMessage env msg payload =>
    simp only [SessionOp.step, sessionHandleMessage_channels, SessionOp.onSlot]
    split_ifs <;> simp_all
  | disconnect =>
    have hj : j < conn.channels.count := hlt
    simp only [SessionOp.step, sessionDisconnect, closeChannels_getElem?, h, Option.map_some,
      List.mem_range, if_pos hj, SessionOp.onSlot, AdbChannel.close]

/-- A slot that an operation fills holds an opening channel without a remote id. -/
theorem step_fresh (op : SessionOp) {conn : AdbConnection} {j : ℕ} {c : AdbChannel}
    (h : conn.channels.slots[j]? = none) (h' : (op.step conn).channels.slots[j]? = some c) :
    c.state = .opening ∧ c.remoteId = 0 := by
  have hle : conn.channels.slots.length ≤ j := List.getElem?_eq_none_iff.1 h
  cases op with
  | openChannel service sendRet =>
    rcases sessionOpenChannel_slots conn service sendRet with hs | hs
    · simp [SessionOp.step, hs, h] at h'
    · rw [SessionOp.step, hs, List.getElem?_append_right hle, List.getElem?_singleton] at h'
      split_ifs at h' with hj
      obtain rfl := Option.some.inj h'
      exact ⟨rfl, rfl⟩
  | closeChannel slot => simp [SessionOp.step, sessionCloseChannel_getElem?, h] at h'
  | handleMessage env msg payload =>
    simp only [SessionOp.step, sessionHandleMessage_channels] at h'
    split_ifs at h' <;> simp_all
  | disconnect => simp [SessionOp.step, sessionDisconnect, closeChannels_getElem?, h] at h'

/-! ## Local ids -/

/-- The local ids are distinct and below the next one, which leaves room for `n` more. -/
structure FreshIds (n : ℕ) (conn : AdbConnection) : Prop where
  nodup : (conn.channels.slots.map AdbChannel.localId).Nodup
  below : ∀ l ∈ conn.channels.slots.map AdbChannel.localId, l.toNat < conn.nextLocalId.toNat
  room : conn.nextLocalId.toNat + n < 2 ^ 32

theorem freshIds_initial {n : ℕ} (h : n + 1 < 2 ^ 32) : FreshIds n AdbConnection.initial where
  nodup := List.nodup_nil
  below := by simp [AdbConnection.initial, ChannelTable.empty]
  room := by
    simp only [AdbConnection.initial, UInt32.toNat_one]
    omega

/-- An open takes one id. -/
theorem FreshIds.openChannel {n : ℕ} {conn : AdbConnection} (h : FreshIds (n + 1) conn)
    (service : List UInt8) (sendRet : ℤ) :
    FreshIds n (sessionOpenChannel conn service sendRet).1 := by
  have hroom := h.room
  have hnext : (conn.nextLocalId + 1).toNat = conn.nextLocalId.toNat + 1 := by
    rw [UInt32.toNat_add, UInt32.toNat_one]
    exact Nat.mod_eq_of_lt (by omega)
  unfold sessionOpenChannel
  split_ifs
  · exact ⟨h.nodup, fun l hl => by simp only [hnext]; exact Nat.lt_succ_of_lt (h.below l hl),
      by simp only [hnext]; omega⟩
  · refine ⟨?_, fun l hl => ?_, by simp only [hnext]; omega⟩
    · simp only [ChannelTable.slots_push, List.map_append, List.map_cons, List.map_nil]
      refine h.nodup.append (List.nodup_singleton _) ?_
      intro l hl hl'
      rw [List.mem_singleton.1 hl'] at hl
      exact absurd (h.below _ hl) (lt_irrefl _)
    · simp only [ChannelTable.slots_push, List.map_append, List.mem_append, List.map_cons,
        List.map_nil, List.mem_singleton] at hl
      simp only [hnext]
      rcases hl with hl | rfl
      · exact Nat.lt_succ_of_lt (h.below l hl)
      · exact Nat.lt_succ_self _
  · exact ⟨h.nodup, h.below, Nat.lt_of_succ_lt hroom⟩

theorem sessionCloseChannel_nextLocalId (conn : AdbConnection) (i : ℕ) :
    (sessionCloseChannel conn i).1.nextLocalId = conn.nextLocalId := by
  unfold sessionCloseChannel
  split
  · rfl
  · split_ifs <;> rfl

theorem closeChannels_nextLocalId (conn : AdbConnection) (is : List ℕ) :
    (closeChannels conn is).1.nextLocalId = conn.nextLocalId := by
  induction is generalizing conn with
  | nil => rfl
  | cons i is ih => rw [closeChannels, ih, sessionCloseChannel_nextLocalId]

theorem closeChannels_localIds (conn : AdbConnection) (is : List ℕ) :
    (closeChannels conn is).1.channels.slots.map AdbChannel.localId =
      conn.channels.slots.map AdbChannel.localId := by
  apply List.ext_getElem?
  intro j
  rw [List.getElem?_map, List.getElem?_map, closeChannels_getElem?, Option.map_map]
  congr 1
  funext c
  simp only [Function.comp_apply]
  split_ifs <;> rfl

theorem sessionHandleMessage_localIds (env : HandleEnv) (conn : AdbConnection) (msg : AdbMessage)
    (payload : List UInt8) :
    (sessionHandleMessage env conn msg payload).conn.channels.slots.map AdbChannel.localId =
      conn.channels.slots.map AdbChannel.localId := by
  rw [sessionHandleMessage_channels]
  split_ifs
  · exact ChannelTable.map_localId_modify _ _ fun _ => rfl
  · exact ChannelTable.map_localId_modify _ _ fun _ => rfl
  · rfl

theorem FreshIds.congr {n : ℕ} {conn conn' : AdbConnection} (h : FreshIds n conn)
    (hids : conn'.channels.slots.map AdbChannel.localId =
      conn.channels.slots.map AdbChannel.localId)
    (hnext : conn'.nextLocalId = conn.nextLocalId) : FreshIds n conn' :=
  ⟨hids ▸ h.nodup, by rw [hids, hnext]; exact h.below, hnext ▸ h.room⟩

/-- The operations that take a local id. -/
def SessionOp.opens : SessionOp → Bool
  | openChannel _ _ => true
  | _ => false

theorem FreshIds.step {n : ℕ} {conn : AdbConnection} (op : SessionOp)
    (h : FreshIds (n + op.opens.toNat) conn) : FreshIds n (op.step conn) := by
  cases op with
  | openChannel service sendRet => exact FreshIds.openChannel h service sendRet
  | closeChannel slot =>
    refine FreshIds.congr h ?_ (sessionCloseChannel_nextLocalId conn slot)
    exact closeChannels_localIds conn [slot]
  | handleMessage env msg payload =>
    exact FreshIds.congr h (sessionHandleMessage_localIds env conn msg payload)
      (sessionHandleMessage_nextLocalId env conn msg payload)
  | disconnect =>
    exact FreshIds.congr h (closeChannels_localIds conn _) (closeChannels_nextLocalId conn _)

/-- On a new connection the local ids stay distinct for the first `2 ^ 32 - 1` opens. -/
theorem freshIds_final {n : ℕ} {ops : List SessionOp}
    (h : n + ops.countP SessionOp.opens + 1 < 2 ^ 32) :
    FreshIds n (final SessionOp.step .initial ops) := by
  induction ops using List.reverseRecOn generalizing n with
  | nil => exact freshIds_initial (by simpa using h)
  | append_singleton ops op ih =>
    rw [final_append_singleton]
    refine FreshIds.step op (ih ?_)
    rw [List.countP_append, List.countP_singleton] at h
    cases hop : op.opens <;> simp [hop] at h ⊢ <;> omega

/-! ## Monotone steps -/

/-- The order of the channel states. -/
def AdbChanState.rank : AdbChanState → ℕ
  | .opening => 0
  | .open => 1
  | .closing => 2
  | .closed => 3

/-- A channel moves on: its state does not go back, and a remote id stays. -/
structure AdbChannel.Advances (c c' : AdbChannel) : Prop where
  state : c.state.rank ≤ c'.state.rank
  remoteId : c.remoteId ≠ 0 → c'.remoteId = c.remoteId

theorem AdbChannel.Advances.refl (c : AdbChannel) : c.Advances c := ⟨le_rfl, fun _ => rfl⟩

theorem AdbChannel.advances_close (c : AdbChannel) : c.Advances c.close := by
  refine ⟨?_, fun _ => rfl⟩
  cases hc : c.state <;> simp [AdbChannel.close, AdbChanState.rank]

theorem AdbChannel.advances_bind_iff (c : AdbChannel) (remoteId : UInt32) :
    c.Advances (c.bind remoteId) ↔
      (c.state = .opening ∨ c.state = .open) ∧ (c.remoteId = 0 ∨ c.remoteId = remoteId) := by
  constructor
  · rintro ⟨hs, hr⟩
    refine ⟨?_, or_iff_not_imp_left.2 fun h => (hr h).symm⟩
    cases hc : c.state <;> simp [AdbChannel.bind, AdbChanState.rank, hc] at hs ⊢
  · rintro ⟨hs, hr⟩
    refine ⟨?_, fun h => (hr.resolve_left h).symm⟩
    rcases hs with hs | hs <;> simp [AdbChannel.bind, AdbChanState.rank, hs]

/-- Every slot of a connection moves on in a step, and new slots start at the beginning. -/
structure SlotsAdvance (before after : AdbConnection) : Prop where
  advances : ∀ (j : ℕ) (c : AdbChannel), before.channels.slots[j]? = some c →
    ∃ c', after.channels.slots[j]? = some c' ∧ c.Advances c'
  fresh : ∀ (j : ℕ) (c' : AdbChannel), before.channels.slots[j]? = none →
    after.channels.slots[j]? = some c' →
    c'.state = .opening ∧ c'.remoteId = 0

/-- An `OPEN` or `OKAY` message names, with `arg1`, no channel that is past open or bound to another
remote id than `arg0`. Every other operation qualifies. -/
def SessionOp.KeepsBinding (conn : AdbConnection) : SessionOp → Prop
  | handleMessage _ msg _ =>
      msg.command = ADB_OPEN ∨ msg.command = ADB_OKAY →
        ∀ c, conn.channels.slots[conn.channels.slotOf msg.arg1]? = some c →
          (c.state = .opening ∨ c.state = .open) ∧ (c.remoteId = 0 ∨ c.remoteId = msg.arg0)
  | _ => True

/-- One step moves every slot on exactly when it keeps the binding of the slot it names. -/
theorem keepsBinding_iff (op : SessionOp) (conn : AdbConnection) :
    SlotsAdvance conn (op.step conn) ↔ op.KeepsBinding conn := by
  constructor
  · intro h
    cases op with
    | handleMessage env msg payload =>
      intro hcmd c hc
      obtain ⟨c', hc', hadv⟩ := h.advances _ c hc
      rw [step_getElem? _ hc, SessionOp.onSlot, if_pos hcmd, if_pos rfl, Option.some.injEq] at hc'
      subst hc'
      exact (c.advances_bind_iff msg.arg0).1 hadv
    | _ => trivial
  · intro h
    refine ⟨fun j c hc => ⟨_, step_getElem? op hc, ?_⟩, fun j c' => step_fresh op⟩
    cases op with
    | openChannel service sendRet => exact .refl c
    | closeChannel slot =>
      simp only [SessionOp.onSlot]
      split_ifs
      · exact c.advances_close
      · exact .refl c
    | handleMessage env msg payload =>
      simp only [SessionOp.onSlot]
      split_ifs with hcmd hj _ hj
      · subst hj
        exact (c.advances_bind_iff msg.arg0).2 (h hcmd c hc)
      · exact .refl c
      · exact c.advances_close
      · exact .refl c
      · exact .refl c
    | disconnect => exact c.advances_close

/-! ## Runs -/

/-- The slot holds a closed channel. -/
def SlotClosed (j : ℕ) (conn : AdbConnection) : Prop :=
  ∃ c, conn.channels.slots[j]? = some c ∧ c.state = .closed

theorem SlotsAdvance.slotClosed {before after : AdbConnection} (h : SlotsAdvance before after)
    {j : ℕ} (hc : SlotClosed j before) : SlotClosed j after := by
  obtain ⟨c, hj, hstate⟩ := hc
  obtain ⟨c', hj', hadv⟩ := h.advances j c hj
  have hrank := hadv.state
  rw [hstate] at hrank
  refine ⟨c', hj', ?_⟩
  cases hs : c'.state <;> simp [hs, AdbChanState.rank] at hrank ⊢

theorem closeSends_of_slotClosed {conn : AdbConnection} {j : ℕ} (h : SlotClosed j conn) :
    closeSends conn j = [] := by
  obtain ⟨c, hj, hstate⟩ := h
  simp [closeSends_eq, hj, hstate]

theorem closeSends_length_le (conn : AdbConnection) (j : ℕ) : (closeSends conn j).length ≤ 1 := by
  rw [closeSends_eq]
  split
  · simp
  · split_ifs <;> simp

/-- An operation that sends a `CLSE` for a slot leaves it closed. -/
theorem slotClosed_of_clses {op : SessionOp} {conn : AdbConnection} {j : ℕ}
    (h : op.clses j conn ≠ []) : SlotClosed j (op.step conn) := by
  have hsome : closeSends conn j ≠ [] → ∃ c, conn.channels.slots[j]? = some c := by
    intro hne
    rw [closeSends_eq] at hne
    cases hj : conn.channels.slots[j]? with
    | none => simp [hj] at hne
    | some c => exact ⟨c, rfl⟩
  cases op with
  | openChannel service sendRet => exact absurd rfl h
  | closeChannel slot =>
    rw [SessionOp.clses] at h
    split_ifs at h with hslot
    · obtain ⟨c, hj⟩ := hsome h
      refine ⟨_, step_getElem? _ hj, ?_⟩
      simp [SessionOp.onSlot, hslot, AdbChannel.close]
    · exact absurd rfl h
  | handleMessage env msg payload => exact absurd rfl h
  | disconnect =>
    rw [SessionOp.clses] at h
    split_ifs at h
    · obtain ⟨c, hj⟩ := hsome h
      exact ⟨_, step_getElem? _ hj, rfl⟩
    · exact absurd rfl h

theorem clses_of_slotClosed {op : SessionOp} {conn : AdbConnection} {j : ℕ}
    (h : SlotClosed j conn) : op.clses j conn = [] := by
  cases op <;> simp [SessionOp.clses, closeSends_of_slotClosed h]

theorem clses_length_le (op : SessionOp) (conn : AdbConnection) (j : ℕ) :
    (op.clses j conn).length ≤ 1 := by
  have hle := closeSends_length_le conn j
  cases op with
  | openChannel service sendRet => exact Nat.zero_le 1
  | closeChannel slot =>
    rw [SessionOp.clses]
    split_ifs
    · exact hle
    · exact Nat.zero_le 1
  | handleMessage env msg payload => exact Nat.zero_le 1
  | disconnect =>
    rw [SessionOp.clses]
    split_ifs
    · exact hle
    · exact Nat.zero_le 1

/-- In a run whose steps keep the bindings of the slots they name, a slot sends at most one
`CLSE`. -/
theorem clses_length_le_one {conn : AdbConnection} {ops : List SessionOp}
    (h : ∀ x ∈ visits SessionOp.step conn ops, x.2.KeepsBinding x.1) (j : ℕ) :
    (emits SessionOp.step (SessionOp.clses j) conn ops).length ≤ 1 :=
  emits_length_le_one (SlotClosed j)
    (fun x hx hc => ((keepsBinding_iff x.2 x.1).2 (h x hx)).slotClosed hc)
    (fun _ _ hc => clses_of_slotClosed hc) (fun x _ => clses_length_le x.2 x.1 j)
    fun _ _ hne => slotClosed_of_clses hne

/-- In a run of operations in any order every slot only moves on, and sends at most one `CLSE`, if
and only if no step is an `OPEN` or `OKAY` message for a slot that is past open or bound to another
remote id. -/
theorem slots_advance_iff (conn : AdbConnection) (ops : List SessionOp) :
    ((∀ x ∈ visits SessionOp.step conn ops, SlotsAdvance x.1 (x.2.step x.1)) ∧
        ∀ j, (emits SessionOp.step (SessionOp.clses j) conn ops).length ≤ 1) ↔
      ∀ x ∈ visits SessionOp.step conn ops, x.2.KeepsBinding x.1 := by
  constructor
  · rintro ⟨hadv, -⟩ x hx
    exact (keepsBinding_iff x.2 x.1).1 (hadv x hx)
  · intro h
    exact ⟨fun x hx => (keepsBinding_iff x.2 x.1).2 (h x hx), clses_length_le_one h⟩

/-- An `OKAY` in which a device calls the channel `7` for the channel `1` of the host. -/
def okayMessage : SessionOp :=
  .handleMessage .idle ⟨ADB_OKAY, 7, 1, 0, 0, ADB_OKAY ^^^ 0xffffffff⟩ []

/-- A channel is opened, acknowledged and closed, and then an `OKAY` for an earlier `WRTE`
arrives. -/
def lateOkay : List SessionOp := [.openChannel [] 0, okayMessage, .closeChannel 0, okayMessage]

/-- The late `OKAY` opens the closed channel again, and the next close sends a second `CLSE`. -/
theorem lateOkay_reopens :
    (final SessionOp.step .initial (lateOkay.take 3)).channels.slots.map AdbChannel.state =
        [.closed] ∧
      (final SessionOp.step .initial lateOkay).channels.slots.map AdbChannel.state = [.open] ∧
      (emits SessionOp.step (SessionOp.clses 0) .initial
        (lateOkay ++ [.closeChannel 0])).length = 2 := by
  decide

end Autoscrcpy
