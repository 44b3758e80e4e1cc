import Autoscrcpy.Adb.Session

/-!
# The `CLSE` of a peer

`session_close_channel` sends its own id in `arg0` and the id of the other side in `arg1`, and
`session_handle_message` looks for the channel whose local id is `arg0`. `peer_clse_iff` says when
it closes the channel that the peer has closed.
-/

namespace Autoscrcpy

/-- `e` is the other end of the channel `c`: each side's id is the remote id of the other. -/
structure AdbChannel.OtherEnd (c e : AdbChannel) : Prop where
  localId : e.localId = c.remoteId
  remoteId : e.remoteId = c.localId

/-- Closing two slots comes to the same when they are one slot or both hold nothing to close. -/
theorem modifyChannel_close_eq_iff {conn : AdbConnection} {i k : ℕ} {c : AdbChannel}
    (hc : conn.channels.slots[i]? = some c) :
    conn.modifyChannel k AdbChannel.close = conn.modifyChannel i AdbChannel.close ↔
      k = i ∨ c.state = .closed ∧
        ∀ c', conn.channels.slots[k]? = some c' → c'.state = .closed := by
  constructor
  · intro h
    by_cases hki : k = i
    · exact Or.inl hki
    · have hslots := congrArg (fun u : AdbConnection => u.channels.slots) h
      simp only [AdbConnection.channels_modifyChannel, ChannelTable.slots_modify] at hslots
      have hi := congrArg (fun l => l[i]?) hslots
      have hk := congrArg (fun l => l[k]?) hslots
      simp only [List.getElem?_modify, if_neg hki, if_neg (Ne.symm hki), if_true, hc] at hi hk
      refine Or.inr ⟨?_, fun c' hc' => ?_⟩
      · exact congrArg AdbChannel.state (Option.some.inj hi)
      · rw [hc'] at hk
        exact (congrArg AdbChannel.state (Option.some.inj hk)).symm
  · rintro (rfl | ⟨hclosed, hall⟩)
    · rfl
    · have hk : conn.modifyChannel k AdbChannel.close = conn :=
        closeChannel_eq_self_iff.2 hall
      have hi : conn.modifyChannel i AdbChannel.close = conn := by
        refine closeChannel_eq_self_iff.2 fun c' hc' => ?_
        obtain rfl := Option.some.inj (hc.symm.trans hc')
        exact hclosed
      rw [hk, hi]

/-- A peer closes its end `e` of the channel in slot `i`: its `CLSE` carries the id of the peer in
`arg0`. It closes that channel, and changes nothing else, if and only if both sides number the
channel alike, or there was nothing left to close: the channel was closed, and so was every channel
whose local id is the id of the peer. -/
theorem peer_clse_iff (env : HandleEnv) {conn peer : AdbConnection}
    (hd : (conn.channels.slots.map AdbChannel.localId).Nodup) {i j : ℕ} {c e : AdbChannel}
    (hc : conn.channels.slots[i]? = some c) (he : peer.channels.slots[j]? = some e)
    (hend : c.OtherEnd e) {x : Sent} (hx : x ∈ closeSends peer j) (payload : List UInt8) :
    (sessionHandleMessage env conn x.msg.packet.hdr payload).conn =
        conn.modifyChannel i AdbChannel.close ↔
      c.remoteId = c.localId ∨
        c.state = .closed ∧
          ∀ c' ∈ conn.channels.slots, c'.localId = c.remoteId → c'.state = .closed := by
  have hmsg : x = peer.sendEmpty ADB_CLSE e.localId e.remoteId true := by
    rw [closeSends_eq, he] at hx
    simp only at hx
    split_ifs at hx
    · exact absurd hx List.not_mem_nil
    · exact List.mem_singleton.1 hx
  have hhandle : (sessionHandleMessage env conn x.msg.packet.hdr payload).conn =
      conn.modifyChannel (conn.channels.slotOf c.remoteId) AdbChannel.close := by
    rw [hmsg, ← hend.localId]
    rfl
  rw [hhandle, modifyChannel_close_eq_iff hc]
  refine or_congr ?_ (and_congr_right fun _ => ?_)
  · constructor
    · intro hslot
      rw [← hslot] at hc
      exact (ChannelTable.localId_of_slotOf hc).symm
    · intro hids
      rw [hids]
      exact ChannelTable.slotOf_of_nodup hd hc
  · constructor
    · intro hall c' hmem hids
      obtain ⟨m, hm⟩ := List.mem_iff_getElem?.1 hmem
      have hslot := ChannelTable.slotOf_of_nodup hd hm
      rw [hids] at hslot
      exact hall c' (by rw [hslot, hm])
    · intro hall c' hc'
      exact hall c' (List.mem_of_getElem? hc') (ChannelTable.localId_of_slotOf hc')

/-- A connection with open channels that have the given pairs of ids. -/
def boundConnection (ids : List (UInt32 × UInt32)) (h : ids.length ≤ MAX_CHANNELS) :
    AdbConnection :=
  { AdbConnection.initial with
    state := .connected
    channels := ⟨ids.map fun x => ⟨x.1, x.2, [], .open⟩, by simpa using h⟩ }

/-- Both sides number the channel `1`. -/
theorem peer_clse_iff_same_ids :
    (sessionHandleMessage .idle (boundConnection [(1, 1)] (by decide))
        ((boundConnection [(1, 1)] (by decide)).sendEmpty ADB_CLSE 1 1 true).msg.packet.hdr
        []).conn =
      (boundConnection [(1, 1)] (by decide)).modifyChannel 0 AdbChannel.close :=
  have hd : ((boundConnection [(1, 1)] (by decide)).channels.slots.map
      AdbChannel.localId).Nodup := by decide
  have hc : (boundConnection [(1, 1)] (by decide)).channels.slots[0]? =
      some ⟨1, 1, [], .open⟩ := rfl
  (peer_clse_iff .idle hd hc hc ⟨rfl, rfl⟩ (by decide) []).2 (Or.inl rfl)

/-- The host numbers its channels `1` and `2`, the device numbers them `2` and `1`. When the device
closes its end of the first one, the host closes the second one. -/
theorem peer_clse_closes_other :
    closeSends (boundConnection [(2, 1), (1, 2)] (by decide)) 0 =
        [(boundConnection [(1, 2), (2, 1)] (by decide)).sendEmpty ADB_CLSE 2 1 true] ∧
      (sessionHandleMessage .idle (boundConnection [(1, 2), (2, 1)] (by decide))
        ((boundConnection [(1, 2), (2, 1)] (by decide)).sendEmpty ADB_CLSE 2 1 true).msg.packet.hdr
        []).conn.channels.slots.map (fun c => (c.localId, c.state)) =
          [(1, .open), (2, .closed)] := by
  decide

end Autoscrcpy
