import Autoscrcpy.Adb.Send

/-!
# ADB connections and their channels

The connection structure of `adb.h` and the local operations of `session.c`: opening and closing a
channel, the first `CNXN`, and the disconnect. A slot is an index into the channel table; the table
is the part of `channels[]` below `channel_count`, and it never outgrows `MAX_CHANNELS`.

Every operation returns the connection it leaves and the messages it hands to
`adb_send_msg_conn`.
-/

namespace Autoscrcpy

abbrev MAX_CHANNELS : ℕ := 64
abbrev SERVICE_NAME_MAX : ℕ := 256
abbrev BANNER_MAX : ℕ := 512

/-- `adb_conn_state_t`. -/
inductive AdbConnState where
  | disconnected
  | connecting
  | authSent
  | authRsapubSent
  | connected
  | tlsNegotiating
  deriving DecidableEq, Repr

/-- `adb_chan_state_t`. -/
inductive AdbChanState where
  | opening
  | open
  | closing
  | closed
  deriving DecidableEq, Repr

/-- `adb_channel_t`; `service` is the text before the terminator. -/
structure AdbChannel where
  localId : UInt32
  remoteId : UInt32
  service : List UInt8
  state : AdbChanState
  deriving DecidableEq, Repr

/-! ## The channel table -/

/-- The channels in use. -/
structure ChannelTable where
  slots : List AdbChannel
  bounded : slots.length ≤ MAX_CHANNELS
  deriving DecidableEq

namespace ChannelTable

def empty : ChannelTable := ⟨[], Nat.zero_le _⟩

/-- `channel_count`. -/
def count (t : ChannelTable) : ℕ := t.slots.length

def modify (t : ChannelTable) (i : ℕ) (f : AdbChannel → AdbChannel) : ChannelTable :=
  ⟨t.slots.modify i f, by simpa using t.bounded⟩

def push (t : ChannelTable) (c : AdbChannel) (h : t.count < MAX_CHANNELS) : ChannelTable :=
  ⟨t.slots ++ [c], by
    rw [List.length_append]
    exact Nat.succ_le_of_lt h⟩

/-- The first slot with the local id; `count` when there is none. -/
def slotOf (t : ChannelTable) (localId : UInt32) : ℕ :=
  t.slots.findIdx fun c => c.localId = localId

/-- The first slot with both ids; `count` when there is none. -/
def slotOfBoth (t : ChannelTable) (localId remoteId : UInt32) : ℕ :=
  t.slots.findIdx fun c => c.localId = localId ∧ c.remoteId = remoteId

@[simp] theorem slots_modify (t : ChannelTable) (i : ℕ) (f : AdbChannel → AdbChannel) :
    (t.modify i f).slots = t.slots.modify i f := rfl

@[simp] theorem slots_push (t : ChannelTable) (c : AdbChannel) (h : t.count < MAX_CHANNELS) :
    (t.push c h).slots = t.slots ++ [c] := rfl

@[simp] theorem count_modify (t : ChannelTable) (i : ℕ) (f : AdbChannel → AdbChannel) :
    (t.modify i f).count = t.count := by simp [count]

theorem ext_slots {t u : ChannelTable} (h : t.slots = u.slots) : t = u := by
  cases t
  cases u
  cases h
  rfl

/-- A slot found by its local id holds a channel with that id. -/
theorem localId_of_slotOf {t : ChannelTable} {localId : UInt32} {c : AdbChannel}
    (h : t.slots[t.slotOf localId]? = some c) : c.localId = localId := by
  obtain ⟨hlt, rfl⟩ := List.getElem?_eq_some_iff.1 h
  exact of_decide_eq_true (List.findIdx_getElem (w := hlt))

/-- With distinct local ids, the slot of a channel is found by its local id. -/
theorem slotOf_of_nodup {t : ChannelTable} (hd : (t.slots.map AdbChannel.localId).Nodup) {i : ℕ}
    {c : AdbChannel} (h : t.slots[i]? = some c) : t.slotOf c.localId = i := by
  obtain ⟨hlt, rfl⟩ := List.getElem?_eq_some_iff.1 h
  have hex : t.slotOf (t.slots[i]).localId < t.slots.length :=
    List.findIdx_lt_length_of_exists ⟨_, List.getElem_mem hlt, by simp⟩
  have hid := localId_of_slotOf (List.getElem?_eq_getElem hex)
  have hex' : t.slotOf (t.slots[i]).localId < (t.slots.map AdbChannel.localId).length := by
    simpa using hex
  have hlt' : i < (t.slots.map AdbChannel.localId).length := by simpa using hlt
  have heq : (t.slots.map AdbChannel.localId)[t.slotOf (t.slots[i]).localId] =
      (t.slots.map AdbChannel.localId)[i] := by simpa using hid
  exact hd.getElem_inj_iff.1 heq

theorem slotOf_eq_iff {t : ChannelTable} (hd : (t.slots.map AdbChannel.localId).Nodup) {i : ℕ}
    {c : AdbChannel} (h : t.slots[i]? = some c) {localId : UInt32} :
    t.slotOf localId = i ↔ c.localId = localId := by
  constructor
  · rintro rfl
    exact localId_of_slotOf h
  · rintro rfl
    exact slotOf_of_nodup hd h

theorem map_localId_modify (t : ChannelTable) (i : ℕ) {f : AdbChannel → AdbChannel}
    (hf : ∀ c, (f c).localId = c.localId) :
    (t.modify i f).slots.map AdbChannel.localId = t.slots.map AdbChannel.localId := by
  apply List.ext_getElem?
  intro j
  rw [slots_modify, List.getElem?_map, List.getElem?_map, List.getElem?_modify]
  cases t.slots[j]? <;> split_ifs <;> simp [hf]

end ChannelTable

/-! ## Connections -/

/-- `adb_connection_t`: `fdOpen` and `tls` say whether there is a socket and a TLS context, and
`onShellOutput` whether that callback is set. -/
structure AdbConnection where
  fdOpen : Bool
  state : AdbConnState
  channels : ChannelTable
  nextLocalId : UInt32
  banner : List UInt8
  protocolVersion : Int32
  maxPayload : ℕ
  tls : Bool
  cnxnSent : Bool
  stlsSent : Bool
  onShellOutput : Bool
  deriving DecidableEq

attribute [ext] AdbConnection

/-- The connection of `adb_connect` once the socket is connected. -/
def AdbConnection.initial : AdbConnection where
  fdOpen := true
  state := .connecting
  channels := .empty
  nextLocalId := 1
  banner := List.replicate BANNER_MAX 0
  protocolVersion := 0
  maxPayload := ADB_MAX_PAYLOAD
  tls := false
  cnxnSent := false
  stlsSent := false
  onShellOutput := false

/-- A message handed to `adb_send_msg_conn`, which takes the TLS path when there is a context. -/
structure Sent where
  tls : Bool
  msg : SendArgs
  deriving DecidableEq, Repr

namespace AdbConnection

def modifyChannel (conn : AdbConnection) (i : ℕ) (f : AdbChannel → AdbChannel) : AdbConnection :=
  { conn with channels := conn.channels.modify i f }

@[simp] theorem channels_modifyChannel (conn : AdbConnection) (i : ℕ)
    (f : AdbChannel → AdbChannel) :
    (conn.modifyChannel i f).channels = conn.channels.modify i f := rfl

/-- `adb_send_msg_conn` with a payload. -/
def send (conn : AdbConnection) (cmd arg0 arg1 : UInt32) (data : List UInt8)
    (skipChecksum : Bool) : Sent :=
  ⟨conn.tls, ⟨cmd, arg0, arg1, some data, UInt32.ofNat data.length, skipChecksum⟩⟩

/-- `adb_send_msg_conn` with a null payload. -/
def sendEmpty (conn : AdbConnection) (cmd arg0 arg1 : UInt32) (skipChecksum : Bool) : Sent :=
  ⟨conn.tls, ⟨cmd, arg0, arg1, none, 0, skipChecksum⟩⟩

theorem send_valid (conn : AdbConnection) (cmd arg0 arg1 : UInt32) (data : List UInt8)
    (skipChecksum : Bool) : (conn.send cmd arg0 arg1 data skipChecksum).msg.Valid where
  nonnull := Or.inl rfl
  readable := by
    rintro buf hbuf
    obtain rfl : data = buf := Option.some.inj hbuf
    show (UInt32.ofNat data.length).toNat ≤ data.length
    rw [UInt32.toNat_ofNat']
    exact Nat.mod_le ..

theorem sendEmpty_valid (conn : AdbConnection) (cmd arg0 arg1 : UInt32) (skipChecksum : Bool) :
    (conn.sendEmpty cmd arg0 arg1 skipChecksum).msg.Valid where
  nonnull := Or.inr rfl
  readable := by
    rintro buf hbuf
    cases hbuf

end AdbConnection

/-! ## Local operations -/

/-- `ADB_BANNER` with its terminator. -/
def adbBanner : List UInt8 := "host::features=shell_v2".toUTF8.toList ++ [0]

/-- `session_send_cnxn`. -/
def sessionSendCnxn (conn : AdbConnection) : AdbConnection × List Sent :=
  if conn.cnxnSent then (conn, [])
  else ({ conn with cnxnSent := true, state := .authSent },
    [conn.send ADB_CNXN ADB_VERSION (UInt32.ofNat ADB_MAX_PAYLOAD) adbBanner true])

/-- The channel that `session_open_channel` puts into the next slot. -/
def newChannel (localId : UInt32) (service : List UInt8) : AdbChannel where
  localId := localId
  remoteId := 0
  service := service.take (SERVICE_NAME_MAX - 1)
  state := .opening

/-- `session_open_channel` for a service text, with the result of its send: the connection, what was
sent, and the slot of the returned channel (`none` for the null pointer). -/
def sessionOpenChannel (conn : AdbConnection) (service : List UInt8) (sendRet : ℤ) :
    AdbConnection × List Sent × Option ℕ :=
  if h : conn.channels.count < MAX_CHANNELS then
    let chan := newChannel conn.nextLocalId service
    let msg := conn.send ADB_OPEN chan.localId 0 (service ++ [0]) true
    -- a failed send takes the slot back, but not the local id
    if sendRet < 0 then ({ conn with nextLocalId := conn.nextLocalId + 1 }, [msg], none)
    else
      ({ conn with nextLocalId := conn.nextLocalId + 1, channels := conn.channels.push chan h },
        [msg], some conn.channels.count)
  else (conn, [], none)

/-- `session_close_channel` on the channel in a slot. -/
def sessionCloseChannel (conn : AdbConnection) (i : ℕ) : AdbConnection × List Sent :=
  match conn.channels.slots[i]? with
  | none => (conn, [])
  | some chan =>
      if chan.state = .closed then (conn, [])
      else
        (conn.modifyChannel i fun c => { c with state := .closed },
          if chan.remoteId ≠ 0 then [conn.sendEmpty ADB_CLSE chan.localId chan.remoteId true]
          else [])

/-- Closing the channels in a list of slots, one after the other. -/
def closeChannels (conn : AdbConnection) : List ℕ → AdbConnection × List Sent
  | [] => (conn, [])
  | i :: is =>
      let r := sessionCloseChannel conn i
      let rs := closeChannels r.1 is
      (rs.1, r.2 ++ rs.2)

/-- `session_disconnect`. -/
def sessionDisconnect (conn : AdbConnection) : AdbConnection × List Sent :=
  let r := closeChannels conn (List.range conn.channels.count)
  ({ r.1 with fdOpen := false, state := .disconnected }, r.2)

/-! ## What the local operations do to a slot -/

/-- The `CLSE` that closing a slot sends, if any. -/
def closeSends (conn : AdbConnection) (i : ℕ) : List Sent := (sessionCloseChannel conn i).2

/-- Closing a channel changes its state only, and no other channel. -/
theorem sessionCloseChannel_getElem? (conn : AdbConnection) (i j : ℕ) :
    (sessionCloseChannel conn i).1.channels.slots[j]? =
      (conn.channels.slots[j]?).map fun c => if i = j then { c with state := .closed } else c := by
  unfold sessionCloseChannel
  rcases hi : conn.channels.slots[i]? with _ | c
  · by_cases hij : i = j
    · subst hij
      simp [hi]
    · simp [hij]
  · by_cases hc : c.state = .closed
    · simp only [hc, if_true]
      by_cases hij : i = j
      · subst hij
        simp only [hi, Option.map_some, if_true, Option.some.injEq]
        rw [← hc]
      · simp [hij]
    · simp only [hc, if_false, AdbConnection.channels_modifyChannel, ChannelTable.slots_modify,
        List.getElem?_modify]
      split_ifs <;> simp

theorem closeChannels_getElem? (conn : AdbConnection) (is : List ℕ) (j : ℕ) :
    (closeChannels conn is).1.channels.slots[j]? =
      (conn.channels.slots[j]?).map fun c => if j ∈ is then { c with state := .closed } else c := by
  induction is generalizing conn with
  | nil => simp [closeChannels]
  | cons i is ih =>
    simp only [closeChannels, ih, sessionCloseChannel_getElem?, Option.map_map, List.mem_cons]
    congr 1
    funext c
    simp only [Function.comp_apply]
    by_cases hij : i = j
    · subst hij
      simp
    · simp [hij, Ne.symm hij]

theorem closeSends_eq (conn : AdbConnection) (i : ℕ) :
    closeSends conn i =
      match conn.channels.slots[i]? with
      | none => []
      | some c =>
          if c.state = .closed ∨ c.remoteId = 0 then []
          else [conn.sendEmpty ADB_CLSE c.localId c.remoteId true] := by
  unfold closeSends sessionCloseChannel
  rcases conn.channels.slots[i]? with _ | c
  · rfl
  · by_cases hc : c.state = .closed <;> by_cases hr : c.remoteId = 0 <;> simp [hc, hr]

@[simp] theorem sessionCloseChannel_tls (conn : AdbConnection) (i : ℕ) :
    (sessionCloseChannel conn i).1.tls = conn.tls := by
  unfold sessionCloseChannel
  split
  · rfl
  · split_ifs <;> rfl

/-- Closing one slot does not change what closing another one sends. -/
theorem closeSends_of_ne (conn : AdbConnection) {i j : ℕ} (h : i ≠ j) :
    closeSends (sessionCloseChannel conn i).1 j = closeSends conn j := by
  simp only [closeSends_eq, sessionCloseChannel_getElem?, if_neg h, Option.map_id',
    AdbConnection.sendEmpty, sessionCloseChannel_tls]

/-- A disconnect sends what closing each slot sends. -/
theorem closeChannels_sends (conn : AdbConnection) {is : List ℕ} (h : is.Nodup) :
    (closeChannels conn is).2 = is.flatMap (closeSends conn) := by
  induction is generalizing conn with
  | nil => rfl
  | cons i is ih =>
    obtain ⟨hi, hnd⟩ := List.nodup_cons.1 h
    simp only [closeChannels, ih _ hnd, List.flatMap_cons]
    congr 1
    refine List.flatMap_congr fun j hj => closeSends_of_ne conn ?_
    rintro rfl
    exact hi hj

/-! ## Changes that change nothing -/

theorem modifyChannel_eq_self_iff {conn : AdbConnection} {i : ℕ} {f : AdbChannel → AdbChannel} :
    conn.modifyChannel i f = conn ↔ ∀ c, conn.channels.slots[i]? = some c → f c = c := by
  constructor
  · intro h c hc
    have hi := congrArg (fun u : AdbConnection => u.channels.slots[i]?) h
    simp only [AdbConnection.channels_modifyChannel, ChannelTable.slots_modify,
      List.getElem?_modify, if_true, hc] at hi
    exact Option.some.inj hi
  · intro h
    have hslots : conn.channels.modify i f = conn.channels := by
      refine ChannelTable.ext_slots (List.ext_getElem? fun m => ?_)
      rw [ChannelTable.slots_modify, List.getElem?_modify]
      split_ifs with hm
      · subst hm
        cases hc : conn.channels.slots[i]? with
        | none => rfl
        | some c => exact congrArg some (h c hc)
      · simp
    rw [AdbConnection.modifyChannel, hslots]

end Autoscrcpy
