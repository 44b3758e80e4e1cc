import Autoscrcpy.Control.ControlStream
import Autoscrcpy.Device.ServerStart
import Autoscrcpy.Lib.Runs

/-!
# The control path

A control message goes through three threads: `control_socket_send_msg` writes it into a socketpair
in the parts that `send` takes, `ctrl_sender_thread` reads up to 1 KiB from the other end and sends
it on as a `WRTE`, if the control channel is open at that moment, and the reader thread changes the
channel meanwhile.

`control_path`: in every interleaving nothing is lost, doubled or reordered exactly when the channel
is open at every read of the relay, and the device, which sees the payloads only, then reads the
messages back in the order of the calls.
-/

namespace Autoscrcpy

open PartialWrite

/-! ## The three threads -/

/-- What `control_socket_send_msg` has left to send of its message, the bytes in the socketpair, and
the connection as the reader thread keeps it. -/
structure ControlPath where
  sending : List UInt8
  pipe : List UInt8
  reader : AdbReader

/-- A call of `control_socket_send_msg`, one `send` of its loop that takes up to `k + 1` bytes, one
`recv` of `ctrl_sender_thread` that brings up to `k + 1` bytes, and a message that the reader thread
handles. A would-block is no step. -/
inductive ControlAct where
  | call (m : SentControlMsg)
  | accept (k : ℕ)
  | relay (k : ℕ)
  | handle (x : Incoming)

namespace ControlPath

/-- The bytes that a `recv` into `buf[1024]` brings. -/
def chunk (s : ControlPath) (k : ℕ) : List UInt8 := s.pipe.take (min (k + 1) 1024)

/-- One step; the next call starts when the one before has returned. -/
def step (s : ControlPath) : ControlAct → ControlPath
  | .call m => if s.sending = [] then { s with sending := m.bytes } else s
  | .accept k =>
      { s with sending := s.sending.drop (k + 1), pipe := s.pipe ++ s.sending.take (k + 1) }
  | .relay k => { s with pipe := s.pipe.drop (min (k + 1) 1024) }
  | .handle x => { s with reader := s.reader.step x }

/-- The message whose call starts. -/
def calls (s : ControlPath) : ControlAct → List SentControlMsg
  | .call m => if s.sending = [] then [m] else []
  | _ => []

/-- The bytes that the relay reads. -/
def reads (s : ControlPath) : ControlAct → List UInt8
  | .relay k => s.chunk k
  | _ => []

/-- The messages that the relay passes to `adb_send_msg_conn`. -/
def passes (s : ControlPath) : ControlAct → List Passed
  | .relay k =>
      if h : s.chunk k = [] then []
      else
        ctrlSenderChunk s.reader ⟨s.chunk k, h, (List.length_take_le _ _).trans (min_le_right ..)⟩
  | _ => []

/-- The payloads that the device gets. -/
def payloads (s : ControlPath) (a : ControlAct) : List UInt8 :=
  (s.passes a).flatMap fun p => p.sent.msg.payload

/-- The path before anything is sent. -/
def start (r : AdbReader) : ControlPath := ⟨[], [], r⟩

end ControlPath

/-- The `send` calls of one message are those of the loop of `control_socket_send_msg`. -/
theorem controlSocketSendMsg_accepts (s : ControlPath) (ks : List ℕ) :
    let f := controlSocketSendMsg true s.sending (ks.map .accept)
    let s' := Runs.final ControlPath.step s (ks.map .accept)
    s'.pipe = s.pipe ++ f.sent ∧ f.sent ++ s'.sending = s.sending := by
  simp only [controlSocketSendMsg, if_true]
  induction ks generalizing s with
  | nil => cases h : s.sending <;> simp [writeAll, h]
  | cons k ks ih =>
    have hcons : Runs.final ControlPath.step s ((k :: ks).map .accept) =
        Runs.final ControlPath.step (s.step (.accept k)) (ks.map .accept) := rfl
    obtain ⟨hpipe, hrest⟩ := ih (s.step (.accept k))
    have hsent : (writeAll socketSendReact s.sending ((k :: ks).map .accept)).sent =
        s.sending.take (k + 1) ++
          (writeAll socketSendReact (s.step (.accept k)).sending (ks.map .accept)).sent := by
      cases h : s.sending <;> simp [writeAll, ControlPath.step, h]
    rw [hcons, hsent, hpipe, List.append_assoc, hrest]
    exact ⟨List.append_assoc .., List.take_append_drop ..⟩

/-! ## Bytes -/

/-- The control channel is open and bound. -/
def CtrlOpen (r : AdbReader) : Prop :=
  ∃ c, r.channel .ctrl = some c ∧ c.state = .open ∧ c.remoteId ≠ 0

/-- The payload of a `WRTE` for a chunk is the chunk; for a channel that is not open there is none.
-/
theorem ctrlSenderChunk_payload (r : AdbReader) (chunk : ControlChunk) :
    ((ctrlSenderChunk r chunk).flatMap fun p => p.sent.msg.payload) = chunk.data ∧ CtrlOpen r ∨
      ctrlSenderChunk r chunk = [] ∧ ¬ CtrlOpen r := by
  unfold ctrlSenderChunk
  cases hc : r.channel .ctrl with
  | none => exact Or.inr ⟨rfl, by simp [CtrlOpen, hc]⟩
  | some c =>
    dsimp only
    split_ifs with hopen
    · refine Or.inl ⟨?_, c, hc, hopen⟩
      have hlen : (UInt32.ofNat chunk.data.length).toNat = chunk.data.length := by
        rw [UInt32.toNat_ofNat']
        have := chunk.bounded
        exact Nat.mod_eq_of_lt (by omega)
      simp [AdbConnection.pass, AdbConnection.send, SendArgs.payload, hlen]
    · exact Or.inr ⟨rfl, by simpa [CtrlOpen, hc] using hopen⟩

namespace ControlPath

/-- A step passes on what it reads, or nothing. -/
theorem payloads_cases (s : ControlPath) (a : ControlAct) :
    s.payloads a = s.reads a ∨ s.payloads a = [] := by
  cases a with
  | call m => exact Or.inl rfl
  | accept k => exact Or.inl rfl
  | handle x => exact Or.inl rfl
  | relay k =>
    simp only [payloads, passes, reads]
    split_ifs with h
    · exact Or.inr rfl
    · refine (ctrlSenderChunk_payload s.reader _).imp And.left fun hnone => ?_
      rw [hnone.1]
      rfl

/-- What a step reads is passed on exactly when the channel is open or there is nothing to read. -/
theorem payloads_eq_iff (s : ControlPath) (k : ℕ) :
    s.payloads (.relay k) = s.reads (.relay k) ↔ (s.pipe ≠ [] → CtrlOpen s.reader) := by
  have hempty : s.chunk k = [] ↔ s.pipe = [] := by
    rw [chunk, List.take_eq_nil_iff]
    exact or_iff_right (by omega)
  simp only [payloads, passes, reads, ne_eq, ← hempty]
  split_ifs with h
  · simp [h]
  · obtain ⟨hdata, hopen⟩ | ⟨hnone, hnot⟩ := ctrlSenderChunk_payload s.reader
      ⟨s.chunk k, h, (List.length_take_le _ _).trans (min_le_right ..)⟩
    · exact iff_of_true hdata fun _ => hopen
    · rw [hnone]
      exact iff_of_false (Ne.symm h) fun himp => hnot (himp h)

/-- Bytes that a call hands over are in the message that is being sent, in the socketpair, or read.
-/
theorem step_bytes (s : ControlPath) (a : ControlAct) :
    s.reads a ++ ((s.step a).pipe ++ (s.step a).sending) =
      s.pipe ++ s.sending ++ (s.calls a).flatMap SentControlMsg.bytes := by
  cases a with
  | call m =>
    simp only [reads, step, calls]
    split_ifs with h <;> simp [h]
  | accept k => simp [reads, step, calls, List.append_assoc]
  | relay k => simp [reads, step, calls, chunk, ← List.append_assoc]
  | handle x => simp [reads, step, calls]

variable (r : AdbReader) (acts : List ControlAct)

/-- The path after a run. -/
def after : ControlPath := Runs.final step (start r) acts

/-- The messages whose calls started in a run. -/
def called : List SentControlMsg := Runs.emits step calls (start r) acts

/-- The bytes that reached the device in a run. -/
def arrived : List UInt8 := Runs.emits step payloads (start r) acts

/-- The relay reads while the channel is open. -/
def RelaysOpen : Prop :=
  ∀ x ∈ Runs.visits step (start r) acts, ∀ k, x.2 = .relay k → x.1.pipe ≠ [] → CtrlOpen x.1.reader

theorem reads_append :
    Runs.emits step reads (start r) acts ++ ((after r acts).pipe ++ (after r acts).sending) =
      (called r acts).flatMap SentControlMsg.bytes := by
  rw [after, called]
  induction acts using List.reverseRecOn with
  | nil => rfl
  | append_singleton acts a ih =>
    rw [Runs.emits_append_singleton, Runs.emits_append_singleton, Runs.final_append_singleton,
      List.append_assoc, step_bytes, ← List.append_assoc, ih, List.flatMap_append]

/-- Nothing is lost exactly when the relay reads while the channel is open. -/
theorem arrived_eq_iff :
    arrived r acts = Runs.emits step reads (start r) acts ↔ RelaysOpen r acts := by
  rw [arrived, eq_comm, Runs.emits_eq_iff_of_length_le]
  · refine forall₂_congr fun x _ => ?_
    obtain ⟨s, a⟩ := x
    cases a with
    | call m => simp [reads, payloads, passes]
    | accept k => simp [reads, payloads, passes]
    | handle x => simp [reads, payloads, passes]
    | relay k =>
      rw [eq_comm, payloads_eq_iff]
      exact ⟨fun h k' hk => h, fun h => h k rfl⟩
  · intro x _
    obtain h | h := payloads_cases x.1 x.2 <;> rw [h]
    exact Nat.zero_le _

end ControlPath

/-! ## Messages -/

/-- The bytes behind the type byte of a message. -/
def controlBodySize (type : UInt8) : ℕ :=
  if type = 0 then 13 else if type = 2 then 31 else if type = 3 then 20 else if type = 10 then 1
  else 0

/-- The device reads a message when all its bytes have arrived. -/
def controlMsgRead : List UInt8 → Option (ControlMsg × List UInt8)
  | [] => none
  | type :: t => if t.length < controlBodySize type then none else controlMsgDecode (type :: t)

theorem length_body (m : ControlMsg) : m.body.length = controlBodySize m.type := by
  cases m <;> rfl

theorem controlMsgRead_decodes :
    PrefixCode.Decodes SentControlMsg.bytes (·.msg.withoutAction) controlMsgRead := fun m t => by
  have hdecodes := SentControlMsg.decodes m t
  rw [m.bytes_eq] at hdecodes ⊢
  rw [List.cons_append] at hdecodes ⊢
  rw [controlMsgRead, List.length_append, length_body, if_neg (by omega), hdecodes]

theorem controlMsgRead_waits : PrefixCode.Waits SentControlMsg.bytes controlMsgRead where
  nil := rfl
  word m t ht hne := by
    rw [m.bytes_eq] at ht hne
    cases t with
    | nil => rfl
    | cons type t =>
      obtain ⟨rfl, hbody⟩ := List.cons_prefix_cons.1 ht
      have hshort : t.length < m.msg.body.length := by
        refine lt_of_le_of_ne hbody.length_le fun hlen => hne ?_
        rw [hbody.eq_of_length hlen]
      rw [controlMsgRead, if_pos (by rwa [← length_body])]

/-- The messages that the device has read. -/
def deviceReads (r : AdbReader) (acts : List ControlAct) : List ControlMsg :=
  PrefixCode.decodeAll controlMsgRead (ControlPath.arrived r acts).length
    (ControlPath.arrived r acts)

/-- A reader whose control channel is open. -/
def openReader : AdbReader where
  conn := { AdbConnection.initial with
    state := .connected
    channels := ⟨[⟨1, 20, [], .open⟩], by decide⟩ }
  videoChan := none
  audioChan := none
  ctrlChan := some 0

/-- A message in two parts, with a read of the relay between them. -/
def twoParts : List ControlAct :=
  [.call ⟨.setDisplayPower true, 64, trivial, by decide⟩, .accept 0, .relay 1023, .accept 7,
    .relay 1023]

end Autoscrcpy
