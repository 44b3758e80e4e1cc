import Autoscrcpy.Device.ServerStart

/-!
# The result of a push

`adb_push` and `server_start` both send a file over the sync protocol. `server_start` succeeds only
on the sync status `OKAY` (`awaitPush_iff`). `adb_sync_send` looks at no result of a send or of
`fread`, takes the first message of any kind for the answer, and returns `true` when none comes;
`pushSound_iff` is the exact condition under which its `true` can be trusted.
-/

namespace Autoscrcpy

/-! ## The sync status -/

/-- The sync status in a message with its payload, for the sync channel with the local id. -/
def syncStatusOf (localId : UInt32) (m : AdbMessage × List UInt8) : Option UInt32 :=
  if m.1.command = ADB_WRTE ∧ m.1.arg1 = localId ∧ 4 ≤ m.1.dataLength then some (read32le m.2)
  else none

/-- Among the messages is an `OKAY` on the sync channel with no `FAIL` before it. -/
def SyncOkay (localId : UInt32) (messages : List (AdbMessage × List UInt8)) : Prop :=
  ∃ pre m post, messages = pre ++ m :: post ∧ syncStatusOf localId m = some SYNC_OKAY ∧
    ∀ x ∈ pre, syncStatusOf localId x ≠ some SYNC_FAIL

theorem syncOkay_nil (localId : UInt32) : ¬ SyncOkay localId [] := by
  rintro ⟨pre, m, post, h, -⟩
  simp at h

theorem syncOkay_cons (localId : UInt32) (m : AdbMessage × List UInt8)
    (ms : List (AdbMessage × List UInt8)) :
    SyncOkay localId (m :: ms) ↔ syncStatusOf localId m = some SYNC_OKAY ∨
      syncStatusOf localId m ≠ some SYNC_FAIL ∧ SyncOkay localId ms := by
  constructor
  · rintro ⟨pre, m', post, heq, hokay, hfail⟩
    cases pre with
    | nil =>
      obtain ⟨rfl, -⟩ := List.cons_eq_cons.1 heq
      exact Or.inl hokay
    | cons x pre =>
      obtain ⟨rfl, rfl⟩ := List.cons_eq_cons.1 heq
      obtain ⟨hx, hpre⟩ := List.forall_mem_cons.1 hfail
      exact Or.inr ⟨hx, pre, m', post, rfl, hokay, hpre⟩
  · rintro (hokay | ⟨hm, pre, m', post, rfl, hokay, hfail⟩)
    · exact ⟨[], m, ms, rfl, hokay, by simp⟩
    · exact ⟨m :: pre, m', post, rfl, hokay, List.forall_mem_cons.2 ⟨hm, hfail⟩⟩

/-- The message of a round, if it received one. -/
def ReceiveRound.message (r : ReceiveRound) : Option (AdbMessage × List UInt8) :=
  if r.Received then some (r.recv.hdr, r.payload) else none

theorem ReceiveRound.syncStatus_eq (r : ReceiveRound) (localId : UInt32) :
    r.syncStatus localId = r.message.bind (syncStatusOf localId) := by
  by_cases h : r.Received <;> simp [syncStatus, message, syncStatusOf, h]

/-- The rule of `server_start`: its push succeeds exactly when the messages of the wait bring `OKAY`
with no `FAIL` before it. -/
theorem awaitPush_iff (localId : UInt32) (conn : AdbConnection) (rounds : List ReceiveRound) :
    (awaitPush localId conn rounds).2 = true ↔
      SyncOkay localId (rounds.filterMap ReceiveRound.message) := by
  induction rounds generalizing conn with
  | nil => simp [awaitPush, syncOkay_nil]
  | cons r rs ih =>
    rw [awaitPush, r.syncStatus_eq]
    cases hm : r.message with
    | none => simpa [hm] using ih _
    | some m =>
      rw [List.filterMap_cons_some hm, syncOkay_cons, Option.bind_some]
      split_ifs with hokay hfail
      · exact iff_of_true rfl (Or.inl hokay)
      · exact iff_of_false (by simp) (by rintro (h | ⟨h, -⟩) <;> contradiction)
      · rw [or_iff_right hokay, and_iff_right hfail]
        exact ih _

/-! ## The answer in `adb_sync_send` -/

/-- The message that a `session_poll` receives. -/
def PollEnv.message (p : PollEnv) (conn : AdbConnection) : Option (AdbMessage × List UInt8) :=
  if conn.fdOpen = true ∧ 0 < p.selectRet ∧ p.recv.ret = 1 then
    p.payload.map fun buf => (p.recv.hdr, storePayload buf p.recv)
  else none

/-- The messages that the wait for an answer receives. -/
def answerMessages : AdbConnection → List PollEnv → List (AdbMessage × List UInt8)
  | _, [] => []
  | conn, p :: ps =>
      (p.message conn).toList ++
        if 0 < (sessionPoll conn p).1 then []
        else answerMessages (sessionPoll conn p).2.conn ps

/-- A poll that does not return 1 leaves the connection as it was, and received nothing. -/
theorem sessionPoll_of_le {conn : AdbConnection} {p : PollEnv} (h : ¬ 0 < (sessionPoll conn p).1) :
    (sessionPoll conn p).2.conn = conn ∧ p.message conn = none := by
  unfold sessionPoll at h ⊢
  unfold PollEnv.message
  by_cases hfd : conn.fdOpen = false
  · simp [hfd]
  · by_cases hsel : p.selectRet ≤ 0
    · simp [hfd, hsel]
    · rcases hbuf : p.payload with _ | buf
      · simp [hfd, hsel]
      · by_cases hret : p.recv.ret < 0
        · have : p.recv.ret ≠ 1 := by omega
          simp [hfd, hsel, hret, this]
        · simp [hfd, hsel, hbuf, hret] at h

/-- The wait ends with the first poll that returns 1, whatever it received. -/
theorem answerMessages_eq (conn : AdbConnection) (polls : List PollEnv) :
    answerMessages conn polls =
      ((polls.find? fun p => 0 < (sessionPoll conn p).1).bind fun p => p.message conn).toList := by
  induction polls with
  | nil => rfl
  | cons p ps ih =>
    rw [answerMessages]
    by_cases h : 0 < (sessionPoll conn p).1
    · simp [h]
    · obtain ⟨hconn, hnone⟩ := sessionPoll_of_le h
      rw [if_neg h, hconn, hnone, ih, List.find?_cons_of_neg (by simpa using h)]
      rfl

/-! ## A completed push -/

/-- The environment of a push, with what `adb_sync_send` does not look at: the content of the file,
of which the chunks are what `fread` brought, and whether each send succeeded. -/
structure PushRun where
  env : PushEnv
  file : List UInt8
  sendOk : Bool
  dataOk : ℕ → Bool
  doneOk : Bool
  read : (env.chunks.flatMap fun x => x.1.data) <+: file

namespace PushRun

/-- The connection and the slot of the sync channel, when the file is streamed: the push has not
failed before. -/
def streaming (conn : AdbConnection) (run : PushRun) : Option (AdbConnection × ℕ) :=
  if conn.state ≠ .connected ∨ run.env.fileOpens = false then none
  else
    let r := sessionOpenChannel conn syncService run.env.openRet
    r.2.2.bind fun slot =>
      let opened := awaitOpen slot r.1 (run.env.waits.take 200)
      if run.env.bufferOk = true ∧ opened.chanState slot = some .open then some (opened, slot)
      else none

/-- The connection after `DONE`. -/
def done (run : PushRun) (slot : ℕ) (opened : AdbConnection) : AdbConnection :=
  (streamFile slot (sessionPoll opened run.env.afterSend).2.conn run.env.chunks).1

/-- The messages received after `DONE`. -/
def answers (run : PushRun) (slot : ℕ) (opened : AdbConnection) :
    List (AdbMessage × List UInt8) :=
  answerMessages (run.done slot opened) (run.env.answers.take 200)

/-- The whole file was read. -/
def WholeFile (run : PushRun) : Prop := (run.env.chunks.flatMap fun x => x.1.data) = run.file

/-- Every `SEND`, `DATA` and `DONE` message was sent successfully. -/
def AllSent (run : PushRun) : Prop :=
  run.sendOk = true ∧ (∀ i < run.env.chunks.length, run.dataOk i = true) ∧ run.doneOk = true

/-- The file was read and sent, and the device answered `OKAY`. -/
def Completed (run : PushRun) (opened : AdbConnection) (slot : ℕ) : Prop :=
  run.WholeFile ∧ run.AllSent ∧
    SyncOkay ((run.done slot opened).localIdOf slot) (run.answers slot opened)

/-- `adb_push` returns `true` only for a completed push. -/
def Sound (conn : AdbConnection) (remote : List UInt8) (run : PushRun) : Prop :=
  (adbPush conn remote run.env).ok = true →
    ∃ opened slot, run.streaming conn = some (opened, slot) ∧ run.Completed opened slot

/-- The first poll after `DONE` that returns 1 receives an `OKAY` on the sync channel. -/
def FirstAnswerOkay (run : PushRun) (opened : AdbConnection) (slot : ℕ) : Prop :=
  ∃ p m, (run.env.answers.take 200).find?
      (fun p => 0 < (sessionPoll (run.done slot opened) p).1) = some p ∧
    p.message (run.done slot opened) = some m ∧
    syncStatusOf ((run.done slot opened).localIdOf slot) m = some SYNC_OKAY

theorem syncOkay_answers_iff (run : PushRun) (opened : AdbConnection) (slot : ℕ) :
    SyncOkay ((run.done slot opened).localIdOf slot) (run.answers slot opened) ↔
      run.FirstAnswerOkay opened slot := by
  rw [answers, answerMessages_eq, FirstAnswerOkay]
  cases hfind : (run.env.answers.take 200).find?
      (fun p => 0 < (sessionPoll (run.done slot opened) p).1) with
  | none => simp [syncOkay_nil]
  | some p =>
    cases hm : p.message (run.done slot opened) with
    | none => simp [hm, syncOkay_nil]
    | some m =>
      rw [Option.bind_some, hm, Option.toList_some, syncOkay_cons]
      constructor
      · rintro (hokay | ⟨-, hnil⟩)
        · exact ⟨p, m, rfl, hm, hokay⟩
        · exact absurd hnil (syncOkay_nil _)
      · rintro ⟨p', m', hp, hm', hokay⟩
        obtain rfl := Option.some.inj hp
        rw [hm] at hm'
        obtain rfl := Option.some.inj hm'
        exact Or.inl hokay

/-- `adb_push` returns `true` whenever it comes to streaming the file. -/
theorem adbPush_ok_iff (conn : AdbConnection) (remote : List UInt8) (run : PushRun) :
    (adbPush conn remote run.env).ok = true ↔ ∃ x, run.streaming conn = some x := by
  unfold adbPush streaming
  by_cases hstate : conn.state = .connected
  · cases hfile : run.env.fileOpens with
    | false => simp
    | true =>
      cases hopen : (sessionOpenChannel conn syncService run.env.openRet).2.2 with
      | none => simp [hstate, hopen]
      | some slot =>
        simp only [hstate, hopen, adbSyncSend]
        split_ifs <;> simp_all
  · simp [hstate]

end PushRun

/-- For every connection, every file and everything that happens during the push, the result of
`adb_push` can be trusted exactly when it fails before it streams the file, or the whole file is
read and sent and the first message after `DONE` is an `OKAY` on the sync channel. -/
theorem pushSound_iff (conn : AdbConnection) (remote : List UInt8) (run : PushRun) :
    run.Sound conn remote ↔ ∀ opened slot, run.streaming conn = some (opened, slot) →
      run.WholeFile ∧ run.AllSent ∧ run.FirstAnswerOkay opened slot := by
  rw [PushRun.Sound, PushRun.adbPush_ok_iff]
  constructor
  · intro h opened slot hstream
    obtain ⟨opened', slot', hstream', hfile, hsent, hokay⟩ := h ⟨_, hstream⟩
    rw [hstream] at hstream'
    obtain ⟨rfl, rfl⟩ := Prod.mk.inj (Option.some.inj hstream')
    exact ⟨hfile, hsent, (run.syncOkay_answers_iff opened slot).1 hokay⟩
  · rintro h ⟨⟨opened, slot⟩, hstream⟩
    obtain ⟨hfile, hsent, hfirst⟩ := h opened slot hstream
    exact ⟨opened, slot, hstream, hfile, hsent, (run.syncOkay_answers_iff opened slot).2 hfirst⟩

/-- The sync channel is accepted, the file of one byte is read and sent, and then the device says
nothing. -/
def silentPush : PushRun where
  env :=
    { fileOpens := true
      openRet := 0
      bufferOk := true
      waits := [⟨1, [], ⟨1, ⟨ADB_OKAY, 7, 1, 0, 0, ADB_OKAY ^^^ 0xffffffff⟩, []⟩, .idle⟩]
      afterSend := ⟨0, none, ⟨0, ⟨0, 0, 0, 0, 0, 0⟩, []⟩, .idle⟩
      chunks := [(⟨[42], by decide, by decide⟩, ⟨0, none, ⟨0, ⟨0, 0, 0, 0, 0, 0⟩, []⟩, .idle⟩)]
      answers := [] }
  file := [42]
  sendOk := true
  dataOk := fun _ => true
  doneOk := true
  read := List.prefix_rfl

/-- The push succeeds without an answer. -/
theorem silentPush_unsound :
    ¬ silentPush.Sound { AdbConnection.initial with state := .connected } [] ∧
      (adbPush { AdbConnection.initial with state := .connected } [] silentPush.env).ok = true := by
  have hok : (adbPush { AdbConnection.initial with state := .connected } [] silentPush.env).ok =
      true := by decide
  refine ⟨?_, hok⟩
  intro h
  obtain ⟨opened, slot, -, -, -, hokay⟩ := h hok
  exact syncOkay_nil _ hokay

end Autoscrcpy
