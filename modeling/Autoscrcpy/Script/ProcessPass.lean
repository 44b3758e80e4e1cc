import Autoscrcpy.Script.QueueRuns

/-!
# One pass of `script_process_messages`

The main thread receives from `to_main` with a timeout of 0 until a wait finds no unit, while the
script thread goes on to send. The loop has no bound of its own: it handles the messages whose units
are there when it starts or come before it has returned, however many these are
(`passCount_final`). So it handles at most the capacity of the queue and the sends that are finished
meanwhile (`processPass_bounded`), and a script that sends one message each time one is handled
keeps it forever (`passRounds_final`).
-/

namespace Autoscrcpy

open SignalledQueue (ThreadAct ThreadPhase)

/-- The two threads at `to_main`. -/
inductive PassThread where
  | script
  | main
  deriving DecidableEq, Repr

/-- The queue with its two threads, the messages that the loop has handled, and whether
`script_process_messages` has returned. -/
structure ProcessPass (α : Type*) where
  threads : QueueThreads PassThread α
  handled : List α
  returned : Bool

/-- The steps: the locked section of a send and its release, and the next step of the main thread.
-/
inductive PassAct (α : Type*) where
  | send (msg : α)
  | release
  | main
  deriving DecidableEq, Repr

variable {α : Type*}

/-- The call starts. -/
def ProcessPass.start (threads : QueueThreads PassThread α) : ProcessPass α := ⟨threads, [], false⟩

/-- One step. The main thread waits for a unit, returns if there is none, and else takes a message
and handles it. -/
def passStep (s : ProcessPass α) : PassAct α → ProcessPass α
  | .send msg => { s with threads := queueStep s.threads (.send .script msg) }
  | .release => { s with threads := queueStep s.threads (.release .script) }
  | .main =>
      if s.returned then s
      else if s.threads.phase .main = .receiving then
        ⟨queueStep s.threads (.receive .main), s.handled ++ [s.threads.queue.dequeue.1], false⟩
      else if 0 < s.threads.queue.semaphore then
        { s with threads := queueStep s.threads (.wait .main) }
      else { s with returned := true }

/-- A send is finished before the call has returned. -/
def finishes (s : ProcessPass α) : PassAct α → List Unit
  | .release =>
      if s.returned = false ∧ s.threads.phase .script = .releasing then [()] else []
  | _ => []

/-- The number of sends that are finished while the call runs. -/
def finishedSends (s : ProcessPass α) (acts : List (PassAct α)) : ℕ :=
  (Runs.emits passStep finishes s acts).length

def PassAct.isMain : PassAct α → Bool
  | main => true
  | _ => false

/-- Whether the main thread holds a unit. -/
def ProcessPass.holds (s : ProcessPass α) : ℕ :=
  if s.threads.phase .main = .receiving then 1 else 0

/-! ## What is handled -/

/-- What holds in a run of a call, with the units that there were and the number of steps of the
main thread so far: each unit is in the semaphore, with the main thread or handled, and a message
takes two steps. -/
structure PassCount (units steps : ℕ) (s : ProcessPass α) : Prop where
  inv : s.threads.Inv
  main_ne : s.threads.phase .main ≠ .releasing
  running : s.returned = false →
    s.handled.length + s.holds + s.threads.queue.semaphore = units ∧
      steps = 2 * s.handled.length + s.holds
  ended : s.returned = true → s.handled.length = units

theorem inv_passStep {s : ProcessPass α} (h : s.threads.Inv) (a : PassAct α) :
    (passStep s a).threads.Inv := by
  cases a with
  | send msg => exact inv_queueStep (a := .send .script msg) h
  | release => exact inv_queueStep (a := .release .script) h
  | main =>
    simp only [passStep]
    split_ifs
    · exact h
    · exact inv_queueStep (a := .receive .main) h
    · exact inv_queueStep (a := .wait .main) h
    · exact h

/-- The main thread does not send. -/
theorem main_ne_passStep {s : ProcessPass α} (h : s.threads.phase .main ≠ .releasing)
    (a : PassAct α) : (passStep s a).threads.phase .main ≠ .releasing := by
  cases a with
  | send msg =>
    simp only [passStep, queueStep]
    split_ifs
    · exact h
    · exact h
    · exact h
  | release =>
    simp only [passStep, queueStep]
    split_ifs
    · exact h
    · exact h
  | main =>
    simp only [passStep]
    split_ifs with hr hhold hpos
    · exact h
    · simp [queueStep, hhold]
    · simp only [queueStep]
      split_ifs
      · simp
      · exact h
    · exact h

/-! The numbers that a step changes: the units with the main thread and in the semaphore, and the
messages that are handled. -/

/-- A send leaves its unit for the release. -/
theorem passStep_send (s : ProcessPass α) (msg : α) :
    (passStep s (.send msg)).holds = s.holds ∧
      (passStep s (.send msg)).threads.queue.semaphore = s.threads.queue.semaphore := by
  simp only [passStep, ProcessPass.holds, queueStep]
  split_ifs <;> simp_all

/-- A release that ends a send adds a unit. -/
theorem passStep_release {s : ProcessPass α} (h : s.threads.Inv) :
    (passStep s .release).holds = s.holds ∧
      (s.returned = false → (passStep s .release).threads.queue.semaphore =
        s.threads.queue.semaphore + (finishes s .release).length) := by
  by_cases hscript : s.threads.phase .script = .releasing
  · have hlt := h.semaphore_lt (t := .script) (by simp [hscript])
    have hstep : queueStep s.threads (.release .script) =
        ⟨s.threads.queue.release, Function.update s.threads.phase .script .idle⟩ := if_pos hscript
    refine ⟨?_, fun hr => ?_⟩
    · simp only [passStep, ProcessPass.holds, hstep]
      rfl
    · have hfin : finishes s .release = [()] := if_pos ⟨hr, hscript⟩
      rw [passStep, hstep, hfin]
      exact ScriptMsgQueue.release_semaphore hlt
  · have hstep : queueStep s.threads (.release .script) = s.threads := if_neg hscript
    have hfin : finishes s .release = [] := if_neg fun hr => hscript hr.2
    rw [passStep, hstep, hfin]
    exact ⟨rfl, fun _ => rfl⟩

/-- While the call runs, the main thread handles the message of the unit that it holds, takes a
unit, or returns when there is none. -/
theorem passStep_main {s : ProcessPass α} (hne : s.threads.phase .main ≠ .releasing)
    (hr : s.returned = false) :
    (s.holds = 1 ∧ (passStep s .main).holds = 0 ∧
        (passStep s .main).threads.queue.semaphore = s.threads.queue.semaphore ∧
        (passStep s .main).handled.length = s.handled.length + 1 ∧
        (passStep s .main).returned = false) ∨
      (s.holds = 0 ∧ (passStep s .main).holds = 1 ∧
        (passStep s .main).threads.queue.semaphore + 1 = s.threads.queue.semaphore ∧
        (passStep s .main).handled = s.handled ∧ (passStep s .main).returned = false) ∨
      (s.holds = 0 ∧ s.threads.queue.semaphore = 0 ∧
        passStep s .main = { s with returned := true }) := by
  have hrun : ¬ s.returned = true := by simp [hr]
  by_cases hhold : s.threads.phase .main = .receiving
  · have hstep : queueStep s.threads (.receive .main) =
        ⟨s.threads.queue.dequeue.2, Function.update s.threads.phase .main .idle⟩ := if_pos hhold
    refine Or.inl ⟨if_pos hhold, ?_⟩
    simp only [passStep, if_neg hrun, if_pos hhold, ProcessPass.holds, hstep]
    simp
  · have hidle : s.threads.phase .main = .idle := by
      cases hphase : s.threads.phase .main with
      | idle => rfl
      | releasing => exact absurd hphase hne
      | receiving => exact absurd hphase hhold
    refine Or.inr ?_
    by_cases hpos : 0 < s.threads.queue.semaphore
    · have hstep : queueStep s.threads (.wait .main) =
          ⟨s.threads.queue.acquire, Function.update s.threads.phase .main .receiving⟩ :=
        if_pos ⟨hidle, hpos⟩
      have hmain : passStep s .main = { s with threads :=
          ⟨s.threads.queue.acquire, Function.update s.threads.phase .main .receiving⟩ } := by
        rw [passStep, if_neg hrun, if_neg hhold, if_pos hpos, hstep]
      rw [hmain]
      refine Or.inl ⟨if_neg hhold, ?_, Nat.sub_add_cancel hpos, rfl, hr⟩
      simp [ProcessPass.holds]
    · refine Or.inr ⟨if_neg hhold, by omega, ?_⟩
      simp only [passStep, if_neg hrun, if_neg hhold, if_neg hpos]

/-- One step counts. -/
theorem passCount_step {units steps : ℕ} {s : ProcessPass α} (h : PassCount units steps s)
    (a : PassAct α) :
    PassCount (units + (finishes s a).length) (steps + if a.isMain then 1 else 0)
      (passStep s a) := by
  obtain ⟨hinv, hne, hrun, hend⟩ := h
  have hinv' := inv_passStep hinv a
  have hne' := main_ne_passStep hne a
  cases a with
  | send msg =>
    obtain ⟨hholds, hsem⟩ := passStep_send s msg
    refine ⟨hinv', hne', ?_, hend⟩
    rw [hholds, hsem]
    exact hrun
  | release =>
    obtain ⟨hholds, hsem⟩ := passStep_release hinv
    refine ⟨hinv', hne', fun hr => ?_, fun hr => ?_⟩
    · obtain ⟨hunits, hsteps⟩ := hrun hr
      rw [hholds, hsem hr, ← hunits]
      exact ⟨(Nat.add_assoc ..).symm, hsteps⟩
    · have hr' : s.returned = true := hr
      have hfin : finishes s .release = [] := if_neg (by simp [hr'])
      rw [hfin]
      exact hend hr
  | main =>
    cases hr : s.returned with
    | true =>
      have hsame : passStep s .main = s := by rw [passStep, if_pos hr]
      rw [hsame]
      exact ⟨hinv, hne, fun hr' => absurd (hr'.symm.trans hr) (by decide), hend⟩
    | false =>
      obtain ⟨hunits, hsteps⟩ := hrun hr
      simp only [finishes, PassAct.isMain, if_true, List.length_nil, Nat.add_zero]
      rcases passStep_main hne hr with ⟨hholds, hnext, hsem, hhandled, hr'⟩ |
        ⟨hholds, hnext, hsem, hhandled, hr'⟩ | ⟨hholds, hsem, hnext⟩
      · refine ⟨hinv', hne', fun _ => by omega, fun hend' => ?_⟩
        exact absurd (hend'.symm.trans hr') (by decide)
      · rw [← hhandled] at hunits hsteps
        refine ⟨hinv', hne', fun _ => by omega, fun hend' => ?_⟩
        exact absurd (hend'.symm.trans hr') (by decide)
      · rw [hnext] at hinv' hne' ⊢
        refine ⟨hinv', hne', fun hrun' => absurd hrun'.symm Bool.false_ne_true, fun _ => ?_⟩
        simp only
        omega

/-- A run of a call counts. -/
theorem passCount_final {threads : QueueThreads PassThread α} (hinv : threads.Inv)
    (hidle : threads.phase .main = .idle) (acts : List (PassAct α)) :
    PassCount (threads.queue.semaphore + finishedSends (.start threads) acts)
      (acts.countP PassAct.isMain) (Runs.final passStep (.start threads) acts) := by
  induction acts using List.reverseRecOn with
  | nil =>
    refine ⟨hinv, ?_, fun _ => ?_, nofun⟩
    · simp [ProcessPass.start, hidle]
    · simp [ProcessPass.holds, ProcessPass.start, hidle, finishedSends]
  | append_singleton acts a ih =>
    have hstep := passCount_step ih a
    rw [finishedSends, Runs.emits_append_singleton, List.length_append, ← Nat.add_assoc,
      Runs.final_append_singleton, List.countP_append, List.countP_singleton]
    exact hstep

/-- A call that starts at any time, in any interleaving with the script thread: it handles at most
256 messages and one more for each send that is finished while it runs, it has returned after two
steps of the main thread for each of these and one more, and it has handled exactly the messages
whose units were there at its start or came meanwhile. -/
theorem processPass_bounded (zero : α) (before : List (ThreadAct PassThread α))
    (hidle : (Runs.final queueStep (QueueThreads.init zero) before).phase .main = .idle)
    (acts : List (PassAct α)) :
    let threads := Runs.final queueStep (QueueThreads.init zero) before
    let bound := SCRIPT_MSG_QUEUE_CAPACITY + finishedSends (.start threads) acts
    let s := Runs.final passStep (.start threads) acts
    s.handled.length ≤ bound ∧
      (2 * bound + 1 ≤ acts.countP PassAct.isMain → s.returned = true) ∧
      (s.returned = true → s.handled.length =
        threads.queue.semaphore + finishedSends (.start threads) acts) := by
  intro threads bound s
  have hinv : threads.Inv :=
    (Runs.simulation refines_queueStep (QueueThreads.refines_init zero) before).1
  have hunits : threads.queue.semaphore + finishedSends (.start threads) acts ≤ bound :=
    Nat.add_le_add_right (hinv.semaphore_le.trans hinv.valid.count_le) _
  have hcount : PassCount _ _ s := passCount_final hinv hidle acts
  refine ⟨?_, fun hmain => ?_, hcount.ended⟩
  · cases hr : s.returned with
    | true => exact (hcount.ended hr).trans_le hunits
    | false =>
      obtain ⟨hsum, -⟩ := hcount.running hr
      omega
  · by_contra hr
    obtain ⟨hsum, hsteps⟩ := hcount.running (Bool.eq_false_iff.2 hr)
    have hholds : s.holds ≤ 1 := by
      unfold ProcessPass.holds
      split_ifs <;> decide
    omega

/-- A message that waits, and one that is sent while the call runs. -/
theorem processPass_bounded_two :
    (Runs.final passStep (.start (Runs.final queueStep (QueueThreads.init 0)
      [.send .script 7, .release .script]))
        [.main, .send 8, .main, .release, .main, .main, .main]).handled.length ≤ 257 :=
  (processPass_bounded 0 [.send .script 7, .release .script] rfl _).1

/-! ## A script that keeps sending -/

/-- Rounds in which the script thread sends a message and the main thread handles it. -/
def passRounds (msg : α) : ℕ → List (PassAct α)
  | 0 => []
  | n + 1 => passRounds msg n ++ [.send msg, .release, .main, .main]

/-- Nothing is queued, no thread is in a call of the queue, and the pass goes on. -/
structure BetweenRounds (s : ProcessPass α) : Prop where
  returned : s.returned = false
  phase : s.threads.phase = fun _ => .idle
  count : s.threads.queue.count = 0
  semaphore : s.threads.queue.semaphore = 0

/-- A round handles one message and ends as it began. -/
theorem passRound (msg : α) {s : ProcessPass α} (h : BetweenRounds s) :
    BetweenRounds (Runs.final passStep s [.send msg, .release, .main, .main]) ∧
      (Runs.final passStep s [.send msg, .release, .main, .main]).handled.length =
        s.handled.length + 1 := by
  obtain ⟨hr, hp, hc, hs⟩ := h
  set q := (s.threads.queue.enqueue msg).2 with hq
  have hcount : q.count = 1 := by rw [hq, ScriptMsgQueue.enqueue, hc]; rfl
  have hsem : q.semaphore = 0 := by rw [hq, ScriptMsgQueue.enqueue_semaphore, hs]
  have hrelease : q.release = { q with semaphore := 1 } := by
    rw [ScriptMsgQueue.release, if_pos (by rw [hsem]; decide), hsem]
  have hback (t : PassThread) (p : ThreadPhase) :
      Function.update (Function.update (fun _ => ThreadPhase.idle) t p) t .idle =
        fun _ => ThreadPhase.idle := by
    rw [Function.update_idem, Function.update_eq_self]
  have hsend : passStep s (.send msg) =
      ⟨⟨q, Function.update (fun _ => .idle) .script .releasing⟩, s.handled, false⟩ := by
    simp [passStep, queueStep, hp, hr, hq, ScriptMsgQueue.enqueue, hc]
  have hfinish : passStep ⟨⟨q, Function.update (fun _ => .idle) .script .releasing⟩, s.handled,
      false⟩ .release = ⟨⟨{ q with semaphore := 1 }, fun _ => .idle⟩, s.handled, false⟩ := by
    simp only [passStep, queueStep, Function.update_self, if_true, hrelease, hback]
  have hwait : passStep ⟨⟨{ q with semaphore := 1 }, fun _ => .idle⟩, s.handled, false⟩ .main =
      ⟨⟨({ q with semaphore := 1 } : ScriptMsgQueue α).acquire,
        Function.update (fun _ => .idle) .main .receiving⟩, s.handled, false⟩ := by
    simp [passStep, queueStep]
  have htake : passStep ⟨⟨({ q with semaphore := 1 } : ScriptMsgQueue α).acquire,
      Function.update (fun _ => .idle) .main .receiving⟩, s.handled, false⟩ .main =
      ⟨⟨({ q with semaphore := 1 } : ScriptMsgQueue α).acquire.dequeue.2, fun _ => .idle⟩,
        s.handled ++ [q.dequeue.1], false⟩ := by
    simp only [passStep, queueStep, Function.update_self, if_true, hback, Bool.false_eq_true,
      if_false]
    rfl
  simp only [Runs.final, List.foldl_cons, List.foldl_nil, hsend, hfinish, hwait, htake]
  refine ⟨⟨rfl, rfl, ?_, rfl⟩, ?_⟩
  · simp [ScriptMsgQueue.dequeue, ScriptMsgQueue.acquire, hcount]
  · simp

/-- After any number of such rounds the call has handled as many messages and has not returned. -/
theorem passRounds_final (zero msg : α) (n : ℕ) :
    BetweenRounds (Runs.final passStep (.start (QueueThreads.init zero)) (passRounds msg n)) ∧
      (Runs.final passStep (.start (QueueThreads.init zero)) (passRounds msg n)).handled.length =
        n := by
  induction n with
  | zero => exact ⟨⟨rfl, rfl, rfl, rfl⟩, rfl⟩
  | succ n ih =>
    rw [passRounds, Runs.final_append]
    obtain ⟨hround, hlen⟩ := passRound msg ih.1
    exact ⟨hround, hlen.trans (congrArg (· + 1) ih.2)⟩

/-- A call that starts with an empty queue and never returns. -/
theorem processPass_unbounded :
    ¬ ∀ acts : List (PassAct ℕ),
      (Runs.final passStep (.start (QueueThreads.init 0)) acts).handled.length ≤
        SCRIPT_MSG_QUEUE_CAPACITY := by
  intro h
  have hle := h (passRounds 0 (SCRIPT_MSG_QUEUE_CAPACITY + 1))
  rw [(passRounds_final 0 0 (SCRIPT_MSG_QUEUE_CAPACITY + 1)).2] at hle
  exact absurd hle (by decide)

end Autoscrcpy
