import Autoscrcpy.Lib.SignalledQueue
import Autoscrcpy.Script.MessageQueue

/-!
# The script message queue under any number of threads

Each call of `script_msg_queue_send` and `script_msg_queue_recv` is cut into its atomic steps, and
any number of threads take these in any order. Read through `contents`, the ring buffer is the
bounded queue with a semaphore of `SignalledQueue` (`abs_queueStep`), so the semaphore never passes
`count`, a receive always finds a message, and messages leave in the order in which they came.
-/

namespace Autoscrcpy

open SignalledQueue (ThreadAct ThreadPhase)

/-- The queue and where each thread is in its call. -/
structure QueueThreads (τ α : Type*) where
  queue : ScriptMsgQueue α
  phase : τ → ThreadPhase

variable {τ α : Type*}

/-- `script_msg_queue_init`, with no thread in a call. -/
def QueueThreads.init (zero : α) : QueueThreads τ α := ⟨.init zero, fun _ => .idle⟩

/-- The ring buffer as the list of its messages. -/
def QueueThreads.abs (s : QueueThreads τ α) : SignalledQueue.State τ α :=
  ⟨s.queue.contents, s.queue.semaphore, s.phase⟩

/-! ## The invariant -/

structure QueueThreads.Inv (s : QueueThreads τ α) : Prop where
  valid : s.queue.Valid
  abs : SignalledQueue.Inv SCRIPT_MSG_QUEUE_CAPACITY s.abs

/-- The bounded queue that the ring buffer stands for. -/
def QueueThreads.Refines (s : QueueThreads τ α) (s' : SignalledQueue.State τ α) : Prop :=
  s.Inv ∧ s.abs = s'

theorem QueueThreads.inv_init (zero : α) : (QueueThreads.init zero : QueueThreads τ α).Inv where
  valid := ScriptMsgQueue.valid_init zero
  abs := SignalledQueue.inv_init

theorem QueueThreads.refines_init (zero : α) :
    (init zero : QueueThreads τ α).Refines SignalledQueue.State.init :=
  ⟨inv_init zero, rfl⟩

namespace QueueThreads.Inv

variable {s : QueueThreads τ α}

/-- A thread before the locked section of a receive finds a message. -/
theorem count_pos (h : s.Inv) {t : τ} (ht : s.phase t ≠ .idle) : 0 < s.queue.count := by
  have := h.abs.units_lt (t := t) ht
  rw [← ScriptMsgQueue.length_contents]
  exact Nat.zero_lt_of_lt this

theorem semaphore_le (h : s.Inv) : s.queue.semaphore ≤ s.queue.count := by
  rw [← ScriptMsgQueue.length_contents]
  exact h.abs.units_le

/-- `ReleaseSemaphore` does not pass the maximum. -/
theorem semaphore_lt (h : s.Inv) {t : τ} (ht : s.phase t ≠ .idle) :
    s.queue.semaphore < SCRIPT_MSG_QUEUE_CAPACITY :=
  lt_of_lt_of_le (h.abs.units_lt (t := t) ht) h.abs.length_le

end QueueThreads.Inv

/-! ## The steps -/

variable [DecidableEq τ]

/-- One atomic step of one thread: the locked section of a send, its `ReleaseSemaphore`, the wait
of a receive, which times out when the semaphore is 0, and the locked section of a receive. -/
def queueStep (s : QueueThreads τ α) : ThreadAct τ α → QueueThreads τ α
  | .send t msg =>
      if s.phase t = .idle then
        let r := s.queue.enqueue msg
        ⟨r.2, if r.1 then Function.update s.phase t .releasing else s.phase⟩
      else s
  | .release t =>
      if s.phase t = .releasing then ⟨s.queue.release, Function.update s.phase t .idle⟩ else s
  | .wait t =>
      if s.phase t = .idle ∧ 0 < s.queue.semaphore then
        ⟨s.queue.acquire, Function.update s.phase t .receiving⟩
      else s
  | .receive t =>
      if s.phase t = .receiving then
        ⟨s.queue.dequeue.2, Function.update s.phase t .idle⟩
      else s

/-- The message that a send puts into the queue. -/
def enqueues (s : QueueThreads τ α) : ThreadAct τ α → List α
  | .send t msg => if s.phase t = .idle ∧ (s.queue.enqueue msg).1 = true then [msg] else []
  | _ => []

/-- The message that a receive returns. -/
def dequeues (s : QueueThreads τ α) : ThreadAct τ α → List α
  | .receive t => if s.phase t = .receiving then [s.queue.dequeue.1] else []
  | _ => []

/-- What a step changes, with the messages that it accepts and returns: nothing, or what one of the
four operations does to a valid queue that is not received from in vain. -/
inductive QueueChange (s : QueueThreads τ α) :
    ThreadAct τ α → List α → List α → QueueThreads τ α → Prop
  | none (a : ThreadAct τ α) : QueueChange s a [] [] s
  | send {t : τ} {msg : α} {q : ScriptMsgQueue α} (hphase : s.phase t = .idle) (hvalid : q.Valid)
      (hcontents : q.contents = s.queue.contents ++ [msg])
      (hsem : q.semaphore = s.queue.semaphore) :
      QueueChange s (.send t msg) [msg] [] ⟨q, Function.update s.phase t .releasing⟩
  | release {t : τ} (hphase : s.phase t = .releasing) :
      QueueChange s (.release t) [] [] ⟨s.queue.release, Function.update s.phase t .idle⟩
  | wait {t : τ} (hphase : s.phase t = .idle) (hpos : 0 < s.queue.semaphore) :
      QueueChange s (.wait t) [] [] ⟨s.queue.acquire, Function.update s.phase t .receiving⟩
  | receive {t : τ} {msg : α} {q : ScriptMsgQueue α} (hphase : s.phase t = .receiving)
      (hvalid : q.Valid) (hcontents : s.queue.contents = msg :: q.contents)
      (hsem : q.semaphore = s.queue.semaphore) :
      QueueChange s (.receive t) [] [msg] ⟨q, Function.update s.phase t .idle⟩

theorem queueChange {s : QueueThreads τ α} (hv : s.queue.Valid) {a : ThreadAct τ α}
    (hfinds : ∀ t, a = .receive t → s.phase t = .receiving → s.queue.count ≠ 0) :
    QueueChange s a (enqueues s a) (dequeues s a) (queueStep s a) := by
  cases a with
  | send t msg =>
    simp only [queueStep, enqueues, dequeues]
    by_cases hidle : s.phase t = .idle
    · obtain ⟨hvalid, ⟨hok, hcontents⟩ | ⟨hfull, hsame, -⟩⟩ := ScriptMsgQueue.enqueue_cases hv msg
      · simp only [hidle, hok, and_self, if_true]
        exact .send hidle hvalid hcontents (ScriptMsgQueue.enqueue_semaphore ..)
      · simp only [hidle, hfull, hsame, Bool.false_eq_true, and_false, if_true, if_false]
        exact .none _
    · simp only [hidle, false_and, if_false]
      exact .none _
  | release t =>
    simp only [queueStep, enqueues, dequeues]
    split_ifs with hphase
    · exact .release hphase
    · exact .none _
  | wait t =>
    simp only [queueStep, enqueues, dequeues]
    split_ifs with hwait
    · exact .wait hwait.1 hwait.2
    · exact .none _
  | receive t =>
    simp only [queueStep, enqueues, dequeues]
    split_ifs with hphase
    · have hne : s.queue.contents ≠ [] := fun hnil => hfinds t rfl hphase (by
        rw [← ScriptMsgQueue.length_contents, hnil, List.length_nil])
      obtain ⟨msg, rest, hc⟩ := List.exists_cons_of_ne_nil hne
      obtain ⟨hmsg, hrest, hvalid⟩ := ScriptMsgQueue.dequeue_of_cons hv hc
      exact .receive hphase hvalid (by rw [hc, hmsg, hrest])
        (ScriptMsgQueue.dequeue_semaphore _)
    · exact .none _

/-- The messages accepted in a run from an initialised queue, in the order of acceptance. -/
def acceptedMsgs (zero : α) (ops : List (ThreadAct τ α)) : List α :=
  Runs.emits queueStep enqueues (.init zero) ops

/-- The messages returned in a run from an initialised queue, in the order of their receives. -/
def dequeuedMsgs (zero : α) (ops : List (ThreadAct τ α)) : List α :=
  Runs.emits queueStep dequeues (.init zero) ops

/-! ## The ring buffer is a bounded queue -/

/-- Every step of the code is the step of the bounded queue, with the same message accepted and the
same one returned. -/
theorem abs_queueStep {s : QueueThreads τ α} (h : s.Inv) (a : ThreadAct τ α) :
    (queueStep s a).queue.Valid ∧
      (queueStep s a).abs = SignalledQueue.step SCRIPT_MSG_QUEUE_CAPACITY s.abs a ∧
      enqueues s a = SignalledQueue.accepts SCRIPT_MSG_QUEUE_CAPACITY s.abs a ∧
      dequeues s a = SignalledQueue.takes s.abs a := by
  have hv := h.valid
  cases a with
  | send t msg =>
    simp only [queueStep, QueueThreads.abs, SignalledQueue.step, enqueues, dequeues,
      SignalledQueue.accepts, SignalledQueue.takes, and_true]
    by_cases hidle : s.phase t = .idle
    · obtain ⟨hvalid, ⟨hok, hcontents⟩ | ⟨hfull, hsame, hlen⟩⟩ :=
        ScriptMsgQueue.enqueue_cases hv msg
      · have hle := hvalid.count_le
        rw [← ScriptMsgQueue.length_contents, hcontents, List.length_append] at hle
        have hlt : s.queue.contents.length < SCRIPT_MSG_QUEUE_CAPACITY := hle
        simp only [hidle, hok, hcontents, hlt, ScriptMsgQueue.enqueue_semaphore, if_true, and_true]
        exact hvalid
      · have hnot : ¬ s.queue.contents.length < SCRIPT_MSG_QUEUE_CAPACITY := hlen.not_lt
        simp only [hidle, hfull, hsame, hnot, if_true, if_false, Bool.false_eq_true, and_false,
          and_true]
        exact hv
    · simp only [hidle, if_false, false_and, and_true]
      exact hv
  | release t =>
    simp only [queueStep, QueueThreads.abs, SignalledQueue.step, enqueues, dequeues,
      SignalledQueue.accepts, SignalledQueue.takes, and_true]
    by_cases hphase : s.phase t = .releasing
    · have hlt := h.semaphore_lt (t := t) (by simp [hphase])
      simp only [hphase, if_true, and_true, ScriptMsgQueue.contents_release,
        ScriptMsgQueue.release_semaphore hlt]
      exact ScriptMsgQueue.valid_release hv
    · simp only [hphase, if_false, and_true]
      exact hv
  | wait t =>
    simp only [queueStep, QueueThreads.abs, SignalledQueue.step, enqueues, dequeues,
      SignalledQueue.accepts, SignalledQueue.takes, and_true]
    by_cases hwait : s.phase t = .idle ∧ 0 < s.queue.semaphore
    · simp only [hwait, and_self, if_true, and_true, ScriptMsgQueue.contents_acquire,
        ScriptMsgQueue.acquire_semaphore]
      exact ScriptMsgQueue.valid_acquire hv
    · simp only [hwait, if_false, and_true]
      exact hv
  | receive t =>
    simp only [queueStep, QueueThreads.abs, SignalledQueue.step, enqueues, dequeues,
      SignalledQueue.accepts, SignalledQueue.takes, true_and]
    by_cases hphase : s.phase t = .receiving
    · have hne : s.queue.contents ≠ [] :=
        h.abs.queued_ne_nil (t := t) (by simp [QueueThreads.abs, hphase])
      obtain ⟨msg, rest, hc⟩ := List.exists_cons_of_ne_nil hne
      obtain ⟨hmsg, hrest, hvalid⟩ := ScriptMsgQueue.dequeue_of_cons hv hc
      simp only [hphase, if_true, hmsg, hrest, hc, ScriptMsgQueue.dequeue_semaphore]
      exact ⟨hvalid, rfl, rfl⟩
    · simp only [hphase, if_false, and_true]
      exact hv

theorem inv_queueStep {s : QueueThreads τ α} (h : s.Inv) (a : ThreadAct τ α) :
    (queueStep s a).Inv := by
  obtain ⟨hvalid, habs, -⟩ := abs_queueStep h a
  exact ⟨hvalid, habs ▸ SignalledQueue.inv_step h.abs a⟩

theorem refines_queueStep (s : QueueThreads τ α) (s' : SignalledQueue.State τ α)
    (a : ThreadAct τ α) (h : s.Refines s') :
    (queueStep s a).Refines (SignalledQueue.step SCRIPT_MSG_QUEUE_CAPACITY s' a) :=
  ⟨inv_queueStep h.1 a, h.2 ▸ (abs_queueStep h.1 a).2.1⟩

/-- The messages accepted in a run are those returned, followed by those in the queue. -/
theorem acceptedMsgs_eq (zero : α) (ops : List (ThreadAct τ α)) :
    acceptedMsgs zero ops =
      dequeuedMsgs zero ops ++ (Runs.final queueStep (.init zero) ops).queue.contents := by
  have haccepted := Runs.emits_simulation refines_queueStep
    (fun _ _ a h => h.2 ▸ (abs_queueStep h.1 a).2.2.1) (QueueThreads.refines_init zero) ops
  have hdequeued := Runs.emits_simulation refines_queueStep
    (fun _ _ a h => h.2 ▸ (abs_queueStep h.1 a).2.2.2) (QueueThreads.refines_init zero) ops
  have hfinal := (Runs.simulation refines_queueStep (QueueThreads.refines_init zero) ops).2
  rw [acceptedMsgs, dequeuedMsgs, haccepted, hdequeued, SignalledQueue.accepted_eq, ← hfinal]
  rfl

/-- Whatever the order of the steps of any number of threads, the queue is a bounded FIFO: `count`
is what was accepted less what was returned and at most 256, the semaphore is at most `count` and
below its maximum at each `ReleaseSemaphore`, a locked section of a receive finds a message, what
was returned is a prefix of what was accepted, and a send is refused only at 256 messages. -/
theorem queue_bounded_fifo (zero : α) (ops : List (ThreadAct τ α)) :
    let s := Runs.final queueStep (QueueThreads.init zero) ops
    s.queue.count + (dequeuedMsgs zero ops).length = (acceptedMsgs zero ops).length ∧
      s.queue.count ≤ SCRIPT_MSG_QUEUE_CAPACITY ∧
      s.queue.semaphore ≤ s.queue.count ∧
      (∀ t, s.phase t = .releasing → s.queue.semaphore < SCRIPT_MSG_QUEUE_CAPACITY) ∧
      (∀ t, s.phase t = .receiving → s.queue.count ≠ 0) ∧
      dequeuedMsgs zero ops <+: acceptedMsgs zero ops ∧
      ∀ msg, (s.queue.enqueue msg).1 = false → s.queue.count = SCRIPT_MSG_QUEUE_CAPACITY := by
  intro s
  have hinv : s.Inv := (Runs.simulation refines_queueStep (QueueThreads.refines_init zero) ops).1
  have heq := acceptedMsgs_eq zero ops
  refine ⟨?_, hinv.valid.count_le, hinv.semaphore_le, ?_, ?_, ?_, ?_⟩
  · rw [heq, List.length_append, ScriptMsgQueue.length_contents, Nat.add_comm]
  · intro t ht
    exact hinv.semaphore_lt (t := t) (by simp [ht])
  · intro t ht
    exact (hinv.count_pos (t := t) (by simp [ht])).ne'
  · exact ⟨_, heq.symm⟩
  · intro msg hfull
    obtain ⟨-, ⟨hok, -⟩ | ⟨-, -, hlen⟩⟩ := ScriptMsgQueue.enqueue_cases hinv.valid msg
    · rw [hok] at hfull
      cases hfull
    · rwa [ScriptMsgQueue.length_contents] at hlen

end Autoscrcpy
