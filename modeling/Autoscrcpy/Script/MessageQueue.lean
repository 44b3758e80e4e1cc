import Autoscrcpy.Lib.Ring

/-!
# The script message queue

`script_msg_queue_t`, with one operation for each atomic step of its functions: the locked section
of `script_msg_queue_send` and its `ReleaseSemaphore`, the wait of `script_msg_queue_recv` and its
locked section. The locked section of a receive does not test `count`, so it relies on the
semaphore.
-/

namespace Autoscrcpy

open RingBuffer

abbrev SCRIPT_MSG_QUEUE_CAPACITY : ℕ := 256

/-- `script_msg_queue_t`; `count` is a 32-bit number. -/
structure ScriptMsgQueue (α : Type*) where
  items : ℕ → α
  head : ℕ
  tail : ℕ
  count : ℕ
  semaphore : ℕ

namespace ScriptMsgQueue

variable {α : Type*}

/-- `script_msg_queue_init`; `zero` is a message of zero bytes. -/
def init (zero : α) : ScriptMsgQueue α := ⟨fun _ => zero, 0, 0, 0, 0⟩

/-- The locked section of `script_msg_queue_send`; `false` when the queue is full. -/
def enqueue (q : ScriptMsgQueue α) (msg : α) : Bool × ScriptMsgQueue α :=
  if SCRIPT_MSG_QUEUE_CAPACITY ≤ q.count then (false, q)
  else (true, { q with
    items := Function.update q.items q.tail msg
    tail := (q.tail + 1) % SCRIPT_MSG_QUEUE_CAPACITY
    count := q.count + 1 })

/-- `ReleaseSemaphore`, which fails at the maximum given to `CreateSemaphoreA`. -/
def release (q : ScriptMsgQueue α) : ScriptMsgQueue α :=
  if q.semaphore < SCRIPT_MSG_QUEUE_CAPACITY then { q with semaphore := q.semaphore + 1 } else q

/-- The wait of `script_msg_queue_recv`, when it is not in vain. -/
def acquire (q : ScriptMsgQueue α) : ScriptMsgQueue α := { q with semaphore := q.semaphore - 1 }

/-- The locked section of `script_msg_queue_recv`. -/
def dequeue (q : ScriptMsgQueue α) : α × ScriptMsgQueue α :=
  (q.items q.head, { q with
    head := (q.head + 1) % SCRIPT_MSG_QUEUE_CAPACITY
    count := (q.count + (2 ^ 32 - 1)) % 2 ^ 32 })

/-- The messages in the queue, oldest first. -/
def contents (q : ScriptMsgQueue α) : List α :=
  cells SCRIPT_MSG_QUEUE_CAPACITY q.items q.head q.count

/-- The positions and the count agree. -/
structure Valid (q : ScriptMsgQueue α) : Prop where
  head_lt : q.head < SCRIPT_MSG_QUEUE_CAPACITY
  count_le : q.count ≤ SCRIPT_MSG_QUEUE_CAPACITY
  tail_eq : q.tail = (q.head + q.count) % SCRIPT_MSG_QUEUE_CAPACITY

@[simp] theorem length_contents (q : ScriptMsgQueue α) : q.contents.length = q.count :=
  length_cells ..

theorem valid_init (zero : α) : (init zero).Valid :=
  ⟨Nat.zero_lt_succ _, Nat.zero_le _, rfl⟩

@[simp] theorem contents_init (zero : α) : (init zero).contents = [] := rfl

/-! ## Each step on the contents -/

@[simp] theorem enqueue_semaphore (q : ScriptMsgQueue α) (msg : α) :
    (q.enqueue msg).2.semaphore = q.semaphore := by
  unfold enqueue
  split <;> rfl

/-- The locked section of a send appends the message, or finds the queue full and drops it. -/
theorem enqueue_cases {q : ScriptMsgQueue α} (h : q.Valid) (msg : α) :
    (q.enqueue msg).2.Valid ∧
      ((q.enqueue msg).1 = true ∧ (q.enqueue msg).2.contents = q.contents ++ [msg] ∨
        (q.enqueue msg).1 = false ∧ (q.enqueue msg).2 = q ∧
          q.contents.length = SCRIPT_MSG_QUEUE_CAPACITY) := by
  have hle := h.count_le
  unfold enqueue
  split_ifs with hfull
  · refine ⟨h, Or.inr ⟨rfl, rfl, ?_⟩⟩
    rw [length_contents]
    exact le_antisymm hle hfull
  · refine ⟨⟨h.head_lt, by simpa using hfull, ?_⟩, Or.inl ⟨rfl, ?_⟩⟩
    · simp only [h.tail_eq, Nat.mod_add_mod, Nat.add_assoc]
    · simp only [contents, h.tail_eq]
      exact cells_update (by simpa using hfull) msg

/-- The locked section of a receive takes the oldest message, if there is one. -/
theorem dequeue_of_cons {q : ScriptMsgQueue α} (h : q.Valid) {msg : α} {rest : List α}
    (hc : q.contents = msg :: rest) :
    (q.dequeue).1 = msg ∧ (q.dequeue).2.contents = rest ∧ (q.dequeue).2.Valid := by
  have hcount : q.count = rest.length + 1 := by rw [← length_contents, hc, List.length_cons]
  have hle : q.count ≤ 256 := h.count_le
  have hpred : (q.count + (2 ^ 32 - 1)) % 2 ^ 32 = rest.length := by omega
  rw [contents, hcount, cells_succ, List.cons.injEq, Nat.mod_eq_of_lt h.head_lt] at hc
  refine ⟨hc.1, ?_, ?_⟩
  · simp only [contents, dequeue, hpred]
    exact hc.2
  · refine ⟨Nat.mod_lt _ (by decide), ?_, ?_⟩
    · simp only [dequeue, hpred]
      exact (Nat.le_succ _).trans (hcount.symm.trans_le h.count_le)
    · simp only [dequeue, hpred]
      rw [h.tail_eq, hcount, Nat.mod_add_mod, Nat.add_right_comm, Nat.add_assoc]

@[simp] theorem dequeue_semaphore (q : ScriptMsgQueue α) : (q.dequeue).2.semaphore = q.semaphore :=
  rfl

@[simp] theorem contents_release (q : ScriptMsgQueue α) : q.release.contents = q.contents := by
  unfold release
  split <;> rfl

theorem valid_release {q : ScriptMsgQueue α} (h : q.Valid) : q.release.Valid := by
  unfold release
  split_ifs
  · exact ⟨h.head_lt, h.count_le, h.tail_eq⟩
  · exact h

theorem release_semaphore {q : ScriptMsgQueue α} (h : q.semaphore < SCRIPT_MSG_QUEUE_CAPACITY) :
    q.release.semaphore = q.semaphore + 1 := by
  rw [release, if_pos h]

@[simp] theorem contents_acquire (q : ScriptMsgQueue α) : q.acquire.contents = q.contents := rfl

theorem valid_acquire {q : ScriptMsgQueue α} (h : q.Valid) : q.acquire.Valid :=
  ⟨h.head_lt, h.count_le, h.tail_eq⟩

@[simp] theorem acquire_semaphore (q : ScriptMsgQueue α) :
    q.acquire.semaphore = q.semaphore - 1 := rfl

/-! ## Whole calls -/

/-- `script_msg_queue_send`, with no other thread at the queue. -/
def send (q : ScriptMsgQueue α) (msg : α) : Bool × ScriptMsgQueue α :=
  if (q.enqueue msg).1 then (true, (q.enqueue msg).2.release) else q.enqueue msg

/-- The messages of `script_msg_queue_try_recv` until its wait, with a timeout of 0, is in vain. -/
def tryRecvAll (q : ScriptMsgQueue α) : List α :=
  if q.semaphore = 0 then [] else q.acquire.dequeue.1 :: q.acquire.dequeue.2.tryRecvAll
termination_by q.semaphore
decreasing_by
  rw [dequeue_semaphore, acquire_semaphore]
  omega

/-- No call is under way, and the queue holds `msgs`. -/
structure Holds (q : ScriptMsgQueue α) (msgs : List α) : Prop where
  valid : q.Valid
  contents_eq : q.contents = msgs
  semaphore_eq : q.semaphore = msgs.length

theorem holds_init (zero : α) : (init zero).Holds [] := ⟨valid_init zero, contents_init zero, rfl⟩

/-- With room, a send is accepted. -/
theorem Holds.send {q : ScriptMsgQueue α} {msgs : List α} (h : q.Holds msgs)
    (hroom : msgs.length < SCRIPT_MSG_QUEUE_CAPACITY) (msg : α) :
    (q.send msg).1 = true ∧ (q.send msg).2.Holds (msgs ++ [msg]) := by
  obtain ⟨hvalid, hcontents, hsem⟩ := h
  obtain ⟨hvalid', ⟨hsent, hcontents'⟩ | ⟨-, -, hfull⟩⟩ := enqueue_cases hvalid msg
  · rw [ScriptMsgQueue.send, if_pos hsent]
    refine ⟨rfl, valid_release hvalid', ?_, ?_⟩
    · rw [contents_release, hcontents', hcontents]
    · rw [release_semaphore (by rw [enqueue_semaphore, hsem]; exact hroom), enqueue_semaphore,
        hsem, List.length_append, List.length_singleton]
  · rw [hcontents] at hfull
    exact absurd hfull hroom.ne

/-- Everything that the queue holds is received, in order. -/
theorem Holds.received {q : ScriptMsgQueue α} {msgs : List α} (h : q.Holds msgs) :
    q.tryRecvAll = msgs := by
  induction msgs generalizing q with
  | nil => rw [tryRecvAll, if_pos (h.semaphore_eq.trans List.length_nil)]
  | cons msg msgs ih =>
    have hcontents : q.acquire.contents = msg :: msgs := (contents_acquire q).trans h.contents_eq
    obtain ⟨hmsg, hrest, hvalid⟩ := dequeue_of_cons (valid_acquire h.valid) hcontents
    have hunit : q.semaphore ≠ 0 := h.semaphore_eq.trans_ne (Nat.succ_ne_zero _)
    have hsem : q.acquire.dequeue.2.semaphore = msgs.length := by
      rw [dequeue_semaphore, acquire_semaphore, h.semaphore_eq, List.length_cons,
        Nat.add_sub_cancel]
    rw [tryRecvAll, if_neg hunit, hmsg, ih ⟨hvalid, hrest, hsem⟩]

end ScriptMsgQueue

end Autoscrcpy
