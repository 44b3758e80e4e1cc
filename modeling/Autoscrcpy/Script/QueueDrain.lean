import Autoscrcpy.Script.QueueRuns

/-!
# Draining the script message queue

`script_msg_queue_drain` empties the ring in a locked section and then takes units of the semaphore
until there are none, while other threads are anywhere in their sends and receives. A thread that is
between its two steps stands for a message that the reset has discarded, and a message that is sent
while the loop runs can lose its unit to it, so units and messages can end up out of step.

`Balanced k` counts the units that no message stands for. The drain is safe in the runs in which the
loop ends at `k = 0` and no receive finds the ring empty meanwhile (`drainSafe_iff`).
-/

namespace Autoscrcpy

open SignalledQueue (ThreadAct ThreadPhase)

/-- Where the one drain is. -/
inductive DrainPhase where
  | before
  | looping
  | ended
  deriving DecidableEq, Repr

/-- The steps of the threads, the locked section of the drain, and one wait of its loop. -/
inductive DrainAct (τ α : Type*) where
  | thread (a : ThreadAct τ α)
  | reset
  | take
  deriving DecidableEq, Repr

structure QueueDrain (τ α : Type*) where
  threads : QueueThreads τ α
  drain : DrainPhase

variable {τ α : Type*}

/-- The locked section of `script_msg_queue_drain`. -/
def ScriptMsgQueue.reset (q : ScriptMsgQueue α) : ScriptMsgQueue α :=
  { q with head := 0, tail := 0, count := 0 }

theorem ScriptMsgQueue.valid_reset (q : ScriptMsgQueue α) : q.reset.Valid :=
  ⟨Nat.zero_lt_succ _, Nat.zero_le _, rfl⟩

@[simp] theorem ScriptMsgQueue.contents_reset (q : ScriptMsgQueue α) : q.reset.contents = [] := rfl

def QueueDrain.init (zero : α) : QueueDrain τ α := ⟨.init zero, .before⟩

/-- No call is under way any more. -/
def QueueDrain.Finished (s : QueueDrain τ α) : Prop :=
  s.drain = .ended ∧ ∀ t, s.threads.phase t = .idle

/-- What happens to messages. -/
inductive QueueEvent (α : Type*) where
  | accepted (msg : α)
  | returned (msg : α)
  | discarded
  deriving DecidableEq, Repr

/-- The message was sent, and no reset has come since. -/
def SentBefore (events : List (QueueEvent α)) (msg : α) : Prop :=
  ∃ pre post, events = pre ++ .accepted msg :: post ∧ .discarded ∉ post

/-- Every message that a receive returns was sent and not discarded. -/
def ReturnsSent (events : List (QueueEvent α)) : Prop :=
  ∀ pre msg post, events = pre ++ .returned msg :: post → SentBefore pre msg

section Step

variable [DecidableEq τ]

def drainStep (s : QueueDrain τ α) : DrainAct τ α → QueueDrain τ α
  | .thread a => { s with threads := queueStep s.threads a }
  | .reset =>
      if s.drain = .before then ⟨{ s.threads with queue := s.threads.queue.reset }, .looping⟩ else s
  | .take =>
      if s.drain = .looping then
        if 0 < s.threads.queue.semaphore then
          { s with threads := { s.threads with queue := s.threads.queue.acquire } }
        else { s with drain := .ended }
      else s

/-- The events of a step. -/
def queueEvents (s : QueueDrain τ α) : DrainAct τ α → List (QueueEvent α)
  | .thread a => (enqueues s.threads a).map .accepted ++ (dequeues s.threads a).map .returned
  | .reset => if s.drain = .before then [.discarded] else []
  | .take => []

/-- What a run with one drain should keep: `count` is at most 256 in every state, receives return
what was sent and not discarded, and when all calls have finished there are as many units as
messages. -/
structure DrainSafe (zero : α) (ops : List (DrainAct τ α)) : Prop where
  count_le : ∀ pre, pre <+: ops →
    (Runs.final drainStep (.init zero) pre).threads.queue.count ≤ SCRIPT_MSG_QUEUE_CAPACITY
  returned : ReturnsSent (Runs.emits drainStep queueEvents (.init zero) ops)
  settled : (Runs.final drainStep (.init zero) ops).Finished →
    (Runs.final drainStep (.init zero) ops).threads.queue.semaphore =
      (Runs.final drainStep (.init zero) ops).threads.queue.count

/-- The step does not part units and messages: while the loop runs no receive finds the ring empty,
and when the loop ends there are as many messages as threads between two steps. -/
def KeepsPairs (s : QueueDrain τ α) : DrainAct τ α → Prop
  | .thread (.receive t) =>
      s.drain = .looping → s.threads.phase t = .receiving → s.threads.queue.count ≠ 0
  | .take =>
      s.drain = .looping → s.threads.queue.semaphore = 0 →
        ∃ busy : Finset τ, (∀ t, t ∈ busy ↔ s.threads.phase t ≠ .idle) ∧
          busy.card = s.threads.queue.count
  | _ => True

/-- A release does not find the semaphore at its maximum. -/
def KeepsUnit (s : QueueDrain τ α) : DrainAct τ α → Prop
  | .thread (.release t) =>
      s.threads.phase t = .releasing → s.threads.queue.semaphore < SCRIPT_MSG_QUEUE_CAPACITY
  | _ => True

end Step

/-! ## Units without a message -/

/-- There are `k` more units, in the semaphore and with threads between two steps, than messages. -/
structure Balanced (k : ℤ) (s : QueueThreads τ α) : Prop where
  valid : s.queue.Valid
  balance : ∃ busy : Finset τ, (∀ t, t ∈ busy ↔ s.phase t ≠ .idle) ∧
    (s.queue.semaphore + busy.card : ℤ) = s.queue.count + k

section Balanced

variable {k : ℤ} {s : QueueThreads τ α}

/-- A balanced queue with no unit missing is the queue without a drain. -/
theorem Balanced.inv (h : Balanced 0 s) : s.Inv := by
  obtain ⟨busy, hbusy, hsum⟩ := h.balance
  refine ⟨h.valid, ?_, busy, hbusy, ?_⟩
  · rw [QueueThreads.abs, ScriptMsgQueue.length_contents]
    exact h.valid.count_le
  · rw [QueueThreads.abs, ScriptMsgQueue.length_contents]
    simp only
    omega

theorem QueueThreads.Inv.balanced (h : s.Inv) : Balanced 0 s := by
  obtain ⟨busy, hbusy, hsum⟩ := h.abs.balance
  rw [QueueThreads.abs, ScriptMsgQueue.length_contents] at hsum
  simp only at hsum
  exact ⟨h.valid, busy, hbusy, by omega⟩

variable [DecidableEq τ]

/-- A step of a thread that finds a message and loses no unit keeps the balance. -/
theorem Balanced.queueStep (h : Balanced k s) {a : ThreadAct τ α}
    (hreceive : ∀ t, a = .receive t → s.phase t = .receiving → s.queue.count ≠ 0)
    (hrelease : ∀ t, a = .release t → s.phase t = .releasing →
      s.queue.semaphore < SCRIPT_MSG_QUEUE_CAPACITY) : Balanced k (queueStep s a) := by
  have hchange := queueChange h.valid hreceive
  obtain ⟨hv, busy, hbusy, hsum⟩ := h
  have hcard : ∀ {t}, s.phase t ≠ .idle → (busy.erase t).card + 1 = busy.card := fun ht =>
    Finset.card_erase_add_one ((hbusy _).2 ht)
  have hcard' : ∀ {t}, s.phase t = .idle → (insert t busy).card = busy.card + 1 := fun ht =>
    Finset.card_insert_of_notMem fun hmem => (hbusy _).1 hmem ht
  generalize enqueues s a = accepted, dequeues s a = returned, Autoscrcpy.queueStep s a = s'
    at hchange ⊢
  cases hchange with
  | none => exact ⟨hv, busy, hbusy, hsum⟩
  | send hphase hvalid hcontents hsem =>
    have hcount := congrArg List.length hcontents
    simp only [List.length_append, List.length_singleton, ScriptMsgQueue.length_contents] at hcount
    refine ⟨hvalid, _, SignalledQueue.mem_insert_iff hbusy _ (by decide), ?_⟩
    simp only [hsem, hcount, hcard' hphase]
    omega
  | release hphase =>
    have hlt := hrelease _ rfl hphase
    have hcount : s.queue.release.count = s.queue.count := by
      rw [ScriptMsgQueue.release, if_pos hlt]
    refine ⟨ScriptMsgQueue.valid_release hv, _, SignalledQueue.mem_erase_iff hbusy _, ?_⟩
    have := hcard (hphase.trans_ne (by decide))
    simp only [ScriptMsgQueue.release_semaphore hlt, hcount]
    omega
  | wait hphase hpos =>
    have hcount : s.queue.acquire.count = s.queue.count := rfl
    refine ⟨ScriptMsgQueue.valid_acquire hv, _,
      SignalledQueue.mem_insert_iff hbusy _ (by decide), ?_⟩
    simp only [ScriptMsgQueue.acquire_semaphore, hcount, hcard' hphase]
    omega
  | receive hphase hvalid hcontents hsem =>
    have hcount := congrArg List.length hcontents
    simp only [List.length_cons, ScriptMsgQueue.length_contents] at hcount
    refine ⟨hvalid, _, SignalledQueue.mem_erase_iff hbusy _, ?_⟩
    have := hcard (hphase.trans_ne (by decide))
    simp only [hsem]
    omega

/-- A release at the maximum loses a unit. -/
theorem Balanced.lost (h : Balanced k s) {t : τ} (ht : s.phase t = .releasing)
    (hfull : ¬ s.queue.semaphore < SCRIPT_MSG_QUEUE_CAPACITY) :
    Balanced (k - 1) (Autoscrcpy.queueStep s (.release t)) := by
  obtain ⟨hv, busy, hbusy, hsum⟩ := h
  have hmem : t ∈ busy := (hbusy t).2 (by simp [ht])
  have hcard := Finset.card_erase_add_one hmem
  have hsame : s.queue.release = s.queue := if_neg hfull
  simp only [Autoscrcpy.queueStep, if_pos ht, hsame]
  exact ⟨hv, busy.erase t, SignalledQueue.mem_erase_iff hbusy t, by simp only; omega⟩

omit [DecidableEq τ] in
/-- The reset leaves the units that there are without messages. -/
theorem Balanced.reset (h : Balanced k s) :
    ∃ k', Balanced k' { s with queue := s.queue.reset } := by
  obtain ⟨-, busy, hbusy, -⟩ := h
  refine ⟨s.queue.semaphore + busy.card, ScriptMsgQueue.valid_reset _, busy, hbusy, ?_⟩
  simp [ScriptMsgQueue.reset]

omit [DecidableEq τ] in
/-- The loop of the drain takes a unit away. -/
theorem Balanced.take (h : Balanced k s) (hpos : 0 < s.queue.semaphore) :
    Balanced (k - 1) { s with queue := s.queue.acquire } := by
  obtain ⟨hv, busy, hbusy, hsum⟩ := h
  refine ⟨ScriptMsgQueue.valid_acquire hv, busy, hbusy, ?_⟩
  have hcount : s.queue.acquire.count = s.queue.count := rfl
  simp only [ScriptMsgQueue.acquire_semaphore, hcount]
  omega

end Balanced

/-! ## Runs with a drain -/

section Runs

variable [DecidableEq τ]

/-- The units and the messages are in step, except while the loop of the drain runs. -/
def QueueDrain.Inv (s : QueueDrain τ α) : Prop :=
  ∃ k, Balanced k s.threads ∧ (s.drain ≠ .looping → k = 0)

omit [DecidableEq τ] in
theorem QueueDrain.inv_init (zero : α) : (QueueDrain.init zero : QueueDrain τ α).Inv :=
  ⟨0, (QueueThreads.inv_init zero).balanced, fun _ => rfl⟩

omit [DecidableEq τ] in
theorem Balanced.card_eq {k : ℤ} {s : QueueThreads τ α} (h : Balanced k s) {busy : Finset τ}
    (hbusy : ∀ t, t ∈ busy ↔ s.phase t ≠ .idle) :
    (s.queue.semaphore + busy.card : ℤ) = s.queue.count + k := by
  obtain ⟨-, busy', hbusy', hsum⟩ := h
  rwa [Finset.ext fun t => (hbusy t).trans (hbusy' t).symm]

theorem inv_drainStep {s : QueueDrain τ α} (h : s.Inv) {a : DrainAct τ α} (hok : KeepsPairs s a) :
    (drainStep s a).Inv := by
  obtain ⟨k, hk, hzero⟩ := h
  cases a with
  | thread a =>
    by_cases hloop : s.drain = .looping
    · have hreceive : ∀ t, a = .receive t → s.threads.phase t = .receiving →
          s.threads.queue.count ≠ 0 := by
        rintro t rfl
        exact hok hloop
      by_cases hlost : ∃ t, a = .release t ∧ s.threads.phase t = .releasing ∧
          ¬ s.threads.queue.semaphore < SCRIPT_MSG_QUEUE_CAPACITY
      · obtain ⟨t, rfl, ht, hfull⟩ := hlost
        exact ⟨k - 1, hk.lost ht hfull, fun hne => absurd hloop hne⟩
      · push Not at hlost
        exact ⟨k, hk.queueStep hreceive hlost, fun hne => absurd hloop hne⟩
    · obtain rfl := hzero hloop
      have hinv := hk.inv
      refine ⟨0, hk.queueStep (fun t _ ht => ?_) (fun t _ ht => ?_), fun _ => rfl⟩
      · exact (hinv.count_pos (t := t) (by simp [ht])).ne'
      · exact hinv.semaphore_lt (t := t) (by simp [ht])
  | reset =>
    simp only [drainStep]
    split_ifs with hbefore
    · obtain ⟨k', hk'⟩ := hk.reset
      exact ⟨k', hk', fun hne => absurd rfl hne⟩
    · exact ⟨k, hk, hzero⟩
  | take =>
    simp only [drainStep]
    split_ifs with hloop hpos
    · exact ⟨k - 1, hk.take hpos, fun hne => absurd hloop hne⟩
    · obtain ⟨busy, hbusy, hcard⟩ := hok hloop (by omega)
      have hsum := hk.card_eq hbusy
      exact ⟨k, hk, fun _ => by omega⟩
    · exact ⟨k, hk, hzero⟩

/-! ## Events -/

omit [DecidableEq τ] in
theorem SentBefore.append {events : List (QueueEvent α)} {msg : α} (h : SentBefore events msg)
    {more : List (QueueEvent α)} (hmore : .discarded ∉ more) : SentBefore (events ++ more) msg := by
  obtain ⟨pre, post, rfl, hpost⟩ := h
  exact ⟨pre, post ++ more, by simp, by simp [hpost, hmore]⟩

theorem ReturnsSent.append_singleton {events : List (QueueEvent α)} (h : ReturnsSent events)
    {e : QueueEvent α} (he : ∀ msg, e = .returned msg → SentBefore events msg) :
    ReturnsSent (events ++ [e]) := by
  intro pre msg post heq
  rcases List.eq_nil_or_concat post with rfl | ⟨post, e', rfl⟩
  · obtain ⟨rfl, hlast⟩ := List.append_inj' heq rfl
    exact he msg (List.cons.inj hlast).1
  · rw [List.concat_eq_append, ← List.cons_append, ← List.append_assoc] at heq
    exact h pre msg post (List.append_inj' heq rfl).1

/-- The receives so far have returned what was sent, and the queue holds nothing else. -/
structure Accounted (events : List (QueueEvent α)) (s : QueueDrain τ α) : Prop where
  returned : ReturnsSent events
  queued : ∀ msg ∈ s.threads.queue.contents, SentBefore events msg

theorem Accounted.step {events : List (QueueEvent α)} {s : QueueDrain τ α} (h : Accounted events s)
    (hv : s.threads.queue.Valid) {a : DrainAct τ α}
    (hreceive : ∀ t, a = .thread (.receive t) → s.threads.phase t = .receiving →
      s.threads.queue.count ≠ 0) :
    Accounted (events ++ queueEvents s a) (drainStep s a) := by
  obtain ⟨hreturned, hqueued⟩ := h
  cases a with
  | thread a =>
    have hchange := queueChange (a := a) hv fun t ha => hreceive t (by rw [ha])
    simp only [queueEvents, drainStep]
    generalize enqueues s.threads a = accepted, dequeues s.threads a = returned,
      queueStep s.threads a = s' at hchange ⊢
    cases hchange with
    | none => simpa using ⟨hreturned, hqueued⟩
    | @send t msg q _ _ hcontents _ =>
      rw [List.map_nil, List.append_nil]
      refine ⟨hreturned.append_singleton (fun _ h => by cases h), fun m hm => ?_⟩
      simp only [hcontents, List.mem_append, List.mem_singleton] at hm
      rcases hm with hm | rfl
      · exact (hqueued m hm).append (by simp)
      · exact ⟨events, [], rfl, by simp⟩
    | release =>
      rw [List.map_nil, List.map_nil, List.append_nil, List.append_nil]
      refine ⟨hreturned, fun m hm => hqueued m ?_⟩
      rwa [← ScriptMsgQueue.contents_release]
    | wait =>
      rw [List.map_nil, List.map_nil, List.append_nil, List.append_nil]
      exact ⟨hreturned, hqueued⟩
    | @receive t msg q _ _ hcontents _ =>
      rw [List.map_nil, List.nil_append]
      refine ⟨hreturned.append_singleton fun m hm => ?_, fun m hm => ?_⟩
      · obtain rfl := QueueEvent.returned.inj hm
        exact hqueued _ (hcontents ▸ List.mem_cons_self ..)
      · exact (hqueued m (hcontents ▸ List.mem_cons_of_mem _ hm)).append (by simp)
  | reset =>
    simp only [queueEvents, drainStep]
    split_ifs
    · exact ⟨hreturned.append_singleton (fun _ h => by cases h), fun m hm => by simp at hm⟩
    · rw [List.append_nil]
      exact ⟨hreturned, hqueued⟩
  | take =>
    simp only [queueEvents, drainStep, List.append_nil]
    refine ⟨hreturned, fun m hm => hqueued m ?_⟩
    split_ifs at hm <;> exact hm

omit [DecidableEq τ] in
/-- Where every step keeps the pairs, a receive finds a message. -/
theorem QueueDrain.Inv.count_ne_zero {s : QueueDrain τ α} (h : s.Inv) {t : τ}
    (hok : KeepsPairs s (.thread (.receive t))) (ht : s.threads.phase t = .receiving) :
    s.threads.queue.count ≠ 0 := by
  obtain ⟨k, hk, hzero⟩ := h
  by_cases hloop : s.drain = .looping
  · exact hok hloop ht
  · obtain rfl := hzero hloop
    exact (hk.inv.count_pos (t := t) (by simp [ht])).ne'

/-- A run whose steps keep the pairs is accounted for at its end. -/
theorem accounted_final (zero : α) {ops : List (DrainAct τ α)}
    (hok : ∀ x ∈ Runs.visits drainStep (.init zero) ops, KeepsPairs x.1 x.2) :
    (Runs.final drainStep (.init zero) ops).Inv ∧
      Accounted (Runs.emits drainStep queueEvents (.init zero) ops)
        (Runs.final drainStep (.init zero) ops) := by
  induction ops using List.reverseRecOn with
  | nil =>
    refine ⟨QueueDrain.inv_init zero, ⟨?_, fun m hm => ?_⟩⟩
    · intro pre msg post heq
      simp at heq
    · simp [QueueDrain.init, QueueThreads.init] at hm
  | append_singleton ops a ih =>
    rw [Runs.visits_append] at hok
    obtain ⟨hpre, hlast⟩ := List.forall_mem_append.1 hok
    obtain ⟨hinv, haccounted⟩ := ih hpre
    have hkeeps := hlast (Runs.final drainStep (.init zero) ops, a) (by simp)
    rw [Runs.final_append_singleton, Runs.emits_append_singleton]
    have hv : (Runs.final drainStep (.init zero) ops).threads.queue.Valid :=
      hinv.elim fun _ hk => hk.1.valid
    refine ⟨inv_drainStep hinv hkeeps, haccounted.step hv ?_⟩
    rintro t rfl ht
    exact hinv.count_ne_zero hkeeps ht

omit [DecidableEq τ] in
/-- With no thread between two steps the semaphore tells the messages and the units without one. -/
theorem Balanced.semaphore_eq {k : ℤ} {s : QueueThreads τ α} (h : Balanced k s)
    (hidle : ∀ t, s.phase t = .idle) : (s.queue.semaphore : ℤ) = s.queue.count + k := by
  have hbusy : ∀ t, t ∈ (∅ : Finset τ) ↔ s.phase t ≠ .idle := by simp [hidle]
  simpa using h.card_eq hbusy

/-- A run whose steps keep the pairs is safe. -/
theorem drainSafe_of_keepsPairs (zero : α) {ops : List (DrainAct τ α)}
    (hok : ∀ x ∈ Runs.visits drainStep (.init zero) ops, KeepsPairs x.1 x.2) :
    DrainSafe zero ops := by
  obtain ⟨hinv, haccounted⟩ := accounted_final zero hok
  refine ⟨fun pre hpre => ?_, haccounted.returned, fun hfin => ?_⟩
  · obtain ⟨post, rfl⟩ := hpre
    rw [Runs.visits_append] at hok
    obtain ⟨k, hk, -⟩ := (accounted_final zero (List.forall_mem_append.1 hok).1).1
    exact hk.valid.count_le
  · obtain ⟨k, hk, hzero⟩ := hinv
    obtain rfl := hzero (by rw [hfin.1]; decide)
    have hsum := hk.semaphore_eq hfin.2
    omega

/-! ## Runs that part units and messages -/

omit [DecidableEq τ] in
/-- The locked section of a receive makes the count of an empty ring wrap. -/
theorem dequeue_count_gt {q : ScriptMsgQueue α} (h : q.count = 0) :
    SCRIPT_MSG_QUEUE_CAPACITY < q.dequeue.2.count := by
  rw [ScriptMsgQueue.dequeue, h]
  exact (by decide : 256 < (0 + (2 ^ 32 - 1)) % 2 ^ 32)

/-- A receive finds a message if it finds one when the step is a receive. -/
def FindsMessage (s : QueueDrain τ α) (a : DrainAct τ α) : Prop :=
  ∀ t, a = .thread (.receive t) → s.threads.phase t = .receiving → s.threads.queue.count ≠ 0

/-- Without lost units and receives of nothing there is always some balance, and the same one after
the drain. -/
theorem balanced_drainStep {k : ℤ} {s : QueueDrain τ α} (h : Balanced k s.threads)
    {a : DrainAct τ α} (hfinds : FindsMessage s a) (hunit : KeepsUnit s a) :
    ∃ k', Balanced k' (drainStep s a).threads ∧
      (s.drain = .ended → (drainStep s a).drain = .ended ∧ k' = k) := by
  cases a with
  | thread a =>
    refine ⟨k, h.queueStep (fun t ha => hfinds t (by rw [ha])) (fun t ha => ?_),
      fun hend => ⟨hend, rfl⟩⟩
    subst ha
    exact hunit
  | reset =>
    simp only [drainStep]
    split_ifs with hbefore
    · obtain ⟨k', hk'⟩ := h.reset
      exact ⟨k', hk', fun hend => absurd (hbefore.symm.trans hend) (by decide)⟩
    · exact ⟨k, h, fun hend => ⟨hend, rfl⟩⟩
  | take =>
    simp only [drainStep]
    split_ifs with hloop hpos
    · exact ⟨k - 1, h.take hpos, fun hend => absurd (hloop.symm.trans hend) (by decide)⟩
    · exact ⟨k, h, fun _ => ⟨rfl, rfl⟩⟩
    · exact ⟨k, h, fun hend => ⟨hend, rfl⟩⟩

/-- In a safe run every receive finds a message. -/
theorem DrainSafe.findsMessage {zero : α} {ops : List (DrainAct τ α)} (h : DrainSafe zero ops) :
    ∀ x ∈ Runs.visits drainStep (.init zero) ops, FindsMessage x.1 x.2 := by
  rintro ⟨s, a⟩ hx t rfl ht hzero
  obtain ⟨pre, post, rfl, hs⟩ := Runs.mem_visits_iff.1 hx
  have hle := h.count_le (pre ++ [.thread (.receive t)]) ⟨post, by simp⟩
  rw [Runs.final_append_singleton, ← hs] at hle
  have hstep : (drainStep s (.thread (.receive t))).threads.queue = s.threads.queue.dequeue.2 := by
    simp only at ht
    simp only [drainStep, queueStep, if_pos ht]
  rw [hstep] at hle
  exact absurd (dequeue_count_gt hzero) (not_lt.2 hle)

/-- A safe run that ends with all calls finished, and that has lost no unit, keeps the pairs at
every step. -/
theorem DrainSafe.keepsPairs {zero : α} {ops : List (DrainAct τ α)} (h : DrainSafe zero ops)
    (hfin : (Runs.final drainStep (.init zero) ops).Finished)
    (hunit : ∀ x ∈ Runs.visits drainStep (.init zero) ops, KeepsUnit x.1 x.2) :
    ∀ x ∈ Runs.visits drainStep (.init zero) ops, KeepsPairs x.1 x.2 := by
  have hfinds := h.findsMessage
  rintro ⟨s, a⟩ hx
  cases a with
  | thread a =>
    cases a with
    | receive t => exact fun _ ht => hfinds _ hx t rfl ht
    | send t msg => trivial
    | release t => trivial
    | wait t => trivial
  | reset => trivial
  | take =>
    intro hloop hsem
    obtain ⟨pre, post, rfl, rfl⟩ := Runs.mem_visits_iff.1 hx
    simp only at hloop hsem
    rw [Runs.visits_append, Runs.visits_cons] at hfinds hunit
    obtain ⟨hfindsPre, hfindsPost⟩ := List.forall_mem_append.1 hfinds
    obtain ⟨hunitPre, hunitPost⟩ := List.forall_mem_append.1 hunit
    -- the balance at this step is the one at the end, where it is `0`
    obtain ⟨k, hk⟩ : ∃ k, Balanced k (Runs.final drainStep (.init zero) pre).threads :=
      (Runs.invariant (I := fun s : QueueDrain τ α => ∃ k, Balanced k s.threads)
        (fun x hmem hbal => by
          obtain ⟨k, hk⟩ := hbal
          obtain ⟨k', hk', -⟩ := balanced_drainStep hk (hfindsPre x hmem) (hunitPre x hmem)
          exact ⟨k', hk'⟩) ⟨0, (QueueThreads.inv_init zero).balanced⟩).2
    set s := Runs.final drainStep (.init zero) pre
    have hstep : drainStep s .take = { s with drain := .ended } := by
      rw [drainStep, if_pos hloop, if_neg (by omega)]
    have hend : Balanced k (Runs.final drainStep (drainStep s .take) post).threads :=
      (Runs.invariant (I := fun s : QueueDrain τ α => s.drain = .ended ∧ Balanced k s.threads)
        (fun x hmem hbal => by
          obtain ⟨k', hk', heq⟩ := balanced_drainStep hbal.2
            (hfindsPost x (List.mem_cons_of_mem _ hmem)) (hunitPost x (List.mem_cons_of_mem _ hmem))
          obtain ⟨hended, rfl⟩ := heq hbal.1
          exact ⟨hended, hk'⟩) (by rw [hstep]; exact ⟨rfl, hk⟩)).2.2
    have hsettled : (Runs.final drainStep (drainStep s .take) post).threads.queue.semaphore =
        (Runs.final drainStep (drainStep s .take) post).threads.queue.count := by
      have hall := h.settled hfin
      rwa [Runs.final_append] at hall
    rw [Runs.final_append] at hfin
    have hsum := hend.semaphore_eq hfin.2
    obtain ⟨-, busy, hbusy, hcard⟩ := hk
    refine ⟨busy, hbusy, ?_⟩
    show busy.card = s.threads.queue.count
    omega

/-- In every interleaving of any number of threads with one drain: steps that keep units and
messages in pairs make the run safe, and a run that is safe when all calls have finished, without a
unit lost at the maximum, has such steps only. -/
theorem drainSafe_iff (zero : α) (ops : List (DrainAct τ α)) :
    ((∀ x ∈ Runs.visits drainStep (.init zero) ops, KeepsPairs x.1 x.2) → DrainSafe zero ops) ∧
      ((Runs.final drainStep (.init zero) ops).Finished →
        (∀ x ∈ Runs.visits drainStep (.init zero) ops, KeepsUnit x.1 x.2) →
        DrainSafe zero ops → ∀ x ∈ Runs.visits drainStep (.init zero) ops, KeepsPairs x.1 x.2) :=
  ⟨drainSafe_of_keepsPairs zero, fun hfin hunit h => h.keepsPairs hfin hunit⟩

end Runs

/-- A drain between two sends. -/
theorem drainSafe_iff_alone : DrainSafe (τ := ℕ) 0 [.thread (.send 0 7), .thread (.release 0),
    .reset, .take, .take, .thread (.send 1 8), .thread (.release 1)] := by
  refine (drainSafe_iff 0 _).1 fun x hx => ?_
  simp only [Runs.visits_cons, Runs.visits_nil, List.mem_cons, List.not_mem_nil, or_false] at hx
  rcases hx with rfl | rfl | rfl | rfl | rfl | rfl | rfl
  · trivial
  · trivial
  · trivial
  · exact fun _ hsem => absurd hsem (by decide)
  · refine fun _ _ => ⟨∅, fun t => ?_, rfl⟩
    have hphase : Function.update (Function.update (fun _ : ℕ => ThreadPhase.idle) 0 .releasing) 0
        .idle t = .idle := by rw [Function.update_idem, Function.update_eq_self]
    exact iff_of_false (Finset.notMem_empty t) (not_not.2 hphase)
  · trivial
  · trivial

/-- A receive that has its unit when the drain resets the ring makes `count` wrap; and a message
that is sent while the loop runs loses its unit. -/
theorem drain_wraps :
    ¬ DrainSafe (τ := ℕ) 0 [.thread (.send 0 7), .thread (.release 0), .thread (.wait 1),
        .reset, .thread (.receive 1), .take] ∧
      ¬ DrainSafe (τ := ℕ) 0 [.reset, .thread (.send 0 7), .thread (.release 0), .take, .take] := by
  constructor
  · intro h
    have hle := h.count_le _ List.prefix_rfl
    exact absurd hle (by decide)
  · intro h
    have hidle (t : ℕ) : Function.update (Function.update (fun _ : ℕ => ThreadPhase.idle) 0
        .releasing) 0 .idle t = .idle := by rw [Function.update_idem, Function.update_eq_self]
    exact absurd (h.settled ⟨rfl, hidle⟩) (by decide)

end Autoscrcpy
