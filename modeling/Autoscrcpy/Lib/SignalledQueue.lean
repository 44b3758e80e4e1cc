import Autoscrcpy.Lib.Runs

/-!
# A bounded queue with a semaphore

Any number of threads send to and receive from one queue. A send is two steps, the append and the
release of a unit; a receive is two steps, the wait for a unit and the removal, which does not look
whether there is anything to remove. A thread between its two steps stands for one queued element
that no unit stands for, so the units and these threads add up to the elements (`Inv`).
-/

namespace SignalledQueue

/-- Where a thread is: between the two steps of a send, or of a receive. -/
inductive ThreadPhase where
  | idle
  | releasing
  | receiving
  deriving DecidableEq, Repr

/-- The atomic steps, each of one thread. A wait ends without a unit when there is none. -/
inductive ThreadAct (τ α : Type*) where
  | send (t : τ) (x : α)
  | release (t : τ)
  | wait (t : τ)
  | receive (t : τ)
  deriving DecidableEq, Repr

structure State (τ α : Type*) where
  queued : List α
  units : ℕ
  phase : τ → ThreadPhase

variable {τ α : Type*} {capacity : ℕ}

def State.init : State τ α := ⟨[], 0, fun _ => .idle⟩

/-! ## The invariant -/

/-- The units and the threads that are between two steps add up to the queued elements. -/
structure Inv (capacity : ℕ) (s : State τ α) : Prop where
  length_le : s.queued.length ≤ capacity
  balance : ∃ busy : Finset τ, (∀ t, t ∈ busy ↔ s.phase t ≠ .idle) ∧
    s.units + busy.card = s.queued.length

theorem inv_init : Inv capacity (State.init : State τ α) :=
  ⟨Nat.zero_le _, ∅, by simp [State.init], rfl⟩

section

variable {s : State τ α}

/-- A thread between two steps stands for an element without a unit. -/
theorem Inv.units_lt (h : Inv capacity s) {t : τ} (ht : s.phase t ≠ .idle) :
    s.units < s.queued.length := by
  obtain ⟨busy, hbusy, hsum⟩ := h.balance
  have := Finset.card_pos.2 ⟨t, (hbusy t).2 ht⟩
  omega

theorem Inv.units_le (h : Inv capacity s) : s.units ≤ s.queued.length := by
  obtain ⟨busy, -, hsum⟩ := h.balance
  omega

theorem Inv.queued_ne_nil (h : Inv capacity s) {t : τ} (ht : s.phase t ≠ .idle) :
    s.queued ≠ [] := by
  have := h.units_lt ht
  exact List.length_pos_iff.1 (by omega)

end

/-! ## The steps -/

variable [DecidableEq τ]

variable (capacity) in
/-- One step; a thread that is elsewhere leaves the state as it is. -/
def step (s : State τ α) : ThreadAct τ α → State τ α
  | .send t x =>
      if s.phase t = .idle ∧ s.queued.length < capacity then
        ⟨s.queued ++ [x], s.units, Function.update s.phase t .releasing⟩
      else s
  | .release t =>
      if s.phase t = .releasing then
        ⟨s.queued, s.units + 1, Function.update s.phase t .idle⟩
      else s
  | .wait t =>
      if s.phase t = .idle ∧ 0 < s.units then
        ⟨s.queued, s.units - 1, Function.update s.phase t .receiving⟩
      else s
  | .receive t =>
      if s.phase t = .receiving then
        ⟨s.queued.tail, s.units, Function.update s.phase t .idle⟩
      else s

variable (capacity) in
/-- The element that a step puts into the queue. -/
def accepts (s : State τ α) : ThreadAct τ α → List α
  | .send t x => if s.phase t = .idle ∧ s.queued.length < capacity then [x] else []
  | _ => []

/-- The element that a step takes out of the queue. -/
def takes (s : State τ α) : ThreadAct τ α → List α
  | .receive t => if s.phase t = .receiving then s.queued.take 1 else []
  | _ => []

/-- A thread that leaves its idle phase joins the busy ones. -/
theorem mem_insert_iff {phase : τ → ThreadPhase} {busy : Finset τ}
    (hbusy : ∀ t, t ∈ busy ↔ phase t ≠ .idle) (t : τ) {p : ThreadPhase} (hp : p ≠ .idle) (t' : τ) :
    t' ∈ insert t busy ↔ Function.update phase t p t' ≠ .idle := by
  rw [Finset.mem_insert, Function.update_apply]
  split_ifs with h
  · exact iff_of_true (Or.inl h) hp
  · rw [or_iff_right h, hbusy]

/-- A thread that goes back to its idle phase leaves the busy ones. -/
theorem mem_erase_iff {phase : τ → ThreadPhase} {busy : Finset τ}
    (hbusy : ∀ t, t ∈ busy ↔ phase t ≠ .idle) (t t' : τ) :
    t' ∈ busy.erase t ↔ Function.update phase t .idle t' ≠ .idle := by
  rw [Finset.mem_erase, Function.update_apply]
  split_ifs with h
  · exact iff_of_false (fun hmem => hmem.1 h) (fun hne => hne rfl)
  · rw [and_iff_right h, hbusy]

section

variable {s : State τ α}

theorem inv_step (h : Inv capacity s) (a : ThreadAct τ α) : Inv capacity (step capacity s a) := by
  obtain ⟨busy, hbusy, hsum⟩ := h.balance
  have hle := h.length_le
  cases a with
  | send t x =>
    rw [step]
    split_ifs with hc
    · obtain ⟨hidle, hlt⟩ := hc
      have hnew : t ∉ busy := fun hmem => (hbusy t).1 hmem hidle
      refine ⟨?_, insert t busy, mem_insert_iff hbusy t (by decide), ?_⟩
      · rw [List.length_append]
        exact hlt
      · rw [Finset.card_insert_of_notMem hnew, List.length_append, List.length_singleton,
          ← Nat.add_assoc, hsum]
    · exact h
  | release t =>
    rw [step]
    split_ifs with hc
    · have hmem : t ∈ busy := (hbusy t).2 (by simp [hc])
      refine ⟨hle, busy.erase t, mem_erase_iff hbusy t, ?_⟩
      rw [← Finset.card_erase_add_one hmem] at hsum
      exact (Nat.add_right_comm _ _ _).trans hsum
    · exact h
  | wait t =>
    rw [step]
    split_ifs with hc
    · obtain ⟨hidle, hpos⟩ := hc
      have hnew : t ∉ busy := fun hmem => (hbusy t).1 hmem hidle
      refine ⟨hle, insert t busy, mem_insert_iff hbusy t (by decide), ?_⟩
      rw [Finset.card_insert_of_notMem hnew]
      have : s.units - 1 + (busy.card + 1) = s.queued.length := by omega
      exact this
    · exact h
  | receive t =>
    rw [step]
    split_ifs with hc
    · have hmem : t ∈ busy := (hbusy t).2 (by simp [hc])
      rw [← Finset.card_erase_add_one hmem] at hsum
      refine ⟨?_, busy.erase t, mem_erase_iff hbusy t, ?_⟩
      · rw [List.length_tail]
        exact (Nat.sub_le _ _).trans hle
      · rw [List.length_tail, ← hsum]
        rfl
    · exact h

/-- A step takes from the front what it takes, and puts at the back what it puts. -/
theorem queued_step (h : Inv capacity s) (a : ThreadAct τ α) :
    s.queued ++ accepts capacity s a = takes s a ++ (step capacity s a).queued := by
  cases a with
  | send t x =>
    simp only [accepts, takes, step]
    split_ifs <;> simp
  | release t =>
    simp only [accepts, takes, step]
    split_ifs <;> simp
  | wait t =>
    simp only [accepts, takes, step]
    split_ifs <;> simp
  | receive t =>
    simp only [accepts, takes, step]
    split_ifs with hc
    · have hne := h.queued_ne_nil (t := t) (by simp [hc])
      obtain ⟨x, rest, hx⟩ := List.exists_cons_of_ne_nil hne
      simp [hx]
    · simp

end

/-! ## Runs -/

theorem inv_final (ops : List (ThreadAct τ α)) :
    Inv capacity (Runs.final (step capacity) State.init ops) :=
  (Runs.invariant (fun _ _ h => inv_step h _) inv_init).2

/-- The elements accepted in a run are those taken, followed by those still queued: the queue is a
FIFO under every interleaving. -/
theorem accepted_eq (ops : List (ThreadAct τ α)) :
    Runs.emits (step capacity) (accepts capacity) State.init ops =
      Runs.emits (step capacity) takes State.init ops ++
        (Runs.final (step capacity) State.init ops).queued := by
  induction ops using List.reverseRecOn with
  | nil => rfl
  | append_singleton ops a ih =>
    rw [Runs.emits_append_singleton, Runs.emits_append_singleton, Runs.final_append_singleton, ih,
      List.append_assoc, List.append_assoc, queued_step (inv_final ops) a]

end SignalledQueue
