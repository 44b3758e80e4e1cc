import Mathlib.Tactic

/-!
# Sleepers at a bounded buffer

Producers and consumers share a buffer and one condition variable. A producer that finds the buffer
full and a consumer that finds it empty fall asleep on it; whoever gets through signals it, which
wakes one of the sleepers, of either kind. This module counts: how much is in the buffer, and how
many of either kind are asleep.

With at most twice as many threads as places somebody who can go on is always awake (`Live`); with
more, the signals can go to the wrong threads until all are asleep (`reach_all_asleep`).
-/

namespace BoundedBuffer

/-- How much is in the buffer, and how many producers and how many consumers are asleep. -/
@[ext] structure Level where
  filled : ℕ
  producers : ℕ
  consumers : ℕ
  deriving DecidableEq, Repr

/-- A signal wakes one of the sleepers, if there is one. -/
inductive Wakes : ℕ → ℕ → ℕ → ℕ → Prop
  | nobody : Wakes 0 0 0 0
  | producer (sp sc : ℕ) : Wakes (sp + 1) sc sp sc
  | consumer (sp sc : ℕ) : Wakes sp (sc + 1) sp sc

/-- One turn of one of `p` producers or `c` consumers. -/
inductive Turn (p c capacity : ℕ) : Level → Level → Prop
  | push {n sp sc sp' sc' : ℕ} (awake : sp < p) (room : n < capacity)
      (signal : Wakes sp sc sp' sc') : Turn p c capacity ⟨n, sp, sc⟩ ⟨n + 1, sp', sc'⟩
  | pop {n sp sc sp' sc' : ℕ} (awake : sc < c) (room : n < capacity)
      (signal : Wakes sp sc sp' sc') : Turn p c capacity ⟨n + 1, sp, sc⟩ ⟨n, sp', sc'⟩
  | sleepFull {sp sc : ℕ} (awake : sp < p) :
      Turn p c capacity ⟨capacity, sp, sc⟩ ⟨capacity, sp + 1, sc⟩
  | sleepEmpty {sp sc : ℕ} (awake : sc < c) :
      Turn p c capacity ⟨0, sp, sc⟩ ⟨0, sp, sc + 1⟩

variable {p c capacity : ℕ} {l l' : Level}

/-! ## Few threads -/

/-- What keeps the threads going. With all producers asleep, more elements are left to take than
there are sleeping consumers to wake in vain; and so for the consumers. The last field tells from
which end the level comes: on the way the signals have woken as many as the buffer moved. -/
structure Live (p c capacity : ℕ) (l : Level) : Prop where
  producers_le : l.producers ≤ p
  consumers_le : l.consumers ≤ c
  filled_le : l.filled ≤ capacity
  of_producers : l.producers = p → l.consumers < l.filled
  of_consumers : l.consumers = c → l.producers + l.filled < capacity
  sleepers_le :
    (l.producers < capacity ∧ l.producers + l.consumers ≤ p + c - 1 - l.filled) ∨
      (l.consumers < capacity ∧ l.producers + l.consumers ≤ p + c - 1 - (capacity - l.filled))

theorem live_empty (hp : 0 < p) (hc : 0 < c) (hcap : 0 < capacity) :
    Live p c capacity ⟨0, 0, 0⟩ where
  producers_le := Nat.zero_le _
  consumers_le := Nat.zero_le _
  filled_le := Nat.zero_le _
  of_producers h := absurd h hp.ne
  of_consumers h := absurd h hc.ne
  sleepers_le := Or.inl ⟨hcap, Nat.zero_le _⟩

/-- A turn keeps the threads going, when there are at most two for each place. -/
theorem Live.turn (h : Live p c capacity l) (hp : 0 < p) (hc : 0 < c) (hfew : p + c ≤ 2 * capacity)
    (ht : Turn p c capacity l l') : Live p c capacity l' := by
  obtain ⟨h1, h2, h3, h4, h5, h6⟩ := h
  cases ht with
  | push awake room signal => cases signal <;> constructor <;> simp only at * <;> omega
  | pop awake room signal => cases signal <;> constructor <;> simp only at * <;> omega
  | sleepFull awake => constructor <;> simp only at * <;> omega
  | sleepEmpty awake => constructor <;> simp only at * <;> omega

/-- Fewer sleepers at the same level. -/
theorem Live.mono (h : Live p c capacity l) (hfilled : l'.filled = l.filled)
    (hproducers : l'.producers ≤ l.producers) (hconsumers : l'.consumers ≤ l.consumers) :
    Live p c capacity l' := by
  obtain ⟨h1, h2, h3, h4, h5, h6⟩ := h
  constructor <;> omega

/-- Somebody who is awake can go on. -/
theorem Live.goesOn (h : Live p c capacity l) (hp : 0 < p) (hcap : 0 < capacity) :
    l.producers < p ∧ l.filled < capacity ∨ l.consumers < c ∧ 0 < l.filled := by
  obtain ⟨h1, h2, h3, h4, h5, h6⟩ := h
  omega

/-! ## Many threads -/

/-- The same buffer with the places for elements and the producers for consumers. -/
def Level.swap (capacity : ℕ) (l : Level) : Level := ⟨capacity - l.filled, l.consumers, l.producers⟩

theorem Wakes.swap {sp sc sp' sc' : ℕ} (h : Wakes sp sc sp' sc') : Wakes sc sp sc' sp' := by
  cases h with
  | nobody => exact .nobody
  | producer => exact .consumer ..
  | consumer => exact .producer ..

theorem Turn.swap (h : Turn p c capacity l l') :
    Turn c p capacity (l.swap capacity) (l'.swap capacity) := by
  cases h with
  | push awake room signal =>
    rename_i n _ _ _ _
    have hsucc : capacity - n = capacity - (n + 1) + 1 := by omega
    simp only [Level.swap]
    rw [hsucc]
    exact .pop awake (by omega) signal.swap
  | pop awake room signal =>
    rename_i n _ _ _ _
    have hsucc : capacity - n = capacity - (n + 1) + 1 := by omega
    simp only [Level.swap]
    rw [hsucc]
    exact .push awake (by omega) signal.swap
  | sleepFull awake =>
    simp only [Level.swap, Nat.sub_self]
    exact .sleepEmpty awake
  | sleepEmpty awake =>
    simp only [Level.swap, Nat.sub_zero]
    exact .sleepFull awake

/-- The levels that turns lead to. -/
abbrev Reach (p c capacity : ℕ) : Level → Level → Prop :=
  Relation.ReflTransGen (Turn p c capacity)

theorem reach_swap (h : Reach p c capacity l l') :
    Reach c p capacity (l.swap capacity) (l'.swap capacity) := by
  induction h with
  | refl => exact .refl
  | tail _ ht ih => exact ih.tail ht.swap

theorem reach_fill {n : ℕ} (hp : 0 < p) (hn : n ≤ capacity) :
    Reach p c capacity ⟨0, 0, 0⟩ ⟨n, 0, 0⟩ := by
  induction n with
  | zero => exact .refl
  | succ n ih => exact (ih (by omega)).tail (.push hp hn .nobody)

theorem reach_sleepEmpty {sp k : ℕ} (hk : k ≤ c) : Reach p c capacity ⟨0, sp, 0⟩ ⟨0, sp, k⟩ := by
  induction k with
  | zero => exact .refl
  | succ k ih => exact (ih (by omega)).tail (.sleepEmpty hk)

theorem reach_sleepFull {sc k : ℕ} (sp : ℕ) (hk : sp + k ≤ p) :
    Reach p c capacity ⟨capacity, sp, sc⟩ ⟨capacity, sp + k, sc⟩ := by
  induction k with
  | zero => exact .refl
  | succ k ih => exact (ih (by omega)).tail (.sleepFull (by omega))

/-- Pushes that wake producers. -/
theorem reach_push_producers {sp sc k : ℕ} (n : ℕ) (hsp : sp + k < p) (hk : n + k ≤ capacity) :
    Reach p c capacity ⟨n, sp + k, sc⟩ ⟨n + k, sp, sc⟩ := by
  induction k generalizing sp with
  | zero => exact .refl
  | succ k ih =>
    have hfirst : Reach p c capacity ⟨n, sp + 1 + k, sc⟩ ⟨n + k, sp + 1, sc⟩ :=
      ih (by omega) (by omega)
    rw [show sp + (k + 1) = sp + 1 + k by omega]
    exact hfirst.tail (.push (by omega) (by omega) (.producer ..))

/-- Pushes that wake consumers. -/
theorem reach_push_consumers {sp sc k : ℕ} (n : ℕ) (hsp : sp < p) (hk : n + k ≤ capacity) :
    Reach p c capacity ⟨n, sp, sc + k⟩ ⟨n + k, sp, sc⟩ := by
  induction k generalizing sc with
  | zero => exact .refl
  | succ k ih =>
    have hfirst : Reach p c capacity ⟨n, sp, sc + 1 + k⟩ ⟨n + k, sp, sc + 1⟩ := ih (by omega)
    rw [show sc + (k + 1) = sc + 1 + k by omega]
    exact hfirst.tail (.push hsp (by omega) (.consumer ..))

/-- A level named by the numbers it has. -/
theorem Reach.of_eq {n sp sc n' sp' sc' : ℕ} (h : Reach p c capacity l ⟨n, sp, sc⟩) (hn : n = n')
    (hsp : sp = sp') (hsc : sc = sc') : Reach p c capacity l ⟨n', sp', sc'⟩ := by
  rwa [← hn, ← hsp, ← hsc]

/-- From an empty buffer up to a full one: the pushes wake `i` of the `j` sleeping producers first
and then consumers, and at the top all producers fall asleep. -/
theorem reach_up {i j sc : ℕ} (hij : i ≤ j) (hj : j < p) (hi : i ≤ capacity)
    (hsc : capacity - i ≤ sc) :
    Reach p c capacity ⟨0, j, sc⟩ ⟨capacity, p, sc - (capacity - i)⟩ := by
  obtain ⟨rest, rfl⟩ := Nat.exists_eq_add_of_le hij
  obtain ⟨left, rfl⟩ := Nat.exists_eq_add_of_le hsc
  have hproducers : Reach p c capacity ⟨0, i + rest, capacity - i + left⟩
      ⟨i, rest, capacity - i + left⟩ := by
    rw [Nat.add_comm i rest]
    exact (reach_push_producers 0 (by omega) (by omega)).of_eq (Nat.zero_add i) rfl rfl
  have hconsumers : Reach p c capacity ⟨i, rest, capacity - i + left⟩ ⟨capacity, rest, left⟩ := by
    rw [Nat.add_comm (capacity - i) left]
    exact (reach_push_consumers i (by omega) (by omega)).of_eq (by omega) rfl rfl
  have hasleep : Reach p c capacity ⟨capacity, rest, left⟩ ⟨capacity, p, left⟩ :=
    (reach_sleepFull rest (by omega)).of_eq rfl (Nat.add_sub_of_le (by omega)) rfl
  exact Reach.of_eq (hproducers.trans (hconsumers.trans hasleep)) rfl rfl (by omega)

/-- From a full buffer down to an empty one, in the same way. -/
theorem reach_down {i j sp : ℕ} (hij : i ≤ j) (hj : j < c) (hi : i ≤ capacity)
    (hsp : capacity - i ≤ sp) :
    Reach p c capacity ⟨capacity, sp, j⟩ ⟨0, sp - (capacity - i), c⟩ := by
  have hup : Reach c p capacity ⟨0, j, sp⟩ ⟨capacity, c, sp - (capacity - i)⟩ :=
    reach_up hij hj hi hsp
  have h := reach_swap hup
  simpa only [Level.swap, Nat.sub_zero, Nat.sub_self] using h

/-- From an empty buffer with all consumers asleep, up and down until there are enough sleeping
producers to take the signals of a way up; on the way down from there all consumers are woken in
vain. -/
theorem reach_of_many {j : ℕ} (hcap : 0 < capacity) (hc : capacity < c) (hj : j < p)
    (hmany : 2 * capacity < p + c) : Reach p c capacity ⟨0, j, c⟩ ⟨0, p, c⟩ := by
  induction hd : 2 * capacity - c - j using Nat.strong_induction_on generalizing j with
  | _ d ih =>
    rcases le_or_gt (2 * capacity - c) j with henough | hfew
    · have hup : Reach p c capacity ⟨0, j, c⟩
          ⟨capacity, p, c - (capacity - (2 * capacity - c))⟩ :=
        reach_up henough hj (by omega) (by omega)
      have hdown : Reach p c capacity ⟨capacity, p, c - (capacity - (2 * capacity - c))⟩
          ⟨0, p - (capacity - capacity), c⟩ :=
        reach_down (by omega) (by omega) le_rfl (by omega)
      exact Reach.of_eq (hup.trans hdown) rfl (by omega) rfl
    · have hup : Reach p c capacity ⟨0, j, c⟩ ⟨capacity, p, c - (capacity - j)⟩ :=
        reach_up le_rfl hj (by omega) (by omega)
      have hdown : Reach p c capacity ⟨capacity, p, c - (capacity - j)⟩
          ⟨0, p - (capacity - (c - (capacity - j))), c⟩ :=
        reach_down le_rfl (by omega) (by omega) (by omega)
      exact (hup.trans hdown).trans (ih _ (by omega) (by omega) rfl)

/-- With more than two threads for each place all of them can be asleep. -/
theorem reach_all_asleep (hp : 0 < p) (hc : 0 < c) (hcap : 0 < capacity)
    (hmany : 2 * capacity < p + c) : ∃ n, Reach p c capacity ⟨0, 0, 0⟩ ⟨n, p, c⟩ := by
  rcases lt_or_ge capacity c with hlt | hle
  · exact ⟨0, (reach_sleepEmpty le_rfl).trans (reach_of_many hcap hlt hp hmany)⟩
  · have hswapped : Reach c p capacity ⟨0, 0, 0⟩ ⟨0, c, p⟩ :=
      (reach_sleepEmpty le_rfl).trans (reach_of_many hcap (by omega) hc (by omega))
    have h := reach_swap hswapped
    simp only [Level.swap, Nat.sub_zero] at h
    exact ⟨capacity, (reach_fill hp le_rfl).trans h⟩

end BoundedBuffer
