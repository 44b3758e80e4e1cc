import Autoscrcpy.Lib.Runs
import Autoscrcpy.Lib.WaitLevels

/-!
# A bounded buffer with one condition variable

Any number of threads push to and pop from one buffer, under one mutex, and wait on one condition
variable: `while (full && !finished) wait`, then the change and one signal. What a call does from
taking the mutex to giving it up, at its end or in a wait, is one step. A signal wakes one of the
sleepers, whichever the system picks, and a sleeper may also wake for no reason.

The elements come out in the order in which they went in (`delivers_append_queued`), and somebody
can always go on just when there are at most two threads for each place (`goesOn_iff`).
-/

namespace BoundedBuffer

inductive Role where
  | producer
  | consumer
  deriving DecidableEq, Repr

/-- The call that a thread is in. -/
inductive Call (α : Type*) where
  | push (x : α)
  | pop
  deriving DecidableEq, Repr

def Call.role {α : Type*} : Call α → Role
  | .push _ => .producer
  | .pop => .consumer

structure State (τ α : Type*) where
  queued : List α
  finished : Bool
  call : τ → Option (Call α)
  asleep : List τ

/-- The steps of the threads. `stored` tells whether a push finds memory for its element, and `pick`
whom the signal wakes. -/
inductive Op (τ α : Type*) where
  | enter (t : τ) (c : Call α)
  | attempt (t : τ) (stored : Bool) (pick : ℕ)
  | finish
  | wake (t : τ)
  deriving DecidableEq, Repr

variable {τ α : Type*}

def State.init : State τ α := ⟨[], false, fun _ => none, []⟩

/-- The sleepers that a signal leaves. -/
def signal (asleep : List τ) (pick : ℕ) : List τ := asleep.eraseIdx (pick % asleep.length)

/-! ## Counting the sleepers -/

section

variable {role : τ → Role} {l : List τ} {t : τ}

/-- The sleepers of a role. -/
abbrev sleepers (role : τ → Role) (r : Role) (l : List τ) : ℕ := l.countP fun t => role t = r

/-- The threads of a role. -/
def threads [Fintype τ] (role : τ → Role) (r : Role) : ℕ :=
  (Finset.univ.filter fun t => role t = r).card

theorem sleepers_cons (role : τ → Role) (r : Role) (t : τ) (l : List τ) :
    sleepers role r (t :: l) = sleepers role r l + if role t = r then 1 else 0 := by
  simp [sleepers, List.countP_cons]

theorem sleepers_of_perm (role : τ → Role) (r : Role) {l' : List τ} (h : l.Perm (t :: l')) :
    sleepers role r l = sleepers role r l' + if role t = r then 1 else 0 := by
  rw [sleepers, h.countP_eq]
  exact sleepers_cons role r t l'

/-- A signal takes one of the sleepers out. -/
theorem signal_perm (hl : l ≠ []) (pick : ℕ) : ∃ t, l.Perm (t :: signal l pick) :=
  ⟨_, (List.getElem_cons_eraseIdx_perm
    (Nat.mod_lt pick (List.length_pos_iff.2 hl))).symm⟩

theorem nodup_signal (hl : l.Nodup) (pick : ℕ) : (signal l pick).Nodup :=
  hl.sublist (List.eraseIdx_sublist l _)

/-- In the counts, a signal wakes one of the sleepers if there is one. -/
theorem wakes_signal (role : τ → Role) (l : List τ) (pick : ℕ) :
    Wakes (sleepers role .producer l) (sleepers role .consumer l)
      (sleepers role .producer (signal l pick)) (sleepers role .consumer (signal l pick)) := by
  rcases eq_or_ne l [] with rfl | hl
  · exact .nobody
  · obtain ⟨t, hperm⟩ := signal_perm hl pick
    rw [sleepers_of_perm role .producer hperm, sleepers_of_perm role .consumer hperm]
    cases role t with
    | producer => exact .producer ..
    | consumer => exact .consumer ..

variable [DecidableEq τ]

/-- Any sleeper can be the one that a signal wakes. -/
theorem exists_signal (ht : t ∈ l) : ∃ pick, l.Perm (t :: signal l pick) := by
  refine ⟨l.idxOf t, ?_⟩
  have hlt : l.idxOf t < l.length := List.idxOf_lt_length_iff.2 ht
  rw [signal, Nat.mod_eq_of_lt hlt]
  simpa using (List.getElem_cons_eraseIdx_perm hlt).symm

/-- Whom the counts allow to be woken a signal can wake. -/
theorem exists_signal_of_wakes {sp sc : ℕ}
    (h : Wakes (sleepers role .producer l) (sleepers role .consumer l) sp sc) :
    ∃ pick, sleepers role .producer (signal l pick) = sp ∧
      sleepers role .consumer (signal l pick) = sc := by
  have take (r : Role) (hr : 0 < sleepers role r l) :
      ∃ t pick, role t = r ∧ l.Perm (t :: signal l pick) := by
    obtain ⟨t, ht, hrole⟩ := List.countP_pos_iff.1 hr
    obtain ⟨pick, hperm⟩ := exists_signal ht
    exact ⟨t, pick, of_decide_eq_true hrole, hperm⟩
  generalize hsp : sleepers role .producer l = x at h
  generalize hsc : sleepers role .consumer l = y at h
  cases h with
  | nobody =>
    refine ⟨0, ?_, ?_⟩
    · exact Nat.le_zero.1 (hsp ▸ (List.eraseIdx_sublist l _).countP_le)
    · exact Nat.le_zero.1 (hsc ▸ (List.eraseIdx_sublist l _).countP_le)
  | producer =>
    obtain ⟨t, pick, hrole, hperm⟩ := take .producer (by omega)
    have hp := sleepers_of_perm role .producer hperm
    have hc := sleepers_of_perm role .consumer hperm
    rw [hrole] at hp hc
    refine ⟨pick, ?_, ?_⟩
    · rw [if_pos rfl] at hp
      omega
    · rw [if_neg (by decide)] at hc
      omega
  | consumer =>
    obtain ⟨t, pick, hrole, hperm⟩ := take .consumer (by omega)
    have hp := sleepers_of_perm role .producer hperm
    have hc := sleepers_of_perm role .consumer hperm
    rw [hrole] at hp hc
    refine ⟨pick, ?_, ?_⟩
    · rw [if_neg (by decide)] at hp
      omega
    · rw [if_pos rfl] at hc
      omega

theorem sleepers_eq_card {r : Role} (hl : l.Nodup) :
    sleepers role r l = (l.toFinset.filter fun t => role t = r).card := by
  rw [sleepers, List.countP_eq_length_filter, ← List.toFinset_card_of_nodup (hl.filter _),
    List.toFinset_filter]
  simp

variable [Fintype τ]

/-- Not all threads of a role are asleep when one of them is not. -/
theorem sleepers_lt (role : τ → Role) (hl : l.Nodup) (ht : t ∉ l) :
    sleepers role (role t) l < threads role (role t) := by
  rw [sleepers_eq_card hl]
  apply Finset.card_lt_card
  rw [Finset.ssubset_iff_of_subset (Finset.filter_subset_filter _ (Finset.subset_univ _))]
  exact ⟨t, by simp, by simp [ht]⟩

omit [DecidableEq τ] in
theorem threads_pos {r : Role} (h : ∃ t, role t = r) : 0 < threads role r := by
  obtain ⟨t, ht⟩ := h
  exact Finset.card_pos.2 ⟨t, Finset.mem_filter.2 ⟨Finset.mem_univ t, ht⟩⟩

omit [DecidableEq τ] in
/-- Every thread is a producer or a consumer. -/
theorem threads_add (role : τ → Role) :
    threads role .producer + threads role .consumer = Fintype.card τ := by
  have hother : (Finset.univ.filter fun t => role t = .consumer) =
      Finset.univ.filter fun t => ¬ role t = .producer := by
    apply Finset.filter_congr
    intro t _
    cases role t <;> decide
  rw [threads, threads, hother]
  exact Finset.card_filter_add_card_filter_not _

theorem exists_awake {r : Role} (hl : l.Nodup) (h : sleepers role r l < threads role r) :
    ∃ t, t ∉ l ∧ role t = r := by
  rw [sleepers_eq_card hl] at h
  obtain ⟨t, ht, hnot⟩ := Finset.exists_mem_notMem_of_card_lt_card h
  obtain ⟨-, hr⟩ := Finset.mem_filter.1 ht
  refine ⟨t, fun hmem => hnot ?_, hr⟩
  exact Finset.mem_filter.2 ⟨List.mem_toFinset.2 hmem, hr⟩

end

variable [DecidableEq τ] {capacity : ℕ}

namespace State

def leave (s : State τ α) (t : τ) : State τ α := { s with call := Function.update s.call t none }

def sleep (s : State τ α) (t : τ) : State τ α := { s with asleep := t :: s.asleep }

end State

variable (capacity) in
/-- What a call does while it holds the mutex. -/
def attempt (s : State τ α) (t : τ) (stored : Bool) (pick : ℕ) : Call α → State τ α
  | .push x =>
      if capacity ≤ s.queued.length ∧ s.finished = false then s.sleep t
      else if s.finished = true ∨ stored = false then s.leave t
      else { s.leave t with queued := s.queued ++ [x], asleep := signal s.asleep pick }
  | .pop =>
      if s.queued.length = 0 ∧ s.finished = false then s.sleep t
      else if s.queued.length = 0 then s.leave t
      else { s.leave t with queued := s.queued.tail, asleep := signal s.asleep pick }

/-- The call that a thread is awake in. -/
def State.running (s : State τ α) (t : τ) : Option (Call α) :=
  if t ∈ s.asleep then none else s.call t

variable (capacity) in
/-- One step; a thread that is asleep or elsewhere leaves the state as it is. -/
def step (s : State τ α) : Op τ α → State τ α
  | .enter t c =>
      if s.call t = none then { s with call := Function.update s.call t (some c) } else s
  | .attempt t stored pick =>
      match s.running t with
      | none => s
      | some c => attempt capacity s t stored pick c
  | .finish => { s with finished := true, asleep := [] }
  | .wake t => { s with asleep := s.asleep.erase t }

variable (capacity) in
/-- The element that a step puts into the buffer. -/
def accepts (s : State τ α) : Op τ α → List α
  | .attempt t stored _ =>
      match s.running t with
      | some (.push x) =>
          if capacity ≤ s.queued.length ∨ s.finished = true ∨ stored = false then [] else [x]
      | _ => []
  | _ => []

/-- The element that a step takes out of the buffer. -/
def delivers (s : State τ α) : Op τ α → List α
  | .attempt t _ _ =>
      match s.running t with
      | some .pop => s.queued.take 1
      | _ => []
  | _ => []

/-! ## What one step does -/

/-- What an attempt of a thread can do: it is put to sleep, or it leaves with nothing, or it pushes
or pops and signals. -/
theorem attempt_cases (capacity : ℕ) (s : State τ α) (t : τ) (stored : Bool) (pick : ℕ)
    (c : Call α) :
    (attempt capacity s t stored pick c = s.sleep t ∧ s.finished = false ∧
        (c.role = .producer ∧ capacity ≤ s.queued.length ∨ c.role = .consumer ∧ s.queued = [])) ∨
      attempt capacity s t stored pick c = s.leave t ∨
      (∃ x, c = .push x ∧ s.queued.length < capacity ∧ s.finished = false ∧ stored = true ∧
        attempt capacity s t stored pick c =
          { s.leave t with queued := s.queued ++ [x], asleep := signal s.asleep pick }) ∨
      (∃ x xs, c = .pop ∧ s.queued = x :: xs ∧ attempt capacity s t stored pick c =
          { s.leave t with queued := xs, asleep := signal s.asleep pick }) := by
  cases c with
  | push x =>
    simp only [attempt]
    split_ifs with hfull hreturn
    · exact Or.inl ⟨rfl, hfull.2, Or.inl ⟨rfl, hfull.1⟩⟩
    · exact Or.inr (Or.inl rfl)
    · obtain ⟨hfinished, hstored⟩ := not_or.1 hreturn
      rw [Bool.not_eq_true] at hfinished
      rw [Bool.not_eq_false] at hstored
      have hroom : s.queued.length < capacity := not_le.1 fun hle => hfull ⟨hle, hfinished⟩
      exact Or.inr (Or.inr (Or.inl ⟨x, rfl, hroom, hfinished, hstored, rfl⟩))
  | pop =>
    simp only [attempt]
    split_ifs with hempty hreturn
    · exact Or.inl ⟨rfl, hempty.2, Or.inr ⟨rfl, List.length_eq_zero_iff.1 hempty.1⟩⟩
    · exact Or.inr (Or.inl rfl)
    · obtain ⟨x, xs, hq⟩ := List.exists_cons_of_ne_nil (mt List.length_eq_zero_iff.2 hreturn)
      refine Or.inr (Or.inr (Or.inr ⟨x, xs, trivial, hq, ?_⟩))
      rw [hq, List.tail_cons]

/-- What a step takes out, with what it leaves, is what was there with what it puts in. -/
theorem delivers_append_step (s : State τ α) (op : Op τ α) :
    delivers s op ++ (step capacity s op).queued = s.queued ++ accepts capacity s op := by
  cases op with
  | enter t c =>
    simp only [delivers, accepts, step, List.nil_append, List.append_nil]
    split_ifs <;> rfl
  | finish => simp [delivers, accepts, step]
  | wake t => simp [delivers, accepts, step]
  | attempt t stored pick =>
    simp only [delivers, accepts, step]
    match s.running t with
    | none => simp
    | some (.push x) =>
      simp only [attempt, List.nil_append]
      by_cases hfull : capacity ≤ s.queued.length <;> cases s.finished <;> cases stored <;>
        simp [State.leave, State.sleep, hfull]
    | some .pop =>
      simp only [attempt, List.append_nil]
      cases hq : s.queued <;> cases s.finished <;> simp [State.leave, State.sleep, hq]

/-- The elements come out in the order in which they went in, each once. -/
theorem delivers_append_queued (capacity : ℕ) (s : State τ α) (ops : List (Op τ α)) :
    Runs.emits (step capacity) delivers s ops ++ (Runs.final (step capacity) s ops).queued =
      s.queued ++ Runs.emits (step capacity) (accepts capacity) s ops := by
  induction ops generalizing s with
  | nil => simp
  | cons op ops ih =>
    rw [Runs.emits_cons, Runs.emits_cons, List.append_assoc, ← List.append_assoc s.queued,
      ← delivers_append_step, List.append_assoc]
    exact congrArg _ (ih _)

/-! ## The threads at their levels -/

section

variable {s : State τ α} {op : Op τ α} {role : τ → Role}

/-- Producers only push, and consumers only pop. -/
def Fits (role : τ → Role) : Op τ α → Prop
  | .enter t c => c.role = role t
  | _ => True

/-- The sleepers are threads that a wait has put to sleep, each once, and there are none when the
buffer is finished. -/
structure Inv (role : τ → Role) (capacity : ℕ) (s : State τ α) : Prop where
  length_le : s.queued.length ≤ capacity
  nodup : s.asleep.Nodup
  role_eq : ∀ t c, s.call t = some c → c.role = role t
  awake : s.finished = true → s.asleep = []

/-- A thread that is awake in a call. -/
theorem running_eq_some {t : τ} {c : Call α} (h : s.running t = some c) :
    t ∉ s.asleep ∧ s.call t = some c := by
  rw [State.running] at h
  split_ifs at h with hasleep
  exact ⟨hasleep, h⟩

theorem Inv.role_leave (h : Inv role capacity s) (t : τ) :
    ∀ t' c, (s.leave t).call t' = some c → c.role = role t' := by
  intro t' c hc
  simp only [State.leave, Function.update_apply] at hc
  split_ifs at hc
  exact h.role_eq t' c hc

theorem inv_attempt (h : Inv role capacity s) {t : τ} {c : Call α} (ht : s.running t = some c)
    (stored : Bool) (pick : ℕ) : Inv role capacity (attempt capacity s t stored pick c) := by
  obtain ⟨hawake, -⟩ := running_eq_some ht
  have hsleep (hfinished : s.finished = false) : Inv role capacity (s.sleep t) := by
    refine ⟨h.length_le, List.nodup_cons.2 ⟨hawake, h.nodup⟩, h.role_eq, fun hf => ?_⟩
    exact absurd (hfinished.symm.trans hf) (by decide)
  have hchange (queued : List α) (hlen : queued.length ≤ capacity) :
      Inv role capacity { s.leave t with queued := queued, asleep := signal s.asleep pick } := by
    refine ⟨hlen, nodup_signal h.nodup pick, h.role_leave t, fun hf => ?_⟩
    show signal s.asleep pick = []
    rw [h.awake hf]
    rfl
  obtain ⟨heq, hfinished, -⟩ | heq | ⟨x, -, hroom, -, -, heq⟩ | ⟨x, xs, -, hq, heq⟩ :=
    attempt_cases capacity s t stored pick c
  · rw [heq]
    exact hsleep hfinished
  · rw [heq]
    exact ⟨h.length_le, h.nodup, h.role_leave t, h.awake⟩
  · rw [heq]
    apply hchange
    rw [List.length_append]
    exact hroom
  · rw [heq]
    apply hchange
    have hle := h.length_le
    rw [hq] at hle
    exact (Nat.le_succ _).trans hle

theorem inv_step (h : Inv role capacity s) (hfit : Fits role op) :
    Inv role capacity (step capacity s op) := by
  cases op with
  | enter t c =>
    rw [step]
    split_ifs
    · refine ⟨h.length_le, h.nodup, fun t' c' hc => ?_, h.awake⟩
      simp only [Function.update_apply] at hc
      split_ifs at hc with ht
      · obtain rfl := Option.some.inj hc
        rw [ht]
        exact hfit
      · exact h.role_eq t' c' hc
    · exact h
  | attempt t stored pick =>
    rw [step]
    cases ht : s.running t with
    | none => exact h
    | some c => exact inv_attempt h ht stored pick
  | finish => exact ⟨h.length_le, List.nodup_nil, h.role_eq, fun _ => rfl⟩
  | wake t =>
    refine ⟨h.length_le, h.nodup.erase t, h.role_eq, fun hf => ?_⟩
    simp only [step, h.awake hf, List.erase_nil]

omit [DecidableEq τ] in
variable (capacity) in
theorem inv_init (role : τ → Role) : Inv role capacity (State.init : State τ α) :=
  ⟨Nat.zero_le _, List.nodup_nil, by rintro t c ⟨⟩, fun _ => rfl⟩

theorem inv_run (h : Inv role capacity s) {ops : List (Op τ α)} (hfit : ∀ op ∈ ops, Fits role op) :
    Inv role capacity (Runs.final (step capacity) s ops) := by
  induction ops generalizing s with
  | nil => exact h
  | cons op ops ih =>
    obtain ⟨hop, hops⟩ := List.forall_mem_cons.1 hfit
    exact ih (inv_step h hop) hops

/-- A step that needs no bad luck: there is memory, and nobody wakes without a signal. -/
def Op.Plain : Op τ α → Prop
  | .enter .. => True
  | .attempt _ stored _ => stored = true
  | .finish => False
  | .wake _ => False

/-- A thread that is awake can enter a call, or is in one. -/
theorem running_enter {t : τ} {c : Call α} (h : Inv role capacity s) (ht : t ∉ s.asleep)
    (hc : c.role = role t) :
    ∃ c', (step capacity s (.enter t c)).running t = some c' ∧ c'.role = role t := by
  rw [step]
  split_ifs with hcall
  · refine ⟨c, ?_, hc⟩
    rw [State.running, if_neg ht]
    exact Function.update_self ..
  · obtain ⟨c', hc'⟩ := Option.ne_none_iff_exists'.1 hcall
    refine ⟨c', ?_, h.role_eq t c' hc'⟩
    rw [State.running, if_neg ht, hc']

theorem step_attempt {t : τ} {c : Call α} (h : s.running t = some c) (stored : Bool) (pick : ℕ) :
    step capacity s (.attempt t stored pick) = attempt capacity s t stored pick c := by
  rw [step, h]

/-- What entering a call leaves. -/
theorem step_enter (capacity : ℕ) (s : State τ α) (t : τ) (c : Call α) :
    (step capacity s (.enter t c)).queued = s.queued ∧
      (step capacity s (.enter t c)).finished = s.finished ∧
      (step capacity s (.enter t c)).asleep = s.asleep := by
  rw [step]
  split_ifs <;> exact ⟨rfl, rfl, rfl⟩

/-- A thread that is awake can be made to try. -/
theorem exists_attempt (h : Inv role capacity s) {t : τ} (ht : t ∉ s.asleep) (x : α) :
    ∃ (c : Call α) (s₁ : State τ α), c.role = role t ∧ s₁.queued = s.queued ∧
      s₁.finished = s.finished ∧ s₁.asleep = s.asleep ∧ ∀ pick, ∃ ops : List (Op τ α),
        (∀ op ∈ ops, Fits role op ∧ op.Plain) ∧
        Runs.final (step capacity) s ops = attempt capacity s₁ t true pick c := by
  obtain ⟨c, hc⟩ : ∃ c : Call α, c.role = role t := by
    cases role t with
    | producer => exact ⟨.push x, rfl⟩
    | consumer => exact ⟨.pop, rfl⟩
  obtain ⟨c', hrunning, hc'⟩ := running_enter h ht hc
  obtain ⟨hqueued, hfinished, hasleep⟩ := step_enter capacity s t c
  refine ⟨c', _, hc', hqueued, hfinished, hasleep, fun pick => ?_⟩
  refine ⟨[.enter t c, .attempt t true pick], ?_, ?_⟩
  · simpa [Op.Plain, Fits] using hc
  · exact step_attempt hrunning true pick

/-- The level of the buffer and of its sleepers. -/
def level (role : τ → Role) (s : State τ α) : Level :=
  ⟨s.queued.length, sleepers role .producer s.asleep, sleepers role .consumer s.asleep⟩

variable [Fintype τ]

/-- An attempt is a turn of one of the threads, or changes nothing that counts. -/
theorem level_attempt (h : Inv role capacity s) {t : τ} {c : Call α} (ht : s.running t = some c)
    (stored : Bool) (pick : ℕ) :
    Turn (threads role .producer) (threads role .consumer) capacity (level role s)
        (level role (attempt capacity s t stored pick c)) ∨
      level role (attempt capacity s t stored pick c) = level role s := by
  obtain ⟨hawake, hcall⟩ := running_eq_some ht
  have hlt := sleepers_lt role h.nodup hawake
  have hrole := h.role_eq t c hcall
  obtain ⟨heq, -, hblocked⟩ | heq | ⟨x, rfl, hroom, -, -, heq⟩ | ⟨x, xs, rfl, hq, heq⟩ :=
    attempt_cases capacity s t stored pick c
  · left
    rw [heq]
    simp only [level, State.sleep, sleepers_cons]
    obtain ⟨hproducer, hfull⟩ | ⟨hconsumer, hempty⟩ := hblocked
    · rw [← hrole, hproducer] at hlt ⊢
      rw [le_antisymm h.length_le hfull]
      exact .sleepFull hlt
    · rw [← hrole, hconsumer] at hlt ⊢
      rw [hempty]
      exact .sleepEmpty hlt
  · right
    rw [heq]
    rfl
  · left
    rw [heq]
    simp only [level, List.length_append, List.length_singleton]
    rw [← hrole] at hlt
    exact .push hlt hroom (wakes_signal ..)
  · left
    have hle := h.length_le
    rw [heq]
    simp only [level]
    rw [hq] at hle ⊢
    rw [← hrole] at hlt
    exact .pop hlt hle (wakes_signal ..)

/-- Whatever the threads do, they are kept going. -/
theorem live_step (h : Inv role capacity s) (hp : 0 < threads role .producer)
    (hc : 0 < threads role .consumer)
    (hfew : threads role .producer + threads role .consumer ≤ 2 * capacity)
    (hlive : Live (threads role .producer) (threads role .consumer) capacity (level role s)) :
    Live (threads role .producer) (threads role .consumer) capacity
      (level role (step capacity s op)) := by
  cases op with
  | enter t c =>
    rw [step]
    split_ifs <;> exact hlive
  | attempt t stored pick =>
    rw [step]
    cases ht : s.running t with
    | none => exact hlive
    | some c =>
      rcases level_attempt h ht stored pick with hturn | hsame
      · exact hlive.turn hp hc hfew hturn
      · simp only [hsame]
        exact hlive
  | finish => exact hlive.mono rfl (Nat.zero_le _) (Nat.zero_le _)
  | wake t =>
    exact hlive.mono rfl (List.erase_sublist.countP_le) (List.erase_sublist.countP_le)

/-- Somebody who is awake would not have to wait. -/
def GoesOn (role : τ → Role) (capacity : ℕ) (s : State τ α) : Prop :=
  ∃ t, t ∉ s.asleep ∧
    (role t = .producer ∧ s.queued.length < capacity ∨ role t = .consumer ∧ s.queued ≠ [])

/-- With at most two threads for each place, somebody can go on after every run. -/
theorem goesOn_of_few (hcap : 0 < capacity) (hp : 0 < threads role .producer)
    (hc : 0 < threads role .consumer)
    (hfew : threads role .producer + threads role .consumer ≤ 2 * capacity)
    {ops : List (Op τ α)} (hfit : ∀ op ∈ ops, Fits role op) :
    GoesOn role capacity (Runs.final (step capacity) .init ops) := by
  have hinv := inv_run (inv_init capacity role) hfit
  have hlive : Live (threads role .producer) (threads role .consumer) capacity
      (level role (Runs.final (step capacity) State.init ops)) := by
    induction ops using List.reverseRecOn with
    | nil => exact live_empty hp hc hcap
    | append_singleton ops op ih =>
      have hops : ∀ op' ∈ ops, Fits role op' := fun op' hop' =>
        hfit op' (List.mem_append_left _ hop')
      have hbefore := inv_run (inv_init capacity role) hops
      rw [Runs.final_append_singleton]
      exact live_step hbefore hp hc hfew (ih hops hbefore)
  rcases hlive.goesOn hp hcap with ⟨hawake, hroom⟩ | ⟨hawake, hsome⟩
  · obtain ⟨t, ht, hrole⟩ := exists_awake hinv.nodup hawake
    exact ⟨t, ht, Or.inl ⟨hrole, hroom⟩⟩
  · obtain ⟨t, ht, hrole⟩ := exists_awake hinv.nodup hawake
    exact ⟨t, ht, Or.inr ⟨hrole, List.length_pos_iff.1 hsome⟩⟩

/-! ## A run into sleep -/

/-- Every turn of the counts is a turn of some thread. -/
theorem exists_ops_of_turn (h : Inv role capacity s) (hopen : s.finished = false) (x : α)
    {l : Level}
    (hturn : Turn (threads role .producer) (threads role .consumer) capacity (level role s) l) :
    ∃ ops : List (Op τ α), (∀ op ∈ ops, Fits role op ∧ op.Plain) ∧
      level role (Runs.final (step capacity) s ops) = l ∧
      (Runs.final (step capacity) s ops).finished = false := by
  -- somebody of a role that is not all asleep tries, and finds the buffer as it is
  have tries (r : Role) (hr : sleepers role r s.asleep < threads role r) :
      ∃ (t : τ) (c : Call α) (s₁ : State τ α), role t = r ∧ c.role = r ∧ s₁.queued = s.queued ∧
        s₁.finished = false ∧ s₁.asleep = s.asleep ∧ ∀ pick, ∃ ops : List (Op τ α),
          (∀ op ∈ ops, Fits role op ∧ op.Plain) ∧
          Runs.final (step capacity) s ops = attempt capacity s₁ t true pick c := by
    obtain ⟨t, ht, rfl⟩ := exists_awake h.nodup hr
    obtain ⟨c, s₁, hc, hqueued, hfinished, hasleep, hops⟩ := exists_attempt h ht x
    exact ⟨t, c, s₁, rfl, hc, hqueued, hfinished.trans hopen, hasleep, hops⟩
  generalize hl : level role s = l₀ at hturn
  cases hturn with
  | push awake room signal =>
    obtain ⟨rfl, rfl, rfl⟩ := Level.mk.inj hl
    obtain ⟨pick, hsp, hsc⟩ := exists_signal_of_wakes signal
    obtain ⟨t, c, s₁, hrole, hc, hqueued, hfinished, hasleep, hops⟩ := tries .producer awake
    obtain ⟨ops, hplain, hfinal⟩ := hops pick
    refine ⟨ops, hplain, ?_⟩
    rw [hfinal]
    cases c with
    | pop => cases hc
    | push y =>
      have hroom : ¬ (capacity ≤ s₁.queued.length ∧ s₁.finished = false) := fun hfull =>
        absurd hfull.1 (not_le.2 (hqueued ▸ room))
      rw [attempt, if_neg hroom, if_neg (by simp [hfinished])]
      simp [level, State.leave, hqueued, hasleep, hfinished, hsp, hsc]
  | @pop n _ _ _ _ awake room signal =>
    obtain ⟨hlen, rfl, rfl⟩ := Level.mk.inj hl
    obtain ⟨pick, hsp, hsc⟩ := exists_signal_of_wakes signal
    obtain ⟨t, c, s₁, hrole, hc, hqueued, hfinished, hasleep, hops⟩ := tries .consumer awake
    obtain ⟨ops, hplain, hfinal⟩ := hops pick
    refine ⟨ops, hplain, ?_⟩
    rw [hfinal]
    cases c with
    | push y => cases hc
    | pop =>
      have hsome : s₁.queued.length ≠ 0 := by
        rw [hqueued, hlen]
        exact Nat.succ_ne_zero n
      rw [attempt, if_neg fun hempty => hsome hempty.1, if_neg hsome]
      simp [level, State.leave, hqueued, hlen, hasleep, hfinished, hsp, hsc]
  | sleepFull awake =>
    obtain ⟨hlen, rfl, rfl⟩ := Level.mk.inj hl
    obtain ⟨t, c, s₁, hrole, hc, hqueued, hfinished, hasleep, hops⟩ := tries .producer awake
    obtain ⟨ops, hplain, hfinal⟩ := hops 0
    refine ⟨ops, hplain, ?_⟩
    rw [hfinal]
    cases c with
    | pop => cases hc
    | push y =>
      have hfull : capacity ≤ s₁.queued.length := by rw [hqueued, hlen]
      rw [attempt, if_pos ⟨hfull, hfinished⟩]
      simp [level, State.sleep, hqueued, hlen, hasleep, hfinished, hrole]
  | sleepEmpty awake =>
    obtain ⟨hlen, rfl, rfl⟩ := Level.mk.inj hl
    obtain ⟨t, c, s₁, hrole, hc, hqueued, hfinished, hasleep, hops⟩ := tries .consumer awake
    obtain ⟨ops, hplain, hfinal⟩ := hops 0
    refine ⟨ops, hplain, ?_⟩
    rw [hfinal]
    cases c with
    | push y => cases hc
    | pop =>
      have hempty : s₁.queued.length = 0 := by rw [hqueued, hlen]
      rw [attempt, if_pos ⟨hempty, hfinished⟩]
      simp [level, State.sleep, hqueued, hlen, hasleep, hfinished, hrole]

/-- Every level that turns of the counts lead to is one of a run of the threads. -/
theorem exists_ops_of_reach (h : Inv role capacity s) (hopen : s.finished = false) (x : α)
    {l : Level}
    (hreach : Reach (threads role .producer) (threads role .consumer) capacity (level role s) l) :
    ∃ ops : List (Op τ α), (∀ op ∈ ops, Fits role op ∧ op.Plain) ∧
      level role (Runs.final (step capacity) s ops) = l := by
  suffices hrun : ∃ ops : List (Op τ α), (∀ op ∈ ops, Fits role op ∧ op.Plain) ∧
      level role (Runs.final (step capacity) s ops) = l ∧
      (Runs.final (step capacity) s ops).finished = false by
    obtain ⟨ops, hplain, hlevel, -⟩ := hrun
    exact ⟨ops, hplain, hlevel⟩
  induction hreach with
  | refl => exact ⟨[], by simp, rfl, hopen⟩
  | tail _ hturn ih =>
    obtain ⟨ops, hplain, hlevel, hfinished⟩ := ih
    have hinv := inv_run h fun op hop => (hplain op hop).1
    obtain ⟨ops', hplain', hlevel', hfinished'⟩ :=
      exists_ops_of_turn hinv hfinished x (hlevel ▸ hturn)
    refine ⟨ops ++ ops', fun op hop => ?_, ?_, ?_⟩
    · exact (List.mem_append.1 hop).elim (hplain op) (hplain' op)
    · rw [Runs.final_append, hlevel']
    · rw [Runs.final_append, hfinished']

/-- With more than two threads for each place, signals that go to the wrong threads leave all of
them asleep. -/
theorem asleep_of_many (hcap : 0 < capacity) (hp : 0 < threads role .producer)
    (hc : 0 < threads role .consumer)
    (hmany : 2 * capacity < threads role .producer + threads role .consumer) (x : α) :
    ∃ ops : List (Op τ α), (∀ op ∈ ops, Fits role op ∧ op.Plain) ∧
      ∀ t, t ∈ (Runs.final (step capacity) State.init ops).asleep := by
  obtain ⟨n, hreach⟩ := reach_all_asleep hp hc hcap hmany
  obtain ⟨ops, hplain, hlevel⟩ := exists_ops_of_reach (inv_init capacity role) rfl x hreach
  obtain ⟨-, hproducers, hconsumers⟩ := Level.mk.inj hlevel
  have hinv := inv_run (inv_init capacity role) fun op hop => (hplain op hop).1
  refine ⟨ops, hplain, fun t => by_contra fun ht => ?_⟩
  have hlt := sleepers_lt role hinv.nodup ht
  cases hrole : role t with
  | producer =>
    rw [hrole, hproducers] at hlt
    exact lt_irrefl _ hlt
  | consumer =>
    rw [hrole, hconsumers] at hlt
    exact lt_irrefl _ hlt

end

end BoundedBuffer
