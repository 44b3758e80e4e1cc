import Mathlib.Tactic

/-!
# Runs of a deterministic machine

A machine is a step function over operations. `visits` lists the states of a run with the
operation done in each of them, so that a condition on the steps of a run, a property of its
states and its output are all statements about one list.

`invariant`, `reaches` and `emits_length_le_one` are the induction rules: an invariant kept by the
steps of a run holds all along it, an operation takes a stable property to another wherever it
stands, and an output that only a state without a mark makes, and that sets the mark, is made at
most once. `simulation` compares the runs of two machines, and
`emits_eq_iff_of_length_le` two outputs of one run step by step.
-/

namespace Runs

variable {σ Op β : Type*} (step : σ → Op → σ)

/-- The state after a run. -/
def final (s : σ) (ops : List Op) : σ := ops.foldl step s

/-- The states of a run, each with the operation done in it. -/
def visits : σ → List Op → List (σ × Op)
  | _, [] => []
  | s, op :: ops => (s, op) :: visits (step s op) ops

/-- The output of a run whose steps emit `out`. -/
def emits (out : σ → Op → List β) (s : σ) (ops : List Op) : List β :=
  (visits step s ops).flatMap fun x => out x.1 x.2

@[simp] theorem visits_nil (s : σ) : visits step s ([] : List Op) = [] := rfl

@[simp] theorem visits_cons (s : σ) (op : Op) (ops : List Op) :
    visits step s (op :: ops) = (s, op) :: visits step (step s op) ops := rfl

@[simp] theorem emits_nil (out : σ → Op → List β) (s : σ) : emits step out s [] = [] := rfl

@[simp] theorem emits_cons (out : σ → Op → List β) (s : σ) (op : Op) (ops : List Op) :
    emits step out s (op :: ops) = out s op ++ emits step out (step s op) ops := rfl

@[simp] theorem final_nil (s : σ) : final step s ([] : List Op) = s := rfl

theorem final_append (s : σ) (ops ops' : List Op) :
    final step s (ops ++ ops') = final step (final step s ops) ops' := List.foldl_append

@[simp] theorem final_append_singleton (s : σ) (ops : List Op) (op : Op) :
    final step s (ops ++ [op]) = step (final step s ops) op := by simp [final]

variable {step}

theorem visits_append (s : σ) (ops ops' : List Op) :
    visits step s (ops ++ ops') = visits step s ops ++ visits step (final step s ops) ops' := by
  induction ops generalizing s with
  | nil => rfl
  | cons op ops ih => rw [List.cons_append, visits_cons, visits_cons, ih, List.cons_append]; rfl

/-- One more operation emits its output in the state that the run reached. -/
theorem emits_append_singleton (out : σ → Op → List β) (s : σ) (ops : List Op) (op : Op) :
    emits step out s (ops ++ [op]) = emits step out s ops ++ out (final step s ops) op := by
  rw [emits, visits_append, List.flatMap_append, visits_cons, visits_nil, List.flatMap_singleton]
  rfl

/-- A visit splits the run: the operations before it lead to its state. -/
theorem mem_visits_iff {s : σ} {ops : List Op} {x : σ × Op} :
    x ∈ visits step s ops ↔ ∃ pre post, ops = pre ++ x.2 :: post ∧ x.1 = final step s pre := by
  induction ops generalizing s with
  | nil => simp
  | cons op ops ih =>
    rw [visits_cons, List.mem_cons, ih]
    constructor
    · rintro (rfl | ⟨pre, post, rfl, hx⟩)
      · exact ⟨[], ops, rfl, rfl⟩
      · exact ⟨op :: pre, post, rfl, hx⟩
    · rintro ⟨pre, post, hops, hx⟩
      cases pre with
      | nil =>
        obtain ⟨hop, rfl⟩ := List.cons_eq_cons.1 hops
        exact Or.inl (Prod.ext hx hop.symm)
      | cons op' pre =>
        obtain ⟨rfl, rfl⟩ := List.cons_eq_cons.1 hops
        exact Or.inr ⟨pre, post, rfl, hx⟩

/-- An invariant kept by every step of a run holds in every state of it and at its end. -/
theorem invariant {I : σ → Prop} {s : σ} {ops : List Op}
    (hstep : ∀ x ∈ visits step s ops, I x.1 → I (step x.1 x.2)) (h : I s) :
    (∀ x ∈ visits step s ops, I x.1) ∧ I (final step s ops) := by
  induction ops generalizing s with
  | nil => exact ⟨by simp, h⟩
  | cons op ops ih =>
    obtain ⟨hhead, htail⟩ := List.forall_mem_cons.1 hstep
    obtain ⟨hall, hfinal⟩ := ih htail (hhead h)
    exact ⟨List.forall_mem_cons.2 ⟨h, hall⟩, hfinal⟩

/-- One operation, wherever it stands in a run, takes one stable property to another. -/
theorem reaches {P Q : σ → Prop} {op : Op} (hP : ∀ s op, P s → P (step s op))
    (hQ : ∀ s op, Q s → Q (step s op)) (hop : ∀ s, P s → Q (step s op)) {s : σ} {ops : List Op}
    (hmem : op ∈ ops) (h : P s) : Q (final step s ops) := by
  obtain ⟨pre, post, rfl⟩ := List.append_of_mem hmem
  have hpre : P (final step s pre) := (invariant (fun x _ => hP x.1 x.2) h).2
  rw [final_append]
  exact (invariant (fun x _ => hQ x.1 x.2) (hop _ hpre)).2

section

variable {σ' : Type*} {step' : σ' → Op → σ'} {R : σ → σ' → Prop}

/-- A relation kept by every step relates the ends of two runs over the same operations. -/
theorem simulation (hstep : ∀ s s' op, R s s' → R (step s op) (step' s' op)) {s : σ} {s' : σ'}
    (h : R s s') (ops : List Op) : R (final step s ops) (final step' s' ops) := by
  induction ops generalizing s s' with
  | nil => exact h
  | cons op ops ih => exact ih (hstep s s' op h)

/-- Two such runs emit the same when related states emit the same. -/
theorem emits_simulation (hstep : ∀ s s' op, R s s' → R (step s op) (step' s' op))
    {out : σ → Op → List β} {out' : σ' → Op → List β}
    (hout : ∀ s s' op, R s s' → out s op = out' s' op) {s : σ} {s' : σ'} (h : R s s')
    (ops : List Op) : emits step out s ops = emits step' out' s' ops := by
  induction ops generalizing s s' with
  | nil => rfl
  | cons op ops ih => rw [emits_cons, emits_cons, hout s s' op h, ih (hstep s s' op h)]

/-- What is said of every step of the one run is what is said of every step of the other, when
related states say it of the same operations. -/
theorem forall_visits_iff (hstep : ∀ s s' op, R s s' → R (step s op) (step' s' op))
    {P : σ × Op → Prop} {Q : σ' × Op → Prop} (hagree : ∀ s s' op, R s s' → (P (s, op) ↔ Q (s', op)))
    {s : σ} {s' : σ'} (h : R s s') (ops : List Op) :
    (∀ x ∈ visits step s ops, P x) ↔ ∀ x ∈ visits step' s' ops, Q x := by
  induction ops generalizing s s' with
  | nil => simp
  | cons op ops ih =>
    rw [visits_cons, visits_cons, List.forall_mem_cons, List.forall_mem_cons, hagree s s' op h,
      ih (hstep s s' op h)]

end

theorem emits_eq_nil {out : σ → Op → List β} {s : σ} {ops : List Op}
    (h : ∀ x ∈ visits step s ops, out x.1 x.2 = []) : emits step out s ops = [] := by
  rw [emits, List.flatMap_eq_nil_iff]
  exact h

/-- Operations that change nothing and emit nothing can be left out of a run. -/
theorem emits_filter {out : σ → Op → List β} (p : Op → Bool) {s : σ} {ops : List Op}
    (h : ∀ x ∈ visits step s ops, p x.2 = false → step x.1 x.2 = x.1 ∧ out x.1 x.2 = []) :
    emits step out s (ops.filter p) = emits step out s ops := by
  induction ops generalizing s with
  | nil => rfl
  | cons op ops ih =>
    rw [visits_cons] at h
    obtain ⟨hhead, htail⟩ := List.forall_mem_cons.1 h
    cases hp : p op with
    | true =>
      rw [List.filter_cons_of_pos hp, emits_cons, emits_cons, ih htail]
    | false =>
      obtain ⟨hstep, hout⟩ := hhead hp
      have htail' := ih htail
      simp only at hstep hout
      rw [hstep] at htail'
      rw [List.filter_cons_of_neg (by simp [hp]), emits_cons, hout, hstep, List.nil_append]
      exact htail'

variable (step) in
/-- An output that does not depend on the state is that of the operations. -/
theorem emits_const (f : Op → List β) (s : σ) (ops : List Op) :
    emits step (fun _ op => f op) s ops = ops.flatMap f := by
  induction ops generalizing s with
  | nil => rfl
  | cons op ops ih => rw [emits_cons, ih, List.flatMap_cons]

/-- Where no step emits less of `f` than of `g`, the two outputs of a run agree only if they agree
at every step: what one step emits too much is never made up for. -/
theorem emits_eq_iff_of_length_le {f g : σ → Op → List β} {s : σ} {ops : List Op}
    (hle : ∀ x ∈ visits step s ops, (g x.1 x.2).length ≤ (f x.1 x.2).length) :
    emits step f s ops = emits step g s ops ↔
      ∀ x ∈ visits step s ops, f x.1 x.2 = g x.1 x.2 := by
  have length_le {s : σ} {ops : List Op}
      (hle : ∀ x ∈ visits step s ops, (g x.1 x.2).length ≤ (f x.1 x.2).length) :
      (emits step g s ops).length ≤ (emits step f s ops).length := by
    induction ops generalizing s with
    | nil => simp
    | cons op ops ih =>
      rw [visits_cons] at hle
      obtain ⟨hhead, htail⟩ := List.forall_mem_cons.1 hle
      rw [emits_cons, emits_cons, List.length_append, List.length_append]
      exact Nat.add_le_add hhead (ih htail)
  induction ops generalizing s with
  | nil => simp
  | cons op ops ih =>
    rw [visits_cons] at hle ⊢
    obtain ⟨hhead, htail⟩ := List.forall_mem_cons.1 hle
    rw [List.forall_mem_cons, emits_cons, emits_cons]
    refine (Iff.trans ⟨fun h => ?_, fun h => ?_⟩ (and_congr_right fun _ => ih htail))
    swap
    · exact congrArg₂ (· ++ ·) h.1 h.2
    have hsum := congrArg List.length h
    rw [List.length_append, List.length_append] at hsum
    have hrest := length_le htail
    have hhead' : (g s op).length ≤ (f s op).length := hhead
    have hlen : (f s op).length = (g s op).length := by omega
    exact List.append_inj h hlen

/-- An output that marks the state, and that no marked state makes, is made at most once. -/
theorem emits_length_le_one (marked : σ → Prop) {out : σ → Op → List β} {s : σ} {ops : List Op}
    (hkeep : ∀ x ∈ visits step s ops, marked x.1 → marked (step x.1 x.2))
    (hquiet : ∀ x ∈ visits step s ops, marked x.1 → out x.1 x.2 = [])
    (hone : ∀ x ∈ visits step s ops, (out x.1 x.2).length ≤ 1)
    (hmark : ∀ x ∈ visits step s ops, out x.1 x.2 ≠ [] → marked (step x.1 x.2)) :
    (emits step out s ops).length ≤ 1 := by
  induction ops generalizing s with
  | nil => simp
  | cons op ops ih =>
    rw [visits_cons] at hkeep hquiet hone hmark
    obtain ⟨-, hkeep⟩ := List.forall_mem_cons.1 hkeep
    obtain ⟨-, hquiet⟩ := List.forall_mem_cons.1 hquiet
    obtain ⟨hhead, hone⟩ := List.forall_mem_cons.1 hone
    obtain ⟨hset, hmark⟩ := List.forall_mem_cons.1 hmark
    rw [emits_cons, List.length_append]
    by_cases h : out s op = []
    · rw [h, List.length_nil, Nat.zero_add]
      exact ih hkeep hquiet hone hmark
    · have hall := (invariant hkeep (hset h)).1
      have hrest : emits step out (step s op) ops = [] :=
        emits_eq_nil fun x hx => hquiet x hx (hall x hx)
      rw [hrest, List.length_nil, Nat.add_zero]
      exact hhead

end Runs
