import Mathlib.Tactic

/-!
# Writing a buffer through a partial writer

A writer answers each attempt by taking a nonempty part of what is offered, or by a signal without
progress. `writeAll` offers the rest of the buffer until all of it is taken or a signal makes it
return; `writeBounded` also gives up once `limit` attempts in a row made no progress.

Answers come from a list. A list that runs out while the loop still wants an answer (`pending`)
stands for a loop that has not returned.
-/

namespace PartialWrite

/-- One answer of the writer: room for `k + 1` elements, or a signal. -/
inductive Answer (ε : Type*) where
  | accept (k : ℕ)
  | signal (e : ε)
  deriving DecidableEq, Repr

/-- How a loop stands when it is looked at. -/
inductive Status (ρ : Type*) where
  | done
  | stopped (r : ρ)
  | gaveUp
  | pending
  deriving DecidableEq, Repr

/-- What was taken of the buffer, how the loop stands, the number of attempts, and the answers that
were not used. -/
structure Flush (α ε ρ : Type*) where
  sent : List α
  status : Status ρ
  calls : ℕ
  rest : List (Answer ε)
  deriving DecidableEq, Repr

variable {α ε ρ : Type*}

/-- A loop that made one more attempt, in which `xs` was taken. -/
def Flush.after (xs : List α) (f : Flush α ε ρ) : Flush α ε ρ :=
  { f with sent := xs ++ f.sent, calls := f.calls + 1 }

@[simp] theorem Flush.after_sent (xs : List α) (f : Flush α ε ρ) :
    (f.after xs).sent = xs ++ f.sent := rfl

@[simp] theorem Flush.after_status (xs : List α) (f : Flush α ε ρ) :
    (f.after xs).status = f.status := rfl

@[simp] theorem Flush.after_calls (xs : List α) (f : Flush α ε ρ) :
    (f.after xs).calls = f.calls + 1 := rfl

/-- Offer the rest until it is all taken. `react` says for each signal whether the loop tries again
(`none`) or returns a code. -/
def writeAll (react : ε → Option ρ) : List α → List (Answer ε) → Flush α ε ρ
  | [], as => ⟨[], .done, 0, as⟩
  | _ :: _, [] => ⟨[], .pending, 0, []⟩
  | x :: xs, .accept k :: as => (writeAll react (xs.drop k) as).after (x :: xs.take k)
  | x :: xs, .signal e :: as =>
      match react e with
      | none => (writeAll react (x :: xs) as).after []
      | some r => ⟨[], .stopped r, 1, as⟩

/-- The same loop with a counter of the attempts in a row that made no progress. -/
def writeBounded (react : ε → Option ρ) (limit : ℕ) : ℕ → List α → List (Answer ε) → Flush α ε ρ
  | _, [], as => ⟨[], .done, 0, as⟩
  | retries, _ :: _, [] => ⟨[], if retries < limit then .pending else .gaveUp, 0, []⟩
  | retries, x :: xs, .accept k :: as =>
      if retries < limit then (writeBounded react limit 0 (xs.drop k) as).after (x :: xs.take k)
      else ⟨[], .gaveUp, 0, .accept k :: as⟩
  | retries, x :: xs, .signal e :: as =>
      if retries < limit then
        match react e with
        | none => (writeBounded react limit (retries + 1) (x :: xs) as).after []
        | some r => ⟨[], .stopped r, 1, as⟩
      else ⟨[], .gaveUp, 0, .signal e :: as⟩

/-! Each loop on the answer at the head, for a buffer that is not empty. -/

section

variable (react : ε → Option ρ) (limit retries : ℕ) (x : α) (xs : List α) (as : List (Answer ε))

theorem writeAll_pending : writeAll react (x :: xs) [] = ⟨[], .pending, 0, []⟩ := rfl

theorem writeAll_accept (k : ℕ) : writeAll react (x :: xs) (.accept k :: as) =
    (writeAll react (xs.drop k) as).after (x :: xs.take k) := rfl

theorem writeAll_signal (e : ε) : writeAll react (x :: xs) (.signal e :: as) =
    match react e with
    | none => (writeAll react (x :: xs) as).after []
    | some r => ⟨[], .stopped r, 1, as⟩ := rfl

theorem writeBounded_pending : writeBounded react limit retries (x :: xs) [] =
    ⟨[], if retries < limit then .pending else .gaveUp, 0, []⟩ := rfl

theorem writeBounded_accept (k : ℕ) :
    writeBounded react limit retries (x :: xs) (.accept k :: as) =
      if retries < limit then (writeBounded react limit 0 (xs.drop k) as).after (x :: xs.take k)
      else ⟨[], .gaveUp, 0, .accept k :: as⟩ := rfl

theorem writeBounded_signal (e : ε) :
    writeBounded react limit retries (x :: xs) (.signal e :: as) =
      if retries < limit then
        match react e with
        | none => (writeBounded react limit (retries + 1) (x :: xs) as).after []
        | some r => ⟨[], .stopped r, 1, as⟩
      else ⟨[], .gaveUp, 0, .signal e :: as⟩ := rfl

end

@[simp] theorem writeAll_nil (react : ε → Option ρ) (as : List (Answer ε)) :
    writeAll react ([] : List α) as = ⟨[], .done, 0, as⟩ := by
  cases as <;> rfl

@[simp] theorem writeBounded_nil (react : ε → Option ρ) (limit retries : ℕ)
    (as : List (Answer ε)) :
    writeBounded react limit retries ([] : List α) as = ⟨[], .done, 0, as⟩ := by
  cases as <;> rfl

/-! ## What is taken is a prefix -/

theorem cons_take_prefix {ys zs : List α} (x : α) (k : ℕ) (h : ys <+: zs.drop k) :
    x :: zs.take k ++ ys <+: x :: zs := by
  obtain ⟨ws, hw⟩ := h
  exact ⟨ws, by rw [List.append_assoc, hw, List.cons_append, List.take_append_drop]⟩

theorem writeAll_prefix (react : ε → Option ρ) (xs : List α) (as : List (Answer ε)) :
    (writeAll react xs as).sent <+: xs := by
  induction as generalizing xs with
  | nil => cases xs <;> simp [writeAll_pending]
  | cons a as ih =>
    cases xs with
    | nil => simp
    | cons x xs =>
      cases a with
      | accept k =>
        simp only [writeAll_accept, Flush.after_sent]
        exact cons_take_prefix x k (ih (xs.drop k))
      | signal e =>
        simp only [writeAll_signal]
        split
        · exact ih (x :: xs)
        · exact List.nil_prefix

theorem writeBounded_prefix (react : ε → Option ρ) (limit retries : ℕ) (xs : List α)
    (as : List (Answer ε)) : (writeBounded react limit retries xs as).sent <+: xs := by
  induction as generalizing retries xs with
  | nil => cases xs <;> simp [writeBounded_pending]
  | cons a as ih =>
    cases xs with
    | nil => simp
    | cons x xs =>
      cases a with
      | accept k =>
        simp only [writeBounded_accept]
        split_ifs
        · exact cons_take_prefix x k (ih 0 (xs.drop k))
        · exact List.nil_prefix
      | signal e =>
        simp only [writeBounded_signal]
        split_ifs
        · split
          · exact ih (retries + 1) (x :: xs)
          · exact List.nil_prefix
        · exact List.nil_prefix

/-! ## Done means everything was taken -/

theorem cons_take_append_eq_iff {ys zs : List α} (x : α) (k : ℕ) :
    x :: zs.take k ++ ys = x :: zs ↔ ys = zs.drop k := by
  constructor
  · intro h
    rw [List.cons_append, List.cons.injEq] at h
    have := congrArg (List.drop (zs.take k).length) h.2
    rw [List.drop_left] at this
    rw [this, List.length_take]
    by_cases hk : k ≤ zs.length
    · rw [min_eq_left hk]
    · rw [min_eq_right (by omega), List.drop_length, List.drop_eq_nil_of_le (by omega)]
  · rintro rfl
    rw [List.cons_append, List.take_append_drop]

theorem writeAll_done_iff (react : ε → Option ρ) (xs : List α) (as : List (Answer ε)) :
    (writeAll react xs as).status = .done ↔ (writeAll react xs as).sent = xs := by
  induction as generalizing xs with
  | nil => cases xs <;> simp [writeAll_pending]
  | cons a as ih =>
    cases xs with
    | nil => simp
    | cons x xs =>
      cases a with
      | accept k =>
        simp only [writeAll_accept, Flush.after_sent, Flush.after_status]
        rw [ih, cons_take_append_eq_iff]
      | signal e =>
        simp only [writeAll_signal]
        split
        · exact ih (x :: xs)
        · simp

theorem writeBounded_done_iff (react : ε → Option ρ) (limit retries : ℕ) (xs : List α)
    (as : List (Answer ε)) :
    (writeBounded react limit retries xs as).status = .done ↔
      (writeBounded react limit retries xs as).sent = xs := by
  induction as generalizing retries xs with
  | nil =>
    cases xs with
    | nil => simp
    | cons x xs =>
      simp only [writeBounded_pending]
      split_ifs <;> simp
  | cons a as ih =>
    cases xs with
    | nil => simp
    | cons x xs =>
      cases a with
      | accept k =>
        simp only [writeBounded_accept]
        split_ifs
        · simp only [Flush.after_sent, Flush.after_status]
          rw [ih, cons_take_append_eq_iff]
        · simp
      | signal e =>
        simp only [writeBounded_signal]
        split_ifs
        · split
          · exact ih (retries + 1) (x :: xs)
          · simp
        · simp

/-! ## Pieces -/

/-- What is taken in each attempt of `writeAll` that makes progress. -/
def writePieces (react : ε → Option ρ) : List α → List (Answer ε) → List (List α)
  | [], _ => []
  | _ :: _, [] => []
  | x :: xs, .accept k :: as => (x :: xs.take k) :: writePieces react (xs.drop k) as
  | x :: xs, .signal e :: as =>
      match react e with
      | none => writePieces react (x :: xs) as
      | some _ => []

theorem flatten_writePieces (react : ε → Option ρ) (xs : List α) (as : List (Answer ε)) :
    (writePieces react xs as).flatten = (writeAll react xs as).sent := by
  fun_induction writePieces react xs as with
  | case1 as => rw [writeAll_nil]; rfl
  | case2 x xs => rfl
  | case3 x xs k as ih => rw [List.flatten_cons, ih, writeAll_accept, Flush.after_sent]
  | case4 x xs e as h ih => simp only [writeAll_signal, h, ih, Flush.after_sent, List.nil_append]
  | case5 x xs e as r h => simp [writeAll_signal, h]

theorem ne_nil_of_mem_writePieces (react : ε → Option ρ) {xs : List α} {as : List (Answer ε)}
    {p : List α} (h : p ∈ writePieces react xs as) : p ≠ [] := by
  fun_induction writePieces react xs as with
  | case1 as => cases h
  | case2 x xs => cases h
  | case3 x xs k as ih =>
    rcases List.mem_cons.1 h with rfl | h
    · exact List.cons_ne_nil _ _
    · exact ih h
  | case4 x xs e as he ih => exact ih h
  | case5 x xs e as r he => cases h

/-! ## The bounded loop returns -/

/-- With `retries` attempts without progress behind it, the loop makes at most
`limit * length - retries` more, and strictly fewer if it is still running. -/
theorem writeBounded_calls (react : ε → Option ρ) {limit retries : ℕ} (hr : retries ≤ limit)
    {xs : List α} (hx : xs ≠ []) (as : List (Answer ε)) :
    (writeBounded react limit retries xs as).calls + retries ≤ limit * xs.length ∧
      ((writeBounded react limit retries xs as).status = .pending →
        (writeBounded react limit retries xs as).calls = as.length ∧
        (writeBounded react limit retries xs as).calls + retries < limit * xs.length) := by
  induction as generalizing retries xs with
  | nil =>
    cases xs with
    | nil => exact absurd rfl hx
    | cons x xs =>
      simp only [writeBounded_pending, List.length_cons, List.length_nil]
      refine ⟨by nlinarith, fun h => ?_⟩
      split_ifs at h
      exact ⟨trivial, by nlinarith⟩
  | cons a as ih =>
    cases xs with
    | nil => exact absurd rfl hx
    | cons x xs =>
      have one_row : limit ≤ limit * (x :: xs).length := by simp [Nat.mul_succ]
      cases a with
      | accept k =>
        simp only [writeBounded_accept]
        split_ifs with hlt
        · simp only [Flush.after_calls, Flush.after_status, List.length_cons]
          by_cases hd : xs.drop k = []
          · simp only [hd, writeBounded_nil]
            simp only [List.length_cons] at one_row
            exact ⟨by omega, by simp⟩
          · obtain ⟨hle, hp⟩ := ih (Nat.zero_le limit) hd
            have hlen : limit * (xs.drop k).length ≤ limit * xs.length :=
              Nat.mul_le_mul_left _ (by simp)
            rw [Nat.mul_succ]
            exact ⟨by omega, fun h => ⟨by have := (hp h).1; omega, by have := (hp h).2; omega⟩⟩
        · simp only
          exact ⟨by omega, by simp⟩
      | signal e =>
        simp only [writeBounded_signal]
        split_ifs with hlt
        · split
          · have hle' : retries + 1 ≤ limit := hlt
            obtain ⟨hle, hp⟩ := ih hle' (List.cons_ne_nil x xs)
            have hl : (Answer.signal e :: as).length = as.length + 1 := rfl
            simp only [Flush.after_calls, Flush.after_status]
            exact ⟨by omega, fun h => ⟨by have := (hp h).1; omega, by have := (hp h).2; omega⟩⟩
          · simp only
            exact ⟨by omega, by simp⟩
        · simp only
          exact ⟨by omega, by simp⟩

end PartialWrite
