import Mathlib.Tactic

/-!
# Self-delimiting words

A code gives every letter a word. `Decodes` says that a decoder finds, in front of any continuation,
a key of the letter and the continuation; then a sequence of words determines the keys of its
letters, and nothing more when the word depends on the key only. A decoder that `Waits` says nothing
of a word before all of it is there, so what it reads off a stream that is still arriving are the
first of the letters (`Decodes.decodeAll_start`).
-/

namespace PrefixCode

variable {α β κ : Type*}

/-- The decoder finds the key of the first word and what follows it. -/
def Decodes (code : α → List β) (key : α → κ) (decode : List β → Option (κ × List β)) : Prop :=
  ∀ a t, decode (code a ++ t) = some (key a, t)

variable {code : α → List β} {key : α → κ} {decode : List β → Option (κ × List β)}

/-- Of two continued words that are the same, the keys and the continuations are the same. -/
theorem Decodes.append_inj (h : Decodes code key decode) {a b : α} {s t : List β}
    (heq : code a ++ s = code b ++ t) : key a = key b ∧ s = t := by
  have hdecode := (h a s).symm.trans ((congrArg decode heq).trans (h b t))
  simpa using hdecode

/-- The words of a sequence determine the keys of its letters. -/
theorem Decodes.map_key_eq (h : Decodes code key decode) (hne : ∀ a, code a ≠ []) {as bs : List α}
    (heq : as.flatMap code = bs.flatMap code) : as.map key = bs.map key := by
  induction as generalizing bs with
  | nil =>
    cases bs with
    | nil => rfl
    | cons b bs =>
      rw [List.flatMap_nil, List.flatMap_cons] at heq
      exact absurd (List.append_eq_nil_iff.1 heq.symm).1 (hne b)
  | cons a as ih =>
    cases bs with
    | nil =>
      rw [List.flatMap_nil, List.flatMap_cons] at heq
      exact absurd (List.append_eq_nil_iff.1 heq).1 (hne a)
    | cons b bs =>
      rw [List.flatMap_cons, List.flatMap_cons] at heq
      obtain ⟨hkey, hrest⟩ := h.append_inj heq
      rw [List.map_cons, List.map_cons, hkey, ih hrest]

/-- Two sequences have the same words exactly when they have the same keys. -/
theorem Decodes.flatMap_eq_iff (h : Decodes code key decode) (hne : ∀ a, code a ≠ [])
    (word : κ → List β) (hword : ∀ a, code a = word (key a)) {as bs : List α} :
    as.flatMap code = bs.flatMap code ↔ as.map key = bs.map key := by
  refine ⟨h.map_key_eq hne, fun hkeys => ?_⟩
  have hflat (cs : List α) : cs.flatMap code = (cs.map key).flatMap word := by
    rw [List.flatMap_map]
    exact congrArg (cs.flatMap ·) (funext hword)
  rw [hflat as, hflat bs, hkeys]

/-! ## Reading a stream -/

/-- The decoder says nothing of a word that has not arrived in full. -/
structure Waits (code : α → List β) (decode : List β → Option (κ × List β)) : Prop where
  nil : decode [] = none
  word : ∀ a t, t <+: code a → t ≠ code a → decode t = none

/-- The keys read off the bytes that are there, `n` at most, until the decoder waits for more. -/
def decodeAll (decode : List β → Option (κ × List β)) : ℕ → List β → List κ
  | 0, _ => []
  | n + 1, bs =>
      match decode bs with
      | none => []
      | some (k, t) => k :: decodeAll decode n t

/-- Of a stream that is still arriving, the first letters are read. -/
theorem Decodes.decodeAll_start (h : Decodes code key decode) (hw : Waits code decode)
    (hne : ∀ a, code a ≠ []) {as : List α} {bs : List β} (hbs : bs <+: as.flatMap code) {n : ℕ}
    (hn : bs.length ≤ n) : decodeAll decode n bs <+: as.map key := by
  induction as generalizing bs n with
  | nil =>
    obtain rfl : bs = [] := List.prefix_nil.1 hbs
    cases n with
    | zero => exact List.nil_prefix
    | succ n => simp [decodeAll, hw.nil]
  | cons a as ih =>
    rw [List.flatMap_cons] at hbs
    by_cases hword : code a <+: bs
    · obtain ⟨t, rfl⟩ := hword
      have hpos := List.length_pos_iff.2 (hne a)
      rw [List.length_append] at hn
      obtain ⟨n, rfl⟩ : ∃ m, n = m + 1 := ⟨n - 1, by omega⟩
      rw [decodeAll, h a t, List.map_cons]
      exact (List.prefix_cons_inj _).2 (ih ((List.prefix_append_right_inj _).1 hbs) (by omega))
    · have hstart := (List.prefix_or_prefix_of_prefix hbs (List.prefix_append _ _)).resolve_right
        hword
      have hnone : decode bs = none := hw.word a bs hstart fun heq => hword (heq ▸ List.prefix_rfl)
      cases n with
      | zero => exact List.nil_prefix
      | succ n => simp [decodeAll, hnone]

/-- Of a stream that has arrived, all letters are read. -/
theorem Decodes.decodeAll_flatMap (h : Decodes code key decode) (hne : ∀ a, code a ≠ [])
    (hnil : decode [] = none) {as : List α} {n : ℕ} (hn : (as.flatMap code).length ≤ n) :
    decodeAll decode n (as.flatMap code) = as.map key := by
  induction as generalizing n with
  | nil => cases n <;> simp [decodeAll, hnil]
  | cons a as ih =>
    have hpos := List.length_pos_iff.2 (hne a)
    rw [List.flatMap_cons] at hn ⊢
    rw [List.length_append] at hn
    obtain ⟨n, rfl⟩ : ∃ m, n = m + 1 := ⟨n - 1, by omega⟩
    rw [decodeAll, h a, List.map_cons]
    exact congrArg (key a :: ·) (ih (by omega))

end PrefixCode
