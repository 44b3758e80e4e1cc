import Mathlib.Tactic

/-!
# Segmented sources

A reader of a byte stream meets nonempty segments of data of any size, mixed with signals that
carry no data (nothing to read yet, end of stream, failure). `readExact` is the loop that asks for
the rest of a buffer until the buffer is full or a signal makes it return: `react` says for each
signal whether the loop goes on (`none`) or returns a code (`some r`).

The content of a source is the data without its segmentation. `readExact` takes a prefix of the
content, and `stops` records at which offsets of the content the loop can be made to return.
-/

namespace SegStream

/-- One thing a read can meet: a nonempty segment of data, or a signal without data. -/
inductive Item (α ε : Type*) where
  | data (head : α) (tail : List α)
  | signal (e : ε)
  deriving DecidableEq, Repr

/-- What is left to read, in order. -/
abbrev Source (α ε : Type*) := List (Item α ε)

variable {α ε ρ : Type*}

def Item.content : Item α ε → List α
  | .data b bs => b :: bs
  | .signal _ => []

/-- The data of a source, without its segmentation and its signals. -/
def content (s : Source α ε) : List α := s.flatMap Item.content

/-- Elements that a read left behind are met first by the next read. -/
def unread : List α → Source α ε → Source α ε
  | [], s => s
  | b :: bs, s => .data b bs :: s

@[simp] theorem content_nil : content ([] : Source α ε) = [] := rfl

@[simp] theorem content_data (b : α) (bs : List α) (s : Source α ε) :
    content (.data b bs :: s) = b :: (bs ++ content s) := rfl

@[simp] theorem content_signal (e : ε) (s : Source α ε) :
    content (.signal e :: s) = content s := rfl

@[simp] theorem content_unread (xs : List α) (s : Source α ε) :
    content (unread xs s) = xs ++ content s := by
  cases xs <;> rfl

/-- The number of elements and of signals left: what every read makes smaller. -/
def size : Source α ε → ℕ
  | [] => 0
  | .data _ bs :: s => bs.length + 1 + size s
  | .signal _ :: s => 1 + size s

theorem size_unread (xs : List α) (s : Source α ε) : size (unread xs s) = xs.length + size s := by
  cases xs <;> simp [unread, size]

theorem mem_of_mem_unread {e : ε} {xs : List α} {s : Source α ε}
    (h : .signal e ∈ unread xs s) : .signal e ∈ s := by
  cases xs with
  | nil => exact h
  | cons b bs => simpa [unread] using h

theorem eq_nil_of_quiet {s : Source α ε} (hquiet : ∀ e, .signal e ∉ s) (hnil : content s = []) :
    s = [] := by
  cases s with
  | nil => rfl
  | cons i s =>
    cases i with
    | signal e => exact absurd (List.mem_cons_self ..) (hquiet e)
    | data b bs => cases hnil

/-! ## One read -/

/-- The answer to one read. -/
inductive ReadResult (α ε : Type*) where
  | got (xs : List α)
  | signal (e : ε)
  | ended

/-- One read of at most `n` elements: a prefix of the segment at the head, or the signal there. -/
def readOnce (n : ℕ) : Source α ε → ReadResult α ε × Source α ε
  | [] => (.ended, [])
  | .signal e :: s => (.signal e, s)
  | .data b bs :: s => (.got ((b :: bs).take n), unread ((b :: bs).drop n) s)

/-- A read takes a nonempty prefix of the content, of at most the length asked for. -/
theorem readOnce_got {n : ℕ} {s s' : Source α ε} {xs : List α} (h : readOnce n s = (.got xs, s')) :
    content s = xs ++ content s' ∧ xs.length ≤ n ∧ (0 < n → xs ≠ []) ∧
      ∀ e, .signal e ∈ s' → .signal e ∈ s := by
  cases s with
  | nil => simp [readOnce] at h
  | cons i s =>
    cases i with
    | signal e => simp [readOnce] at h
    | data b bs =>
      simp only [readOnce, Prod.mk.injEq, ReadResult.got.injEq] at h
      obtain ⟨rfl, rfl⟩ := h
      refine ⟨?_, List.length_take_le _ _, fun hn => ?_, fun e he => ?_⟩
      · rw [content_unread, ← List.append_assoc, List.take_append_drop]
        rfl
      · obtain ⟨m, rfl⟩ : ∃ m, n = m + 1 := ⟨n - 1, by omega⟩
        simp
      · exact List.mem_cons_of_mem _ (mem_of_mem_unread he)

/-! ## Reading an exact number of elements -/

/-- How a buffer was filled: what was stored, the code returned early (`none` for a full buffer),
and the source that is left. -/
structure Fill (α ε ρ : Type*) where
  got : List α
  stop : Option ρ
  rest : Source α ε

def Fill.prepend (xs : List α) (f : Fill α ε ρ) : Fill α ε ρ := { f with got := xs ++ f.got }

@[simp] theorem Fill.prepend_got (xs : List α) (f : Fill α ε ρ) :
    (f.prepend xs).got = xs ++ f.got := rfl

@[simp] theorem Fill.prepend_stop (xs : List α) (f : Fill α ε ρ) :
    (f.prepend xs).stop = f.stop := rfl

@[simp] theorem Fill.prepend_rest (xs : List α) (f : Fill α ε ρ) :
    (f.prepend xs).rest = f.rest := rfl

/-- Read until `n` elements are stored, a signal makes the loop return, or the source has ended
(code `eof`). -/
def readExact (react : ε → Option ρ) (eof : ρ) : ℕ → Source α ε → Fill α ε ρ
  | 0, s => ⟨[], none, s⟩
  | _ + 1, [] => ⟨[], some eof, []⟩
  | n + 1, .signal e :: s =>
      match react e with
      | none => readExact react eof (n + 1) s
      | some r => ⟨[], some r, s⟩
  | n + 1, .data b bs :: s =>
      if bs.length ≤ n then (readExact react eof (n - bs.length) s).prepend (b :: bs)
      else ⟨b :: bs.take n, none, unread (bs.drop n) s⟩

section ReadExact

variable (react : ε → Option ρ) (eof : ρ)

@[simp] theorem readExact_zero (s : Source α ε) : readExact react eof 0 s = ⟨[], none, s⟩ := by
  cases s <;> simp [readExact]

/-- One round of the loop: ask for what is still missing, then go on or return. -/
theorem readExact_read (n : ℕ) (s : Source α ε) :
    readExact react eof (n + 1) s =
      match readOnce (n + 1) s with
      | (.ended, s') => ⟨[], some eof, s'⟩
      | (.signal e, s') =>
          match react e with
          | none => readExact react eof (n + 1) s'
          | some r => ⟨[], some r, s'⟩
      | (.got xs, s') => (readExact react eof (n + 1 - xs.length) s').prepend xs := by
  cases s with
  | nil => simp [readExact, readOnce]
  | cons i s =>
    cases i with
    | signal e => simp [readExact, readOnce]
    | data b bs =>
      by_cases h : bs.length ≤ n
      · have hd : bs.drop n = [] := List.drop_eq_nil_of_le h
        have ht : bs.take n = bs := List.take_of_length_le h
        simp [readExact, readOnce, h, hd, ht, unread]
      · have hlen : n - min n bs.length = 0 := by omega
        simp [readExact, readOnce, h, hlen, Fill.prepend]

/-- Induction over the rounds of the loop: the buffer is full, the source has ended, a signal is
passed over or makes the loop return, or a segment fits into the buffer or fills it. -/
@[elab_as_elim]
theorem readExact_induct {motive : ℕ → Source α ε → Fill α ε ρ → Prop}
    (full : ∀ s, motive 0 s ⟨[], none, s⟩)
    (ended : ∀ n, motive (n + 1) [] ⟨[], some eof, []⟩)
    (passed : ∀ n e s, react e = none → motive (n + 1) s (readExact react eof (n + 1) s) →
      motive (n + 1) (.signal e :: s) (readExact react eof (n + 1) s))
    (stopped : ∀ n e s r, react e = some r → motive (n + 1) (.signal e :: s) ⟨[], some r, s⟩)
    (fits : ∀ n b bs s, bs.length ≤ n →
      motive (n - bs.length) s (readExact react eof (n - bs.length) s) →
      motive (n + 1) (.data b bs :: s)
        ((readExact react eof (n - bs.length) s).prepend (b :: bs)))
    (filled : ∀ n b bs s, ¬ bs.length ≤ n →
      motive (n + 1) (.data b bs :: s) ⟨b :: bs.take n, none, unread (bs.drop n) s⟩)
    (n : ℕ) (s : Source α ε) : motive n s (readExact react eof n s) := by
  fun_induction readExact react eof n s with
  | case1 s => exact full s
  | case2 n => exact ended n
  | case3 n e s he ih => exact passed n e s he ih
  | case4 n e s r he => exact stopped n e s r he
  | case5 n b bs s h ih => exact fits n b bs s h ih
  | case6 n b bs s h => exact filled n b bs s h

/-- What is stored and what is left are together what was there. -/
theorem readExact_content (n : ℕ) (s : Source α ε) :
    (readExact react eof n s).got ++ content (readExact react eof n s).rest = content s := by
  induction n, s using readExact_induct react eof with
  | full s => rfl
  | ended n => rfl
  | passed n e s he ih => simpa using ih
  | stopped n e s r he => simp
  | fits n b bs s h ih => simpa [List.append_assoc] using ih
  | filled n b bs s h => simp [← List.append_assoc, List.take_append_drop]

/-- The buffer is full exactly when no code was returned. -/
theorem readExact_full_iff (n : ℕ) (s : Source α ε) :
    (readExact react eof n s).stop = none ↔ (readExact react eof n s).got.length = n := by
  induction n, s using readExact_induct react eof with
  | full s => simp
  | ended n => simp
  | passed n e s he ih => exact ih
  | stopped n e s r he => simp
  | fits n b bs s h ih =>
    simp only [Fill.prepend_got, Fill.prepend_stop, List.length_append, List.length_cons]
    rw [ih]
    omega
  | filled n b bs s h =>
    simp only [List.length_cons, List.length_take, true_iff]
    omega

variable {react eof}

theorem readExact_got_of_full {n : ℕ} {s : Source α ε} (h : (readExact react eof n s).stop = none) :
    (readExact react eof n s).got = (content s).take n := by
  have hlen := (readExact_full_iff react eof n s).1 h
  rw [← readExact_content react eof n s, List.take_append_of_le_length (by omega),
    List.take_of_length_le (by omega)]

theorem readExact_rest_of_full {n : ℕ} {s : Source α ε}
    (h : (readExact react eof n s).stop = none) :
    content (readExact react eof n s).rest = (content s).drop n := by
  have hlen := (readExact_full_iff react eof n s).1 h
  rw [← readExact_content react eof n s, List.drop_left' hlen]

/-- Reading exactly the head of the content stores it and leaves the tail. -/
theorem readExact_append_of_full {xs ys : List α} {s : Source α ε} (hs : content s = xs ++ ys)
    (h : (readExact react eof xs.length s).stop = none) :
    (readExact react eof xs.length s).got = xs ∧
      content (readExact react eof xs.length s).rest = ys := by
  rw [readExact_got_of_full h, readExact_rest_of_full h, hs]
  simp

/-- The data in front of the first signal. -/
def arrived : Source α ε → List α
  | [] => []
  | .signal _ :: _ => []
  | .data b bs :: s => b :: bs ++ arrived s

theorem arrived_unread (xs : List α) (s : Source α ε) :
    arrived (unread xs s) = xs ++ arrived s := by
  cases xs <;> rfl

variable (eof) in
/-- A read that every signal stops gets what arrives in front of the first one. -/
theorem readExact_got_arrived (hreact : ∀ e, react e ≠ none) (n : ℕ) (s : Source α ε) :
    (readExact react eof n s).got = (arrived s).take n := by
  induction n, s using readExact_induct react eof with
  | full s => rw [List.take_zero]
  | ended n => rfl
  | passed n e s he => exact absurd he (hreact e)
  | stopped n e s r he => rfl
  | fits n b bs s h ih =>
    have hle : (b :: bs).length ≤ n + 1 := Nat.succ_le_succ h
    have hsub : n + 1 - (b :: bs).length = n - bs.length := Nat.add_sub_add_right ..
    rw [Fill.prepend_got, ih, arrived, List.take_append, hsub, List.take_of_length_le hle]
  | filled n b bs s h =>
    rw [arrived, List.take_append_of_le_length (by rw [List.length_cons]; omega),
      List.take_succ_cons]

theorem readExact_rest_arrived (hreact : ∀ e, react e ≠ none) {n : ℕ} {s : Source α ε}
    (hfull : (readExact react eof n s).stop = none) :
    arrived (readExact react eof n s).rest = (arrived s).drop n := by
  induction n, s using readExact_induct react eof with
  | full s => rfl
  | ended n => cases hfull
  | passed n e s he => exact absurd he (hreact e)
  | stopped n e s r he => cases hfull
  | fits n b bs s h ih =>
    have hle : (b :: bs).length ≤ n + 1 := Nat.succ_le_succ h
    have hsub : n + 1 - (b :: bs).length = n - bs.length := Nat.add_sub_add_right ..
    rw [Fill.prepend_rest, ih hfull, arrived, List.drop_append, hsub,
      List.drop_eq_nil_of_le hle, List.nil_append]
  | filled n b bs s h =>
    rw [arrived, arrived_unread, List.drop_append_of_le_length (by rw [List.length_cons]; omega),
      List.drop_succ_cons]

variable (react eof)

theorem readExact_size_le (n : ℕ) (s : Source α ε) :
    size (readExact react eof n s).rest ≤ size s := by
  induction n, s using readExact_induct react eof with
  | full s => exact le_rfl
  | ended n => exact le_rfl
  | passed n e s he ih => simp only [size]; omega
  | stopped n e s r he => simp only [size]; omega
  | fits n b bs s h ih => simp only [Fill.prepend_rest, size]; omega
  | filled n b bs s h =>
    simp only [size_unread, size, List.length_drop]
    omega

/-- A read of at least one element takes something off every source that has not ended. -/
theorem readExact_size_lt {n : ℕ} (hn : 0 < n) {s : Source α ε} (hs : s ≠ []) :
    size (readExact react eof n s).rest < size s := by
  obtain ⟨n, rfl⟩ : ∃ m, n = m + 1 := ⟨n - 1, by omega⟩
  cases s with
  | nil => exact absurd rfl hs
  | cons i s =>
    cases i with
    | signal e =>
      simp only [readExact, size]
      split
      · have := readExact_size_le react eof (n + 1) s
        omega
      · simp only
        omega
    | data b bs =>
      simp only [readExact, size]
      split_ifs with h
      · have := readExact_size_le react eof (n - bs.length) s
        simp only [Fill.prepend_rest]
        omega
      · simp only [size_unread, List.length_drop]
        omega

end ReadExact

/-! ## Where a loop can be made to return -/

/-- The offsets, in the content, of the signals that make a loop return. -/
def stops (react : ε → Option ρ) : Source α ε → List ℕ
  | [] => []
  | .data _ bs :: s => (stops react s).map (· + (bs.length + 1))
  | .signal e :: s =>
      match react e with
      | none => stops react s
      | some _ => 0 :: stops react s

section Stops

variable {react : ε → Option ρ} {eof : ρ}

theorem stops_unread (xs : List α) (s : Source α ε) :
    stops react (unread xs s) = (stops react s).map (· + xs.length) := by
  cases xs <;> simp [unread, stops]

/-- Every stop lies inside the content or at its end. -/
theorem le_of_mem_stops {s : Source α ε} {k : ℕ} (h : k ∈ stops react s) :
    k ≤ (content s).length := by
  induction s generalizing k with
  | nil => simp [stops] at h
  | cons i s ih =>
    cases i with
    | signal e =>
      simp only [stops] at h
      split at h
      · exact ih h
      · rcases List.mem_cons.1 h with rfl | h
        · exact Nat.zero_le _
        · exact ih h
    | data b bs =>
      simp only [stops, List.mem_map] at h
      obtain ⟨j, hj, rfl⟩ := h
      have := ih hj
      simp only [content_data, List.length_cons, List.length_append]
      omega

theorem stops_sorted (s : Source α ε) : (stops react s).Pairwise (· ≤ ·) := by
  induction s with
  | nil => simp [stops]
  | cons i s ih =>
    cases i with
    | signal e =>
      simp only [stops]
      split
      · exact ih
      · exact List.pairwise_cons.2 ⟨fun _ _ => Nat.zero_le _, ih⟩
    | data b bs =>
      simp only [stops, List.pairwise_map]
      exact ih.imp fun h => by omega

/-- The first stop is the least one. -/
theorem le_of_stops_cons {s : Source α ε} {k : ℕ} {ks : List ℕ} (h : stops react s = k :: ks) :
    ∀ j ∈ stops react s, k ≤ j := by
  have hs : (stops react s).Pairwise (· ≤ ·) := stops_sorted s
  rw [h] at hs ⊢
  intro j hj
  rcases List.mem_cons.1 hj with rfl | hj
  · exact le_rfl
  · exact (List.pairwise_cons.1 hs).1 j hj

theorem stops_eq_nil {s : Source α ε} (h : ∀ e, .signal e ∈ s → react e = none) :
    stops react s = [] := by
  induction s with
  | nil => rfl
  | cons i s ih =>
    have hs := ih fun e he => h e (List.mem_cons_of_mem _ he)
    cases i with
    | signal e => simp only [stops, h e (List.mem_cons_self ..), hs]
    | data b bs => simp only [stops, hs, List.map_nil]

/-- With enough content and no stop before its end, the buffer is filled. -/
theorem readExact_full {n : ℕ} {s : Source α ε} (hn : n ≤ (content s).length)
    (hs : ∀ k ∈ stops react s, n ≤ k) : (readExact react eof n s).stop = none := by
  induction n, s using readExact_induct react eof with
  | full s => rfl
  | ended n => simp at hn
  | passed n e s he ih => exact ih hn (by simpa only [stops, he] using hs)
  | stopped n e s r he =>
    simp only [stops, he] at hs
    exact absurd (hs 0 (List.mem_cons_self ..)) (by omega)
  | fits n b bs s h ih =>
    simp only [Fill.prepend_stop]
    refine ih ?_ fun k hk => ?_
    · simp only [content_data, List.length_cons, List.length_append] at hn
      omega
    · have := hs (k + (bs.length + 1)) (by simpa only [stops] using List.mem_map_of_mem hk)
      omega
  | filled n b bs s h => rfl

/-- After a filled buffer the stops are the same, counted from the end of the buffer. -/
theorem stops_of_full {n : ℕ} {s : Source α ε} (h : (readExact react eof n s).stop = none) :
    stops react s = (stops react (readExact react eof n s).rest).map (· + n) := by
  induction n, s using readExact_induct react eof with
  | full s => simp
  | ended n => simp at h
  | passed n e s he ih => simpa only [stops, he] using ih h
  | stopped n e s r he => simp at h
  | fits n b bs s hle ih =>
    simp only [Fill.prepend_stop] at h
    simp only [stops, Fill.prepend_rest]
    rw [ih h, List.map_map]
    apply List.map_congr_left
    intro k _
    simp only [Function.comp_apply]
    omega
  | filled n b bs s hle =>
    simp only [stops, stops_unread, List.map_map, List.length_drop]
    apply List.map_congr_left
    intro k _
    simp only [Function.comp_apply]
    omega

/-- A loop that returns early has met its first stop, or the end of the source. -/
theorem stops_of_stop {n : ℕ} {s : Source α ε} {r : ρ}
    (h : (readExact react eof n s).stop = some r) :
    (∃ e, .signal e ∈ s ∧ react e = some r ∧
      stops react s = (0 :: stops react (readExact react eof n s).rest).map
        (· + (readExact react eof n s).got.length)) ∨
    (r = eof ∧ stops react s = [] ∧ (readExact react eof n s).got = content s ∧
      (readExact react eof n s).rest = []) := by
  induction n, s using readExact_induct react eof with
  | full s => simp at h
  | ended n => exact Or.inr ⟨(Option.some.inj h).symm, rfl, rfl, rfl⟩
  | passed n e s he ih =>
    rcases ih h with ⟨e', hm, hr, hs⟩ | ⟨hr, hs, hg, hl⟩
    · exact Or.inl ⟨e', List.mem_cons_of_mem _ hm, hr, by simpa only [stops, he] using hs⟩
    · exact Or.inr ⟨hr, by simpa only [stops, he] using hs, hg, hl⟩
  | stopped n e s r' he =>
    refine Or.inl ⟨e, List.mem_cons_self .., he.trans h, ?_⟩
    simp [stops, he]
  | fits n b bs s hle ih =>
    simp only [Fill.prepend_stop] at h
    rcases ih h with ⟨e, hm, hr, hs⟩ | ⟨hr, hs, hg, hl⟩
    · refine Or.inl ⟨e, List.mem_cons_of_mem _ hm, hr, ?_⟩
      simp only [stops, Fill.prepend_got, Fill.prepend_rest, List.length_append, List.length_cons]
      rw [hs, List.map_map]
      apply List.map_congr_left
      intro k _
      simp only [Function.comp_apply]
      omega
    · refine Or.inr ⟨hr, ?_, ?_, hl⟩
      · simp [stops, hs]
      · simp [hg]
  | filled n b bs s hle => simp at h

variable (eof) in
/-- Where all stops have one code, a loop that asks for more than what lies in front of the first
stop returns this code there. -/
theorem readExact_paused {n : ℕ} {s : Source α ε} {j : ℕ} {js : List ℕ} {r : ρ}
    (hr : ∀ e, .signal e ∈ s → react e = some r) (hs : stops react s = j :: js) (hj : j < n) :
    (readExact react eof n s).stop = some r ∧
      content (readExact react eof n s).rest = (content s).drop j ∧
      stops react s = (0 :: stops react (readExact react eof n s).rest).map (· + j) := by
  rcases hstop : (readExact react eof n s).stop with _ | r'
  · have hfull := stops_of_full hstop
    rw [hs] at hfull
    cases hmap : stops react (readExact react eof n s).rest with
    | nil => simp [hmap] at hfull
    | cons i is =>
      simp only [hmap, List.map_cons, List.cons.injEq] at hfull
      omega
  · rcases stops_of_stop hstop with ⟨e, hm, he, hst⟩ | ⟨-, hnil, -⟩
    · have hlen : (readExact react eof n s).got.length = j := by
        have hhead := hst.symm.trans hs
        simp only [List.map_cons, List.cons.injEq] at hhead
        omega
      rw [hlen] at hst
      refine ⟨by rw [← he, hr e hm], ?_, hst⟩
      conv_rhs => rw [← readExact_content react eof n s]
      rw [List.drop_left' hlen]
    · rw [hs] at hnil
      cases hnil

/-- A read with content to bring and no stop in front of it brings data; the stops are then counted
from the end of this data. -/
theorem readOnce_of_stops {n : ℕ} {s : Source α ε} (hreact : ∀ e, react e ≠ none)
    (hc : content s ≠ []) (hs : ∀ k ∈ stops react s, 0 < k) :
    ∃ xs s', readOnce n s = (.got xs, s') ∧
      stops react s = (stops react s').map (· + xs.length) := by
  cases s with
  | nil => exact absurd rfl hc
  | cons i s =>
    cases i with
    | signal e =>
      obtain ⟨r, hr⟩ := Option.ne_none_iff_exists'.1 (hreact e)
      exact absurd (hs 0 (by simp [stops, hr])) (lt_irrefl 0)
    | data b bs =>
      refine ⟨_, _, rfl, ?_⟩
      rw [stops_unread, List.map_map, stops]
      apply List.map_congr_left
      intro k _
      have hlen := congrArg List.length (List.take_append_drop n (b :: bs))
      rw [List.length_append, List.length_cons] at hlen
      simp only [Function.comp_apply]
      omega

/-- Every signal that is left was there before. -/
theorem signal_mem_of_mem_rest {n : ℕ} {s : Source α ε} {e : ε}
    (h : .signal e ∈ (readExact react eof n s).rest) : .signal e ∈ s := by
  induction n, s using readExact_induct react eof with
  | full s => exact h
  | ended n => simp at h
  | passed n e' s he ih => exact List.mem_cons_of_mem _ (ih h)
  | stopped n e' s r he => exact List.mem_cons_of_mem _ h
  | fits n b bs s hle ih => exact List.mem_cons_of_mem _ (ih h)
  | filled n b bs s hle => exact List.mem_cons_of_mem _ (mem_of_mem_unread h)

end Stops

/-! ## Sources that stop at their end only -/

/-- Nothing makes the loop return before the whole content is read. -/
def StopsAtEnd (react : ε → Option ρ) (s : Source α ε) : Prop :=
  ∀ k ∈ stops react s, (content s).length ≤ k

section StopsAtEnd

variable {react : ε → Option ρ} {eof : ρ}

/-- A read that starts with elements in front of the source takes these first. -/
theorem readExact_unread (n : ℕ) (xs : List α) (s : Source α ε) :
    readExact react eof n (unread xs s) =
      ⟨xs.take n ++ (readExact react eof (n - xs.length) s).got,
        (readExact react eof (n - xs.length) s).stop,
        unread (xs.drop n) (readExact react eof (n - xs.length) s).rest⟩ := by
  cases xs with
  | nil => simp [unread]
  | cons b bs =>
    cases n with
    | zero => simp [unread]
    | succ n =>
      simp only [unread, readExact, List.length_cons, Nat.add_sub_add_right]
      split_ifs with h
      · rw [List.drop_eq_nil_of_le (by simpa using h), List.take_of_length_le (by simpa using h)]
        rfl
      · rw [Nat.sub_eq_zero_of_le (by omega), readExact_zero]
        simp

theorem stopsAtEnd_unread {xs : List α} {s : Source α ε} :
    StopsAtEnd react (unread xs s) ↔ StopsAtEnd react s := by
  simp only [StopsAtEnd, stops_unread, content_unread, List.length_append, List.forall_mem_map]
  exact forall₂_congr fun k _ => by omega

variable (eof) in
/-- What a read brings and leaves is read off the content, however the source is segmented. -/
theorem readExact_of_stopsAtEnd {s : Source α ε} (hs : StopsAtEnd react s) (n : ℕ) :
    ((readExact react eof n s).stop = none ↔ n ≤ (content s).length) ∧
      (readExact react eof n s).got = (content s).take n ∧
      content (readExact react eof n s).rest = (content s).drop n ∧
      StopsAtEnd react (readExact react eof n s).rest := by
  have hcontent := readExact_content react eof n s
  rcases hstop : (readExact react eof n s).stop with _ | r
  · have hlen := (readExact_full_iff react eof n s).1 hstop
    have hgot := readExact_got_of_full hstop
    have hrest := readExact_rest_of_full hstop
    refine ⟨⟨fun _ => ?_, fun _ => rfl⟩, hgot, hrest, fun k hk => ?_⟩
    · rw [hgot, List.length_take] at hlen
      omega
    · have hend := hs (k + n) (by rw [stops_of_full hstop]; exact List.mem_map_of_mem hk)
      rw [hrest, List.length_drop]
      omega
  · have hshort : (readExact react eof n s).got = content s ∧
        content (readExact react eof n s).rest = [] := by
      rcases stops_of_stop hstop with ⟨e, -, -, hstops⟩ | ⟨-, -, hgot, hrest⟩
      · have hend := hs (readExact react eof n s).got.length (by rw [hstops]; simp)
        rw [← hcontent, List.length_append] at hend
        have hnil := List.eq_nil_of_length_eq_zero (l := content (readExact react eof n s).rest)
          (by omega)
        rw [hnil, List.append_nil] at hcontent
        exact ⟨hcontent, hnil⟩
      · exact ⟨hgot, by rw [hrest]; rfl⟩
    have hlt : ¬ n ≤ (content s).length := fun hle => by
      rw [readExact_full hle fun k hk => hle.trans (hs k hk)] at hstop
      cases hstop
    have hle : (content s).length ≤ n := by omega
    refine ⟨⟨nofun, fun h => absurd h hlt⟩, ?_, ?_, fun k _ => ?_⟩
    · rw [hshort.1, List.take_of_length_le hle]
    · rw [hshort.2, List.drop_eq_nil_of_le hle]
    · rw [hshort.2]
      exact Nat.zero_le k

end StopsAtEnd

/-! ## Where the segments end -/

/-- The offsets, in the content, at which a segment ends. -/
def cuts : Source α ε → List ℕ
  | [] => []
  | .data _ bs :: s => (bs.length + 1) :: (cuts s).map (· + (bs.length + 1))
  | .signal _ :: s => cuts s

theorem pos_of_mem_cuts {s : Source α ε} {c : ℕ} (h : c ∈ cuts s) : 0 < c := by
  induction s with
  | nil => cases h
  | cons i s ih =>
    cases i with
    | signal e => exact ih h
    | data b bs =>
      rcases List.mem_cons.1 h with rfl | h
      · exact Nat.succ_pos _
      · obtain ⟨d, -, rfl⟩ := List.mem_map.1 h
        exact Nat.succ_pos _

theorem mem_cuts_unread {xs : List α} {s : Source α ε} {c : ℕ} (hc : 0 < c) :
    c ∈ cuts (unread xs s) ↔ c = xs.length ∨ ∃ d ∈ cuts s, d + xs.length = c := by
  cases xs with
  | nil => simp [unread, hc.ne']
  | cons b bs => simp [unread, cuts]

/-- The segments of `s'` end where those of `s` do, `k` elements further on. -/
def CutsBehind (k : ℕ) (s s' : Source α ε) : Prop :=
  ∀ c, 0 < c → (c ∈ cuts s' ↔ c + k ∈ cuts s)

theorem CutsBehind.trans {k l : ℕ} {s s' s'' : Source α ε} (h : CutsBehind k s s')
    (h' : CutsBehind l s' s'') : CutsBehind (k + l) s s'' := fun c hc => by
  rw [h' c hc, h (c + l) (Nat.add_pos_left hc l), Nat.add_assoc, Nat.add_comm l k]

theorem CutsBehind.mem {k : ℕ} {s s' : Source α ε} (h : CutsBehind k s s') {c : ℕ}
    (hc : c ∈ cuts s') : c + k ∈ cuts s :=
  (h c (pos_of_mem_cuts hc)).1 hc

/-- A segment that ends behind the first `k` elements. -/
theorem CutsBehind.sub_mem {k : ℕ} {s s' : Source α ε} (h : CutsBehind k s s') {c : ℕ}
    (hc : c ∈ cuts s) (hk : k < c) : c - k ∈ cuts s' :=
  (h (c - k) (Nat.sub_pos_of_lt hk)).2 (by rwa [Nat.sub_add_cancel hk.le])

theorem CutsBehind.zero (s : Source α ε) : CutsBehind 0 s s := fun _ _ => Iff.rfl

/-- A read brings all it asks for or a whole segment, never more than the first segment. -/
theorem readOnce_cuts {n : ℕ} {s s' : Source α ε} {xs : List α} (h : readOnce n s = (.got xs, s')) :
    (xs.length = n ∨ xs.length ∈ cuts s) ∧ (∀ c ∈ cuts s, xs.length ≤ c) ∧
      CutsBehind xs.length s s' := by
  cases s with
  | nil => simp [readOnce] at h
  | cons i s =>
    cases i with
    | signal e => simp [readOnce] at h
    | data b bs =>
      simp only [readOnce, Prod.mk.injEq, ReadResult.got.injEq] at h
      obtain ⟨rfl, rfl⟩ := h
      refine ⟨?_, ?_, fun c hc => ?_⟩
      · simp only [cuts, List.mem_cons, List.length_take, List.length_cons]
        omega
      · intro c hc
        simp only [cuts, List.mem_cons, List.mem_map] at hc
        simp only [List.length_take, List.length_cons]
        rcases hc with rfl | ⟨d, -, rfl⟩ <;> omega
      · rw [mem_cuts_unread hc, cuts, List.mem_cons, List.mem_map]
        simp only [List.length_drop, List.length_take, List.length_cons]
        refine or_congr (by omega) (exists_congr fun d => and_congr_right fun _ => ?_)
        omega

theorem cutsBehind_of_full {react : ε → Option ρ} {eof : ρ} {n : ℕ} {s : Source α ε}
    (h : (readExact react eof n s).stop = none) :
    CutsBehind n s (readExact react eof n s).rest := by
  induction n, s using readExact_induct react eof with
  | full s => exact CutsBehind.zero s
  | ended n => simp at h
  | passed n e s he ih => exact ih h
  | stopped n e s r he => simp at h
  | fits n b bs s hle ih =>
    have hsegment : CutsBehind (bs.length + 1) (.data b bs :: s) s := by
      intro c hc
      rw [cuts, List.mem_cons, List.mem_map]
      simp [hc.ne']
    have hall := hsegment.trans (ih h)
    rwa [show bs.length + 1 + (n - bs.length) = n + 1 by omega] at hall
  | filled n b bs s hle =>
    intro c hc
    rw [mem_cuts_unread hc, cuts, List.mem_cons, List.mem_map, List.length_drop]
    exact or_congr (by omega) (exists_congr fun d => and_congr_right fun _ => by omega)

/-- A read from a source that stops at its end only brings data if there is some, and leaves such a
source. -/
theorem readOnce_of_stopsAtEnd {react : ε → Option ρ} (hreact : ∀ e, react e ≠ none) {n : ℕ}
    {s : Source α ε} (hc : content s ≠ []) (hs : StopsAtEnd react s) :
    ∃ xs s', readOnce n s = (.got xs, s') ∧ StopsAtEnd react s' := by
  obtain ⟨xs, s', hr, hstops⟩ := readOnce_of_stops (n := n) hreact hc
    fun k hk => (List.length_pos_iff.2 hc).trans_le (hs k hk)
  refine ⟨xs, s', hr, fun k hk => ?_⟩
  have hend := hs (k + xs.length) (by rw [hstops]; exact List.mem_map_of_mem hk)
  rw [(readOnce_got hr).1, List.length_append] at hend
  omega

/-! ## Reading chunk by chunk -/

theorem readOnce_size_lt {n : ℕ} (hn : 0 < n) {s s' : Source α ε} {xs : List α}
    (h : readOnce n s = (.got xs, s')) : size s' < size s := by
  cases s with
  | nil => simp [readOnce] at h
  | cons i s =>
    cases i with
    | signal e => simp [readOnce] at h
    | data b bs =>
      simp only [readOnce, Prod.mk.injEq] at h
      rw [← h.2, size_unread, List.length_drop, size, List.length_cons]
      omega

/-- The chunks that reads of at most `n + 1` elements bring, up to the first read without data. -/
def readChunks (n : ℕ) (s : Source α ε) : List (List α) :=
  match _h : readOnce (n + 1) s with
  | (.got xs, s') => xs :: readChunks n s'
  | _ => []
termination_by size s
decreasing_by exact readOnce_size_lt n.succ_pos _h

/-- Without signals the chunks make up the content. -/
theorem flatten_readChunks (n : ℕ) {s : Source α ε} (hs : ∀ e, .signal e ∉ s) :
    (readChunks n s).flatten = content s := by
  induction hn : size s using Nat.strong_induction_on generalizing s with
  | _ m ih =>
    unfold readChunks
    cases s with
    | nil => rfl
    | cons i s =>
      cases i with
      | signal e => exact absurd (List.mem_cons_self ..) (hs e)
      | data b bs =>
        have hread : readOnce (n + 1) (.data b bs :: s) =
            (.got ((b :: bs).take (n + 1)), unread ((b :: bs).drop (n + 1)) s) := rfl
        split
        · rename_i xs s' h
          have hlt := readOnce_size_lt n.succ_pos h
          rw [hread] at h
          simp only [Prod.mk.injEq, ReadResult.got.injEq] at h
          obtain ⟨rfl, rfl⟩ := h
          rw [List.flatten_cons, ih _ (hn ▸ hlt) (fun e he =>
            hs e (List.mem_cons_of_mem _ (mem_of_mem_unread he))) rfl, content_unread,
            ← List.append_assoc, List.take_append_drop]
          rfl
        · rename_i h
          exact absurd hread (h _ _)

end SegStream
