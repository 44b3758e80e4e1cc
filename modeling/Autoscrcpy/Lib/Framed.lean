import Autoscrcpy.Lib.Segments

/-!
# Receivers of framed messages

A receiver reads one frame from a segmented source with each call, and may answer that it has to be
called again because the source had nothing more to read. `FrameReceiver` collects what a receiver
does with a source whose content starts with a frame: it delivers the message when no stop falls
inside the frame (`whole`), and otherwise answers "again" at the first stop, with the part of the
frame that it had read taken off the source (`cut`).

`resumes_iff`: called until the source has ended, such a receiver delivers exactly the messages of
the source if and only if every stop falls between two frames. The direction from delivery to stops
counts elements: what a cut call took off is missing from the frames that follow.
-/

namespace SegStream

variable {α ε κ μ ρ : Type*}

/-- A receiver with the laws of its calls. `waits` marks the signals that mean "nothing to read
yet", and `retry` the answers that ask for another call. -/
structure FrameReceiver (α ε κ μ ρ : Type*) where
  react : ε → Option κ
  waits : ε → Prop
  frame : μ → List α
  result : μ → ρ
  retry : ρ → Bool
  call : Source α ε → ρ × Source α ε
  stop_of_waits : ∀ e, waits e → react e ≠ none
  frame_pos : ∀ m, 0 < (frame m).length
  result_final : ∀ m, retry (result m) = false
  shrinks : ∀ s, s ≠ [] → size (call s).2 < size s
  content_le : ∀ s, (content (call s).2).length ≤ (content s).length
  signals : ∀ s e, .signal e ∈ (call s).2 → .signal e ∈ s
  consumes : ∀ s m, (call s).1 = result m →
    (frame m).length + (content (call s).2).length ≤ (content s).length
  whole : ∀ s m t, content s = frame m ++ t → (∀ k ∈ stops react s, (frame m).length ≤ k) →
    (call s).1 = result m ∧ content (call s).2 = t ∧
      stops react s = (stops react (call s).2).map (· + (frame m).length)
  cut : ∀ s k ks, (∀ e, .signal e ∈ s → waits e) → stops react s = k :: ks →
    (k = 0 ∨ ∃ m t, content s = frame m ++ t ∧ k < (frame m).length) →
    retry (call s).1 = true ∧ content (call s).2 = (content s).drop k ∧
      stops react s = (0 :: stops react (call s).2).map (· + k)

namespace FrameReceiver

/-- The answers of the calls made until the source has ended. -/
def drain (R : FrameReceiver α ε κ μ ρ) (s : Source α ε) : List ρ :=
  if _h : s = [] then [] else (R.call s).1 :: R.drain (R.call s).2
termination_by size s
decreasing_by exact R.shrinks s _h

variable (R : FrameReceiver α ε κ μ ρ)

@[simp] theorem drain_nil : R.drain [] = [] := by rw [drain, dif_pos rfl]

theorem drain_of_ne {s : Source α ε} (h : s ≠ []) :
    R.drain s = (R.call s).1 :: R.drain (R.call s).2 := by rw [drain, dif_neg h]

/-- The answers that are not a request for another call. -/
def delivered (s : Source α ε) : List ρ := (R.drain s).filter fun r => !R.retry r

theorem delivered_of_retry {s : Source α ε} (hs : s ≠ []) (h : R.retry (R.call s).1 = true) :
    R.delivered s = R.delivered (R.call s).2 := by
  simp [delivered, drain_of_ne R hs, h]

theorem delivered_of_final {s : Source α ε} (hs : s ≠ []) (h : R.retry (R.call s).1 = false) :
    R.delivered s = (R.call s).1 :: R.delivered (R.call s).2 := by
  simp [delivered, drain_of_ne R hs, h]

/-- An offset is on a boundary when the messages of an initial part end there. -/
def OnBoundary (ms : List μ) (k : ℕ) : Prop := ∃ pre, pre <+: ms ∧ k = (pre.flatMap R.frame).length

theorem onBoundary_zero (ms : List μ) : R.OnBoundary ms 0 := ⟨[], List.nil_prefix, rfl⟩

theorem onBoundary_cons {m : μ} {ms : List μ} {k : ℕ} :
    R.OnBoundary (m :: ms) (k + (R.frame m).length) ↔ R.OnBoundary ms k := by
  constructor
  · rintro ⟨pre, hp, hk⟩
    cases pre with
    | nil =>
      have := R.frame_pos m
      simp only [List.flatMap_nil, List.length_nil] at hk
      omega
    | cons m' pre =>
      obtain ⟨rfl, hq⟩ := List.cons_prefix_cons.1 hp
      refine ⟨pre, hq, ?_⟩
      simp only [List.flatMap_cons, List.length_append] at hk
      omega
  · rintro ⟨pre, hp, rfl⟩
    refine ⟨m :: pre, List.cons_prefix_cons.2 ⟨rfl, hp⟩, ?_⟩
    simp only [List.flatMap_cons, List.length_append]
    omega

/-- The first boundary after the start is the end of the first frame. -/
theorem frame_le_of_onBoundary {m : μ} {ms : List μ} {k : ℕ} (h : R.OnBoundary (m :: ms) k)
    (hk : k ≠ 0) : (R.frame m).length ≤ k := by
  obtain ⟨pre, hp, rfl⟩ := h
  cases pre with
  | nil => exact absurd rfl hk
  | cons m' pre =>
    obtain ⟨rfl, -⟩ := List.cons_prefix_cons.1 hp
    simp only [List.flatMap_cons, List.length_append]
    omega

theorem stops_ne_nil {s : Source α ε} (hw : ∀ e, .signal e ∈ s → R.waits e) (hs : s ≠ [])
    (hc : content s = []) : stops R.react s ≠ [] := by
  cases s with
  | nil => exact absurd rfl hs
  | cons i s =>
    cases i with
    | signal e =>
      obtain ⟨r, hr⟩ := Option.ne_none_iff_exists'.1
        (R.stop_of_waits e (hw e (List.mem_cons_self ..)))
      simp [stops, hr]
    | data b bs => simp at hc

/-- The frames delivered from a source are at most as long as its content. -/
theorem length_le_of_delivered {s : Source α ε} {ms : List μ}
    (h : R.delivered s = ms.map R.result) :
    (ms.flatMap R.frame).length ≤ (content s).length := by
  induction hn : size s using Nat.strong_induction_on generalizing s ms with
  | _ n ih =>
    by_cases hs : s = []
    · subst hs
      have : ms = [] := by simpa [delivered] using h
      simp [this]
    · have hlt := R.shrinks s hs
      cases hr : R.retry (R.call s).1 with
      | true =>
        rw [R.delivered_of_retry hs hr] at h
        exact (ih _ (hn ▸ hlt) h rfl).trans (R.content_le s)
      | false =>
        rw [R.delivered_of_final hs hr] at h
        cases ms with
        | nil => simp at h
        | cons m ms =>
          simp only [List.map_cons, List.cons.injEq] at h
          have hle := ih _ (hn ▸ hlt) h.2 rfl
          have hc := R.consumes s m h.1
          simp only [List.flatMap_cons, List.length_append]
          omega

/-- Stops between the frames do not disturb the delivery. -/
theorem delivered_of_onBoundary {s : Source α ε} {ms : List μ}
    (hw : ∀ e, .signal e ∈ s → R.waits e) (hc : content s = ms.flatMap R.frame)
    (hb : ∀ k ∈ stops R.react s, R.OnBoundary ms k) : R.delivered s = ms.map R.result := by
  induction hn : size s using Nat.strong_induction_on generalizing s ms with
  | _ n ih =>
    by_cases hs : s = []
    · subst hs
      cases ms with
      | nil => simp [delivered]
      | cons m ms =>
        have := R.frame_pos m
        have hl := congrArg List.length hc
        simp only [content_nil, List.flatMap_cons, List.length_append, List.length_nil] at hl
        omega
    · have hlt := R.shrinks s hs
      have hw' : ∀ e, .signal e ∈ (R.call s).2 → R.waits e := fun e he => hw e (R.signals s e he)
      -- Either the first stop comes before any element, or the first frame is read whole.
      rcases hk : stops R.react s with _ | ⟨k, ks⟩
      · cases ms with
        | nil => exact absurd hk (R.stops_ne_nil hw hs hc)
        | cons m ms =>
          obtain ⟨hr, hrest, hst⟩ := R.whole s m _ hc (by simp [hk])
          rw [R.delivered_of_final hs (by rw [hr]; exact R.result_final m), hr, List.map_cons,
            ih _ (hn ▸ hlt) hw' hrest (by
              intro j hj
              rw [hk] at hst
              simp [List.map_eq_nil_iff.1 hst.symm] at hj) rfl]
      · by_cases hk0 : k = 0
        · subst hk0
          obtain ⟨hr, hrest, hst⟩ := R.cut s 0 ks hw hk (Or.inl rfl)
          rw [R.delivered_of_retry hs hr]
          refine ih _ (hn ▸ hlt) hw' (by rw [hrest, List.drop_zero, hc]) (fun j hj => hb j ?_) rfl
          rw [hst]
          simp [hj]
        · have hk' := hb k (by simp [hk])
          cases ms with
          | nil =>
            obtain ⟨pre, hp, rfl⟩ := hk'
            simp [List.prefix_nil.1 hp] at hk0
          | cons m ms =>
            have hle := R.frame_le_of_onBoundary hk' hk0
            obtain ⟨hr, hrest, hst⟩ := R.whole s m _ hc
              fun j hj => hle.trans (le_of_stops_cons hk j hj)
            rw [R.delivered_of_final hs (by rw [hr]; exact R.result_final m), hr, List.map_cons,
              ih _ (hn ▸ hlt) hw' hrest (fun j hj => R.onBoundary_cons.1 (hb _ (by
                rw [hst]
                exact List.mem_map_of_mem hj))) rfl]

/-- A stop inside a frame is seen in what is delivered. -/
theorem onBoundary_of_delivered {s : Source α ε} {ms : List μ}
    (hw : ∀ e, .signal e ∈ s → R.waits e) (hc : content s = ms.flatMap R.frame)
    (hd : R.delivered s = ms.map R.result) : ∀ k ∈ stops R.react s, R.OnBoundary ms k := by
  induction hn : size s using Nat.strong_induction_on generalizing s ms with
  | _ n ih =>
    rcases hk : stops R.react s with _ | ⟨k, ks⟩
    · simp
    · have hs : s ≠ [] := by
        rintro rfl
        simp [stops] at hk
      have hlt := R.shrinks s hs
      have hw' : ∀ e, .signal e ∈ (R.call s).2 → R.waits e := fun e he => hw e (R.signals s e he)
      rw [← hk]
      by_cases hk0 : k = 0
      · subst hk0
        obtain ⟨hr, hrest, hst⟩ := R.cut s 0 ks hw hk (Or.inl rfl)
        rw [R.delivered_of_retry hs hr] at hd
        have hih := ih _ (hn ▸ hlt) hw' (by rw [hrest, List.drop_zero, hc]) hd rfl
        rw [hst]
        intro j hj
        simp only [List.map_cons, List.mem_cons, List.mem_map, Nat.add_zero, exists_eq_right] at hj
        rcases hj with rfl | hj
        · exact R.onBoundary_zero ms
        · exact hih j hj
      · have hkc : k ≤ (content s).length := 
          le_of_mem_stops (show k ∈ stops R.react s by simp [hk])
        cases ms with
        | nil =>
          rw [hc] at hkc
          simp at hkc
          exact absurd hkc hk0
        | cons m ms =>
          by_cases hin : k < (R.frame m).length
          · -- The elements read before the stop are missing from the frames that follow.
            obtain ⟨hr, hrest, -⟩ := R.cut s k ks hw hk (Or.inr ⟨m, _, hc, hin⟩)
            rw [R.delivered_of_retry hs hr] at hd
            have hle := R.length_le_of_delivered hd
            rw [hrest, List.length_drop, hc] at hle
            rw [hc] at hkc
            omega
          · obtain ⟨hr, hrest, hst⟩ := R.whole s m _ hc
              fun j hj => (not_lt.1 hin).trans (le_of_stops_cons hk j hj)
            rw [R.delivered_of_final hs (by rw [hr]; exact R.result_final m)] at hd
            simp only [List.map_cons, List.cons.injEq] at hd
            have hih := ih _ (hn ▸ hlt) hw' hrest hd.2 rfl
            rw [hst]
            intro j hj
            obtain ⟨i, hi, rfl⟩ := List.mem_map.1 hj
            exact R.onBoundary_cons.2 (hih i hi)

/-- A receiver that is called again after every pause delivers exactly the messages of the source
if and only if every pause falls between two frames. -/
theorem resumes_iff {s : Source α ε} {ms : List μ} (hw : ∀ e, .signal e ∈ s → R.waits e)
    (hc : content s = ms.flatMap R.frame) :
    R.delivered s = ms.map R.result ↔ ∀ k ∈ stops R.react s, R.OnBoundary ms k :=
  ⟨R.onBoundary_of_delivered hw hc, R.delivered_of_onBoundary hw hc⟩

end FrameReceiver

end SegStream
