import Mathlib.Tactic
import Autoscrcpy.Lib.Runs

/-!
# Writers that share a wire

Each writer has a list of jobs, and a job is a frame that is written piece by piece, some of them
with a lock held. A schedule says which writer takes the next step; a writer that waits for the
lock stays where it is. Every element on the wire carries the name of its job, so that a wire tells
which frames it is made of.

`wholeFrames_iff`: a schedule leaves whole frames one after the other, and at most one unfinished
frame at the end, if and only if no piece is written while another writer is inside a frame, unless
both jobs hold the lock, which the lock excludes.
-/

namespace SharedWire

open Runs

variable {τ ι α : Type*}

/-! ## Framed words -/

section Framed

variable {frame : ι → List α}

/-- The elements of a frame with its name. -/
def block (frame : ι → List α) (i : ι) : List (ι × α) := (frame i).map (Prod.mk i)

/-- The word can be continued to whole frames one after the other. -/
def Framed (frame : ι → List α) (w : List (ι × α)) : Prop :=
  ∃ ids : List ι, w <+: ids.flatMap (block frame)

theorem eq_of_mem_block {i : ι} {x : ι × α} (h : x ∈ block frame i) : x.1 = i := by
  obtain ⟨a, -, rfl⟩ := List.mem_map.1 h
  rfl

/-- A word that begins with an element of a frame continues with this frame. -/
theorem head_frame {i : ι} {x : ι × α} {w : List (ι × α)} (hx : x.1 = i) {ids : List ι}
    (h : x :: w <+: ids.flatMap (block frame)) :
    ∃ ids' : List ι, x :: w <+: block frame i ++ ids'.flatMap (block frame) := by
  induction ids with
  | nil => simp at h
  | cons k ids ih =>
    rw [List.flatMap_cons] at h
    cases hk : block frame k with
    | nil => exact ih (by rwa [hk, List.nil_append] at h)
    | cons y ys =>
      have hy : y.1 = k := eq_of_mem_block (hk ▸ List.mem_cons_self ..)
      have hhead : x = y := by
        rw [hk, List.cons_append] at h
        exact (List.cons_prefix_cons.1 h).1
      obtain rfl : k = i := by rw [← hy, ← hhead, hx]
      exact ⟨ids, h⟩

/-- The frame at the head of a framed word can be taken off. -/
theorem Framed.tail {i : ι} {w : List (ι × α)} (h : Framed frame (block frame i ++ w)) :
    Framed frame w := by
  cases hi : block frame i with
  | nil => rwa [hi, List.nil_append] at h
  | cons x xs =>
    obtain ⟨ids, h⟩ := h
    have hx : x.1 = i := eq_of_mem_block (hi ▸ List.mem_cons_self ..)
    obtain ⟨ids', h⟩ := head_frame hx (show x :: (xs ++ w) <+: _ by rwa [hi] at h)
    rw [← List.cons_append, ← hi] at h
    exact ⟨ids', (List.prefix_append_right_inj _).1 h⟩

theorem Framed.of_blocks {ids : List ι} {w : List (ι × α)}
    (h : Framed frame (ids.flatMap (block frame) ++ w)) : Framed frame w := by
  induction ids with
  | nil => exact h
  | cons i ids ih =>
    rw [List.flatMap_cons, List.append_assoc] at h
    exact ih h.tail

/-- After the first elements of a frame nothing else can follow. -/
theorem not_framed_of_change {i : ι} {part rest w : List (ι × α)} {x : ι × α}
    (hblock : block frame i = part ++ rest) (hpart : part ≠ []) (hrest : rest ≠ []) (hx : x.1 ≠ i) :
    ¬ Framed frame (part ++ x :: w) := by
  rintro ⟨ids, h⟩
  obtain ⟨y, ys, rfl⟩ := List.exists_cons_of_ne_nil hpart
  obtain ⟨e, q, rfl⟩ := List.exists_cons_of_ne_nil hrest
  have hy : y.1 = i := eq_of_mem_block (hblock ▸ List.mem_append_left _ (List.mem_cons_self ..))
  have he : e.1 = i := eq_of_mem_block (hblock ▸ List.mem_append_right _ (List.mem_cons_self ..))
  obtain ⟨ids', h⟩ := head_frame hy h
  -- the frame goes on where the word has another name
  have hlonger : y :: ys ++ x :: w <+: y :: ys ++ (e :: q ++ ids'.flatMap (block frame)) := by
    rwa [hblock, List.append_assoc] at h
  have hnext := (List.cons_prefix_cons.1 ((List.prefix_append_right_inj _).1 hlonger)).1
  exact hx (hnext ▸ he)

end Framed

/-! ## Writers -/

/-- A frame in the pieces in which it is written, and whether that happens with the lock held. -/
structure Job (α : Type*) where
  locked : Bool
  pieces : List (List α)
  nonempty : ∀ p ∈ pieces, p ≠ []

def Job.frame (job : Job α) : List α := job.pieces.flatten

/-- Where a writer is: before its `n`-th job, or inside it with some pieces written. -/
inductive Position (α : Type*) where
  | idle (n : ℕ)
  | sending (n : ℕ) (sent rest : List (List α))
  deriving DecidableEq

/-- The writers, the owner of the lock and the wire. -/
structure State (τ α : Type*) where
  pos : τ → Position α
  owner : Option τ
  wire : List ((τ × ℕ) × α)

/-- Nothing is written and the lock is free. -/
def State.start : State τ α := ⟨fun _ => .idle 0, none, []⟩

variable (jobs : τ → List (Job α))

/-- The frame of a job, named by its writer and its number. -/
def frameOf (i : τ × ℕ) : List α := ((jobs i.1)[i.2]?).elim [] Job.frame

def isLocked (i : τ × ℕ) : Bool := ((jobs i.1)[i.2]?).elim false Job.locked

/-- The writer has begun its frame and not ended it. -/
structure Inside (s : State τ α) (t : τ) (n : ℕ) (sent rest : List (List α)) : Prop where
  pos : s.pos t = .sending n sent rest
  begun : sent ≠ []
  unfinished : rest ≠ []

/-- The elements of pieces, with the name of their job. -/
def written (t : τ) (n : ℕ) (sent : List (List α)) : List ((τ × ℕ) × α) :=
  sent.flatten.map (Prod.mk (t, n))

/-- Whole frames one after the other, and then what a writer inside a frame has written of it. -/
def WholeFrames (s : State τ α) : Prop :=
  ∃ (ids : List (τ × ℕ)) (part : List ((τ × ℕ) × α)),
    s.wire = ids.flatMap (block (frameOf jobs)) ++ part ∧
      (part = [] ∨ ∃ u n sent rest, Inside s u n sent rest ∧ part = written u n sent)

/-- If the step writes a piece while another writer is inside a frame, both jobs hold the lock. -/
def Separate (s : State τ α) (t : τ) : Prop :=
  ∀ n sent p ps, s.pos t = .sending n sent (p :: ps) →
    ∀ u m sent' rest, u ≠ t → Inside s u m sent' rest →
      isLocked jobs (t, n) = true ∧ isLocked jobs (u, m) = true

/-- What a writer has written and has left are the pieces of its job, and a job with the lock owns
it. -/
structure Consistent (s : State τ α) : Prop where
  pieces : ∀ t n sent rest, s.pos t = .sending n sent rest →
    ∃ job, (jobs t)[n]? = some job ∧ sent ++ rest = job.pieces
  owner : ∀ t n sent rest, s.pos t = .sending n sent rest → isLocked jobs (t, n) = true →
    s.owner = some t

variable {jobs}

theorem consistent_start : Consistent jobs (State.start : State τ α) :=
  ⟨fun _ _ _ _ h => (nomatch h), fun _ _ _ _ h => (nomatch h)⟩

theorem isLocked_of_getElem? {t : τ} {n : ℕ} {job : Job α} (h : (jobs t)[n]? = some job) :
    isLocked jobs (t, n) = job.locked := by
  rw [isLocked, h]
  rfl

theorem written_append (t : τ) (n : ℕ) (sent rest : List (List α)) :
    written t n (sent ++ rest) = written t n sent ++ written t n rest := by
  rw [written, List.flatten_append, List.map_append]
  rfl

/-- A writer inside its job: what is written of the frame and what is left. -/
theorem Consistent.block_eq {s : State τ α} (h : Consistent jobs s) {t : τ} {n : ℕ}
    {sent rest : List (List α)} (hpos : s.pos t = .sending n sent rest) :
    block (frameOf jobs) (t, n) = written t n sent ++ written t n rest := by
  obtain ⟨job, hjob, hpieces⟩ := h.pieces t n sent rest hpos
  rw [← written_append, hpieces, block, frameOf, hjob]
  rfl

/-- Something is written of a frame that was begun, and something is left of one that is not
finished. -/
theorem Consistent.written_ne_nil {s : State τ α} (h : Consistent jobs s) {t : τ} {n : ℕ}
    {sent rest : List (List α)} (hpos : s.pos t = .sending n sent rest) {l : List (List α)}
    (hl : l ⊆ sent ++ rest) (hne : l ≠ []) : written t n l ≠ [] := by
  obtain ⟨job, hjob, hpieces⟩ := h.pieces t n sent rest hpos
  obtain ⟨p, ps, rfl⟩ := List.exists_cons_of_ne_nil hne
  have hp : p ≠ [] := job.nonempty p (hpieces ▸ hl (List.mem_cons_self ..))
  intro hnil
  rw [written, List.map_eq_nil_iff, List.flatten_cons, List.append_eq_nil_iff] at hnil
  exact hp hnil.1

/-- Two writers do not hold the lock at once. -/
theorem Consistent.eq_of_locked {s : State τ α} (h : Consistent jobs s) {t u : τ} {n m : ℕ}
    {sent rest sent' rest' : List (List α)} (ht : s.pos t = .sending n sent rest)
    (hu : s.pos u = .sending m sent' rest') (hlt : isLocked jobs (t, n) = true)
    (hlu : isLocked jobs (u, m) = true) : t = u :=
  Option.some.inj ((h.owner t n sent rest ht hlt).symm.trans (h.owner u m sent' rest' hu hlu))

/-- A separate step that writes finds no other writer inside a frame. -/
theorem Separate.alone {s : State τ α} {t : τ} (hsep : Separate jobs s t) (h : Consistent jobs s)
    {n : ℕ} {sent : List (List α)} {p : List α} {ps : List (List α)}
    (hpos : s.pos t = .sending n sent (p :: ps)) {u : τ} {m : ℕ} {sent' rest : List (List α)}
    (hu : Inside s u m sent' rest) : u = t := by
  by_contra hne
  obtain ⟨hlt, hlu⟩ := hsep n sent p ps hpos u m sent' rest hne hu
  exact hne (h.eq_of_locked hpos hu.pos hlt hlu).symm

theorem not_inside_of_idle {s : State τ α} {t : τ} {n : ℕ} (h : s.pos t = .idle n) (m : ℕ)
    (sent rest : List (List α)) : ¬ Inside s t m sent rest := by
  rintro ⟨hpos, -, -⟩
  rw [h] at hpos
  cases hpos

variable (jobs) in
/-- Whole frames, and then what the only writer inside a frame has written of it. -/
def InOrder (s : State τ α) : Prop :=
  ∃ (ids : List (τ × ℕ)) (part : List ((τ × ℕ) × α)),
    s.wire = ids.flatMap (block (frameOf jobs)) ++ part ∧
      ((part = [] ∧ ∀ u n sent rest, ¬ Inside s u n sent rest) ∨
        ∃ u n sent rest, Inside s u n sent rest ∧ part = written u n sent ∧
          ∀ v m sent' rest', Inside s v m sent' rest' → v = u)

theorem inOrder_start : InOrder jobs (State.start : State τ α) :=
  ⟨[], [], rfl, Or.inl ⟨rfl, fun _ _ => not_inside_of_idle rfl _⟩⟩

theorem InOrder.wholeFrames {s : State τ α} (h : InOrder jobs s) : WholeFrames jobs s := by
  obtain ⟨ids, part, hwire, hpart⟩ := h
  refine ⟨ids, part, hwire, ?_⟩
  rcases hpart with ⟨hnil, -⟩ | ⟨u, n, sent, rest, hin, hpart, -⟩
  · exact Or.inl hnil
  · exact Or.inr ⟨u, n, sent, rest, hin, hpart⟩

theorem WholeFrames.framed {s : State τ α} (h : WholeFrames jobs s) (hc : Consistent jobs s) :
    Framed (frameOf jobs) s.wire := by
  obtain ⟨ids, part, hwire, rfl | ⟨u, n, sent, rest, hin, rfl⟩⟩ := h
  · exact ⟨ids, by rw [hwire, List.append_nil]⟩
  · refine ⟨ids ++ [(u, n)], ?_⟩
    rw [hwire, List.flatMap_append, List.flatMap_singleton, hc.block_eq hin.pos]
    exact (List.prefix_append_right_inj _).2 (List.prefix_append _ _)

/-- A piece that is written while another writer is inside a frame breaks the frame. -/
theorem InOrder.not_framed {s : State τ α} (h : InOrder jobs s) (hc : Consistent jobs s) {t : τ}
    {n : ℕ} {sent : List (List α)} {p : List α} {ps : List (List α)}
    (hpos : s.pos t = .sending n sent (p :: ps)) {u : τ} {m : ℕ} {sent' rest : List (List α)}
    (hut : u ≠ t) (hu : Inside s u m sent' rest) :
    ¬ Framed (frameOf jobs) (s.wire ++ p.map (Prod.mk (t, n))) := by
  obtain ⟨ids, part, hwire, hpart⟩ := h
  rcases hpart with ⟨-, hnone⟩ | ⟨v, k, sent'', rest'', hin, rfl, hsole⟩
  · exact absurd hu (hnone u m sent' rest)
  obtain rfl := hsole u m sent' rest hu
  rw [hwire, List.append_assoc]
  intro hframed
  obtain ⟨job, hjob, hpieces⟩ := hc.pieces t n sent (p :: ps) hpos
  have hp : p ≠ [] := job.nonempty p (by rw [← hpieces]; simp)
  obtain ⟨a, as, rfl⟩ := List.exists_cons_of_ne_nil hp
  refine not_framed_of_change (hc.block_eq hin.pos) ?_ ?_ ?_ hframed.of_blocks
  · exact hc.written_ne_nil hin.pos (List.subset_append_left _ _) hin.begun
  · exact hc.written_ne_nil hin.pos (List.subset_append_right _ _) hin.unfinished
  · intro heq
    exact hut (congrArg Prod.fst heq).symm

/-! ## Steps -/

section Machine

variable [DecidableEq τ]

def State.move (s : State τ α) (t : τ) (p : Position α) : State τ α :=
  { s with pos := Function.update s.pos t p }

variable (jobs) in
/-- A step of a writer: to start its next job, for which it may need the lock, to write a piece, or
to finish the job. -/
def step (s : State τ α) (t : τ) : State τ α :=
  match s.pos t with
  | .idle n =>
      match (jobs t)[n]? with
      | none => s
      | some job =>
          if job.locked = false then s.move t (.sending n [] job.pieces)
          else if s.owner = none then
            { s.move t (.sending n [] job.pieces) with owner := some t }
          else s
  | .sending n _ [] =>
      { s.move t (.idle (n + 1)) with owner := if isLocked jobs (t, n) then none else s.owner }
  | .sending n sent (p :: ps) =>
      { s.move t (.sending n (sent ++ [p]) ps) with wire := s.wire ++ p.map (Prod.mk (t, n)) }

theorem State.move_pos (s : State τ α) (t u : τ) (p : Position α) :
    (s.move t p).pos u = if u = t then p else s.pos u := Function.update_apply ..

variable (jobs) in
/-- What a step can do. -/
theorem step_cases (s : State τ α) (t : τ) :
    step jobs s t = s ∨
      (∃ n job, s.pos t = .idle n ∧ (jobs t)[n]? = some job ∧ job.locked = false ∧
        step jobs s t = s.move t (.sending n [] job.pieces)) ∨
      (∃ n job, s.pos t = .idle n ∧ (jobs t)[n]? = some job ∧ job.locked = true ∧
        s.owner = none ∧
        step jobs s t = { s.move t (.sending n [] job.pieces) with owner := some t }) ∨
      (∃ n sent, s.pos t = .sending n sent [] ∧ step jobs s t =
        { s.move t (.idle (n + 1)) with
          owner := if isLocked jobs (t, n) then none else s.owner }) ∨
      (∃ n sent p ps, s.pos t = .sending n sent (p :: ps) ∧ step jobs s t =
        { s.move t (.sending n (sent ++ [p]) ps) with
          wire := s.wire ++ p.map (Prod.mk (t, n)) }) := by
  unfold step
  cases hpos : s.pos t with
  | idle n =>
    cases hjob : (jobs t)[n]? with
    | none => exact Or.inl (by simp [hjob])
    | some job =>
      cases hlocked : job.locked with
      | false => exact Or.inr (Or.inl ⟨n, job, rfl, hjob, hlocked, by simp [hjob, hlocked]⟩)
      | true =>
        by_cases howner : s.owner = none
        · exact Or.inr (Or.inr (Or.inl
            ⟨n, job, rfl, hjob, hlocked, howner, by simp [hjob, hlocked, howner]⟩))
        · exact Or.inl (by simp [hjob, hlocked, howner])
  | sending n sent rest =>
    cases rest with
    | nil => exact Or.inr (Or.inr (Or.inr (Or.inl ⟨n, sent, rfl, rfl⟩)))
    | cons p ps => exact Or.inr (Or.inr (Or.inr (Or.inr ⟨n, sent, p, ps, rfl, rfl⟩)))

/-- A move keeps what the others have; the rest is up to the new position. -/
theorem Consistent.move {s : State τ α} (h : Consistent jobs s) {t : τ} {p : Position α}
    {o : Option τ} (w : List ((τ × ℕ) × α))
    (hpieces : ∀ n sent rest, p = .sending n sent rest →
      ∃ job, (jobs t)[n]? = some job ∧ sent ++ rest = job.pieces)
    (hown : ∀ n sent rest, p = .sending n sent rest → isLocked jobs (t, n) = true → o = some t)
    (hothers : ∀ u n sent rest, u ≠ t → s.pos u = .sending n sent rest →
      isLocked jobs (u, n) = true → o = some u) :
    Consistent jobs ⟨(s.move t p).pos, o, w⟩ := by
  constructor
  · intro u n sent rest hu
    rw [State.move_pos] at hu
    split_ifs at hu with hut
    · exact hut ▸ hpieces n sent rest hu
    · exact h.pieces u n sent rest hu
  · intro u n sent rest hu hlocked
    rw [State.move_pos] at hu
    split_ifs at hu with hut
    · subst hut
      exact hown n sent rest hu hlocked
    · exact hothers u n sent rest hut hu hlocked

theorem Consistent.step {s : State τ α} (h : Consistent jobs s) (t : τ) :
    Consistent jobs (step jobs s t) := by
  rcases step_cases jobs s t with heq | ⟨n, job, hpos, hjob, hfree, heq⟩ |
      ⟨n, job, hpos, hjob, hlocked, howner, heq⟩ | ⟨n, sent, hpos, heq⟩ |
      ⟨n, sent, p, ps, hpos, heq⟩
  · rwa [heq]
  · rw [heq]
    refine h.move s.wire ?_ ?_ fun u m sent rest _ hu hl => h.owner u m sent rest hu hl
    · rintro m sent rest hm
      cases hm
      exact ⟨job, hjob, rfl⟩
    · rintro m sent rest hm hl
      cases hm
      rw [isLocked_of_getElem? hjob, hfree] at hl
      cases hl
  · rw [heq]
    refine h.move s.wire ?_ (fun _ _ _ _ _ => rfl) ?_
    · rintro m sent rest hm
      cases hm
      exact ⟨job, hjob, rfl⟩
    · intro u m sent rest _ hu hl
      rw [h.owner u m sent rest hu hl] at howner
      cases howner
  · rw [heq]
    refine h.move s.wire (fun _ _ _ hm => (nomatch hm)) (fun _ _ _ hm => (nomatch hm)) ?_
    intro u m sent' rest hut hu hl
    split_ifs with hlt
    · exact absurd (h.eq_of_locked hpos hu hlt hl).symm hut
    · exact h.owner u m sent' rest hu hl
  · rw [heq]
    obtain ⟨job, hjob, hpieces⟩ := h.pieces t n sent (p :: ps) hpos
    refine h.move _ ?_ ?_ fun u m sent' rest _ hu hl => h.owner u m sent' rest hu hl
    · rintro m sent' rest hm
      cases hm
      exact ⟨job, hjob, by rw [List.append_assoc]; exact hpieces⟩
    · rintro m sent' rest hm hl
      cases hm
      exact h.owner t n sent (p :: ps) hpos hl

/-! ## Order on the wire -/

/-- A step from a position outside a frame to another one keeps who is inside. -/
theorem inside_move_iff {s : State τ α} {t : τ} {p : Position α} {o : Option τ}
    {w : List ((τ × ℕ) × α)} (hp : ∀ m sent rest, p = .sending m sent rest → sent = [])
    (ht : ∀ n sent rest, ¬ Inside s t n sent rest) (u : τ) (n : ℕ) (sent rest : List (List α)) :
    Inside ⟨(s.move t p).pos, o, w⟩ u n sent rest ↔ Inside s u n sent rest := by
  by_cases hut : u = t
  · subst hut
    refine iff_of_false ?_ (ht n sent rest)
    rintro ⟨hpos, hbegun, -⟩
    rw [State.move_pos, if_pos rfl] at hpos
    exact hbegun (hp n sent rest hpos)
  · have hsame : (s.move t p).pos u = s.pos u := by rw [State.move_pos, if_neg hut]
    exact ⟨fun h => ⟨hsame.symm.trans h.pos, h.begun, h.unfinished⟩,
      fun h => ⟨hsame.trans h.pos, h.begun, h.unfinished⟩⟩

/-- A step that writes nothing. -/
theorem InOrder.move {s : State τ α} (h : InOrder jobs s) {t : τ} {p : Position α} {o : Option τ}
    (hp : ∀ m sent rest, p = .sending m sent rest → sent = [])
    (ht : ∀ n sent rest, ¬ Inside s t n sent rest) :
    InOrder jobs ⟨(s.move t p).pos, o, s.wire⟩ := by
  obtain ⟨ids, part, hwire, hpart⟩ := h
  refine ⟨ids, part, hwire, ?_⟩
  simpa only [inside_move_iff hp ht] using hpart

/-- A writer that is alone writes the next piece of its frame. -/
theorem InOrder.write {s : State τ α} (h : InOrder jobs s) (hc : Consistent jobs s) {t : τ} {n : ℕ}
    {sent : List (List α)} {p : List α} {ps : List (List α)}
    (hpos : s.pos t = .sending n sent (p :: ps))
    (halone : ∀ u m sent' rest, Inside s u m sent' rest → u = t) :
    InOrder jobs { s.move t (.sending n (sent ++ [p]) ps) with
      wire := s.wire ++ p.map (Prod.mk (t, n)) } := by
  obtain ⟨ids, part, hwire, hpart⟩ := h
  -- the wire ends with what this writer has written of its frame, if anything
  have hown : part = written t n sent := by
    rcases hpart with ⟨hnil, hnone⟩ | ⟨u, m, sent', rest, hin, hpart, -⟩
    · by_cases hsent : sent = []
      · rw [hnil, hsent]
        rfl
      · exact absurd ⟨hpos, hsent, List.cons_ne_nil p ps⟩ (hnone t n sent (p :: ps))
    · obtain rfl := halone u m sent' rest hin
      have hsame := hpos.symm.trans hin.pos
      cases hsame
      exact hpart
  have hwritten : s.wire ++ p.map (Prod.mk (t, n)) =
      ids.flatMap (block (frameOf jobs)) ++ written t n (sent ++ [p]) := by
    rw [hwire, hown, List.append_assoc, written_append]
    simp [written]
  have hpos' : (s.move t (.sending n (sent ++ [p]) ps)).pos t = .sending n (sent ++ [p]) ps := by
    rw [State.move_pos, if_pos rfl]
  have hothers : ∀ u m sent' rest, Inside { s.move t (.sending n (sent ++ [p]) ps) with
      wire := s.wire ++ p.map (Prod.mk (t, n)) } u m sent' rest → u = t := by
    intro u m sent' rest hin
    by_contra hut
    have hsame : (s.move t (.sending n (sent ++ [p]) ps)).pos u = s.pos u := by
      rw [State.move_pos, if_neg hut]
    exact hut (halone u m sent' rest ⟨hsame.symm.trans hin.pos, hin.begun, hin.unfinished⟩)
  cases ps with
  | nil =>
    refine ⟨ids ++ [(t, n)], [], ?_, Or.inl ⟨rfl, ?_⟩⟩
    · have hblock := hc.block_eq hpos
      rw [← written_append] at hblock
      show s.wire ++ p.map (Prod.mk (t, n)) = _
      rw [hwritten, List.flatMap_append, List.flatMap_singleton, hblock, List.append_nil]
    · intro u m sent' rest hin
      obtain rfl := hothers u m sent' rest hin
      have hrest := hpos'.symm.trans hin.pos
      cases hrest
      exact hin.unfinished rfl
  | cons q qs =>
    exact ⟨ids, _, hwritten, Or.inr ⟨t, n, sent ++ [p], q :: qs,
      ⟨hpos', by simp, List.cons_ne_nil q qs⟩, rfl, hothers⟩⟩

theorem InOrder.step {s : State τ α} (h : InOrder jobs s) (hc : Consistent jobs s) {t : τ}
    (hsep : Separate jobs s t) : InOrder jobs (step jobs s t) := by
  rcases step_cases jobs s t with heq | ⟨n, job, hpos, -, -, heq⟩ |
      ⟨n, job, hpos, -, -, -, heq⟩ | ⟨n, sent, hpos, heq⟩ | ⟨n, sent, p, ps, hpos, heq⟩
  · rwa [heq]
  · rw [heq]
    refine h.move (fun m sent rest hm => ?_) (not_inside_of_idle hpos)
    cases hm
    rfl
  · rw [heq]
    refine h.move (fun m sent rest hm => ?_) (not_inside_of_idle hpos)
    cases hm
    rfl
  · rw [heq]
    refine h.move (fun m sent rest hm => (nomatch hm)) fun m sent' rest hin => ?_
    have hrest := hpos.symm.trans hin.pos
    cases hrest
    exact hin.unfinished rfl
  · rw [heq]
    exact h.write hc hpos fun u m sent' rest hu => hsep.alone hc hpos hu

/-! ## Runs -/

theorem consistent_final (sched : List τ) : Consistent jobs (final (step jobs) .start sched) :=
  (invariant (fun x _ h => h.step x.2) consistent_start).2

theorem inOrder_final {sched : List τ}
    (h : ∀ x ∈ visits (step jobs) .start sched, Separate jobs x.1 x.2) :
    InOrder jobs (final (step jobs) .start sched) := by
  have hboth := invariant (I := fun s => Consistent jobs s ∧ InOrder jobs s)
    (fun x hx hi => ⟨hi.1.step x.2, hi.2.step hi.1 (h x hx)⟩) ⟨consistent_start, inOrder_start⟩
  exact hboth.2.2

/-- The wire only grows. -/
theorem wire_prefix_step (s : State τ α) (t : τ) : s.wire <+: (step jobs s t).wire := by
  rcases step_cases jobs s t with heq | ⟨n, job, -, -, -, heq⟩ | ⟨n, job, -, -, -, -, heq⟩ |
      ⟨n, sent, -, heq⟩ | ⟨n, sent, p, ps, -, heq⟩
  · rw [heq]
  · rw [heq]
    exact List.prefix_rfl
  · rw [heq]
    exact List.prefix_rfl
  · rw [heq]
    exact List.prefix_rfl
  · rw [heq]
    exact List.prefix_append _ _

/-- A framed wire was written in separate steps. -/
theorem separate_of_framed {sched : List τ}
    (h : Framed (frameOf jobs) (final (step jobs) .start sched).wire) :
    ∀ x ∈ visits (step jobs) .start sched, Separate jobs x.1 x.2 := by
  induction sched using List.reverseRecOn with
  | nil => simp
  | append_singleton sched t ih =>
    rw [final_append_singleton] at h
    have hbefore : Framed (frameOf jobs) (final (step jobs) .start sched).wire := by
      obtain ⟨ids, hids⟩ := h
      exact ⟨ids, (wire_prefix_step _ t).trans hids⟩
    rw [visits_append, List.forall_mem_append]
    refine ⟨ih hbefore, List.forall_mem_singleton.2 ?_⟩
    intro n sent p ps hpos u m sent' rest hut hu
    refine absurd ?_ ((inOrder_final (ih hbefore)).not_framed (consistent_final sched) hpos hut hu)
    rw [step, hpos] at h
    exact h

/-- A schedule leaves whole frames if and only if its steps are separate. -/
theorem wholeFrames_iff (sched : List τ) :
    WholeFrames jobs (final (step jobs) .start sched) ↔
      ∀ x ∈ visits (step jobs) .start sched, Separate jobs x.1 x.2 :=
  ⟨fun h => separate_of_framed (h.framed (consistent_final sched)),
    fun h => (inOrder_final h).wholeFrames⟩

end Machine

end SharedWire
