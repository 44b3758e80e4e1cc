import Autoscrcpy.Lib.Runs

/-!
# The shared frame

`shared_frame_t` holds at most one frame: the decoder thread submits frames, the main thread
acquires them. Pointer and flag are two atomics, which a submit sets and an acquire clears in
opposite orders. A step of the model is one atomic step of a call, so every state inside the two
calls is a state of the model.

`shared_frame_handoff`: under every interleaving each frame is in one place, frames come out in
order, and outside the calls a frame in the slot can be acquired.
-/

namespace Autoscrcpy

/-- `shared_frame_t`; `ready` is 0 or 1. -/
structure SharedFrame (α : Type*) where
  current : Option α
  ready : Bool
  deriving DecidableEq, Repr

/-- `shared_frame_init`. -/
def SharedFrame.init {α : Type*} : SharedFrame α := ⟨none, false⟩

/-- A frame with a number that the code does not have: how many frames were submitted before. -/
structure Submission (α : Type*) where
  frame : α
  number : ℕ
  deriving DecidableEq, Repr

/-- Where `shared_frame_submit` is: before the exchange of the pointer, before `ready` is set, or
before the frame that it replaced is freed. The call that submits frame `number` has that number. -/
inductive SubmitPhase (α : Type*) where
  | idle
  | exchanging (frame : Submission α)
  | announcing (number : ℕ) (old : Option (Submission α))
  | freeing (number : ℕ) (old : Option (Submission α))
  deriving DecidableEq, Repr

/-- Where `shared_frame_acquire` is; `taking` is behind a compare-exchange that found a frame. The
tag tells the calls of the consumer apart. -/
inductive AcquirePhase (κ : Type*) where
  | idle
  | taking (tag : κ)
  deriving DecidableEq, Repr

structure FrameThreads (α κ : Type*) where
  slot : SharedFrame (Submission α)
  producer : SubmitPhase α
  consumer : AcquirePhase κ
  started : ℕ

/-- The atomic steps of both calls; `submit` and `compareExchange` start a call. -/
inductive FrameAction (α κ : Type*) where
  | submit (frame : α)
  | exchange
  | announce
  | free
  | compareExchange (tag : κ)
  | take (tag : κ)
  deriving DecidableEq, Repr

variable {α κ : Type*}

def FrameThreads.init : FrameThreads α κ := ⟨.init, .idle, .idle, 0⟩

/-! ## The steps -/

section

variable [DecidableEq κ]

/-- One atomic step; an action that the thread cannot take leaves the state as it is. -/
def frameStep (s : FrameThreads α κ) : FrameAction α κ → FrameThreads α κ
  | .submit frame =>
      match s.producer with
      | .idle =>
          { s with producer := .exchanging ⟨frame, s.started⟩, started := s.started + 1 }
      | _ => s
  | .exchange =>
      match s.producer with
      | .exchanging frame =>
          { s with
            slot := { s.slot with current := some frame }
            producer := .announcing frame.number s.slot.current }
      | _ => s
  | .announce =>
      match s.producer with
      | .announcing number old =>
          { s with slot := { s.slot with ready := true }, producer := .freeing number old }
      | _ => s
  | .free =>
      match s.producer with
      | .freeing _ _ => { s with producer := .idle }
      | _ => s
  | .compareExchange tag =>
      if s.consumer = .idle ∧ s.slot.ready = true then
        { s with slot := { s.slot with ready := false }, consumer := .taking tag }
      else s
  | .take tag =>
      if s.consumer = .taking tag then
        { s with slot := { s.slot with current := none }, consumer := .idle }
      else s

/-- The frame with which a submit starts. -/
def frameSubmits (s : FrameThreads α κ) : FrameAction α κ → List (Submission α)
  | .submit frame =>
      match s.producer with
      | .idle => [⟨frame, s.started⟩]
      | _ => []
  | _ => []

/-- The frame that an acquire returns, with the tag of the call. -/
def frameAcquires (s : FrameThreads α κ) : FrameAction α κ → List (κ × Submission α)
  | .take tag => if s.consumer = .taking tag then s.slot.current.toList.map (tag, ·) else []
  | _ => []

/-- The frame that a submit frees, with the number of the submit. -/
def frameFrees (s : FrameThreads α κ) : FrameAction α κ → List (ℕ × Submission α)
  | .free =>
      match s.producer with
      | .freeing number old => old.toList.map (number, ·)
      | _ => []
  | _ => []

/-- The state after a run from `shared_frame_init`. -/
def frameFinal (ops : List (FrameAction α κ)) : FrameThreads α κ := Runs.final frameStep .init ops

/-- The frames submitted in a run from `shared_frame_init`, in order. -/
def submittedFrames (ops : List (FrameAction α κ)) : List (Submission α) :=
  Runs.emits frameStep frameSubmits .init ops

/-- The frames that acquires returned, in order, each with the tag of its call. -/
def acquiredFrames (ops : List (FrameAction α κ)) : List (κ × Submission α) :=
  Runs.emits frameStep frameAcquires .init ops

/-- The frames that submits freed, each with the number of the submit. -/
def freedFrames (ops : List (FrameAction α κ)) : List (ℕ × Submission α) :=
  Runs.emits frameStep frameFrees .init ops

/-- An action does nothing, or its thread is where the step belongs. -/
theorem frameStep_cases (s : FrameThreads α κ) (a : FrameAction α κ) :
    (frameStep s a = s ∧ frameSubmits s a = [] ∧ frameAcquires s a = [] ∧ frameFrees s a = []) ∨
      (∃ frame, a = .submit frame ∧ s.producer = .idle) ∨
      (∃ frame, a = .exchange ∧ s.producer = .exchanging frame) ∨
      (∃ number old, a = .announce ∧ s.producer = .announcing number old) ∨
      (∃ number old, a = .free ∧ s.producer = .freeing number old) ∨
      (∃ tag, a = .compareExchange tag ∧ s.consumer = .idle ∧ s.slot.ready = true) ∨
      ∃ tag, a = .take tag ∧ s.consumer = .taking tag := by
  cases a with
  | submit frame =>
    cases hp : s.producer <;> simp [frameStep, frameSubmits, frameAcquires, frameFrees, hp]
  | exchange =>
    cases hp : s.producer <;> simp [frameStep, frameSubmits, frameAcquires, frameFrees, hp]
  | announce =>
    cases hp : s.producer <;> simp [frameStep, frameSubmits, frameAcquires, frameFrees, hp]
  | free =>
    cases hp : s.producer <;> simp [frameStep, frameSubmits, frameAcquires, frameFrees, hp]
  | compareExchange tag =>
    by_cases hc : s.consumer = .idle ∧ s.slot.ready = true
    · simp [hc]
    · simp [frameStep, frameSubmits, frameAcquires, frameFrees, hc]
  | take tag =>
    by_cases hc : s.consumer = .taking tag
    · simp [hc]
    · simp [frameStep, frameSubmits, frameAcquires, frameFrees, hc]

end

/-! ## Where the frames are -/

/-- The frame that a submit has yet to put into the slot. -/
def SubmitPhase.incoming : SubmitPhase α → List (Submission α)
  | exchanging frame => [frame]
  | _ => []

/-- The frame that a submit has taken out of the slot and has yet to free. -/
def SubmitPhase.outgoing : SubmitPhase α → List (Submission α)
  | announcing _ old => old.toList
  | freeing _ old => old.toList
  | _ => []

/-- The frame in the slot, and those that a submit in progress holds. -/
def FrameThreads.held (s : FrameThreads α κ) : List (Submission α) :=
  s.slot.current.toList ++ s.producer.incoming ++ s.producer.outgoing

/-- What holds between and inside the calls, with the frames submitted, acquired and freed so far.
-/
structure FrameThreads.Inv (s : FrameThreads α κ) (submitted : List (Submission α))
    (acquired : List (κ × Submission α)) (freed : List (ℕ × Submission α)) : Prop where
  numbered : submitted.map Submission.number = List.range s.started
  places : (acquired.map Prod.snd ++ freed.map Prod.snd ++ s.held).Perm submitted
  ordered : (acquired.map Prod.snd ++ (s.slot.current.toList ++ s.producer.incoming)).Sublist
    submitted
  later : ∀ x ∈ freed, x.2.number < x.1
  replaced : ∀ number old, s.producer = .announcing number old ∨ s.producer = .freeing number old →
    ∀ frame ∈ old, frame.number < number
  ready : s.slot.current ≠ none → s.slot.ready = true ∨ (∃ n old, s.producer = .announcing n old) ∨
    ∃ tag, s.consumer = .taking tag
  newest : ∀ frame, s.producer.incoming = [frame] ∨
    s.producer.incoming = [] ∧ s.slot.current = some frame → submitted.getLast? = some frame

theorem FrameThreads.inv_init : (init : FrameThreads α κ).Inv [] [] [] where
  numbered := rfl
  places := .refl _
  ordered := .refl _
  later := by
    intro x hx
    cases hx
  replaced := by
    rintro number old (h | h) <;> cases h
  ready := by
    intro h
    exact absurd rfl h
  newest := by
    rintro frame (h | ⟨-, h⟩) <;> cases h

section

variable {s : FrameThreads α κ} {submitted : List (Submission α)}
  {acquired : List (κ × Submission α)} {freed : List (ℕ × Submission α)}

/-- A frame in the slot was submitted before the one that is about to replace it. -/
theorem FrameThreads.Inv.number_lt (h : s.Inv submitted acquired freed) {frame : Submission α}
    (hp : s.producer = .exchanging frame) : ∀ old ∈ s.slot.current, old.number < frame.number := by
  intro old hold
  have hsub := ((List.sublist_append_right _ _).trans h.ordered).map Submission.number
  rw [hp, Option.mem_def.1 hold, h.numbered] at hsub
  have hlt := List.pairwise_lt_range.sublist hsub
  simpa [SubmitPhase.incoming] using hlt

/-- A submit starts: its frame is new, and is in no other place. -/
theorem FrameThreads.Inv.submit (h : s.Inv submitted acquired freed) (hp : s.producer = .idle)
    (frame : α) :
    FrameThreads.Inv
      { s with producer := .exchanging ⟨frame, s.started⟩, started := s.started + 1 }
      (submitted ++ [⟨frame, s.started⟩]) acquired freed := by
  have hplaces := h.places
  have hordered := h.ordered
  simp only [held, hp, SubmitPhase.incoming, SubmitPhase.outgoing, List.append_nil]
    at hplaces hordered
  exact
    { numbered := by simp [h.numbered, List.range_succ]
      places := by
        simpa [held, SubmitPhase.incoming, SubmitPhase.outgoing]
          using hplaces.append_right [⟨frame, s.started⟩]
      ordered := by simpa [SubmitPhase.incoming] using hordered.append_right [⟨frame, s.started⟩]
      later := h.later
      replaced := by simp
      ready := by simpa [hp] using h.ready
      newest := by simp [SubmitPhase.incoming] }

/-- The exchange: the frame goes into the slot, and the one that it replaces to the call. -/
theorem FrameThreads.Inv.exchange (h : s.Inv submitted acquired freed) {frame : Submission α}
    (hp : s.producer = .exchanging frame) :
    FrameThreads.Inv
      { s with
        slot := { s.slot with current := some frame }
        producer := .announcing frame.number s.slot.current }
      submitted acquired freed := by
  have hplaces := h.places
  have hordered := h.ordered
  simp only [held, hp, SubmitPhase.incoming, SubmitPhase.outgoing, List.append_nil]
    at hplaces hordered
  exact
    { numbered := h.numbered
      places := by
        refine List.Perm.trans ?_ hplaces
        simp only [held, SubmitPhase.incoming, SubmitPhase.outgoing]
        exact (List.perm_append_comm).append_left _
      ordered := by
        refine List.Sublist.trans ?_ hordered
        simp only [SubmitPhase.incoming, List.append_nil]
        exact (List.sublist_append_right _ _).append_left _
      later := h.later
      replaced := by
        rintro number old (⟨⟨⟩⟩ | h')
        · exact h.number_lt hp
        · cases h'
      ready := by simp
      newest := by
        intro f hf
        apply h.newest
        simpa [SubmitPhase.incoming, hp] using hf }

/-- The flag is set. -/
theorem FrameThreads.Inv.announce (h : s.Inv submitted acquired freed) {number : ℕ}
    {old : Option (Submission α)} (hp : s.producer = .announcing number old) :
    FrameThreads.Inv
      { s with slot := { s.slot with ready := true }, producer := .freeing number old }
      submitted acquired freed where
  numbered := h.numbered
  places := by
    simpa [held, SubmitPhase.incoming, SubmitPhase.outgoing, hp] using h.places
  ordered := by simpa [SubmitPhase.incoming, hp] using h.ordered
  later := h.later
  replaced := by
    rintro number' old' (h' | ⟨⟨⟩⟩)
    · cases h'
    · exact h.replaced _ _ (Or.inl hp)
  ready := by simp
  newest := by simpa [SubmitPhase.incoming, hp] using h.newest

/-- The replaced frame is freed, by a later submit than its own. -/
theorem FrameThreads.Inv.free (h : s.Inv submitted acquired freed) {number : ℕ}
    {old : Option (Submission α)} (hp : s.producer = .freeing number old) :
    FrameThreads.Inv { s with producer := .idle } submitted acquired
      (freed ++ old.toList.map (number, ·)) := by
  have hplaces := h.places
  simp only [held, hp, SubmitPhase.incoming, SubmitPhase.outgoing, List.append_nil] at hplaces
  exact
    { numbered := h.numbered
      places := by
        refine List.Perm.trans ?_ hplaces
        simp only [held, SubmitPhase.incoming, SubmitPhase.outgoing, List.append_nil,
          List.map_append, List.map_map, Function.comp_def, List.map_id', List.append_assoc]
        exact ((List.perm_append_comm).append_left _).append_left _
      ordered := by simpa [SubmitPhase.incoming, hp] using h.ordered
      later := by
        intro x hx
        obtain hx | hx := List.mem_append.1 hx
        · exact h.later x hx
        · obtain ⟨frame, hframe, rfl⟩ := List.mem_map.1 hx
          exact h.replaced number old (Or.inr hp) frame (Option.mem_toList.1 hframe)
      replaced := by simp
      ready := by simpa [hp] using h.ready
      newest := by simpa [SubmitPhase.incoming, hp] using h.newest }

/-- An acquire finds the flag set and clears it. -/
theorem FrameThreads.Inv.compareExchange (h : s.Inv submitted acquired freed) (tag : κ) :
    FrameThreads.Inv { s with slot := { s.slot with ready := false }, consumer := .taking tag }
      submitted acquired freed where
  numbered := h.numbered
  places := h.places
  ordered := h.ordered
  later := h.later
  replaced := h.replaced
  ready := by simp
  newest := h.newest

/-- The acquire takes the frame out of the slot. -/
theorem FrameThreads.Inv.take (h : s.Inv submitted acquired freed) (tag : κ) :
    FrameThreads.Inv { s with slot := { s.slot with current := none }, consumer := .idle }
      submitted (acquired ++ s.slot.current.toList.map (tag, ·)) freed where
  numbered := h.numbered
  places := by
    refine List.Perm.trans ?_ h.places
    simp only [held, Option.toList_none, List.nil_append, List.map_append, List.map_map,
      Function.comp_def, List.map_id', List.append_assoc]
    refine List.Perm.append_left _ ?_
    rw [← List.append_assoc, ← List.append_assoc (_ : List _) s.slot.current.toList]
    exact (List.perm_append_comm).append_right _
  ordered := by simpa [Function.comp_def] using h.ordered
  later := h.later
  replaced := h.replaced
  ready := by simp
  newest := by
    rintro frame (hf | ⟨-, hf⟩)
    · exact h.newest frame (Or.inl hf)
    · cases hf

variable [DecidableEq κ]

/-- Every step keeps the invariant, with what the step submits, acquires and frees. -/
theorem inv_frameStep (h : s.Inv submitted acquired freed) (a : FrameAction α κ) :
    (frameStep s a).Inv (submitted ++ frameSubmits s a) (acquired ++ frameAcquires s a)
      (freed ++ frameFrees s a) := by
  obtain ⟨hstep, hs, ha, hf⟩ | ⟨frame, rfl, hp⟩ | ⟨frame, rfl, hp⟩ | ⟨number, old, rfl, hp⟩ |
    ⟨number, old, rfl, hp⟩ | ⟨tag, rfl, hc⟩ | ⟨tag, rfl, hc⟩ := frameStep_cases s a
  · simpa only [hstep, hs, ha, hf, List.append_nil] using h
  · simpa [frameStep, frameSubmits, frameAcquires, frameFrees, hp] using h.submit hp frame
  · simpa [frameStep, frameSubmits, frameAcquires, frameFrees, hp] using h.exchange hp
  · simpa [frameStep, frameSubmits, frameAcquires, frameFrees, hp] using h.announce hp
  · simpa [frameStep, frameSubmits, frameAcquires, frameFrees, hp] using h.free hp
  · simpa [frameStep, frameSubmits, frameAcquires, frameFrees, hc] using h.compareExchange tag
  · simpa [frameStep, frameSubmits, frameAcquires, frameFrees, hc] using h.take tag

end

variable [DecidableEq κ]

theorem inv_frameFinal (ops : List (FrameAction α κ)) :
    (frameFinal ops).Inv (submittedFrames ops) (acquiredFrames ops) (freedFrames ops) := by
  induction ops using List.reverseRecOn with
  | nil => exact FrameThreads.inv_init
  | append_singleton ops a ih =>
    rw [frameFinal, submittedFrames, acquiredFrames, freedFrames, Runs.final_append_singleton,
      Runs.emits_append_singleton, Runs.emits_append_singleton, Runs.emits_append_singleton]
    exact inv_frameStep ih a

/-- Whatever the order of the steps of one producer and one consumer: every frame submitted is in
exactly one place (returned by an acquire, freed by a submit, in the slot, or held by the submit in
progress), a frame is freed by a later submit than its own, and frames are acquired in the order of
submission. When neither thread is in a call and the slot has a frame, `ready` is set, the frame is
the newest one, and an acquire returns it. -/
theorem shared_frame_handoff (ops : List (FrameAction α κ)) :
    let s := frameFinal ops
    let places := (acquiredFrames ops).map Prod.snd ++ (freedFrames ops).map Prod.snd ++ s.held
    (submittedFrames ops).Nodup ∧ places.Perm (submittedFrames ops) ∧
      (∀ x ∈ freedFrames ops, x.2.number < x.1) ∧
      ((acquiredFrames ops).map Prod.snd).Sublist (submittedFrames ops) ∧
      (s.producer = .idle → s.consumer = .idle → ∀ frame, s.slot.current = some frame →
        s.slot.ready = true ∧ (submittedFrames ops).getLast? = some frame ∧
        ∀ tag, Runs.emits frameStep frameAcquires s [.compareExchange tag, .take tag] =
          [(tag, frame)]) := by
  intro s places
  have h : s.Inv (submittedFrames ops) (acquiredFrames ops) (freedFrames ops) := inv_frameFinal ops
  refine ⟨?_, h.places, h.later, ?_, ?_⟩
  · exact List.Nodup.of_map Submission.number (h.numbered ▸ List.nodup_range)
  · exact (List.sublist_append_left _ _).trans h.ordered
  · intro hp hc frame hframe
    have hready : s.slot.ready = true := by
      obtain hready | ⟨n, old, hp'⟩ | ⟨tag, hc'⟩ := h.ready (by simp [hframe])
      · exact hready
      · rw [hp] at hp'
        cases hp'
      · rw [hc] at hc'
        cases hc'
    refine ⟨hready, h.newest frame (Or.inr ⟨by rw [hp]; rfl, hframe⟩), ?_⟩
    intro tag
    simp [Runs.emits_cons, frameStep, frameAcquires, hc, hready, hframe]

end Autoscrcpy
