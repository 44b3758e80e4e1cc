import Autoscrcpy.Lib.Heap
import Autoscrcpy.Pipeline.CaptureRuns

/-!
# The memory of the frames

A frame is allocated by the video thread, twice: `frame_to_nv12` allocates its data, and
`video_thread_func` the `frame_data_t` around it. Then it is in the hands of whichever thread has
its pointer: it is freed by the decoder that replaces it in the same call, by the submit that
replaces it in the slot, by the main loop that has drawn or captured it, or at the end by
`application_destroy`.

`frames_memory`: whatever the order of the steps of both threads and whichever allocations fail,
each block is freed once and none is used after that. `frames_in_order`: the main loop sees the
pictures of the codec in order, each at most once.
-/

namespace Autoscrcpy

/-! ## The two threads -/

/-- `frame_data_t` at a block, with its data, a block and the picture in it. -/
structure FrameMem (α : Type*) where
  fd : ℕ
  data : Option (ℕ × α)

/-- Where `video_decoder_decode` is, if it is running: between two turns of its loop, with
`frame->data` and `got_frame`, or about to call `frame_to_nv12`. -/
inductive DecodePhase (α : Type*) where
  | outside
  | decoding (data : Option (ℕ × α)) (gotFrame : Bool)
  | converting (picture : α)

/-- The heap, the shared frame, the video thread, and the frame that the main loop has acquired. -/
structure FrameMemory (α : Type*) where
  heap : Heap
  threads : FrameThreads (FrameMem α) FrameCaller
  decode : DecodePhase α
  taken : Option (FrameCaller × FrameMem α)

/-- The steps of the video thread (up to the frees of its submit) and those of the main loop.
`decoded` is the return of `video_decoder_decode`, with whether `calloc` succeeds. -/
inductive FrameOp (α : Type*) where
  | recv
  | receiveFrame (picture : α)
  | convert (mallocOk : Bool)
  | decoded (callocOk : Bool)
  | exchange
  | announce
  | free
  | compareExchange (caller : FrameCaller)
  | take (caller : FrameCaller)
  | read
  | release

variable {α : Type*}

namespace FrameMem

/-- The block of the data, if there is one. -/
def dataBlock (frame : FrameMem α) : Option ℕ := frame.data.map Prod.fst

def blocks (frame : FrameMem α) : List ℕ := frame.dataBlock.toList ++ [frame.fd]

end FrameMem

/-- `frame_data_free`, and the frees of `shared_frame_submit`. -/
def frameDataFree (h : Heap) (frame : FrameMem α) : Heap :=
  ((h.use frame.fd).freePtr frame.dataBlock).free frame.fd

/-- Read the data of a frame, if it has any, by the pointer in its `frame_data_t`. -/
def frameDataRead (h : Heap) (frame : FrameMem α) : Heap :=
  match frame.dataBlock with
  | none => h.use frame.fd
  | some data => (h.use frame.fd).use data

/-- A step of one of the threads; one that its thread cannot take leaves the state as it is. -/
def frameMemoryStep (s : FrameMemory α) : FrameOp α → FrameMemory α
  | .recv =>
      match s.decode, s.threads.producer with
      | .outside, .idle => { s with decode := .decoding none false }
      | _, _ => s
  | .receiveFrame picture =>
      match s.decode with
      | .decoding data gotFrame =>
          { s with
            heap := if gotFrame then s.heap.freePtr (data.map Prod.fst) else s.heap
            decode := .converting picture }
      | _ => s
  | .convert mallocOk =>
      match s.decode with
      | .converting picture =>
          if mallocOk then
            { s with
              heap := s.heap.malloc
              decode := .decoding (some (s.heap.next, picture)) true }
          else { s with decode := .decoding none false }
      | _ => s
  | .decoded callocOk =>
      match s.decode with
      | .decoding data gotFrame =>
          if gotFrame = false then { s with decode := .outside }
          else if callocOk then
            { s with
              heap := s.heap.malloc
              threads := frameStep s.threads (.submit ⟨s.heap.next, data⟩)
              decode := .outside }
          else { s with heap := s.heap.freePtr (data.map Prod.fst), decode := .outside }
      | _ => s
  | .exchange => { s with threads := frameStep s.threads .exchange }
  | .announce => { s with threads := frameStep s.threads .announce }
  | .free =>
      { s with
        heap := (frameFrees s.threads .free).foldl (fun h x => frameDataFree h x.2.frame) s.heap
        threads := frameStep s.threads .free }
  | .compareExchange caller =>
      if s.taken.isSome then s
      else { s with threads := frameStep s.threads (.compareExchange caller) }
  | .take caller =>
      let threads := frameStep s.threads (.take caller)
      match frameAcquires s.threads (.take caller) with
      | [] => { s with threads }
      | x :: _ => { s with threads, taken := some (x.1, x.2.frame) }
  | .read =>
      match s.taken with
      | some x => { s with heap := frameDataRead s.heap x.2 }
      | none => s
  | .release =>
      match s.taken with
      | some x => { s with heap := frameDataFree s.heap x.2, taken := none }
      | none => s

/-- Before the threads start. -/
def FrameMemory.init : FrameMemory α := ⟨.init, .init, .outside, none⟩

/-- What `application_destroy` frees. -/
def FrameMemory.destroy (s : FrameMemory α) : Heap :=
  match s.threads.slot.current with
  | none => s.heap
  | some frame => frameDataFree s.heap frame.frame

/-! ## Who holds what -/

/-- The frames go from a submit into the slot, and out of it to an acquire or to the next submit,
which frees them. -/
theorem held_frameStep {β κ : Type*} [DecidableEq κ] (s : FrameThreads β κ) (a : FrameAction β κ) :
    ((frameAcquires s a).map Prod.snd ++
        ((frameFrees s a).map Prod.snd ++ (frameStep s a).held)).Perm
      (frameSubmits s a ++ s.held) := by
  obtain ⟨hstep, hs, ha, hf⟩ | ⟨frame, rfl, hp⟩ | ⟨frame, rfl, hp⟩ | ⟨number, old, rfl, hp⟩ |
    ⟨number, old, rfl, hp⟩ | ⟨tag, rfl, hc⟩ | ⟨tag, rfl, hc⟩ := frameStep_cases s a
  · simp [hstep, hs, ha, hf]
  · simp [frameStep, frameSubmits, frameAcquires, frameFrees, hp, FrameThreads.held,
      SubmitPhase.incoming, SubmitPhase.outgoing]
  · simpa [frameStep, frameSubmits, frameAcquires, frameFrees, hp, FrameThreads.held,
      SubmitPhase.incoming, SubmitPhase.outgoing] using (List.perm_append_singleton ..).symm
  · simp [frameStep, frameSubmits, frameAcquires, frameFrees, hp, FrameThreads.held,
      SubmitPhase.incoming, SubmitPhase.outgoing]
  · simpa [frameStep, frameSubmits, frameAcquires, frameFrees, hp, FrameThreads.held,
      SubmitPhase.incoming, SubmitPhase.outgoing, Function.comp_def] using List.perm_append_comm
  · simp [frameStep, frameSubmits, frameAcquires, frameFrees, hc, FrameThreads.held]
  · simp [frameStep, frameSubmits, frameAcquires, frameFrees, hc, FrameThreads.held,
      Function.comp_def]

/-- The producer leaves its place between two submits only to submit. -/
theorem frameStep_idle {β κ : Type*} [DecidableEq κ] {s : FrameThreads β κ}
    (h : s.producer = .idle) {a : FrameAction β κ} (ha : ∀ frame, a ≠ .submit frame) :
    (frameStep s a).producer = .idle := by
  obtain ⟨hstep, -⟩ | ⟨frame, rfl, -⟩ | ⟨frame, rfl, hp⟩ | ⟨number, old, rfl, hp⟩ |
    ⟨number, old, rfl, hp⟩ | ⟨tag, rfl, hc⟩ | ⟨tag, rfl, hc⟩ := frameStep_cases s a
  · rw [hstep, h]
  · exact absurd rfl (ha frame)
  · simp [h] at hp
  · simp [h] at hp
  · simp [h] at hp
  · simp [frameStep, hc, h]
  · simp [frameStep, hc, h]

/-- The block that `video_decoder_decode` has allocated. -/
def DecodePhase.blocks : DecodePhase α → List ℕ
  | .decoding data _ => (data.map Prod.fst).toList
  | _ => []

/-- The blocks of the frames in the slot and in the submit. -/
def heldBlocks (threads : FrameThreads (FrameMem α) FrameCaller) : List ℕ :=
  threads.held.flatMap fun submission => submission.frame.blocks

def takenBlocks (taken : Option (FrameCaller × FrameMem α)) : List ℕ :=
  taken.toList.flatMap fun x => x.2.blocks

/-- Every block of the frames is in one place; `got_frame` tells whether there is data; the video
thread decodes only between two submits, and the main loop acquires only when it has no frame. -/
structure FrameMemory.Inv (s : FrameMemory α) : Prop where
  owns : s.heap.Owns (s.decode.blocks ++ (takenBlocks s.taken ++ heldBlocks s.threads))
  gotFrame : ∀ data gotFrame, s.decode = .decoding data gotFrame → gotFrame = data.isSome
  producer : s.decode ≠ .outside → s.threads.producer = .idle
  consumer : s.taken ≠ none → s.threads.consumer = .idle

theorem FrameMemory.inv_init : (init : FrameMemory α).Inv where
  owns := Heap.owns_init
  gotFrame := by
    rintro data gotFrame ⟨⟩
  producer h := absurd rfl h
  consumer h := absurd rfl h

section

variable {h : Heap} {frame : FrameMem α} {held : List ℕ}

theorem frameDataFree_owns (ho : h.Owns (frame.blocks ++ held)) :
    (frameDataFree h frame).Owns held := by
  have huse : h.use frame.fd = h := ho.use (by simp [FrameMem.blocks])
  rw [FrameMem.blocks, List.append_assoc] at ho
  rw [frameDataFree, huse]
  exact ho.freePtr.free

theorem frameDataRead_eq (ho : h.Owns held) (hsub : ∀ b ∈ frame.blocks, b ∈ held) :
    frameDataRead h frame = h := by
  have huse : h.use frame.fd = h := ho.use (hsub _ (by simp [FrameMem.blocks]))
  rw [frameDataRead]
  split
  · exact huse
  · rename_i data hdata
    rw [huse]
    exact ho.use (hsub _ (by simp [FrameMem.blocks, hdata]))

variable {s : FrameMemory α}

/-- A step of the shared frame that only moves frames inside it. -/
theorem heldBlocks_of_quiet {threads : FrameThreads (FrameMem α) FrameCaller}
    {a : FrameAction (FrameMem α) FrameCaller} (hs : frameSubmits threads a = [])
    (ha : frameAcquires threads a = []) (hf : frameFrees threads a = []) :
    (heldBlocks (frameStep threads a)).Perm (heldBlocks threads) := by
  have hperm := held_frameStep threads a
  rw [hs, ha, hf] at hperm
  exact hperm.flatMap_right _

/-- A submit brings its frame. -/
theorem heldBlocks_submit {threads : FrameThreads (FrameMem α) FrameCaller}
    (hp : threads.producer = .idle) (frame : FrameMem α) :
    (heldBlocks (frameStep threads (.submit frame))).Perm (frame.blocks ++ heldBlocks threads) := by
  have hperm := held_frameStep threads (.submit frame)
  simp only [frameSubmits, frameAcquires, frameFrees, hp, List.map_nil, List.nil_append] at hperm
  exact hperm.flatMap_right _

/-- The end of a submit gives up the frame that it has replaced. -/
theorem heldBlocks_free {threads : FrameThreads (FrameMem α) FrameCaller} {number : ℕ}
    {old : Option (Submission (FrameMem α))} (hp : threads.producer = .freeing number old) :
    (heldBlocks threads).Perm
      (old.toList.flatMap (fun x => x.frame.blocks) ++ heldBlocks (frameStep threads .free)) := by
  have hperm := (held_frameStep threads .free).flatMap_right fun x => x.frame.blocks
  simpa [frameSubmits, frameAcquires, frameFrees, hp, heldBlocks, Function.comp_def]
    using hperm.symm

/-- An acquire that takes a frame takes it out of the slot. -/
theorem heldBlocks_take {threads : FrameThreads (FrameMem α) FrameCaller} {caller : FrameCaller}
    {x : FrameCaller × Submission (FrameMem α)}
    {rest : List (FrameCaller × Submission (FrameMem α))}
    (hx : frameAcquires threads (.take caller) = x :: rest) :
    threads.consumer = .taking caller ∧
      (heldBlocks threads).Perm
        (x.2.frame.blocks ++ heldBlocks (frameStep threads (.take caller))) ∧ rest = [] := by
  have hperm := (held_frameStep threads (.take caller)).flatMap_right fun x => x.frame.blocks
  have hacquires := hx
  rw [frameAcquires] at hacquires
  split_ifs at hacquires with hc
  cases hslot : threads.slot.current with
  | none => simp [hslot] at hacquires
  | some frame =>
    rw [hslot] at hacquires
    obtain ⟨rfl, rfl⟩ := List.cons_eq_cons.1 hacquires
    refine ⟨hc, ?_, rfl⟩
    rw [hx] at hperm
    simpa [frameSubmits, frameFrees, heldBlocks] using hperm.symm

theorem frameStep_submit_consumer (threads : FrameThreads (FrameMem α) FrameCaller)
    (frame : FrameMem α) : (frameStep threads (.submit frame)).consumer = threads.consumer := by
  rw [frameStep]
  split <;> rfl

theorem FrameMemory.Inv.moves (hinv : s.Inv) {threads : FrameThreads (FrameMem α) FrameCaller}
    (hheld : (heldBlocks threads).Perm (heldBlocks s.threads))
    (hproducer : s.threads.producer = .idle → threads.producer = .idle)
    (hconsumer : s.taken ≠ none → threads.consumer = .idle) :
    FrameMemory.Inv { s with threads } where
  owns := hinv.owns.perm (((hheld.symm.append_left _)).append_left _)
  gotFrame := hinv.gotFrame
  producer hd := hproducer (hinv.producer hd)
  consumer := hconsumer

attribute [local simp] frameMemoryStep

/-! ### The video thread -/

theorem FrameMemory.Inv.recv (hinv : s.Inv) : (frameMemoryStep s .recv).Inv := by
  rw [frameMemoryStep]
  split
  · rename_i hd hp
    refine ⟨?_, ?_, fun _ => hp, hinv.consumer⟩
    · simpa [hd, DecodePhase.blocks] using hinv.owns
    · rintro data gotFrame ⟨⟩
      rfl
  · exact hinv

/-- The data of an earlier frame of the buffer is freed, if there is any. -/
theorem FrameMemory.Inv.receiveFrame (hinv : s.Inv) (picture : α) :
    (frameMemoryStep s (.receiveFrame picture)).Inv := by
  rw [frameMemoryStep]
  split
  · rename_i data gotFrame hd
    have howns := hinv.owns
    rw [hd, DecodePhase.blocks] at howns
    refine ⟨?_, by rintro _ _ ⟨⟩, fun _ => hinv.producer (by simp [hd]), hinv.consumer⟩
    cases gotFrame with
    | true => exact howns.freePtr
    | false =>
      have hnone : data = none := by simpa using hinv.gotFrame _ _ hd
      rw [hnone] at howns
      exact howns
  · exact hinv

theorem FrameMemory.Inv.convert (hinv : s.Inv) (mallocOk : Bool) :
    (frameMemoryStep s (.convert mallocOk)).Inv := by
  rw [frameMemoryStep]
  split
  · rename_i picture hd
    have howns : s.heap.Owns (takenBlocks s.taken ++ heldBlocks s.threads) := by
      simpa [hd, DecodePhase.blocks] using hinv.owns
    have hproducer := hinv.producer (by simp [hd])
    split_ifs
    · refine ⟨howns.malloc, ?_, fun _ => hproducer, hinv.consumer⟩
      rintro data gotFrame ⟨⟩
      rfl
    · refine ⟨howns, ?_, fun _ => hproducer, hinv.consumer⟩
      rintro data gotFrame ⟨⟩
      rfl
  · exact hinv

/-- The data goes into the frame that is submitted, or is freed. -/
theorem FrameMemory.Inv.decoded (hinv : s.Inv) (callocOk : Bool) :
    (frameMemoryStep s (.decoded callocOk)).Inv := by
  rw [frameMemoryStep]
  split
  · rename_i data gotFrame hd
    have howns := hinv.owns
    rw [hd, DecodePhase.blocks] at howns
    have hproducer := hinv.producer (by simp [hd])
    have hgot := hinv.gotFrame _ _ hd
    split_ifs with hnone
    · rw [hgot] at hnone
      have hdata : data = none := by simpa using hnone
      rw [hdata] at howns
      exact ⟨howns, by rintro _ _ ⟨⟩, fun hd => absurd rfl hd, hinv.consumer⟩
    · have hheld := heldBlocks_submit hproducer ⟨s.heap.next, data⟩
      refine ⟨howns.malloc.perm ?_, by rintro _ _ ⟨⟩, fun hd => absurd rfl hd, fun ht => ?_⟩
      · refine List.Perm.trans ?_ (hheld.symm.append_left _)
        rw [List.perm_iff_count]
        intro b
        simp only [FrameMem.blocks, FrameMem.dataBlock, List.count_append, List.count_cons,
          List.count_nil]
        omega
      · rw [frameStep_submit_consumer]
        exact hinv.consumer ht
    · exact ⟨howns.freePtr, by rintro _ _ ⟨⟩, fun hd => absurd rfl hd, hinv.consumer⟩
  · exact hinv

/-- A step of a submit between its start and its end. -/
theorem FrameMemory.Inv.submitStep (hinv : s.Inv) {a : FrameAction (FrameMem α) FrameCaller}
    (ha : a = .exchange ∨ a = .announce) :
    FrameMemory.Inv { s with threads := frameStep s.threads a } := by
  have hquiet : frameSubmits s.threads a = [] ∧ frameAcquires s.threads a = [] ∧
      frameFrees s.threads a = [] := by
    rcases ha with rfl | rfl <;> exact ⟨rfl, rfl, rfl⟩
  have hsubmit : ∀ frame, a ≠ .submit frame := by
    rcases ha with rfl | rfl <;> simp
  have hconsumer : (frameStep s.threads a).consumer = s.threads.consumer := by
    rcases ha with rfl | rfl <;> rw [frameStep] <;> split <;> rfl
  refine hinv.moves (heldBlocks_of_quiet hquiet.1 hquiet.2.1 hquiet.2.2)
    (fun hp => frameStep_idle hp hsubmit) fun ht => ?_
  rw [hconsumer]
  exact hinv.consumer ht

/-- The end of a submit: the frame that it has replaced is freed. -/
theorem FrameMemory.Inv.free (hinv : s.Inv) : (frameMemoryStep s .free).Inv := by
  rw [frameMemoryStep]
  by_cases hp : ∃ number old, s.threads.producer = .freeing number old
  · obtain ⟨number, old, hp⟩ := hp
    have hdecode : s.decode = .outside := by
      by_contra hd
      have hidle := hinv.producer hd
      rw [hp] at hidle
      cases hidle
    have howns := hinv.owns
    rw [hdecode] at howns
    have hheld := heldBlocks_free hp
    refine ⟨?_, fun _ _ hd => ?_, fun hd => absurd hdecode hd, fun ht => ?_⟩
    · simp only [frameFrees, hp, hdecode]
      cases old with
      | none => exact howns.perm (hheld.append_left _)
      | some old =>
        refine frameDataFree_owns (howns.perm ((hheld.append_left _).trans ?_))
        simpa [DecodePhase.blocks] using List.perm_append_comm_assoc ..
    · rw [hdecode] at hd
      cases hd
    · simp [frameStep, hp, hinv.consumer ht]
  · obtain ⟨hstep, -, -, hf⟩ | ⟨frame, h, -⟩ | ⟨frame, h, -⟩ | ⟨number, old, h, -⟩ |
      ⟨number, old, -, hfree⟩ | ⟨tag, h, -⟩ | ⟨tag, h, -⟩ := frameStep_cases s.threads .free
    · rw [hstep, hf]
      exact hinv
    · cases h
    · cases h
    · cases h
    · exact absurd ⟨number, old, hfree⟩ hp
    · cases h
    · cases h

/-! ### The main loop -/

theorem FrameMemory.Inv.compareExchange (hinv : s.Inv) (caller : FrameCaller) :
    (frameMemoryStep s (.compareExchange caller)).Inv := by
  rw [frameMemoryStep]
  split_ifs with htaken
  · exact hinv
  · refine hinv.moves (heldBlocks_of_quiet rfl rfl rfl) (fun hp => frameStep_idle hp (by simp)) ?_
    intro ht
    exact absurd (Option.isSome_iff_ne_none.2 ht) htaken

/-- The frame in the slot becomes the main loop's. -/
theorem FrameMemory.Inv.take (hinv : s.Inv) (caller : FrameCaller) :
    (frameMemoryStep s (.take caller)).Inv := by
  have hidle (hp : s.threads.producer = .idle) :
      (frameStep s.threads (.take caller)).producer = .idle := frameStep_idle hp (by simp)
  rw [frameMemoryStep]
  split
  · rename_i hnone
    refine hinv.moves (heldBlocks_of_quiet rfl hnone rfl) hidle fun ht => ?_
    rw [frameStep]
    split_ifs
    · rfl
    · exact hinv.consumer ht
  · rename_i x rest hsome
    obtain ⟨hc, hheld, rfl⟩ := heldBlocks_take hsome
    have htaken : s.taken = none := by
      by_contra ht
      rw [hinv.consumer ht] at hc
      cases hc
    have howns := hinv.owns
    rw [htaken] at howns
    refine ⟨?_, hinv.gotFrame, fun hd => hidle (hinv.producer hd), fun _ => ?_⟩
    · refine howns.perm ((List.Perm.append_left _ hheld).append_left _ |>.trans ?_)
      simp [takenBlocks]
    · simp [frameStep, hc]

theorem FrameMemory.Inv.read (hinv : s.Inv) : (frameMemoryStep s .read).Inv := by
  rw [frameMemoryStep]
  split
  · rename_i x ht
    rw [frameDataRead_eq hinv.owns fun b hb => by simp [ht, takenBlocks, hb]]
    exact hinv
  · exact hinv

theorem FrameMemory.Inv.release (hinv : s.Inv) : (frameMemoryStep s .release).Inv := by
  rw [frameMemoryStep]
  split
  · rename_i x ht
    have howns := hinv.owns
    rw [ht] at howns
    refine ⟨frameDataFree_owns (howns.perm ?_), hinv.gotFrame, hinv.producer,
      fun h => absurd rfl h⟩
    simpa [takenBlocks] using List.perm_append_comm_assoc ..
  · exact hinv

theorem inv_frameMemoryStep (hinv : s.Inv) (op : FrameOp α) : (frameMemoryStep s op).Inv := by
  cases op with
  | recv => exact hinv.recv
  | receiveFrame picture => exact hinv.receiveFrame picture
  | convert mallocOk => exact hinv.convert mallocOk
  | decoded callocOk => exact hinv.decoded callocOk
  | exchange => simpa using hinv.submitStep (Or.inl rfl)
  | announce => simpa using hinv.submitStep (Or.inr rfl)
  | free => exact hinv.free
  | compareExchange caller => exact hinv.compareExchange caller
  | take caller => exact hinv.take caller
  | read => exact hinv.read
  | release => exact hinv.release

end

/-! ## Whole runs -/

/-- Both threads are outside their calls, and the main loop has no frame: the video thread has been
waited for, and the loop has been left. -/
structure FrameMemory.Stopped (s : FrameMemory α) : Prop where
  decode : s.decode = .outside
  producer : s.threads.producer = .idle
  taken : s.taken = none

/-- Whatever the order of the steps of the two threads, and whichever allocations fail: no block of
a frame is freed twice or used after it was freed, and once both threads have stopped
`application_destroy` leaves nothing: every block has been freed exactly once. -/
theorem frames_memory (ops : List (FrameOp α)) :
    let s := Runs.final frameMemoryStep .init ops
    (∃ held, s.heap.Owns held) ∧ (s.Stopped → s.destroy.Owns []) := by
  intro s
  have hinv : s.Inv :=
    (Runs.invariant (I := FrameMemory.Inv) (fun x _ h => inv_frameMemoryStep h x.2)
      FrameMemory.inv_init).2
  refine ⟨⟨_, hinv.owns⟩, fun hstop => ?_⟩
  have howns := hinv.owns
  rw [hstop.decode, hstop.taken] at howns
  rw [FrameMemory.destroy]
  split
  · rename_i hslot
    simpa [heldBlocks, FrameThreads.held, hslot, hstop.producer, SubmitPhase.incoming,
      SubmitPhase.outgoing, DecodePhase.blocks, takenBlocks] using howns
  · rename_i frame hslot
    refine frameDataFree_owns ?_
    simpa [heldBlocks, FrameThreads.held, hslot, hstop.producer, SubmitPhase.incoming,
      SubmitPhase.outgoing, DecodePhase.blocks, takenBlocks] using howns

/-- Two pictures in one buffer, of which the second is drawn, and one that stays in the slot. -/
theorem frames_memory_drawn :
    (Runs.final frameMemoryStep .init ([.recv, .receiveFrame 7, .convert true, .receiveFrame 8,
      .convert true, .decoded true, .exchange, .announce, .free, .compareExchange .render,
      .take .render, .recv, .read, .receiveFrame 9, .release, .convert true, .decoded true,
      .exchange, .announce, .free] : List (FrameOp ℕ))).destroy.Owns [] :=
  (frames_memory _).2 ⟨rfl, rfl, rfl⟩

/-! ## The pictures -/

/-- The picture that the codec gives in a step. -/
def receivedPicture (s : FrameMemory α) : FrameOp α → List α
  | .receiveFrame picture =>
      match s.decode with
      | .decoding _ _ => [picture]
      | _ => []
  | _ => []

/-- The picture of a frame, if it has data. -/
def Submission.picture (submission : Submission (FrameMem α)) : Option α :=
  submission.frame.data.map Prod.snd

/-- The picture that the main loop takes in a step. -/
def takenPicture (s : FrameMemory α) : FrameOp α → List α
  | .take caller =>
      (frameAcquires s.threads (.take caller)).filterMap fun x => x.2.picture
  | _ => []

def DecodePhase.pictures : DecodePhase α → List α
  | .outside => []
  | .decoding data _ => (data.map Prod.snd).toList
  | .converting picture => [picture]

/-- The pictures submitted so far, and the one that is being decoded, are pictures of the codec in
order; those taken are acquired frames. -/
structure FrameMemory.InOrder (s : FrameMemory α) (received taken : List α) : Prop where
  pictures : ∃ submitted acquired freed, s.threads.Inv submitted acquired freed ∧
    (submitted.filterMap Submission.picture ++ s.decode.pictures).Sublist received ∧
    taken = acquired.filterMap fun x => x.2.picture

section

variable {s : FrameMemory α} {received taken : List α}

/-- A step of the decoder outside the shared frame. -/
theorem FrameMemory.InOrder.decode (h : s.InOrder received taken) {heap : Heap}
    {decode : DecodePhase α} {holds : Option (FrameCaller × FrameMem α)} {pictures : List α}
    (hp : decode.pictures.Sublist (s.decode.pictures ++ pictures)) :
    FrameMemory.InOrder { s with heap, decode, taken := holds } (received ++ pictures) taken := by
  obtain ⟨submitted, acquired, freed, hthreads, hsub, htaken⟩ := h.pictures
  refine ⟨submitted, acquired, freed, hthreads, ?_, htaken⟩
  have hall := hsub.append_right pictures
  rw [List.append_assoc] at hall
  exact (hp.append_left _).trans hall

/-- A step of the shared frame that submits nothing. -/
theorem FrameMemory.InOrder.threads (h : s.InOrder received taken) {heap : Heap}
    {holds : Option (FrameCaller × FrameMem α)} {a : FrameAction (FrameMem α) FrameCaller}
    (hs : frameSubmits s.threads a = []) :
    FrameMemory.InOrder { s with heap, threads := frameStep s.threads a, taken := holds } received
      (taken ++ (frameAcquires s.threads a).filterMap fun x => x.2.picture) := by
  obtain ⟨submitted, acquired, freed, hthreads, hsub, htaken⟩ := h.pictures
  have hstep := inv_frameStep hthreads a
  rw [hs, List.append_nil] at hstep
  exact ⟨submitted, _, _, hstep, hsub, by rw [htaken, List.filterMap_append]⟩

/-- The picture goes from the decoder to the frame that is submitted. -/
theorem FrameMemory.InOrder.submit (h : s.InOrder received taken) {heap : Heap}
    {data : Option (ℕ × α)} {gotFrame : Bool} (hd : s.decode = .decoding data gotFrame) (fd : ℕ) :
    FrameMemory.InOrder
      { s with heap, threads := frameStep s.threads (.submit ⟨fd, data⟩), decode := .outside }
      received taken := by
  obtain ⟨submitted, acquired, freed, hthreads, hsub, htaken⟩ := h.pictures
  rw [hd] at hsub
  have hstep := inv_frameStep hthreads (.submit ⟨fd, data⟩)
  refine ⟨_, _, _, hstep, ?_, by simp [htaken, frameAcquires]⟩
  refine List.Sublist.trans ?_ hsub
  rw [List.filterMap_append, DecodePhase.pictures, DecodePhase.pictures, List.append_nil]
  refine List.Sublist.append_left ?_ _
  rw [frameSubmits]
  split
  · cases data <;> simp [Submission.picture]
  · exact List.nil_sublist _

theorem inOrder_frameMemoryStep (h : s.InOrder received taken) (op : FrameOp α) :
    (frameMemoryStep s op).InOrder (received ++ receivedPicture s op)
      (taken ++ takenPicture s op) := by
  have hdecode {heap : Heap} {decode : DecodePhase α}
      {holds : Option (FrameCaller × FrameMem α)} {pictures : List α}
      (hp : decode.pictures.Sublist (s.decode.pictures ++ pictures)) :
      FrameMemory.InOrder { s with heap, decode, taken := holds } (received ++ pictures)
        (taken ++ []) := by
    rw [List.append_nil]
    exact h.decode hp
  have hthreads {heap : Heap} {holds : Option (FrameCaller × FrameMem α)}
      {a : FrameAction (FrameMem α) FrameCaller} (hs : frameSubmits s.threads a = []) :
      FrameMemory.InOrder { s with heap, threads := frameStep s.threads a, taken := holds }
        (received ++ [])
        (taken ++ (frameAcquires s.threads a).filterMap fun x => x.2.picture) := by
    rw [List.append_nil]
    exact h.threads hs
  cases op with
  | recv =>
    simp only [frameMemoryStep, receivedPicture]
    split
    · exact hdecode (List.nil_sublist _)
    · exact hdecode (List.sublist_append_left ..)
  | receiveFrame picture =>
    simp only [frameMemoryStep, receivedPicture]
    split
    · exact hdecode (List.sublist_append_right ..)
    · exact hdecode (List.sublist_append_left ..)
  | convert mallocOk =>
    simp only [frameMemoryStep, receivedPicture]
    split
    · rename_i picture hd
      split_ifs
      · exact hdecode (by simp [hd, DecodePhase.pictures])
      · exact hdecode (List.nil_sublist _)
    · exact hdecode (List.sublist_append_left ..)
  | decoded callocOk =>
    simp only [frameMemoryStep, receivedPicture]
    split
    · rename_i data gotFrame hd
      split_ifs
      · exact hdecode (List.nil_sublist _)
      · rw [List.append_nil]
        exact (List.append_nil taken).symm ▸ h.submit hd _
      · exact hdecode (List.nil_sublist _)
    · exact hdecode (List.sublist_append_left ..)
  | exchange => exact hthreads rfl
  | announce => exact hthreads rfl
  | free => exact hthreads rfl
  | compareExchange caller =>
    simp only [frameMemoryStep, receivedPicture]
    split_ifs
    · exact hdecode (List.sublist_append_left ..)
    · exact hthreads rfl
  | take caller =>
    simp only [frameMemoryStep, receivedPicture, takenPicture]
    split <;> exact hthreads rfl
  | read =>
    simp only [frameMemoryStep, receivedPicture]
    split <;> exact hdecode (List.sublist_append_left ..)
  | release =>
    simp only [frameMemoryStep, receivedPicture]
    split <;> exact hdecode (List.sublist_append_left ..)

end

/-- Whatever the order of the steps, the main loop takes the pictures of the codec in order and each
at most once: some are left out, none comes twice or late. -/
theorem frames_in_order (ops : List (FrameOp α)) :
    (Runs.emits frameMemoryStep takenPicture .init ops).Sublist
      (Runs.emits frameMemoryStep receivedPicture .init ops) := by
  have hrun : (Runs.final frameMemoryStep .init ops).InOrder
      (Runs.emits frameMemoryStep receivedPicture .init ops)
      (Runs.emits frameMemoryStep takenPicture .init ops) := by
    induction ops using List.reverseRecOn with
    | nil => exact ⟨[], [], [], FrameThreads.inv_init, .refl _, rfl⟩
    | append_singleton ops op ih =>
      rw [Runs.final_append_singleton, Runs.emits_append_singleton, Runs.emits_append_singleton]
      exact inOrder_frameMemoryStep ih op
  obtain ⟨submitted, acquired, freed, hthreads, hsub, htaken⟩ := hrun.pictures
  have hacquired := ((List.sublist_append_left _ _).trans hthreads.ordered).filterMap
    Submission.picture
  rw [List.filterMap_map] at hacquired
  rw [htaken]
  exact hacquired.trans ((List.sublist_append_left _ _).trans hsub)

end Autoscrcpy
