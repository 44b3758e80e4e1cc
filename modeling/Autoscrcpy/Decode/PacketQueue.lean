import Autoscrcpy.Lib.BoundedBuffer
import Autoscrcpy.Lib.Heap
import Autoscrcpy.Lib.Ring

/-!
# The packet queue

`packet_queue_t`: a ring of packets under one mutex, with one condition variable that full and empty
calls wait on alike and that every push and every pop signals once. What a call does between taking
the mutex and giving it up is one step of its thread.

The queue hands the packets on in order and owns their blocks until then (`packetQueue_safe`). Its
threads can always go on when there are at most two for each place, and otherwise can all fall
asleep with room or packets left (`packetQueue_progress`).
-/

namespace Autoscrcpy

open RingBuffer BoundedBuffer

/-- The `size` bytes that a caller of `packet_queue_push` points to, and its time. -/
structure PacketData where
  bytes : List UInt8
  size : UInt32
  pts : Int64
  length_bytes : bytes.length = size.toNat

/-- `packet_t`; `data` is its block and `sent` what was copied there. -/
structure QueuedPacket where
  data : Option ℕ
  sent : PacketData

/-- `packet_queue_t` without its mutex and condition variable; `block` is the array. -/
structure PacketQueue where
  packets : ℕ → QueuedPacket
  block : ℕ
  capacity : ℕ
  count : ℕ
  head : ℕ
  tail : ℕ
  finished : Bool

/-- `packet_queue_init`. -/
def packetQueueInit (calloc : Bool) (heap : Heap) (capacity : ℕ) : Option (PacketQueue × Heap) :=
  if calloc then
    some (⟨fun _ => ⟨none, [], 0, 0, rfl⟩, heap.next, capacity, 0, 0, 0, false⟩, heap.malloc)
  else none

namespace PacketQueue

/-- What `packet_queue_push` does while it holds the mutex: a wait, or the value that it returns
with what it leaves. -/
def push (q : PacketQueue) (heap : Heap) (malloc : Bool) (x : PacketData) :
    Option (Bool × PacketQueue × Heap) :=
  if q.capacity ≤ q.count ∧ q.finished = false then none
  else if q.finished then some (false, q, heap)
  else if malloc = false then
    some (false, { q with
      packets := Function.update q.packets q.tail ⟨none, (q.packets q.tail).sent⟩
    }, heap.use q.block)
  else
    some (true, { q with
      packets := Function.update q.packets q.tail ⟨some heap.next, x⟩
      tail := (q.tail + 1) % q.capacity
      count := q.count + 1
    }, (heap.use q.block).malloc)

/-- What `packet_queue_pop` does while it holds the mutex: a wait, or the packet that it returns, if
any, with what it leaves. -/
def pop (q : PacketQueue) (heap : Heap) : Option (Option QueuedPacket × PacketQueue × Heap) :=
  if q.count = 0 ∧ q.finished = false then none
  else if q.count = 0 then some (none, q, heap)
  else
    some (some (q.packets q.head), { q with
      head := (q.head + 1) % q.capacity
      count := q.count - 1
    }, heap.use q.block)

/-- `packet_queue_finish`. -/
def finish (q : PacketQueue) : PacketQueue := { q with finished := true }

/-- `packet_queue_destroy`. -/
def destroy (q : PacketQueue) (heap : Heap) : Heap :=
  ((List.range q.count).foldl (fun heap i =>
    (heap.use q.block).freePtr (q.packets ((q.head + i) % q.capacity)).data) heap).free q.block

/-- The packets in the queue, oldest first. -/
def contents (q : PacketQueue) : List QueuedPacket := cells q.capacity q.packets q.head q.count

/-- The positions and the count agree, and each packet in the queue has its block. -/
structure Valid (q : PacketQueue) : Prop where
  capacity_pos : 0 < q.capacity
  head_lt : q.head < q.capacity
  count_le : q.count ≤ q.capacity
  tail_eq : q.tail = (q.head + q.count) % q.capacity
  data_isSome : ∀ p ∈ q.contents, p.data.isSome

@[simp] theorem length_contents (q : PacketQueue) : q.contents.length = q.count := length_cells ..


/-- The blocks of packets, of those that have one. -/
def blocks (packets : List QueuedPacket) : List ℕ := packets.filterMap (·.data)

@[simp] theorem blocks_nil : blocks [] = [] := rfl

@[simp] theorem blocks_append (packets packets' : List QueuedPacket) :
    blocks (packets ++ packets') = blocks packets ++ blocks packets' := List.filterMap_append ..

/-- The queue, its array and its packets in the heap, beside what else is allocated. -/
structure Owns (q : PacketQueue) (heap : Heap) (held : List ℕ) : Prop extends q.Valid where
  owns : heap.Owns (q.block :: blocks q.contents ++ held)

variable {q q' : PacketQueue} {heap heap' : Heap} {held : List ℕ} {x : PacketData}

theorem owns_init {calloc : Bool} {capacity : ℕ} (hcap : 0 < capacity) (ho : heap.Owns held)
    (hinit : packetQueueInit calloc heap capacity = some (q, heap')) :
    q.Owns heap' held ∧ q.contents = [] ∧ q.finished = false ∧ q.capacity = capacity := by
  rw [packetQueueInit] at hinit
  split_ifs at hinit
  obtain ⟨rfl, rfl⟩ := Prod.mk.inj (Option.some.inj hinit)
  refine ⟨⟨⟨hcap, hcap, Nat.zero_le _, rfl, ?_⟩, ho.malloc⟩, rfl, rfl, rfl⟩
  intro p hp
  cases hp

theorem Owns.perm {held' : List ℕ} (h : q.Owns heap held) (hp : held.Perm held') :
    q.Owns heap held' := ⟨h.toValid, h.owns.perm (hp.append_left _)⟩

/-- The array is there to be used. -/
theorem Owns.use_block (h : q.Owns heap held) : heap.use q.block = heap :=
  h.owns.use (List.mem_append_left _ List.mem_cons_self)

/-- Writing the first free place leaves the packets in the queue. -/
theorem cells_update_tail (h : q.Valid) (hroom : q.count < q.capacity) (p : QueuedPacket) :
    cells q.capacity (Function.update q.packets q.tail p) q.head q.count = q.contents := by
  have happend : cells q.capacity (Function.update q.packets q.tail p) q.head (q.count + 1) =
      q.contents ++ [p] := by
    rw [h.tail_eq]
    exact cells_update hroom p
  rw [← cells_take (Nat.le_succ q.count), happend]
  exact List.take_left' q.length_contents

/-- What `packet_queue_push` does: it waits on a full queue; or it returns `false`, with the packets
as they were; or it appends the packet. -/
theorem push_cases (h : q.Owns heap held) (malloc : Bool) (x : PacketData) :
    (q.push heap malloc x = none ∧ q.count = q.capacity ∧ q.finished = false) ∨
      (∃ q', q.push heap malloc x = some (false, q', heap) ∧ q'.Owns heap held ∧
        q'.contents = q.contents ∧ q'.finished = q.finished ∧ q'.capacity = q.capacity ∧
        (q.finished = true ∨ malloc = false ∧ q.count < q.capacity)) ∨
      (∃ q', q.push heap malloc x = some (true, q', heap.malloc) ∧ q'.Owns heap.malloc held ∧
        q'.contents = q.contents ++ [⟨some heap.next, x⟩] ∧ q'.finished = q.finished ∧
        q'.capacity = q.capacity ∧ q.finished = false ∧ malloc = true ∧ q.count < q.capacity) := by
  have htail := cells_update_tail h.toValid
  rw [push, h.use_block]
  split_ifs with hfull hfinished hmalloc
  · exact Or.inl ⟨rfl, le_antisymm h.count_le hfull.1, hfull.2⟩
  · exact Or.inr (Or.inl ⟨q, rfl, h, rfl, rfl, rfl, Or.inl hfinished⟩)
  · rw [Bool.not_eq_true] at hfinished
    have hroom : q.count < q.capacity := not_le.1 fun hle => hfull ⟨hle, hfinished⟩
    refine Or.inr (Or.inl ⟨_, rfl, ?_, htail hroom _, rfl, rfl,
      Or.inr ⟨hmalloc, hroom⟩⟩)
    refine ⟨⟨h.capacity_pos, h.head_lt, h.count_le, h.tail_eq, ?_⟩, ?_⟩
    · rw [contents, htail hroom]
      exact h.data_isSome
    · rw [contents, htail hroom]
      exact h.owns
  · rw [Bool.not_eq_true] at hfinished
    rw [Bool.not_eq_false] at hmalloc
    have hroom : q.count < q.capacity := not_le.1 fun hle => hfull ⟨hle, hfinished⟩
    have hcontents : cells q.capacity (Function.update q.packets q.tail ⟨some heap.next, x⟩) q.head
        (q.count + 1) = q.contents ++ [⟨some heap.next, x⟩] := by
      rw [h.tail_eq]
      exact cells_update hroom _
    refine Or.inr (Or.inr ⟨_, rfl, ?_, hcontents, rfl, rfl, hfinished, hmalloc,
      hroom⟩)
    refine ⟨⟨h.capacity_pos, h.head_lt, hroom, ?_, ?_⟩, ?_⟩
    · simp only [h.tail_eq, Nat.mod_add_mod, Nat.add_assoc]
    · rw [contents, hcontents]
      intro p hp
      rcases List.mem_append.1 hp with hold | hnew
      · exact h.data_isSome p hold
      · rw [List.mem_singleton.1 hnew]
        rfl
    · rw [contents, hcontents, blocks_append]
      apply h.owns.malloc.perm
      simp only [blocks, List.filterMap_cons, List.filterMap_nil, List.cons_append,
        List.append_assoc, List.nil_append]
      exact (List.Perm.swap ..).trans (List.perm_middle.symm.cons _)

/-- What `packet_queue_pop` does: it waits on an empty queue; or it returns `false`; or it takes the
oldest packet, whose block is the caller's from then on. -/
theorem pop_cases (h : q.Owns heap held) :
    (q.pop heap = none ∧ q.contents = [] ∧ q.finished = false) ∨
      (q.pop heap = some (none, q, heap) ∧ q.contents = [] ∧ q.finished = true) ∨
      (∃ p rest q', q.pop heap = some (some p, q', heap) ∧ q.contents = p :: rest ∧
        q'.contents = rest ∧ q'.Owns heap (p.data.toList ++ held) ∧ q'.finished = q.finished ∧
        q'.capacity = q.capacity) := by
  have hempty (hcount : q.count = 0) : q.contents = [] := by
    rw [contents, hcount, cells_zero]
  rw [pop, h.use_block]
  split_ifs with hwait hreturn
  · exact Or.inl ⟨rfl, hempty hwait.1, hwait.2⟩
  · refine Or.inr (Or.inl ⟨rfl, hempty hreturn, ?_⟩)
    rw [← Bool.not_eq_false]
    exact fun hf => hwait ⟨hreturn, hf⟩
  · obtain ⟨n, hcount⟩ := Nat.exists_eq_succ_of_ne_zero hreturn
    have hcons : q.contents = q.packets q.head ::
        cells q.capacity q.packets ((q.head + 1) % q.capacity) (q.count - 1) := by
      rw [contents, hcount, cells_succ, Nat.mod_eq_of_lt h.head_lt]
      rfl
    have hle := h.count_le
    have hdata := h.data_isSome
    have howns := h.owns
    rw [hcons] at hdata howns
    refine Or.inr (Or.inr ⟨_, _, _, rfl, hcons, rfl, ?_, rfl, rfl⟩)
    refine ⟨⟨h.capacity_pos, Nat.mod_lt _ h.capacity_pos, by simp only; omega, ?_, ?_⟩, ?_⟩
    · simp only [h.tail_eq, hcount, Nat.mod_add_mod, Nat.succ_sub_one]
      rw [Nat.add_assoc, Nat.add_comm 1]
    · exact fun p hp => hdata p (List.mem_cons_of_mem _ hp)
    · apply howns.perm
      obtain ⟨b, hb⟩ := Option.isSome_iff_exists.1 (hdata _ List.mem_cons_self)
      simp only [blocks, List.filterMap_cons, hb, Option.toList_some, contents]
      exact (List.perm_middle.symm).cons _

/-- The blocks of the packets, freed one after the other. -/
theorem owns_free_packets {block : ℕ} (packets : List QueuedPacket)
    (ho : heap.Owns (block :: blocks packets ++ held)) :
    (packets.foldl (fun heap p => (heap.use block).freePtr p.data) heap).Owns (block :: held) := by
  induction packets generalizing heap with
  | nil => exact ho
  | cons p packets ih =>
    rw [List.foldl_cons]
    apply ih
    rw [ho.use (List.mem_append_left _ List.mem_cons_self)]
    apply Heap.Owns.freePtr
    apply ho.perm
    cases hdata : p.data with
    | none => simp [blocks, hdata]
    | some b =>
      simp only [blocks, List.filterMap_cons, hdata, Option.toList_some, List.cons_append,
        List.nil_append]
      exact List.Perm.swap ..

/-- `packet_queue_destroy` frees what is in the queue and the array, and nothing else. -/
theorem owns_destroy (h : q.Owns heap held) : (q.destroy heap).Owns held := by
  have hfold := owns_free_packets q.contents h.owns
  rw [contents, cells, List.foldl_map] at hfold
  exact hfold.free

end PacketQueue

/-! ## The threads -/

/-- The queue, the heap, and the threads in their calls or asleep on the condition variable. -/
structure PacketThreads (τ : Type*) where
  queue : PacketQueue
  heap : Heap
  call : τ → Option (Call PacketData)
  asleep : List τ

section

variable {τ : Type*} [DecidableEq τ]

/-- The call that a thread is awake in. -/
def PacketThreads.running (s : PacketThreads τ) (t : τ) : Option (Call PacketData) :=
  if t ∈ s.asleep then none else s.call t

/-- The locked section of `packet_queue_push` or `packet_queue_pop`: a thread that waits gives the
mutex up and sleeps, and one that pushed or popped signals. -/
def packetAttempt (s : PacketThreads τ) (t : τ) (malloc : Bool) (pick : ℕ) :
    Call PacketData → PacketThreads τ
  | .push x =>
      match s.queue.push s.heap malloc x with
      | none => { s with asleep := t :: s.asleep }
      | some (pushed, queue, heap) =>
          ⟨queue, heap, Function.update s.call t none,
            if pushed then signal s.asleep pick else s.asleep⟩
  | .pop =>
      match s.queue.pop s.heap with
      | none => { s with asleep := t :: s.asleep }
      | some (packet, queue, heap) =>
          ⟨queue, heap, Function.update s.call t none,
            if packet.isSome then signal s.asleep pick else s.asleep⟩

/-- One step of the threads. `packet_queue_finish` wakes everybody. -/
def packetStep (s : PacketThreads τ) : Op τ PacketData → PacketThreads τ
  | .enter t c =>
      if s.call t = none then { s with call := Function.update s.call t (some c) } else s
  | .attempt t malloc pick =>
      match s.running t with
      | none => s
      | some c => packetAttempt s t malloc pick c
  | .finish => { s with queue := s.queue.finish, asleep := [] }
  | .wake t => { s with asleep := s.asleep.erase t }

/-- The packet of a push that returns `true`. -/
def packetAccepts (s : PacketThreads τ) : Op τ PacketData → List PacketData
  | .attempt t malloc _ =>
      match s.running t with
      | some (.push x) =>
          match s.queue.push s.heap malloc x with
          | some (true, _, _) => [x]
          | _ => []
      | _ => []
  | _ => []

/-- The packet that a pop returns. -/
def packetDelivers (s : PacketThreads τ) : Op τ PacketData → List QueuedPacket
  | .attempt t _ _ =>
      match s.running t with
      | some .pop =>
          match s.queue.pop s.heap with
          | some (some p, _, _) => [p]
          | _ => []
      | _ => []
  | _ => []

/-! ## What the queue is -/

/-- The threads at a bounded buffer of what was sent. -/
def PacketThreads.abs (s : PacketThreads τ) : State τ PacketData :=
  ⟨s.queue.contents.map (·.sent), s.queue.finished, s.call, s.asleep⟩

variable {s : PacketThreads τ} {held : List ℕ}

/-- What one step does to the queue and to the buffer that it is. -/
structure Refines (s s' : PacketThreads τ) (op : Op τ PacketData) (held : List ℕ) : Prop where
  abs : s'.abs = step s.queue.capacity s.abs op
  capacity : s'.queue.capacity = s.queue.capacity
  owns : s'.queue.Owns s'.heap (PacketQueue.blocks (packetDelivers s op) ++ held)
  accepts : packetAccepts s op = accepts s.queue.capacity s.abs op
  delivers : (packetDelivers s op).map (·.sent) = delivers s.abs op
  data_isSome : ∀ p ∈ packetDelivers s op, p.data.isSome

omit [DecidableEq τ] in
@[simp] theorem PacketThreads.length_abs (s : PacketThreads τ) :
    s.abs.queued.length = s.queue.count := by simp [abs]

theorem refines_push (h : s.queue.Owns s.heap held) {t : τ} {x : PacketData} (malloc : Bool)
    (pick : ℕ) (ht : s.running t = some (.push x)) :
    Refines s (packetAttempt s t malloc pick (.push x)) (.attempt t malloc pick) held := by
  have hrunning : s.abs.running t = some (.push x) := ht
  obtain ⟨hpush, hfull, hopen⟩ | ⟨q', hpush, howns, hcontents, hfinished, hcapacity, hfails⟩ |
    ⟨q', hpush, howns, hcontents, hfinished, hcapacity, hopen, rfl, hroom⟩ :=
    PacketQueue.push_cases h malloc x
  · have hwait : s.queue.capacity ≤ s.abs.queued.length ∧ s.abs.finished = false := by
      rw [s.length_abs, hfull]
      exact ⟨le_rfl, hopen⟩
    constructor
    · simp only [packetAttempt, hpush, step, hrunning, attempt, if_pos hwait]
      rfl
    · simp only [packetAttempt, hpush]
    · simpa only [packetAttempt, packetDelivers, ht, hpush, PacketQueue.blocks_nil,
        List.nil_append] using h
    · simp only [packetAccepts, accepts, ht, hrunning, hpush]
      rw [if_pos (Or.inl hwait.1)]
    · simp only [packetDelivers, delivers, ht, hrunning, List.map_nil]
    · simp only [packetDelivers, ht, List.not_mem_nil, false_implies, implies_true]
  · have hgo : ¬ (s.queue.capacity ≤ s.abs.queued.length ∧ s.abs.finished = false) := by
      rw [s.length_abs]
      rintro ⟨hle, hopen⟩
      rcases hfails with hf | ⟨-, hroom⟩
      · exact absurd (hf.symm.trans hopen) (by decide)
      · exact absurd hle (not_le.2 hroom)
    have hreturn : s.abs.finished = true ∨ malloc = false := hfails.imp_right And.left
    constructor
    · simp only [packetAttempt, hpush, step, hrunning, attempt, if_neg hgo, if_pos hreturn]
      simp [PacketThreads.abs, State.leave, hcontents, hfinished]
    · simp only [packetAttempt, hpush, hcapacity]
    · simpa only [packetAttempt, packetDelivers, ht, hpush, PacketQueue.blocks_nil,
        List.nil_append] using howns
    · simp only [packetAccepts, accepts, ht, hrunning, hpush]
      rw [if_pos (Or.inr hreturn)]
    · simp only [packetDelivers, delivers, ht, hrunning, List.map_nil]
    · simp only [packetDelivers, ht, List.not_mem_nil, false_implies, implies_true]
  · have hgo : ¬ (s.queue.capacity ≤ s.abs.queued.length ∧ s.abs.finished = false) := by
      rw [s.length_abs]
      exact fun hfull => absurd hfull.1 (not_le.2 hroom)
    have hstays : ¬ (s.abs.finished = true ∨ true = false) := by
      rintro (hf | hf)
      · exact absurd (hopen.symm.trans hf) (by decide)
      · cases hf
    constructor
    · simp only [packetAttempt, hpush, step, hrunning, attempt, if_neg hgo, if_neg hstays]
      simp [PacketThreads.abs, State.leave, hcontents, hfinished]
    · simp only [packetAttempt, hpush, hcapacity]
    · simpa only [packetAttempt, packetDelivers, ht, hpush, PacketQueue.blocks_nil,
        List.nil_append] using howns
    · simp only [packetAccepts, accepts, ht, hrunning, hpush]
      rw [if_neg]
      rintro (hle | hreturn)
      · exact absurd (s.length_abs ▸ hle) (not_le.2 hroom)
      · exact hstays hreturn
    · simp only [packetDelivers, delivers, ht, hrunning, List.map_nil]
    · simp only [packetDelivers, ht, List.not_mem_nil, false_implies, implies_true]

theorem refines_pop (h : s.queue.Owns s.heap held) {t : τ} (malloc : Bool) (pick : ℕ)
    (ht : s.running t = some .pop) :
    Refines s (packetAttempt s t malloc pick .pop) (.attempt t malloc pick) held := by
  have hrunning : s.abs.running t = some .pop := ht
  obtain ⟨hpop, hempty, hopen⟩ | ⟨hpop, hempty, hfinished⟩ |
    ⟨p, rest, q', hpop, hcons, hrest, howns, hfinished, hcapacity⟩ := PacketQueue.pop_cases h
  · have hnone : s.abs.queued = [] := by rw [PacketThreads.abs, hempty, List.map_nil]
    have hwait : s.abs.queued.length = 0 ∧ s.abs.finished = false := ⟨by rw [hnone]; rfl, hopen⟩
    constructor
    · simp only [packetAttempt, hpop, step, hrunning, attempt, if_pos hwait]
      rfl
    · simp only [packetAttempt, hpop]
    · simpa only [packetAttempt, packetDelivers, ht, hpop, PacketQueue.blocks_nil,
        List.nil_append] using h
    · simp only [packetAccepts, accepts, ht, hrunning]
    · simp only [packetDelivers, delivers, ht, hrunning, hpop, hnone, List.map_nil, List.take_nil]
    · simp only [packetDelivers, ht, hpop, List.not_mem_nil, false_implies, implies_true]
  · have hnone : s.abs.queued = [] := by rw [PacketThreads.abs, hempty, List.map_nil]
    have hgo : ¬ (s.abs.queued.length = 0 ∧ s.abs.finished = false) := fun hwait =>
      absurd (hfinished.symm.trans hwait.2) (by decide)
    have hzero : s.abs.queued.length = 0 := by rw [hnone]; rfl
    constructor
    · simp only [packetAttempt, hpop, step, hrunning, attempt, if_neg hgo, if_pos hzero]
      rfl
    · simp only [packetAttempt, hpop]
    · simpa only [packetAttempt, packetDelivers, ht, hpop, PacketQueue.blocks_nil,
        List.nil_append] using h
    · simp only [packetAccepts, accepts, ht, hrunning]
    · simp only [packetDelivers, delivers, ht, hrunning, hpop, hnone, List.map_nil, List.take_nil]
    · simp only [packetDelivers, ht, hpop, List.not_mem_nil, false_implies, implies_true]
  · have hsome : s.abs.queued = p.sent :: rest.map (·.sent) := by
      rw [PacketThreads.abs, hcons, List.map_cons]
    have hpos : ¬ s.abs.queued.length = 0 := by rw [hsome]; exact Nat.succ_ne_zero _
    constructor
    · simp only [packetAttempt, hpop, step, hrunning, attempt,
        if_neg fun hwait : _ ∧ _ => hpos hwait.1, if_neg hpos]
      simp [PacketThreads.abs, State.leave, hrest, hfinished, hcons]
    · simp only [packetAttempt, hpop, hcapacity]
    · have hblocks : PacketQueue.blocks [p] = p.data.toList := by
        cases hdata : p.data <;> simp [PacketQueue.blocks, hdata]
      simpa only [packetAttempt, packetDelivers, ht, hpop, hblocks] using howns
    · simp only [packetAccepts, accepts, ht, hrunning]
    · simp only [packetDelivers, delivers, ht, hrunning, hpop, hsome, List.map_cons, List.map_nil,
        List.take_succ_cons, List.take_zero]
    · simp only [packetDelivers, ht, hpop, List.mem_singleton, forall_eq]
      exact h.data_isSome p (hcons ▸ List.mem_cons_self)

/-- Every step of the threads is a step at the bounded buffer. -/
theorem refines_step (h : s.queue.Owns s.heap held) (op : Op τ PacketData) :
    Refines s (packetStep s op) op held := by
  cases op with
  | enter t c =>
    simp only [packetStep]
    split_ifs with hcall
    · refine ⟨?_, rfl, h, rfl, rfl, by simp [packetDelivers]⟩
      exact (if_pos hcall).symm
    · refine ⟨?_, rfl, h, rfl, rfl, by simp [packetDelivers]⟩
      exact (if_neg hcall).symm
  | attempt t malloc pick =>
    simp only [packetStep]
    match hrunning : s.running t with
    | none =>
      have habs : s.abs.running t = none := hrunning
      constructor
      · simp only [step, habs]
      · rfl
      · simpa only [packetDelivers, hrunning, PacketQueue.blocks_nil,
        List.nil_append] using h
      · simp only [packetAccepts, accepts, hrunning, habs]
      · simp only [packetDelivers, delivers, hrunning, habs, List.map_nil]
      · simp only [packetDelivers, hrunning, List.not_mem_nil, false_implies, implies_true]
    | some (.push x) => exact refines_push h malloc pick hrunning
    | some .pop => exact refines_pop h malloc pick hrunning
  | finish =>
    have hvalid : s.queue.finish.Valid :=
      ⟨h.capacity_pos, h.head_lt, h.count_le, h.tail_eq, h.data_isSome⟩
    exact ⟨rfl, rfl, ⟨hvalid, h.owns⟩, rfl, rfl, by simp [packetDelivers]⟩
  | wake t => exact ⟨rfl, rfl, h, rfl, rfl, by simp [packetDelivers]⟩

/-- Every run of the threads is a run at the bounded buffer. -/
theorem refines_run (h : s.queue.Owns s.heap held) (ops : List (Op τ PacketData)) :
    let s' := Runs.final packetStep s ops
    let delivered := Runs.emits packetStep packetDelivers s ops
    s'.abs = Runs.final (step s.queue.capacity) s.abs ops ∧
      s'.queue.capacity = s.queue.capacity ∧
      s'.queue.Owns s'.heap (PacketQueue.blocks delivered ++ held) ∧
      Runs.emits packetStep packetAccepts s ops =
        Runs.emits (step s.queue.capacity) (accepts s.queue.capacity) s.abs ops ∧
      delivered.map (·.sent) = Runs.emits (step s.queue.capacity) delivers s.abs ops ∧
      ∀ p ∈ delivered, p.data.isSome := by
  induction ops using List.reverseRecOn with
  | nil => exact ⟨rfl, rfl, h, rfl, rfl, by simp⟩
  | append_singleton ops op ih =>
    obtain ⟨habs, hcapacity, howns, haccepts, hdelivers, hdata⟩ := ih
    have hstep := refines_step howns op
    simp only [Runs.final_append_singleton, Runs.emits_append_singleton, List.map_append]
    refine ⟨?_, hstep.capacity.trans hcapacity, ?_, ?_, ?_, ?_⟩
    · rw [hstep.abs, habs, hcapacity]
    · apply hstep.owns.perm
      rw [PacketQueue.blocks_append, ← List.append_assoc]
      exact List.perm_append_comm.append_right held
    · rw [haccepts, hstep.accepts, habs, hcapacity]
    · rw [hdelivers, hstep.delivers, habs]
    · intro p hp
      exact (List.mem_append.1 hp).elim (hdata p) (hstep.data_isSome p)

end

/-! ## What holds of every run -/

section

variable {τ : Type*} [DecidableEq τ]

/-- Threads that are in no call yet. -/
def packetThreads (queue : PacketQueue) (heap : Heap) : PacketThreads τ :=
  ⟨queue, heap, fun _ => none, []⟩

/-- Whatever the threads do, the packets come out of the queue in the order in which they went in,
each once, with the bytes that were sent and a block of their own, and there are never more than the
queue has places; and a queue that is destroyed leaves just the blocks of the packets that it has
handed out, beside those that it never owned. -/
theorem packetQueue_safe {calloc : Bool} {heap₀ heap : Heap} {capacity : ℕ} {queue : PacketQueue}
    {held : List ℕ} (hcap : 0 < capacity) (hheld : heap₀.Owns held)
    (hinit : packetQueueInit calloc heap₀ capacity = some (queue, heap))
    (ops : List (Op τ PacketData)) :
    let s := Runs.final packetStep (packetThreads queue heap) ops
    let accepted := Runs.emits packetStep packetAccepts (packetThreads queue heap) ops
    let delivered := Runs.emits packetStep packetDelivers (packetThreads queue heap) ops
    (delivered ++ s.queue.contents).map (·.sent) = accepted ∧
      s.queue.contents.length ≤ capacity ∧
      (∀ p ∈ delivered, p.data.isSome) ∧
      s.heap.Owns (s.queue.block :: PacketQueue.blocks s.queue.contents ++
        (PacketQueue.blocks delivered ++ held)) ∧
      (s.queue.destroy s.heap).Owns (PacketQueue.blocks delivered ++ held) := by
  obtain ⟨howns₀, hempty, -, rfl⟩ := PacketQueue.owns_init hcap hheld hinit
  obtain ⟨habs, hcapacity, howns, haccepts, hdelivers, hdata⟩ :=
    refines_run (s := packetThreads queue heap) howns₀ ops
  refine ⟨?_, ?_, hdata, howns.owns, PacketQueue.owns_destroy howns⟩
  · have hqueued := delivers_append_queued queue.capacity
      (packetThreads queue heap).abs ops
    have hnone : (packetThreads (τ := τ) queue heap).abs.queued = [] := by
      show queue.contents.map _ = []
      rw [hempty, List.map_nil]
    rw [hnone, List.nil_append] at hqueued
    rw [List.map_append, hdelivers, haccepts]
    exact (congrArg (_ ++ ·) (congrArg State.queued habs)).trans hqueued
  · rw [PacketQueue.length_contents]
    exact howns.count_le.trans_eq hcapacity

/-- A packet of two bytes is pushed and popped, by two threads at a queue of one place. -/
def pushPopRun : List (Op Bool PacketData) :=
  [.enter false .pop, .attempt false true 0, .enter true (.push ⟨[7, 8], 2, 0, rfl⟩),
    .attempt true true 0, .attempt false true 0]

/-- A queue of one place, just made. -/
def onePlace : PacketQueue := ⟨fun _ => ⟨none, [], 0, 0, rfl⟩, 0, 1, 0, 0, 0, false⟩

theorem onePlace_init : packetQueueInit true .init 1 = some (onePlace, Heap.init.malloc) := rfl

theorem packetQueue_safe_pushPop :
    (Runs.final packetStep (packetThreads onePlace Heap.init.malloc) pushPopRun).heap.freed = [] ∧
      ((Runs.final packetStep (packetThreads onePlace Heap.init.malloc) pushPopRun).queue.destroy
        (Runs.final packetStep (packetThreads onePlace Heap.init.malloc) pushPopRun).heap).Owns
          [1] :=
  ⟨rfl, (packetQueue_safe Nat.one_pos Heap.owns_init onePlace_init pushPopRun).2.2.2.2⟩

theorem PacketQueue.isSome_push {q : PacketQueue} (h : q.count < q.capacity) (heap : Heap)
    (malloc : Bool) (x : PacketData) : (q.push heap malloc x).isSome := by
  rw [push, if_neg fun hfull => absurd hfull.1 (not_le.2 h)]
  split_ifs <;> rfl

theorem PacketQueue.isSome_pop {q : PacketQueue} (h : 0 < q.count) (heap : Heap) :
    (q.pop heap).isSome := by
  rw [pop, if_neg fun hempty => absurd hempty.1 h.ne', if_neg h.ne']
  rfl

omit [DecidableEq τ] in
theorem abs_packetThreads {queue : PacketQueue} (heap : Heap) (hempty : queue.contents = [])
    (hopen : queue.finished = false) :
    (packetThreads queue heap : PacketThreads τ).abs = State.init := by
  simp only [packetThreads, PacketThreads.abs, hempty, hopen, List.map_nil]
  rfl

/-- A thread of the role would not have to wait for what it does. -/
def PacketQueue.Admits (q : PacketQueue) (heap : Heap) : Role → Prop
  | .producer => ∀ malloc x, (q.push heap malloc x).isSome
  | .consumer => (q.pop heap).isSome

/-- Producers and consumers, of each at least one, share a queue. With at most two threads for each
place of the queue somebody who is awake can go on after every run. With more there is a run,
without failures and without a wake-up that nobody signalled, that leaves all of them asleep: the
one condition variable hands signals for producers to consumers, and the other way round. -/
theorem packetQueue_progress [Fintype τ] {calloc : Bool} {heap₀ heap : Heap} {capacity : ℕ}
    {queue : PacketQueue} {held : List ℕ} (role : τ → Role) (hcap : 0 < capacity)
    (hheld : heap₀.Owns held)
    (hinit : packetQueueInit calloc heap₀ capacity = some (queue, heap))
    (hproducer : ∃ t, role t = .producer) (hconsumer : ∃ t, role t = .consumer) :
    (Fintype.card τ ≤ 2 * capacity → ∀ ops : List (Op τ PacketData), (∀ op ∈ ops, Fits role op) →
      let s := Runs.final packetStep (packetThreads queue heap) ops
      ∃ t, t ∉ s.asleep ∧ s.queue.Admits s.heap (role t)) ∧
    (2 * capacity < Fintype.card τ → ∃ ops : List (Op τ PacketData),
      (∀ op ∈ ops, Fits role op ∧ op.Plain) ∧
      ∀ t, t ∈ (Runs.final packetStep (packetThreads queue heap) ops).asleep) := by
  obtain ⟨howns₀, hempty, hopen, rfl⟩ := PacketQueue.owns_init hcap hheld hinit
  have habs (ops : List (Op τ PacketData)) :
      (Runs.final packetStep (packetThreads queue heap) ops).abs =
        Runs.final (step queue.capacity) State.init ops := by
    rw [← abs_packetThreads heap hempty hopen]
    exact (refines_run howns₀ ops).1
  have hp := threads_pos hproducer
  have hc := threads_pos hconsumer
  constructor
  · intro hfew ops hfit s
    rw [← threads_add role] at hfew
    obtain ⟨t, ht, hgo⟩ := goesOn_of_few hcap hp hc hfew hfit
    rw [← habs] at ht hgo
    have hcapacity : s.queue.capacity = queue.capacity := (refines_run howns₀ ops).2.1
    refine ⟨t, ht, ?_⟩
    rcases hgo with ⟨hrole, hroom⟩ | ⟨hrole, hsome⟩
    · rw [hrole]
      refine PacketQueue.isSome_push ?_ _
      rw [hcapacity]
      exact s.length_abs ▸ hroom
    · rw [hrole]
      refine PacketQueue.isSome_pop ?_ _
      rw [← s.length_abs]
      exact List.length_pos_iff.2 hsome
  · intro hmany
    rw [← threads_add role] at hmany
    obtain ⟨ops, hplain, hasleep⟩ := asleep_of_many hcap hp hc hmany (⟨[], 0, 0, rfl⟩ : PacketData)
    refine ⟨ops, hplain, fun t => ?_⟩
    have ht := hasleep t
    rw [← habs] at ht
    exact ht

/-- A producer and a consumer at one place; and with a second consumer they can all fall asleep. -/
theorem packetQueue_progress_onePlace :
    (∃ t, t ∉ (Runs.final packetStep (packetThreads onePlace Heap.init.malloc) pushPopRun).asleep ∧
      (Runs.final packetStep (packetThreads onePlace Heap.init.malloc) pushPopRun).queue.Admits
        (Runs.final packetStep (packetThreads onePlace Heap.init.malloc) pushPopRun).heap
        (if t then .producer else .consumer)) ∧
    ∃ ops : List (Op (Fin 3) PacketData),
      ∀ t, t ∈ (Runs.final packetStep (packetThreads onePlace Heap.init.malloc) ops).asleep := by
  constructor
  · have h := packetQueue_progress (fun t : Bool => if t then .producer else .consumer)
      Nat.one_pos Heap.owns_init onePlace_init ⟨true, rfl⟩ ⟨false, rfl⟩
    exact h.1 (by decide) pushPopRun (by simp [pushPopRun, Fits, Call.role])
  · have h := packetQueue_progress (fun t : Fin 3 => if t = 0 then .producer else .consumer)
      Nat.one_pos Heap.owns_init onePlace_init ⟨0, rfl⟩ ⟨1, rfl⟩
    obtain ⟨ops, -, hasleep⟩ := h.2 (by decide)
    exact ⟨ops, hasleep⟩

end

end Autoscrcpy
