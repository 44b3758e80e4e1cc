import Autoscrcpy.Lib.Heap
import Autoscrcpy.Lib.Runs
import Mathlib.Data.List.DropRight
import Mathlib.Data.List.ReduceOption

/-!
# The REPL window

`repl_window_t`: a line that is entered is copied into the history and handed to `eval_cb`, and the
arrow keys put lines of the history back into the input. A full history gives up its oldest line.

Whatever the user does, the history is the last hundred of the lines that were remembered, its
blocks are its own and are freed once (`repl_history`), and the arrow keys go round it, one line for
each key (`repl_recall`).
-/

namespace Autoscrcpy

abbrev REPL_MAX_HISTORY : ℕ := 100

abbrev REPL_MAX_INPUT : ℕ := 4096

/-- A line in a block of its own. -/
structure HistoryLine where
  block : ℕ
  text : List UInt8
  deriving DecidableEq, Repr

/-- `repl_window_t`; `inputText` is the text of its input control, without the terminator. A pointer
of the history that is not null points to a line. -/
structure ReplWindow where
  visible : Bool
  initialized : Bool
  inputText : List UInt8
  history : ℕ → Option HistoryLine
  historyCount : ℕ
  historyPos : ℤ

/-- `repl_window_init`, when it succeeds. -/
def replWindowInit : ReplWindow := ⟨false, true, [], fun _ => none, 0, 0⟩

namespace ReplWindow

/-- The pointers of the history, oldest line first. -/
def lines (win : ReplWindow) : List (Option HistoryLine) :=
  (List.range win.historyCount).map win.history

/-- `_strdup`. -/
def strdup (ok : Bool) (heap : Heap) (text : List UInt8) : Option HistoryLine × Heap :=
  if ok then (some ⟨heap.next, text⟩, heap.malloc) else (none, heap)

/-- The array after its `memmove` by one. -/
def shifted (history : ℕ → Option HistoryLine) : ℕ → Option HistoryLine := fun i =>
  if i < REPL_MAX_HISTORY - 1 then history (i + 1) else history i

/-- `repl_execute_input`: the window, the heap, and the line that is echoed and evaluated, if
any. -/
def executeInput (win : ReplWindow) (heap : Heap) (ok : Bool) :
    ReplWindow × Heap × Option (List UInt8) :=
  let buf := win.inputText.take (REPL_MAX_INPUT - 1)
  if buf.length = 0 then (win, heap, none)
  else if win.historyCount < REPL_MAX_HISTORY then
    let (line, heap) := strdup ok heap buf
    let win := { win with history := Function.update win.history win.historyCount line }
    if line.isNone then (win, heap, none)
    else
      let count := win.historyCount + 1
      ({ win with historyCount := count, historyPos := count, inputText := [] }, heap, some buf)
  else
    let heap := heap.freePtr ((win.history 0).map (·.block))
    let (line, heap) := strdup ok heap buf
    let win := { win with
      history := Function.update (shifted win.history) (REPL_MAX_HISTORY - 1) line }
    if line.isNone then (win, heap, none)
    else ({ win with historyPos := win.historyCount, inputText := [] }, heap, some buf)

/-- `SetWindowTextA` with a line of the history; without one the text is empty. -/
def showLine (win : ReplWindow) : ReplWindow :=
  { win with inputText := ((win.history win.historyPos.toNat).map (·.text)).getD [] }

/-- `VK_UP` and `VK_DOWN` in `repl_input_subclass_proc`. -/
def arrow (win : ReplWindow) (up : Bool) : ReplWindow :=
  if win.historyCount = 0 then win
  else if up then
    let newPos := win.historyPos - 1
    let newPos := if newPos < 0 then (win.historyCount : ℤ) - 1 else newPos
    { win with historyPos := newPos }.showLine
  else
    let newPos := win.historyPos + 1
    let newPos := if newPos ≥ (win.historyCount : ℤ) then 0 else newPos
    { win with historyPos := newPos }.showLine

/-- `repl_window_hide`. -/
def hideWindow (win : ReplWindow) : ReplWindow :=
  if win.initialized = false then win else { win with visible := false }

/-- `repl_window_show`. -/
def showWindow (win : ReplWindow) : ReplWindow :=
  if win.initialized = false then win else { win with visible := true }

/-- `repl_window_toggle`. -/
def toggle (win : ReplWindow) : ReplWindow := if win.visible then win.hideWindow else win.showWindow

/-- `repl_window_destroy`. -/
def destroy (win : ReplWindow) (heap : Heap) : ReplWindow × Heap :=
  if win.initialized = false then (win, heap)
  else
    let heap := (List.range win.historyCount).foldl
      (fun heap i => heap.freePtr ((win.history i).map (·.block))) heap
    ({ win with
      history := fun i => if i < win.historyCount then none else win.history i
      historyCount := 0
      initialized := false }, heap)

end ReplWindow

/-- What the user does, with what `_strdup` returns where it is called. -/
inductive ReplOp where
  | edit (text : List UInt8)
  | enter (strdup : Bool)
  | arrow (up : Bool)
  | toggle
  | close
  deriving DecidableEq, Repr

structure ReplState where
  win : ReplWindow
  heap : Heap

def replStep (s : ReplState) : ReplOp → ReplState
  | .edit text => { s with win := { s.win with inputText := text } }
  | .enter ok => ⟨(s.win.executeInput s.heap ok).1, (s.win.executeInput s.heap ok).2.1⟩
  | .arrow up => { s with win := s.win.arrow up }
  | .toggle => { s with win := s.win.toggle }
  | .close => { s with win := s.win.hideWindow }

/-- The line that is echoed and handed to `eval_cb`. -/
def replExecutes (s : ReplState) : ReplOp → List (List UInt8)
  | .enter ok => (s.win.executeInput s.heap ok).2.2.toList
  | _ => []

/-- What a line leaves in the history: its copy; or nothing, when the copy fails; or, when it fails
in a full history, a null pointer. -/
def replRemembers (s : ReplState) : ReplOp → List (Option (List UInt8))
  | .enter ok =>
      let buf := s.win.inputText.take (REPL_MAX_INPUT - 1)
      if buf.length = 0 then []
      else if ok then [some buf]
      else if s.win.historyCount < REPL_MAX_HISTORY then [] else [none]
  | _ => []

/-! ## The history -/

namespace ReplWindow

/-- The last `n + 1` of a list, with one more. -/
def remember {α : Type*} (n : ℕ) (l : List α) (x : α) : List α :=
  (if l.length < n + 1 then l else l.tail) ++ [x]

theorem rtake_concat {α : Type*} (n : ℕ) (l : List α) (x : α) :
    (l ++ [x]).rtake (n + 1) = remember n (l.rtake (n + 1)) x := by
  have hlen : (l.rtake (n + 1)).length = min (n + 1) l.length := by
    rw [List.rtake, List.length_drop]
    omega
  rw [List.rtake_concat_succ, remember, hlen]
  congr 1
  split_ifs with hlt
  · rw [List.rtake, List.rtake, Nat.sub_eq_zero_of_le (by omega), Nat.sub_eq_zero_of_le (by omega)]
  · rw [List.rtake, List.rtake, List.tail_drop]
    congr 1
    omega

@[simp] theorem length_lines (win : ReplWindow) : win.lines.length = win.historyCount := by
  simp [lines]

/-- A pointer behind the others. -/
theorem lines_append (history : ℕ → Option HistoryLine) (n : ℕ) (line : Option HistoryLine) :
    (List.range (n + 1)).map (Function.update history n line) =
      (List.range n).map history ++ [line] := by
  rw [List.range_succ, List.map_append, List.map_singleton, Function.update_self]
  congr 1
  apply List.map_congr_left
  intro i hi
  exact Function.update_of_ne (List.mem_range.1 hi).ne _ _

/-- A pointer in the place of the last one, behind those moved by one. -/
theorem lines_shift (history : ℕ → Option HistoryLine) (line : Option HistoryLine) :
    (List.range REPL_MAX_HISTORY).map
        (Function.update (shifted history) (REPL_MAX_HISTORY - 1) line) =
      ((List.range REPL_MAX_HISTORY).map history).tail ++ [line] := by
  have htail : ((List.range REPL_MAX_HISTORY).map history).tail =
      (List.range (REPL_MAX_HISTORY - 1)).map fun i => history (i + 1) := by
    rw [show REPL_MAX_HISTORY = REPL_MAX_HISTORY - 1 + 1 from rfl, List.range_succ_eq_map,
      List.map_cons, List.tail_cons, List.map_map]
    rfl
  refine (lines_append (shifted history) (REPL_MAX_HISTORY - 1) line).trans ?_
  have hmoved : (List.range (REPL_MAX_HISTORY - 1)).map (shifted history) =
      (List.range (REPL_MAX_HISTORY - 1)).map fun i => history (i + 1) := by
    apply List.map_congr_left
    intro i hi
    exact if_pos (List.mem_range.1 hi)
  rw [htail, hmoved]

/-- The blocks of the lines. -/
def blocks (lines : List (Option HistoryLine)) : List ℕ := lines.reduceOption.map (·.block)

@[simp] theorem blocks_append (l l' : List (Option HistoryLine)) :
    blocks (l ++ l') = blocks l ++ blocks l' := by
  rw [blocks, List.reduceOption_append, List.map_append, blocks, blocks]

theorem blocks_cons (line : Option HistoryLine) (l : List (Option HistoryLine)) :
    blocks (line :: l) = (line.map (·.block)).toList ++ blocks l := by
  cases line <;> rfl

/-- The position is a line or behind the last one, and the history owns its blocks. -/
structure Owns (win : ReplWindow) (heap : Heap) (held : List ℕ) : Prop where
  initialized : win.initialized = true
  count_le : win.historyCount ≤ REPL_MAX_HISTORY
  pos_nonneg : 0 ≤ win.historyPos
  pos_le : win.historyPos ≤ win.historyCount
  owns : heap.Owns (blocks win.lines ++ held)

variable {win : ReplWindow} {heap : Heap} {held : List ℕ}

/-- `_strdup` makes a block for its copy. -/
theorem owns_strdup (ok : Bool) {lines : List (Option HistoryLine)} (text : List UInt8)
    (ho : heap.Owns (blocks lines ++ held)) :
    (strdup ok heap text).2.Owns (blocks (lines ++ [(strdup ok heap text).1]) ++ held) := by
  rw [blocks_append, strdup]
  split_ifs
  · apply ho.malloc.perm
    exact List.perm_middle.symm.trans (List.append_assoc _ _ _ ▸ .refl _)
  · simpa [blocks] using ho

/-- The oldest line of a full history is freed. -/
theorem owns_tail (ho : heap.Owns (blocks win.lines ++ held)) (hcount : 0 < win.historyCount) :
    (heap.freePtr ((win.history 0).map (·.block))).Owns (blocks win.lines.tail ++ held) := by
  obtain ⟨n, hn⟩ := Nat.exists_eq_add_of_lt hcount
  have hcons : win.lines = win.history 0 :: win.lines.tail := by
    rw [lines, hn, Nat.zero_add, List.range_succ_eq_map, List.map_cons, List.tail_cons]
  rw [hcons, blocks_cons, List.append_assoc] at ho
  exact ho.freePtr

theorem lines_update (win : ReplWindow) (line : Option HistoryLine) :
    (List.range win.historyCount).map (Function.update win.history win.historyCount line) =
      win.lines := by
  apply List.map_congr_left
  intro i hi
  exact Function.update_of_ne (List.mem_range.1 hi).ne _ _

/-- What entering a line comes to: nothing; or the copy fails in a full history, whose oldest line
is gone by then; or the line is the last one, and the position is behind it. -/
def Entered (win : ReplWindow) (buf : List UInt8) (ok : Bool)
    (r : ReplWindow × Heap × Option (List UInt8)) : Prop :=
  ((buf = [] ∨ ok = false ∧ win.historyCount < REPL_MAX_HISTORY) ∧ r.1.lines = win.lines ∧
      r.2.2 = none) ∨
    (buf ≠ [] ∧ ok = false ∧ win.historyCount = REPL_MAX_HISTORY ∧
      r.1.lines = win.lines.tail ++ [none] ∧ r.2.2 = none) ∨
    (buf ≠ [] ∧ ok = true ∧
      (∃ b, r.1.lines = remember (REPL_MAX_HISTORY - 1) win.lines (some ⟨b, buf⟩)) ∧
      r.1.historyPos = r.1.historyCount ∧ 0 < r.1.historyCount ∧ r.2.2 = some buf)

/-- Entering a line with room in the history. -/
theorem entered_of_room (h : win.Owns heap held) (ok : Bool)
    (hbuf : win.inputText.take (REPL_MAX_INPUT - 1) ≠ [])
    (hroom : win.historyCount < REPL_MAX_HISTORY) :
    (win.executeInput heap ok).1.Owns (win.executeInput heap ok).2.1 held ∧
      win.Entered (win.inputText.take (REPL_MAX_INPUT - 1)) ok (win.executeInput heap ok) := by
  have hne := mt List.length_eq_zero_iff.1 hbuf
  cases ok with
  | false =>
    have hr : win.executeInput heap false = ({ win with
        history := Function.update win.history win.historyCount none }, heap, none) := by
      rw [executeInput, if_neg hne, if_pos hroom]
      rfl
    have hlines := lines_update win none
    rw [hr]
    refine ⟨⟨h.initialized, h.count_le, h.pos_nonneg, h.pos_le, ?_⟩,
      Or.inl ⟨Or.inr ⟨rfl, hroom⟩, hlines, rfl⟩⟩
    rw [lines, hlines]
    exact h.owns
  | true =>
    have hr : win.executeInput heap true = ({ win with
        history := Function.update win.history win.historyCount
          (some ⟨heap.next, win.inputText.take (REPL_MAX_INPUT - 1)⟩)
        historyCount := win.historyCount + 1
        historyPos := (win.historyCount + 1 : ℕ)
        inputText := [] }, heap.malloc, some (win.inputText.take (REPL_MAX_INPUT - 1))) := by
      rw [executeInput, if_neg hne, if_pos hroom]
      rfl
    have hlines := lines_append win.history win.historyCount
      (some ⟨heap.next, win.inputText.take (REPL_MAX_INPUT - 1)⟩)
    rw [hr]
    refine ⟨⟨h.initialized, hroom, Int.natCast_nonneg _, le_rfl, ?_⟩,
      Or.inr (Or.inr ⟨hbuf, rfl, ⟨heap.next, ?_⟩, rfl, Nat.succ_pos _, rfl⟩)⟩
    · rw [lines, hlines]
      exact owns_strdup true _ h.owns
    · rw [remember, if_pos (by rw [length_lines]; exact hroom)]
      exact hlines

/-- Entering a line with a full history. -/
theorem entered_of_full (h : win.Owns heap held) (ok : Bool)
    (hbuf : win.inputText.take (REPL_MAX_INPUT - 1) ≠ [])
    (hfull : win.historyCount = REPL_MAX_HISTORY) :
    (win.executeInput heap ok).1.Owns (win.executeInput heap ok).2.1 held ∧
      win.Entered (win.inputText.take (REPL_MAX_INPUT - 1)) ok (win.executeInput heap ok) := by
  have hne := mt List.length_eq_zero_iff.1 hbuf
  have hroom : ¬ win.historyCount < REPL_MAX_HISTORY := hfull.not_lt
  have hpos : 0 < win.historyCount := by
    rw [hfull]
    exact Nat.zero_lt_succ _
  have howns := owns_tail h.owns hpos
  have hlines (line : Option HistoryLine) : (List.range win.historyCount).map
      (Function.update (shifted win.history) (REPL_MAX_HISTORY - 1) line) =
        win.lines.tail ++ [line] := by
    rw [lines, hfull]
    exact lines_shift win.history line
  cases ok with
  | false =>
    have hr : win.executeInput heap false = ({ win with
        history := Function.update (shifted win.history) (REPL_MAX_HISTORY - 1) none },
        heap.freePtr ((win.history 0).map (·.block)), none) := by
      rw [executeInput, if_neg hne, if_neg hroom]
      rfl
    rw [hr]
    refine ⟨⟨h.initialized, h.count_le, h.pos_nonneg, h.pos_le, ?_⟩,
      Or.inr (Or.inl ⟨hbuf, rfl, hfull, hlines none, rfl⟩)⟩
    rw [lines, hlines]
    exact owns_strdup false [] howns
  | true =>
    have hr : win.executeInput heap true = ({ win with
        history := Function.update (shifted win.history) (REPL_MAX_HISTORY - 1)
          (some ⟨(heap.freePtr ((win.history 0).map (·.block))).next,
            win.inputText.take (REPL_MAX_INPUT - 1)⟩)
        historyPos := win.historyCount
        inputText := [] }, (heap.freePtr ((win.history 0).map (·.block))).malloc,
        some (win.inputText.take (REPL_MAX_INPUT - 1))) := by
      rw [executeInput, if_neg hne, if_neg hroom]
      rfl
    rw [hr]
    refine ⟨⟨h.initialized, h.count_le, Int.natCast_nonneg _, le_rfl, ?_⟩, Or.inr (Or.inr
      ⟨hbuf, rfl, ⟨(heap.freePtr ((win.history 0).map (·.block))).next, ?_⟩, rfl, hpos, rfl⟩)⟩
    · rw [lines, hlines]
      exact owns_strdup true _ howns
    · rw [remember, if_neg (by rw [length_lines]; exact hroom)]
      exact hlines _

/-- What entering a line does. -/
theorem executeInput_spec (h : win.Owns heap held) (ok : Bool) :
    (win.executeInput heap ok).1.Owns (win.executeInput heap ok).2.1 held ∧
      win.Entered (win.inputText.take (REPL_MAX_INPUT - 1)) ok (win.executeInput heap ok) := by
  by_cases hbuf : win.inputText.take (REPL_MAX_INPUT - 1) = []
  · rw [executeInput, if_pos (List.length_eq_zero_iff.2 hbuf)]
    exact ⟨h, Or.inl ⟨Or.inl hbuf, rfl, rfl⟩⟩
  · rcases lt_or_eq_of_le h.count_le with hroom | hfull
    · exact entered_of_room h ok hbuf hroom
    · exact entered_of_full h ok hbuf hfull

/-! ## The arrow keys -/

/-- How far a key moves: `VK_UP` by one back. -/
def arrowDelta : Bool → ℤ
  | true => -1
  | false => 1

/-- The text of a line, which is empty without one. -/
def lineText (line : Option (Option HistoryLine)) : List UInt8 := (line.join.map (·.text)).getD []

/-- Where the counting starts: behind the last line stands for the first one when the key goes up,
and for one before it when it goes down. -/
def arrowStart (pos count : ℤ) : Bool → ℤ
  | true => pos
  | false => if pos = count then -1 else pos

/-- The position that a key goes to. -/
def arrowPos (pos count : ℤ) : Bool → ℤ
  | true => if pos - 1 < 0 then count - 1 else pos - 1
  | false => if pos + 1 ≥ count then 0 else pos + 1

/-- A key moves by one line, round the end of the history. -/
theorem arrowPos_eq {pos count : ℤ} (hcount : 0 < count) (hpos : 0 ≤ pos) (hle : pos ≤ count)
    (up : Bool) : arrowPos pos count up = (arrowStart pos count up + arrowDelta up) % count := by
  cases up with
  | true =>
    simp only [arrowPos, arrowStart, arrowDelta]
    split_ifs with hfirst
    · have hwrap : (pos + -1) % count = (count - 1) % count := by
        rw [show pos + -1 = count - 1 - count by omega, Int.sub_emod_right]
      rw [hwrap, Int.emod_eq_of_lt] <;> omega
    · rw [Int.emod_eq_of_lt] <;> omega
  | false =>
    simp only [arrowPos, arrowStart, arrowDelta]
    rcases lt_or_eq_of_le hle with hlt | rfl
    · rw [if_neg hlt.ne]
      split_ifs with hlast
      · rw [show pos + 1 = count by omega, Int.emod_self]
      · rw [Int.emod_eq_of_lt] <;> omega
    · rw [if_pos rfl, if_pos (by omega)]
      rfl

theorem arrowPos_mem {pos count : ℤ} (hcount : 0 < count) (hpos : 0 ≤ pos) (hle : pos ≤ count)
    (up : Bool) : 0 ≤ arrowPos pos count up ∧ arrowPos pos count up < count := by
  rw [arrowPos_eq hcount hpos hle]
  exact ⟨Int.emod_nonneg _ hcount.ne', Int.emod_lt_of_pos _ hcount⟩

/-- What a key does. -/
theorem arrow_eq (hcount : 0 < win.historyCount) (up : Bool) :
    win.arrow up =
      { win with historyPos := arrowPos win.historyPos win.historyCount up }.showLine := by
  rw [arrow, if_neg hcount.ne']
  cases up <;> rfl

/-- A line of the history is shown. -/
theorem showLine_inputText (win : ReplWindow) (h0 : 0 ≤ win.historyPos)
    (hlt : win.historyPos < win.historyCount) :
    win.showLine.inputText = lineText win.lines[win.historyPos.toNat]? := by
  have hindex : win.historyPos.toNat < win.historyCount := by omega
  rw [showLine, lines, List.getElem?_map, List.getElem?_range hindex]
  rfl

theorem owns_arrow (h : win.Owns heap held) (up : Bool) : (win.arrow up).Owns heap held := by
  rcases Nat.eq_zero_or_pos win.historyCount with hzero | hcount
  · rw [arrow, if_pos hzero]
    exact h
  · obtain ⟨h0, hlt⟩ := arrowPos_mem (Int.natCast_pos.2 hcount) h.pos_nonneg h.pos_le up
    rw [arrow_eq hcount]
    exact ⟨h.initialized, h.count_le, h0, hlt.le, h.owns⟩

/-- What one key does. -/
theorem arrow_spec (h : win.Owns heap held) (hcount : 0 < win.historyCount) (up : Bool) :
    let place := (arrowStart win.historyPos win.historyCount up + arrowDelta up) % win.historyCount
    (win.arrow up).historyPos = place ∧ (win.arrow up).lines = win.lines ∧
      (win.arrow up).historyCount = win.historyCount ∧
      (win.arrow up).inputText = lineText win.lines[place.toNat]? := by
  have hpos : 0 < (win.historyCount : ℤ) := Int.natCast_pos.2 hcount
  obtain ⟨h0, hlt⟩ := arrowPos_mem hpos h.pos_nonneg h.pos_le up
  rw [← arrowPos_eq hpos h.pos_nonneg h.pos_le, arrow_eq hcount]
  refine ⟨rfl, rfl, rfl, ?_⟩
  exact showLine_inputText { win with historyPos := _ } h0 hlt

theorem owns_arrows (h : win.Owns heap held) (keys : List Bool) :
    (Runs.final replStep ⟨win, heap⟩ (keys.map .arrow)).win.Owns
      (Runs.final replStep ⟨win, heap⟩ (keys.map .arrow)).heap held := by
  induction keys generalizing win with
  | nil => exact h
  | cons up keys ih => exact ih (owns_arrow h up)

/-- Where keys end up, and what is shown there. -/
theorem arrows_run (h : win.Owns heap held) (hcount : 0 < win.historyCount) (first : Bool)
    (rest : List Bool) :
    let win' := (Runs.final replStep ⟨win, heap⟩ ((first :: rest).map .arrow)).win
    let place := (arrowStart win.historyPos win.historyCount first +
      ((first :: rest).map arrowDelta).sum) % win.historyCount
    win'.historyPos = place ∧ win'.lines = win.lines ∧ win'.historyCount = win.historyCount ∧
      win'.inputText = lineText win.lines[place.toNat]? := by
  have hpos : 0 < (win.historyCount : ℤ) := Int.natCast_pos.2 hcount
  induction rest using List.reverseRecOn with
  | nil =>
    simp only [List.map_cons, List.map_nil, List.sum_cons, List.sum_nil, add_zero]
    exact arrow_spec h hcount first
  | append_singleton rest up ih =>
    obtain ⟨hplace, hlines, hsame, -⟩ := ih
    have howns := owns_arrows h (first :: rest)
    have hkeys : ((first :: (rest ++ [up])).map ReplOp.arrow) =
        (first :: rest).map .arrow ++ [.arrow up] := by simp
    have hsum : ((first :: (rest ++ [up])).map arrowDelta).sum =
        ((first :: rest).map arrowDelta).sum + arrowDelta up := by simp [add_assoc]
    rw [hkeys, hsum, Runs.final_append_singleton]
    generalize Runs.final replStep ⟨win, heap⟩ ((first :: rest).map .arrow) = s₁ at *
    have hspec := arrow_spec howns (hsame ▸ hcount) up
    have hinside : s₁.win.historyPos ≠ s₁.win.historyCount := by
      rw [hplace, hsame]
      exact (Int.emod_lt_of_pos _ hpos).ne
    have hstart : arrowStart s₁.win.historyPos s₁.win.historyCount up = s₁.win.historyPos := by
      cases up with
      | true => rfl
      | false => exact if_neg hinside
    rw [hstart, hplace, hlines, hsame, Int.emod_add_emod, add_assoc] at hspec
    exact hspec

end ReplWindow

/-! ## What holds of every run -/

namespace ReplWindow

variable {heap₀ : Heap} {held : List ℕ}

/-- The blocks of the history, freed one after the other. -/
theorem owns_free_lines {heap : Heap} (lines : List (Option HistoryLine))
    (ho : heap.Owns (blocks lines ++ held)) :
    (lines.foldl (fun heap line => heap.freePtr (line.map (·.block))) heap).Owns held := by
  induction lines generalizing heap with
  | nil => exact ho
  | cons line lines ih =>
    rw [blocks_cons, List.append_assoc] at ho
    exact ih ho.freePtr

theorem owns_destroy {win : ReplWindow} {heap : Heap} (h : win.Owns heap held) :
    (win.destroy heap).2.Owns held := by
  have hfold := owns_free_lines win.lines h.owns
  rw [lines, List.foldl_map] at hfold
  rw [destroy, if_neg (by rw [h.initialized]; decide)]
  exact hfold

/-- The texts of the history, oldest first. -/
def texts (win : ReplWindow) : List (Option (List UInt8)) := win.lines.map (Option.map (·.text))

/-- What one step does to the history. -/
theorem step_spec {s : ReplState} (h : s.win.Owns s.heap held) (op : ReplOp) :
    (replStep s op).win.Owns (replStep s op).heap held ∧
      (replStep s op).win.texts =
        (replRemembers s op).foldl (remember (REPL_MAX_HISTORY - 1)) s.win.texts ∧
      (replRemembers s op).reduceOption = replExecutes s op := by
  have hkeep (win : ReplWindow) (hinit : win.initialized = s.win.initialized)
      (hcount : win.historyCount = s.win.historyCount) (hpos : win.historyPos = s.win.historyPos)
      (hlines : win.history = s.win.history) : win.Owns s.heap held ∧ win.texts = s.win.texts := by
    have hsame : win.lines = s.win.lines := by rw [lines, lines, hcount, hlines]
    refine ⟨⟨hinit.trans h.initialized, hcount ▸ h.count_le, hpos ▸ h.pos_nonneg, ?_, ?_⟩, ?_⟩
    · rw [hpos, hcount]
      exact h.pos_le
    · rw [hsame]
      exact h.owns
    · rw [texts, hsame, texts]
  have hshown : ¬ s.win.initialized = false := by
    rw [h.initialized]
    decide
  cases op with
  | edit text =>
    obtain ⟨howns, htexts⟩ := hkeep { s.win with inputText := text } rfl rfl rfl rfl
    exact ⟨howns, htexts, rfl⟩
  | arrow up =>
    refine ⟨owns_arrow h up, ?_, rfl⟩
    rcases Nat.eq_zero_or_pos s.win.historyCount with hzero | hcount
    · simp only [replStep, arrow, if_pos hzero, replRemembers, List.foldl_nil]
    · simp only [replStep, texts, (arrow_spec h hcount up).2.1, replRemembers, List.foldl_nil]
  | toggle =>
    have htoggle : ∃ visible, s.win.toggle = { s.win with visible := visible } := by
      rw [toggle, hideWindow, showWindow, if_neg hshown, if_neg hshown]
      cases s.win.visible
      · exact ⟨true, rfl⟩
      · exact ⟨false, rfl⟩
    obtain ⟨visible, hwin⟩ := htoggle
    simp only [replStep, replRemembers, hwin]
    obtain ⟨howns, htexts⟩ := hkeep { s.win with visible := visible } rfl rfl rfl rfl
    exact ⟨howns, htexts, rfl⟩
  | close =>
    have hclose : s.win.hideWindow = { s.win with visible := false } := if_neg hshown
    simp only [replStep, replRemembers, hclose]
    obtain ⟨howns, htexts⟩ := hkeep { s.win with visible := false } rfl rfl rfl rfl
    exact ⟨howns, htexts, rfl⟩
  | enter ok =>
    obtain ⟨howns, hcases⟩ := executeInput_spec h ok
    refine ⟨howns, ?_⟩
    simp only [replStep, replExecutes, texts, replRemembers, List.length_eq_zero_iff]
    obtain ⟨hnot, hlines, hnone⟩ | ⟨hbuf, rfl, hfull, hlines, hnone⟩ |
      ⟨hbuf, rfl, ⟨b, hlines⟩, -, -, hsome⟩ := hcases
    · have hnothing : (if s.win.inputText.take (REPL_MAX_INPUT - 1) = [] then []
          else if ok = true then [some (s.win.inputText.take (REPL_MAX_INPUT - 1))]
          else if s.win.historyCount < REPL_MAX_HISTORY then [] else [none]) = [] := by
        rcases hnot with hbuf | ⟨rfl, hroom⟩
        · exact if_pos hbuf
        · simp only [hroom, Bool.false_eq_true, if_true, if_false, ite_self]
      rw [hlines, hnone, hnothing]
      exact ⟨rfl, rfl⟩
    · rw [hlines, hnone, if_neg hbuf, if_neg (by decide), if_neg hfull.not_lt]
      refine ⟨?_, rfl⟩
      rw [List.foldl_cons, List.foldl_nil, remember, List.length_map, length_lines,
        if_neg (by rw [hfull]; decide), List.map_append, List.map_tail]
      rfl
    · rw [hlines, hsome, if_neg hbuf, if_pos rfl]
      refine ⟨?_, rfl⟩
      rw [List.foldl_cons, List.foldl_nil, remember, remember, List.length_map, List.map_append]
      split_ifs
      · rfl
      · rw [List.map_tail]
        rfl

/-- A run, from a window that was just made. -/
theorem run_spec (hheld : heap₀.Owns held) (ops : List ReplOp) :
    let s := Runs.final replStep ⟨replWindowInit, heap₀⟩ ops
    let remembered := Runs.emits replStep replRemembers ⟨replWindowInit, heap₀⟩ ops
    s.win.Owns s.heap held ∧ s.win.texts = remembered.rtake REPL_MAX_HISTORY ∧
      remembered.reduceOption =
        Runs.emits replStep replExecutes ⟨replWindowInit, heap₀⟩ ops := by
  induction ops using List.reverseRecOn with
  | nil => exact ⟨⟨rfl, Nat.zero_le _, le_rfl, le_rfl, hheld⟩, rfl, rfl⟩
  | append_singleton ops op ih =>
    obtain ⟨howns, htexts, hexecutes⟩ := ih
    obtain ⟨howns', htexts', hexecutes'⟩ := step_spec howns op
    simp only [Runs.final_append_singleton, Runs.emits_append_singleton]
    refine ⟨howns', ?_, ?_⟩
    · rw [htexts', htexts]
      generalize replRemembers _ op = lines
      induction lines using List.reverseRecOn with
      | nil => simp
      | append_singleton lines line ih =>
        rw [List.foldl_append, ih, ← List.append_assoc]
        exact (rtake_concat (REPL_MAX_HISTORY - 1) _ line).symm
    · rw [List.reduceOption_append, hexecutes, hexecutes']

/-- Going back from behind the last of `n` places. -/
theorem toNat_back {n : ℕ} (hn : 0 < n) (k : ℕ) :
    (((n : ℤ) - (k + 1)) % n).toNat = n - 1 - k % n := by
  have hlt := Nat.mod_lt k hn
  have hsplit : (n : ℤ) - (k + 1) = ((n - 1 - k % n : ℕ) : ℤ) + n * -((k / n : ℕ) : ℤ) := by
    have hdiv : (k : ℤ) = n * ((k / n : ℕ) : ℤ) + ((k % n : ℕ) : ℤ) := by
      exact_mod_cast (Nat.div_add_mod k n).symm
    rw [Nat.cast_sub (by omega), Nat.cast_sub (by omega)]
    push_cast at hdiv ⊢
    linear_combination -hdiv
  rw [hsplit, Int.add_mul_emod_self_left, Int.emod_eq_of_lt (Int.natCast_nonneg _) (by omega),
    Int.toNat_natCast]

/-- A line that was entered is the last one, with the position behind it. -/
theorem executes_spec {s : ReplState} (h : s.win.Owns s.heap held) {ok : Bool}
    (hline : replExecutes s (.enter ok) ≠ []) :
    (replStep s (.enter ok)).win.historyPos = (replStep s (.enter ok)).win.historyCount ∧
      0 < (replStep s (.enter ok)).win.historyCount := by
  obtain ⟨-, ⟨-, -, hnone⟩ | ⟨-, -, -, -, hnone⟩ | ⟨-, -, -, hpos, hcount, -⟩⟩ :=
    executeInput_spec h ok
  · exact absurd (congrArg Option.toList hnone) hline
  · exact absurd (congrArg Option.toList hnone) hline
  · exact ⟨hpos, hcount⟩

end ReplWindow

/-- Three lines, of which the second cannot be copied. -/
def threeLines : List ReplOp :=
  [.edit [97], .enter true, .edit [98], .enter false, .edit [99], .enter true]

/-- After any run, arrow keys show the line that they lead to when they are counted from where the
history stands, round its end; and behind a line that was entered, `VK_UP` pressed `k + 1` times
shows the line `k` places before it, again round the end. -/
theorem repl_recall {heap₀ : Heap} {held : List ℕ} (hheld : heap₀.Owns held) (ops : List ReplOp) :
    let s := Runs.final replStep ⟨replWindowInit, heap₀⟩ ops
    let shown (keys : List Bool) := (Runs.final replStep s (keys.map .arrow)).win.inputText
    (0 < s.win.historyCount → ∀ first rest,
      shown (first :: rest) = ReplWindow.lineText s.win.lines[
        ((ReplWindow.arrowStart s.win.historyPos s.win.historyCount first +
          ((first :: rest).map ReplWindow.arrowDelta).sum) % s.win.historyCount).toNat]?) ∧
    ∀ pre ok, ops = pre ++ [.enter ok] →
      replExecutes (Runs.final replStep ⟨replWindowInit, heap₀⟩ pre) (.enter ok) ≠ [] →
      ∀ k, shown (List.replicate (k + 1) true) =
        ReplWindow.lineText s.win.lines.reverse[k % s.win.lines.length]? := by
  intro s shown
  have howns : s.win.Owns s.heap held := (ReplWindow.run_spec hheld ops).1
  refine ⟨fun hcount first rest => ?_, ?_⟩
  · exact (ReplWindow.arrows_run howns hcount first rest).2.2.2
  · intro pre ok hops hline k
    have hs : s = replStep (Runs.final replStep ⟨replWindowInit, heap₀⟩ pre) (.enter ok) := by
      simp only [s, hops, Runs.final_append_singleton]
    obtain ⟨hpos, hcount⟩ := ReplWindow.executes_spec (ReplWindow.run_spec hheld pre).1 hline
    rw [← hs] at hpos hcount
    have hkeys := (ReplWindow.arrows_run howns hcount true (List.replicate k true)).2.2.2
    have hsum : ((true :: List.replicate k true).map ReplWindow.arrowDelta).sum =
        -((k : ℤ) + 1) := by
      simp [ReplWindow.arrowDelta]
    have hlt : k % s.win.historyCount < s.win.historyCount := Nat.mod_lt k hcount
    rw [hsum, ReplWindow.arrowStart, hpos, ← sub_eq_add_neg, ReplWindow.toNat_back hcount] at hkeys
    rw [List.getElem?_reverse (by rw [ReplWindow.length_lines]; exact hlt),
      ReplWindow.length_lines]
    exact hkeys

theorem repl_recall_threeLines :
    (Runs.final replStep (Runs.final replStep ⟨replWindowInit, .init⟩ threeLines)
      ((List.replicate 2 true).map .arrow)).win.inputText = [97] :=
  ((repl_recall Heap.owns_init threeLines).2 (threeLines.take 5) true rfl (by decide) 1).trans
    (by decide)

end Autoscrcpy
