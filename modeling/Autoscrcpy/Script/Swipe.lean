import Autoscrcpy.Lib.Rounding
import Autoscrcpy.Script.Commands

/-!
# Swipes

`swipe` of `init.ss` divides the way between two points into steps and injects a touch at each, in
exact rationals that `round` takes to integers, halves to even.

`swipe_completePath`: a swipe goes down at its start, moves as often as it was told, never backwards
and never beyond its end, and goes up at its end. The foreign procedures take C integers;
`swipe_handled`: between points of 32 bits every touch arrives at its handler as it was sent.
-/

namespace Autoscrcpy

open Rounding

/-! ## The script -/

def ACTION_DOWN : ℤ := 0

def ACTION_UP : ℤ := 1

def ACTION_MOVE : ℤ := 2

/-- What a script gives as the action of a touch. -/
inductive ActionArgument
  | down
  | up
  | move
  | integer (code : ℤ)
  | other
  deriving DecidableEq, Repr

/-- `resolve-touch-action`; an unknown action is logged. -/
def resolveTouchAction : ActionArgument → ℤ
  | .down => ACTION_DOWN
  | .up => ACTION_UP
  | .move => ACTION_MOVE
  | .integer code => code
  | .other => ACTION_DOWN

/-- What a script does: the calls it makes of foreign procedures, with the integers it gives them,
and an exception of its own, which ends it. -/
inductive ScriptCall
  | cInjectTouch (x y action : ℤ)
  | cSleepMs (ms : ℤ)
  | exception
  deriving DecidableEq, Repr

/-- `inject-touch`. -/
def injectTouch (x y : ℤ) (action : ActionArgument) : ScriptCall :=
  .cInjectTouch x y (resolveTouchAction action)

/-- `sleep-ms`. -/
def sleepMs (ms : ℤ) : ScriptCall := .cSleepMs ms

/-- The loop of `swipe`: `(let loop ((i 1)) (when (<= i steps) ... (loop (+ i 1))))`. -/
def swipeLoop (x1 y1 : ℤ) (dx dy : ℚ) (dt steps i : ℤ) : List ScriptCall :=
  if i ≤ steps then
    injectTouch (roundHalfEven (x1 + dx * i)) (roundHalfEven (y1 + dy * i)) .move ::
      sleepMs dt :: swipeLoop x1 y1 dx dy dt steps (i + 1)
  else []
termination_by (steps + 1 - i).toNat
decreasing_by omega

/-- `swipe`. A division by zero is an exception. -/
def swipe (x1 y1 x2 y2 durationMs steps : ℤ) : List ScriptCall :=
  injectTouch x1 y1 .down ::
    if steps = 0 then [.exception]
    else
      let dt := max 1 (durationMs.tdiv steps)
      let dx : ℚ := (x2 - x1 : ℤ) / steps
      let dy : ℚ := (y2 - y1 : ℤ) / steps
      swipeLoop x1 y1 dx dy dt steps 1 ++ [injectTouch x2 y2 .up]

/-! ## The path -/

/-- A touch: the point and the action. -/
abbrev Touch := (ℤ × ℤ) × ℤ

/-- The touches of a script, in order. -/
def touches (calls : List ScriptCall) : List Touch :=
  calls.filterMap fun
    | .cInjectTouch x y action => some ((x, y), action)
    | _ => none

/-- A coordinate goes from one value to another and never back. -/
def Monotonic (a b : ℤ) (xs : List ℤ) : Prop :=
  (a ≤ b → xs.Pairwise (· ≤ ·)) ∧ (b ≤ a → xs.Pairwise (· ≥ ·))

/-- The touches of a finger that goes down at one point, along some moves to another, and goes up
there. -/
structure CompletePath (start finish : ℤ × ℤ) (moves : List (ℤ × ℤ)) (path : List Touch) :
    Prop where
  path_eq : path =
    (start, ACTION_DOWN) :: moves.map (fun p => (p, ACTION_MOVE)) ++ [(finish, ACTION_UP)]
  last : moves.getLast? = some finish
  between : ∀ p ∈ moves, p.1 ∈ Set.uIcc start.1 finish.1 ∧ p.2 ∈ Set.uIcc start.2 finish.2
  monotonicX : Monotonic start.1 finish.1 (moves.map Prod.fst)
  monotonicY : Monotonic start.2 finish.2 (moves.map Prod.snd)

/-! ## The loop -/

section Loop

variable (x1 y1 : ℤ) (dx dy : ℚ) (dt steps : ℤ)

/-- The loop does a touch and a pause for each of the remaining steps. -/
theorem swipeLoop_eq (n : ℕ) (i : ℤ) (h : i + n = steps + 1) :
    swipeLoop x1 y1 dx dy dt steps i =
      (List.range n).flatMap fun k : ℕ =>
        [injectTouch (roundHalfEven (x1 + dx * (i + k : ℤ)))
          (roundHalfEven (y1 + dy * (i + k : ℤ))) .move, sleepMs dt] := by
  induction n generalizing i with
  | zero => rw [swipeLoop, if_neg (by omega), List.range_zero, List.flatMap_nil]
  | succ n ih =>
    have hnext (k : ℕ) : i + 1 + (k : ℤ) = i + (k + 1 : ℕ) := by
      push_cast
      ring
    rw [swipeLoop, if_pos (by omega), ih (i + 1) (by omega), List.range_succ_eq_map,
      List.flatMap_cons, List.flatMap_map]
    simp only [hnext, Nat.cast_zero, add_zero]
    rfl

end Loop

/-- The points that a swipe moves to. -/
def swipeMoves (x1 y1 x2 y2 steps : ℤ) : List (ℤ × ℤ) :=
  (List.range steps.toNat).map fun k : ℕ =>
    (along (roundHalfEven : ℚ → ℤ) x1 x2 steps (k + 1),
      along (roundHalfEven : ℚ → ℤ) y1 y2 steps (k + 1))

section Swipe

variable {x1 y1 x2 y2 durationMs steps : ℤ}

/-- What a swipe does: it goes down, moves and waits in turn, and goes up. -/
theorem swipe_eq (hsteps : 1 ≤ steps) :
    swipe x1 y1 x2 y2 durationMs steps =
      injectTouch x1 y1 .down ::
        (swipeMoves x1 y1 x2 y2 steps).flatMap
          (fun p => [injectTouch p.1 p.2 .move, sleepMs (max 1 (durationMs.tdiv steps))]) ++
        [injectTouch x2 y2 .up] := by
  rw [swipe, if_neg (by omega)]
  dsimp only
  rw [swipeLoop_eq _ _ _ _ _ _ steps.toNat 1 (by omega), swipeMoves, List.flatMap_map,
    List.cons_append]
  congr 3
  funext k
  rw [along, along, add_comm 1 (k : ℤ)]

theorem mem_swipeMoves {p : ℤ × ℤ} (hp : p ∈ swipeMoves x1 y1 x2 y2 steps) :
    p.1 ∈ Set.uIcc x1 x2 ∧ p.2 ∈ Set.uIcc y1 y2 := by
  obtain ⟨k, hk, rfl⟩ := List.mem_map.1 hp
  have hlt := List.mem_range.1 hk
  exact ⟨along_mem_uIcc isRounding_roundHalfEven (by omega) (by omega) (by omega),
    along_mem_uIcc isRounding_roundHalfEven (by omega) (by omega) (by omega)⟩

/-- One coordinate of the moves. -/
theorem monotonic_along (a b : ℤ) (n : ℕ) :
    Monotonic a b
      ((List.range n).map fun k : ℕ => along (roundHalfEven : ℚ → ℤ) a b n (k + 1)) := by
  constructor
  · intro hab
    refine List.pairwise_map.2 ((List.pairwise_lt_range).imp_of_mem ?_)
    intro k l hk _ hkl
    have hlt := List.mem_range.1 hk
    exact along_mono isRounding_roundHalfEven (by omega) hab (by omega)
  · intro hba
    refine List.pairwise_map.2 ((List.pairwise_lt_range).imp_of_mem ?_)
    intro k l hk _ hkl
    have hlt := List.mem_range.1 hk
    exact along_anti isRounding_roundHalfEven (by omega) hba (by omega)

theorem swipeMoves_getLast (hsteps : 1 ≤ steps) :
    (swipeMoves x1 y1 x2 y2 steps).getLast? = some (x2, y2) := by
  obtain ⟨n, rfl⟩ : ∃ n : ℕ, steps = n + 1 := ⟨(steps - 1).toNat, by omega⟩
  have hn : ((n + 1 : ℤ)).toNat = n + 1 := by omega
  rw [swipeMoves, hn, List.range_succ, List.map_append, List.map_singleton,
    List.getLast?_append_of_ne_nil _ (List.cons_ne_nil _ _), List.getLast?_singleton,
    along_end isRounding_roundHalfEven (by omega), along_end isRounding_roundHalfEven (by omega)]

/-- The touches of a swipe: the start, the moves and the end. -/
theorem touches_swipe (hsteps : 1 ≤ steps) :
    touches (swipe x1 y1 x2 y2 durationMs steps) =
      ((x1, y1), ACTION_DOWN) ::
        (swipeMoves x1 y1 x2 y2 steps).map (fun p => (p, ACTION_MOVE)) ++
        [((x2, y2), ACTION_UP)] := by
  rw [swipe_eq hsteps, touches, List.cons_append, List.filterMap_cons, List.filterMap_append,
    List.filterMap_flatMap, List.map_eq_flatMap]
  rfl

-- Both halves are ties, and go to the even neighbour.
example : touches (swipe 0 0 5 (-5) 100 2) =
    [((0, 0), 0), ((2, -2), 2), ((5, -5), 2), ((5, -5), 1)] := by
  rw [touches_swipe (by decide)]
  decide +kernel

end Swipe

/-! ## The way to the handler -/

/-- The request of a call with arguments that fit a C `int`. -/
def ScriptCall.request : ScriptCall → Option ScriptRequest
  | .cInjectTouch x y action =>
      some (.command (.injectTouch (Int32.ofInt x) (Int32.ofInt y) (Int32.ofInt action)))
  | _ => none

/-- The touch that the handler gets. -/
def HandlerCall.touch : HandlerCall → Option Touch
  | .injectTouch x y action => some ((x.toInt, y.toInt), action.toInt)
  | _ => none

/-- A number that a C `int` holds. -/
def FitsInt (n : ℤ) : Prop := -2 ^ 31 ≤ n ∧ n < 2 ^ 31

def Touch.Fits (touch : Touch) : Prop :=
  FitsInt touch.1.1 ∧ FitsInt touch.1.2 ∧ FitsInt touch.2

theorem FitsInt.toInt_ofInt {n : ℤ} (h : FitsInt n) : (Int32.ofInt n).toInt = n :=
  Int32.toInt_ofInt_of_le h.1 h.2

theorem fitsInt_toInt (n : Int32) : FitsInt n.toInt := ⟨n.le_toInt, n.toInt_lt⟩

theorem FitsInt.of_mem_uIcc {a b n : ℤ} (ha : FitsInt a) (hb : FitsInt b)
    (h : n ∈ Set.uIcc a b) : FitsInt n := by
  rw [FitsInt] at ha hb ⊢
  rw [Set.mem_uIcc] at h
  omega

/-- Touches that fit arrive as they were sent. -/
theorem touch_handled {calls : List ScriptCall} (h : ∀ touch ∈ touches calls, Touch.Fits touch) :
    (commandCalls .complete (calls.filterMap ScriptCall.request)).filterMap HandlerCall.touch =
      touches calls := by
  have hhandled := commandsTakeEffect_complete (calls.filterMap ScriptCall.request)
  rw [CommandsTakeEffect] at hhandled
  rw [hhandled, List.filterMap_filterMap, List.filterMap_filterMap, touches]
  refine List.filterMap_congr fun call hcall => ?_
  cases call with
  | cInjectTouch x y action =>
    obtain ⟨hx, hy, haction⟩ := h ((x, y), action) (List.mem_filterMap.2 ⟨_, hcall, rfl⟩)
    dsimp only [ScriptCall.request, Option.bind_some, ScriptRequest.call, ScriptCommand.call,
      HandlerCall.touch]
    rw [hx.toInt_ofInt, hy.toInt_ofInt, haction.toInt_ofInt]
  | cSleepMs ms => rfl
  | exception => rfl

/-- A swipe between points of the screen reaches the touch handler as the path it is. -/
theorem swipe_handled (x1 y1 x2 y2 : Int32) (durationMs : ℤ) {steps : ℤ} (hsteps : 1 ≤ steps) :
    let calls := swipe x1.toInt y1.toInt x2.toInt y2.toInt durationMs steps
    (commandCalls .complete (calls.filterMap ScriptCall.request)).filterMap HandlerCall.touch =
      touches calls := by
  refine touch_handled fun touch htouch => ?_
  have hdown : FitsInt ACTION_DOWN := ⟨by decide, by decide⟩
  have hup : FitsInt ACTION_UP := ⟨by decide, by decide⟩
  have hmove : FitsInt ACTION_MOVE := ⟨by decide, by decide⟩
  rw [touches_swipe hsteps, List.mem_append, List.mem_cons, List.mem_map, List.mem_singleton]
    at htouch
  rcases htouch with (rfl | ⟨p, hp, rfl⟩) | rfl
  · exact ⟨fitsInt_toInt x1, fitsInt_toInt y1, hdown⟩
  · obtain ⟨hx, hy⟩ := mem_swipeMoves hp
    exact ⟨(fitsInt_toInt x1).of_mem_uIcc (fitsInt_toInt x2) hx,
      (fitsInt_toInt y1).of_mem_uIcc (fitsInt_toInt y2) hy, hmove⟩
  · exact ⟨fitsInt_toInt x2, fitsInt_toInt y2, hup⟩

end Autoscrcpy
