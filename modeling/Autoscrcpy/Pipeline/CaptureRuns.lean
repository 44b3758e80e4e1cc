import Autoscrcpy.Pipeline.SharedFrame
import Autoscrcpy.Script.Message

/-!
# Capturing a frame

The main loop acquires the shared frame in two places: when it is idle, to render the frame, and in
`on_script_query_frame_capture`, to copy its size (and, if it were small enough, its data) into the
response. Both calls empty the slot, and both free the frame, so a captured frame is not rendered.
-/

namespace Autoscrcpy

/-- The two callers of `shared_frame_acquire`. -/
inductive FrameCaller where
  | render
  | capture
  deriving DecidableEq, Repr

/-- A step of the acquire in `on_script_query_frame_capture`. -/
def isCapture : FrameAction FrameData FrameCaller → Bool
  | .compareExchange .capture => true
  | .take .capture => true
  | _ => false

/-- The frames that the main loop hands to `video_renderer_render` in a run. -/
def renderedFrames (ops : List (FrameAction FrameData FrameCaller)) : List FrameData :=
  (acquiredFrames ops).filterMap fun
    | (.render, frame) => some frame.frame
    | (.capture, _) => none

/-- The same run without the capture requests. -/
def withoutCaptures (ops : List (FrameAction FrameData FrameCaller)) :
    List (FrameAction FrameData FrameCaller) := ops.filter fun op => !isCapture op

/-- The states and the steps of a run. -/
def frameVisits (ops : List (FrameAction FrameData FrameCaller)) :
    List (FrameThreads FrameData FrameCaller × FrameAction FrameData FrameCaller) :=
  Runs.visits frameStep .init ops

/-- Every request of the run finds no frame available. -/
def CapturesFindNothing (ops : List (FrameAction FrameData FrameCaller)) : Prop :=
  ∀ x ∈ frameVisits ops, x.2 = .compareExchange .capture → x.1.consumer = .idle →
    x.1.slot.ready = false

/-- The rendered frames are those of the run without requests, and every step of a request leaves
the shared frame as it found it. -/
def CapturesUnnoticed (ops : List (FrameAction FrameData FrameCaller)) : Prop :=
  renderedFrames ops = renderedFrames (withoutCaptures ops) ∧
    ∀ x ∈ frameVisits ops, isCapture x.2 = true → (frameStep x.1 x.2).slot = x.1.slot

theorem isCapture_iff {a : FrameAction FrameData FrameCaller} :
    isCapture a = true ↔ a = .compareExchange .capture ∨ a = .take .capture := by
  unfold isCapture
  split <;> simp_all

/-- Only a compare-exchange that finds a frame starts an acquire. -/
theorem frameStep_consumer (s : FrameThreads FrameData FrameCaller)
    (a : FrameAction FrameData FrameCaller) :
    (frameStep s a).consumer = s.consumer ∨ (frameStep s a).consumer = .idle ∨
      ∃ tag, a = .compareExchange tag ∧ s.consumer = .idle ∧ s.slot.ready = true ∧
        (frameStep s a).consumer = .taking tag := by
  obtain ⟨hstep, -⟩ | ⟨frame, rfl, hp⟩ | ⟨frame, rfl, hp⟩ | ⟨number, old, rfl, hp⟩ |
    ⟨number, old, rfl, hp⟩ | ⟨tag, rfl, hc, hready⟩ | ⟨tag, rfl, hc⟩ := frameStep_cases s a
  · exact Or.inl (congrArg _ hstep)
  · exact Or.inl (by simp [frameStep, hp])
  · exact Or.inl (by simp [frameStep, hp])
  · exact Or.inl (by simp [frameStep, hp])
  · exact Or.inl (by simp [frameStep, hp])
  · exact Or.inr (Or.inr ⟨tag, rfl, hc, hready, by simp [frameStep, hc, hready]⟩)
  · exact Or.inr (Or.inl (by simp [frameStep, hc]))

/-- A request that finds nothing ends with its compare-exchange. -/
theorem not_taking_capture {ops : List (FrameAction FrameData FrameCaller)}
    (h : CapturesFindNothing ops) :
    ∀ x ∈ frameVisits ops, x.1.consumer ≠ .taking .capture := by
  let inv (s : FrameThreads FrameData FrameCaller) : Prop := s.consumer ≠ .taking .capture
  have hinit : inv .init := by
    rintro ⟨⟩
  refine (Runs.invariant (I := inv) (fun x hx hinv => ?_) hinit).1
  change (frameStep x.1 x.2).consumer ≠ .taking .capture
  obtain hsame | hidle | ⟨tag, hop, hc, hready, htaking⟩ := frameStep_consumer x.1 x.2
  · rwa [hsame]
  · simp [hidle]
  · rw [htaking]
    rintro ⟨⟩
    rw [h x hx hop hc] at hready
    cases hready

/-- The steps of such a request do nothing. -/
theorem capture_noop {ops : List (FrameAction FrameData FrameCaller)}
    (h : CapturesFindNothing ops) :
    ∀ x ∈ frameVisits ops, isCapture x.2 = true →
      frameStep x.1 x.2 = x.1 ∧ frameAcquires x.1 x.2 = [] := by
  rintro ⟨s, a⟩ hx hcapture
  have htaking : s.consumer ≠ .taking .capture := not_taking_capture h _ hx
  obtain rfl | rfl := isCapture_iff.1 hcapture
  · have hready : s.consumer = .idle → s.slot.ready = false := h _ hx rfl
    by_cases hc : s.consumer = .idle
    · simp [frameStep, frameAcquires, hready hc]
    · simp [frameStep, frameAcquires, hc]
  · simp [frameStep, frameAcquires, htaking]

/-- The requests of a run go unnoticed exactly when each of them finds no frame available: a request
that finds one takes it out of the slot. -/
theorem capturesUnnoticed_iff (ops : List (FrameAction FrameData FrameCaller)) :
    CapturesUnnoticed ops ↔ CapturesFindNothing ops := by
  constructor
  · rintro ⟨-, hslot⟩ ⟨s, a⟩ hx rfl hc
    have hsame := hslot _ hx rfl
    by_contra hready
    rw [Bool.not_eq_false] at hready
    simp only [frameStep] at hsame
    rw [if_pos ⟨hc, hready⟩] at hsame
    have := congrArg SharedFrame.ready hsame
    rw [hready] at this
    cases this
  · intro h
    refine ⟨?_, fun x hx hcapture => congrArg _ (capture_noop h x hx hcapture).1⟩
    rw [renderedFrames, renderedFrames, acquiredFrames, acquiredFrames, withoutCaptures,
      Runs.emits_filter]
    intro x hx hcapture
    exact capture_noop h x hx (by simpa using hcapture)

/-- A frame is submitted, a script asks for it, and the main loop is idle. -/
def captureBeforeRender : List (FrameAction FrameData FrameCaller) :=
  [.submit ⟨some [1], 1, 1⟩, .exchange, .announce, .free, .compareExchange .capture, .take .capture,
    .compareExchange .render, .take .render]

/-- The captured frame is never rendered. -/
theorem captureBeforeRender_noticed :
    ¬ CapturesUnnoticed captureBeforeRender ∧ renderedFrames captureBeforeRender = [] ∧
      renderedFrames (withoutCaptures captureBeforeRender) = [⟨some [1], 1, 1⟩] := by
  refine ⟨?_, by decide, by decide⟩
  intro h
  exact absurd h.1 (by decide)

end Autoscrcpy
