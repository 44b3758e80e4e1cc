import Autoscrcpy.Control.Controller
import Autoscrcpy.Lib.KeyStream

/-!
# Keys of the window and keys of the device

A run of key events of the window, and the key strokes that the controller injects on the device for
it. Whether a press or a release is injected depends on Alt at that moment, so the strokes on the
device are those of the mapped keys outside Alt (`plainStrokes`), with the taps of the shortcuts
between them (`deviceStrokes_final`); the device's keys are consistent exactly when these are
(`noStuckKeys_iff`).
-/

namespace Autoscrcpy

open Runs KeyStream

/-! ## The keyboard -/

section Keyboard

variable {κ : Type} [DecidableEq κ] (vkOf : κ → UInt32)

/-- The virtual keys of the two sides of a modifier. -/
def sidesOf (vk : UInt32) : List UInt32 :=
  if vk = VK_SHIFT then [VK_LSHIFT, VK_RSHIFT]
  else if vk = VK_CONTROL then [VK_LCONTROL, VK_RCONTROL]
  else if vk = VK_MENU then [VK_LMENU, VK_RMENU]
  else []

/-- The high bit of `GetKeyState`: some held key is delivered as this virtual key, or as one side of
the modifier. `vkOf` gives the virtual key that the window messages of a physical key carry. -/
def getKeyState (held : Finset κ) (vk : UInt32) : Bool :=
  decide (∃ k ∈ held, vkOf k = vk ∨ vkOf k ∈ sidesOf vk)

/-- Alt is held. -/
def altHeld (held : Finset κ) : Bool := getKeyState vkOf held VK_MENU

/-- The messages that the controller sends for a key event of the window; `GetKeyState` reports the
state after the event. -/
def keyMessages (ctrl : Controller) (held : Finset κ) (e : Stroke κ) : List ControlMsg :=
  controllerOnKeyEvent ctrl (getKeyState vkOf (e.apply held)) (vkOf e.key) e.down

/-- The stroke on the device that an `INJECT_KEYCODE` message makes (`ACTION_DOWN` is `0` and
`ACTION_UP` is `1`). -/
def ControlMsg.stroke : ControlMsg → Option (Stroke UInt32)
  | .injectKeycode action keycode _ _ =>
      if action = 0 then some ⟨keycode, true⟩
      else if action = 1 then some ⟨keycode, false⟩
      else none
  | _ => none

/-- The strokes on the device for one event of the window. -/
def strokesFor (ctrl : Controller) (held : Finset κ) (e : Stroke κ) : List (Stroke UInt32) :=
  (keyMessages vkOf ctrl held e).filterMap ControlMsg.stroke

/-- The strokes on the device for a run of key events, from a keyboard with no key held. -/
def deviceStrokes (ctrl : Controller) (events : List (Stroke κ)) : List (Stroke UInt32) :=
  emits Stroke.apply (strokesFor vkOf ctrl) ∅ events

/-- No phantom and no stuck keys: every `ACTION_UP` is for a key code that is down on the device,
and whenever no physical key is held none is left down. -/
def NoStuckKeys (ctrl : Controller) (events : List (Stroke κ)) : Prop :=
  Sound ∅ (deviceStrokes vkOf ctrl events) ∧
    ∀ pre, pre <+: events → final Stroke.apply ∅ pre = ∅ →
      final Stroke.apply ∅ (deviceStrokes vkOf ctrl pre) = ∅

/-! ## The strokes outside Alt -/

/-- A stroke of a key in the table, while Alt is not held. -/
def plainStroke (held : Finset κ) (e : Stroke κ) : List (Stroke UInt32) :=
  if altHeld vkOf (e.apply held) = false ∧ vkToAndroidKeycode (vkOf e.key) ≠ 0 then [e.map vkOf]
  else []

/-- The presses and releases of mapped virtual keys that happen while Alt is not held. -/
def plainStrokes (events : List (Stroke κ)) : List (Stroke UInt32) :=
  emits Stroke.apply (plainStroke vkOf) ∅ events

/-- The plain strokes are consistent by themselves: each release follows a press of the same virtual
key, and whenever no physical key is held every press has been released. -/
def PlainConsistent (events : List (Stroke κ)) : Prop :=
  Sound ∅ (plainStrokes vkOf events) ∧
    ∀ pre, pre <+: events → final Stroke.apply ∅ pre = ∅ →
      final Stroke.apply ∅ (plainStrokes vkOf pre) = ∅

instance (ctrl : Controller) (events : List (Stroke κ)) :
    Decidable (NoStuckKeys vkOf ctrl events) :=
  decidable_of_iff (Sound ∅ (deviceStrokes vkOf ctrl events) ∧
    ∀ pre ∈ events.inits, final Stroke.apply ∅ pre = ∅ →
      final Stroke.apply ∅ (deviceStrokes vkOf ctrl pre) = ∅) (by simp [NoStuckKeys])

instance (events : List (Stroke κ)) : Decidable (PlainConsistent vkOf events) :=
  decidable_of_iff (Sound ∅ (plainStrokes vkOf events) ∧
    ∀ pre ∈ events.inits, final Stroke.apply ∅ pre = ∅ →
      final Stroke.apply ∅ (plainStrokes vkOf pre) = ∅) (by simp [PlainConsistent])

end Keyboard

/-! ## What one event injects -/

/-- The virtual keys in the table. -/
def mapped : Set UInt32 := {vk | vkToAndroidKeycode vk ≠ 0}

theorem injOn_mapped : Set.InjOn vkToAndroidKeycode mapped := by
  intro vk hvk vk' _ heq
  exact vkToAndroidKeycode_inj hvk heq

/-- The key codes that the shortcuts tap. -/
def shortcutCodes : List UInt32 := [26, 24, 25, 82, 187]

theorem shortcut_not_mapped {kc vk : UInt32} (h : kc ∈ shortcutCodes) (hvk : vk ∈ mapped) :
    vkToAndroidKeycode vk ≠ kc := by
  rintro rfl
  have hmem := List.mem_map_of_mem (f := Prod.snd) (mem_vkMap hvk)
  have hnodup : (shortcutCodes ++ vkMap.map Prod.snd).Nodup := by decide +kernel
  exact List.disjoint_of_nodup_append hnodup h hmem

theorem stroke_sendKeycode (held : UInt32 → Bool) (kc : UInt32) (down : Bool) :
    (sendKeycode held kc down).stroke = some ⟨kc, down⟩ := by
  cases down <;> rfl

/-- A shortcut taps one of its codes or injects no key. -/
theorem strokes_altShortcut (held : UInt32 → Bool) (vk : UInt32) :
    ((altShortcut held vk).getD []).filterMap ControlMsg.stroke = [] ∨
      ∃ kc ∈ shortcutCodes,
        ((altShortcut held vk).getD []).filterMap ControlMsg.stroke = tap kc := by
  unfold altShortcut
  split_ifs
  · exact Or.inr ⟨26, by decide, rfl⟩
  · exact Or.inl rfl
  · exact Or.inr ⟨24, by decide, rfl⟩
  · exact Or.inr ⟨25, by decide, rfl⟩
  · exact Or.inr ⟨82, by decide, rfl⟩
  · exact Or.inr ⟨187, by decide, rfl⟩
  · exact Or.inl rfl
  · exact Or.inl rfl

section Runs

variable {κ : Type} [DecidableEq κ] {vkOf : κ → UInt32} {ctrl : Controller}

variable (vkOf) in
/-- An event injects its plain stroke, or there is none and it injects at most a tap. -/
theorem strokesFor_cases (hctrl : ctrl.enabled = true) (held : Finset κ) (e : Stroke κ) :
    (strokesFor vkOf ctrl held e = (plainStroke vkOf held e).map (Stroke.map vkToAndroidKeycode)) ∨
      plainStroke vkOf held e = [] ∧
        ∃ kc ∈ shortcutCodes, strokesFor vkOf ctrl held e = tap kc := by
  have hon : ¬ ctrl.enabled = false := by simp [hctrl]
  unfold strokesFor keyMessages controllerOnKeyEvent plainStroke altHeld
  rw [if_neg hon]
  cases halt : getKeyState vkOf (e.apply held) VK_MENU with
  | true =>
    simp only [if_true, Bool.true_eq_false, false_and, if_false, List.map_nil, true_and]
    cases e.down with
    | true =>
      simp only [if_true]
      exact strokes_altShortcut _ _
    | false => exact Or.inl rfl
  | false =>
    refine Or.inl ?_
    simp only [Bool.false_eq_true, if_false, true_and, injectKey]
    by_cases hkc : vkToAndroidKeycode (vkOf e.key) = 0
    · simp [hkc]
    · rw [if_neg hkc, if_pos hkc, List.filterMap_cons_some (stroke_sendKeycode _ _ _)]
      rfl

theorem plainStroke_mapped {held : Finset κ} {e : Stroke κ} {p : Stroke UInt32}
    (h : p ∈ plainStroke vkOf held e) : p.key ∈ mapped := by
  unfold plainStroke at h
  split_ifs at h with hc
  · rw [List.mem_singleton.1 h]
    exact hc.2
  · cases h

variable (vkOf) in
theorem plainStroke_length (held : Finset κ) (e : Stroke κ) :
    plainStroke vkOf held e = [] ∨ ∃ p, plainStroke vkOf held e = [p] := by
  unfold plainStroke
  split_ifs
  · exact Or.inr ⟨_, rfl⟩
  · exact Or.inl rfl

variable (vkOf) in
theorem plainStrokes_mapped (events : List (Stroke κ)) :
    ∀ vk ∈ final Stroke.apply ∅ (plainStrokes vkOf events), vk ∈ mapped := by
  have run (l : List (Stroke UInt32)) (hl : ∀ p ∈ l, p.key ∈ mapped) :
      ∀ vk ∈ final Stroke.apply ∅ l, vk ∈ mapped := by
    induction l using List.reverseRecOn with
    | nil => simp
    | append_singleton l p ih =>
      rw [final_append_singleton]
      refine apply_subset (ih fun q hq => hl q (List.mem_append_left _ hq)) ?_
      exact hl p (by simp)
  refine run _ fun p hp => ?_
  obtain ⟨x, -, hx⟩ := List.mem_flatMap.1 hp
  exact plainStroke_mapped hx

/-- The strokes on the device are sound exactly when the plain strokes are, and leave the codes of
the keys down that the plain strokes leave down. -/
theorem deviceStrokes_final (hctrl : ctrl.enabled = true) (events : List (Stroke κ)) :
    (Sound ∅ (deviceStrokes vkOf ctrl events) ↔ Sound ∅ (plainStrokes vkOf events)) ∧
      final Stroke.apply ∅ (deviceStrokes vkOf ctrl events) =
        (final Stroke.apply ∅ (plainStrokes vkOf events)).image vkToAndroidKeycode := by
  induction events using List.reverseRecOn with
  | nil => exact ⟨Iff.rfl, rfl⟩
  | append_singleton events e ih =>
    obtain ⟨hsound, hfinal⟩ := ih
    have hmapped := plainStrokes_mapped vkOf events
    set held := final Stroke.apply ∅ events
    set down := final Stroke.apply ∅ (plainStrokes vkOf events)
    have hdevice : deviceStrokes vkOf ctrl (events ++ [e]) =
        deviceStrokes vkOf ctrl events ++ strokesFor vkOf ctrl held e :=
      emits_append_singleton ..
    have hplain : plainStrokes vkOf (events ++ [e]) =
        plainStrokes vkOf events ++ plainStroke vkOf held e :=
      emits_append_singleton ..
    rw [hdevice, hplain, sound_append, sound_append, final_append, final_append, hfinal, hsound]
    rcases strokesFor_cases vkOf hctrl held e with hs | ⟨hp, kc, hkc, hs⟩
    · rcases plainStroke_length vkOf held e with hp | ⟨p, hp⟩
      · rw [hs, hp]
        exact ⟨by simp, rfl⟩
      · have hkey : p.key ∈ mapped :=
          plainStroke_mapped (by rw [hp]; exact List.mem_singleton_self p)
        rw [hs, hp]
        simp only [List.map_cons, List.map_nil, sound_singleton]
        rw [ok_map_iff injOn_mapped hmapped hkey]
        exact ⟨Iff.rfl, apply_map injOn_mapped hmapped hkey⟩
    · have hfresh : kc ∉ down.image vkToAndroidKeycode := by
        intro hmem
        obtain ⟨vk, hvk, heq⟩ := Finset.mem_image.1 hmem
        exact shortcut_not_mapped hkc (hmapped vk hvk) heq
      rw [hs, hp, final_tap hfresh]
      exact ⟨by simp [sound_tap], rfl⟩

/-- The keys of the device are consistent exactly when the presses and releases of mapped keys that
happen outside Alt are consistent by themselves. -/
theorem noStuckKeys_iff (hctrl : ctrl.enabled = true) (events : List (Stroke κ)) :
    NoStuckKeys vkOf ctrl events ↔ PlainConsistent vkOf events := by
  rw [NoStuckKeys, PlainConsistent, (deviceStrokes_final hctrl events).1]
  refine and_congr_right fun _ => forall_congr' fun pre => ?_
  rw [(deviceStrokes_final hctrl pre).2, Finset.image_eq_empty]

end Runs

/-- A controller that is enabled, with a phone and a window half its size. -/
def sampleController : Controller := ⟨1080, 1920, 540, 960, true⟩

/-- `K` typed, then Alt and `A` for the app switch. -/
theorem noStuckKeys_iff_appSwitch :
    NoStuckKeys id sampleController
      [⟨0x4B, true⟩, ⟨0x4B, false⟩, ⟨VK_MENU, true⟩, ⟨0x41, true⟩, ⟨0x41, false⟩,
        ⟨VK_MENU, false⟩] :=
  (noStuckKeys_iff rfl _).2 (by decide)

/-- `K` pressed, Alt pressed, `K` released, Alt released. -/
def altDuringK : List (Stroke UInt32) :=
  [⟨0x4B, true⟩, ⟨VK_MENU, true⟩, ⟨0x4B, false⟩, ⟨VK_MENU, false⟩]

/-- Alt pressed, `K` pressed, Alt released, `K` released. -/
def kDuringAlt : List (Stroke UInt32) :=
  [⟨VK_MENU, true⟩, ⟨0x4B, true⟩, ⟨VK_MENU, false⟩, ⟨0x4B, false⟩]

/-- Both are consistent and end with no key held. The first leaves key code 39 down on the device,
and the second sends `ACTION_UP` for it while it is up. -/
theorem altDuringK_sticks :
    (Sound ∅ altDuringK ∧ final Stroke.apply ∅ altDuringK = ∅ ∧
        final Stroke.apply ∅ (deviceStrokes id sampleController altDuringK) = {39}) ∧
      (Sound ∅ kDuringAlt ∧ deviceStrokes id sampleController kDuringAlt = [⟨39, false⟩]) ∧
      ¬ NoStuckKeys id sampleController altDuringK ∧
      ¬ NoStuckKeys id sampleController kDuringAlt := by
  decide

end Autoscrcpy
