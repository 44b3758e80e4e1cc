import Autoscrcpy.Script.Fields

/-!
# Events for scripts

An event is packed into a message by a `script_dispatch_*` function, unpacked into Scheme values by
`scheme_dispatch_msg`, and handed to the registered callback by one of the `dispatch-*-event`
procedures of `lib/init.ss`. The last two disagree about a key event: the C code passes a boolean
for `down`, and the procedure asks whether it is zero.
-/

namespace Autoscrcpy

/-! ## Scheme -/

/-- The Scheme values that an event carries. -/
inductive SchemeValue where
  | integer (n : ℤ)
  | boolean (b : Bool)
  deriving DecidableEq, Repr

inductive SchemeError where
  | notANumber
  deriving DecidableEq, Repr

/-- `Sinteger` and `Sunsigned`, whose arguments are 64 bits wide. -/
def sinteger (n : ℤ) : SchemeValue := .integer n

def sunsigned (n : UInt32) : SchemeValue := .integer n.toNat

/-- `(zero? v)`, which raises an error when `v` is not a number. -/
def SchemeValue.isZero : SchemeValue → Except SchemeError SchemeValue
  | integer n => .ok (boolean (n = 0))
  | boolean _ => .error .notANumber

/-- `(not v)`: only `#f` is false. -/
def SchemeValue.not : SchemeValue → SchemeValue
  | boolean b => boolean !b
  | integer _ => boolean false

/-! ## The main thread -/

/-- What the main thread tells a script. -/
inductive ScriptEvent where
  | key (vk : UInt32) (down : Bool)
  | mouse (x y : Int32) (buttons action : UInt32)
  | frame (width height : UInt32)
  | connected
  | disconnected
  deriving DecidableEq, Repr

def scriptDispatchKeyEvent (vk : UInt32) (down : Bool) : ScriptMsg :=
  .ofWords .eventKey [vk, if down then 1 else 0]

def scriptDispatchMouseEvent (x y : Int32) (buttons action : UInt32) : ScriptMsg :=
  .ofWords .eventMouse [x.toUInt32, y.toUInt32, buttons, action]

def scriptDispatchFrameEvent (width height : UInt32) : ScriptMsg :=
  .ofWords .eventFrame [width, height]

def scriptDispatchConnect : ScriptMsg := .ofWords .eventConnected []

def scriptDispatchDisconnect : ScriptMsg := .ofWords .eventDisconnected []

/-- The message that an event puts on `to_scheme`. -/
def ScriptEvent.toMsg : ScriptEvent → ScriptMsg
  | key vk down => scriptDispatchKeyEvent vk down
  | mouse x y buttons action => scriptDispatchMouseEvent x y buttons action
  | frame width height => scriptDispatchFrameEvent width height
  | connected => scriptDispatchConnect
  | disconnected => scriptDispatchDisconnect

/-! ## `lib/init.ss` -/

/-- The callbacks of a script; none for `#f`. -/
structure EventCallbacks (γ : Type) where
  onKey : Option γ
  onMouse : Option γ
  onFrame : Option γ
  onConnect : Option γ
  onDisconnect : Option γ

/-- What Scheme is made to do: call a callback, or evaluate an expression. -/
inductive SchemeAction (γ : Type) where
  | call (callback : γ) (args : List SchemeValue)
  | eval (code : List UInt8)
  deriving DecidableEq, Repr

variable {γ : Type}

/-- A procedure that passes its arguments on to its callback. -/
def dispatchTo (callback : Option γ) (args : List SchemeValue) : List (SchemeAction γ) :=
  callback.toList.map fun c => .call c args

/-- `dispatch-key-event`. -/
def dispatchKeyEvent (callbacks : EventCallbacks γ) (vk down : SchemeValue) :
    Except SchemeError (List (SchemeAction γ)) :=
  match callbacks.onKey with
  | none => .ok []
  | some callback => do
      let zero ← down.isZero
      return [.call callback [vk, zero.not]]

/-- `dispatch-mouse-event`. -/
def dispatchMouseEvent (callbacks : EventCallbacks γ) (x y buttons action : SchemeValue) :
    List (SchemeAction γ) := dispatchTo callbacks.onMouse [x, y, buttons, action]

/-- `dispatch-frame-event`. -/
def dispatchFrameEvent (callbacks : EventCallbacks γ) (width height : SchemeValue) :
    List (SchemeAction γ) := dispatchTo callbacks.onFrame [width, height]

/-- `dispatch-connect-event`. -/
def dispatchConnectEvent (callbacks : EventCallbacks γ) : List (SchemeAction γ) :=
  dispatchTo callbacks.onConnect []

/-- `dispatch-disconnect-event`. -/
def dispatchDisconnectEvent (callbacks : EventCallbacks γ) : List (SchemeAction γ) :=
  dispatchTo callbacks.onDisconnect []

/-! ## The script thread -/

/-- `scheme_eval_string`, which ignores the empty string. -/
def schemeEvalString (code : List UInt8) : List (SchemeAction γ) :=
  if code = [] then [] else [.eval code]

/-- `scheme_dispatch_msg`, with `lib/init.ss` loaded. -/
def schemeDispatchMsg (callbacks : EventCallbacks γ) (msg : ScriptMsg) :
    Except SchemeError (List (SchemeAction γ)) :=
  match msg.type with
  | .injectText => .ok (schemeEvalString (cString (msg.data.take msg.dataSize.toNat)))
  | .eventKey =>
      if 8 ≤ msg.dataSize then
        dispatchKeyEvent callbacks (sinteger (msg.word 0).toNat) (.boolean (msg.word 1 ≠ 0))
      else .ok []
  | .eventMouse =>
      if 16 ≤ msg.dataSize then
        .ok (dispatchMouseEvent callbacks (sinteger (msg.word 0).toInt32.toInt)
          (sinteger (msg.word 1).toInt32.toInt) (sunsigned (msg.word 2)) (sunsigned (msg.word 3)))
      else .ok []
  | .eventFrame =>
      if 8 ≤ msg.dataSize then
        .ok (dispatchFrameEvent callbacks (sunsigned (msg.word 0)) (sunsigned (msg.word 1)))
      else .ok []
  | .eventConnected => .ok (dispatchConnectEvent callbacks)
  | .eventDisconnected => .ok (dispatchDisconnectEvent callbacks)
  | _ => .ok []

/-! ## From the main thread to the callback -/

/-- The callback that an event is for. -/
def ScriptEvent.callback (e : ScriptEvent) (callbacks : EventCallbacks γ) : Option γ :=
  match e with
  | key _ _ => callbacks.onKey
  | mouse .. => callbacks.onMouse
  | frame _ _ => callbacks.onFrame
  | connected => callbacks.onConnect
  | disconnected => callbacks.onDisconnect

/-- The values of an event, as the callback should get them: `down?` is a boolean. -/
def ScriptEvent.args : ScriptEvent → List SchemeValue
  | key vk down => [.integer vk.toNat, .boolean down]
  | mouse x y buttons action =>
      [.integer x.toInt, .integer y.toInt, .integer buttons.toNat, .integer action.toNat]
  | frame width height => [.integer width.toNat, .integer height.toNat]
  | connected => []
  | disconnected => []

def ScriptEvent.isKey : ScriptEvent → Bool
  | key _ _ => true
  | _ => false

/-- The event ends in one call of its callback, with its values and without an error. -/
def ScriptEvent.Arrives (e : ScriptEvent) (callbacks : EventCallbacks γ) : Prop :=
  ∃ c, e.callback callbacks = some c ∧ schemeDispatchMsg callbacks e.toMsg = .ok [.call c e.args]

/-- An event that is not a key event reaches its callback with its values; nothing happens when no
callback is registered. -/
theorem dispatch_of_not_key {e : ScriptEvent} (h : e.isKey = false)
    (callbacks : EventCallbacks γ) :
    schemeDispatchMsg callbacks e.toMsg = .ok (dispatchTo (e.callback callbacks) e.args) := by
  cases e with
  | key vk down => cases h
  | mouse x y buttons action =>
    have h0 : (scriptDispatchMouseEvent x y buttons action).word 0 = x.toUInt32 :=
      ScriptMsg.word_ofWords _ [] _ [_, _, _]
    have h1 : (scriptDispatchMouseEvent x y buttons action).word 1 = y.toUInt32 :=
      ScriptMsg.word_ofWords _ [_] _ [_, _]
    have h2 : (scriptDispatchMouseEvent x y buttons action).word 2 = buttons :=
      ScriptMsg.word_ofWords _ [_, _] _ [_]
    have h3 : (scriptDispatchMouseEvent x y buttons action).word 3 = action :=
      ScriptMsg.word_ofWords _ [_, _, _] _ []
    change Except.ok (dispatchMouseEvent callbacks
      (sinteger ((scriptDispatchMouseEvent x y buttons action).word 0).toInt32.toInt)
      (sinteger ((scriptDispatchMouseEvent x y buttons action).word 1).toInt32.toInt)
      (sunsigned ((scriptDispatchMouseEvent x y buttons action).word 2))
      (sunsigned ((scriptDispatchMouseEvent x y buttons action).word 3))) = _
    rw [h0, h1, h2, h3]
    rfl
  | frame width height =>
    have h0 : (scriptDispatchFrameEvent width height).word 0 = width :=
      ScriptMsg.word_ofWords _ [] _ [_]
    have h1 : (scriptDispatchFrameEvent width height).word 1 = height :=
      ScriptMsg.word_ofWords _ [_] _ []
    change Except.ok (dispatchFrameEvent callbacks
      (sunsigned ((scriptDispatchFrameEvent width height).word 0))
      (sunsigned ((scriptDispatchFrameEvent width height).word 1))) = _
    rw [h0, h1]
    rfl
  | connected => rfl
  | disconnected => rfl

/-- A key event raises an error as soon as a callback is registered for it. -/
theorem dispatch_key {callbacks : EventCallbacks γ} {c : γ} (h : callbacks.onKey = some c)
    (vk : UInt32) (down : Bool) :
    schemeDispatchMsg callbacks (ScriptEvent.key vk down).toMsg = .error .notANumber := by
  change dispatchKeyEvent callbacks _ (.boolean _) = _
  rw [dispatchKeyEvent, h]
  rfl

/-- For every event with a registered callback, the callback is called once with the values of the
event exactly when it is not a key event. -/
theorem event_arrives_iff (e : ScriptEvent) (callbacks : EventCallbacks γ)
    (h : (e.callback callbacks).isSome) : e.Arrives callbacks ↔ e.isKey = false := by
  obtain ⟨c, hc⟩ := Option.isSome_iff_exists.1 h
  constructor
  · rintro ⟨c', -, harrives⟩
    cases e with
    | key vk down =>
      rw [dispatch_key hc] at harrives
      cases harrives
    | _ => rfl
  · intro hkey
    refine ⟨c, hc, ?_⟩
    rw [dispatch_of_not_key hkey, hc]
    rfl

/-- A script with a callback for every event, each known by its number. -/
def allCallbacks : EventCallbacks ℕ := ⟨some 0, some 1, some 2, some 3, some 4⟩

theorem event_arrives_iff_frame :
    (ScriptEvent.frame 1080 1920).Arrives allCallbacks :=
  (event_arrives_iff _ allCallbacks rfl).2 rfl

/-- The letter A is pressed: the key callback is not called. -/
theorem key_event_fails :
    ¬ (ScriptEvent.key 65 true).Arrives allCallbacks ∧
      schemeDispatchMsg allCallbacks (ScriptEvent.key 65 true).toMsg = .error .notANumber := by
  have herror : schemeDispatchMsg allCallbacks (ScriptEvent.key 65 true).toMsg =
      .error .notANumber := dispatch_key rfl 65 true
  refine ⟨?_, herror⟩
  rintro ⟨c, -, h⟩
  rw [herror] at h
  cases h

end Autoscrcpy
