import Autoscrcpy.Script.Fields

/-!
# Script commands

A command of a script passes through its `c_*` function, the queue `to_main` and the dispatcher
`script_process_messages`, which calls one of ten optional handlers. With all handlers given, every
command that is sent reaches its handler with its arguments (`processMessage_complete`).
`application_run` gives none of them, so the dispatcher takes each command off the queue, counts it
and does nothing.
-/

namespace Autoscrcpy

/-! ## What a script sends -/

/-- The commands of a script; no text for a null pointer. -/
inductive ScriptCommand where
  | injectKeycode (keycode down : Int32)
  | injectText (text : Option (List UInt8))
  | injectTouch (x y action : Int32)
  | injectScroll (x y dx dy : Int32)
  | setClipboard (text : Option (List UInt8))
  | expandNotification
  | collapsePanels
  | setDisplayPower (on : Int32)
  | rotateDevice
  | startApp (package : Option (List UInt8))
  deriving DecidableEq, Repr

/-- A command with a C string, which returns at once for a null pointer. -/
def textCommand (type : ScriptMsgType) (text : Option (List UInt8)) : Option ScriptMsg :=
  text.map fun t => .ofText type (cString t)

def cInjectKeycode (keycode down : Int32) : ScriptMsg :=
  .ofWords .injectKeycode [keycode.toUInt32, down.toUInt32]

def cInjectText : Option (List UInt8) → Option ScriptMsg := textCommand .injectText

def cInjectTouch (x y action : Int32) : ScriptMsg :=
  .ofWords .injectTouch [x.toUInt32, y.toUInt32, action.toUInt32]

def cInjectScroll (x y dx dy : Int32) : ScriptMsg :=
  .ofWords .injectScroll [x.toUInt32, y.toUInt32, dx.toUInt32, dy.toUInt32]

def cSetClipboard : Option (List UInt8) → Option ScriptMsg := textCommand .setClipboard

def cExpandNotification : ScriptMsg := .ofWords .expandNotification []

def cCollapsePanels : ScriptMsg := .ofWords .collapsePanels []

def cSetDisplayPower (on : Int32) : ScriptMsg := .ofWords .setDisplayPower [on.toUInt32]

def cRotateDevice : ScriptMsg := .ofWords .rotateDevice []

def cStartApp : Option (List UInt8) → Option ScriptMsg := textCommand .startApp

/-- The message that a command puts on `to_main`, if any. -/
def ScriptCommand.toMsg : ScriptCommand → Option ScriptMsg
  | injectKeycode keycode down => some (cInjectKeycode keycode down)
  | injectText text => cInjectText text
  | injectTouch x y action => some (cInjectTouch x y action)
  | injectScroll x y dx dy => some (cInjectScroll x y dx dy)
  | setClipboard text => cSetClipboard text
  | expandNotification => some cExpandNotification
  | collapsePanels => some cCollapsePanels
  | setDisplayPower on => some (cSetDisplayPower on)
  | rotateDevice => some cRotateDevice
  | startApp package => cStartApp package

/-! ## The dispatcher -/

/-- The callbacks of `script_process_messages`, by what each of them does; none for a null pointer.
-/
structure ScriptCallbacks (δ : Type*) where
  onInjectKeycode : Option (Int32 → Int32 → δ)
  onInjectText : Option (List UInt8 → δ)
  onInjectTouch : Option (Int32 → Int32 → Int32 → δ)
  onInjectScroll : Option (Int32 → Int32 → Int32 → Int32 → δ)
  onSetClipboard : Option (List UInt8 → δ)
  onExpandNotification : Option δ
  onCollapsePanels : Option δ
  onSetDisplayPower : Option (Int32 → δ)
  onRotateDevice : Option δ
  onStartApp : Option (List UInt8 → δ)
  onQuery : QueryKind → Option δ

/-- `memcpy` of an `int` from `data + 4 * i`. -/
def ScriptMsg.int (msg : ScriptMsg) (i : ℕ) : Int32 := (msg.word i).toInt32

/-- The body of the loop of `script_process_messages`: what the callback for a message does, if
there is one and the message is long enough. -/
def processMessage {δ : Type*} (callbacks : ScriptCallbacks δ) (msg : ScriptMsg) : Option δ :=
  match msg.type with
  | .injectKeycode =>
      if 8 ≤ msg.dataSize then callbacks.onInjectKeycode.map fun f => f (msg.int 0) (msg.int 1)
      else none
  | .injectText => callbacks.onInjectText.map fun f => f msg.text
  | .injectTouch =>
      if 12 ≤ msg.dataSize then
        callbacks.onInjectTouch.map fun f => f (msg.int 0) (msg.int 1) (msg.int 2)
      else none
  | .injectScroll =>
      if 16 ≤ msg.dataSize then
        callbacks.onInjectScroll.map fun f => f (msg.int 0) (msg.int 1) (msg.int 2) (msg.int 3)
      else none
  | .setClipboard => callbacks.onSetClipboard.map fun f => f msg.text
  | .expandNotification => callbacks.onExpandNotification
  | .collapsePanels => callbacks.onCollapsePanels
  | .setDisplayPower =>
      if 4 ≤ msg.dataSize then callbacks.onSetDisplayPower.map fun f => f (msg.int 0) else none
  | .rotateDevice => callbacks.onRotateDevice
  | .startApp => callbacks.onStartApp.map fun f => f msg.text
  | type => type.query.bind callbacks.onQuery

/-- `script_process_messages` on the messages that `script_msg_queue_try_recv` returns: how many it
counts, and what the callbacks do. -/
def scriptProcessMessages {δ : Type*} (callbacks : ScriptCallbacks δ) :
    List ScriptMsg → ℕ × List δ
  | [] => (0, [])
  | msg :: msgs =>
      let r := scriptProcessMessages callbacks msgs
      (r.1 + 1, (processMessage callbacks msg).toList ++ r.2)

/-- Every message is counted, whether a callback was called or not. -/
theorem scriptProcessMessages_eq {δ : Type*} (callbacks : ScriptCallbacks δ)
    (msgs : List ScriptMsg) :
    scriptProcessMessages callbacks msgs =
      (msgs.length, msgs.filterMap (processMessage callbacks)) := by
  induction msgs with
  | nil => rfl
  | cons msg msgs ih =>
    rw [scriptProcessMessages, ih]
    cases h : processMessage callbacks msg <;> simp [h]

/-! ## The handlers -/

/-- A call of a callback: a command with its arguments, or a query. -/
inductive HandlerCall where
  | injectKeycode (keycode down : Int32)
  | injectText (text : List UInt8)
  | injectTouch (x y action : Int32)
  | injectScroll (x y dx dy : Int32)
  | setClipboard (text : List UInt8)
  | expandNotification
  | collapsePanels
  | setDisplayPower (on : Int32)
  | rotateDevice
  | startApp (package : List UInt8)
  | query (kind : QueryKind)
  deriving DecidableEq, Repr

/-- A call that acts on the device. -/
def HandlerCall.isCommand : HandlerCall → Bool
  | query _ => false
  | _ => true

/-- All callbacks, each recording its call. -/
def ScriptCallbacks.complete : ScriptCallbacks HandlerCall where
  onInjectKeycode := some .injectKeycode
  onInjectText := some .injectText
  onInjectTouch := some .injectTouch
  onInjectScroll := some .injectScroll
  onSetClipboard := some .setClipboard
  onExpandNotification := some .expandNotification
  onCollapsePanels := some .collapsePanels
  onSetDisplayPower := some .setDisplayPower
  onRotateDevice := some .rotateDevice
  onStartApp := some .startApp
  onQuery kind := some (.query kind)

/-- The callbacks that `application_run` passes: null pointers for the commands. -/
def applicationRunCallbacks : ScriptCallbacks HandlerCall where
  onInjectKeycode := none
  onInjectText := none
  onInjectTouch := none
  onInjectScroll := none
  onSetClipboard := none
  onExpandNotification := none
  onCollapsePanels := none
  onSetDisplayPower := none
  onRotateDevice := none
  onStartApp := none
  onQuery kind := some (.query kind)

/-- The text of a command as its handler gets it. -/
def commandText (text : Option (List UInt8)) : Option (List UInt8) :=
  text.map fun t => (cString t).take 255

/-- The call of the handler that a command is meant for; none for a command that sends nothing. -/
def ScriptCommand.call : ScriptCommand → Option HandlerCall
  | injectKeycode keycode down => some (.injectKeycode keycode down)
  | injectText text => (commandText text).map .injectText
  | injectTouch x y action => some (.injectTouch x y action)
  | injectScroll x y dx dy => some (.injectScroll x y dx dy)
  | setClipboard text => (commandText text).map .setClipboard
  | expandNotification => some .expandNotification
  | collapsePanels => some .collapsePanels
  | setDisplayPower on => some (.setDisplayPower on)
  | rotateDevice => some .rotateDevice
  | startApp package => (commandText package).map .startApp

theorem zero_notMem_cString (bytes : List UInt8) : 0 ∉ cString bytes := by
  intro h
  simpa using List.mem_takeWhile_imp h

@[simp] theorem text_textCommand (type : ScriptMsgType) (text : List UInt8) :
    (ScriptMsg.ofText type (cString text)).text = (cString text).take 255 :=
  ScriptMsg.text_ofText type (zero_notMem_cString text)

/-- The numbers of a message, read back as signed ones. -/
theorem int_ofWords (type : ScriptMsgType) (pre : List UInt32) (value : Int32)
    (post : List UInt32) :
    (ScriptMsg.ofWords type (pre ++ value.toUInt32 :: post)).int pre.length = value := by
  rw [ScriptMsg.int, ScriptMsg.word_ofWords]
  rfl

/-- Given all callbacks, every command that is sent reaches its handler with its arguments. -/
theorem processMessage_complete (c : ScriptCommand) :
    c.toMsg.bind (processMessage .complete) = c.call := by
  cases c with
  | injectKeycode keycode down =>
    have h0 : (cInjectKeycode keycode down).int 0 = keycode := int_ofWords _ [] _ [_]
    have h1 : (cInjectKeycode keycode down).int 1 = down := int_ofWords _ [_] _ []
    change some (HandlerCall.injectKeycode ((cInjectKeycode keycode down).int 0)
      ((cInjectKeycode keycode down).int 1)) = _
    rw [h0, h1]
    rfl
  | injectText text =>
    cases text with
    | none => rfl
    | some t => exact congrArg (fun a => some (HandlerCall.injectText a)) (text_textCommand _ t)
  | injectTouch x y action =>
    have h0 : (cInjectTouch x y action).int 0 = x := int_ofWords _ [] _ [_, _]
    have h1 : (cInjectTouch x y action).int 1 = y := int_ofWords _ [_] _ [_]
    have h2 : (cInjectTouch x y action).int 2 = action := int_ofWords _ [_, _] _ []
    change some (HandlerCall.injectTouch ((cInjectTouch x y action).int 0)
      ((cInjectTouch x y action).int 1) ((cInjectTouch x y action).int 2)) = _
    rw [h0, h1, h2]
    rfl
  | injectScroll x y dx dy =>
    have h0 : (cInjectScroll x y dx dy).int 0 = x := int_ofWords _ [] _ [_, _, _]
    have h1 : (cInjectScroll x y dx dy).int 1 = y := int_ofWords _ [_] _ [_, _]
    have h2 : (cInjectScroll x y dx dy).int 2 = dx := int_ofWords _ [_, _] _ [_]
    have h3 : (cInjectScroll x y dx dy).int 3 = dy := int_ofWords _ [_, _, _] _ []
    change some (HandlerCall.injectScroll ((cInjectScroll x y dx dy).int 0)
      ((cInjectScroll x y dx dy).int 1) ((cInjectScroll x y dx dy).int 2)
      ((cInjectScroll x y dx dy).int 3)) = _
    rw [h0, h1, h2, h3]
    rfl
  | setClipboard text =>
    cases text with
    | none => rfl
    | some t => exact congrArg (fun a => some (HandlerCall.setClipboard a)) (text_textCommand _ t)
  | expandNotification => rfl
  | collapsePanels => rfl
  | setDisplayPower on =>
    exact congrArg (fun a => some (HandlerCall.setDisplayPower a)) (int_ofWords _ [] on [])
  | rotateDevice => rfl
  | startApp package =>
    cases package with
    | none => rfl
    | some t => exact congrArg (fun a => some (HandlerCall.startApp a)) (text_textCommand _ t)

/-! ## The main loop -/

/-- What a script puts on `to_main`. -/
inductive ScriptRequest where
  | command (c : ScriptCommand)
  | query (kind : QueryKind)
  deriving DecidableEq, Repr

/-- The message of a request, if it sends one. -/
def ScriptRequest.toMsg : ScriptRequest → Option ScriptMsg
  | command c => c.toMsg
  | query kind => some (.ofType kind.requestType)

/-- The command handler's call that a request is meant for. -/
def ScriptRequest.call : ScriptRequest → Option HandlerCall
  | command c => c.call
  | query _ => none

/-- In order, the calls of command handlers that one call of `script_process_messages` makes for the
messages of `requests`. -/
def commandCalls (callbacks : ScriptCallbacks HandlerCall) (requests : List ScriptRequest) :
    List HandlerCall :=
  (scriptProcessMessages callbacks (requests.filterMap ScriptRequest.toMsg)).2.filter
    HandlerCall.isCommand

/-- Every command calls its handler, in order, so that none is counted and discarded. -/
def CommandsTakeEffect (callbacks : ScriptCallbacks HandlerCall) (requests : List ScriptRequest) :
    Prop :=
  commandCalls callbacks requests = requests.filterMap ScriptRequest.call

theorem commandCalls_eq (callbacks : ScriptCallbacks HandlerCall) (requests : List ScriptRequest) :
    commandCalls callbacks requests =
      requests.filterMap fun r =>
        (r.toMsg.bind (processMessage callbacks)).filter HandlerCall.isCommand := by
  rw [commandCalls, scriptProcessMessages_eq, List.filterMap_filterMap, List.filter_filterMap]

/-- A call of a command handler stays one. -/
theorem filter_call (c : ScriptCommand) : c.call.filter HandlerCall.isCommand = c.call := by
  cases c with
  | injectText text => cases text <;> rfl
  | setClipboard text => cases text <;> rfl
  | startApp package => cases package <;> rfl
  | _ => rfl

/-- A command that sends a message is meant for a handler. -/
theorem call_eq_none_iff (c : ScriptCommand) : c.call = none ↔ c.toMsg = none := by
  cases c <;>
    simp [ScriptCommand.call, ScriptCommand.toMsg, commandText, cInjectText, cSetClipboard,
      cStartApp, textCommand]

/-- With all handlers given, the commands of every sequence of requests would take effect. -/
theorem commandsTakeEffect_complete (requests : List ScriptRequest) :
    CommandsTakeEffect .complete requests := by
  rw [CommandsTakeEffect, commandCalls_eq]
  congr 1
  funext r
  cases r with
  | command c =>
    exact (congrArg _ (processMessage_complete c)).trans (filter_call c)
  | query kind => cases kind <;> rfl

/-- `application_run` has no handler for a command. -/
theorem processMessage_command (c : ScriptCommand) :
    c.toMsg.bind (processMessage applicationRunCallbacks) = none := by
  cases c with
  | injectText text => cases text <;> rfl
  | setClipboard text => cases text <;> rfl
  | startApp package => cases package <;> rfl
  | _ => rfl

/-- With the callbacks of `application_run`, the commands among the messages take effect exactly
when there are none: every command is discarded. -/
theorem commandsTakeEffect_iff (requests : List ScriptRequest) :
    CommandsTakeEffect applicationRunCallbacks requests ↔
      ∀ c, .command c ∈ requests → c.toMsg = none := by
  have hnone : commandCalls applicationRunCallbacks requests = [] := by
    rw [commandCalls_eq, List.filterMap_eq_nil_iff]
    intro r _
    cases r with
    | command c =>
      exact (congrArg _ (processMessage_command c)).trans rfl
    | query kind => cases kind <;> rfl
  rw [CommandsTakeEffect, hnone, eq_comm, List.filterMap_eq_nil_iff]
  constructor
  · intro h c hc
    exact (call_eq_none_iff c).1 (h _ hc)
  · intro h r hr
    cases r with
    | command c => exact (call_eq_none_iff c).2 (h c hr)
    | query kind => rfl

/-- The back key, pressed. -/
def pressBack : List ScriptRequest := [.command (.injectKeycode 4 1)]

/-- It is counted as processed, and no handler is called. -/
theorem pressBack_discarded :
    ¬ CommandsTakeEffect applicationRunCallbacks pressBack ∧
      scriptProcessMessages applicationRunCallbacks (pressBack.filterMap ScriptRequest.toMsg) =
        (1, []) := by
  refine ⟨?_, by decide⟩
  rw [CommandsTakeEffect]
  decide

end Autoscrcpy
