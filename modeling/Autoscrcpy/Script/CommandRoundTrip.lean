import Autoscrcpy.Script.MessageQueue
import Autoscrcpy.Script.Commands

/-!
# Script commands and their handlers

Commands are sent on `to_main` and handled by one call of `script_process_messages` with all
callbacks set. The numbers of a command arrive as they are, and of a text the first 255 bytes, which
the `c_*` function keeps (`handleCommands_sendCommands`). So what arrives is what was sent exactly
when no text is longer (`exactlyHandled_iff`).
-/

namespace Autoscrcpy

open ScriptMsgQueue (Holds)

/-! ## The arguments of a command -/

/-- The text argument of a command, if it has one, is such that `P`. -/
def ScriptCommand.Text (P : Option (List UInt8) → Prop) : ScriptCommand → Prop
  | injectText text => P text
  | setClipboard text => P text
  | startApp package => P package
  | _ => True

/-- The text is given, and it is a C string. -/
def ScriptCommand.Plain : ScriptCommand → Prop := Text fun text => ∃ t, text = some t ∧ 0 ∉ t

/-- The text fits in a message with its NUL. -/
def ScriptCommand.Fits : ScriptCommand → Prop :=
  Text fun text => ∀ t ∈ text, t.length ≤ SCRIPT_MSG_MAX_DATA_SIZE - 1

/-- The command with its text cut to what a message has room for, in front of the NUL. -/
def ScriptCommand.cut : ScriptCommand → ScriptCommand
  | injectText text => injectText (text.map (·.take (SCRIPT_MSG_MAX_DATA_SIZE - 1)))
  | setClipboard text => setClipboard (text.map (·.take (SCRIPT_MSG_MAX_DATA_SIZE - 1)))
  | startApp package => startApp (package.map (·.take (SCRIPT_MSG_MAX_DATA_SIZE - 1)))
  | c => c

/-- The call of a command's callback with exactly its arguments. -/
def ScriptCommand.exactCall : ScriptCommand → Option HandlerCall
  | injectKeycode keycode down => some (.injectKeycode keycode down)
  | injectText text => text.map .injectText
  | injectTouch x y action => some (.injectTouch x y action)
  | injectScroll x y dx dy => some (.injectScroll x y dx dy)
  | setClipboard text => text.map .setClipboard
  | expandNotification => some .expandNotification
  | collapsePanels => some .collapsePanels
  | setDisplayPower on => some (.setDisplayPower on)
  | rotateDevice => some .rotateDevice
  | startApp package => package.map .startApp

theorem commandText_of_plain {text : Option (List UInt8)} (h : ∃ t, text = some t ∧ 0 ∉ t) :
    commandText text = text.map (·.take (SCRIPT_MSG_MAX_DATA_SIZE - 1)) := by
  obtain ⟨t, rfl, ht⟩ := h
  rw [commandText, Option.map_some, ScriptMsg.cString_of_notMem ht]
  rfl

/-- The call that a command causes has the arguments of the command that is cut. -/
theorem call_eq_exactCall_cut {c : ScriptCommand} (h : c.Plain) : c.call = c.cut.exactCall := by
  have hmap : ∀ {text : Option (List UInt8)} (call : List UInt8 → HandlerCall),
      (∃ t, text = some t ∧ 0 ∉ t) → (commandText text).map call =
        (text.map (·.take (SCRIPT_MSG_MAX_DATA_SIZE - 1))).map call :=
    fun call h => congrArg (Option.map call) (commandText_of_plain h)
  cases c with
  | injectText text => exact hmap .injectText h
  | setClipboard text => exact hmap .setClipboard h
  | startApp package => exact hmap .startApp h
  | _ => rfl

/-- A command whose text fits is not changed, and no other command is. -/
theorem exactCall_cut_iff {c : ScriptCommand} (h : c.Plain) :
    c.cut.exactCall = c.exactCall ↔ c.Fits := by
  cases c with
  | injectText text =>
    obtain ⟨t, rfl, -⟩ := h
    simp [ScriptCommand.cut, ScriptCommand.exactCall, ScriptCommand.Fits, ScriptCommand.Text]
  | setClipboard text =>
    obtain ⟨t, rfl, -⟩ := h
    simp [ScriptCommand.cut, ScriptCommand.exactCall, ScriptCommand.Fits, ScriptCommand.Text]
  | startApp package =>
    obtain ⟨t, rfl, -⟩ := h
    simp [ScriptCommand.cut, ScriptCommand.exactCall, ScriptCommand.Fits, ScriptCommand.Text]
  | _ => exact iff_of_true rfl trivial

/-! ## From the script to the handlers -/

/-- Each command is sent. -/
def sendCommands (q : ScriptMsgQueue ScriptMsg) (cmds : List ScriptCommand) :
    ScriptMsgQueue ScriptMsg :=
  (cmds.filterMap ScriptCommand.toMsg).foldl (fun q msg => (q.send msg).2) q

/-- One call of `script_process_messages` on the queue, with all callbacks set: the number that it
returns, and the calls in order. -/
def handleCommands (q : ScriptMsgQueue ScriptMsg) : ℕ × List HandlerCall :=
  scriptProcessMessages .complete q.tryRecvAll

/-- The number of the commands is returned, and in order the callback of each of them is called with
exactly its arguments. -/
def ExactlyHandled (cmds : List ScriptCommand) (r : ℕ × List HandlerCall) : Prop :=
  r.1 = cmds.length ∧ r.2.map some = cmds.map ScriptCommand.exactCall

/-- With room for all of them, the messages come to be in the queue. -/
theorem holds_foldl_send {q : ScriptMsgQueue ScriptMsg} {msgs : List ScriptMsg}
    (h : q.Holds msgs) (new : List ScriptMsg)
    (hroom : msgs.length + new.length ≤ SCRIPT_MSG_QUEUE_CAPACITY) :
    (new.foldl (fun q msg => (q.send msg).2) q).Holds (msgs ++ new) := by
  induction new generalizing q msgs with
  | nil => rwa [List.append_nil]
  | cons msg new ih =>
    rw [List.length_cons] at hroom
    obtain ⟨-, hnext⟩ := h.send (by omega) msg
    rw [List.foldl_cons, List.append_cons]
    exact ih hnext (by rw [List.length_append, List.length_singleton]; omega)

/-- A command whose text is given sends a message. -/
theorem isSome_toMsg {c : ScriptCommand} (h : c.Plain) : c.toMsg.isSome := by
  cases c with
  | injectText text =>
    obtain ⟨t, rfl, -⟩ := h
    rfl
  | setClipboard text =>
    obtain ⟨t, rfl, -⟩ := h
    rfl
  | startApp package =>
    obtain ⟨t, rfl, -⟩ := h
    rfl
  | _ => rfl

/-- Where every element has an image, `filterMap` is `map`. -/
theorem map_some_filterMap {α β : Type*} {f : α → Option β} {l : List α}
    (h : ∀ a ∈ l, (f a).isSome) : (l.filterMap f).map some = l.map f := by
  induction l with
  | nil => rfl
  | cons a l ih =>
    obtain ⟨b, hb⟩ := Option.isSome_iff_exists.1 (h a (List.mem_cons_self ..))
    rw [List.filterMap_cons_some hb, List.map_cons, List.map_cons, hb,
      ih fun a ha => h a (List.mem_cons_of_mem _ ha)]

/-- Every command is counted, and calls its callback. -/
theorem handleCommands_eq {q : ScriptMsgQueue ScriptMsg} (hq : q.Holds [])
    {cmds : List ScriptCommand} (hroom : cmds.length ≤ SCRIPT_MSG_QUEUE_CAPACITY)
    (hplain : ∀ c ∈ cmds, c.Plain) :
    (handleCommands (sendCommands q cmds)).1 = cmds.length ∧
      (handleCommands (sendCommands q cmds)).2.map some =
        cmds.map fun c => c.cut.exactCall := by
  have hlen : (cmds.filterMap ScriptCommand.toMsg).length = cmds.length := by
    rw [← List.length_map some, map_some_filterMap fun c hc => isSome_toMsg (hplain c hc),
      List.length_map]
  have hholds : (sendCommands q cmds).Holds (cmds.filterMap ScriptCommand.toMsg) :=
    holds_foldl_send hq _ (by rw [List.length_nil, Nat.zero_add, hlen]; exact hroom)
  have hcall : ∀ c ∈ cmds, c.call.isSome := fun c hc => by
    rw [Option.isSome_iff_ne_none, ne_eq, call_eq_none_iff, ← ne_eq, ← Option.isSome_iff_ne_none]
    exact isSome_toMsg (hplain c hc)
  rw [handleCommands, hholds.received, scriptProcessMessages_eq, List.filterMap_filterMap]
  simp only [processMessage_complete]
  refine ⟨hlen, (map_some_filterMap hcall).trans ?_⟩
  exact List.map_congr_left fun c hc => call_eq_exactCall_cut (hplain c hc)

/-- Commands that an idle queue has room for are handled with exactly their arguments if and only if
each text is at most 255 bytes long. -/
theorem exactlyHandled_iff {q : ScriptMsgQueue ScriptMsg} (hq : q.Holds [])
    {cmds : List ScriptCommand} (hroom : cmds.length ≤ SCRIPT_MSG_QUEUE_CAPACITY)
    (hplain : ∀ c ∈ cmds, c.Plain) :
    ExactlyHandled cmds (handleCommands (sendCommands q cmds)) ↔ ∀ c ∈ cmds, c.Fits := by
  obtain ⟨hcount, hcalls⟩ := handleCommands_eq hq hroom hplain
  rw [ExactlyHandled, hcalls, List.map_inj_left, and_iff_right hcount]
  exact forall₂_congr fun c hc => exactCall_cut_iff (hplain c hc)

/-- Commands that an idle queue has room for are handled in order, each with exactly its arguments,
where a text is cut to 255 bytes. -/
theorem handleCommands_sendCommands {q : ScriptMsgQueue ScriptMsg} (hq : q.Holds [])
    {cmds : List ScriptCommand} (hroom : cmds.length ≤ SCRIPT_MSG_QUEUE_CAPACITY)
    (hplain : ∀ c ∈ cmds, c.Plain) :
    ExactlyHandled (cmds.map ScriptCommand.cut) (handleCommands (sendCommands q cmds)) := by
  obtain ⟨hcount, hcalls⟩ := handleCommands_eq hq hroom hplain
  refine ⟨?_, ?_⟩
  · rw [hcount, List.length_map]
  · rw [hcalls, List.map_map]
    rfl

/-- The queue of an engine that has just started. -/
def newToMain : ScriptMsgQueue ScriptMsg := .init (.ofType .injectKeycode)

theorem holds_newToMain : newToMain.Holds [] := ScriptMsgQueue.holds_init _

/-- A key press and a text of 256 bytes. -/
def longCommands : List ScriptCommand :=
  [.injectKeycode 4 1, .injectText (some (List.replicate 256 97))]

theorem plain_longCommands : ∀ c ∈ longCommands, c.Plain := by
  intro c hc
  obtain rfl | rfl := List.mem_pair.1 hc
  · trivial
  · exact ⟨_, rfl, fun h => absurd (List.eq_of_mem_replicate h) (by decide)⟩

theorem handleCommands_longCommands :
    longCommands.length ≤ SCRIPT_MSG_QUEUE_CAPACITY ∧
      ExactlyHandled (longCommands.map ScriptCommand.cut)
        (handleCommands (sendCommands newToMain longCommands)) := by
  have hroom : longCommands.length ≤ SCRIPT_MSG_QUEUE_CAPACITY := by decide
  exact ⟨hroom, handleCommands_sendCommands holds_newToMain hroom plain_longCommands⟩

/-- The handler of the long text is given its first 255 bytes. -/
theorem exactlyHandled_fails :
    (∀ c ∈ longCommands, c.Plain) ∧
      ¬ ExactlyHandled longCommands (handleCommands (sendCommands newToMain longCommands)) := by
  refine ⟨plain_longCommands, ?_⟩
  rw [exactlyHandled_iff holds_newToMain (by decide) plain_longCommands]
  intro hfits
  have hlen : (List.replicate 256 (97 : UInt8)).length ≤ 255 :=
    hfits _ (List.mem_pair.2 (Or.inr rfl)) _ rfl
  rw [List.length_replicate] at hlen
  omega

end Autoscrcpy
