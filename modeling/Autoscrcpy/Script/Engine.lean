import Autoscrcpy.Script.Commands
import Autoscrcpy.Script.Events
import Autoscrcpy.Script.QueueRuns

/-!
# The script engine

The main thread puts events and expressions on `to_scheme`, and the loop of `script_thread_func`
takes them off and hands them to Scheme, until `script_engine_stop` clears `running` and sends
`MSG_SHUTDOWN`. A step is an atomic one: a locked section, a `ReleaseSemaphore`, a wait, or a look
at `running`.

`engine_evaluates`: under every interleaving the expressions are evaluated as they were given, in
order and none twice. `engine_stops`: at most one message is handed to Scheme after `running` was
cleared, and one turn of the loop later the thread has ended.
-/

namespace Autoscrcpy

open SignalledQueue (ThreadAct ThreadPhase)

/-! ## The two threads -/

inductive EngineThread where
  | main
  | script
  deriving DecidableEq, Repr

/-- Where the loop of `script_thread_func` is: before its look at `running`, in
`script_msg_queue_recv`, or behind the loop. -/
inductive ScriptLoop where
  | checking
  | receiving
  | exited
  deriving DecidableEq, Repr

/-- `script_engine_t` behind `script_engine_start`: `to_scheme` with the calls under way, `running`,
and the script thread. -/
structure ScriptEngine where
  queue : QueueThreads EngineThread ScriptMsg
  running : Bool
  script : ScriptLoop

/-- The steps of the main thread, `eval` to `release`, and those of the script thread. `eval` and
`event` end with the locked section of their send, and `stop` and `shutdown` are the two steps of
`script_engine_stop`. -/
inductive EngineOp where
  | eval (code : List UInt8)
  | event (e : ScriptEvent)
  | stop
  | shutdown
  | release
  | check
  | wait
  | receive
  deriving DecidableEq, Repr

/-- The message that `script_engine_eval` sends for the C string at `code`; nothing when it returns
before that. -/
def scriptEngineEval (running : Bool) (code : List UInt8) : Option ScriptMsg :=
  if running = false then none
  else
    let len := (cString code).length
    if SCRIPT_MSG_MAX_DATA_SIZE ≤ len then none
    else
      some { (ScriptMsg.ofType .injectText).put 0 (cString code) with dataSize := UInt32.ofNat len }

/-- The message that an operation of the main thread sends. -/
def ScriptEngine.sent (s : ScriptEngine) : EngineOp → Option ScriptMsg
  | .eval code => scriptEngineEval s.running code
  | .event e => some e.toMsg
  | .shutdown => if s.running then none else some (.ofType .shutdown)
  | _ => none

def engineStep (s : ScriptEngine) (op : EngineOp) : ScriptEngine :=
  match op with
  | .stop => { s with running := false }
  | .release => { s with queue := queueStep s.queue (.release .main) }
  | .check =>
      if s.script = .checking then
        { s with script := if s.running then .receiving else .exited }
      else s
  | .wait =>
      if s.script = .receiving ∧ s.queue.phase .script = .idle then
        -- A wait in vain is over after 100 ms.
        if s.queue.queue.semaphore = 0 then { s with script := .checking }
        else { s with queue := queueStep s.queue (.wait .script) }
      else s
  | .receive =>
      if s.queue.phase .script = .receiving then
        { s with
          queue := queueStep s.queue (.receive .script)
          script := if s.queue.queue.dequeue.1.type = .shutdown then .exited else .checking }
      else s
  | op =>
      match s.sent op with
      | none => s
      | some msg => { s with queue := queueStep s.queue (.send .main msg) }

/-- The engine when its thread enters the loop. -/
def ScriptEngine.init : ScriptEngine := ⟨.init (.ofType .shutdown), true, .checking⟩

/-! ## The queue -/

/-- The step of the queue in a step of the engine. -/
def ScriptEngine.act (s : ScriptEngine) : EngineOp → Option (ThreadAct EngineThread ScriptMsg)
  | .stop => none
  | .release => some (.release .main)
  | .check => none
  | .wait => if s.script = .receiving then some (.wait .script) else none
  | .receive => some (.receive .script)
  | op => (s.sent op).map (.send .main)

/-- The message that the queue accepts in a step. -/
def engineAccepts (s : ScriptEngine) (op : EngineOp) : List ScriptMsg :=
  (s.act op).toList.flatMap (enqueues s.queue)

/-- The message that the script thread receives in a step. -/
def engineReceives (s : ScriptEngine) (op : EngineOp) : List ScriptMsg :=
  (s.act op).toList.flatMap (dequeues s.queue)

/-- The message that is handed to `scheme_dispatch_msg` in a step. -/
def engineDispatches (s : ScriptEngine) (op : EngineOp) : List ScriptMsg :=
  (engineReceives s op).filter fun msg => msg.type ≠ .shutdown

theorem engineStep_queue (s : ScriptEngine) (op : EngineOp) :
    (engineStep s op).queue = (s.act op).elim s.queue (queueStep s.queue) := by
  cases op with
  | stop => rfl
  | release => rfl
  | check =>
    simp only [engineStep, ScriptEngine.act]
    split_ifs <;> rfl
  | wait =>
    simp only [engineStep, ScriptEngine.act]
    by_cases hreceiving : s.script = .receiving
    · rw [if_pos hreceiving, Option.elim_some]
      split_ifs with hidle hzero
      · exact (if_neg fun h => h.2.ne' hzero).symm
      · rfl
      · exact (if_neg fun h => hidle ⟨hreceiving, h.1⟩).symm
    · rw [if_neg hreceiving, if_neg fun h => hreceiving h.1]
      rfl
  | receive =>
    simp only [engineStep, ScriptEngine.act, Option.elim_some]
    by_cases hphase : s.queue.phase .script = .receiving
    · rw [if_pos hphase]
    · rw [if_neg hphase]
      exact (if_neg hphase).symm
  | _ =>
    simp only [engineStep, ScriptEngine.act]
    cases ScriptEngine.sent s _ <;> rfl

/-- The engine between two steps: the queue is sound, and the script thread sends nothing to it and
takes a message off it only inside `script_msg_queue_recv`. -/
structure ScriptEngine.Inv (s : ScriptEngine) : Prop where
  queue : s.queue.Inv
  sends : s.queue.phase .script ≠ .releasing
  receiving : s.queue.phase .script = .receiving → s.script = .receiving

theorem ScriptEngine.inv_init : init.Inv := 
  ⟨QueueThreads.inv_init _, by rintro ⟨⟩, by rintro ⟨⟩⟩

section

variable {s : ScriptEngine}

theorem engineStep_contents (h : s.Inv) (op : EngineOp) :
    s.queue.queue.contents ++ engineAccepts s op =
      engineReceives s op ++ (engineStep s op).queue.queue.contents := by
  rw [engineStep_queue, engineAccepts, engineReceives]
  cases s.act op with
  | none => simp
  | some a =>
    obtain ⟨-, habs, haccepts, htakes⟩ := abs_queueStep h.queue a
    have hqueued := SignalledQueue.queued_step h.queue.abs a
    rw [← haccepts, ← htakes, ← habs] at hqueued
    simpa [QueueThreads.abs] using hqueued

/-- The steps of the main thread leave the call of the script thread where it is. -/
theorem queueStep_phase_script {q : QueueThreads EngineThread ScriptMsg}
    {a : ThreadAct EngineThread ScriptMsg}
    (ha : (∃ msg, a = .send .main msg) ∨ a = .release .main) :
    (queueStep q a).phase .script = q.phase .script := by
  rcases ha with ⟨msg, rfl⟩ | rfl
  · simp only [queueStep]
    split_ifs <;> simp
  · simp only [queueStep]
    split_ifs <;> simp

theorem engineStep_sends (h : s.Inv) (op : EngineOp) :
    (engineStep s op).queue.phase .script ≠ .releasing := by
  rw [engineStep_queue]
  cases hact : s.act op with
  | none => exact h.sends
  | some a =>
    by_cases hmain : (∃ msg, a = .send .main msg) ∨ a = .release .main
    · rw [Option.elim_some, queueStep_phase_script hmain]
      exact h.sends
    · cases op with
      | stop => cases hact
      | check => cases hact
      | release => exact absurd (Or.inr (Option.some.inj hact).symm) hmain
      | wait =>
        simp only [ScriptEngine.act] at hact
        split_ifs at hact
        obtain rfl := Option.some.inj hact
        simp only [Option.elim_some, queueStep]
        split_ifs
        · simp
        · exact h.sends
      | receive =>
        obtain rfl := Option.some.inj hact
        simp only [Option.elim_some, queueStep]
        split_ifs
        · simp
        · exact h.sends
      | _ =>
        simp only [ScriptEngine.act, Option.map_eq_some_iff] at hact
        obtain ⟨msg, -, rfl⟩ := hact
        exact absurd (Or.inl ⟨msg, rfl⟩) hmain

/-- Only the script thread waits, and only inside `script_msg_queue_recv`. -/
theorem engineStep_inv (h : s.Inv) (op : EngineOp) : (engineStep s op).Inv := by
  have hqueue : (engineStep s op).queue.Inv := by
    rw [engineStep_queue]
    cases s.act op with
    | none => exact h.queue
    | some a => exact inv_queueStep h.queue a
  refine ⟨hqueue, engineStep_sends h op, ?_⟩
  cases op with
  | stop => exact h.receiving
  | release =>
    intro hphase
    rw [engineStep, queueStep_phase_script (Or.inr rfl)] at hphase
    exact h.receiving hphase
  | check =>
    intro hphase
    rw [engineStep] at hphase ⊢
    split_ifs at hphase ⊢ with hchecking
    · rfl
    · rw [h.receiving hphase] at hchecking
      cases hchecking
    · exact h.receiving hphase
  | wait =>
    intro hphase
    rw [engineStep] at hphase ⊢
    split_ifs at hphase ⊢ with hidle
    · rw [hidle.2] at hphase
      cases hphase
    · exact hidle.1
    · exact h.receiving hphase
  | receive =>
    by_cases hreceiving : s.queue.phase .script = .receiving
    · rw [engineStep, if_pos hreceiving]
      simp [queueStep, hreceiving]
    · rw [engineStep, if_neg hreceiving]
      exact h.receiving
  | _ =>
    intro hphase
    simp only [engineStep] at hphase ⊢
    split at hphase
    · exact h.receiving hphase
    · rw [queueStep_phase_script (Or.inl ⟨_, rfl⟩)] at hphase
      exact h.receiving hphase

/-- A message is received only inside `script_msg_queue_recv`; behind `MSG_SHUTDOWN` the loop is
left, and behind another message it goes on. -/
theorem engineReceives_cases (h : s.Inv) (op : EngineOp) :
    engineReceives s op = [] ∨
      s.script = .receiving ∧ ∃ msg, engineReceives s op = [msg] ∧
        (engineStep s op).script = if msg.type = .shutdown then .exited else .checking := by
  by_cases hop : op = .receive ∧ s.queue.phase .script = .receiving
  · obtain ⟨rfl, hphase⟩ := hop
    refine Or.inr ⟨h.receiving hphase, s.queue.queue.dequeue.1, ?_, ?_⟩
    · simp [engineReceives, ScriptEngine.act, dequeues, hphase]
    · rw [engineStep, if_pos hphase]
  · left
    cases op with
    | receive =>
      have hphase : s.queue.phase .script ≠ .receiving := fun h => hop ⟨rfl, h⟩
      simp [engineReceives, ScriptEngine.act, dequeues, hphase]
    | wait =>
      simp only [engineReceives, ScriptEngine.act]
      split_ifs <;> rfl
    | stop => rfl
    | check => rfl
    | release => rfl
    | _ =>
      simp only [engineReceives, ScriptEngine.act]
      cases ScriptEngine.sent s _ <;> rfl

/-- The thread does not come back from behind its loop. -/
theorem engineStep_exited (h : s.Inv) (hexit : s.script = .exited) (op : EngineOp) :
    (engineStep s op).script = .exited := by
  have hphase : s.queue.phase .script ≠ .receiving := fun hp => by
    have := h.receiving hp
    rw [hexit] at this
    cases this
  cases op with
  | stop => exact hexit
  | release => exact hexit
  | check => simp [engineStep, hexit]
  | wait => simp [engineStep, hexit]
  | receive => simp [engineStep, hphase, hexit]
  | _ =>
    simp only [engineStep]
    split <;> exact hexit

end

/-! ## From the engine to Scheme -/

/-- The expressions that the handling of a message evaluates. -/
def evaluatedBy {γ : Type} (callbacks : EventCallbacks γ) (msg : ScriptMsg) : List (List UInt8) :=
  match schemeDispatchMsg callbacks msg with
  | .error _ => []
  | .ok actions => actions.filterMap fun
      | .eval code => some code
      | .call .. => none

/-- An expression is evaluated as it was given; the empty one is not evaluated. -/
theorem evaluatedBy_eval {γ : Type} (callbacks : EventCallbacks γ) {running : Bool}
    {code : List UInt8} {msg : ScriptMsg} (h : scriptEngineEval running code = some msg) :
    evaluatedBy callbacks msg = if cString code = [] then [] else [cString code] := by
  simp only [scriptEngineEval] at h
  split_ifs at h with hrunning hlen
  obtain rfl := Option.some.inj h
  have hsize : (UInt32.ofNat (cString code).length).toNat = (cString code).length := by
    have hlt : (cString code).length < 256 := not_le.1 hlen
    rw [UInt32.toNat_ofNat']
    omega
  simp only [evaluatedBy, schemeDispatchMsg, ScriptMsg.put, ScriptMsg.ofType, hsize, List.take_zero,
    List.nil_append, List.take_left, schemeEvalString,
    ScriptMsg.cString_of_notMem (zero_notMem_cString code)]
  split_ifs <;> rfl

/-- No event evaluates anything. -/
theorem evaluatedBy_event {γ : Type} (callbacks : EventCallbacks γ) (e : ScriptEvent) :
    evaluatedBy callbacks e.toMsg = [] := by
  cases hkey : e.isKey with
  | false =>
    rw [evaluatedBy, dispatch_of_not_key hkey, dispatchTo]
    cases e.callback callbacks <;> rfl
  | true =>
    cases e with
    | key vk down =>
      cases hc : callbacks.onKey with
      | none =>
        have hnone : schemeDispatchMsg callbacks (ScriptEvent.key vk down).toMsg = .ok [] := by
          change dispatchKeyEvent callbacks _ (.boolean _) = _
          rw [dispatchKeyEvent, hc]
        rw [evaluatedBy, hnone]
        rfl
      | some c => rw [evaluatedBy, dispatch_key hc]
    | _ => cases hkey

theorem evaluatedBy_shutdown {γ : Type} (callbacks : EventCallbacks γ) :
    evaluatedBy callbacks (.ofType .shutdown) = [] := rfl

/-! ## Runs -/

section

variable {γ : Type} (callbacks : EventCallbacks γ)

/-- The expression that is accepted in a step. -/
def acceptedCode (s : ScriptEngine) : EngineOp → List (List UInt8)
  | .eval code =>
      if engineAccepts s (.eval code) = [] ∨ cString code = [] then [] else [cString code]
  | _ => []

theorem flatMap_engineAccepts (s : ScriptEngine) (op : EngineOp) :
    (engineAccepts s op).flatMap (evaluatedBy callbacks) = acceptedCode s op := by
  have hsent {msg : ScriptMsg} (hop : s.act op = some (.send .main msg)) :
      engineAccepts s op = [] ∨ engineAccepts s op = [msg] := by
    simp only [engineAccepts, hop, Option.toList_some, List.flatMap_singleton, enqueues]
    split_ifs
    · exact Or.inr rfl
    · exact Or.inl rfl
  cases op with
  | eval code =>
    rw [acceptedCode]
    cases heval : scriptEngineEval s.running code with
    | none =>
      have hnone : engineAccepts s (.eval code) = [] := by
        simp [engineAccepts, ScriptEngine.act, ScriptEngine.sent, heval]
      rw [hnone, if_pos (Or.inl rfl)]
      rfl
    | some msg =>
      have hact : s.act (.eval code) = some (.send .main msg) := by
        simp [ScriptEngine.act, ScriptEngine.sent, heval]
      rcases hsent hact with hnone | hone
      · rw [hnone, if_pos (Or.inl rfl)]
        rfl
      · rw [hone, List.flatMap_singleton, evaluatedBy_eval callbacks heval]
        simp
  | event e =>
    rcases hsent (by rfl) with hnone | hone
    · rw [hnone]
      rfl
    · rw [hone, List.flatMap_singleton, evaluatedBy_event]
      rfl
  | shutdown =>
    cases hrunning : s.running with
    | true => simp [engineAccepts, ScriptEngine.act, ScriptEngine.sent, hrunning, acceptedCode]
    | false =>
      have hact : s.act .shutdown = some (.send .main (.ofType .shutdown)) := by
        simp [ScriptEngine.act, ScriptEngine.sent, hrunning]
      rcases hsent hact with hnone | hone
      · rw [hnone]
        rfl
      · rw [hone, List.flatMap_singleton, evaluatedBy_shutdown]
        rfl
  | wait =>
    simp only [engineAccepts, ScriptEngine.act]
    split_ifs <;> rfl
  | _ => rfl

end

/-- The messages accepted and received so far, and what is still in the queue; those dispatched are
the ones received, up to `MSG_SHUTDOWN`. -/
structure ScriptEngine.InOrder (s : ScriptEngine) (accepted received dispatched : List ScriptMsg) :
    Prop where
  inv : s.Inv
  queued : accepted = received ++ s.queue.queue.contents
  dispatched : (s.script ≠ .exited → received = dispatched) ∧ dispatched <+: received

theorem ScriptEngine.InOrder.step {s : ScriptEngine} {accepted received dispatched : List ScriptMsg}
    (h : s.InOrder accepted received dispatched) (op : EngineOp) :
    (engineStep s op).InOrder (accepted ++ engineAccepts s op) (received ++ engineReceives s op)
      (dispatched ++ engineDispatches s op) := by
  refine ⟨engineStep_inv h.inv op, ?_, ?_⟩
  · rw [h.queued, List.append_assoc, engineStep_contents h.inv, List.append_assoc]
  · rw [engineDispatches]
    rcases engineReceives_cases h.inv op with hnone | ⟨hscript, msg, hone, hnext⟩
    · rw [hnone, List.filter_nil, List.append_nil, List.append_nil]
      exact ⟨fun hne => h.dispatched.1 fun hexit => hne (engineStep_exited h.inv hexit op),
        h.dispatched.2⟩
    · have heq := h.dispatched.1 (by rw [hscript]; decide)
      rw [hone, hnext, heq]
      by_cases hshutdown : msg.type = .shutdown
      · simp [hshutdown]
      · simp [hshutdown]

/-- The messages that are handed to Scheme in a run from the start of the loop. -/
def dispatchedMsgs (ops : List EngineOp) : List ScriptMsg :=
  Runs.emits engineStep engineDispatches .init ops

theorem engine_inOrder (ops : List EngineOp) :
    (Runs.final engineStep .init ops).InOrder (Runs.emits engineStep engineAccepts .init ops)
      (Runs.emits engineStep engineReceives .init ops) (dispatchedMsgs ops) := by
  induction ops using List.reverseRecOn with
  | nil => exact ⟨ScriptEngine.inv_init, rfl, fun _ => rfl, List.prefix_rfl⟩
  | append_singleton ops op ih =>
    rw [Runs.final_append_singleton, dispatchedMsgs, Runs.emits_append_singleton,
      Runs.emits_append_singleton, Runs.emits_append_singleton]
    exact ih.step op

section

variable {s : ScriptEngine}

theorem engineStep_stopped (h : s.running = false) (op : EngineOp) :
    (engineStep s op).running = false := by
  cases op with
  | stop => rfl
  | release => exact h
  | check =>
    rw [engineStep]
    split_ifs <;> exact h
  | wait =>
    rw [engineStep]
    split_ifs <;> exact h
  | receive =>
    rw [engineStep]
    split_ifs <;> exact h
  | _ =>
    simp only [engineStep]
    split <;> exact h

/-- A stopped thread does not enter `script_msg_queue_recv` again. -/
theorem engineStep_not_receiving (h : s.Inv) (hstop : s.running = false)
    (hscript : s.script ≠ .receiving) (op : EngineOp) : (engineStep s op).script ≠ .receiving := by
  have hphase : s.queue.phase .script ≠ .receiving := fun hp => hscript (h.receiving hp)
  cases op with
  | stop => exact hscript
  | release => exact hscript
  | check =>
    rw [engineStep]
    split_ifs with hchecking hrunning
    · rw [hstop] at hrunning
      cases hrunning
    · simp
    · exact hscript
  | wait => simp [engineStep, hscript]
  | receive => simpa [engineStep, hphase] using hscript
  | _ =>
    simp only [engineStep]
    split <;> exact hscript

/-- A stopped thread that is not about to wait for a message. -/
structure ScriptEngine.Waited (s : ScriptEngine) : Prop where
  inv : s.Inv
  stopped : s.running = false
  waited : s.script = .receiving → s.queue.phase .script = .receiving

theorem ScriptEngine.Waited.step (h : s.Waited) (op : EngineOp) : (engineStep s op).Waited := by
  refine ⟨engineStep_inv h.inv op, engineStep_stopped h.stopped op, fun hscript => ?_⟩
  by_cases hreceiving : s.script = .receiving
  · have hphase := h.waited hreceiving
    cases op with
    | stop => exact hphase
    | release => rwa [engineStep, queueStep_phase_script (Or.inr rfl)]
    | check => simpa [engineStep, hreceiving] using hphase
    | wait => simp [engineStep, hphase]
    | receive =>
      rw [engineStep, if_pos hphase] at hscript
      dsimp only at hscript
      split_ifs at hscript
    | _ =>
      simp only [engineStep] at hscript ⊢
      split
      · exact hphase
      · rwa [queueStep_phase_script (Or.inl ⟨_, rfl⟩)]
  · exact absurd hscript (engineStep_not_receiving h.inv h.stopped hreceiving op)

/-- A stopped thread outside `script_msg_queue_recv`. -/
structure ScriptEngine.Left (s : ScriptEngine) : Prop where
  inv : s.Inv
  stopped : s.running = false
  left : s.script ≠ .receiving

theorem ScriptEngine.Left.step (h : s.Left) (op : EngineOp) : (engineStep s op).Left :=
  ⟨engineStep_inv h.inv op, engineStep_stopped h.stopped op,
    engineStep_not_receiving h.inv h.stopped h.left op⟩

/-- The wait ends with a message, or it is in vain. -/
theorem waited_of_wait (h : s.Inv) (hstop : s.running = false) : (engineStep s .wait).Waited := by
  refine ⟨engineStep_inv h .wait, engineStep_stopped hstop .wait, fun hscript => ?_⟩
  rw [engineStep] at hscript ⊢
  split_ifs at hscript ⊢ with hidle hzero
  · have hpos := Nat.pos_of_ne_zero hzero
    simp [queueStep, hidle.2, hpos]
  · cases hphase : s.queue.phase .script with
    | idle => exact absurd ⟨hscript, hphase⟩ hidle
    | releasing => exact absurd hphase h.sends
    | receiving => rfl

theorem left_of_receive (h : s.Waited) : (engineStep s .receive).Left := by
  refine ⟨engineStep_inv h.inv .receive, engineStep_stopped h.stopped .receive, ?_⟩
  by_cases hphase : s.queue.phase .script = .receiving
  · rw [engineStep, if_pos hphase]
    dsimp only
    split_ifs <;> simp
  · rw [engineStep, if_neg hphase]
    exact fun hscript => hphase (h.waited hscript)

theorem exited_of_check (h : s.Left) : (engineStep s .check).script = .exited := by
  cases hscript : s.script with
  | checking => simp [engineStep, hscript, h.stopped]
  | receiving => exact absurd hscript h.left
  | exited => simp [engineStep, hscript]

end

/-- Whatever the main thread does next: behind the store that clears `running` at most one more
message is handed to Scheme, and once the script thread has waited, received and checked, it has
ended. -/
theorem engine_stops (before after : List EngineOp) :
    let s := Runs.final engineStep .init (before ++ [.stop])
    (Runs.emits engineStep engineDispatches s after).length ≤ 1 ∧
      ([.wait, .receive, .check].Sublist after →
        (Runs.final engineStep s after).script = .exited) := by
  intro s
  have hinv : s.Inv := (engine_inOrder _).inv
  have hstop : s.running = false := by
    simp only [s, Runs.final_append_singleton]
    rfl
  constructor
  · have hall : ∀ x ∈ Runs.visits engineStep s after, x.1.Inv ∧ x.1.running = false :=
      (Runs.invariant (I := fun s : ScriptEngine => s.Inv ∧ s.running = false)
        (fun x _ h => ⟨engineStep_inv h.1 x.2, engineStep_stopped h.2 x.2⟩) ⟨hinv, hstop⟩).1
    refine Runs.emits_length_le_one (fun s => s.script ≠ .receiving) ?_ ?_ ?_ ?_
    · exact fun x hx hleft => engineStep_not_receiving (hall x hx).1 (hall x hx).2 hleft x.2
    · intro x hx hleft
      rcases engineReceives_cases (hall x hx).1 x.2 with hnone | ⟨hscript, -⟩
      · rw [engineDispatches, hnone, List.filter_nil]
      · exact absurd hscript hleft
    · intro x hx
      refine (List.length_filter_le _ _).trans ?_
      rcases engineReceives_cases (hall x hx).1 x.2 with hnone | ⟨-, msg, hone, -⟩
      · simp [hnone]
      · simp [hone]
    · intro x hx hne
      rcases engineReceives_cases (hall x hx).1 x.2 with hnone | ⟨-, msg, -, hnext⟩
      · rw [engineDispatches, hnone] at hne
        exact absurd rfl hne
      · rw [hnext]
        split_ifs <;> simp
  · intro hturn
    obtain ⟨first, rest, rfl, hwait, hrest⟩ := List.cons_sublist_iff.1 hturn
    obtain ⟨second, third, rfl, hreceive, hcheck⟩ := List.cons_sublist_iff.1 hrest
    have hwaited : (Runs.final engineStep s first).Waited :=
      Runs.reaches (P := fun s : ScriptEngine => s.Inv ∧ s.running = false)
        (fun _ op h => ⟨engineStep_inv h.1 op, engineStep_stopped h.2 op⟩)
        (fun _ op h => h.step op) (fun _ h => waited_of_wait h.1 h.2) hwait ⟨hinv, hstop⟩
    have hleft : (Runs.final engineStep s (first ++ second)).Left := by
      rw [Runs.final_append]
      exact Runs.reaches (fun _ op h => h.step op) (fun _ op h => h.step op)
        (fun _ h => left_of_receive h) hreceive hwaited
    have hexited : (Runs.final engineStep s ((first ++ second) ++ third)).Inv ∧
        (Runs.final engineStep s ((first ++ second) ++ third)).script = .exited := by
      rw [Runs.final_append]
      exact Runs.reaches (Q := fun s : ScriptEngine => s.Inv ∧ s.script = .exited)
        (fun _ op h => h.step op)
        (fun _ op h => ⟨engineStep_inv h.1 op, engineStep_exited h.1 h.2 op⟩)
        (fun _ h => ⟨engineStep_inv h.inv .check, exited_of_check h⟩)
        (List.singleton_sublist.1 hcheck) hleft
    rw [← List.append_assoc]
    exact hexited.2

/-- An expression that the thread is about to take when `running` is cleared, and one behind it
that is left. -/
theorem engine_stops_waiting :
    let s := Runs.final engineStep .init
      ([.eval [49], .release, .eval [50], .release, .check, .wait] ++ [.stop])
    (Runs.final engineStep s [.receive, .shutdown, .wait, .release, .receive, .check]).script =
      .exited :=
  (engine_stops _ _).2 (by decide)

end Autoscrcpy
