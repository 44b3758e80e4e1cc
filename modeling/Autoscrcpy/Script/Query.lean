import Autoscrcpy.Lib.Runs
import Autoscrcpy.Script.Message
import Autoscrcpy.Script.MessageQueue

/-!
# Synchronous queries

The script thread asks through `to_main` and `query_sync` waits on `response_q`; the main thread
takes the messages from `to_main` in `script_process_messages` and answers the queries. A step of
the model is one atomic step of either thread: a locked section, a `ReleaseSemaphore`, or the end
of a wait.

A response does not say which query it answers, so a query takes the oldest response. In every run a
query takes its own response exactly when nothing was outstanding when it was asked
(`answers_match_iff`).
-/

namespace Autoscrcpy

/-! ## The two threads -/

/-- A message on `to_main`, with a number that the code does not have: how many messages the queue
had accepted before. -/
structure Request where
  msg : ScriptMsg
  number : ℕ
  deriving DecidableEq, Repr

/-- A message on `response_q`, with the request for which the main thread made it. -/
structure Response where
  msg : ScriptMsg
  request : Request
  deriving DecidableEq, Repr

/-- A query that `query_sync` has put on `to_main`; `alone` records whether no earlier query was
outstanding then. -/
structure Asked where
  kind : QueryKind
  request : Request
  alone : Bool
  deriving DecidableEq, Repr

/-- Where the script thread is: before `ReleaseSemaphore` on `to_main` for a command or a query, in
the wait on `response_q`, or before the locked section of the receive. -/
inductive ScriptPhase where
  | idle
  | releasing (query : Option Asked)
  | waiting (query : Asked)
  | receiving (query : Asked)
  deriving DecidableEq, Repr

/-- Where the main thread is: before the locked section of a receive from `to_main`, in a query
callback, or before `ReleaseSemaphore` on `response_q`. -/
inductive MainPhase where
  | idle
  | taking
  | answering (request : Request) (kind : QueryKind)
  | announcing
  deriving DecidableEq, Repr

/-- Both queues and both threads; `sent` numbers the requests. -/
structure QueryState where
  toMain : ScriptMsgQueue Request
  responseQ : ScriptMsgQueue Response
  script : ScriptPhase
  main : MainPhase
  sent : ℕ

def Request.isQuery (r : Request) : Bool := r.msg.type.query.isSome

/-- The query that the main thread is answering. -/
def MainPhase.request : MainPhase → List Request
  | answering r _ => [r]
  | _ => []

/-- The queries on their way, oldest first: answered and not received, being answered, not yet
taken. -/
def QueryState.outstanding (s : QueryState) : List Request :=
  s.responseQ.contents.map Response.request ++
    (s.main.request ++ s.toMain.contents.filter Request.isQuery)

/-- Both queues after `script_msg_queue_init`. -/
def QueryState.init : QueryState where
  toMain := .init ⟨.ofType .injectKeycode, 0⟩
  responseQ := .init ⟨.ofType .injectKeycode, .ofType .injectKeycode, 0⟩
  script := .idle
  main := .idle
  sent := 0

/-- The atomic steps. `answer` comes with what the callback reads of the application. -/
inductive QueryAction where
  | command (msg : ScriptMsg)
  | query (kind : QueryKind)
  | release
  | wake
  | timeout
  | receive
  | poll
  | take
  | answer (app : AppView)
  | announce
  deriving DecidableEq, Repr

/-- The locked section of a send to `to_main`; the script goes on at once when the queue is full. -/
def QueryState.post (s : QueryState) (msg : ScriptMsg) (asked : Request → Option Asked) :
    QueryState :=
  let request : Request := ⟨msg, s.sent⟩
  let r := s.toMain.enqueue request
  if r.1 then
    { s with toMain := r.2, script := .releasing (asked request), sent := s.sent + 1 }
  else s

/-- One step; an action that the thread cannot take leaves the state as it is. A wait ends in a
timeout only when the semaphore has no unit. -/
def queryStep (s : QueryState) : QueryAction → QueryState
  | .command msg =>
      if s.script = .idle ∧ msg.type.isCommand = true then s.post msg (fun _ => none) else s
  | .query kind =>
      if s.script = .idle then
        s.post (.ofType kind.requestType) (fun r => some ⟨kind, r, s.outstanding.isEmpty⟩)
      else s
  | .release =>
      match s.script with
      | .releasing none => { s with toMain := s.toMain.release, script := .idle }
      | .releasing (some q) => { s with toMain := s.toMain.release, script := .waiting q }
      | _ => s
  | .wake =>
      match s.script with
      | .waiting q =>
          if 0 < s.responseQ.semaphore then
            { s with responseQ := s.responseQ.acquire, script := .receiving q }
          else s
      | _ => s
  | .timeout =>
      match s.script with
      | .waiting _ => if s.responseQ.semaphore = 0 then { s with script := .idle } else s
      | _ => s
  | .receive =>
      match s.script with
      | .receiving _ => { s with responseQ := s.responseQ.dequeue.2, script := .idle }
      | _ => s
  | .poll =>
      match s.main with
      | .idle =>
          if 0 < s.toMain.semaphore then
            { s with toMain := s.toMain.acquire, main := .taking }
          else s
      | _ => s
  | .take =>
      match s.main with
      | .taking =>
          let r := s.toMain.dequeue
          { s with
            toMain := r.2
            main := match r.1.msg.type.query with
              | some kind => .answering r.1 kind
              | none => .idle }
      | _ => s
  | .answer app =>
      match s.main with
      | .answering request kind =>
          let r := s.responseQ.enqueue ⟨onScriptQuery app kind, request⟩
          { s with responseQ := r.2, main := if r.1 then .announcing else .idle }
      | _ => s
  | .announce =>
      match s.main with
      | .announcing => { s with responseQ := s.responseQ.release, main := .idle }
      | _ => s

/-! ## What a query takes -/

/-- A query with the response that `query_sync` returned for it. -/
structure Taken where
  query : Asked
  response : Response
  deriving DecidableEq, Repr

/-- What the script gets; nothing for `#f`. -/
def Taken.value (t : Taken) : Option QueryValue := t.query.kind.result t.response.msg

/-- The response was made for this query, and passes the check on its type. -/
def Taken.Matches (t : Taken) : Prop :=
  t.response.request = t.query.request ∧ t.response.msg.type = t.query.kind.responseType

/-- The response that a step takes. -/
def takes (s : QueryState) : QueryAction → List Taken
  | .receive =>
      match s.script with
      | .receiving q => [⟨q, s.responseQ.dequeue.1⟩]
      | _ => []
  | _ => []

/-- All responses taken in a run from the initialised queues. -/
def allTaken (ops : List QueryAction) : List Taken := Runs.emits queryStep takes .init ops

/-! ## The invariant -/

/-- A unit of the semaphore of `to_main` that the script thread has still to release. -/
def ScriptPhase.owed : ScriptPhase → ℕ
  | releasing _ => 1
  | _ => 0

/-- A unit of the semaphore of `response_q` that the script thread has taken for a message that is
still in the queue. -/
def ScriptPhase.held : ScriptPhase → ℕ
  | receiving _ => 1
  | _ => 0

def MainPhase.owed : MainPhase → ℕ
  | announcing => 1
  | _ => 0

def MainPhase.held : MainPhase → ℕ
  | taking => 1
  | _ => 0

/-- The query that waits for a response. -/
def ScriptPhase.asked : ScriptPhase → Option Asked
  | idle => none
  | releasing q => q
  | waiting q => some q
  | receiving q => some q

/-- A response was made for a query, by its callback. -/
def Response.Made (r : Response) : Prop :=
  ∃ app kind, r.request.msg.type.query = some kind ∧ r.msg = onScriptQuery app kind

/-- Among the outstanding queries, a query that was asked alone is the only one, and every other
one has an earlier query in front. -/
structure Asked.Tracked (q : Asked) (outstanding : List Request) : Prop where
  kind_eq : q.request.msg.type.query = some q.kind
  only : q.alone = true → ∀ r ∈ outstanding, r = q.request
  behind : q.alone = false → ∃ r, outstanding.head? = some r ∧ r ≠ q.request

structure QueryState.Inv (s : QueryState) : Prop where
  toMain : s.toMain.Valid
  responseQ : s.responseQ.Valid
  toMain_units : s.toMain.semaphore + s.script.owed + s.main.held = s.toMain.contents.length
  response_units : s.responseQ.semaphore + s.main.owed + s.script.held = s.responseQ.contents.length
  numbered : ∀ r ∈ s.outstanding, r.number < s.sent
  made : ∀ r ∈ s.responseQ.contents, r.Made
  answering : ∀ r kind, s.main = .answering r kind → r.msg.type.query = some kind
  tracked : ∀ q, s.script.asked = some q → q.Tracked s.outstanding

theorem QueryState.inv_init : QueryState.init.Inv where
  toMain := ScriptMsgQueue.valid_init _
  responseQ := ScriptMsgQueue.valid_init _
  toMain_units := rfl
  response_units := rfl
  numbered := by
    intro r hr
    exact absurd hr (List.not_mem_nil)
  made := by
    intro r hr
    exact absurd hr (List.not_mem_nil)
  answering := by
    intro r kind h
    cases h
  tracked := by
    intro q h
    cases h

/-- A query that was not asked alone stays behind, and one that was stays the only one, when queries
leave from behind the first. -/
theorem Asked.Tracked.mono {q : Asked} {l l' : List Request} (h : q.Tracked l)
    (hsub : ∀ r ∈ l', r ∈ l) (hhead : l'.head? = l.head?) : q.Tracked l' where
  kind_eq := h.kind_eq
  only := fun ha r hr => h.only ha r (hsub r hr)
  behind := fun ha => hhead ▸ h.behind ha

/-! ## Each step keeps the invariant -/

namespace QueryState

variable {s : QueryState}

/-- A send from the script thread is dropped, or it appends to `to_main`. -/
theorem post_cases (h : s.toMain.Valid) (msg : ScriptMsg) (asked : Request → Option Asked) :
    s.post msg asked = s ∨ ∃ q : ScriptMsgQueue Request, q.Valid ∧
      q.contents = s.toMain.contents ++ [⟨msg, s.sent⟩] ∧ q.semaphore = s.toMain.semaphore ∧
        s.post msg asked = { s with
          toMain := q, script := .releasing (asked ⟨msg, s.sent⟩), sent := s.sent + 1 } := by
  obtain ⟨hvalid, ⟨hok, hc⟩ | ⟨hfull, -, -⟩⟩ := ScriptMsgQueue.enqueue_cases h ⟨msg, s.sent⟩
  · exact Or.inr ⟨_, hvalid, hc, ScriptMsgQueue.enqueue_semaphore .., by simp [post, hok]⟩
  · exact Or.inl (by simp [post, hfull])

theorem inv_post (h : s.Inv) (hidle : s.script = .idle) {msg : ScriptMsg}
    {asked : Request → Option Asked}
    (hasked : ∀ q, asked ⟨msg, s.sent⟩ = some q →
      q.Tracked (s.outstanding ++ [⟨msg, s.sent⟩].filter Request.isQuery)) :
    (s.post msg asked).Inv := by
  rcases post_cases h.toMain msg asked with heq | ⟨q, hvalid, hc, hsem, heq⟩
  · rw [heq]
    exact h
  have hout : outstanding { s with
      toMain := q, script := .releasing (asked ⟨msg, s.sent⟩), sent := s.sent + 1 } =
        s.outstanding ++ [⟨msg, s.sent⟩].filter Request.isQuery := by
    simp only [outstanding, hc, List.filter_append, List.append_assoc]
  have hunits := h.toMain_units
  rw [heq]
  refine ⟨hvalid, h.responseQ, ?_, ?_, ?_, h.made, h.answering, ?_⟩
  · simp only [hidle, ScriptPhase.owed] at hunits
    simp only [ScriptPhase.owed, hsem, hc, List.length_append, List.length_singleton]
    omega
  · simpa only [hidle, ScriptPhase.held] using h.response_units
  · rw [hout]
    intro r hr
    rcases List.mem_append.1 hr with hr | hr
    · exact Nat.lt_succ_of_lt (h.numbered r hr)
    · obtain rfl := List.mem_singleton.1 (List.mem_of_mem_filter hr)
      exact Nat.lt_succ_self _
  · rw [hout]
    exact hasked

theorem inv_command (h : s.Inv) (msg : ScriptMsg) : (queryStep s (.command msg)).Inv := by
  simp only [queryStep]
  split_ifs with hc
  · exact inv_post h hc.1 fun q hq => by cases hq
  · exact h

/-- A query that is asked when nothing is outstanding is the only one, and otherwise the first
outstanding query has a smaller number. -/
theorem inv_query (h : s.Inv) (kind : QueryKind) : (queryStep s (.query kind)).Inv := by
  simp only [queryStep]
  split_ifs with hc
  · refine inv_post h hc fun q hq => ?_
    obtain rfl := Option.some.inj hq
    refine ⟨query_requestType kind, fun halone r hr => ?_, fun halone => ?_⟩
    · rw [List.isEmpty_iff.1 halone, List.nil_append] at hr
      exact List.mem_singleton.1 (List.mem_of_mem_filter hr)
    · cases hout : s.outstanding with
      | nil => simp [hout] at halone
      | cons r rest =>
        have hlt := h.numbered r (hout ▸ List.mem_cons_self ..)
        exact ⟨r, rfl, fun heq => hlt.ne (congrArg Request.number heq)⟩
  · exact h

/-- A step that moves no query keeps the invariant if it keeps the counts. -/
theorem Inv.of_outstanding (h : s.Inv) {s' : QueryState} (htoMain : s'.toMain.Valid)
    (hresponseQ : s'.responseQ.Valid)
    (htoUnits : s'.toMain.semaphore + s'.script.owed + s'.main.held = s'.toMain.contents.length)
    (hrespUnits : s'.responseQ.semaphore + s'.main.owed + s'.script.held =
      s'.responseQ.contents.length)
    (hout : s'.outstanding = s.outstanding) (hmade : ∀ r ∈ s'.responseQ.contents, r.Made)
    (hanswering : ∀ r kind, s'.main = .answering r kind → r.msg.type.query = some kind)
    (hsent : s'.sent = s.sent)
    (hasked : ∀ q, s'.script.asked = some q → s.script.asked = some q) : s'.Inv where
  toMain := htoMain
  responseQ := hresponseQ
  toMain_units := htoUnits
  response_units := hrespUnits
  numbered := by
    rw [hout, hsent]
    exact h.numbered
  made := hmade
  answering := hanswering
  tracked := by
    rw [hout]
    exact fun q hq => h.tracked q (hasked q hq)

/-- A semaphore with a unit to come is not at its maximum. -/
theorem semaphore_lt {α : Type*} {q : ScriptMsgQueue α} (h : q.Valid) {a b : ℕ}
    (hunits : q.semaphore + a + b = q.contents.length) (hone : 0 < a + b) :
    q.semaphore < SCRIPT_MSG_QUEUE_CAPACITY := by
  have hle : q.contents.length ≤ SCRIPT_MSG_QUEUE_CAPACITY := by
    rw [ScriptMsgQueue.length_contents]
    exact h.count_le
  omega

theorem inv_release (h : s.Inv) : (queryStep s .release).Inv := by
  have hunits := h.toMain_units
  have hresp := h.response_units
  simp only [queryStep]
  cases hs : s.script with
  | releasing asked =>
    rw [hs] at hunits hresp
    have hsem := ScriptMsgQueue.release_semaphore
      (semaphore_lt h.toMain hunits (by simp [ScriptPhase.owed]))
    have hvalid := ScriptMsgQueue.valid_release h.toMain
    simp only [ScriptPhase.owed, ScriptPhase.held] at hunits hresp
    cases asked with
    | none =>
      refine h.of_outstanding hvalid h.responseQ ?_ hresp (by simp [outstanding]) h.made h.answering
        rfl (by simp [ScriptPhase.asked])
      simp only [hsem, ScriptPhase.owed, ScriptMsgQueue.contents_release]
      omega
    | some q =>
      refine h.of_outstanding hvalid h.responseQ ?_ hresp (by simp [outstanding]) h.made h.answering
        rfl (by simp [hs, ScriptPhase.asked])
      simp only [hsem, ScriptPhase.owed, ScriptMsgQueue.contents_release]
      omega
  | idle => exact h
  | waiting q => exact h
  | receiving q => exact h

theorem inv_wake (h : s.Inv) : (queryStep s .wake).Inv := by
  have hunits := h.toMain_units
  have hresp := h.response_units
  simp only [queryStep]
  cases hs : s.script with
  | waiting q =>
    simp only
    split_ifs with hpos
    · rw [hs] at hunits hresp
      refine h.of_outstanding h.toMain (ScriptMsgQueue.valid_acquire h.responseQ) hunits ?_
        (by simp [outstanding]) h.made h.answering rfl (by simp [hs, ScriptPhase.asked])
      simp only [ScriptPhase.held, ScriptMsgQueue.acquire_semaphore,
        ScriptMsgQueue.contents_acquire] at hresp ⊢
      omega
    · exact h
  | idle => exact h
  | releasing q => exact h
  | receiving q => exact h

theorem inv_timeout (h : s.Inv) : (queryStep s .timeout).Inv := by
  have hunits := h.toMain_units
  have hresp := h.response_units
  simp only [queryStep]
  cases hs : s.script with
  | waiting q =>
    simp only
    split_ifs with hzero
    · rw [hs] at hunits hresp
      exact h.of_outstanding h.toMain h.responseQ hunits hresp rfl h.made h.answering rfl
        (by simp [ScriptPhase.asked])
    · exact h
  | idle => exact h
  | releasing q => exact h
  | receiving q => exact h

theorem inv_poll (h : s.Inv) : (queryStep s .poll).Inv := by
  have hunits := h.toMain_units
  have hresp := h.response_units
  simp only [queryStep]
  cases hm : s.main with
  | idle =>
    simp only
    split_ifs with hpos
    · rw [hm] at hunits hresp
      refine h.of_outstanding (ScriptMsgQueue.valid_acquire h.toMain) h.responseQ ?_ hresp
        (by simp [outstanding, hm, MainPhase.request]) h.made (by simp) rfl (fun q hq => hq)
      simp only [MainPhase.held, ScriptMsgQueue.acquire_semaphore,
        ScriptMsgQueue.contents_acquire] at hunits ⊢
      omega
    · exact h
  | taking => exact h
  | answering r kind => exact h
  | announcing => exact h

theorem inv_announce (h : s.Inv) : (queryStep s .announce).Inv := by
  have hunits := h.toMain_units
  have hresp := h.response_units
  simp only [queryStep]
  cases hm : s.main with
  | announcing =>
    rw [hm] at hunits hresp
    have hsem := ScriptMsgQueue.release_semaphore
      (semaphore_lt h.responseQ hresp (by simp [MainPhase.owed]))
    refine h.of_outstanding h.toMain (ScriptMsgQueue.valid_release h.responseQ) hunits ?_
      (by simp [outstanding, hm, MainPhase.request]) ?_ (by simp) rfl (fun q hq => hq)
    · simp only [hsem, MainPhase.owed, ScriptMsgQueue.contents_release] at hresp ⊢
      omega
    · rw [ScriptMsgQueue.contents_release]
      exact h.made
  | idle => exact h
  | taking => exact h
  | answering r kind => exact h

/-- The main thread takes the oldest message; a query is outstanding as before. -/
theorem inv_take (h : s.Inv) : (queryStep s .take).Inv := by
  have hunits := h.toMain_units
  have hresp := h.response_units
  simp only [queryStep]
  cases hm : s.main with
  | taking =>
    rw [hm] at hunits hresp
    simp only [MainPhase.held, MainPhase.owed] at hunits hresp
    obtain ⟨r, rest, hc⟩ := List.exists_cons_of_length_pos (by omega : 0 < s.toMain.contents.length)
    obtain ⟨hfst, hrest, hvalid⟩ := ScriptMsgQueue.dequeue_of_cons h.toMain hc
    rw [hc, List.length_cons] at hunits
    have hold : s.outstanding =
        s.responseQ.contents.map Response.request ++ (r :: rest).filter Request.isQuery := by
      simp only [outstanding, hm, MainPhase.request, List.nil_append, hc]
    simp only [hfst]
    cases hq : r.msg.type.query with
    | none =>
      refine h.of_outstanding hvalid h.responseQ ?_ hresp ?_ h.made (by simp) rfl fun q hq' => hq'
      · simp only [hrest, MainPhase.held, ScriptMsgQueue.dequeue_semaphore]
        omega
      · rw [hold]
        simp [outstanding, MainPhase.request, hrest, Request.isQuery, hq]
    | some kind =>
      refine h.of_outstanding hvalid h.responseQ ?_ hresp ?_ h.made ?_ rfl fun q hq' => hq'
      · simp only [hrest, MainPhase.held, ScriptMsgQueue.dequeue_semaphore]
        omega
      · rw [hold]
        simp [outstanding, MainPhase.request, hrest, Request.isQuery, hq]
      · rintro r' kind' heq
        obtain ⟨rfl, rfl⟩ := MainPhase.answering.inj heq
        exact hq
  | idle => exact h
  | answering r kind => exact h
  | announcing => exact h

/-- A response takes the place of its query, or it is dropped behind the ones in a full queue. -/
theorem inv_answer (h : s.Inv) (app : AppView) : (queryStep s (.answer app)).Inv := by
  have hunits := h.toMain_units
  have hresp := h.response_units
  simp only [queryStep]
  cases hm : s.main with
  | answering r kind =>
    rw [hm] at hunits hresp
    simp only [MainPhase.owed] at hresp
    have hold : s.outstanding = s.responseQ.contents.map Response.request ++
        (r :: s.toMain.contents.filter Request.isQuery) := by
      simp only [outstanding, hm, MainPhase.request, List.singleton_append]
    obtain ⟨hvalid, ⟨hok, hc⟩ | ⟨hok, hq, hfull⟩⟩ :=
      ScriptMsgQueue.enqueue_cases h.responseQ ⟨onScriptQuery app kind, r⟩
    · simp only [hok, if_true]
      refine h.of_outstanding h.toMain hvalid hunits ?_ ?_ ?_ (by simp) rfl fun q hq' => hq'
      · simp only [hc, MainPhase.owed, ScriptMsgQueue.enqueue_semaphore, List.length_append,
          List.length_singleton]
        omega
      · rw [hold]
        simp [outstanding, hc, MainPhase.request]
      · rw [hc]
        intro x hx
        rcases List.mem_append.1 hx with hx | hx
        · exact h.made x hx
        · obtain rfl := List.mem_singleton.1 hx
          exact ⟨app, kind, h.answering r kind hm, rfl⟩
    · simp only [hok, hq, Bool.false_eq_true, if_false]
      have hsub : ∀ x ∈ outstanding { s with main := .idle }, x ∈ s.outstanding := by
        intro x hx
        simp only [outstanding, MainPhase.request, List.nil_append, List.mem_append] at hx
        rw [hold, List.mem_append, List.mem_cons]
        exact hx.imp_right Or.inr
      have hhead : (outstanding { s with main := .idle }).head? = s.outstanding.head? := by
        obtain ⟨x, xs, hcons⟩ := List.exists_cons_of_length_pos
          (hfull ▸ Nat.zero_lt_succ _ : 0 < s.responseQ.contents.length)
        rw [hold]
        simp only [outstanding, hcons, List.map_cons, List.cons_append, List.head?_cons]
      exact ⟨h.toMain, h.responseQ, hunits, hresp, fun x hx => h.numbered x (hsub x hx), h.made,
        by simp, fun q hasked => (h.tracked q hasked).mono hsub hhead⟩
  | idle => exact h
  | taking => exact h
  | announcing => exact h

theorem inv_receive (h : s.Inv) : (queryStep s .receive).Inv := by
  have hunits := h.toMain_units
  have hresp := h.response_units
  simp only [queryStep]
  cases hs : s.script with
  | receiving q =>
    rw [hs] at hunits hresp
    simp only [ScriptPhase.held] at hresp
    obtain ⟨r, rest, hc⟩ :=
      List.exists_cons_of_length_pos (by omega : 0 < s.responseQ.contents.length)
    obtain ⟨-, hrest, hvalid⟩ := ScriptMsgQueue.dequeue_of_cons h.responseQ hc
    rw [hc, List.length_cons] at hresp
    refine ⟨h.toMain, hvalid, hunits, ?_, fun x hx => h.numbered x ?_, fun x hx => h.made x ?_,
      h.answering, by simp [ScriptPhase.asked]⟩
    · simp only [hrest, ScriptPhase.held, ScriptMsgQueue.dequeue_semaphore]
      omega
    · simp only [outstanding, hrest] at hx
      simp only [outstanding, hc, List.map_cons, List.cons_append]
      exact List.mem_cons_of_mem _ hx
    · rw [hrest] at hx
      exact hc ▸ List.mem_cons_of_mem _ hx
  | idle => exact h
  | releasing q => exact h
  | waiting q => exact h

theorem inv_step (h : s.Inv) (op : QueryAction) : (queryStep s op).Inv := by
  cases op with
  | command msg => exact inv_command h msg
  | query kind => exact inv_query h kind
  | release => exact inv_release h
  | wake => exact inv_wake h
  | timeout => exact inv_timeout h
  | receive => exact inv_receive h
  | poll => exact inv_poll h
  | take => exact inv_take h
  | answer app => exact inv_answer h app
  | announce => exact inv_announce h

/-! ## Which response a query takes -/

/-- A query takes its own response exactly if it was asked alone; the response was made for a query
in any case. -/
theorem takes_spec (h : s.Inv) {op : QueryAction} {t : Taken} (ht : t ∈ takes s op) :
    t.response.Made ∧ t.query.request.msg.type.query = some t.query.kind ∧
      (t.response.request = t.query.request ↔ t.query.alone = true) := by
  cases op with
  | receive =>
    simp only [takes] at ht
    cases hs : s.script with
    | receiving q =>
      simp only [hs, List.mem_singleton] at ht
      subst ht
      have hresp := h.response_units
      rw [hs] at hresp
      simp only [ScriptPhase.held] at hresp
      obtain ⟨r, rest, hc⟩ :=
        List.exists_cons_of_length_pos (by omega : 0 < s.responseQ.contents.length)
      have hfst := (ScriptMsgQueue.dequeue_of_cons h.responseQ hc).1
      have hfirst : s.outstanding.head? = some r.request := by
        simp only [outstanding, hc, List.map_cons, List.cons_append, List.head?_cons]
      have htracked := h.tracked q (by rw [hs]; rfl)
      rw [hfst]
      refine ⟨h.made r (hc ▸ List.mem_cons_self ..), htracked.kind_eq, fun heq => ?_,
        fun halone => ?_⟩
      · by_contra hne
        obtain ⟨x, hx, hxne⟩ := htracked.behind (Bool.not_eq_true _ ▸ hne)
        obtain rfl := Option.some.inj (hfirst.symm.trans hx)
        exact hxne heq
      · exact htracked.only halone _ (List.mem_of_head? hfirst)
    | idle => simp [hs] at ht
    | releasing q => simp [hs] at ht
    | waiting q => simp [hs] at ht
  | command msg => cases ht
  | query kind => cases ht
  | release => cases ht
  | wake => cases ht
  | timeout => cases ht
  | poll => cases ht
  | take => cases ht
  | answer app => cases ht
  | announce => cases ht

end QueryState

/-- A response that was made for the query it is taken by passes the check on its type. -/
theorem Taken.matches_iff {t : Taken} (hmade : t.response.Made)
    (hkind : t.query.request.msg.type.query = some t.query.kind) :
    t.Matches ↔ t.response.request = t.query.request := by
  refine ⟨fun h => h.1, fun heq => ⟨heq, ?_⟩⟩
  obtain ⟨app, kind, hasked, hmsg⟩ := hmade
  rw [heq, hkind] at hasked
  obtain rfl := Option.some.inj hasked
  rw [hmsg, onScriptQuery_type]

/-- In every run, all queries that take a response take their own, and it passes their check,
exactly if each of them was asked when no earlier query was outstanding. -/
theorem answers_match_iff (ops : List QueryAction) :
    (∀ t ∈ allTaken ops, t.Matches) ↔ ∀ t ∈ allTaken ops, t.query.alone = true := by
  have hinv : ∀ x ∈ Runs.visits queryStep .init ops, x.1.Inv :=
    (Runs.invariant (fun x _ h => QueryState.inv_step h x.2) QueryState.inv_init).1
  apply forall₂_congr
  intro t ht
  obtain ⟨x, hx, htx⟩ := List.mem_flatMap.1 ht
  obtain ⟨hmade, hkind, hown⟩ := QueryState.takes_spec (hinv x hx) htx
  exact (Taken.matches_iff hmade hkind).trans hown

/-- The application with a square window. -/
def windowView (size : Int32) : AppView := ⟨0, 0, true, 0, 0, size, size, none⟩

/-- A window size is asked twice, and the main thread answers the first time after the timeout. A
clipboard is asked last. -/
def slowMain : List QueryAction :=
  [.query .windowSize, .release, .timeout, .poll, .take, .answer (windowView 100), .announce,
    .query .windowSize, .release, .wake, .receive, .poll, .take, .answer (windowView 200),
    .announce, .query .clipboard, .release, .wake, .receive]

/-- The second query returns the size that was found for the first one, and the late second response
makes the last query fail its check. -/
theorem slowMain_shifts :
    (allTaken slowMain).map (fun t =>
        (t.query.request.number, t.response.request.number, t.value)) =
      [(1, 0, some (.size 100 100)), (2, 1, none)] ∧
    (allTaken slowMain).map (fun t => decide (t.response.msg.type = t.query.kind.responseType)) =
      [true, false] := by
  decide

end Autoscrcpy
