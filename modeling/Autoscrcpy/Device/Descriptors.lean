import Autoscrcpy.Device.ServerStart

/-!
# The sockets of `server_start`

`server_start` makes up to three socket pairs and copies one end of each into the socket of the
application. On failure `cleanup` closes the pairs and leaves the copies, which
`application_destroy` closes again; on success nobody closes the other end of the audio and control
pairs. `closedOnce_iff`: every descriptor is closed exactly once only when no pair came about, or
when the start succeeded with audio and control off.
-/

namespace Autoscrcpy

/-! ## Descriptors -/

/-- The descriptors made so far, which are numbered in order and never used again, and those closed.
-/
structure Descriptors where
  opened : ℕ
  closed : List ℕ
  deriving DecidableEq, Repr

namespace Descriptors

/-- The next descriptor. -/
def make (d : Descriptors) : Descriptors := { d with opened := d.opened + 1 }

/-- `CLOSESOCKET`. -/
def close (d : Descriptors) (fd : ℕ) : Descriptors := { d with closed := d.closed ++ [fd] }

/-- `CLOSESOCKET` unless the variable holds `INVALID_SOCKFD`. -/
def closeValid (d : Descriptors) (fd : Option ℕ) : Descriptors :=
  match fd with
  | some fd => d.close fd
  | none => d

@[simp] theorem closed_close (d : Descriptors) (fd : ℕ) :
    (d.close fd).closed = d.closed ++ [fd] := rfl

@[simp] theorem closed_closeValid (d : Descriptors) (fd : Option ℕ) :
    (d.closeValid fd).closed = d.closed ++ fd.toList := by
  cases fd <;> simp [closeValid]

end Descriptors

/-- The calls of `create_socketpair` that can fail. -/
inductive PairOutcome where
  | listenSocketFails
  | bindFails
  | listenFails
  | socketFails
  | connectFails
  | acceptFails
  | ok
  deriving DecidableEq, Repr

/-- `create_socketpair`: whether it succeeds, and what it leaves in `fds`. The first descriptor that
it makes is the listening one. -/
def createSocketpair (outcome : PairOutcome) (fds : Option ℕ × Option ℕ) (d : Descriptors) :
    Bool × (Option ℕ × Option ℕ) × Descriptors :=
  let listenFd := d.opened
  let first := d.opened + 1
  let second := d.opened + 2
  match outcome with
  | .listenSocketFails => (false, fds, d)
  | .bindFails => (false, fds, d.make.close listenFd)
  | .listenFails => (false, fds, d.make.close listenFd)
  | .socketFails => (false, (none, fds.2), d.make.close listenFd)
  | .connectFails => (false, (some first, fds.2), (d.make.make.close first).close listenFd)
  | .acceptFails => (false, (some first, none), (d.make.make.close listenFd).close first)
  | .ok => (true, (some first, some second), d.make.make.make.close listenFd)

/-! ## The steps of `server_start` -/

/-- The steps of `server_start` that can fail, in order. -/
inductive StartStep where
  | parseSerial | connect
  | openFile | openSync | syncOpen | pushOk
  | shell | openVideo | openAudio | openControl
  | videoPair | audioPair | controlPair
  | allocReader | videoOpen | dummyByte | deviceName | codecBlock | sessionHeader
  deriving DecidableEq, Repr

/-- How each step turns out. -/
structure SocketEnv where
  succeeds : StartStep → Bool
  videoPair : PairOutcome
  audioPair : PairOutcome
  controlPair : PairOutcome

/-- The local pairs of `server_start`, and the `fd` of the three sockets of the application. -/
structure StartSockets where
  descriptors : Descriptors
  sp : Option ℕ × Option ℕ
  audioSp : Option ℕ × Option ℕ
  ctrlSp : Option ℕ × Option ℕ
  videoSock : Option ℕ
  audioSock : Option ℕ
  controlSock : Option ℕ
  deriving DecidableEq, Repr

/-- Everything is `INVALID_SOCKFD`. -/
def StartSockets.init : StartSockets :=
  ⟨⟨0, []⟩, (none, none), (none, none), (none, none), none, none, none⟩

/-- One step, and whether `server_start` goes on behind it. -/
def startStep (env : SocketEnv) (s : StartSockets) : StartStep → Bool × StartSockets
  | .videoPair =>
      let r := createSocketpair env.videoPair s.sp s.descriptors
      (r.1, { s with
        sp := r.2.1
        descriptors := r.2.2
        videoSock := if r.1 then r.2.1.1 else s.videoSock })
  | .audioPair =>
      let r := createSocketpair env.audioPair s.audioSp s.descriptors
      (r.1, { s with
        audioSp := r.2.1
        descriptors := r.2.2
        audioSock := if r.1 then r.2.1.1 else s.audioSock })
  | .controlPair =>
      let r := createSocketpair env.controlPair s.ctrlSp s.descriptors
      (r.1, { s with
        ctrlSp := r.2.1
        descriptors := r.2.2
        controlSock := if r.1 then r.2.1.1 else s.controlSock })
  | step => (env.succeeds step, s)

/-- The steps up to `goto cleanup`, or all of them. -/
def runSteps (env : SocketEnv) : StartSockets → List StartStep → Bool × StartSockets
  | s, [] => (true, s)
  | s, step :: steps =>
      let r := startStep env s step
      if r.1 then runSteps env r.2 steps else r

/-- The steps before the first socket pair. -/
def stepsBefore (cfg : ServerConfig) : List StartStep :=
  ([.parseSerial, .connect] : List StartStep) ++
    (if cfg.serverPath then [.openFile, .openSync, .syncOpen, .pushOk] else [] : List StartStep) ++
    ([.shell, .openVideo] : List StartStep) ++
    (if cfg.audio then [.openAudio] else [] : List StartStep) ++
    (if cfg.control then [.openControl] else [] : List StartStep)

/-- The steps behind the last socket pair. -/
def stepsBehind : List StartStep :=
  [.allocReader, .videoOpen, .dummyByte, .deviceName, .codecBlock, .sessionHeader]

/-- The steps behind the first socket pair. -/
def stepsAfter (cfg : ServerConfig) : List StartStep :=
  (if cfg.audio then [.audioPair] else []) ++ ((if cfg.control then [.controlPair] else []) ++
    stepsBehind)

def startSteps (cfg : ServerConfig) : List StartStep :=
  stepsBefore cfg ++ .videoPair :: stepsAfter cfg

/-! ## The ends -/

/-- What `server_start` leaves: its result, the sockets of the application and the end of the video
pair that the server keeps. -/
structure SocketsLeft where
  started : Bool
  descriptors : Descriptors
  videoSock : Option ℕ
  audioSock : Option ℕ
  controlSock : Option ℕ
  videoWriteFd : Option ℕ
  deriving DecidableEq, Repr

/-- The ownership transfer of a successful start. -/
def transfer (s : StartSockets) : SocketsLeft :=
  ⟨true, s.descriptors, s.videoSock, s.audioSock, s.controlSock, s.sp.2⟩

/-- `cleanup`, which closes all three pairs. -/
def cleanup (s : StartSockets) : SocketsLeft :=
  let d := (s.descriptors.closeValid s.sp.1).closeValid s.sp.2
  let d := (d.closeValid s.audioSp.1).closeValid s.audioSp.2
  let d := (d.closeValid s.ctrlSp.1).closeValid s.ctrlSp.2
  ⟨false, d, s.videoSock, s.audioSock, s.controlSock, none⟩

/-- The sockets that `server_start` leaves, called on an initialised application. -/
def serverStartSockets (cfg : ServerConfig) (env : SocketEnv) : SocketsLeft :=
  let r := runSteps env .init (startSteps cfg)
  if r.1 then transfer r.2 else cleanup r.2

/-- `server_destroy`. -/
def serverDestroy (s : SocketsLeft) : SocketsLeft :=
  { s with descriptors := s.descriptors.closeValid s.videoWriteFd, videoWriteFd := none }

/-- The sockets in `application_destroy`. -/
def applicationDestroy (s : SocketsLeft) : SocketsLeft :=
  let d := ((s.descriptors.closeValid s.videoSock).closeValid s.audioSock).closeValid s.controlSock
  { s with descriptors := d, videoSock := none, audioSock := none, controlSock := none }

/-- What follows `server_start`: `server_destroy` when it succeeded, and `application_destroy`. -/
def SocketsLeft.destroyed (s : SocketsLeft) : SocketsLeft :=
  applicationDestroy (if s.started then serverDestroy s else s)

/-- At the end every descriptor is closed exactly once, and after a failed start no socket of the
application holds one that is closed. -/
def SocketsLeft.ClosedOnce (s : SocketsLeft) : Prop :=
  (∀ fd < s.destroyed.descriptors.opened, s.destroyed.descriptors.closed.count fd = 1) ∧
    (s.started = false → ∀ fd ∈ s.descriptors.closed,
      s.videoSock ≠ some fd ∧ s.audioSock ≠ some fd ∧ s.controlSock ≠ some fd)

instance (s : SocketsLeft) : Decidable s.ClosedOnce :=
  inferInstanceAs (Decidable (_ ∧ _))

/-! ## Steps that make no descriptor -/

/-- The first descriptor of the pair was made, whether it still is open or not. -/
def PairOutcome.makesFirst : PairOutcome → Bool
  | connectFails | acceptFails | ok => true
  | _ => false

/-- A step that does not make a socket pair. -/
def StartStep.isCheck : StartStep → Bool
  | videoPair | audioPair | controlPair => false
  | _ => true

theorem startStep_check (env : SocketEnv) (s : StartSockets) {step : StartStep}
    (h : step.isCheck = true) : startStep env s step = (env.succeeds step, s) := by
  cases step <;> first | rfl | cases h

theorem runSteps_checks (env : SocketEnv) (s : StartSockets) {steps : List StartStep}
    (h : ∀ step ∈ steps, step.isCheck = true) :
    runSteps env s steps = (steps.all env.succeeds, s) := by
  induction steps with
  | nil => rfl
  | cons step steps ih =>
    obtain ⟨hhead, htail⟩ := List.forall_mem_cons.1 h
    rw [runSteps, startStep_check env s hhead, ih htail, List.all_cons]
    cases env.succeeds step <;> rfl

theorem runSteps_append (env : SocketEnv) (s : StartSockets) (steps steps' : List StartStep) :
    runSteps env s (steps ++ steps') =
      if (runSteps env s steps).1 then runSteps env (runSteps env s steps).2 steps'
      else runSteps env s steps := by
  induction steps generalizing s with
  | nil => rfl
  | cons step steps ih =>
    rw [List.cons_append, runSteps, runSteps]
    cases h : (startStep env s step).1
    · simp [h]
    · simp only [if_true]
      exact ih _

theorem isCheck_stepsBefore (cfg : ServerConfig) :
    ∀ step ∈ stepsBefore cfg, step.isCheck = true := by
  simp only [stepsBefore, List.forall_mem_append]
  refine ⟨⟨⟨⟨by decide, ?_⟩, by decide⟩, ?_⟩, ?_⟩ <;> split_ifs <;> decide

theorem isCheck_stepsBehind : ∀ step ∈ stepsBehind, step.isCheck = true := by decide

/-- The audio and control pairs do not touch the video pair. -/
theorem startStep_video (env : SocketEnv) (s : StartSockets) {step : StartStep}
    (h : step ≠ .videoPair) :
    (startStep env s step).2.sp = s.sp ∧ (startStep env s step).2.videoSock = s.videoSock := by
  cases step <;> first | exact ⟨rfl, rfl⟩ | exact absurd rfl h

theorem runSteps_video (env : SocketEnv) (s : StartSockets) {steps : List StartStep}
    (h : ∀ step ∈ steps, step ≠ .videoPair) :
    (runSteps env s steps).2.sp = s.sp ∧ (runSteps env s steps).2.videoSock = s.videoSock := by
  induction steps generalizing s with
  | nil => exact ⟨rfl, rfl⟩
  | cons step steps ih =>
    obtain ⟨hhead, htail⟩ := List.forall_mem_cons.1 h
    obtain ⟨hsp, hsock⟩ := startStep_video env s hhead
    rw [runSteps]
    split
    · rw [(ih _ htail).1, (ih _ htail).2]
      exact ⟨hsp, hsock⟩
    · exact ⟨hsp, hsock⟩

theorem ne_videoPair_of_mem_stepsAfter (cfg : ServerConfig) :
    ∀ step ∈ stepsAfter cfg, step ≠ .videoPair := by
  simp only [stepsAfter, List.forall_mem_append]
  refine ⟨?_, ?_, by decide⟩ <;> split_ifs <;> decide

theorem serverStartSockets_of_not_before {cfg : ServerConfig} {env : SocketEnv}
    (h : (stepsBefore cfg).all env.succeeds = false) :
    serverStartSockets cfg env = cleanup .init := by
  rw [serverStartSockets, startSteps, runSteps_append,
    runSteps_checks env _ (isCheck_stepsBefore cfg), h]
  rfl

/-- The first socket pair and what follows. -/
theorem serverStartSockets_of_before {cfg : ServerConfig} {env : SocketEnv}
    (h : (stepsBefore cfg).all env.succeeds = true) :
    serverStartSockets cfg env =
      let r := startStep env .init .videoPair
      let r' := if r.1 then runSteps env r.2 (stepsAfter cfg) else r
      if r'.1 then transfer r'.2 else cleanup r'.2 := by
  rw [serverStartSockets, startSteps, runSteps_append,
    runSteps_checks env _ (isCheck_stepsBefore cfg), h]
  rfl

/-- The state behind a video pair that did not come about. -/
def pairFailed (outcome : PairOutcome) : StartSockets :=
  let r := createSocketpair outcome (none, none) ⟨0, []⟩
  { StartSockets.init with sp := r.2.1, descriptors := r.2.2 }

theorem startStep_videoPair_of_ne {env : SocketEnv} (h : env.videoPair ≠ .ok) :
    startStep env .init .videoPair = (false, pairFailed env.videoPair) := by
  cases hp : env.videoPair <;> first | exact absurd hp h | (simp only [startStep, hp]; rfl)

/-- Where the first descriptor was made, `create_socketpair` has closed it and `cleanup` does so
again. -/
theorem closedOnce_pairFailed {outcome : PairOutcome} (h : outcome ≠ .ok) :
    (cleanup (pairFailed outcome)).ClosedOnce ↔ outcome.makesFirst = false := by
  cases outcome <;> first | exact absurd rfl h | decide

/-- The state behind a successful video pair. -/
def videoPairMade : StartSockets :=
  ⟨⟨3, [0]⟩, (some 1, some 2), (none, none), (none, none), some 1, none, none⟩

/-- The state behind all successful pairs. -/
def pairsMade (audio control : Bool) : StartSockets :=
  match audio, control with
  | false, false => videoPairMade
  | true, false =>
      ⟨⟨6, [0, 3]⟩, (some 1, some 2), (some 4, some 5), (none, none), some 1, some 4, none⟩
  | false, true =>
      ⟨⟨6, [0, 3]⟩, (some 1, some 2), (none, none), (some 4, some 5), some 1, none, some 4⟩
  | true, true =>
      ⟨⟨9, [0, 3, 6]⟩, (some 1, some 2), (some 4, some 5), (some 7, some 8), some 1, some 4, some 7⟩

/-- The audio and control pairs of the configuration succeed, and the steps behind them do. -/
def AfterSucceeds (cfg : ServerConfig) (env : SocketEnv) : Prop :=
  (cfg.audio = true → env.audioPair = .ok) ∧ (cfg.control = true → env.controlPair = .ok) ∧
    stepsBehind.all env.succeeds = true

/-- A pair that does not come about ends the start. -/
theorem startStep_audioPair_of_ne {env : SocketEnv} (h : env.audioPair ≠ .ok) (s : StartSockets) :
    (startStep env s .audioPair).1 = false := by
  cases hp : env.audioPair <;> first | exact absurd hp h | simp [startStep, createSocketpair, hp]

theorem startStep_controlPair_of_ne {env : SocketEnv} (h : env.controlPair ≠ .ok)
    (s : StartSockets) : (startStep env s .controlPair).1 = false := by
  cases hp : env.controlPair <;> first | exact absurd hp h | simp [startStep, createSocketpair, hp]

theorem runSteps_append_fst (env : SocketEnv) (s : StartSockets) (steps steps' : List StartStep) :
    (runSteps env s (steps ++ steps')).1 = true ↔
      (runSteps env s steps).1 = true ∧
        (runSteps env (runSteps env s steps).2 steps').1 = true := by
  rw [runSteps_append]
  split_ifs with h <;> simp [h]

/-- Behind the video pair, the start ends in `cleanup` unless all that follows succeeds. -/
theorem runSteps_stepsAfter_fst {cfg : ServerConfig} {env : SocketEnv} (s : StartSockets)
    (h : (runSteps env s (stepsAfter cfg)).1 = true) : AfterSucceeds cfg env := by
  rw [stepsAfter, runSteps_append_fst, runSteps_append_fst] at h
  obtain ⟨haudio, hcontrol, hbehind⟩ := h
  refine ⟨?_, ?_, ?_⟩
  · intro hcfg
    by_contra hne
    have hfalse := startStep_audioPair_of_ne hne s
    simp [hcfg, runSteps, hfalse] at haudio
  · intro hcfg
    by_contra hne
    have hfalse := startStep_controlPair_of_ne hne
    simp [hcfg, runSteps, hfalse] at hcontrol
  · rwa [runSteps_checks env _ isCheck_stepsBehind] at hbehind

/-- When all that follows succeeds, all pairs are made. -/
theorem runSteps_stepsAfter {cfg : ServerConfig} {env : SocketEnv} (h : AfterSucceeds cfg env) :
    runSteps env videoPairMade (stepsAfter cfg) = (true, pairsMade cfg.audio cfg.control) := by
  have hbehind (s : StartSockets) : runSteps env s stepsBehind = (true, s) := by
    rw [runSteps_checks env s isCheck_stepsBehind, h.2.2]
  rw [stepsAfter]
  cases h1 : cfg.audio <;> cases h2 : cfg.control <;>
    simp [runSteps, hbehind, startStep, createSocketpair, h.1, h.2.1, h1, h2, pairsMade,
      videoPairMade, Descriptors.make, Descriptors.close]

/-! ## When every descriptor is closed once -/

/-- The start fails before the first descriptor of the video pair is made. -/
def FailsBeforeVideoPair (cfg : ServerConfig) (env : SocketEnv) : Prop :=
  (∃ step ∈ stepsBefore cfg, env.succeeds step = false) ∨ env.videoPair.makesFirst = false

/-- All steps succeed, and audio and control are off. -/
def SucceedsWithVideoOnly (cfg : ServerConfig) (env : SocketEnv) : Prop :=
  (∀ step ∈ stepsBefore cfg, env.succeeds step = true) ∧ env.videoPair = .ok ∧
    (∀ step ∈ stepsBehind, env.succeeds step = true) ∧ cfg.audio = false ∧ cfg.control = false

/-- A failure behind the video pair closes the descriptor that the video socket still holds. -/
theorem not_closedOnce_of_failure {s : StartSockets} {fd : ℕ} (hsp : s.sp.1 = some fd)
    (hsock : s.videoSock = some fd) : ¬ (cleanup s).ClosedOnce := by
  rintro ⟨-, h⟩
  have hmem : fd ∈ (cleanup s).descriptors.closed := by
    simp [cleanup, hsp]
  exact (h rfl fd hmem).1 hsock

/-- With all pairs made, a successful start leaves the other ends of audio and control open. -/
theorem closedOnce_pairsMade (audio control : Bool) :
    (transfer (pairsMade audio control)).ClosedOnce ↔ audio = false ∧ control = false := by
  cases audio <;> cases control <;> decide

/-- For every configuration and every outcome of every step, each descriptor is closed exactly once
and no socket keeps a closed one exactly when the start fails before the video pair is made, or
succeeds with audio and control off. -/
theorem closedOnce_iff (cfg : ServerConfig) (env : SocketEnv) :
    (serverStartSockets cfg env).ClosedOnce ↔
      FailsBeforeVideoPair cfg env ∨ SucceedsWithVideoOnly cfg env := by
  cases hbefore : (stepsBefore cfg).all env.succeeds with
  | false =>
    rw [serverStartSockets_of_not_before hbefore]
    refine iff_of_true (by decide) (Or.inl (Or.inl ?_))
    simpa using hbefore
  | true =>
    have hall := List.all_eq_true.1 hbefore
    have hfails : FailsBeforeVideoPair cfg env ↔ env.videoPair.makesFirst = false := by
      rw [FailsBeforeVideoPair, or_iff_right]
      rintro ⟨step, hmem, hfalse⟩
      rw [hall step hmem] at hfalse
      cases hfalse
    rw [serverStartSockets_of_before hbefore, hfails]
    by_cases hpair : env.videoPair = .ok
    · have hstep : startStep env .init .videoPair = (true, videoPairMade) := by
        simp only [startStep, hpair]
        rfl
      have hmakes : ¬ env.videoPair.makesFirst = false := by rw [hpair]; decide
      simp only [hstep, if_true]
      rw [or_iff_right hmakes]
      by_cases hafter : AfterSucceeds cfg env
      · rw [runSteps_stepsAfter hafter]
        refine (closedOnce_pairsMade _ _).trans ⟨fun h => ?_, fun h => h.2.2.2⟩
        exact ⟨hall, hpair, List.all_eq_true.1 hafter.2.2, h⟩
      · have hfst : (runSteps env videoPairMade (stepsAfter cfg)).1 = false :=
          Bool.eq_false_iff.2 fun h => hafter (runSteps_stepsAfter_fst _ h)
        obtain ⟨hsp, hsock⟩ :=
          runSteps_video env videoPairMade (ne_videoPair_of_mem_stepsAfter cfg)
        rw [hfst]
        refine iff_of_false (not_closedOnce_of_failure (congrArg Prod.fst hsp) hsock) ?_
        rintro ⟨-, -, hbehind, haudio, hcontrol⟩
        exact hafter ⟨by simp [haudio], by simp [hcontrol], List.all_eq_true.2 hbehind⟩
    · simp only [startStep_videoPair_of_ne hpair, Bool.false_eq_true, if_false]
      rw [closedOnce_pairFailed hpair, or_iff_left]
      rintro ⟨-, hok, -⟩
      exact hpair hok

/-- Everything succeeds. -/
def allSucceed : SocketEnv := ⟨fun _ => true, .ok, .ok, .ok⟩

/-- Video and control. -/
def videoAndControl : ServerConfig := ⟨true, true, false, true, 8000000, 128000, 1920⟩

/-- The control end that the server writes to (descriptor 5) is never closed. -/
theorem control_end_leaks :
    ¬ (serverStartSockets videoAndControl allSucceed).ClosedOnce ∧
      5 < (serverStartSockets videoAndControl allSucceed).destroyed.descriptors.opened ∧
      5 ∉ (serverStartSockets videoAndControl allSucceed).destroyed.descriptors.closed := by
  decide

/-- When the device name does not arrive, the video socket keeps a closed descriptor, and it is
closed again. -/
example :
    let env : SocketEnv := ⟨fun step => step ≠ .deviceName, .ok, .ok, .ok⟩
    (serverStartSockets videoAndControl env).videoSock = some 1 ∧
      (serverStartSockets videoAndControl env).destroyed.descriptors.closed.count 1 = 2 := by
  decide

end Autoscrcpy
