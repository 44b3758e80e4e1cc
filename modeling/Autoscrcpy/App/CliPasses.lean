import Autoscrcpy.App.Cli

/-!
# The two passes over the command line

The first pass of `cli_parse` looks for `-c` at every element, and does not know which options have
a value; the second pass does. They read a command line in the same way exactly where no value of an
option is written like `-c` (`passesAgree_iff`). Where that is so, it does not matter at which
place the config file is given (`cliParseRun_moveConfig`).
-/

namespace Autoscrcpy

open CText Assignments

/-! ## Reading from left to right -/

/-- What an element of the command line is read as. -/
inductive ArgRole where
  | configFlag
  | configPath
  | option (opt : CliOption)
  | value (opt : CliOption)
  | switch (sw : CliSwitch)
  | other
  deriving DecidableEq

/-- One reading from left to right, in which every option takes what belongs to it. -/
def argRoles : List Text → List ArgRole
  | [] => []
  | arg :: args =>
      if isConfigFlag arg then
        match args with
        | [] => [.configFlag]
        | _ :: args => .configFlag :: .configPath :: argRoles args
      else
        match CliOption.ofArg arg with
        | some opt =>
            match args with
            | [] => [.option opt]
            | _ :: args => .option opt :: .value opt :: argRoles args
        | none =>
            match CliSwitch.ofArg arg with
            | some sw => .switch sw :: argRoles args
            | none => .other :: argRoles args

/-- The first pass reads the config file and its flag; everything else it passes over. -/
def scanRoles : List Text → List ArgRole
  | [] => []
  | arg :: args =>
      if isConfigFlag arg then
        match args with
        | [] => [.configFlag]
        | _ :: args => .configFlag :: .configPath :: scanRoles args
      else .other :: scanRoles args

theorem scanRoles_cons {arg : Text} (hflag : ¬ isConfigFlag arg) (args : List Text) :
    scanRoles (arg :: args) = .other :: scanRoles args := by
  rw [scanRoles.eq_def]
  exact if_neg hflag

theorem argRoles_switch {arg : Text} {sw : CliSwitch} (hflag : ¬ isConfigFlag arg)
    (hopt : CliOption.ofArg arg = none) (hsw : CliSwitch.ofArg arg = some sw) (args : List Text) :
    argRoles (arg :: args) = .switch sw :: argRoles args := by
  rw [argRoles.eq_def]
  simp only [if_neg hflag, hopt, hsw]

theorem argRoles_other {arg : Text} (hflag : ¬ isConfigFlag arg)
    (hopt : CliOption.ofArg arg = none) (hsw : CliSwitch.ofArg arg = none) (args : List Text) :
    argRoles (arg :: args) = .other :: argRoles args := by
  rw [argRoles.eq_def]
  simp only [if_neg hflag, hopt, hsw]

/-- The path in an element that is read as one. -/
def pathOfRole : Text × ArgRole → Option Text
  | (path, .configPath) => some path
  | _ => none

/-- The config file in a reading: the last one; nothing when the path behind the flag is missing. -/
def configIn (args : List Text) (roles : List ArgRole) : Option (Option Text) :=
  if roles.getLast? = some .configFlag then none
  else some ((args.zip roles).filterMap pathOfRole).getLast?

/-- The setting of an element with its role. -/
def CliSetting.ofRole : Text × ArgRole → Option CliSetting
  | (value, .value opt) => some (.valued opt value)
  | (_, .switch sw) => some (.switch sw)
  | _ => none

/-- The second pass, where it succeeds, reads its settings in this way. -/
theorem cliSettings_roles {args : List Text} {settings : List CliSetting}
    (h : cliSettings args = some settings) :
    settings = (args.zip (argRoles args)).filterMap CliSetting.ofRole := by
  induction args using argRoles.induct generalizing settings with
  | case1 => exact (Option.some.inj h).symm
  | case2 arg hflag =>
    rw [cliSettings, if_pos hflag] at h
    rw [argRoles, if_pos hflag, ← Option.some.inj h]
    rfl
  | case3 arg hflag path args ih =>
    rw [cliSettings, if_pos hflag] at h
    rw [argRoles, if_pos hflag, ih h]
    rfl
  | case4 arg hflag opt hopt =>
    rw [cliSettings, if_neg hflag, hopt] at h
    cases h
  | case5 arg hflag opt hopt value args ih =>
    rw [cliSettings, if_neg hflag, hopt, Option.map_eq_some_iff] at h
    obtain ⟨rest, hrest, rfl⟩ := h
    rw [argRoles, if_neg hflag, hopt, ih hrest]
    rfl
  | case6 arg args hflag hopt sw hsw ih =>
    rw [cliSettings.eq_def] at h
    simp only [if_neg hflag, hopt, hsw, Option.map_eq_some_iff] at h
    obtain ⟨rest, hrest, rfl⟩ := h
    rw [argRoles_switch hflag hopt hsw, ih hrest]
    rfl
  | case7 arg args hflag hopt hsw ih =>
    rw [cliSettings.eq_def] at h
    simp only [if_neg hflag, hopt, hsw] at h
    cases h

/-! ## The config file of a reading -/

theorem getLast?_cons_flag {r : ArgRole} (hr : r ≠ .configFlag) (roles : List ArgRole) :
    (r :: roles).getLast? = some .configFlag ↔ roles.getLast? = some .configFlag := by
  rw [List.getLast?_cons]
  cases roles.getLast? with
  | none => simpa using hr
  | some last => simp

theorem configIn_cons {r : ArgRole} (hflag : r ≠ .configFlag) (hpath : r ≠ .configPath) (arg : Text)
    (args : List Text) (roles : List ArgRole) :
    configIn (arg :: args) (r :: roles) = configIn args roles := by
  have hnone : pathOfRole (arg, r) = none := by
    cases r with
    | configPath => exact absurd rfl hpath
    | _ => rfl
  simp only [configIn, getLast?_cons_flag hflag, List.zip_cons_cons, List.filterMap_cons, hnone]

theorem configIn_pair (arg path : Text) (args : List Text) (roles : List ArgRole) :
    configIn (arg :: path :: args) (.configFlag :: .configPath :: roles) =
      (configIn args roles).map fun last => some (last.getD path) := by
  have hlast : (ArgRole.configFlag :: .configPath :: roles).getLast? = some .configFlag ↔
      roles.getLast? = some .configFlag := by
    rw [List.getLast?_cons_cons, getLast?_cons_flag (by decide)]
  simp only [configIn, hlast]
  split_ifs
  · rfl
  · simp only [List.zip_cons_cons, List.filterMap_cons, pathOfRole, List.getLast?_cons,
      Option.map_some]

theorem firstPass_of_not_flag {arg : Text} (h : isConfigFlag arg = false) (path : Option Text)
    (args : List Text) : firstPass path (arg :: args) = firstPass path args := by
  rw [firstPass.eq_def]
  simp only [h, Bool.false_eq_true, if_false]

/-- The first pass takes the last config file of its reading. -/
theorem firstPass_eq (path : Option Text) (args : List Text) :
    firstPass path args = (configIn args (scanRoles args)).map fun last => last.or path := by
  induction args using scanRoles.induct generalizing path with
  | case1 => rfl
  | case2 arg hflag => simp [firstPass, scanRoles, configIn, hflag]
  | case3 arg hflag value args ih =>
    rw [firstPass, if_pos hflag, ih, scanRoles, if_pos hflag, configIn_pair, Option.map_map]
    congr 1
    funext last
    cases last <;> rfl
  | case4 arg args hflag ih =>
    rw [firstPass_of_not_flag (Bool.eq_false_iff.2 hflag), scanRoles_cons hflag, ih,
      configIn_cons (by decide) (by decide)]

/-! ## Reading in the same way -/

/-- The element is the one that a reading takes as the config file. -/
def TakesConfig (roles : List ArgRole) (i : ℕ) : Prop :=
  roles[i]? = some .configPath ∧ ∀ j, i < j → roles[j]? ≠ some .configPath

/-- The first pass takes as the config file what the reading from left to right takes as such, it
passes over every value of another option, and the result is that of the reading. -/
structure PassesAgree (args : List Text) : Prop where
  taken : ∀ i, TakesConfig (scanRoles args) i → (argRoles args)[i]? = some ArgRole.configPath
  unread : ∀ (i : ℕ) (opt : CliOption), (argRoles args)[i]? = some (.value opt) →
    (scanRoles args)[i]? = some .other
  result : firstPass none args = configIn args (argRoles args)

/-- No value of an option is written like the flag of the config file. -/
def ValuesPlain (args : List Text) : Prop :=
  ∀ x ∈ args.zip (argRoles args), ∀ opt, x.2 = .value opt → isConfigFlag x.1 = false

/-- What the first pass sees of a role. -/
def ArgRole.scanned : ArgRole → ArgRole
  | .configFlag => .configFlag
  | .configPath => .configPath
  | _ => .other

theorem scanRoles_eq {args : List Text} (h : ValuesPlain args) :
    scanRoles args = (argRoles args).map ArgRole.scanned := by
  unfold ValuesPlain at h
  induction args using argRoles.induct with
  | case1 => rfl
  | case2 arg hflag =>
    rw [scanRoles, argRoles, if_pos hflag, if_pos hflag]
    rfl
  | case3 arg hflag path args ih =>
    rw [argRoles, if_pos hflag, List.zip_cons_cons, List.zip_cons_cons] at h
    rw [scanRoles, argRoles, if_pos hflag, if_pos hflag, ih fun x hx => h x (by simp [hx])]
    rfl
  | case4 arg hflag opt hopt =>
    rw [scanRoles, argRoles, if_neg hflag, if_neg hflag, hopt]
    rfl
  | case5 arg hflag opt hopt value args ih =>
    rw [argRoles, if_neg hflag, hopt] at h
    simp only [List.zip_cons_cons] at h
    have hvalue : isConfigFlag value = false := h (value, .value opt) (by simp) opt rfl
    rw [scanRoles_cons hflag, scanRoles_cons (Bool.eq_false_iff.1 hvalue), argRoles, if_neg hflag,
      hopt, ih fun x hx => h x (by simp [hx])]
    rfl
  | case6 arg args hflag hopt sw hsw ih =>
    rw [argRoles_switch hflag hopt hsw, List.zip_cons_cons] at h
    rw [scanRoles_cons hflag, argRoles_switch hflag hopt hsw, ih fun x hx => h x (by simp [hx])]
    rfl
  | case7 arg args hflag hopt hsw ih =>
    rw [argRoles_other hflag hopt hsw, List.zip_cons_cons] at h
    rw [scanRoles_cons hflag, argRoles_other hflag hopt hsw, ih fun x hx => h x (by simp [hx])]
    rfl

/-- The first pass does not pass over the flag of the config file. -/
theorem isConfigFlag_of_other {args : List Text} {i : ℕ} {arg : Text} (harg : args[i]? = some arg)
    (hrole : (scanRoles args)[i]? = some .other) : isConfigFlag arg = false := by
  induction args using scanRoles.induct generalizing i with
  | case1 => cases harg
  | case2 arg' hflag =>
    rw [scanRoles, if_pos hflag, List.getElem?_singleton] at hrole
    split_ifs at hrole
    cases Option.some.inj hrole
  | case3 arg' hflag path args ih =>
    rw [scanRoles, if_pos hflag] at hrole
    rcases i with _ | _ | i
    · cases Option.some.inj hrole
    · cases Option.some.inj hrole
    · exact ih harg hrole
  | case4 arg' args hflag ih =>
    rw [scanRoles_cons hflag] at hrole
    cases i with
    | zero =>
      obtain rfl := Option.some.inj harg
      exact Bool.eq_false_iff.2 hflag
    | succ i => exact ih harg hrole

theorem configIn_map_scanned (args : List Text) (roles : List ArgRole) :
    configIn args (roles.map ArgRole.scanned) = configIn args roles := by
  have hlast : (roles.map ArgRole.scanned).getLast? = some .configFlag ↔
      roles.getLast? = some .configFlag := by
    rw [List.getLast?_map]
    cases roles.getLast? with
    | none => simp
    | some r => cases r <;> simp [ArgRole.scanned]
  have hpath : pathOfRole ∘ Prod.map id ArgRole.scanned = pathOfRole := by
    funext ⟨arg, r⟩
    cases r <;> rfl
  simp only [configIn, hlast, List.zip_map_right, List.filterMap_map, hpath]

/-- The two passes read a command line in the same way exactly when no value of an option is written
like the flag of the config file. -/
theorem passesAgree_iff (argv : List Text) : PassesAgree argv.tail ↔ ValuesPlain argv.tail := by
  generalize argv.tail = args
  constructor
  · intro h x hx opt hrole
    obtain ⟨i, hi⟩ := List.mem_iff_getElem?.1 hx
    obtain ⟨harg, hread⟩ := List.getElem?_zip_eq_some.1 hi
    exact isConfigFlag_of_other harg (h.unread i opt (hread.trans (congrArg some hrole)))
  · intro h
    have hroles := scanRoles_eq h
    refine ⟨fun i hi => ?_, fun i opt hi => ?_, ?_⟩
    · have htaken := hi.1
      rw [hroles, List.getElem?_map, Option.map_eq_some_iff] at htaken
      obtain ⟨r, hr, hscanned⟩ := htaken
      cases r <;> first | exact hr | cases hscanned
    · rw [hroles, List.getElem?_map, hi]
      rfl
    · rw [firstPass_eq, hroles, configIn_map_scanned]
      cases configIn args (argRoles args) with
      | none => rfl
      | some last => simp

/-- `-s -c`: the reading gives the device `-c`, and the first pass misses the path of a file. -/
theorem passesAgree_fails :
    ¬ PassesAgree [text "autoscrcpy", text "-s", text "-c"].tail ∧
      ∀ overflow readFile,
        cliParse overflow readFile [text "autoscrcpy", text "-s", text "-c"] = none := by
  refine ⟨fun h => ?_, fun overflow readFile => ?_⟩
  · have hplain := h.unread 1 .serial (by decide +kernel)
    exact absurd hplain (by decide +kernel)
  · have hfirst : firstPass none [text "-s", text "-c"] = none := by decide +kernel
    rw [cliParse, List.tail_cons, hfirst]
    rfl

/-! ## What `cli_parse` leaves -/

/-- The second pass, with the options that it leaves also where it fails. -/
def secondPassRun (overflow : ℤ → Int32) (options : ScrcpyOptions) :
    List Text → Bool × ScrcpyOptions
  | [] => (true, options)
  | arg :: args =>
      if isConfigFlag arg then
        match args with
        | [] => (true, options)
        | _ :: args => secondPassRun overflow options args
      else
        match CliOption.ofArg arg with
        | some option =>
            match args with
            | [] => (false, options)
            | value :: args => secondPassRun overflow (option.set overflow value options) args
        | none =>
            match CliSwitch.ofArg arg with
            | some switch => secondPassRun overflow (switch.set options) args
            | none => (false, options)

/-- `cli_parse`: what it returns and the options that it leaves. -/
def cliParseRun (overflow : ℤ → Int32) (readFile : Text → Option (List UInt8))
    (argv : List Text) : Bool × ScrcpyOptions :=
  match firstPass none argv.tail with
  | none => (false, scrcpyOptionsDefault)
  | some path =>
      match loadConfig overflow readFile path with
      | none => (false, scrcpyOptionsDefault)
      | some options => secondPassRun overflow options argv.tail

theorem secondPass_eq_run (overflow : ℤ → Int32) (options : ScrcpyOptions) (args : List Text) :
    secondPass overflow options args =
      if (secondPassRun overflow options args).1 then
        some (secondPassRun overflow options args).2
      else none := by
  fun_induction secondPassRun overflow options args with
  | case1 => rfl
  | case2 options arg hflag => rw [secondPass, if_pos hflag]; rfl
  | case3 options arg hflag path args ih => rw [secondPass, if_pos hflag, ih]
  | case4 options arg hflag opt hopt => simp [secondPass, hflag, hopt]
  | case5 options arg hflag opt hopt value args ih =>
    rw [secondPass, if_neg hflag, hopt]
    exact ih
  | case6 options arg args hflag hopt sw hsw ih =>
    rw [secondPass.eq_def]
    simp only [if_neg hflag, hopt, hsw, ih]
  | case7 options arg args hflag hopt hsw =>
    rw [secondPass.eq_def]
    simp only [if_neg hflag, hopt, hsw]
    rfl

/-- Where `cli_parse` succeeds, the options are those of `cliParse`. -/
theorem cliParse_eq_run (overflow : ℤ → Int32) (readFile : Text → Option (List UInt8))
    (argv : List Text) :
    cliParse overflow readFile argv =
      if (cliParseRun overflow readFile argv).1 then
        some (cliParseRun overflow readFile argv).2
      else none := by
  unfold cliParse cliParseRun
  cases firstPass none argv.tail with
  | none => rfl
  | some path =>
    simp only [Option.bind_eq_bind, Option.bind_some]
    cases loadConfig overflow readFile path with
    | none => rfl
    | some options => exact secondPass_eq_run overflow options argv.tail

/-! ## Complete options -/

/-- An option with all that belongs to it. Its value is not written like the flag of the config
file. -/
inductive CompleteOption where
  | valued (opt : CliOption) (arg value : Text) (spelled : CliOption.ofArg arg = some opt)
      (plain : isConfigFlag value = false)
  | switch (sw : CliSwitch) (arg : Text) (spelled : CliSwitch.ofArg arg = some sw)
  | help (arg : Text) (spelled : arg = text "-h" ∨ arg = text "--help")

namespace CompleteOption

/-- The elements of the command line. -/
def args : CompleteOption → List Text
  | valued _ arg value _ _ => [arg, value]
  | switch _ arg _ => [arg]
  | help arg _ => [arg]

/-- What the option assigns. -/
def setting : CompleteOption → Option CliSetting
  | valued opt _ value _ _ => some (.valued opt value)
  | switch sw _ _ => some (.switch sw)
  | help _ _ => none

end CompleteOption

/-- The fields of `struct scrcpy_options`, by the type of their values. -/
inductive OptionField : Type → Type where
  | serial : OptionField (Option Text)
  | serverPath : OptionField Text
  | recordFilename : OptionField (Option Text)
  | windowTitle : OptionField Text
  | port : OptionField UInt16
  | maxSize : OptionField UInt32
  | videoBitRate : OptionField UInt32
  | audioBitRate : OptionField UInt32
  | videoCodec : OptionField Text
  | audioCodec : OptionField Text
  | control : OptionField Bool
  | video : OptionField Bool
  | audio : OptionField Bool
  | fullscreen : OptionField Bool
  | alwaysOnTop : OptionField Bool
  | turnScreenOff : OptionField Bool
  | stayAwake : OptionField Bool
  | showTouches : OptionField Bool
  | record : OptionField Bool
  | audioSource : OptionField Text
  | windowWidth : OptionField UInt32
  | windowHeight : OptionField UInt32
  | logLevel : OptionField ℕ
  | scriptPath : OptionField (Option Text)
  | scriptEval : OptionField (Option Text)
  | repl : OptionField Bool

namespace OptionField

variable {α : Type}

def get (o : ScrcpyOptions) : OptionField α → α
  | serial => o.serial
  | serverPath => o.serverPath
  | recordFilename => o.recordFilename
  | windowTitle => o.windowTitle
  | port => o.port
  | maxSize => o.maxSize
  | videoBitRate => o.videoBitRate
  | audioBitRate => o.audioBitRate
  | videoCodec => o.videoCodec
  | audioCodec => o.audioCodec
  | control => o.control
  | video => o.video
  | audio => o.audio
  | fullscreen => o.fullscreen
  | alwaysOnTop => o.alwaysOnTop
  | turnScreenOff => o.turnScreenOff
  | stayAwake => o.stayAwake
  | showTouches => o.showTouches
  | record => o.record
  | audioSource => o.audioSource
  | windowWidth => o.windowWidth
  | windowHeight => o.windowHeight
  | logLevel => o.logLevel
  | scriptPath => o.scriptPath
  | scriptEval => o.scriptEval
  | repl => o.repl

/-- The value that an option of the command line assigns to a field, if it is one of its fields. -/
def assigned (overflow : ℤ → Int32) : OptionField α → CliSetting → Option α
  | serial, .valued .serial value => some (some value)
  | port, .valued .port value => some (uint16OfInt (atoi overflow value))
  | maxSize, .valued .maxSize value => some (atoi overflow value).toUInt32
  | videoBitRate, .valued .videoBitRate value => some (atoi overflow value).toUInt32
  | videoCodec, .valued .videoCodec value => some value
  | audioCodec, .valued .audioCodec value => some value
  | serverPath, .valued .serverPath value => some value
  | record, .valued .record _ => some true
  | recordFilename, .valued .record value => some (some value)
  | scriptPath, .valued .script value => some (some value)
  | scriptEval, .valued .eval value => some (some value)
  | control, .switch .noControl => some false
  | video, .switch .noVideo => some false
  | audio, .switch .noAudio => some false
  | fullscreen, .switch .fullscreen => some true
  | alwaysOnTop, .switch .alwaysOnTop => some true
  | turnScreenOff, .switch .turnScreenOff => some true
  | stayAwake, .switch .stayAwake => some true
  | showTouches, .switch .showTouches => some true
  | repl, .switch .repl => some true
  | _, _ => none

theorem writes_assigned (overflow : ℤ → Int32) (f : OptionField α) :
    Writes (CliSetting.apply overflow) f.get (f.assigned overflow) := by
  rintro o s
  cases s with
  | valued opt value => cases opt <;> cases f <;> rfl
  | switch sw => cases sw <;> cases f <;> rfl

end OptionField

/-! ## Moving the config file -/

theorem not_flag_of_option {arg : Text} {opt : CliOption} (h : CliOption.ofArg arg = some opt) :
    isConfigFlag arg = false := by
  by_contra hflag
  have hnone : ∀ flag : Text, flag = text "-c" ∨ flag = text "--config" →
      CliOption.ofArg flag = none := by
    rintro flag (rfl | rfl) <;> rw [CliOption.ofArg_text] <;> decide
  rw [Bool.not_eq_false, isConfigFlag, decide_eq_true_eq] at hflag
  rw [hnone arg hflag] at h
  cases h

/-- A switch is no flag of the config file and no option with a value. -/
theorem not_option_of_switch {arg : Text} {sw : CliSwitch} (h : CliSwitch.ofArg arg = some sw) :
    isConfigFlag arg = false ∧ CliOption.ofArg arg = none := by
  have hall : ∀ sw ∈ CliSwitch.all, ∀ spelling ∈ sw.spellings,
      isConfigFlag (text spelling) = false ∧ CliOption.ofArg (text spelling) = none := by
    simp only [isConfigFlag_text, CliOption.ofArg_text]
    decide
  have hspelled := List.find?_some h
  simp only [List.any_eq_true, decide_eq_true_eq] at hspelled
  obtain ⟨spelling, hmem, rfl⟩ := hspelled
  exact hall sw (List.mem_of_find?_eq_some h) spelling hmem

/-- The help is an unknown option to the tables. -/
theorem unknown_of_help {arg : Text} (h : arg = text "-h" ∨ arg = text "--help") :
    isConfigFlag arg = false ∧ CliOption.ofArg arg = none ∧ CliSwitch.ofArg arg = none := by
  rcases h with rfl | rfl <;>
    rw [isConfigFlag_text, CliOption.ofArg_text, CliSwitch.ofArg_text] <;> decide

/-- The first pass passes over complete options. -/
theorem firstPass_complete (path : Option Text) (opts : List CompleteOption) (rest : List Text) :
    firstPass path (opts.flatMap CompleteOption.args ++ rest) = firstPass path rest := by
  induction opts with
  | nil => rfl
  | cons opt opts ih =>
    rw [List.flatMap_cons, List.append_assoc, ← ih]
    cases opt with
    | valued o arg value spelled plain =>
      rw [CompleteOption.args, List.cons_append, List.cons_append, List.nil_append,
        firstPass_of_not_flag (not_flag_of_option spelled), firstPass_of_not_flag plain]
    | switch sw arg spelled =>
      rw [CompleteOption.args, List.cons_append, List.nil_append,
        firstPass_of_not_flag (not_option_of_switch spelled).1]
    | help arg spelled =>
      rw [CompleteOption.args, List.cons_append, List.nil_append,
        firstPass_of_not_flag (unknown_of_help spelled).1]

/-- One complete option in the second pass. -/
theorem secondPassRun_complete (overflow : ℤ → Int32) (options : ScrcpyOptions)
    (opt : CompleteOption) (rest : List Text) :
    secondPassRun overflow options (opt.args ++ rest) =
      match opt.setting with
      | some setting => secondPassRun overflow (setting.apply overflow options) rest
      | none => (false, options) := by
  cases opt with
  | valued o arg value spelled plain =>
    simp only [CompleteOption.args, List.cons_append, List.nil_append]
    rw [secondPassRun.eq_def]
    simp only [not_flag_of_option spelled, spelled]
    rfl
  | switch sw arg spelled =>
    obtain ⟨hflag, hopt⟩ := not_option_of_switch spelled
    simp only [CompleteOption.args, List.cons_append, List.nil_append]
    rw [secondPassRun.eq_def]
    simp only [hflag, hopt, spelled]
    rfl
  | help arg spelled =>
    obtain ⟨hflag, hopt, hsw⟩ := unknown_of_help spelled
    simp only [CompleteOption.args, List.cons_append, List.nil_append]
    rw [secondPassRun.eq_def]
    simp only [hflag, hopt, hsw]
    rfl

/-- The second pass goes over the config file between complete options. -/
theorem secondPassRun_config (overflow : ℤ → Int32) {flag : Text} (hflag : isConfigFlag flag)
    (options : ScrcpyOptions) (opts : List CompleteOption) (path : Text) (rest : List Text) :
    secondPassRun overflow options (opts.flatMap CompleteOption.args ++ flag :: path :: rest) =
      secondPassRun overflow options (opts.flatMap CompleteOption.args ++ rest) := by
  induction opts generalizing options with
  | nil =>
    rw [List.flatMap_nil, List.nil_append, List.nil_append, secondPassRun, if_pos hflag]
  | cons opt opts ih =>
    rw [List.flatMap_cons, List.append_assoc, List.append_assoc, secondPassRun_complete,
      secondPassRun_complete]
    cases opt.setting with
    | none => rfl
    | some setting => exact ih _

/-- A command line of complete options with a config file between them. -/
def argvWith (name : Text) (before : List CompleteOption) (flag path : Text)
    (after : List CompleteOption) : List Text :=
  name :: (before.flatMap CompleteOption.args ++
    flag :: path :: after.flatMap CompleteOption.args)

/-- What `cli_parse` does depends on the options and on the config file, and not on its place. -/
theorem cliParseRun_argvWith (overflow : ℤ → Int32) (readFile : Text → Option (List UInt8))
    (name : Text) {flag : Text} (hflag : isConfigFlag flag) (path : Text)
    (before after : List CompleteOption) :
    cliParseRun overflow readFile (argvWith name before flag path after) =
      match configParse overflow (readFile path) scrcpyOptionsDefault with
      | none => (false, scrcpyOptionsDefault)
      | some options => secondPassRun overflow options
          ((before ++ after).flatMap CompleteOption.args) := by
  have hfirst : firstPass none (before.flatMap CompleteOption.args ++
      flag :: path :: after.flatMap CompleteOption.args) = some (some path) := by
    have hafter := firstPass_complete (some path) after []
    rw [List.append_nil] at hafter
    rw [firstPass_complete, firstPass, if_pos hflag, hafter, firstPass]
  rw [cliParseRun, argvWith, List.tail_cons, hfirst]
  simp only [loadConfig, secondPassRun_config overflow hflag, List.flatMap_append]

/-- Complete options that the second pass accepts assign what they say, one behind the other. -/
theorem secondPassRun_ok {overflow : ℤ → Int32} {options : ScrcpyOptions}
    {opts : List CompleteOption}
    (h : (secondPassRun overflow options (opts.flatMap CompleteOption.args)).1 = true) :
    (secondPassRun overflow options (opts.flatMap CompleteOption.args)).2 =
      (opts.filterMap CompleteOption.setting).foldl (CliSetting.apply overflow) options := by
  induction opts generalizing options with
  | nil => rfl
  | cons opt opts ih =>
    rw [List.flatMap_cons, secondPassRun_complete] at h ⊢
    rw [List.filterMap_cons]
    cases hset : opt.setting with
    | none =>
      rw [hset] at h
      cases h
    | some setting =>
      rw [hset] at h
      exact ih h

/-- The last value that complete options assign to a field. -/
def lastAssigned {α : Type} (overflow : ℤ → Int32) (f : OptionField α)
    (opts : List CompleteOption) : Option α :=
  ((opts.filterMap CompleteOption.setting).filterMap (f.assigned overflow)).getLast?

/-- The place of the config file between complete options changes neither what `cli_parse` returns
nor the options that it leaves. When it succeeds, each field has the value of the last option that
assigns it, and without one the value that `config_parse` made of the defaults. -/
theorem cliParseRun_moveConfig (overflow : ℤ → Int32) (readFile : Text → Option (List UInt8))
    (name : Text) {flag : Text} (hflag : isConfigFlag flag) (path : Text)
    {before after before' after' : List CompleteOption} (h : before ++ after = before' ++ after') :
    cliParseRun overflow readFile (argvWith name before flag path after) =
        cliParseRun overflow readFile (argvWith name before' flag path after') ∧
      ((cliParseRun overflow readFile (argvWith name before flag path after)).1 = true →
        ∃ fromFile, configParse overflow (readFile path) scrcpyOptionsDefault = some fromFile ∧
          ∀ {α : Type} (f : OptionField α),
            f.get (cliParseRun overflow readFile (argvWith name before flag path after)).2 =
              (lastAssigned overflow f (before ++ after)).getD (f.get fromFile)) := by
  rw [cliParseRun_argvWith overflow readFile name hflag,
    cliParseRun_argvWith overflow readFile name hflag, ← h]
  refine ⟨rfl, fun hok => ?_⟩
  cases hfile : configParse overflow (readFile path) scrcpyOptionsDefault with
  | none =>
    rw [hfile] at hok
    cases hok
  | some fromFile =>
    rw [hfile] at hok
    refine ⟨fromFile, rfl, fun f => ?_⟩
    simp only [secondPassRun_ok hok, foldl_lastWrite (f.writes_assigned overflow), lastAssigned]

/-- `-p 5557`. -/
def portOption : CompleteOption :=
  .valued .port (text "-p") (text "5557") (by decide +kernel) (by decide +kernel)

/-- A port behind the config file, and in front of it. -/
theorem cliParseRun_moveConfig_port :
    cliParseRun (fun _ => 0) (fun _ => some (text "[connection]\nport = 5556\n"))
        (argvWith (text "autoscrcpy") [] (text "-c") (text "a.conf") [portOption]) =
      cliParseRun (fun _ => 0) (fun _ => some (text "[connection]\nport = 5556\n"))
        (argvWith (text "autoscrcpy") [portOption] (text "-c") (text "a.conf") []) := by
  have hflag : isConfigFlag (text "-c") = true := by rw [isConfigFlag_text]; rfl
  have hmoved : [] ++ [portOption] = [portOption] ++ [] := rfl
  exact (cliParseRun_moveConfig _ _ _ hflag _ hmoved).1

end Autoscrcpy
