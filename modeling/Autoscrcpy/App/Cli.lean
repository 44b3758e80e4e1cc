import Autoscrcpy.App.Config

/-!
# The command line

`cli_parse`: the first pass finds the config file, the second one reads the options, which override
what the config file set. `readFile` tells the bytes of a file (nothing when it cannot be opened).

`secondPass_eq`: the second pass assigns the options of the command line, one behind the other.
-/

namespace Autoscrcpy

open CText Assignments

/-! ## Options -/

/-- The options with a value, other than the config file. -/
inductive CliOption where
  | serial | port | maxSize | videoBitRate | videoCodec | audioCodec | serverPath | record
  | script | eval
  deriving DecidableEq

namespace CliOption

def all : List CliOption :=
  [serial, port, maxSize, videoBitRate, videoCodec, audioCodec, serverPath, record, script, eval]

/-- How an option is written. -/
def spellings : CliOption → List String
  | serial => ["-s", "--serial"]
  | port => ["-p", "--port"]
  | maxSize => ["-m", "--max-size"]
  | videoBitRate => ["-b", "--video-bit-rate"]
  | videoCodec => ["--video-codec"]
  | audioCodec => ["--audio-codec"]
  | serverPath => ["--server-path"]
  | record => ["-r", "--record"]
  | script => ["--script"]
  | eval => ["-e", "--eval"]

def ofArg (arg : Text) : Option CliOption :=
  all.find? fun option => option.spellings.any fun spelling => text spelling = arg

/-- What the value of an option is stored as. -/
def set (overflow : ℤ → Int32) (value : Text) (o : ScrcpyOptions) : CliOption → ScrcpyOptions
  | serial => { o with serial := some value }
  | port => { o with port := uint16OfInt (atoi overflow value) }
  | maxSize => { o with maxSize := (atoi overflow value).toUInt32 }
  | videoBitRate => { o with videoBitRate := (atoi overflow value).toUInt32 }
  | videoCodec => { o with videoCodec := value }
  | audioCodec => { o with audioCodec := value }
  | serverPath => { o with serverPath := value }
  | record => { o with record := true, recordFilename := some value }
  | script => { o with scriptPath := some value }
  | eval => { o with scriptEval := some value }

end CliOption

/-- The options without a value, other than the help. -/
inductive CliSwitch where
  | noControl | noVideo | noAudio | fullscreen | alwaysOnTop | turnScreenOff | stayAwake
  | showTouches | repl
  deriving DecidableEq

namespace CliSwitch

def all : List CliSwitch :=
  [noControl, noVideo, noAudio, fullscreen, alwaysOnTop, turnScreenOff, stayAwake, showTouches,
    repl]

/-- How a switch is written. -/
def spellings : CliSwitch → List String
  | noControl => ["--no-control"]
  | noVideo => ["--no-video"]
  | noAudio => ["--no-audio"]
  | fullscreen => ["-f", "--fullscreen"]
  | alwaysOnTop => ["--always-on-top"]
  | turnScreenOff => ["--turn-screen-off"]
  | stayAwake => ["--stay-awake"]
  | showTouches => ["--show-touches"]
  | repl => ["--repl"]

def ofArg (arg : Text) : Option CliSwitch :=
  all.find? fun switch => switch.spellings.any fun spelling => text spelling = arg

def set (o : ScrcpyOptions) : CliSwitch → ScrcpyOptions
  | noControl => { o with control := false }
  | noVideo => { o with video := false }
  | noAudio => { o with audio := false }
  | fullscreen => { o with fullscreen := true }
  | alwaysOnTop => { o with alwaysOnTop := true }
  | turnScreenOff => { o with turnScreenOff := true }
  | stayAwake => { o with stayAwake := true }
  | showTouches => { o with showTouches := true }
  | repl => { o with repl := true }

end CliSwitch

/-- `-c` and `--config`. -/
def isConfigFlag (arg : Text) : Bool := arg = text "-c" ∨ arg = text "--config"

/-! The tables compare what is written as strings. -/

theorem CliOption.ofArg_text (s : String) :
    ofArg (text s) = all.find? fun option => option.spellings.any fun spelling => spelling = s := by
  simp only [ofArg, text_inj]

theorem CliSwitch.ofArg_text (s : String) :
    ofArg (text s) = all.find? fun switch => switch.spellings.any fun spelling => spelling = s := by
  simp only [ofArg, text_inj]

theorem isConfigFlag_text (s : String) :
    isConfigFlag (text s) = decide (s = "-c" ∨ s = "--config") := by
  simp only [isConfigFlag, text_inj]

/-! ## `cli_parse` -/

/-- The first pass: the path of the config file, if there is one; nothing when the path is missing.
-/
def firstPass (path : Option Text) : List Text → Option (Option Text)
  | [] => some path
  | arg :: args =>
      if isConfigFlag arg then
        match args with
        | [] => none
        | value :: args => firstPass (some value) args
      else firstPass path args

/-- The second pass; it fails at a missing value, at the help and at an unknown option. -/
def secondPass (overflow : ℤ → Int32) (options : ScrcpyOptions) : List Text → Option ScrcpyOptions
  | [] => some options
  | arg :: args =>
      if isConfigFlag arg then
        match args with
        | [] => some options
        | _ :: args => secondPass overflow options args
      else
        match CliOption.ofArg arg with
        | some option =>
            match args with
            | [] => none
            | value :: args => secondPass overflow (option.set overflow value options) args
        | none =>
            match CliSwitch.ofArg arg with
            | some switch => secondPass overflow (switch.set options) args
            | none => none

/-- Load config file if specified. -/
def loadConfig (overflow : ℤ → Int32) (readFile : Text → Option (List UInt8)) :
    Option Text → Option ScrcpyOptions
  | some path => configParse overflow (readFile path) scrcpyOptionsDefault
  | none => some scrcpyOptionsDefault

/-- `cli_parse`; the first element of `argv` is the name of the program. -/
def cliParse (overflow : ℤ → Int32) (readFile : Text → Option (List UInt8)) (argv : List Text) :
    Option ScrcpyOptions := do
  let path ← firstPass none argv.tail
  let options ← loadConfig overflow readFile path
  secondPass overflow options argv.tail

/-! ## The assignments of a command line -/

/-- What an option of the command line assigns. -/
inductive CliSetting where
  | valued (opt : CliOption) (value : Text)
  | switch (sw : CliSwitch)
  deriving DecidableEq

def CliSetting.apply (overflow : ℤ → Int32) (o : ScrcpyOptions) : CliSetting → ScrcpyOptions
  | .valued opt value => opt.set overflow value o
  | .switch sw => sw.set o

/-- The options of a command line, from left to right. -/
def cliSettings : List Text → Option (List CliSetting)
  | [] => some []
  | arg :: args =>
      if isConfigFlag arg then
        match args with
        | [] => some []
        | _ :: args => cliSettings args
      else
        match CliOption.ofArg arg with
        | some option =>
            match args with
            | [] => none
            | value :: args => (cliSettings args).map (.valued option value :: ·)
        | none =>
            match CliSwitch.ofArg arg with
            | some switch => (cliSettings args).map (.switch switch :: ·)
            | none => none

theorem secondPass_eq (overflow : ℤ → Int32) (options : ScrcpyOptions) (args : List Text) :
    secondPass overflow options args =
      (cliSettings args).map fun settings =>
        settings.foldl (CliSetting.apply overflow) options := by
  fun_induction cliSettings args generalizing options with
  | case1 => rfl
  | case2 arg hflag => simp [secondPass, hflag]
  | case3 arg hflag path args ih => simp [secondPass, hflag, ih]
  | case4 arg hflag opt hopt => simp [secondPass, hflag, hopt]
  | case5 arg hflag opt hopt value args ih =>
    simp only [secondPass, hflag, hopt, ih, Option.map_map]
    rfl
  | case6 arg args hflag hopt sw hsw ih =>
    rw [secondPass.eq_def]
    simp only [if_neg hflag, hopt, hsw, ih, Option.map_map]
    rfl
  | case7 arg args hflag hopt hsw =>
    rw [secondPass.eq_def]
    simp only [if_neg hflag, hopt, hsw, Option.map_none]

/-- The settings of the config file at a path. -/
def pathSettings (readFile : Text → Option (List UInt8)) : Option Text → List Setting
  | some path => ((readFile path).map configSettings).getD []
  | none => []

theorem eq_of_loadConfig {overflow : ℤ → Int32} {readFile : Text → Option (List UInt8)}
    {path : Option Text} {options : ScrcpyOptions}
    (h : loadConfig overflow readFile path = some options) :
    options = (pathSettings readFile path).foldl (Setting.apply overflow) scrcpyOptionsDefault := by
  cases path with
  | none => exact (Option.some.inj h).symm
  | some path =>
    rw [loadConfig, configParse_eq, Option.map_eq_some_iff] at h
    obtain ⟨bytes, hbytes, rfl⟩ := h
    rw [pathSettings, hbytes]
    rfl

/-- An accepted command line assigns the settings of the config file to the defaults, then its own.
-/
theorem eq_of_cliParse {overflow : ℤ → Int32} {readFile : Text → Option (List UInt8)}
    {argv : List Text} {options : ScrcpyOptions}
    (h : cliParse overflow readFile argv = some options) :
    ∃ path settings, firstPass none argv.tail = some path ∧
      cliSettings argv.tail = some settings ∧
      options = settings.foldl (CliSetting.apply overflow)
        ((pathSettings readFile path).foldl (Setting.apply overflow) scrcpyOptionsDefault) := by
  obtain ⟨path, hpath, h⟩ := Option.bind_eq_some_iff.1 h
  obtain ⟨fromFile, hfile, h⟩ := Option.bind_eq_some_iff.1 h
  rw [secondPass_eq, Option.map_eq_some_iff] at h
  obtain ⟨settings, hsettings, rfl⟩ := h
  exact ⟨path, settings, hpath, hsettings, by rw [eq_of_loadConfig hfile]⟩

/-- The text that an option of the command line gives. -/
def CliSetting.textOf (opt : CliOption) : CliSetting → Option Text
  | .valued opt' value => if opt' = opt then some value else none
  | .switch _ => none

theorem writes_port_cli (overflow : ℤ → Int32) :
    Writes (CliSetting.apply overflow) ScrcpyOptions.port
      fun s => (s.textOf .port).map (uint16OfInt ∘ atoi overflow) := by
  rintro options s
  cases s with
  | valued opt value => cases opt <;> rfl
  | switch sw => cases sw <;> rfl

theorem writes_serial_cli (overflow : ℤ → Int32) :
    Writes (CliSetting.apply overflow) ScrcpyOptions.serial
      fun s => (s.textOf .serial).map some := by
  rintro options s
  cases s with
  | valued opt value => cases opt <;> rfl
  | switch sw => cases sw <;> rfl

/-! ## What is configured -/

/-- The texts that the config file and the command line give for an option of both, in this order.
-/
def givenTexts (k : ConfigKey) (opt : CliOption) (readFile : Text → Option (List UInt8))
    (argv : List Text) : List Text :=
  (pathSettings readFile ((firstPass none argv.tail).getD none)).filterMap (Setting.textOf k) ++
    ((cliSettings argv.tail).getD []).filterMap (CliSetting.textOf opt)

/-- After an accepted command line, a field has the last value that was given for it, or its
default. -/
theorem field_of_cliParse {α : Type*} {overflow : ℤ → Int32}
    {readFile : Text → Option (List UInt8)} {argv : List Text} {options : ScrcpyOptions}
    (h : cliParse overflow readFile argv = some options) {k : ConfigKey} {opt : CliOption}
    {field : ScrcpyOptions → α} {stored : Text → α}
    (hfile : Writes (Setting.apply overflow) field fun s => (s.textOf k).map stored)
    (hcli : Writes (CliSetting.apply overflow) field fun s => (s.textOf opt).map stored) :
    field options = ((givenTexts k opt readFile argv).getLast?.map stored).getD
      (field scrcpyOptionsDefault) := by
  obtain ⟨path, settings, hpath, hsettings, rfl⟩ := eq_of_cliParse h
  rw [foldl_lastWrite hcli, foldl_lastWrite hfile, ← List.map_filterMap, ← List.map_filterMap,
    List.getLast?_map, List.getLast?_map, givenTexts, hpath, hsettings, Option.getD_some,
    Option.getD_some, List.getLast?_append]
  cases (settings.filterMap (CliSetting.textOf opt)).getLast? with
  | none => rfl
  | some t => rfl

/-- The serial that is configured. -/
def configuredSerial (readFile : Text → Option (List UInt8)) (argv : List Text) : Option Text :=
  (givenTexts .serial .serial readFile argv).getLast?

/-- The port that is configured, as the number that was written: the last one, or 5555. -/
def configuredPort (readFile : Text → Option (List UInt8)) (argv : List Text) : ℤ :=
  ((givenTexts .port .port readFile argv).getLast?.map leadingInt).getD 5555

theorem serial_of_cliParse {overflow : ℤ → Int32} {readFile : Text → Option (List UInt8)}
    {argv : List Text} {options : ScrcpyOptions}
    (h : cliParse overflow readFile argv = some options) :
    options.serial = configuredSerial readFile argv := by
  rw [field_of_cliParse h (writes_serial overflow) (writes_serial_cli overflow), configuredSerial]
  cases (givenTexts .serial .serial readFile argv).getLast? with
  | none => rfl
  | some t => rfl

/-- Of the port `cli_parse` stores the low 16 bits only. -/
theorem port_of_cliParse {overflow : ℤ → Int32} {readFile : Text → Option (List UInt8)}
    {argv : List Text} {options : ScrcpyOptions}
    (h : cliParse overflow readFile argv = some options)
    (hint : -2 ^ 31 ≤ configuredPort readFile argv ∧ configuredPort readFile argv < 2 ^ 31) :
    options.port = uint16OfInt (Int32.ofInt (configuredPort readFile argv)) := by
  rw [field_of_cliParse h (writes_port overflow) (writes_port_cli overflow)]
  rw [configuredPort] at hint ⊢
  cases hlast : (givenTexts .port .port readFile argv).getLast? with
  | none => rfl
  | some t =>
    rw [hlast] at hint
    exact congrArg uint16OfInt (if_pos hint)

end Autoscrcpy
