import Mathlib.Data.List.DropRight
import Autoscrcpy.Lib.Assignments
import Autoscrcpy.Lib.CText

/-!
# Options and the config file

`struct scrcpy_options` with its defaults, and `config_parse`. Texts are C strings; a pointer that
can be null is an `Option`. Memory for the copies of values is there, and the messages of the log
are left out.

`configParse_eq`: a config file assigns its settings to the options, one behind the other.
-/

namespace Autoscrcpy

open CText Assignments

/-! ## Options -/

/-- `struct scrcpy_options`. -/
structure ScrcpyOptions where
  serial : Option Text
  serverPath : Text
  recordFilename : Option Text
  windowTitle : Text
  port : UInt16
  maxSize : UInt32
  videoBitRate : UInt32
  audioBitRate : UInt32
  videoCodec : Text
  audioCodec : Text
  control : Bool
  video : Bool
  audio : Bool
  fullscreen : Bool
  alwaysOnTop : Bool
  turnScreenOff : Bool
  stayAwake : Bool
  showTouches : Bool
  record : Bool
  audioSource : Text
  windowWidth : UInt32
  windowHeight : UInt32
  logLevel : ℕ
  scriptPath : Option Text
  scriptEval : Option Text
  repl : Bool
  deriving DecidableEq

def scrcpyOptionsDefault : ScrcpyOptions where
  serial := none
  serverPath := text "scrcpy-server.jar"
  recordFilename := none
  windowTitle := text "AutoScrcpy"
  port := 5555
  maxSize := 0
  videoBitRate := 8000000
  audioBitRate := 128000
  videoCodec := text "h264"
  audioCodec := text "opus"
  control := true
  video := true
  audio := true
  fullscreen := false
  alwaysOnTop := false
  turnScreenOff := false
  stayAwake := false
  showTouches := false
  record := false
  audioSource := text "output"
  windowWidth := 0
  windowHeight := 0
  logLevel := 2
  scriptPath := none
  scriptEval := none
  repl := false

/-! ## Values -/

/-- Trim leading and trailing whitespace. -/
def trim (s : Text) : Text := (s.dropWhile isspace).rdropWhile isspace

def parseBool (value : Text) : Bool :=
  value = text "true" ∨ value = text "1" ∨ value = text "yes"

def parseLogLevel (str : Text) : ℕ :=
  if str = text "debug" then 1
  else if str = text "info" then 2
  else if str = text "warn" then 3
  else if str = text "error" then 4
  else 2

/-- The conversion of an `int` to a `uint16_t`. -/
def uint16OfInt (n : Int32) : UInt16 := n.toUInt32.toUInt16

/-! ## `apply_setting` -/

/-- The options that a config file can set. -/
inductive ConfigKey where
  | serial | port | serverPath
  | videoEnabled | videoCodec | maxSize | videoBitRate
  | audioEnabled | audioCodec | audioBitRate | audioSource
  | controlEnabled
  | windowTitle | fullscreen | alwaysOnTop | windowWidth | windowHeight
  | turnScreenOff | stayAwake | showTouches
  | recordEnabled | recordFilename
  | scriptAutoload | scriptRepl
  | logLevel
  deriving DecidableEq

namespace ConfigKey

def all : List ConfigKey :=
  [serial, port, serverPath, videoEnabled, videoCodec, maxSize, videoBitRate, audioEnabled,
    audioCodec, audioBitRate, audioSource, controlEnabled, windowTitle, fullscreen, alwaysOnTop,
    windowWidth, windowHeight, turnScreenOff, stayAwake, showTouches, recordEnabled,
    recordFilename, scriptAutoload, scriptRepl, logLevel]

/-- The section and the key of an option. -/
def names : ConfigKey → String × String
  | serial => ("connection", "serial")
  | port => ("connection", "port")
  | serverPath => ("connection", "server_path")
  | videoEnabled => ("video", "enabled")
  | videoCodec => ("video", "codec")
  | maxSize => ("video", "max_size")
  | videoBitRate => ("video", "bit_rate")
  | audioEnabled => ("audio", "enabled")
  | audioCodec => ("audio", "codec")
  | audioBitRate => ("audio", "bit_rate")
  | audioSource => ("audio", "source")
  | controlEnabled => ("control", "enabled")
  | windowTitle => ("window", "title")
  | fullscreen => ("window", "fullscreen")
  | alwaysOnTop => ("window", "always_on_top")
  | windowWidth => ("window", "width")
  | windowHeight => ("window", "height")
  | turnScreenOff => ("device", "turn_screen_off")
  | stayAwake => ("device", "stay_awake")
  | showTouches => ("device", "show_touches")
  | recordEnabled => ("record", "enabled")
  | recordFilename => ("record", "filename")
  | scriptAutoload => ("script", "autoload")
  | scriptRepl => ("script", "repl")
  | logLevel => ("log", "level")

/-- The option with a section and a key; `script_dir` is reserved, it names none. -/
def ofNames (section_ key : Text) : Option ConfigKey :=
  all.find? fun k => text k.names.1 = section_ ∧ text k.names.2 = key

/-- What the value of an option is stored as. -/
def set (overflow : ℤ → Int32) (value : Text) (o : ScrcpyOptions) : ConfigKey → ScrcpyOptions
  | serial => { o with serial := some value }
  | port => { o with port := uint16OfInt (atoi overflow value) }
  | serverPath => { o with serverPath := value }
  | videoEnabled => { o with video := parseBool value }
  | videoCodec => { o with videoCodec := value }
  | maxSize => { o with maxSize := (atoi overflow value).toUInt32 }
  | videoBitRate => { o with videoBitRate := (atoi overflow value).toUInt32 }
  | audioEnabled => { o with audio := parseBool value }
  | audioCodec => { o with audioCodec := value }
  | audioBitRate => { o with audioBitRate := (atoi overflow value).toUInt32 }
  | audioSource => { o with audioSource := value }
  | controlEnabled => { o with control := parseBool value }
  | windowTitle => { o with windowTitle := value }
  | fullscreen => { o with fullscreen := parseBool value }
  | alwaysOnTop => { o with alwaysOnTop := parseBool value }
  | windowWidth => { o with windowWidth := (atoi overflow value).toUInt32 }
  | windowHeight => { o with windowHeight := (atoi overflow value).toUInt32 }
  | turnScreenOff => { o with turnScreenOff := parseBool value }
  | stayAwake => { o with stayAwake := parseBool value }
  | showTouches => { o with showTouches := parseBool value }
  | recordEnabled => { o with record := parseBool value }
  | recordFilename => { o with recordFilename := some value }
  | scriptAutoload => { o with scriptPath := some value }
  | scriptRepl => { o with repl := parseBool value }
  | logLevel => { o with logLevel := parseLogLevel value }

end ConfigKey

/-- Apply a key=value pair from the given section to options. -/
def applySetting (overflow : ℤ → Int32) (section_ key value : Text) (options : ScrcpyOptions) :
    ScrcpyOptions :=
  match ConfigKey.ofNames section_ key with
  | some k => k.set overflow value options
  | none => options

/-! ## `config_parse` -/

/-- The sections that `config_parse` knows. -/
def configSections : List Text :=
  [text "connection", text "video", text "audio", text "control", text "window", text "device",
    text "record", text "script", text "log"]

/-- What a line of a config file is: a line without effect, the header of a section, or a pair. -/
inductive ConfigLine where
  | blank
  | header (name : Text)
  | pair (key value : Text)
  deriving DecidableEq

/-- The part of the loop of `config_parse` that looks at a line. -/
def configLine (line : Text) : ConfigLine :=
  let trimmed := trim (ofBuffer line)
  match trimmed with
  | [] => .blank
  | c :: rest =>
      if c = 35 then .blank
      else if c = 91 then
        -- `strncpy` of what stands between the brackets, into a buffer of 64 bytes
        match strchr 93 rest with
        | none => .blank
        | some (name, _) => .header (name.take 63)
      else
        match strchr 61 trimmed with
        | none => .blank
        | some (key, value) => .pair (trim key) (trim value)

/-- The state of the loop of `config_parse`. -/
structure ConfigState where
  section_ : Text
  options : ScrcpyOptions

def configStep (overflow : ℤ → Int32) (st : ConfigState) (line : Text) : ConfigState :=
  match configLine line with
  | .blank => st
  | .header name => { st with section_ := name }
  | .pair key value =>
      if st.section_ = [] then st
      else if st.section_ ∉ configSections then st
      else { st with options := applySetting overflow st.section_ key value st.options }

/-- `config_parse` on the bytes of the file; there are none when it cannot be opened. -/
def configParse (overflow : ℤ → Int32) (file : Option (List UInt8)) (options : ScrcpyOptions) :
    Option ScrcpyOptions :=
  file.map fun bytes =>
    ((fgetsLines 512 [] bytes).foldl (configStep overflow) ⟨[], options⟩).options

/-! ## The settings of a config file -/

/-- An option and the text of its value. -/
abbrev Setting := ConfigKey × Text

/-- The settings in the lines of a file, where `section_` is the section so far. -/
def settingsFrom (section_ : Text) : List Text → List Setting
  | [] => []
  | line :: lines =>
      match configLine line with
      | .blank => settingsFrom section_ lines
      | .header name => settingsFrom name lines
      | .pair key value =>
          match ConfigKey.ofNames section_ key with
          | some k => (k, value) :: settingsFrom section_ lines
          | none => settingsFrom section_ lines

def Setting.apply (overflow : ℤ → Int32) (options : ScrcpyOptions) (s : Setting) : ScrcpyOptions :=
  s.1.set overflow s.2 options

theorem nil_notMem_configSections : [] ∉ configSections := by
  simp only [configSections, text_eq_data]
  decide

/-- Every option is in a section that `config_parse` knows. -/
theorem mem_configSections {section_ key : Text} {k : ConfigKey}
    (h : ConfigKey.ofNames section_ key = some k) : section_ ∈ configSections := by
  rw [ConfigKey.ofNames] at h
  have hall (k : ConfigKey) : text k.names.1 ∈ configSections := by
    cases k <;> simp only [ConfigKey.names, configSections, List.mem_cons, true_or, or_true]
  have hnames := List.find?_some h
  rw [decide_eq_true_eq] at hnames
  rw [← hnames.1]
  exact hall k

/-- A pair goes to `apply_setting`: what the checks on the section hold back names no option. -/
theorem configStep_of_pair (overflow : ℤ → Int32) {st : ConfigState} {line key value : Text}
    (h : configLine line = .pair key value) :
    configStep overflow st line =
      { st with options := applySetting overflow st.section_ key value st.options } := by
  rw [configStep, h]
  cases hkey : ConfigKey.ofNames st.section_ key with
  | none =>
    simp only [applySetting, hkey]
    split_ifs <;> rfl
  | some k =>
    have hknown := mem_configSections hkey
    have hne : st.section_ ≠ [] := fun h => by
      rw [h] at hknown
      exact nil_notMem_configSections hknown
    simp only [if_neg hne, if_neg (not_not.2 hknown)]

/-- Each line applies its setting, if it has one in the section so far. -/
theorem foldl_configStep (overflow : ℤ → Int32) (lines : List Text) (st : ConfigState) :
    (lines.foldl (configStep overflow) st).options =
      (settingsFrom st.section_ lines).foldl (Setting.apply overflow) st.options := by
  induction lines generalizing st with
  | nil => rfl
  | cons line lines ih =>
    rw [List.foldl_cons, ih, settingsFrom]
    cases hline : configLine line with
    | blank => simp only [configStep, hline]
    | header name => simp only [configStep, hline]
    | pair key value =>
      rw [configStep_of_pair overflow hline]
      cases hkey : ConfigKey.ofNames st.section_ key with
      | none => simp only [applySetting, hkey]
      | some k =>
        simp only [applySetting, hkey]
        rfl

/-- The settings of a config file. -/
def configSettings (bytes : List UInt8) : List Setting := settingsFrom [] (fgetsLines 512 [] bytes)

theorem configParse_eq (overflow : ℤ → Int32) (file : Option (List UInt8))
    (options : ScrcpyOptions) :
    configParse overflow file options =
      file.map fun bytes => (configSettings bytes).foldl (Setting.apply overflow) options := by
  simp only [configParse, foldl_configStep, configSettings]

/-! ## What the settings write -/

/-- The text that a setting gives for an option. -/
def Setting.textOf (k : ConfigKey) (s : Setting) : Option Text := if s.1 = k then some s.2 else none

theorem writes_port (overflow : ℤ → Int32) :
    Writes (Setting.apply overflow) ScrcpyOptions.port
      fun s => (s.textOf .port).map (uint16OfInt ∘ atoi overflow) := by
  rintro options ⟨k, value⟩
  cases k <;> rfl

theorem writes_serial (overflow : ℤ → Int32) :
    Writes (Setting.apply overflow) ScrcpyOptions.serial fun s => (s.textOf .serial).map some := by
  rintro options ⟨k, value⟩
  cases k <;> rfl

end Autoscrcpy
