import Autoscrcpy.App.Config

/-!
# Values of a config file

What `apply_setting` makes of the value of an option, beside what the value means. A number is read
by `atoi` and cut to the width of its option, and a word that is not one of those for `true` is
stored as `false`: nothing tells that a value is malformed, so it is stored as well
(`configStep_valueKept_iff`).
-/

namespace Autoscrcpy

open CText Assignments

/-! ## The value of an option -/

/-- What an option holds. -/
inductive OptionValue where
  | text (t : Option Text)
  | number (n : ℕ)
  | flag (b : Bool)
  | level (n : ℕ)
  deriving DecidableEq

/-- What kind of value an option takes; a number has the width of its field. -/
inductive OptionKind where
  | text
  | number (bits : ℕ)
  | flag
  | level
  deriving DecidableEq

namespace ConfigKey

def kind : ConfigKey → OptionKind
  | port => .number 16
  | maxSize | videoBitRate | audioBitRate | windowWidth | windowHeight => .number 32
  | videoEnabled | audioEnabled | controlEnabled | fullscreen | alwaysOnTop | turnScreenOff
  | stayAwake | showTouches | recordEnabled | scriptRepl => .flag
  | logLevel => .level
  | serial | serverPath | videoCodec | audioCodec | audioSource | windowTitle | recordFilename
  | scriptAutoload => .text

/-- The option's field. -/
def get : ConfigKey → ScrcpyOptions → OptionValue
  | serial, o => .text o.serial
  | port, o => .number o.port.toNat
  | serverPath, o => .text (some o.serverPath)
  | videoEnabled, o => .flag o.video
  | videoCodec, o => .text (some o.videoCodec)
  | maxSize, o => .number o.maxSize.toNat
  | videoBitRate, o => .number o.videoBitRate.toNat
  | audioEnabled, o => .flag o.audio
  | audioCodec, o => .text (some o.audioCodec)
  | audioBitRate, o => .number o.audioBitRate.toNat
  | audioSource, o => .text (some o.audioSource)
  | controlEnabled, o => .flag o.control
  | windowTitle, o => .text (some o.windowTitle)
  | fullscreen, o => .flag o.fullscreen
  | alwaysOnTop, o => .flag o.alwaysOnTop
  | windowWidth, o => .number o.windowWidth.toNat
  | windowHeight, o => .number o.windowHeight.toNat
  | turnScreenOff, o => .flag o.turnScreenOff
  | stayAwake, o => .flag o.stayAwake
  | showTouches, o => .flag o.showTouches
  | recordEnabled, o => .flag o.record
  | recordFilename, o => .text o.recordFilename
  | scriptAutoload, o => .text o.scriptPath
  | scriptRepl, o => .flag o.repl
  | logLevel, o => .level o.logLevel

end ConfigKey

/-- The number at the start of a text as `atoi` returns it. -/
def startNumber (overflow : ℤ → Int32) (value : Text) : ℤ :=
  if -2 ^ 31 ≤ leadingInt value ∧ leadingInt value < 2 ^ 31 then leadingInt value
  else (overflow (leadingInt value)).toInt

/-- What an option of a kind is set to by a value. -/
def OptionKind.stored (overflow : ℤ → Int32) (value : Text) : OptionKind → OptionValue
  | text => .text (some value)
  | number bits => .number (startNumber overflow value % 2 ^ bits).toNat
  | flag => .flag (parseBool value)
  | level => .level (parseLogLevel value)

theorem toInt_atoi (overflow : ℤ → Int32) (value : Text) :
    (atoi overflow value).toInt = startNumber overflow value := by
  rw [atoi, startNumber]
  split_ifs with h
  · exact Int32.toInt_ofInt_of_le h.1 h.2
  · rfl

/-- An `int` as a 32-bit number. -/
theorem toNat_toUInt32 (n : Int32) : n.toUInt32.toNat = (n.toInt % 2 ^ 32).toNat := by
  have hcond := BitVec.toInt_eq_toNat_cond n.toBitVec
  have hlt := n.toBitVec.isLt
  rw [Int32.toInt_toBitVec, Int32.toNat_toBitVec] at hcond
  rw [Int32.toNat_toBitVec] at hlt
  split_ifs at hcond <;> omega

theorem toNat_uint16OfInt (n : Int32) : (uint16OfInt n).toNat = (n.toInt % 2 ^ 16).toNat := by
  rw [uint16OfInt, UInt32.toNat_toUInt16, toNat_toUInt32]
  omega

/-- Setting an option stores its value. -/
theorem ConfigKey.get_set (overflow : ℤ → Int32) (value : Text) (o : ScrcpyOptions)
    (k : ConfigKey) :
    k.get (k.set overflow value o) = k.kind.stored overflow value := by
  have h16 := toNat_uint16OfInt (atoi overflow value)
  have h32 := toNat_toUInt32 (atoi overflow value)
  rw [toInt_atoi] at h16 h32
  cases k with
  | port => exact congrArg OptionValue.number h16
  | maxSize => exact congrArg OptionValue.number h32
  | videoBitRate => exact congrArg OptionValue.number h32
  | audioBitRate => exact congrArg OptionValue.number h32
  | windowWidth => exact congrArg OptionValue.number h32
  | windowHeight => exact congrArg OptionValue.number h32
  | _ => rfl

/-- The other options are left as they are. -/
theorem ConfigKey.get_set_of_ne (overflow : ℤ → Int32) (value : Text) (o : ScrcpyOptions)
    {k k' : ConfigKey} (h : k' ≠ k) : k'.get (k.set overflow value o) = k'.get o := by
  cases k <;> cases k' <;> first | rfl | exact absurd rfl h

/-! ## What a value means -/

/-- The number that a decimal numeral in the range of `bits` bits writes. -/
def numeralIn (bits : ℕ) (value : Text) : Option ℕ :=
  (decimal value).filter fun n => n < 2 ^ bits

/-- The boolean that one of the six words names. -/
def boolWord (value : Text) : Option Bool :=
  if value = text "true" ∨ value = text "1" ∨ value = text "yes" then some true
  else if value = text "false" ∨ value = text "0" ∨ value = text "no" then some false
  else none

/-- What a well-formed number or boolean means; nothing for a malformed one. -/
def OptionKind.meaning (value : Text) : OptionKind → Option OptionValue
  | number bits => (numeralIn bits value).map .number
  | flag => (boolWord value).map .flag
  | text => some (.text (some value))
  | level => some (.level (parseLogLevel value))

/-- A number or a boolean. -/
def OptionKind.Checked (kind : OptionKind) : Prop := kind ≠ .text ∧ kind ≠ .level

/-- A well-formed value is stored exactly, and a malformed one leaves the option at the value it had
before. -/
def ValueKept (k : ConfigKey) (value : Text) (before after : ScrcpyOptions) : Prop :=
  k.get after = (k.kind.meaning value).getD (k.get before)

/-- A number is well-formed and, from `2 ^ 31` on, what `atoi` makes of it is the same number in the
width of the option; or it is malformed and the option has the number at its start already. -/
def NumberSafe (overflow : ℤ → Int32) (bits : ℕ) (value : Text) (old : OptionValue) : Prop :=
  match numeralIn bits value with
  | some n => n < 2 ^ 31 ∨ (overflow n).toInt % 2 ^ bits = n
  | none => old = .number (startNumber overflow value % 2 ^ bits).toNat

/-- A boolean is well-formed, or the option is `false` already. -/
def FlagSafe (value : Text) (old : OptionValue) : Prop :=
  (boolWord value).isSome ∨ old = .flag false

/-- The value does to its option what it means. -/
def OptionKind.Safe (overflow : ℤ → Int32) (value : Text) (old : OptionValue) : OptionKind → Prop
  | number bits => NumberSafe overflow bits value old
  | flag => FlagSafe value old
  | _ => True

theorem numberStored_iff (overflow : ℤ → Int32) (bits : ℕ) (value : Text) (old : OptionValue) :
    (OptionKind.number bits).stored overflow value =
        ((OptionKind.number bits).meaning value).getD old ↔
      NumberSafe overflow bits value old := by
  rw [OptionKind.stored, OptionKind.meaning, NumberSafe]
  cases hn : numeralIn bits value with
  | none => exact eq_comm
  | some n =>
    rw [numeralIn, Option.filter_eq_some_iff, decide_eq_true_eq] at hn
    obtain ⟨hdecimal, hlt⟩ := hn
    have hpos : (0 : ℤ) < 2 ^ bits := by positivity
    rw [startNumber, leadingInt_of_decimal hdecimal, Option.map_some, Option.getD_some,
      OptionValue.number.injEq]
    by_cases h31 : n < 2 ^ 31
    · have hmod : (n : ℤ) % 2 ^ bits = n :=
        Int.emod_eq_of_lt (Int.natCast_nonneg n) (by exact_mod_cast hlt)
      rw [if_pos (by omega), hmod, Int.toNat_natCast]
      exact iff_of_true rfl (Or.inl h31)
    · have hnonneg := Int.emod_nonneg (overflow n).toInt hpos.ne'
      rw [if_neg (by omega)]
      exact ⟨fun h => Or.inr (by omega), fun h => by have := h.resolve_left h31; omega⟩

theorem flagStored_iff (overflow : ℤ → Int32) (value : Text) (old : OptionValue) :
    OptionKind.flag.stored overflow value = (OptionKind.flag.meaning value).getD old ↔
      FlagSafe value old := by
  rw [OptionKind.stored, OptionKind.meaning, FlagSafe, parseBool, boolWord]
  by_cases htrue : value = text "true" ∨ value = text "1" ∨ value = text "yes"
  · simp [htrue]
  · by_cases hfalse : value = text "false" ∨ value = text "0" ∨ value = text "no"
    · simp [htrue, hfalse]
    · simp [htrue, hfalse, eq_comm]

/-- A line that sets a number or a flag does to the option what its value means if and only if the
value is safe. -/
theorem configStep_valueKept_iff (overflow : ℤ → Int32) {st : ConfigState}
    {line key value : Text} {k : ConfigKey} (hline : configLine line = .pair key value)
    (hkey : ConfigKey.ofNames st.section_ key = some k) (hkind : k.kind.Checked) :
    ValueKept k value st.options (configStep overflow st line).options ↔
      k.kind.Safe overflow value (k.get st.options) := by
  have hstep : (configStep overflow st line).options = k.set overflow value st.options := by
    rw [configStep_of_pair overflow hline, applySetting, hkey]
  rw [ValueKept, hstep, ConfigKey.get_set]
  cases hk : k.kind with
  | number bits => exact numberStored_iff overflow bits value _
  | flag => exact flagStored_iff overflow value _
  | text => exact absurd hk hkind.1
  | level => exact absurd hk hkind.2

/-- An `atoi` that stops at the largest `int`. -/
def stopAtMax (n : ℤ) : Int32 := if 0 ≤ n then 2147483647 else -2147483648

/-- The state behind the header of a section, with the defaults. -/
def inSection (name : String) : ConfigState := ⟨text name, scrcpyOptionsDefault⟩

theorem configStep_valueKept_iff_port :
    configLine (text "port = 5556") = .pair (text "port") (text "5556") ∧
      (ValueKept .port (text "5556") scrcpyOptionsDefault
          (configStep stopAtMax (inSection "connection") (text "port = 5556")).options ↔
        (OptionKind.number 16).Safe stopAtMax (text "5556") (.number 5555)) := by
  have hline : configLine (text "port = 5556") = .pair (text "port") (text "5556") := by
    simp only [text_eq_data]
    decide
  have hkey : ConfigKey.ofNames (inSection "connection").section_ (text "port") = some .port := by
    simp only [ConfigKey.ofNames, inSection, text_inj]
    decide
  exact ⟨hline, configStep_valueKept_iff stopAtMax hline hkey ⟨by decide, by decide⟩⟩

/-- `abc` makes the port 0, and `on` switches the video off. -/
theorem valueKept_fails :
    ¬ ValueKept .port (text "abc") scrcpyOptionsDefault
        (configStep stopAtMax (inSection "connection") (text "port = abc")).options ∧
      ¬ ValueKept .videoEnabled (text "on") scrcpyOptionsDefault
        (configStep stopAtMax (inSection "video") (text "enabled = on")).options := by
  constructor
  · rw [ValueKept]
    decide +kernel
  · rw [ValueKept]
    decide +kernel

end Autoscrcpy
