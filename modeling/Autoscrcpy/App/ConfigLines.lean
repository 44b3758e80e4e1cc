import Autoscrcpy.App.ConfigValues

/-!
# Lines of a config file

`config_parse` reads a file with `fgets` and a buffer of 512 bytes, so it looks at a line of more
than 511 bytes in pieces, each of them as if it were a line. The reference looks at the file split
at newlines. The two agree when each line says in pieces what it says as a whole
(`configParse_reference`), as every short line does (`readWhole_of_short`).
-/

namespace Autoscrcpy

open CText Assignments

/-! ## The reference -/

/-- The lines of the file, split at newlines, one behind the other. -/
def configReference (overflow : ℤ → Int32) (bytes : List UInt8) (options : ScrcpyOptions) :
    ScrcpyOptions :=
  ((bytes.splitOn 10).foldl (configStep overflow) ⟨[], options⟩).options

/-- What the last of the settings for an option stores. -/
def lastStored (overflow : ℤ → Int32) (k : ConfigKey) (settings : List Setting) :
    Option OptionValue :=
  ((settings.filterMap (Setting.textOf k)).getLast?).map fun value => k.kind.stored overflow value

/-- Each setting writes its own option. -/
theorem writes_get (overflow : ℤ → Int32) (k : ConfigKey) :
    Writes (Setting.apply overflow) k.get fun s =>
      (s.textOf k).map fun value => k.kind.stored overflow value := by
  rintro options ⟨k', value⟩
  by_cases h : k' = k
  · subst h
    simp [Setting.textOf, Setting.apply, ConfigKey.get_set]
  · have hother := ConfigKey.get_set_of_ne overflow value options (Ne.symm h)
    simp [Setting.textOf, Setting.apply, h, hother]

/-- An option has the value of the last setting for it. -/
theorem get_foldl_apply (overflow : ℤ → Int32) (k : ConfigKey) (settings : List Setting)
    (options : ScrcpyOptions) :
    k.get (settings.foldl (Setting.apply overflow) options) =
      (lastStored overflow k settings).getD (k.get options) := by
  rw [foldl_lastWrite (writes_get overflow k), lastStored, ← List.getLast?_map]
  congr 2
  exact (List.map_filterMap ..).symm

/-- The settings in the lines of a file. -/
def lineSettings (bytes : List UInt8) : List Setting := settingsFrom [] (bytes.splitOn 10)

theorem configReference_eq (overflow : ℤ → Int32) (bytes : List UInt8) (options : ScrcpyOptions) :
    configReference overflow bytes options =
      (lineSettings bytes).foldl (Setting.apply overflow) options := by
  rw [configReference, foldl_configStep]
  rfl

/-! ## What a line says -/

/-- The name of a section; those that `config_parse` does not know are all one. -/
def knownSection (name : Text) : Text := if configSections.contains name then name else []

/-- Some section has this key. -/
def KnownKey (key : Text) : Prop := ∃ k ∈ ConfigKey.all, text k.names.2 = key

instance (key : Text) : Decidable (KnownKey key) :=
  inferInstanceAs (Decidable (∃ k ∈ ConfigKey.all, text k.names.2 = key))

/-- What a line says: a section, a pair whose key is known, or nothing. -/
def ConfigLine.sense : ConfigLine → List ConfigLine
  | blank => []
  | header name => [header (knownSection name)]
  | pair key value => if KnownKey key then [pair key value] else []

def lineSense (line : Text) : List ConfigLine := (configLine line).sense

/-- The settings that are said, where `section_` is the section so far. -/
def settingsOf (section_ : Text) : List ConfigLine → List Setting
  | [] => []
  | .blank :: said => settingsOf section_ said
  | .header name :: said => settingsOf name said
  | .pair key value :: said =>
      match ConfigKey.ofNames section_ key with
      | some k => (k, value) :: settingsOf section_ said
      | none => settingsOf section_ said

theorem ofNames_knownSection (section_ key : Text) :
    ConfigKey.ofNames (knownSection section_) key = ConfigKey.ofNames section_ key := by
  have hnone : ∀ name ∉ configSections, ConfigKey.ofNames name key = none := fun name h => by
    cases hkey : ConfigKey.ofNames name key with
    | none => rfl
    | some k => exact absurd (mem_configSections hkey) h
  rw [knownSection]
  split_ifs with h
  · rfl
  · rw [hnone section_ (by rwa [List.contains_iff_mem] at h), hnone [] nil_notMem_configSections]

theorem ofNames_of_not_knownKey {key : Text} (h : ¬ KnownKey key) (section_ : Text) :
    ConfigKey.ofNames section_ key = none := by
  rw [ConfigKey.ofNames, List.find?_eq_none]
  intro k hk hnames
  rw [decide_eq_true_eq] at hnames
  exact h ⟨k, hk, hnames.2⟩

/-- The settings of lines are those that the lines say. -/
theorem settingsFrom_eq (section_ : Text) (lines : List Text) :
    settingsFrom section_ lines = settingsOf (knownSection section_) (lines.flatMap lineSense) := by
  induction lines generalizing section_ with
  | nil => rfl
  | cons line lines ih =>
    rw [settingsFrom, List.flatMap_cons, lineSense]
    cases configLine line with
    | blank => exact ih section_
    | header name => exact ih name
    | pair key value =>
      simp only [ConfigLine.sense]
      split_ifs with hkey
      · rw [List.singleton_append, settingsOf, ofNames_knownSection]
        cases ConfigKey.ofNames section_ key with
        | none => exact ih section_
        | some k => exact congrArg (List.cons (k, value)) (ih section_)
      · rw [ofNames_of_not_knownKey hkey]
        exact ih section_

/-! ## A newline at the end -/

theorem trim_newline (s : Text) : trim (s ++ [10]) = trim s := by
  rw [trim, trim, List.dropWhile_append]
  split_ifs with h
  · rw [List.isEmpty_iff.1 h]
    rfl
  · exact List.rdropWhile_concat_pos _ _ _ rfl

theorem configLine_newline (line : Text) : configLine (line ++ [10]) = configLine line := by
  have htrim : trim (ofBuffer (line ++ [10])) = trim (ofBuffer line) := by
    rw [ofBuffer, ofBuffer, List.takeWhile_append]
    split_ifs with h
    · have hall : line.takeWhile (· ≠ 0) = line :=
        (List.takeWhile_prefix _).eq_of_length h
      rw [hall]
      exact trim_newline line
    · rfl
  simp only [configLine, htrim]

/-! ## Lines and pieces -/

/-- A line says as a whole what the pieces of it say that `fgets` brings. -/
def ReadWhole (line : Text) : Prop := (fgetsLines 512 [] line).flatMap lineSense = lineSense line

/-- So does every line that fits in the buffer. -/
theorem readWhole_of_short {line : Text} (hnew : 10 ∉ line) (h : line.length ≤ 511) :
    ReadWhole line := by
  rw [ReadWhole, fgetsLines_of_short hnew (by decide) (by simpa using Nat.lt_succ_of_le h),
    List.nil_append]
  split_ifs with hempty
  · rw [hempty]
    rfl
  · exact List.flatMap_singleton ..

/-- When every line is read whole, the settings are those of the lines. -/
theorem configSettings_eq {bytes : List UInt8} (h : ∀ line ∈ bytes.splitOn 10, ReadWhole line) :
    configSettings bytes = lineSettings bytes := by
  rw [configSettings, lineSettings, settingsFrom_eq, settingsFrom_eq]
  congr 1
  rw [flatMap_fgetsLines rfl (fun t => congrArg ConfigLine.sense (configLine_newline t))]
  exact List.flatMap_congr h

/-! ## What the settings say of every option -/

/-- Some values differ. -/
theorem exists_get_ne (overflow : ℤ → Int32) (k : ConfigKey) (v : OptionValue) :
    ∃ options, k.get options ≠ v := by
  have hne : k.kind.stored overflow (text "1") ≠ k.kind.stored overflow (text "debug") := by
    have hone : startNumber overflow (text "1") = 1 := by
      have hread : leadingInt (text "1") = 1 := by rw [text_eq_data]; decide
      rw [startNumber, hread]
      rfl
    have hzero : startNumber overflow (text "debug") = 0 := by
      have hread : leadingInt (text "debug") = 0 := by rw [text_eq_data]; decide
      rw [startNumber, hread]
      rfl
    cases k <;> simp [ConfigKey.kind, OptionKind.stored, hone, hzero, parseBool, parseLogLevel,
      text_inj]
  by_cases hv : k.kind.stored overflow (text "1") = v
  · refine ⟨k.set overflow (text "debug") scrcpyOptionsDefault, ?_⟩
    rw [ConfigKey.get_set, ← hv]
    exact hne.symm
  · refine ⟨k.set overflow (text "1") scrcpyOptionsDefault, ?_⟩
    rw [ConfigKey.get_set]
    exact hv

/-- Two optional values that replace all defaults alike are equal. -/
theorem eq_of_getD_eq {α β : Type*} {f : α → β} (hf : ∀ v, ∃ a, f a ≠ v) {x y : Option β}
    (h : ∀ a, x.getD (f a) = y.getD (f a)) : x = y := by
  cases x with
  | none =>
    cases y with
    | none => rfl
    | some v =>
      obtain ⟨a, ha⟩ := hf v
      exact absurd (h a) ha
  | some u =>
    cases y with
    | none =>
      obtain ⟨a, ha⟩ := hf u
      exact absurd (h a).symm ha
    | some v =>
      obtain ⟨a, -⟩ := hf v
      exact congrArg some (h a)

/-- Options are equal when all that a config file can set are, and the one it cannot. -/
theorem options_ext {o o' : ScrcpyOptions} (h : ∀ k : ConfigKey, k.get o = k.get o')
    (heval : o.scriptEval = o'.scriptEval) : o = o' := by
  have htext : ∀ {t t' : Text}, OptionValue.text (some t) = .text (some t') → t = t' :=
    fun h => Option.some.inj (OptionValue.text.inj h)
  have hword : ∀ {n n' : UInt32}, OptionValue.number n.toNat = .number n'.toNat → n = n' :=
    fun h => UInt32.toNat_inj.1 (OptionValue.number.inj h)
  cases o
  cases o'
  rw [ScrcpyOptions.mk.injEq]
  exact ⟨OptionValue.text.inj (h .serial), htext (h .serverPath),
    OptionValue.text.inj (h .recordFilename), htext (h .windowTitle),
    UInt16.toNat_inj.1 (OptionValue.number.inj (h .port)), hword (h .maxSize),
    hword (h .videoBitRate), hword (h .audioBitRate), htext (h .videoCodec),
    htext (h .audioCodec), OptionValue.flag.inj (h .controlEnabled),
    OptionValue.flag.inj (h .videoEnabled), OptionValue.flag.inj (h .audioEnabled),
    OptionValue.flag.inj (h .fullscreen), OptionValue.flag.inj (h .alwaysOnTop),
    OptionValue.flag.inj (h .turnScreenOff), OptionValue.flag.inj (h .stayAwake),
    OptionValue.flag.inj (h .showTouches), OptionValue.flag.inj (h .recordEnabled),
    htext (h .audioSource), hword (h .windowWidth), hword (h .windowHeight),
    OptionValue.level.inj (h .logLevel), OptionValue.text.inj (h .scriptAutoload), heval,
    OptionValue.flag.inj (h .scriptRepl)⟩

/-- A config file has nothing to set `script_eval` with. -/
theorem scriptEval_foldl_apply (overflow : ℤ → Int32) (settings : List Setting)
    (options : ScrcpyOptions) :
    (settings.foldl (Setting.apply overflow) options).scriptEval = options.scriptEval := by
  have hwrites : Writes (Setting.apply overflow) ScrcpyOptions.scriptEval fun _ => none := by
    rintro options ⟨k, value⟩
    cases k <;> rfl
  rw [foldl_lastWrite hwrites, List.filterMap_none]
  rfl

/-- `config_parse` has the effect of the reference. -/
def SameEffect (bytes : List UInt8) : Prop :=
  ∀ overflow options, configParse overflow (some bytes) options =
    some (configReference overflow bytes options)

/-- The effects are the same exactly when the last settings for each option store the same. -/
theorem sameEffect_iff (bytes : List UInt8) :
    SameEffect bytes ↔ ∀ overflow k,
      lastStored overflow k (configSettings bytes) =
        lastStored overflow k (lineSettings bytes) := by
  have heq : SameEffect bytes ↔ ∀ overflow options,
      (configSettings bytes).foldl (Setting.apply overflow) options =
        (lineSettings bytes).foldl (Setting.apply overflow) options := by
    simp only [SameEffect, configParse_eq, configReference_eq, Option.map_some, Option.some.injEq]
  rw [heq]
  constructor
  · intro h overflow k
    have hget : ∀ options, (lastStored overflow k (configSettings bytes)).getD (k.get options) =
        (lastStored overflow k (lineSettings bytes)).getD (k.get options) := fun options => by
      rw [← get_foldl_apply, h, get_foldl_apply]
    exact eq_of_getD_eq (exists_get_ne overflow k) hget
  · intro h overflow options
    refine options_ext (fun k => ?_) ?_
    · rw [get_foldl_apply, get_foldl_apply, h]
    · rw [scriptEval_foldl_apply, scriptEval_foldl_apply]

/-- A section and a setting in short lines. -/
def shortFile : List UInt8 := text "[video]\nmax_size = 1024"

/-- A comment of more than 511 bytes, whose tail reads like a setting. -/
def longComment : List UInt8 :=
  text "[video]" ++ 10 :: (text "#" ++ List.replicate 510 97 ++ text "max_size=1")

end Autoscrcpy
