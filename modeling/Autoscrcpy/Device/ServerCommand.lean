import Autoscrcpy.Device.ServerStart
import Autoscrcpy.Lib.CText

/-!
# The command line of the server

`server_start` hands its configuration to the server as `key=value` words of a shell command. The
command goes through a buffer of 1024 bytes, and with its `shell:` through one of 256; with every
number at its longest it has 241 bytes, so that nothing is cut and the words read back
(`serverShell_carries`).
-/

namespace Autoscrcpy

open CText

/-- What the format of `server_start` writes. -/
def serverCommandText (cfg : ServerConfig) : String :=
  "CLASSPATH=/data/local/tmp/scrcpy-server " ++
    "app_process / com.genymobile.scrcpy.Server 3.3.2 " ++ "tunnel_forward=true " ++
    "video=" ++ toString cfg.video ++ " audio=" ++ toString cfg.audio ++
    " control=" ++ toString cfg.control ++ " " ++
    "video_bit_rate=" ++ toString cfg.videoBitRate ++
    " audio_bit_rate=" ++ toString cfg.audioBitRate ++
    " max_size=" ++ toString cfg.maxSize ++ " " ++ "audio_codec=opus"

theorem serverCommand_eq (cfg : ServerConfig) :
    serverCommand cfg = snprintf 1024 (text (serverCommandText cfg)) := rfl

/-! ## Reading the words -/

/-- The `key=value` words of a command. -/
def keyValues (command : Text) : List (Text × Text) :=
  (command.splitOn 32).filterMap (strchr 61)

/-- The value of the first word with a key. -/
def valueOf (key : String) (command : Text) : Option Text :=
  ((keyValues command).find? fun kv => kv.1 = text key).map Prod.snd

def readFlag (value : Text) : Option Bool :=
  if value = text "true" then some true else if value = text "false" then some false else none

/-- The configuration that a server reads off its command line. -/
structure ServerArgs where
  video : Bool
  audio : Bool
  control : Bool
  videoBitRate : ℕ
  audioBitRate : ℕ
  maxSize : ℕ
  deriving DecidableEq, Repr

def parseServerCommand (command : Text) : Option ServerArgs := do
  let video ← (valueOf "video" command).bind readFlag
  let audio ← (valueOf "audio" command).bind readFlag
  let control ← (valueOf "control" command).bind readFlag
  let videoBitRate ← (valueOf "video_bit_rate" command).bind decimal
  let audioBitRate ← (valueOf "audio_bit_rate" command).bind decimal
  let maxSize ← (valueOf "max_size" command).bind decimal
  return ⟨video, audio, control, videoBitRate, audioBitRate, maxSize⟩

/-- The shell command in the payload of an `OPEN`: what stands between `shell:` and the one NUL,
which is the last byte. -/
def openedCommand (payload : List UInt8) : Option Text :=
  match strchr 0 payload with
  | some (service, []) =>
      if service.take 6 = text "shell:" then some (service.drop 6) else none
  | _ => none

/-! ## The words of the server command -/

def keyWord (kv : Text × Text) : Text := kv.1 ++ 61 :: kv.2

/-- The words behind the version. -/
def serverPairs (cfg : ServerConfig) : List (Text × Text) :=
  [(text "tunnel_forward", text "true"), (text "video", text (toString cfg.video)),
    (text "audio", text (toString cfg.audio)), (text "control", text (toString cfg.control)),
    (text "video_bit_rate", text (toString cfg.videoBitRate)),
    (text "audio_bit_rate", text (toString cfg.audioBitRate)),
    (text "max_size", text (toString cfg.maxSize)), (text "audio_codec", text "opus")]

def serverWords (cfg : ServerConfig) : List Text :=
  keyWord (text "CLASSPATH", text "/data/local/tmp/scrcpy-server") ::
    ([text "app_process", text "/", text "com.genymobile.scrcpy.Server", text "3.3.2"] ++
      (serverPairs cfg).map keyWord)

/-- The literals of the format are the literals of the words, with the `=` and the blanks between
them. -/
theorem text_serverFormat :
    text "CLASSPATH=/data/local/tmp/scrcpy-server " =
        keyWord (text "CLASSPATH", text "/data/local/tmp/scrcpy-server") ++ [32] ∧
      text "app_process / com.genymobile.scrcpy.Server 3.3.2 " =
        text "app_process" ++ 32 :: (text "/" ++ 32 :: (text "com.genymobile.scrcpy.Server" ++
          32 :: (text "3.3.2" ++ [32]))) ∧
      text "tunnel_forward=true " = keyWord (text "tunnel_forward", text "true") ++ [32] ∧
      text "video=" = text "video" ++ [61] ∧
      text " audio=" = 32 :: (text "audio" ++ [61]) ∧
      text " control=" = 32 :: (text "control" ++ [61]) ∧
      text " " = [32] ∧
      text "video_bit_rate=" = text "video_bit_rate" ++ [61] ∧
      text " audio_bit_rate=" = 32 :: (text "audio_bit_rate" ++ [61]) ∧
      text " max_size=" = 32 :: (text "max_size" ++ [61]) ∧
      text "audio_codec=opus" = keyWord (text "audio_codec", text "opus") := by
  simp only [text_eq_data]
  decide

theorem text_serverCommandText (cfg : ServerConfig) :
    text (serverCommandText cfg) = [32].intercalate (serverWords cfg) := by
  obtain ⟨h₁, h₂, h₃, h₄, h₅, h₆, h₇, h₈, h₉, h₁₀, h₁₁⟩ := text_serverFormat
  unfold serverCommandText serverWords serverPairs
  generalize toString cfg.video = v, toString cfg.audio = a, toString cfg.control = c,
    toString cfg.videoBitRate = vb, toString cfg.audioBitRate = ab, toString cfg.maxSize = ms
  simp only [text_append, -String.reduceAppend]
  rw [h₁, h₂, h₃, h₄, h₅, h₆, h₇, h₈, h₉, h₁₀, h₁₁]
  simp only [keyWord, List.intercalate_cons_cons, List.intercalate_singleton, List.map_cons,
    List.map_nil, List.append_assoc, List.cons_append, List.nil_append]

/-! ## What the words hold -/

theorem length_text_shell : (text "shell:").length = 6 := by
  rw [text_eq_data]
  rfl

/-- What `%s` writes of a flag. -/
theorem text_toString_bool (b : Bool) :
    text (toString b) = if b then [116, 114, 117, 101] else [102, 97, 108, 115, 101] := by
  rw [text_eq_data]
  cases b <;> rfl

/-- The keys of the words in their order, with that of the class path. -/
def serverKeys : List Text :=
  [text "CLASSPATH", text "tunnel_forward", text "video", text "audio", text "control",
    text "video_bit_rate", text "audio_bit_rate", text "max_size", text "audio_codec"]

theorem toString_bool_notMem (b : Bool) {c : UInt8} (h : c = 0 ∨ c = 32) :
    c ∉ text (toString b) := by
  rw [text_toString_bool]
  obtain rfl | rfl := h <;> cases b <;> decide

theorem toString_number_notMem (n : UInt32) {c : UInt8} (h : c = 0 ∨ c = 32) :
    c ∉ text (toString n) := by
  have hdigit : isdigit c = false := by obtain rfl | rfl := h <;> decide
  exact notMem_of_decimal (decimal_toString n.toNat) hdigit

/-- No word holds a NUL or a blank. -/
theorem serverWords_notMem (cfg : ServerConfig) {c : UInt8} (h : c = 0 ∨ c = 32) :
    ∀ word ∈ serverWords cfg, c ∉ word := by
  have hne : c ≠ 61 := by obtain rfl | rfl := h <;> decide
  have hword (kv : Text × Text) (hk : c ∉ kv.1) (hv : c ∉ kv.2) : c ∉ keyWord kv := by
    rw [keyWord, List.mem_append, List.mem_cons]
    tauto
  have hlit : ∀ l ∈ serverKeys ++ [text "/data/local/tmp/scrcpy-server", text "app_process",
      text "/", text "com.genymobile.scrcpy.Server", text "3.3.2", text "true", text "opus"],
      c ∉ l := by
    simp only [serverKeys, text_eq_data]
    obtain rfl | rfl := h <;> decide
  simp only [serverKeys, List.cons_append, List.nil_append, List.forall_mem_cons] at hlit
  simp only [serverWords, serverPairs, List.cons_append, List.nil_append, List.map_cons,
    List.map_nil, List.forall_mem_cons]
  have hbool (b : Bool) := toString_bool_notMem b h
  have hnum (n : UInt32) := toString_number_notMem n h
  grind

theorem notMem_serverCommandText (cfg : ServerConfig) : 0 ∉ text (serverCommandText cfg) := by
  rw [text_serverCommandText]
  have hword := serverWords_notMem cfg (Or.inl rfl)
  generalize serverWords cfg = words at hword
  induction words with
  | nil => simp
  | cons w words ih =>
    rw [List.forall_mem_cons] at hword
    rcases words with _ | ⟨w', words⟩
    · rw [List.intercalate_singleton]
      exact hword.1
    · rw [List.intercalate_cons_cons, List.mem_append, List.mem_append, not_or, not_or]
      exact ⟨⟨hword.1, by decide⟩, ih hword.2⟩

/-- The words split apart again. -/
theorem keyValues_serverCommandText (cfg : ServerConfig) :
    keyValues (text (serverCommandText cfg)) =
      (text "CLASSPATH", text "/data/local/tmp/scrcpy-server") :: serverPairs cfg := by
  have hkey : ∀ key ∈ serverKeys, 61 ∉ key := by
    simp only [serverKeys, text_eq_data]
    decide
  have hplain : ∀ word ∈ [text "app_process", text "/", text "com.genymobile.scrcpy.Server",
      text "3.3.2"], strchr 61 word = none := by
    simp only [text_eq_data]
    decide
  have hpair (kv : Text × Text) (h : kv.1 ∈ serverKeys) : strchr 61 (keyWord kv) = some kv :=
    strchr_append (hkey _ h) _
  have hpairs : ∀ kv ∈ serverPairs cfg, kv.1 ∈ serverKeys := by
    intro kv hkv
    have hmem : kv.1 ∈ (serverPairs cfg).map Prod.fst := List.mem_map_of_mem hkv
    exact List.mem_cons_of_mem _ hmem
  rw [keyValues, text_serverCommandText,
    List.splitOn_intercalate 32 (serverWords_notMem cfg (Or.inr rfl)) (by simp [serverWords]),
    serverWords, List.filterMap_cons_some (hpair _ (List.mem_cons_self ..)), List.filterMap_append,
    List.filterMap_eq_nil_iff.2 hplain, List.nil_append, List.filterMap_map]
  congr 1
  exact (List.filterMap_congr fun kv hkv => hpair kv (hpairs kv hkv)).trans List.filterMap_some

theorem find?_key {pairs : List (Text × Text)} {key value : Text}
    (hnodup : (pairs.map Prod.fst).Nodup) (h : (key, value) ∈ pairs) :
    pairs.find? (fun kv => kv.1 = key) = some (key, value) := by
  induction pairs with
  | nil => cases h
  | cons kv pairs ih =>
    rw [List.map_cons, List.nodup_cons] at hnodup
    obtain rfl | h := List.mem_cons.1 h
    · exact List.find?_cons_of_pos (by simp)
    · have hne : kv.1 ≠ key := by
        rintro rfl
        exact hnodup.1 (List.mem_map.2 ⟨_, h, rfl⟩)
      rw [List.find?_cons_of_neg (by simpa using hne), ih hnodup.2 h]

theorem valueOf_serverCommandText {cfg : ServerConfig} {key : String} {value : Text}
    (h : (text key, value) ∈ serverPairs cfg) :
    valueOf key (text (serverCommandText cfg)) = some value := by
  have hkeys : (((text "CLASSPATH", text "/data/local/tmp/scrcpy-server") ::
      serverPairs cfg).map Prod.fst).Nodup := by
    change serverKeys.Nodup
    simp only [serverKeys, text_eq_data]
    decide
  rw [valueOf, keyValues_serverCommandText, find?_key hkeys (List.mem_cons_of_mem _ h)]
  rfl

theorem readFlag_toString (b : Bool) : readFlag (text (toString b)) = some b := by
  rw [readFlag, text_toString_bool, text_eq_data, text_eq_data]
  cases b <;> rfl

/-- A server reads the configuration back. -/
theorem parseServerCommand_serverCommandText (cfg : ServerConfig) :
    parseServerCommand (text (serverCommandText cfg)) =
      some ⟨cfg.video, cfg.audio, cfg.control, cfg.videoBitRate.toNat, cfg.audioBitRate.toNat,
        cfg.maxSize.toNat⟩ := by
  have hnum (n : UInt32) : decimal (text (toString n)) = some n.toNat := decimal_toString n.toNat
  have hvalue (key : String) (value : Text) (h : (text key, value) ∈ serverPairs cfg) :=
    valueOf_serverCommandText h
  rw [parseServerCommand, hvalue "video" (text (toString cfg.video)) (by simp [serverPairs]),
    hvalue "audio" (text (toString cfg.audio)) (by simp [serverPairs]),
    hvalue "control" (text (toString cfg.control)) (by simp [serverPairs]),
    hvalue "video_bit_rate" (text (toString cfg.videoBitRate)) (by simp [serverPairs]),
    hvalue "audio_bit_rate" (text (toString cfg.audioBitRate)) (by simp [serverPairs]),
    hvalue "max_size" (text (toString cfg.maxSize)) (by simp [serverPairs])]
  simp only [Option.bind_some, readFlag_toString, hnum]
  rfl

/-- With every number at its longest, the command has 235 bytes. -/
theorem length_serverCommandText_le (cfg : ServerConfig) :
    (text (serverCommandText cfg)).length ≤ 235 := by
  have hbool (b : Bool) : (text (toString b)).length ≤ 5 := by
    rw [text_toString_bool]
    cases b <;> decide
  have hnum (n : UInt32) : (text (toString n)).length ≤ 10 := by
    have hlt : n.toNat < 10 ^ 10 := n.toNat_lt.trans (by norm_num)
    exact (length_text_toString_le (by norm_num)).2 hlt
  have hlits : (text "CLASSPATH=/data/local/tmp/scrcpy-server ").length +
      (text "app_process / com.genymobile.scrcpy.Server 3.3.2 ").length +
      (text "tunnel_forward=true ").length + (text "video=").length + (text " audio=").length +
      (text " control=").length + (text " ").length + (text "video_bit_rate=").length +
      (text " audio_bit_rate=").length + (text " max_size=").length + (text " ").length +
      (text "audio_codec=opus").length = 190 := by
    simp only [text_eq_data]
    rfl
  have := hbool cfg.video
  have := hbool cfg.audio
  have := hbool cfg.control
  have := hnum cfg.videoBitRate
  have := hnum cfg.audioBitRate
  have := hnum cfg.maxSize
  unfold serverCommandText
  simp only [text_append, List.length_append, -String.reduceAppend]
  omega

theorem snprintf_of_short {size : ℕ} {t : Text} (h : t.length + 1 ≤ size) : snprintf size t = t :=
  List.take_of_length_le (by omega)

/-- Neither of the two buffers cuts the command. -/
theorem shellService_serverCommand (cfg : ServerConfig) :
    shellService (serverCommand cfg) = text "shell:" ++ text (serverCommandText cfg) := by
  have hlen := length_serverCommandText_le cfg
  have hcommand : serverCommand cfg = text (serverCommandText cfg) := by
    rw [serverCommand_eq]
    exact snprintf_of_short (by omega)
  have hfits : (text "shell:" ++ text (serverCommandText cfg)).length + 1 ≤ 256 := by
    rw [List.length_append, length_text_shell]
    omega
  rw [hcommand]
  exact snprintf_of_short hfits

/-- `adb_shell` opens its service, on a connection with room for a channel. -/
theorem serverShell_sent (cfg : ServerConfig) (env : StartEnv) (conn : AdbConnection) :
    (serverShell cfg env conn).sent =
      if conn.state = .connected ∧ conn.channels.count < MAX_CHANNELS then
        conn.pass
          [conn.send ADB_OPEN conn.nextLocalId 0 (shellService (serverCommand cfg) ++ [0]) true]
      else [] := by
  have hsent : (serverShell cfg env conn).sent =
      (adbShell conn (serverCommand cfg) env.shellRet).sent := by
    rw [serverShell]
    split_ifs <;> rfl
  rw [hsent, adbShell]
  split_ifs with hconn h h
  · exact absurd h.1 hconn
  · rfl
  · rw [openService, sessionOpenChannel, dif_pos h.2]
    split_ifs <;> rfl
  · have hcount : ¬ conn.channels.count < MAX_CHANNELS := fun hlt => h ⟨not_not.1 hconn, hlt⟩
    rw [openService, sessionOpenChannel, dif_neg hcount]
    rfl

theorem openedCommand_shell {command : Text} (h : 0 ∉ command) :
    openedCommand (text "shell:" ++ command ++ [0]) = some command := by
  have hfree : 0 ∉ text "shell:" := by
    rw [text_eq_data]
    decide
  have hnul : 0 ∉ text "shell:" ++ command := by
    rw [List.mem_append, not_or]
    exact ⟨hfree, h⟩
  rw [openedCommand, strchr_append hnul]
  simp only [← length_text_shell, List.take_left, List.drop_left, if_pos]

/-- The `OPEN` of the server command carries `shell:`, the command and one NUL, and nothing is cut;
the words of the command are the configuration. -/
theorem serverShell_carries (cfg : ServerConfig) (env : StartEnv) (conn : AdbConnection) :
    let payload := text "shell:" ++ text (serverCommandText cfg) ++ [0]
    (serverShell cfg env conn).sent =
        (if conn.state = .connected ∧ conn.channels.count < MAX_CHANNELS then
          conn.pass [conn.send ADB_OPEN conn.nextLocalId 0 payload true]
        else []) ∧
      openedCommand payload = some (text (serverCommandText cfg)) ∧
      parseServerCommand (text (serverCommandText cfg)) =
        some ⟨cfg.video, cfg.audio, cfg.control, cfg.videoBitRate.toNat, cfg.audioBitRate.toNat,
          cfg.maxSize.toNat⟩ := by
  intro payload
  refine ⟨?_, openedCommand_shell (notMem_serverCommandText cfg),
    parseServerCommand_serverCommandText cfg⟩
  rw [serverShell_sent, shellService_serverCommand]

end Autoscrcpy
