import Autoscrcpy.App.Cli

/-!
# The device that is dialled

How the serial and the port go from the command line and the config file through
`struct scrcpy_options` and `struct server_config` to the address that `session_connect` connects
to. `inetPton` is `inet_pton` of the system, which reads an address from a host or fails; ADB is
initialised.

`dials_iff`: the port that is configured never arrives, and `parse_serial` checks neither the
number behind the colon nor the length of a serial without colon.
-/

namespace Autoscrcpy

open CText Assignments

/-! ## From the options to the address -/

/-- `struct server_config`. -/
structure ServerCfg where
  serial : Option Text
  serverPath : Text
  localPort : UInt16
  maxSize : UInt32
  videoBitRate : UInt32
  audioBitRate : UInt32
  video : Bool
  audio : Bool
  control : Bool
  deriving DecidableEq

/-- The `server_cfg` of `application_run`. -/
def ServerCfg.ofOptions (options : ScrcpyOptions) : ServerCfg where
  serial := options.serial
  serverPath := options.serverPath
  localPort := options.port
  maxSize := options.maxSize
  videoBitRate := options.videoBitRate
  audioBitRate := options.audioBitRate
  video := options.video
  audio := options.audio
  control := options.control

/-- `parse_serial` with a buffer of `hostSize` bytes: the host and the port. -/
def parseSerial (overflow : ℤ → Int32) (hostSize : ℕ) : Option Text → Option (Text × UInt16)
  | none => none
  | some [] => none
  | some (c :: s) =>
      match strrchr 58 (c :: s) with
      | some (host, port) =>
          if host.length ≤ 0 ∨ hostSize ≤ host.length then none
          else some (host, uint16OfInt (atoi overflow port))
      | none => some ((c :: s).take (hostSize - 1), 5555)

/-- `struct sockaddr_in`, with its numbers in the order of the host. -/
structure SockaddrIn where
  sinAddr : UInt32
  sinPort : UInt16
  deriving DecidableEq

/-- The address that `session_connect` connects to: the result of `inet_pton` is not looked at, and
the address was filled with zeros before. -/
def sessionConnectAddr (inetPton : Text → Option UInt32) (host : Text) (port : UInt16) :
    SockaddrIn where
  sinAddr := (inetPton host).getD 0
  sinPort := port

/-- The address that `server_start` connects to; nothing when it rejects the serial. -/
def serverStartDial (overflow : ℤ → Int32) (inetPton : Text → Option UInt32) (cfg : ServerCfg) :
    Option SockaddrIn :=
  (parseSerial overflow 256 cfg.serial).map fun device =>
    sessionConnectAddr inetPton device.1 device.2

/-! ## What is configured -/

/-- The host and the port that a serial names, where `port` is the one for a serial that names none;
nothing when the serial has to be rejected. -/
def configuredDevice (serial : Text) (port : ℤ) : Option (Text × ℤ) :=
  match strrchr 58 serial with
  | some (host, suffix) =>
      if host = [] ∨ 256 ≤ host.length then none
      else
        match decimal suffix with
        | some n => if 1 ≤ n ∧ n ≤ 65535 then some (host, n) else none
        | none => none
  | none => if serial = [] ∨ 256 ≤ serial.length then none else some (serial, port)

/-- The device dialled is the one configured. -/
def Dials (inetPton : Text → Option UInt32) (serial : Text) (port : ℤ) (dial : Option SockaddrIn) :
    Prop :=
  match configuredDevice serial port with
  | none => dial = none
  | some (host, n) =>
      ∃ addr sinPort, dial = some ⟨addr, sinPort⟩ ∧ inetPton host = some addr ∧
        (sinPort.toNat : ℤ) = n

/-- The serials that name their device in full, or are rejected for their host. -/
def SerialComplete (inetPton : Text → Option UInt32) (serial : Text) (port : ℤ) : Prop :=
  match strrchr 58 serial with
  | some (host, suffix) =>
      host = [] ∨ 256 ≤ host.length ∨
        (∃ n, decimal suffix = some n ∧ 1 ≤ n ∧ n ≤ 65535) ∧ (inetPton host).isSome
  | none => serial = [] ∨ serial.length < 256 ∧ (inetPton serial).isSome ∧ port = 5555

/-! ## The device dialled -/

/-- The address has the host and the port asked for exactly when the system reads the host. -/
theorem sessionConnectAddr_eq_iff (inetPton : Text → Option UInt32) (host : Text) (port : UInt16)
    (n : ℤ) :
    (∃ addr sinPort, some (sessionConnectAddr inetPton host port) = some ⟨addr, sinPort⟩ ∧
        inetPton host = some addr ∧ (sinPort.toNat : ℤ) = n) ↔
      (inetPton host).isSome ∧ (port.toNat : ℤ) = n := by
  constructor
  · rintro ⟨addr, sinPort, hdial, haddr, hport⟩
    cases hdial
    exact ⟨by rw [haddr]; rfl, hport⟩
  · rintro ⟨hsome, hport⟩
    obtain ⟨addr, haddr⟩ := Option.isSome_iff_exists.1 hsome
    exact ⟨addr, port, by rw [sessionConnectAddr, haddr]; rfl, haddr, hport⟩

/-- A port from 1 to 65535 goes through `atoi` and the conversion unchanged. -/
theorem toNat_uint16OfInt_atoi (overflow : ℤ → Int32) {suffix : Text} {n : ℕ}
    (h : decimal suffix = some n) (hn : n ≤ 65535) :
    (uint16OfInt (atoi overflow suffix)).toNat = n := by
  have hword : (Int32.ofInt n).toUInt32.toNat = n := by
    change (BitVec.ofInt 32 n).toNat = n
    rw [BitVec.toNat_ofInt]
    omega
  rw [atoi_of_decimal overflow h (by omega), uint16OfInt, UInt32.toNat_toUInt16, hword]
  omega

/-- A host and a port in decimal, with a colon between them, are taken as they are. -/
theorem parseSerial_hostPort (overflow : ℤ → Int32) {host suffix : Text} {n : ℕ} (hne : host ≠ [])
    (hfits : host.length < 256) (hsuffix : decimal suffix = some n) (hn : n ≤ 65535) :
    parseSerial overflow 256 (some (host ++ 58 :: suffix)) = some (host, UInt16.ofNat n) := by
  have hsplit := strrchr_append host (notMem_of_decimal hsuffix (c := 58) (by decide))
  have hport : uint16OfInt (atoi overflow suffix) = UInt16.ofNat n := by
    apply UInt16.toNat_inj.1
    rw [toNat_uint16OfInt_atoi overflow hsuffix hn,
      UInt16.toNat_ofNat_of_lt' (Nat.lt_succ_of_le hn)]
  cases host with
  | nil => exact absurd rfl hne
  | cons c host =>
    rw [List.cons_append] at hsplit ⊢
    rw [parseSerial, hsplit, ← hport]
    exact if_neg (by rw [List.length_cons] at hfits ⊢; omega)

/-- `parse_serial` and the connection meet the configuration on the complete serials only. -/
theorem dials_parseSerial_iff (overflow : ℤ → Int32) (inetPton : Text → Option UInt32)
    (serial : Text) (port : ℤ) :
    Dials inetPton serial port ((parseSerial overflow 256 (some serial)).map fun device =>
        sessionConnectAddr inetPton device.1 device.2) ↔
      SerialComplete inetPton serial port := by
  cases serial with
  | nil => simp [Dials, configuredDevice, SerialComplete, strrchr, parseSerial]
  | cons c s =>
    rw [Dials, configuredDevice, SerialComplete, parseSerial]
    rcases strrchr 58 (c :: s) with _ | ⟨host, suffix⟩
    · by_cases hlong : 256 ≤ (c :: s).length
      · have hcut : ¬ ((c :: s).length < 256 ∧ (inetPton (c :: s)).isSome ∧ port = 5555) :=
          fun h => absurd h.1 (by omega)
        simp only [reduceCtorEq, false_or, if_pos hlong, Option.map_some, hcut]
      · have htake : (c :: s).take (256 - 1) = c :: s := List.take_of_length_le (by omega)
        simp only [reduceCtorEq, false_or, if_neg hlong, Option.map_some, htake,
          sessionConnectAddr_eq_iff]
        rw [and_iff_right (show (c :: s).length < 256 by omega), eq_comm (a := port)]
        rfl
    · have hempty : host.length ≤ 0 ↔ host = [] := by
        rw [Nat.le_zero, List.length_eq_zero_iff]
      simp only [hempty]
      by_cases hbad : host = [] ∨ 256 ≤ host.length
      · simp only [if_pos hbad, Option.map_none, true_iff]
        rcases hbad with hnil | hlong
        · exact Or.inl hnil
        · exact Or.inr (Or.inl hlong)
      rw [not_or] at hbad
      simp only [hbad.1, hbad.2, false_or, if_false, Option.map_some]
      cases hsuffix : decimal suffix with
      | none => simp
      | some n =>
        by_cases hrange : 1 ≤ n ∧ n ≤ 65535
        · have hport := toNat_uint16OfInt_atoi overflow hsuffix hrange.2
          simp only [if_pos hrange, sessionConnectAddr_eq_iff, hport, and_true]
          simp [hrange]
        · simp only [if_neg hrange, reduceCtorEq, Option.some.injEq, false_iff]
          rintro ⟨⟨m, rfl, hm⟩, -⟩
          exact hrange hm

/-- For every command line that is accepted with a serial, the device that is dialled is the one
configured exactly when the serial is complete: with a colon, it has a port from 1 to 65535 behind
the colon; without one, the port that is configured is 5555 and the serial fits into the buffer. -/
theorem dials_iff (overflow : ℤ → Int32) (inetPton : Text → Option UInt32)
    {readFile : Text → Option (List UInt8)} {argv : List Text} {options : ScrcpyOptions}
    {serial : Text} (h : cliParse overflow readFile argv = some options)
    (hserial : configuredSerial readFile argv = some serial) :
    Dials inetPton serial (configuredPort readFile argv)
        (serverStartDial overflow inetPton (.ofOptions options)) ↔
      SerialComplete inetPton serial (configuredPort readFile argv) := by
  rw [serverStartDial, ServerCfg.ofOptions, serial_of_cliParse h, hserial]
  exact dials_parseSerial_iff overflow inetPton serial _

/-- An `inet_pton` that is asked for one host. -/
def onlyHost (host : Text) : Option UInt32 :=
  if host = text "10.0.0.7" then some 0x0A000007 else none

/-- A serial with a port, which is not the one of `-p`. -/
theorem dials_iff_complete :
    Dials onlyHost (text "10.0.0.7:5556") (configuredPort (fun _ => none)
        [text "autoscrcpy", text "-s", text "10.0.0.7:5556", text "-p", text "70000"])
      (serverStartDial (fun _ => 0) onlyHost
        (.ofOptions { scrcpyOptionsDefault with
          serial := some (text "10.0.0.7:5556")
          port := 4464 })) := by
  refine (dials_iff (fun _ => 0) onlyHost ?_ ?_).2 ?_
  · decide +kernel
  · decide +kernel
  · have hsplit : strrchr 58 (text "10.0.0.7:5556") = some (text "10.0.0.7", text "5556") := by
      decide +kernel
    rw [SerialComplete, hsplit]
    exact Or.inr (Or.inr ⟨⟨5556, by decide +kernel, by decide, by decide⟩, by decide +kernel⟩)

/-- The port of the command line does not reach the address: the serial names the host only, and
`-p` the port 5556. -/
theorem port_replaced :
    ¬ Dials onlyHost (text "10.0.0.7") (configuredPort (fun _ => none)
        [text "autoscrcpy", text "-s", text "10.0.0.7", text "-p", text "5556"])
      (serverStartDial (fun _ => 0) onlyHost
        (.ofOptions { scrcpyOptionsDefault with serial := some (text "10.0.0.7"), port := 5556 })) ∧
    cliParse (fun _ => 0) (fun _ => none)
        [text "autoscrcpy", text "-s", text "10.0.0.7", text "-p", text "5556"] =
      some { scrcpyOptionsDefault with serial := some (text "10.0.0.7"), port := 5556 } := by
  refine ⟨?_, by decide +kernel⟩
  have hport : configuredPort (fun _ => none)
      [text "autoscrcpy", text "-s", text "10.0.0.7", text "-p", text "5556"] = 5556 := by
    decide +kernel
  have hdial : serverStartDial (fun _ => 0) onlyHost (.ofOptions { scrcpyOptionsDefault with
      serial := some (text "10.0.0.7"), port := 5556 }) = some ⟨0x0A000007, 5555⟩ := by
    decide +kernel
  have hdevice : configuredDevice (text "10.0.0.7") 5556 = some (text "10.0.0.7", 5556) := by
    decide +kernel
  rw [hport, hdial, Dials, hdevice]
  rintro ⟨addr, sinPort, hsome, -, hn⟩
  cases hsome
  exact absurd hn (by decide)

end Autoscrcpy
