import Autoscrcpy.Script.Fields

/-!
# Responses and their queries

What the main thread fills in with a `script_fill_*` function is read back by the `c_query_*`
function for it. Numbers, the flag and a name of at most 63 bytes come back as they are. A message
has 256 bytes: of a clipboard text the first 255 bytes come back, and of a frame that does not fit
behind its twelve bytes of numbers only these are filled in, which reads as no frame
(`result_fill`).
-/

namespace Autoscrcpy

/-! ## Filling a message from the front -/

namespace ScriptMsg

/-- The data begins with `bytes`, and zero bytes follow. -/
def Begins (msg : ScriptMsg) (bytes : List UInt8) : Prop :=
  msg.data = bytes ++ List.replicate (SCRIPT_MSG_MAX_DATA_SIZE - bytes.length) 0

variable {msg : ScriptMsg} {bytes : List UInt8}

theorem begins_ofType (type : ScriptMsgType) : (ofType type).Begins [] := rfl

/-- `memcpy` right behind what is filled in. -/
theorem Begins.put (h : msg.Begins bytes) (src : List UInt8) :
    (msg.put bytes.length src).Begins (bytes ++ src) := by
  rw [Begins] at h
  simp only [Begins, ScriptMsg.put, h, List.take_left, List.drop_length_add_append,
    List.drop_replicate, List.length_append, List.append_assoc, Nat.sub_sub]

/-- Zero bytes that are not touched. -/
theorem Begins.zeros (h : msg.Begins bytes) {n : ℕ}
    (hn : bytes.length + n ≤ SCRIPT_MSG_MAX_DATA_SIZE) :
    msg.Begins (bytes ++ List.replicate n 0) := by
  have hsum : SCRIPT_MSG_MAX_DATA_SIZE - bytes.length =
      n + (SCRIPT_MSG_MAX_DATA_SIZE - (bytes.length + n)) := by omega
  rw [Begins, List.append_assoc, List.length_append, List.length_replicate,
    List.replicate_append_replicate, ← hsum]
  exact h

/-- A number that is filled in is read back. -/
theorem Begins.read (pre post : List UInt8) {value : UInt32}
    (h : msg.Begins (pre ++ (write32le value ++ post))) :
    read32le (msg.data.drop pre.length) = value := by
  rw [h, List.append_assoc, List.drop_left, List.append_assoc, read32le_write32le]

/-- Bytes that are filled in are read back. -/
theorem Begins.take (pre src post : List UInt8) (h : msg.Begins (pre ++ (src ++ post))) :
    (msg.data.drop pre.length).take src.length = src := by
  rw [h, List.append_assoc, List.drop_left, List.append_assoc, List.take_left]

end ScriptMsg

/-! ## Each response -/

theorem begins_fillSize (type : ScriptMsgType) (w h : UInt32) :
    (fillSize type w h).Begins (write32le w ++ write32le h) :=
  ((ScriptMsg.begins_ofType type).put (write32le w)).put (write32le h)

/-- A size comes back as it is. -/
theorem sizeValue_fillSize (type : ScriptMsgType) (w h : UInt32) :
    sizeValue (fillSize type w h) = .size w h := by
  have hfill := begins_fillSize type w h
  have hw : read32le (fillSize type w h).data = w := ScriptMsg.Begins.read [] _ hfill
  have hh : read32le ((fillSize type w h).data.drop 4) = h :=
    ScriptMsg.Begins.read (write32le w) [] hfill
  rw [sizeValue, hw, hh]

/-- The flag as a number. -/
def flagWord (connected : Bool) : UInt32 := if connected then 1 else 0

/-- The fields of a device behind one another. -/
theorem begins_scriptFillDeviceInfo (w h : UInt32) {name : List UInt8} (hname : name.length ≤ 63)
    (connected : Bool) :
    (scriptFillDeviceInfo w h (some name) connected).Begins
      ((write32le w ++ write32le h ++ name ++ List.replicate (64 - name.length) 0) ++
        write32le (flagWord connected)) := by
  have hsize : ((({ ScriptMsg.ofType .responseDeviceInfo with dataSize := 76 }).put 0
      (write32le w)).put 4 (write32le h)).Begins (write32le w ++ write32le h) :=
    ((ScriptMsg.begins_ofType .responseDeviceInfo).put (write32le w)).put (write32le h)
  have hat : (write32le w ++ write32le h ++ name).length = 8 + name.length := by simp; omega
  have hnul := (hsize.put name).put [0]
  have hroom : (write32le w ++ write32le h ++ name ++ [0]).length + (63 - name.length) ≤ 256 := by
    rw [List.length_append, hat, List.length_singleton]
    omega
  have hpad := hnul.zeros hroom
  have hzeros : [0] ++ List.replicate (63 - name.length) (0 : UInt8) =
      List.replicate (64 - name.length) 0 := by
    rw [List.singleton_append, ← List.replicate_succ]
    congr 1
    omega
  rw [List.append_assoc _ [0], hzeros] at hpad
  have hend : (write32le w ++ write32le h ++ name ++
      List.replicate (64 - name.length) 0).length = 72 := by
    rw [List.length_append, hat, List.length_replicate]
    omega
  have hflag := hpad.put (write32le (flagWord connected))
  rw [hend, hat] at hflag
  simp only [scriptFillDeviceInfo, Nat.min_eq_left hname, List.take_length]
  exact hflag

/-- A C string in a field that is zero behind it. -/
theorem cString_append_zeros {bytes : List UInt8} (h : 0 ∉ bytes) (n : ℕ) :
    cString (bytes ++ List.replicate n 0) = bytes := by
  cases n with
  | zero => rw [List.replicate_zero, List.append_nil, ScriptMsg.cString_of_notMem h]
  | succ n => rw [List.replicate_succ, ScriptMsg.cString_append_zero h]

/-- A device comes back as it is, with a name that fits in its field. -/
theorem cQueryDeviceInfo_fill (w h : UInt32) {name : List UInt8} (hname : name.length ≤ 63)
    (hplain : 0 ∉ name) (connected : Bool) :
    cQueryDeviceInfo (scriptFillDeviceInfo w h (some name) connected) =
      some (.deviceInfo w h name connected) := by
  have hfill := begins_scriptFillDeviceInfo w h hname connected
  set resp := scriptFillDeviceInfo w h (some name) connected
  have hw : read32le resp.data = w := by
    refine ScriptMsg.Begins.read [] (write32le h ++ (name ++
      (List.replicate (64 - name.length) 0 ++ write32le (flagWord connected)))) ?_
    simpa only [List.append_assoc, List.nil_append] using hfill
  have hh : read32le (resp.data.drop 4) = h := by
    refine ScriptMsg.Begins.read (write32le w) (name ++
      (List.replicate (64 - name.length) 0 ++ write32le (flagWord connected))) ?_
    simpa only [List.append_assoc] using hfill
  have hflag : read32le (resp.data.drop 72) = flagWord connected := by
    have hend : (write32le w ++ write32le h ++ name ++
        List.replicate (64 - name.length) 0).length = 72 := by
      simp only [List.length_append, length_write32le, List.length_replicate]
      omega
    rw [← hend]
    exact ScriptMsg.Begins.read _ [] (by rwa [List.append_nil])
  have hfield : (resp.data.drop 8).take 63 = name ++ List.replicate (63 - name.length) 0 := by
    have hlen : (name ++ List.replicate (63 - name.length) (0 : UInt8)).length = 63 := by
      rw [List.length_append, List.length_replicate]
      omega
    have hsucc : List.replicate (64 - name.length) (0 : UInt8) =
        List.replicate (63 - name.length) 0 ++ [0] := by
      rw [← List.replicate_succ']
      congr 1
      omega
    rw [hsucc] at hfill
    have htake := ScriptMsg.Begins.take (write32le w ++ write32le h)
      (name ++ List.replicate (63 - name.length) 0) ([0] ++ write32le (flagWord connected))
      (by simpa only [List.append_assoc] using hfill)
    rwa [hlen] at htake
  have hstring : cString ((resp.data.drop 8).take 63) = name := by
    rw [hfield, cString_append_zeros hplain]
  have hflag' : (flagWord connected ≠ 0 : Bool) = connected := by cases connected <;> rfl
  rw [cQueryDeviceInfo, hw, hh, hflag, hstring, hflag']
  rfl

/-- A clipboard text comes back cut to what a message has room for. -/
theorem cQueryClipboard_fill {text : List UInt8} (hplain : 0 ∉ text) :
    cQueryClipboard (scriptFillClipboard (some text)) =
      some (.string (text.take (SCRIPT_MSG_MAX_DATA_SIZE - 1))) := by
  obtain ⟨rest, hdata⟩ := ScriptMsg.data_ofText .responseClipboard text
  have hzero : 0 ∉ text.take 255 := fun hmem => hplain (List.mem_of_mem_take hmem)
  have hstring : cString (scriptFillClipboard (some text)).data = text.take 255 :=
    (congrArg cString hdata).trans (ScriptMsg.cString_append_zero hzero rest)
  rw [cQueryClipboard, hstring]
  rfl

/-- A frame that fits comes back whole. -/
theorem cQueryFrameCapture_fill {nv12Data : List UInt8} (width height : UInt32)
    {dataSize : UInt32} (hpos : 0 < dataSize) (hlen : nv12Data.length = dataSize.toNat)
    (hfits : dataSize.toNat ≤ SCRIPT_MSG_MAX_DATA_SIZE - 12) :
    cQueryFrameCapture (scriptFillFrameCapture (some nv12Data) width height dataSize) =
      some (.bytevector nv12Data) := by
  have hfill : (scriptFillFrameCapture (some nv12Data) width height dataSize).Begins
      (write32le width ++ write32le height ++ write32le dataSize ++ nv12Data) := by
    rw [scriptFillFrameCapture, if_pos ⟨hpos, hfits⟩, ← hlen, List.take_length]
    exact ((((ScriptMsg.begins_ofType .responseFrameCapture).put (write32le width)).put
      (write32le height)).put (write32le dataSize)).put nv12Data
  have hsize : (scriptFillFrameCapture (some nv12Data) width height dataSize).dataSize =
      12 + dataSize := by
    rw [scriptFillFrameCapture, if_pos ⟨hpos, hfits⟩]
    rfl
  have htype := scriptFillFrameCapture_type (some nv12Data) width height dataSize
  set resp := scriptFillFrameCapture (some nv12Data) width height dataSize
  have hread : read32le (resp.data.drop 8) = dataSize :=
    ScriptMsg.Begins.read (write32le width ++ write32le height) nv12Data
      (by simpa only [List.append_assoc] using hfill)
  have hdata : (resp.data.drop 12).take dataSize.toNat = nv12Data := by
    rw [← hlen]
    exact ScriptMsg.Begins.take (write32le width ++ write32le height ++ write32le dataSize)
      nv12Data [] (by rwa [List.append_nil])
  have hmin : ¬ resp.dataSize < 12 := by
    simp only [SCRIPT_MSG_MAX_DATA_SIZE] at hfits
    rw [hsize, UInt32.not_lt, UInt32.le_iff_toNat_le, UInt32.toNat_add]
    change 12 ≤ (12 + dataSize.toNat) % 2 ^ 32
    omega
  have hchecked : ¬ (resp.type ≠ .responseFrameCapture ∨ resp.dataSize < 12) :=
    not_or.2 ⟨not_not.2 htype, hmin⟩
  have hsome : ¬ (dataSize = 0 ∨ 12 + dataSize < 12 + dataSize) :=
    not_or.2 ⟨fun h => absurd hpos (h ▸ UInt32.lt_irrefl _), UInt32.lt_irrefl _⟩
  rw [cQueryFrameCapture, checked, if_neg hchecked, hread, hsize, hdata, if_neg hsome]

/-- Of a larger frame only the dimensions are filled in, which reads as no frame. -/
theorem cQueryFrameCapture_fill_large (nv12Data : List UInt8) (width height : UInt32)
    {dataSize : UInt32} (hlarge : SCRIPT_MSG_MAX_DATA_SIZE - 12 < dataSize.toNat) :
    cQueryFrameCapture (scriptFillFrameCapture (some nv12Data) width height dataSize) = none := by
  have hfill : (scriptFillFrameCapture (some nv12Data) width height dataSize).Begins
      (write32le width ++ write32le height ++ write32le 0) := by
    rw [scriptFillFrameCapture, if_neg fun h => absurd h.2 hlarge.not_ge]
    exact (((ScriptMsg.begins_ofType .responseFrameCapture).put (write32le width)).put
      (write32le height)).put (write32le 0)
  have hread : read32le ((scriptFillFrameCapture (some nv12Data) width height dataSize).data.drop
      8) = 0 :=
    ScriptMsg.Begins.read (write32le width ++ write32le height) [] hfill
  rw [cQueryFrameCapture, hread, if_pos (Or.inl rfl), checked, ite_self]

/-! ## All responses -/

/-- What the main thread answers to a query. -/
inductive QueryAnswer where
  | deviceInfo (w h : UInt32) (name : List UInt8) (connected : Bool)
  | videoSize (w h : UInt32)
  | windowSize (w h : UInt32)
  | clipboard (text : List UInt8)
  | frameCapture (nv12Data : List UInt8) (width height dataSize : UInt32)
  deriving DecidableEq, Repr

namespace QueryAnswer

/-- The query that is answered. -/
def kind : QueryAnswer → QueryKind
  | deviceInfo .. => .deviceInfo
  | videoSize .. => .videoSize
  | windowSize .. => .windowSize
  | clipboard _ => .clipboard
  | frameCapture .. => .frameCapture

/-- The message that is filled in. -/
def fill : QueryAnswer → ScriptMsg
  | deviceInfo w h name connected => scriptFillDeviceInfo w h (some name) connected
  | videoSize w h => scriptFillVideoSize w h
  | windowSize w h => scriptFillWindowSize w h
  | clipboard text => scriptFillClipboard (some text)
  | frameCapture nv12Data width height dataSize =>
      scriptFillFrameCapture (some nv12Data) width height dataSize

/-- Strings are C strings, a name has at most 63 bytes, and a frame has `data_size > 0` bytes. -/
def WellFormed : QueryAnswer → Prop
  | deviceInfo _ _ name _ => name.length ≤ 63 ∧ 0 ∉ name
  | clipboard text => 0 ∉ text
  | frameCapture nv12Data _ _ dataSize => 0 < dataSize ∧ nv12Data.length = dataSize.toNat
  | _ => True

/-- The values of the answer. -/
def value : QueryAnswer → QueryValue
  | deviceInfo w h name connected => .deviceInfo w h name connected
  | videoSize w h => .size w h
  | windowSize w h => .size w h
  | clipboard text => .string text
  | frameCapture nv12Data .. => .bytevector nv12Data

/-- What a message has room for: the first 255 bytes of a text, and a frame of at most 244 bytes. -/
def cut : QueryAnswer → Option QueryAnswer
  | clipboard text => some (clipboard (text.take (SCRIPT_MSG_MAX_DATA_SIZE - 1)))
  | frameCapture nv12Data width height dataSize =>
      if dataSize.toNat ≤ SCRIPT_MSG_MAX_DATA_SIZE - 12 then
        some (frameCapture nv12Data width height dataSize)
      else none
  | a => some a

/-- The answer comes back as it is. -/
def RoundTrips (a : QueryAnswer) : Prop := a.kind.result a.fill = some a.value

/-- Every answer comes back with exactly its values, where a clipboard text is cut to 255 bytes and
a frame of more than 244 bytes is none. -/
theorem result_fill {a : QueryAnswer} (h : a.WellFormed) :
    a.kind.result a.fill = a.cut.map value := by
  cases a with
  | deviceInfo w h' name connected => exact cQueryDeviceInfo_fill w h' h.1 h.2 connected
  | videoSize w h' => exact congrArg some (sizeValue_fillSize _ w h')
  | windowSize w h' => exact congrArg some (sizeValue_fillSize _ w h')
  | clipboard text => exact cQueryClipboard_fill h
  | frameCapture nv12Data width height dataSize =>
    rw [cut]
    split_ifs with hfits
    · exact cQueryFrameCapture_fill width height h.1 h.2 hfits
    · exact cQueryFrameCapture_fill_large nv12Data width height (not_le.1 hfits)

/-- A frame of 16 times 16 pixels. -/
def smallFrame : QueryAnswer := .frameCapture (List.replicate 384 128) 16 16 384

theorem wellFormed_smallFrame : smallFrame.WellFormed := ⟨by decide, List.length_replicate ..⟩

theorem result_fill_smallFrame :
    smallFrame.WellFormed ∧ smallFrame.kind.result smallFrame.fill = smallFrame.cut.map value :=
  ⟨wellFormed_smallFrame, result_fill wellFormed_smallFrame⟩

/-- It reads as no frame, and a clipboard text of 256 bytes as its first 255 bytes. -/
theorem roundTrips_fails :
    smallFrame.WellFormed ∧ ¬ smallFrame.RoundTrips ∧
      (clipboard (List.replicate 256 97)).WellFormed ∧
      ¬ (clipboard (List.replicate 256 97)).RoundTrips := by
  have hplain : 0 ∉ List.replicate 256 (97 : UInt8) := fun h =>
    absurd (List.eq_of_mem_replicate h) (by decide)
  refine ⟨wellFormed_smallFrame, ?_, hplain, ?_⟩
  · have hnone : smallFrame.kind.result smallFrame.fill = none :=
      cQueryFrameCapture_fill_large _ 16 16 (by decide)
    rw [RoundTrips, hnone]
    exact nofun
  · have hcut := cQueryClipboard_fill hplain
    rw [RoundTrips, kind, fill, QueryKind.result, hcut, value, List.take_replicate]
    intro h
    have hlen := congrArg List.length (QueryValue.string.inj (Option.some.inj h))
    rw [List.length_replicate, List.length_replicate] at hlen
    exact absurd hlen (by decide)

end QueryAnswer

end Autoscrcpy
