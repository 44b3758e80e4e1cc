import Mathlib.Data.List.TakeWhile
import Autoscrcpy.Script.Message

/-!
# Fields of script messages

The commands of a script and the events for it are messages of two shapes: 32-bit numbers one behind
the other, or one C string that is cut to the size of a message. `word_ofWords` and `text_ofText`:
what the receiving side copies out of such a message is what went in.
-/

namespace Autoscrcpy

namespace ScriptMsg

/-! ## Numbers -/

/-- `memset(&msg, 0, sizeof(msg))`, a type, and `memcpy` of each number behind the one before. -/
def ofWords (type : ScriptMsgType) (words : List UInt32) : ScriptMsg where
  type := type
  dataSize := UInt32.ofNat (4 * words.length)
  data := words.flatMap write32le ++
    List.replicate (SCRIPT_MSG_MAX_DATA_SIZE - 4 * words.length) 0

/-- `memcpy` of four bytes from `data + 4 * i`. -/
def word (msg : ScriptMsg) (i : ℕ) : UInt32 := read32le (msg.data.drop (4 * i))

@[simp] theorem ofWords_type (type : ScriptMsgType) (words : List UInt32) :
    (ofWords type words).type = type := rfl

@[simp] theorem ofWords_dataSize (type : ScriptMsgType) (words : List UInt32) :
    (ofWords type words).dataSize = UInt32.ofNat (4 * words.length) := rfl

theorem word_ofWords (type : ScriptMsgType) (pre : List UInt32) (value : UInt32)
    (post : List UInt32) :
    (ofWords type (pre ++ value :: post)).word pre.length = value := by
  have hlen : (pre.flatMap write32le).length = 4 * pre.length := by
    simp [List.length_flatMap, Nat.mul_comm]
  rw [word, ofWords, List.flatMap_append, List.flatMap_cons, List.append_assoc,
    List.drop_left' hlen, List.append_assoc, read32le_write32le]

/-! ## Text -/

/-- A type and a C string, of which at most 255 bytes and a NUL are kept. -/
def ofText (type : ScriptMsgType) (text : List UInt8) : ScriptMsg :=
  let len := min text.length (SCRIPT_MSG_MAX_DATA_SIZE - 1)
  { ((ofType type).put 0 (text.take len)).put len [0] with dataSize := UInt32.ofNat (len + 1) }

/-- The string that a handler is given: the first `data_size` bytes, at most 255, with a NUL behind
them. -/
def text (msg : ScriptMsg) : List UInt8 :=
  let len := if msg.dataSize.toNat < SCRIPT_MSG_MAX_DATA_SIZE then msg.dataSize.toNat
    else SCRIPT_MSG_MAX_DATA_SIZE - 1
  cString (msg.data.take len)

@[simp] theorem ofText_type (type : ScriptMsgType) (text : List UInt8) :
    (ofText type text).type = type := rfl

/-- The bytes that are kept, then a NUL. -/
theorem data_ofText (type : ScriptMsgType) (bytes : List UInt8) :
    ∃ rest, (ofText type bytes).data = bytes.take 255 ++ 0 :: rest := by
  have htake : bytes.take (min bytes.length 255) = bytes.take 255 := by
    rw [← List.take_take, List.take_of_length_le (List.length_take_le' _ _)]
  refine ⟨((ofType type).data.drop (0 + (bytes.take 255).length)).drop 1, ?_⟩
  simp only [ofText, put, SCRIPT_MSG_MAX_DATA_SIZE, Nat.add_one_sub_one, htake, List.take_zero,
    List.nil_append]
  have hlen : min bytes.length 255 = (bytes.take 255).length := by
    rw [List.length_take, Nat.min_comm]
  rw [hlen, List.take_left, List.drop_append, List.drop_of_length_le (by simp), List.nil_append,
    Nat.add_sub_cancel_left]
  rfl

theorem cString_of_notMem {bytes : List UInt8} (h : 0 ∉ bytes) : cString bytes = bytes :=
  List.takeWhile_eq_self_iff.2 fun x hx => by simpa using ne_of_mem_of_not_mem hx h

theorem cString_append_zero {bytes : List UInt8} (h : 0 ∉ bytes) (rest : List UInt8) :
    cString (bytes ++ 0 :: rest) = bytes := by
  have hall : ∀ x ∈ bytes, decide (x ≠ 0) = true := fun x hx => by
    simpa using ne_of_mem_of_not_mem hx h
  rw [cString, List.takeWhile_append_of_pos hall]
  simp

/-- A string without NUL bytes arrives as it is, cut to 255 bytes. -/
theorem text_ofText (type : ScriptMsgType) {bytes : List UInt8} (h : 0 ∉ bytes) :
    (ofText type bytes).text = bytes.take 255 := by
  obtain ⟨rest, hdata⟩ := data_ofText type bytes
  have hzero : 0 ∉ bytes.take 255 := fun hmem => h (List.mem_of_mem_take hmem)
  have hle : (bytes.take 255).length ≤ 255 := List.length_take_le _ _
  have hsize : (ofText type bytes).dataSize.toNat = (bytes.take 255).length + 1 := by
    have hmin : min bytes.length (SCRIPT_MSG_MAX_DATA_SIZE - 1) = (bytes.take 255).length := by
      rw [List.length_take, Nat.min_comm]
      rfl
    simp only [ofText, hmin]
    rw [UInt32.toNat_ofNat', Nat.mod_eq_of_lt (by omega)]
  simp only [text, hsize, hdata]
  split_ifs with hlt
  · rw [List.take_length_add_append]
    exact cString_append_zero hzero []
  · -- A full message: its last byte is the NUL, which is not copied.
    have hfull : (bytes.take 255).length = 255 := by
      simp only [SCRIPT_MSG_MAX_DATA_SIZE] at hlt
      omega
    exact (congrArg cString (List.take_left' hfull)).trans (cString_of_notMem hzero)

end ScriptMsg

end Autoscrcpy
