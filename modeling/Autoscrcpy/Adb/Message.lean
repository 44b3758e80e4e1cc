import Autoscrcpy.Adb.Binary

/-!
# ADB messages

The constants of `adb.h`, the 24-byte message header as it lies in memory (six little-endian
32-bit words) and the payload checksum. A packet is a header with the payload that follows it on
the wire.
-/

namespace Autoscrcpy

/-! ## Constants -/

abbrev ADB_VERSION : UInt32 := 0x01000001
abbrev ADB_VERSION_SKIP_CHECKSUM : UInt32 := 0x01000001
abbrev ADB_MAX_PAYLOAD : ℕ := 1024 * 1024

abbrev ADB_CNXN : UInt32 := 0x4e584e43
abbrev ADB_AUTH : UInt32 := 0x48545541
abbrev ADB_OPEN : UInt32 := 0x4e45504f
abbrev ADB_OKAY : UInt32 := 0x59414b4f
abbrev ADB_WRTE : UInt32 := 0x45545257
abbrev ADB_CLSE : UInt32 := 0x45534c43
abbrev ADB_STLS : UInt32 := 0x534c5453

abbrev ADB_STLS_VERSION : UInt32 := 0x01000000

abbrev ADB_AUTH_TYPE_TOKEN : UInt32 := 1
abbrev ADB_AUTH_TYPE_RSAKEY : UInt32 := 2

abbrev ADB_MSG_HEADER_SIZE : ℕ := 24

/-! ## Headers -/

/-- `adb_message_t`. -/
structure AdbMessage where
  command : UInt32
  arg0 : UInt32
  arg1 : UInt32
  dataLength : UInt32
  dataCheck : UInt32
  magic : UInt32
  deriving DecidableEq, Repr

namespace AdbMessage

/-- The packed structure as bytes. -/
def toBytes (m : AdbMessage) : List UInt8 :=
  write32le m.command ++ (write32le m.arg0 ++ (write32le m.arg1 ++ (write32le m.dataLength ++
    (write32le m.dataCheck ++ write32le m.magic))))

/-- The bytes read back as the packed structure. -/
def ofBytes (buf : List UInt8) : AdbMessage where
  command := read32le buf
  arg0 := read32le (buf.drop 4)
  arg1 := read32le (buf.drop 8)
  dataLength := read32le (buf.drop 12)
  dataCheck := read32le (buf.drop 16)
  magic := read32le (buf.drop 20)

@[simp] theorem length_toBytes (m : AdbMessage) : m.toBytes.length = 24 := rfl

theorem ofBytes_toBytes_append (m : AdbMessage) (rest : List UInt8) :
    ofBytes (m.toBytes ++ rest) = m := by
  have drop_word (v : UInt32) (n : ℕ) (t : List UInt8) :
      (write32le v ++ t).drop (n + 4) = t.drop n := by
    simp [write32le]
  cases m
  simp only [ofBytes, toBytes, List.append_assoc, mk.injEq, read32le_write32le, true_and]
  refine ⟨?_, ?_, ?_, ?_, ?_⟩
  · rw [drop_word _ 0]
    simp
  · rw [drop_word _ 4, drop_word _ 0]
    simp
  · rw [drop_word _ 8, drop_word _ 4, drop_word _ 0]
    simp
  · rw [drop_word _ 12, drop_word _ 8, drop_word _ 4, drop_word _ 0]
    simp
  · rw [drop_word _ 16, drop_word _ 12, drop_word _ 8, drop_word _ 4, drop_word _ 0]
    simp

@[simp] theorem ofBytes_toBytes (m : AdbMessage) : ofBytes m.toBytes = m := by
  simpa using ofBytes_toBytes_append m []

/-- The test on `magic` made by every receiver. -/
def MagicOk (m : AdbMessage) : Prop := m.magic = m.command ^^^ 0xffffffff

instance (m : AdbMessage) : Decidable m.MagicOk :=
  inferInstanceAs (Decidable (m.magic = m.command ^^^ 0xffffffff))

end AdbMessage

/-! ## Checksum -/

/-- `adb_checksum`: the sum of the bytes, wrapping at 32 bits. -/
def adbChecksum (data : List UInt8) : UInt32 := data.foldl (fun sum b => sum + b.toUInt32) 0

@[simp] theorem adbChecksum_nil : adbChecksum [] = 0 := rfl

/-- A header and the payload that follows it. -/
structure Packet where
  hdr : AdbMessage
  payload : List UInt8
  deriving DecidableEq, Repr

namespace Packet

def toBytes (p : Packet) : List UInt8 := p.hdr.toBytes ++ p.payload

@[simp] theorem length_toBytes (p : Packet) : p.toBytes.length = 24 + p.payload.length := by
  simp [toBytes]

end Packet

end Autoscrcpy
