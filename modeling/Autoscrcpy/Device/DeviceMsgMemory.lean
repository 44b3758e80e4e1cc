import Autoscrcpy.Device.DeviceMsg

/-!
# Device messages in memory

`device_msg_deserialize` fills a `struct device_msg` of its caller: the type first, then, after the
checks on the length, the members of the union, of which one is a pointer to memory of its own.
`device_msg_destroy` frees the pointer that the type selects. `deviceMsgParse` and
`deviceMsgDestroy` follow what is read, stored, allocated and freed; the message that
`deviceMsgParse` leaves in memory is the one of `deviceMsgDeserialize` (`deviceMsgParse_decoded`).

A message that is refused after its type is stored leaves the pointer as it was, so the destructor
frees what the caller had there (`parseThenDestroySafe_iff`).
-/

namespace Autoscrcpy

/-! ## The structure -/

/-- `struct device_msg`: the type, and the union as three words of a 64-bit target. -/
structure DeviceMsgStruct where
  type : UInt32
  word0 : UInt64
  word1 : UInt64
  word2 : UInt64
  deriving DecidableEq, Repr

/-- Store into the low bits of a word, for the members that are smaller than a word. -/
def storeLow (word : UInt64) (bits : ℕ) (value : UInt64) : UInt64 :=
  (word >>> UInt64.ofNat bits <<< UInt64.ofNat bits) ||| value

namespace DeviceMsgStruct

/-- `clipboard.text`, of the layout `text`, `len`, `sequence`. -/
def text (s : DeviceMsgStruct) : UInt64 := s.word0

/-- `uhid_output.data`, of the layout `id`, `data`, `len`. -/
def data (s : DeviceMsgStruct) : UInt64 := s.word1

def textLen (s : DeviceMsgStruct) : UInt32 := s.word1.toUInt32

def textSequence (s : DeviceMsgStruct) : UInt64 := s.word2

def ackSequence (s : DeviceMsgStruct) : UInt64 := s.word0

def id (s : DeviceMsgStruct) : UInt16 := s.word0.toUInt16

def dataLen (s : DeviceMsgStruct) : UInt16 := s.word2.toUInt16

def setText (s : DeviceMsgStruct) (p : UInt64) : DeviceMsgStruct := { s with word0 := p }

def setTextLen (s : DeviceMsgStruct) (len : UInt32) : DeviceMsgStruct :=
  { s with word1 := storeLow s.word1 32 len.toUInt64 }

def setTextSequence (s : DeviceMsgStruct) (sequence : UInt64) : DeviceMsgStruct :=
  { s with word2 := sequence }

def setAckSequence (s : DeviceMsgStruct) (sequence : UInt64) : DeviceMsgStruct :=
  { s with word0 := sequence }

def setId (s : DeviceMsgStruct) (id : UInt16) : DeviceMsgStruct :=
  { s with word0 := storeLow s.word0 16 id.toUInt64 }

def setData (s : DeviceMsgStruct) (p : UInt64) : DeviceMsgStruct := { s with word1 := p }

def setDataLen (s : DeviceMsgStruct) (len : UInt16) : DeviceMsgStruct :=
  { s with word2 := storeLow s.word2 16 len.toUInt64 }

end DeviceMsgStruct

/-! ## `device_msg_deserialize` and `device_msg_destroy` -/

/-- What a call of `device_msg_deserialize` did: whether it returned `0`, the structure, the parts
of the input that were read (offset and length), the buffer that was allocated, and the bytes stored
in it. -/
structure DeviceMsgParse where
  ok : Bool
  msg : DeviceMsgStruct
  reads : List (ℕ × ℕ)
  allocated : Option UInt64
  stored : List UInt8
  deriving DecidableEq, Repr

/-- `device_msg_deserialize`; `address` is what `malloc` returns where it is called. -/
def deviceMsgParse (address : UInt64) (data : List UInt8) (len : UInt32) (msg : DeviceMsgStruct) :
    DeviceMsgParse :=
  if len < 1 then ⟨false, msg, [], none, []⟩
  else
    let msg := { msg with type := (data.getD 0 0).toUInt32 }
    if msg.type = 0 then
      if len < 9 then ⟨false, msg, [(0, 1)], none, []⟩
      else
        let msg := (msg.setTextSequence (read64be (data.drop 1))).setTextLen (len - 9)
        let msg := msg.setText address
        if address = 0 then ⟨false, msg, [(0, 1), (1, 8)], none, []⟩
        else ⟨true, msg, [(0, 1), (1, 8), (9, (len - 9).toNat)], some address,
          (data.drop 9).take (len - 9).toNat ++ [0]⟩
    else if msg.type = 1 then
      if len < 9 then ⟨false, msg, [(0, 1)], none, []⟩
      else ⟨true, msg.setAckSequence (read64be (data.drop 1)), [(0, 1), (1, 8)], none, []⟩
    else if msg.type = 2 then
      if len < 5 then ⟨false, msg, [(0, 1)], none, []⟩
      else
        let size := read16be (data.drop 3)
        let msg := (msg.setId (read16be (data.drop 1))).setDataLen size
        if len < 5 + size.toUInt32 then ⟨false, msg, [(0, 1), (1, 2), (3, 2)], none, []⟩
        else
          let msg := msg.setData address
          if address = 0 then ⟨false, msg, [(0, 1), (1, 2), (3, 2)], none, []⟩
          else ⟨true, msg, [(0, 1), (1, 2), (3, 2), (5, size.toNat)], some address,
            (data.drop 5).take size.toNat⟩
    else ⟨false, msg, [(0, 1)], none, []⟩

/-- `device_msg_destroy`: the pointer handed to `free`, if `free` is called. -/
def deviceMsgDestroy (msg : DeviceMsgStruct) : Option UInt64 :=
  if msg.type = 0 then some msg.text
  else if msg.type = 2 then some msg.data
  else none

/-- The message in memory after a call that returned `0`. -/
def DeviceMsgParse.decoded (r : DeviceMsgParse) : Option DeviceMsg :=
  if r.ok = false then none
  else if r.msg.type = 0 then
    some (.clipboard (r.stored.take r.msg.textLen.toNat) r.msg.textSequence)
  else if r.msg.type = 1 then some (.ackClipboard r.msg.ackSequence)
  else some (.uhidOutput r.msg.id (r.stored.take r.msg.dataLen.toNat))

theorem storeLow_toUInt32 (word : UInt64) (value : UInt32) :
    (storeLow word 32 value.toUInt64).toUInt32 = value := by
  apply UInt32.toBitVec_inj.1
  apply BitVec.eq_of_getLsbD_eq
  intro i hi
  change (((word.toBitVec >>> 32) <<< 32 ||| value.toBitVec.setWidth 64).setWidth 32).getLsbD i = _
  simp [hi]

theorem storeLow_toUInt16 (word : UInt64) (value : UInt16) :
    (storeLow word 16 value.toUInt64).toUInt16 = value := by
  apply UInt16.toBitVec_inj.1
  apply BitVec.eq_of_getLsbD_eq
  intro i hi
  change (((word.toBitVec >>> 16) <<< 16 ||| value.toBitVec.setWidth 64).setWidth 16).getLsbD i = _
  simp [hi]

/-- A byte stored as the type is the type of that number. -/
theorem toUInt32_eq_iff (b c : UInt8) : b.toUInt32 = c.toUInt32 ↔ b = c :=
  ⟨fun h => UInt8.toNat_inj.1 (by simpa using congrArg UInt32.toNat h), congrArg _⟩

/-- The message in memory is the one that `device_msg_deserialize` decodes. -/
theorem deviceMsgParse_decoded (address : UInt64) {data : List UInt8} {len : UInt32}
    (hlen : data.length = len.toNat) (msg : DeviceMsgStruct) :
    (deviceMsgParse address data len msg).decoded =
      deviceMsgDeserialize (decide (address ≠ 0)) data len := by
  set type := data.getD 0 0 with htype
  have htype₀ : type.toUInt32 = 0 ↔ type = 0 := toUInt32_eq_iff type 0
  have htype₁ : type.toUInt32 = 1 ↔ type = 1 := toUInt32_eq_iff type 1
  have htype₂ : type.toUInt32 = 2 ↔ type = 2 := toUInt32_eq_iff type 2
  simp only [deviceMsgParse, deviceMsgDeserialize, ← htype, htype₀, htype₁, htype₂,
    decide_eq_false_iff_not, not_not]
  split_ifs with h₁ h0 h9 hnull h1 h9 h2 h5 hshort hnull
  · rfl
  · rfl
  · rfl
  · have hsub := UInt32.toNat_sub_of_le _ _ (UInt32.not_lt.1 h9)
    have hrest : ((data.drop 9).take (len - 9).toNat).length = (len - 9).toNat := by
      rw [List.length_take, List.length_drop, hlen, hsub]
      exact min_eq_right le_rfl
    simp only [DeviceMsgParse.decoded, DeviceMsgStruct.setText, DeviceMsgStruct.setTextLen,
      DeviceMsgStruct.setTextSequence, DeviceMsgStruct.textLen, DeviceMsgStruct.textSequence,
      storeLow_toUInt32, htype₀, if_pos h0, Bool.true_eq_false, if_false]
    rw [List.take_left' hrest]
  · rfl
  · simp only [DeviceMsgParse.decoded, DeviceMsgStruct.setAckSequence, DeviceMsgStruct.ackSequence,
      htype₀, htype₁, if_neg h0, if_pos h1, Bool.true_eq_false, if_false]
  · rfl
  · rfl
  · rfl
  · simp only [DeviceMsgParse.decoded, DeviceMsgStruct.setId, DeviceMsgStruct.setDataLen,
      DeviceMsgStruct.setData, DeviceMsgStruct.id, DeviceMsgStruct.dataLen, storeLow_toUInt16,
      htype₀, htype₁, if_neg h0, if_neg h1, Bool.true_eq_false, if_false, List.take_take, min_self]
  · rfl

/-! ## What is read, allocated and freed -/

/-- The messages of the layout that the parser expects. -/
def WellFormedMsg (data : List UInt8) : Prop :=
  (data.head? = some 0 ∧ 9 ≤ data.length) ∨ (data.head? = some 1 ∧ 9 ≤ data.length) ∨
    (data.head? = some 2 ∧ 5 ≤ data.length ∧
      5 + (read16be (data.drop 3)).toNat ≤ data.length)

/-- The type in the structure after the call: that of the message, or the old one if there is no
byte. -/
def typeLeft (data : List UInt8) (msg : DeviceMsgStruct) : UInt32 :=
  (data.head?.map UInt8.toUInt32).getD msg.type

/-- What the caller had in the union member that the destructor then looks at. -/
def pointerLeft (data : List UInt8) (msg : DeviceMsgStruct) : UInt64 :=
  if typeLeft data msg = 0 then msg.text else if typeLeft data msg = 2 then msg.data else 0

/-- Only the message is read, exactly the well-formed messages are accepted, and the destructor
frees nothing or what this call has allocated. -/
structure ParseThenDestroySafe (address : UInt64) (data : List UInt8) (len : UInt32)
    (msg : DeviceMsgStruct) : Prop where
  reads : ∀ r ∈ (deviceMsgParse address data len msg).reads, r.1 + r.2 ≤ data.length
  accepts : (deviceMsgParse address data len msg).ok ↔ WellFormedMsg data
  frees : ∀ p ≠ 0, deviceMsgDestroy (deviceMsgParse address data len msg).msg = some p →
    (deviceMsgParse address data len msg).allocated = some p

theorem deviceMsgParse_reads (address : UInt64) {data : List UInt8} {len : UInt32}
    (hlen : data.length = len.toNat) (msg : DeviceMsgStruct) :
    ∀ r ∈ (deviceMsgParse address data len msg).reads, r.1 + r.2 ≤ data.length := by
  have hsub (h : ¬ len < 9) : (len - 9).toNat = len.toNat - 9 :=
    UInt32.toNat_sub_of_le _ _ (UInt32.not_lt.1 h)
  unfold deviceMsgParse
  simp only [UInt32.lt_iff_toNat_lt, toNat_five_add, ← hlen, UInt32.reduceToNat] at hsub ⊢
  split_ifs
  all_goals simp
  all_goals omega

theorem destroy_getD (msg : DeviceMsgStruct) :
    (deviceMsgDestroy msg).getD 0 =
      if msg.type = 0 then msg.text else if msg.type = 2 then msg.data else 0 := by
  unfold deviceMsgDestroy
  split_ifs <;> rfl

theorem typeLeft_of_pos {data : List UInt8} (h : 0 < data.length) (msg : DeviceMsgStruct) :
    typeLeft data msg = (data.getD 0 0).toUInt32 := by
  cases data with
  | nil => cases h
  | cons type rest => rfl

theorem head?_eq_some_iff {data : List UInt8} (h : 0 < data.length) (type : UInt8) :
    data.head? = some type ↔ (data.getD 0 0).toUInt32 = type.toUInt32 := by
  cases data with
  | nil => cases h
  | cons b rest => simp [toUInt32_eq_iff]

/-- What a call and the destructor do, by the message: one that is not well formed is refused with
the pointer left as it was, an acknowledgement has no pointer, and for the other two kinds the
destructor frees what `malloc` returned. -/
theorem deviceMsgParse_cases (address : UInt64) {data : List UInt8} {len : UInt32}
    (hlen : data.length = len.toNat) (msg : DeviceMsgStruct) {r : DeviceMsgParse}
    (hr : deviceMsgParse address data len msg = r) :
    (¬ WellFormedMsg data ∧ r.ok = false ∧ r.allocated = none ∧
      (deviceMsgDestroy r.msg).getD 0 = pointerLeft data msg) ∨
    (WellFormedMsg data ∧ data.head? = some 1 ∧ r.ok ∧ deviceMsgDestroy r.msg = none) ∨
    (WellFormedMsg data ∧ data.head? ≠ some 1 ∧ (r.ok ↔ address ≠ 0) ∧
      deviceMsgDestroy r.msg = some address ∧ (address ≠ 0 → r.allocated = some address)) := by
  unfold deviceMsgParse at hr
  simp only [UInt32.lt_iff_toNat_lt, toNat_five_add, ← hlen, UInt32.reduceToNat] at hr
  by_cases hempty : data.length < 1
  · obtain rfl := List.eq_nil_of_length_eq_zero (Nat.lt_one_iff.1 hempty)
    rw [if_pos hempty] at hr
    subst hr
    exact Or.inl ⟨by simp [WellFormedMsg], rfl, rfl, destroy_getD msg⟩
  have hpos : 0 < data.length := Nat.pos_of_ne_zero fun h => hempty (by omega)
  have hhead₀ : data.head? = some 0 ↔ (data.getD 0 0).toUInt32 = 0 := head?_eq_some_iff hpos 0
  have hhead₁ : data.head? = some 1 ↔ (data.getD 0 0).toUInt32 = 1 := head?_eq_some_iff hpos 1
  have hhead₂ : data.head? = some 2 ↔ (data.getD 0 0).toUInt32 = 2 := head?_eq_some_iff hpos 2
  rw [if_neg hempty] at hr
  simp only [WellFormedMsg, pointerLeft, typeLeft_of_pos hpos, ne_eq, hhead₀, hhead₁, hhead₂]
  generalize (data.getD 0 0).toUInt32 = type at hr ⊢
  split_ifs at hr with h0 h9 hnull h1 h9 h2 h5 hshort hnull
  all_goals subst hr
  · exact Or.inl ⟨by simp [h0]; omega, rfl, rfl, destroy_getD _⟩
  · exact Or.inr (Or.inr ⟨Or.inl ⟨h0, by omega⟩, by simp [h0], by simp [hnull],
      by rw [h0]; rfl, fun h => absurd hnull h⟩)
  · exact Or.inr (Or.inr ⟨Or.inl ⟨h0, by omega⟩, by simp [h0], by simp [hnull],
      by rw [h0]; rfl, fun _ => rfl⟩)
  · exact Or.inl ⟨by simp [h1]; omega, rfl, rfl, destroy_getD _⟩
  · exact Or.inr (Or.inl ⟨Or.inr (Or.inl ⟨h1, by omega⟩), h1, rfl, by rw [h1]; rfl⟩)
  · exact Or.inl ⟨by simp [h2]; omega, rfl, rfl, destroy_getD _⟩
  · exact Or.inl ⟨by simp [h2]; omega, rfl, rfl,
      by simp [destroy_getD, h2, DeviceMsgStruct.data, DeviceMsgStruct.setId,
        DeviceMsgStruct.setDataLen]⟩
  · exact Or.inr (Or.inr ⟨Or.inr (Or.inr ⟨h2, by omega, by omega⟩), h1, by simp [hnull],
      by rw [h2]; rfl, fun h => absurd hnull h⟩)
  · exact Or.inr (Or.inr ⟨Or.inr (Or.inr ⟨h2, by omega, by omega⟩), h1, by simp [hnull],
      by rw [h2]; rfl, fun _ => rfl⟩)
  · exact Or.inl ⟨by simp [h0, h1, h2], rfl, rfl, destroy_getD _⟩

/-- Parsing and destroying is safe exactly when there is memory for a well-formed message, and there
was no pointer where the destructor looks after any other message. -/
theorem parseThenDestroySafe_iff (address : UInt64) {data : List UInt8} {len : UInt32}
    (hlen : data.length = len.toNat) (msg : DeviceMsgStruct) :
    ParseThenDestroySafe address data len msg ↔
      (WellFormedMsg data → data.head? = some 1 ∨ address ≠ 0) ∧
        (¬ WellFormedMsg data → pointerLeft data msg = 0) := by
  have hreads := deviceMsgParse_reads address hlen msg
  rcases deviceMsgParse_cases address hlen msg rfl with
    ⟨hbad, hok, hnone, hleft⟩ | ⟨hgood, hack, hok, hfree⟩ | ⟨hgood, hack, hok, hfree, halloc⟩
  · constructor
    · intro h
      refine ⟨fun hgood => absurd hgood hbad, fun _ => ?_⟩
      by_contra hne
      cases hdestroy : deviceMsgDestroy (deviceMsgParse address data len msg).msg with
      | none => exact hne (by rw [← hleft, hdestroy]; rfl)
      | some p =>
        rw [hdestroy, Option.getD_some] at hleft
        have := h.frees p (hleft ▸ hne) hdestroy
        rw [hnone] at this
        cases this
    · intro h
      refine ⟨hreads, by simp [hok, hbad], fun p hp hdestroy => ?_⟩
      rw [hdestroy, Option.getD_some] at hleft
      exact absurd (hleft.trans (h.2 hbad)) hp
  · have hcond : (WellFormedMsg data → data.head? = some 1 ∨ address ≠ 0) ∧
        (¬ WellFormedMsg data → pointerLeft data msg = 0) :=
      ⟨fun _ => Or.inl hack, fun hbad => absurd hgood hbad⟩
    refine iff_of_true ⟨hreads, by simp [hok, hgood], fun p _ hdestroy => ?_⟩ hcond
    rw [hfree] at hdestroy
    cases hdestroy
  · constructor
    · intro h
      exact ⟨fun _ => Or.inr (hok.1 (h.accepts.2 hgood)), fun hbad => absurd hgood hbad⟩
    · intro h
      have haddr : address ≠ 0 := (h.1 hgood).resolve_left hack
      refine ⟨hreads, by simp [hok, haddr, hgood], fun p _ hdestroy => ?_⟩
      rw [← Option.some.inj (hfree.symm.trans hdestroy)]
      exact halloc haddr

/-- A clipboard message of nine bytes, parsed over an old pointer. -/
theorem parseThenDestroySafe_iff_text :
    ParseThenDestroySafe 0x5000 [0, 0, 0, 0, 0, 0, 0, 0, 7] 9 ⟨0, 0x1000, 0, 0⟩ :=
  (parseThenDestroySafe_iff 0x5000 rfl ⟨0, 0x1000, 0, 0⟩).2
    ⟨fun _ => Or.inr (by decide), fun h => absurd (Or.inl ⟨rfl, le_rfl⟩) h⟩

/-- One byte of a clipboard message: the pointer that the caller had is freed. -/
theorem parseThenDestroy_frees_old :
    deviceMsgDestroy (deviceMsgParse 0x5000 [0] 1 ⟨1, 0x1000, 0, 0⟩).msg = some 0x1000 ∧
      ¬ ParseThenDestroySafe 0x5000 [0] 1 ⟨1, 0x1000, 0, 0⟩ := by
  refine ⟨rfl, fun h => ?_⟩
  have halloc := h.frees 0x1000 (by decide) rfl
  cases halloc

end Autoscrcpy
