import Mathlib.Data.List.TakeWhile
import Mathlib.Tactic

/-!
# C strings

What the C library does with strings, which are the lists of their bytes in front of the NUL:
finding a byte, the classes of bytes, decimal numbers, and lines as `fgets` brings them.

A numeral reads as the number it writes (`atoi_of_decimal`), as long as this number is an `int`, and
a number that is written reads as itself (`decimal_toString`).
-/

namespace CText

abbrev Text := List UInt8

/-- The text of a literal. -/
def text (s : String) : Text := s.toUTF8.toList

/-- The string in a buffer. -/
def ofBuffer (bytes : List UInt8) : Text := bytes.takeWhile (· ≠ 0)

def isspace (c : UInt8) : Bool := c = 32 ∨ 9 ≤ c ∧ c ≤ 13

def isdigit (c : UInt8) : Bool := 48 ≤ c ∧ c ≤ 57

/-! ## Finding an element -/

section Find

variable {α : Type*} [DecidableEq α]

/-- `strchr`: what stands in front of the first `c` and what stands behind it. -/
def strchr (c : α) : List α → Option (List α × List α)
  | [] => none
  | b :: s => if b = c then some ([], s) else (strchr c s).map fun r => (b :: r.1, r.2)

/-- `strrchr`: what stands in front of the last `c` and what stands behind it. -/
def strrchr (c : α) : List α → Option (List α × List α)
  | [] => none
  | b :: s =>
      match strrchr c s with
      | some r => some (b :: r.1, r.2)
      | none => if b = c then some ([], s) else none

theorem strrchr_eq_none_iff {c : α} {s : List α} : strrchr c s = none ↔ c ∉ s := by
  induction s with
  | nil => simp [strrchr]
  | cons b s ih =>
    rw [strrchr, List.mem_cons, not_or, ← ih, eq_comm (a := c)]
    cases strrchr c s <;> simp

/-- `strchr` cuts at the first `c`. -/
theorem strchr_append {c : α} {before : List α} (h : c ∉ before) (after : List α) :
    strchr c (before ++ c :: after) = some (before, after) := by
  induction before with
  | nil => rw [List.nil_append, strchr, if_pos rfl]
  | cons b before ih =>
    rw [List.mem_cons, not_or] at h
    rw [List.cons_append, strchr, if_neg (Ne.symm h.1), ih h.2]
    rfl

/-- `strrchr` cuts at the last `c`. -/
theorem strrchr_append {c : α} (before : List α) {after : List α} (h : c ∉ after) :
    strrchr c (before ++ c :: after) = some (before, after) := by
  induction before with
  | nil => rw [List.nil_append, strrchr, strrchr_eq_none_iff.2 h, if_pos rfl]
  | cons b before ih => rw [List.cons_append, strrchr, ih]

end Find

/-! ## Numbers -/

/-- The value of a run of digits. -/
def digitsValue (ds : Text) : ℕ := ds.foldl (fun n d => 10 * n + (d.toNat - 48)) 0

/-- The number at the start of a text, behind white space and with a sign; `0` when there is none.
-/
def leadingInt (t : Text) : ℤ :=
  match t.dropWhile isspace with
  | [] => 0
  | c :: ds =>
      if c = 45 then -digitsValue (ds.takeWhile isdigit)
      else if c = 43 then digitsValue (ds.takeWhile isdigit)
      else digitsValue ((c :: ds).takeWhile isdigit)

/-- `atoi`. For a number that is no `int` the standard leaves the result open: `overflow` is what
the library makes of it. -/
def atoi (overflow : ℤ → Int32) (t : Text) : Int32 :=
  if -2 ^ 31 ≤ leadingInt t ∧ leadingInt t < 2 ^ 31 then Int32.ofInt (leadingInt t)
  else overflow (leadingInt t)

/-- The number that a decimal numeral writes; nothing for any other text. -/
def decimal (t : Text) : Option ℕ := if t ≠ [] ∧ t.all isdigit then some (digitsValue t) else none

theorem isspace_of_isdigit {c : UInt8} (h : isdigit c) : isspace c = false := by
  simp only [isdigit, isspace, decide_eq_true_eq, decide_eq_false_iff_not, UInt8.le_iff_toNat_le,
    ← UInt8.toNat_inj] at h ⊢
  change 48 ≤ c.toNat ∧ c.toNat ≤ 57 at h
  change ¬ (c.toNat = 32 ∨ 9 ≤ c.toNat ∧ c.toNat ≤ 13)
  omega

theorem leadingInt_of_decimal {t : Text} {n : ℕ} (h : decimal t = some n) : leadingInt t = n := by
  rw [decimal, Option.ite_none_right_eq_some] at h
  obtain ⟨⟨hne, hall⟩, hn⟩ := h
  cases t with
  | nil => exact absurd rfl hne
  | cons c ds =>
    rw [List.all_eq_true] at hall
    have hc := hall c (List.mem_cons_self ..)
    have hsign : c ≠ 45 ∧ c ≠ 43 := by
      constructor <;> rintro rfl <;> exact absurd hc (by decide)
    have htake : (c :: ds).takeWhile isdigit = c :: ds := List.takeWhile_eq_self_iff.2 hall
    rw [leadingInt, List.dropWhile_cons_of_neg (by simp [isspace_of_isdigit hc])]
    simp only [if_neg hsign.1, if_neg hsign.2, htake, Option.some.inj hn]

/-- A numeral has digits only. -/
theorem notMem_of_decimal {t : Text} {n : ℕ} (h : decimal t = some n) {c : UInt8}
    (hc : isdigit c = false) : c ∉ t := by
  rw [decimal, Option.ite_none_right_eq_some] at h
  intro hmem
  have hdigit := List.all_eq_true.1 h.1.2 c hmem
  rw [hc] at hdigit
  cases hdigit

theorem atoi_of_decimal (overflow : ℤ → Int32) {t : Text} {n : ℕ} (h : decimal t = some n)
    (hn : n < 2 ^ 31) : atoi overflow t = Int32.ofInt n := by
  rw [atoi, leadingInt_of_decimal h, if_pos (by omega)]

/-! ## Texts of strings and numbers -/

theorem toListLoop_eq (bs : ByteArray) (i : ℕ) (r : List UInt8) :
    ByteArray.toList.loop bs i r = r.reverse ++ bs.data.toList.drop i := by
  fun_induction ByteArray.toList.loop bs i r with
  | case1 i r hlt ih =>
    have hlen : i < bs.data.toList.length := by rwa [Array.length_toList]
    have hget : bs.get! i = bs.data.toList[i] := by
      rw [Array.getElem_toList]
      exact getElem!_pos bs.data i hlt
    rw [ih, List.drop_eq_getElem_cons hlen, hget, List.reverse_cons, List.append_assoc,
      List.singleton_append]
  | case2 i r hlt =>
    have hlen : bs.data.toList.length ≤ i := by
      rw [Array.length_toList]
      exact not_lt.1 hlt
    rw [List.drop_eq_nil_of_le hlen, List.append_nil]

/-- The bytes of a string as the list that it holds, which evaluates for a literal. -/
theorem toUTF8_toList (s : String) : s.toUTF8.toList = s.toByteArray.data.toList := by
  rw [String.toUTF8_eq_toByteArray, ByteArray.toList, toListLoop_eq, List.reverse_nil,
    List.nil_append, List.drop_zero]

theorem text_eq_data (s : String) : text s = s.toByteArray.data.toList := toUTF8_toList s

/-- Literals that differ are different texts. -/
theorem text_inj {s t : String} : text s = text t ↔ s = t := by
  rw [text_eq_data, text_eq_data, Array.toList_inj, ← ByteArray.ext_iff, String.toByteArray_inj]

theorem text_append (s t : String) : text (s ++ t) = text s ++ text t := by
  rw [text_eq_data, text_eq_data, text_eq_data, String.toByteArray_append,
    ByteArray.toList_data_append]

theorem text_ofList (cs : List Char) :
    text (String.ofList cs) = cs.flatMap String.utf8EncodeChar := by
  rw [text_eq_data, String.toByteArray_ofList, List.utf8Encode, List.toList_data_toByteArray]

/-- A decimal digit is one byte. -/
theorem utf8_of_isDigit {c : Char} (h : c.isDigit = true) :
    String.utf8EncodeChar c = [c.val.toUInt8] ∧ c.val.toUInt8.toNat = c.toNat ∧
      isdigit c.val.toUInt8 = true := by
  simp only [Char.isDigit, Bool.and_eq_true, decide_eq_true_eq, ge_iff_le] at h
  obtain ⟨hlow, hhigh⟩ := h
  have hlow : 48 ≤ c.val.toNat := UInt32.le_iff_toNat_le.1 hlow
  have hhigh : c.val.toNat ≤ 57 := UInt32.le_iff_toNat_le.1 hhigh
  have hbyte : c.val.toUInt8.toNat = c.val.toNat := by
    rw [UInt32.toNat_toUInt8]
    exact Nat.mod_eq_of_lt (by omega)
  refine ⟨String.utf8EncodeChar_eq_singleton ?_, hbyte, ?_⟩
  · rw [Char.utf8Size, if_pos]
    exact UInt32.le_iff_toNat_le.2 (hhigh.trans (by decide))
  · simp only [isdigit, decide_eq_true_eq, UInt8.le_iff_toNat_le, hbyte]
    exact ⟨hlow, hhigh⟩

/-- The text of a number is one digit after the other. -/
theorem text_toString (n : ℕ) :
    text (toString n) = (Nat.toDigits 10 n).map fun c => c.val.toUInt8 := by
  rw [Nat.toString_eq_ofList_toDigits, text_ofList,
    ← List.flatMap_singleton' ((Nat.toDigits 10 n).map _), List.flatMap_map]
  refine List.flatMap_congr fun c hc => ?_
  exact (utf8_of_isDigit (Nat.isDigit_of_mem_toDigits (by decide) (by decide) hc)).1

/-- A number that is written reads as itself. -/
theorem decimal_toString (n : ℕ) : decimal (text (toString n)) = some n := by
  have hdigit : ∀ c ∈ Nat.toDigits 10 n, c.isDigit = true := fun c hc =>
    Nat.isDigit_of_mem_toDigits (by decide) (by decide) hc
  have hvalue : digitsValue ((Nat.toDigits 10 n).map fun c => c.val.toUInt8) = n := by
    rw [digitsValue, List.foldl_map]
    conv_rhs => rw [← Nat.ofDigitChars_ten_toDigits (n := n), Nat.ofDigitChars]
    refine List.foldl_ext _ _ _ fun m c hc => ?_
    rw [(utf8_of_isDigit (hdigit c hc)).2.1]
    rfl
  rw [text_toString, decimal, if_pos, hvalue]
  refine ⟨by simp, List.all_eq_true.2 fun b hb => ?_⟩
  obtain ⟨c, hc, rfl⟩ := List.mem_map.1 hb
  exact (utf8_of_isDigit (hdigit c hc)).2.2

theorem length_text_toString_le {n k : ℕ} (hk : 0 < k) :
    (text (toString n)).length ≤ k ↔ n < 10 ^ k := by
  rw [text_toString, List.length_map, Nat.length_toDigits_le_iff (by decide) hk]

/-! ## Lines -/

/-- `fgets` with a buffer of `size` bytes until the end of the file: each line has the newline that
ends it, and a line is cut where the buffer is full. `line` is what is in the buffer already. -/
def fgetsLines (size : ℕ) (line : Text) : Text → List Text
  | [] => if line = [] then [] else [line]
  | b :: bytes =>
      if b = 10 ∨ line.length + 2 = size then (line ++ [b]) :: fgetsLines size [] bytes
      else fgetsLines size (line ++ [b]) bytes

section Lines

variable {β : Type*} {g : Text → List β}

theorem flatMap_fgetsLines_nil (hnil : g [] = []) (size : ℕ) (line : Text) :
    (fgetsLines size line []).flatMap g = g line := by
  rw [fgetsLines]
  split_ifs with hline
  · rw [hline, hnil, List.flatMap_nil]
  · rw [List.flatMap_singleton]

theorem flatMap_fgetsLines_of_splitOn (hnil : g [] = []) (hnewline : ∀ t, g (t ++ [10]) = g t)
    (size : ℕ) {line bytes first : Text} {rest : List Text}
    (h : bytes.splitOn 10 = first :: rest) :
    (fgetsLines size line bytes).flatMap g =
      (fgetsLines size line first).flatMap g ++
        rest.flatMap fun l => (fgetsLines size [] l).flatMap g := by
  induction bytes generalizing line first rest with
  | nil =>
    rw [List.splitOn_nil] at h
    cases h
    rw [List.flatMap_nil, List.append_nil]
  | cons b bytes ih =>
    obtain ⟨first', rest', h'⟩ := List.exists_cons_of_ne_nil (List.splitOn_ne_nil 10 bytes)
    rw [List.splitOn_cons_eq_if_modifyHead, h'] at h
    by_cases hb : b = 10
    · -- The line ends here.
      rw [if_pos (beq_iff_eq.2 hb)] at h
      cases h
      rw [flatMap_fgetsLines_nil hnil, fgetsLines, if_pos (Or.inl hb), List.flatMap_cons, hb,
        hnewline, ih h', List.flatMap_cons]
    · rw [if_neg (by simpa using hb), List.modifyHead_cons] at h
      cases h
      rw [fgetsLines, fgetsLines]
      split_ifs with hfull
      · rw [List.flatMap_cons, List.flatMap_cons, ih h', List.append_assoc]
      · exact ih h'

/-- To a `g` for which a newline at the end does not matter, the lines of `fgets` are the lines of
the text, each cut where the buffer is full. -/
theorem flatMap_fgetsLines (hnil : g [] = []) (hnewline : ∀ t, g (t ++ [10]) = g t) (size : ℕ)
    (bytes : Text) :
    (fgetsLines size [] bytes).flatMap g =
      (bytes.splitOn 10).flatMap fun l => (fgetsLines size [] l).flatMap g := by
  obtain ⟨first, rest, h⟩ := List.exists_cons_of_ne_nil (List.splitOn_ne_nil 10 bytes)
  rw [flatMap_fgetsLines_of_splitOn hnil hnewline size h, h, List.flatMap_cons]

end Lines

/-- A line that the buffer has room for is not cut. -/
theorem fgetsLines_of_short {size : ℕ} {line bytes : Text} (hnew : 10 ∉ bytes)
    (hline : line.length + 2 ≤ size) (hlen : line.length + bytes.length + 1 ≤ size) :
    fgetsLines size line bytes = if line ++ bytes = [] then [] else [line ++ bytes] := by
  induction bytes generalizing line with
  | nil => rw [fgetsLines, List.append_nil]
  | cons b bytes ih =>
    rw [List.mem_cons, not_or] at hnew
    rw [List.length_cons] at hlen
    rw [fgetsLines]
    by_cases hfull : line.length + 2 = size
    · have hend : bytes = [] := List.length_eq_zero_iff.1 (by omega)
      rw [if_pos (Or.inr hfull), hend, fgetsLines, if_pos rfl, if_neg (by simp)]
    · have hgrow : (line ++ [b]).length = line.length + 1 := by simp
      rw [if_neg (not_or.2 ⟨Ne.symm hnew.1, hfull⟩),
        ih hnew.2 (by omega) (by omega), List.append_assoc, List.singleton_append]

end CText
