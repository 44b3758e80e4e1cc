import Mathlib.Data.List.Basic
import Mathlib.Tactic

/-!
# Buffers

A buffer of fixed size that is written in place, one piece at a time. What was written side by side
is in the buffer side by side, in whichever order it was written (`put_put_after`,
`put_put_before`), and nothing else changes.
-/

namespace Buffer

variable {α : Type*}

/-- The elements from an offset on are overwritten. -/
def put (buf : List α) (offset : ℕ) (src : List α) : List α :=
  buf.take offset ++ (src ++ buf.drop (offset + src.length))

theorem length_put {buf src : List α} {offset : ℕ} (h : offset + src.length ≤ buf.length) :
    (put buf offset src).length = buf.length := by
  simp only [put, List.length_append, List.length_take, List.length_drop]
  omega

theorem put_zero (buf src : List α) : put buf 0 src = src ++ buf.drop src.length := by
  rw [put, List.take_zero, List.nil_append, Nat.zero_add]

theorem take_put_zero (buf src : List α) : (put buf 0 src).take src.length = src := by
  rw [put_zero, List.take_left]

/-- A piece written right behind another one. -/
theorem put_put_after (buf : List α) (offset : ℕ) (src src' : List α) (h : offset ≤ buf.length) :
    put (put buf offset src) (offset + src.length) src' = put buf offset (src ++ src') := by
  have hlen : (buf.take offset ++ src).length = offset + src.length := by
    rw [List.length_append, List.length_take, min_eq_left h]
  rw [put, put, put, ← List.append_assoc (buf.take offset) src, ← hlen, List.take_left,
    List.drop_length_add_append, List.drop_drop, hlen, List.append_assoc, List.append_assoc,
    List.length_append, Nat.add_assoc]

/-- A piece written right in front of another one. -/
theorem put_put_before (buf : List α) (offset : ℕ) (src src' : List α)
    (h : offset + src.length ≤ buf.length) :
    put (put buf (offset + src.length) src') offset src = put buf offset (src ++ src') := by
  have hfront : (buf.take (offset + src.length)).length = offset + src.length := by
    rw [List.length_take, min_eq_left h]
  rw [put, put, put, List.take_append_of_le_length (by omega), List.take_take,
    min_eq_left (by omega), List.drop_left' hfront, List.length_append, Nat.add_assoc,
    List.append_assoc]

end Buffer
