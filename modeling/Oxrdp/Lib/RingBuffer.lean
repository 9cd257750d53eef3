import Mathlib.Data.List.DropRight
import Mathlib.Data.List.Rotate

/-!
# Ring buffers

A ring buffer holds the last values it was given.  While it fills up, a value goes behind the
others; once it is full, it goes to the place of the oldest, and the next place is the oldest.
Read from the oldest on the buffer is rotated, and what is read is `List.rtake` of all values.
-/

namespace RingBuffer

variable {α : Type}

/-- All values, while there are not too many. -/
theorem rtake_of_length_le {xs : List α} {n : Nat} (h : xs.length ≤ n) : xs.rtake n = xs := by
  rw [List.rtake, Nat.sub_eq_zero_of_le h, List.drop_zero]

theorem length_rtake (xs : List α) (n : Nat) : (xs.rtake n).length = min xs.length n := by
  rw [List.rtake, List.length_drop]
  omega

/-- A value beyond the size drives out the first one. -/
theorem rtake_concat {xs : List α} {n : Nat} (h : n ≤ xs.length) (hn : 0 < n) (a : α) :
    (xs ++ [a]).rtake n = (xs.rtake n).tail ++ [a] := by
  obtain ⟨m, rfl⟩ : ∃ m, n = m + 1 := ⟨n - 1, by omega⟩
  have htail : (xs.rtake (m + 1)).tail = xs.rtake m := by
    rw [List.rtake, List.rtake, List.tail_drop]
    congr 1
    omega
  rw [List.rtake_concat_succ, htail]

/-- Overwriting the oldest value, and starting behind it. -/
theorem rotate_set {buf : List α} {head : Nat} (h : head < buf.length) (a : α) :
    (buf.set head a).rotate (head + 1) = (buf.rotate head).tail ++ [a] := by
  have hlength : head + 1 = (buf.take head ++ [a]).length := by
    simp [Nat.min_eq_left h.le]
  have hset : buf.set head a = (buf.take head ++ [a]) ++ buf.drop (head + 1) := by
    rw [List.set_eq_take_append_cons_drop, if_pos h, List.append_assoc]
    rfl
  rw [hset, hlength, List.rotate_append_length_eq, List.rotate_eq_drop_append_take h.le,
    List.tail_append_of_ne_nil, List.tail_drop, ← hlength, List.append_assoc]
  intro hnil
  exact Nat.not_le.mpr h (List.drop_eq_nil_iff.mp hnil)

end RingBuffer
