import Mathlib.Data.List.Basic

/-!
# Pieces of a list

`[T]::chunks`: pieces of one length, of which the last may be shorter and none is empty.
-/

namespace Chunks

variable {α β : Type} {n : Nat}

/-- Pieces of `n` elements; there are none if `n` is zero. -/
def chunks (n : Nat) (xs : List α) : List (List α) :=
  if xs = [] ∨ n = 0 then [] else xs.take n :: chunks n (xs.drop n)
termination_by xs.length
decreasing_by
  rename_i h
  have hpos : 0 < xs.length := List.length_pos_of_ne_nil fun hnil => h (.inl hnil)
  rw [List.length_drop]
  omega

theorem chunks_nil (n : Nat) : chunks n ([] : List α) = [] := by
  rw [chunks]
  simp

/-- The pieces of a list put together are the list. -/
theorem flatten_chunks (hn : 0 < n) (xs : List α) : (chunks n xs).flatten = xs := by
  fun_induction chunks n xs with
  | case1 xs h =>
      rcases h with rfl | hzero
      · rfl
      · omega
  | case2 xs h ih => rw [List.flatten_cons, ih, List.take_append_drop]

/-- No piece is longer than `n`. -/
theorem length_le_of_mem {xs piece : List α} (h : piece ∈ chunks n xs) : piece.length ≤ n := by
  fun_induction chunks n xs with
  | case1 xs hend => cases h
  | case2 xs hmore ih =>
      rcases List.mem_cons.mp h with rfl | h
      · exact List.length_take_le n xs
      · exact ih h

/-- No piece is empty. -/
theorem ne_nil_of_mem {xs piece : List α} (h : piece ∈ chunks n xs) : piece ≠ [] := by
  fun_induction chunks n xs with
  | case1 xs hend => cases h
  | case2 xs hmore ih =>
      rcases List.mem_cons.mp h with rfl | h
      · exact fun hnil => hmore ((List.take_eq_nil_iff.mp hnil).symm)
      · exact ih h

/-- The elements of a piece are elements of the list. -/
theorem mem_of_mem_chunks {xs piece : List α} (h : piece ∈ chunks n xs) {a : α}
    (ha : a ∈ piece) : a ∈ xs := by
  fun_induction chunks n xs with
  | case1 xs hend => cases h
  | case2 xs hmore ih =>
      rcases List.mem_cons.mp h with rfl | h
      · exact List.mem_of_mem_take ha
      · exact List.mem_of_mem_drop (ih h)

/-- Mapping before cutting is mapping each piece. -/
theorem chunks_map (f : α → β) (xs : List α) :
    chunks n (xs.map f) = (chunks n xs).map (List.map f) := by
  fun_induction chunks n xs with
  | case1 xs h =>
      rw [chunks, if_pos (by simpa using h)]
      rfl
  | case2 xs h ih =>
      rw [chunks, if_neg (by simpa using h), List.map_cons, ← ih, List.map_take, List.map_drop]

end Chunks
