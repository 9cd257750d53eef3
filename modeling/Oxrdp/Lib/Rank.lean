import Mathlib.Data.List.Sort

/-!
# Nearest ranks

The nearest-rank percentile of some values is the least of them that is at least as great as the
given part of all.  In a sorted list it is found by its place, and conversely the place counts
the values below.  The order is any that sorts: transitive and total.
-/

namespace Rank

variable {α : Type} {le : α → α → Bool}

/-- How many of the values are at most `v`. -/
def below (le : α → α → Bool) (v : α) (xs : List α) : Nat := xs.countP fun x => le x v

/-- `v` is the least value with at least `p` percent of the values up to it. -/
def NearestRank (le : α → α → Bool) (p : Nat) (xs : List α) (v : α) : Prop :=
  v ∈ xs ∧ p * xs.length ≤ 100 * below le v xs ∧
    ∀ w ∈ xs, le v w = false → 100 * below le w xs < p * xs.length

/-- The rank of a percentile among `n` values. -/
def rank (p n : Nat) : Nat := max 1 (min ((p * n + 99) / 100) n)

theorem below_perm {xs ys : List α} (h : xs.Perm ys) (v : α) : below le v xs = below le v ys :=
  h.countP_eq _

theorem below_split (i : Nat) (v : α) (xs : List α) : below le v xs =
    (xs.take i).countP (fun x => le x v) + (xs.drop i).countP fun x => le x v := by
  rw [← List.countP_append, List.take_append_drop]
  rfl

/-- A nearest rank does not depend on the order of the values. -/
theorem NearestRank.perm {xs ys : List α} {p : Nat} {v : α} (h : NearestRank le p xs v)
    (hperm : xs.Perm ys) : NearestRank le p ys v := by
  obtain ⟨hmem, hpart, hleast⟩ := h
  refine ⟨hperm.mem_iff.mp hmem, ?_, fun w hw hlt => ?_⟩
  · rwa [← below_perm hperm, ← hperm.length_eq]
  · rw [← below_perm hperm, ← hperm.length_eq]
    exact hleast w (hperm.mem_iff.mpr hw) hlt

section Sorted

variable {xs : List α} (h : xs.Pairwise fun a b => le a b = true)
  (htrans : ∀ a b c, le a b = true → le b c = true → le a c = true)
  (htotal : ∀ a b, (le a b || le b a) = true)

include h htotal

/-- The order of two places is that of their values. -/
theorem le_of_le {i j : Nat} (hij : i ≤ j) (hj : j < xs.length) : le xs[i] xs[j] = true := by
  rcases Nat.lt_or_eq_of_le hij with hlt | rfl
  · exact List.pairwise_iff_getElem.mp h i j (by omega) hj hlt
  · have hself := htotal xs[i] xs[i]
    rwa [Bool.or_self] at hself

/-- The values up to a place are at most the one there. -/
theorem succ_le_below {i : Nat} (hi : i < xs.length) : i + 1 ≤ below le xs[i] xs := by
  have hall : (xs.take (i + 1)).countP (fun x => le x xs[i]) = (xs.take (i + 1)).length := by
    refine List.countP_eq_length.mpr fun x hx => ?_
    obtain ⟨j, hj, rfl⟩ := List.mem_take_iff_getElem.mp hx
    exact le_of_le h htotal (by omega) hi
  rw [below_split (i + 1), hall, List.length_take]
  omega

include htrans

/-- The values from a place on are not below a smaller one. -/
theorem below_le {i : Nat} (hi : i < xs.length) {w : α} (hw : le xs[i] w = false) :
    below le w xs ≤ i := by
  have hnone : (xs.drop i).countP (fun x => le x w) = 0 := by
    refine List.countP_eq_zero.mpr fun x hx hle => ?_
    obtain ⟨j, hj, rfl⟩ := List.mem_drop_iff_getElem.mp hx
    have hup := le_of_le h htotal (Nat.le_add_right i j) (by omega)
    rw [htrans _ _ _ hup hle] at hw
    cases hw
  have hfew := List.countP_le_length (p := fun x => le x w) (l := xs.take i)
  rw [List.length_take] at hfew
  rw [below_split i, hnone]
  omega

/-- The value at the rank of a percentile is the nearest rank. -/
theorem nearestRank_sorted {p : Nat} (hp : p ≤ 100) (hne : 0 < xs.length)
    (hi : rank p xs.length - 1 < xs.length) : NearestRank le p xs xs[rank p xs.length - 1] := by
  have hle : p * xs.length ≤ 100 * xs.length := Nat.mul_le_mul_right _ hp
  refine ⟨List.getElem_mem hi, ?_, fun w hw hlt => ?_⟩
  · have hcount := succ_le_below h htotal hi
    unfold rank at hcount ⊢
    omega
  · have hcount := below_le h htrans htotal hi hlt
    have hself : 0 < below le w xs := by
      have hww := htotal w w
      rw [Bool.or_self] at hww
      exact List.countP_pos_iff.mpr ⟨w, hw, hww⟩
    unfold rank at hcount
    omega

end Sorted

/-- The value at the rank of a percentile, in order. -/
def percentile (le : α → α → Bool) (p : Nat) (xs : List α) : Option α :=
  (xs.mergeSort le)[rank p xs.length - 1]?

/-- There is one unless there are no values, and it is the nearest rank. -/
theorem percentile_spec (htrans : ∀ a b c, le a b = true → le b c = true → le a c = true)
    (htotal : ∀ a b, (le a b || le b a) = true) {p : Nat} (hp : p ≤ 100) {xs : List α}
    (hne : xs ≠ []) : ∃ v, percentile le p xs = some v ∧ NearestRank le p xs v := by
  have hperm := List.mergeSort_perm xs le
  have hpos : 0 < (xs.mergeSort le).length := by
    rw [hperm.length_eq]
    exact List.length_pos_iff.mpr hne
  have hi : rank p (xs.mergeSort le).length - 1 < (xs.mergeSort le).length := by
    unfold rank
    omega
  refine ⟨_, ?_, (nearestRank_sorted (List.pairwise_mergeSort htrans htotal xs) htrans htotal hp
    hpos hi).perm hperm⟩
  rw [percentile, ← hperm.length_eq]
  exact List.getElem?_eq_getElem hi

end Rank
