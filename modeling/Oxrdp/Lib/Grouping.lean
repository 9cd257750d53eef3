import Mathlib.Algebra.Order.Ring.Nat
import Mathlib.Data.List.Induction
import Mathlib.Data.List.Nodup
import Mathlib.Data.List.Perm.Subperm

/-!
# Lists grouped by a key

A list is put into **rows**, one for each key that occurs in it, in the order of the keys.
`Grouped` says what rows are: together they are the list, each has a key of its own, and none is
empty.  How many rows there are is how many keys occur, or, in a range of numbers, how many
there are in it without the idle ones.
-/

namespace Grouping

variable {α κ : Type} [LinearOrder κ]

/-- Put an element at the end of the row of its key. -/
def insert (k : κ) (a : α) : List (κ × List α) → List (κ × List α)
  | [] => [(k, [a])]
  | (k', row) :: rest =>
      if k < k' then (k, [a]) :: (k', row) :: rest
      else if k = k' then (k', row ++ [a]) :: rest
      else (k', row) :: insert k a rest

/-- The rows of a list. -/
def rows (key : α → κ) (xs : List α) : List (κ × List α) :=
  xs.foldl (fun rows a => insert (key a) a rows) []

/-- These are the rows of this list. -/
structure Grouped (key : α → κ) (xs : List α) (rows : List (κ × List α)) : Prop where
  ordered : rows.Pairwise fun r r' => r.1 < r'.1
  elements : (rows.flatMap Prod.snd).Perm xs
  keyed : ∀ r ∈ rows, ∀ a ∈ r.2, key a = r.1
  inhabited : ∀ r ∈ rows, r.2 ≠ []

/-! ## One more element -/

variable {k : κ} {a : α} {rs : List (κ × List α)} {r : κ × List α} {key : α → κ} {xs : List α}

/-- A row after an insertion is a row from before, or that of the new element. -/
theorem mem_insert (h : r ∈ insert k a rs) :
    r ∈ rs ∨ r = (k, [a]) ∨ ∃ row, (k, row) ∈ rs ∧ r = (k, row ++ [a]) := by
  fun_induction insert k a rs with
  | case1 => exact .inr (.inl (List.mem_singleton.mp h))
  | case2 k' row rest hlt =>
      rcases List.mem_cons.mp h with rfl | h
      · exact .inr (.inl rfl)
      · exact .inl h
  | case3 row rest hlt =>
      rcases List.mem_cons.mp h with rfl | h
      · exact .inr (.inr ⟨row, List.mem_cons_self, rfl⟩)
      · exact .inl (List.mem_cons_of_mem _ h)
  | case4 k' row rest hlt hne ih =>
      rcases List.mem_cons.mp h with rfl | h
      · exact .inl List.mem_cons_self
      · rcases ih h with h | h | ⟨row', hmem, h⟩
        · exact .inl (List.mem_cons_of_mem _ h)
        · exact .inr (.inl h)
        · exact .inr (.inr ⟨row', List.mem_cons_of_mem _ hmem, h⟩)

/-- Its key is that of a row from before, or the new one. -/
theorem key_of_mem_insert (h : r ∈ insert k a rs) : r.1 = k ∨ ∃ r' ∈ rs, r'.1 = r.1 := by
  rcases mem_insert h with h | rfl | ⟨row, -, rfl⟩
  · exact .inr ⟨r, h, rfl⟩
  · exact .inl rfl
  · exact .inl rfl

theorem insert_ordered (h : rs.Pairwise fun r r' => r.1 < r'.1) :
    (insert k a rs).Pairwise fun r r' => r.1 < r'.1 := by
  fun_induction insert k a rs with
  | case1 => exact List.pairwise_singleton _ _
  | case2 k' row rest hlt =>
      refine List.pairwise_cons.mpr ⟨fun r hr => ?_, h⟩
      rcases List.mem_cons.mp hr with rfl | hr
      · exact hlt
      · exact lt_trans hlt ((List.pairwise_cons.mp h).1 r hr)
  | case3 row rest hlt =>
      obtain ⟨hfirst, hrest⟩ := List.pairwise_cons.mp h
      exact List.pairwise_cons.mpr ⟨hfirst, hrest⟩
  | case4 k' row rest hlt hne ih =>
      obtain ⟨hfirst, hrest⟩ := List.pairwise_cons.mp h
      refine List.pairwise_cons.mpr ⟨fun r hr => ?_, ih hrest⟩
      rcases key_of_mem_insert hr with heq | ⟨r', hr', heq⟩
      · exact heq ▸ lt_of_le_of_ne (not_lt.mp hlt) (Ne.symm hne)
      · exact heq ▸ hfirst r' hr'

theorem insert_elements : ((insert k a rs).flatMap Prod.snd).Perm (rs.flatMap Prod.snd ++ [a]) := by
  fun_induction insert k a rs with
  | case1 => exact List.Perm.refl _
  | case2 k' row rest hlt => exact (List.perm_append_singleton a _).symm
  | case3 row rest hlt =>
      rw [List.flatMap_cons, List.flatMap_cons, List.append_assoc, List.append_assoc]
      exact List.perm_append_comm.append_left row
  | case4 k' row rest hlt hne ih =>
      rw [List.flatMap_cons, List.flatMap_cons, List.append_assoc]
      exact ih.append_left row

/-- A list with one more element at its end. -/
theorem Grouped.insert (h : Grouped key xs rs) (a : α) :
    Grouped key (xs ++ [a]) (Grouping.insert (key a) a rs) where
  ordered := insert_ordered h.ordered
  elements := insert_elements.trans (h.elements.append_right [a])
  keyed := by
    intro r hr b hb
    rcases mem_insert hr with hr | rfl | ⟨row, hrow, rfl⟩
    · exact h.keyed r hr b hb
    · rw [List.mem_singleton.mp hb]
    · rcases List.mem_append.mp hb with hb | hb
      · exact h.keyed _ hrow b hb
      · rw [List.mem_singleton.mp hb]
  inhabited := by
    intro r hr
    rcases mem_insert hr with hr | rfl | ⟨row, -, rfl⟩
    · exact h.inhabited r hr
    · exact List.cons_ne_nil _ _
    · exact List.append_ne_nil_of_right_ne_nil _ (List.cons_ne_nil _ _)

/-! ## All elements -/

/-- The rows of a list group it. -/
theorem rows_grouped (key : α → κ) (xs : List α) : Grouped key xs (rows key xs) := by
  induction xs using List.reverseRecOn with
  | nil => exact ⟨List.Pairwise.nil, List.Perm.refl _, nofun, nofun⟩
  | append_singleton xs a ih =>
      rw [rows, List.foldl_append]
      exact ih.insert a

namespace Grouped

theorem keys_nodup (h : Grouped key xs rs) : (rs.map Prod.fst).Nodup :=
  List.pairwise_map.mpr (h.ordered.imp ne_of_lt)

/-- Two rows with one key are one row. -/
theorem eq_of_key (h : Grouped key xs rs) {r r' : κ × List α} (hr : r ∈ rs) (hr' : r' ∈ rs)
    (hkey : r.1 = r'.1) : r = r' :=
  List.inj_on_of_nodup_map h.keys_nodup hr hr' hkey

/-- **Every element is in exactly one row.** -/
theorem exactly_one (h : Grouped key xs rs) {a : α} (ha : a ∈ xs) :
    ∃! r, r ∈ rs ∧ a ∈ r.2 := by
  obtain ⟨r, hr, hin⟩ := List.mem_flatMap.mp (h.elements.mem_iff.mpr ha)
  refine ⟨r, ⟨hr, hin⟩, fun r' hr' => ?_⟩
  exact h.eq_of_key hr'.1 hr ((h.keyed r' hr'.1 a hr'.2).symm.trans (h.keyed r hr a hin))

/-- The keys of the rows are those that occur. -/
theorem mem_keys (h : Grouped key xs rs) {k : κ} : k ∈ rs.map Prod.fst ↔ ∃ a ∈ xs, key a = k := by
  rw [List.mem_map]
  constructor
  · rintro ⟨r, hr, rfl⟩
    obtain ⟨a, ha⟩ := List.exists_mem_of_ne_nil _ (h.inhabited r hr)
    exact ⟨a, h.elements.mem_iff.mp (List.mem_flatMap.mpr ⟨r, hr, ha⟩), h.keyed r hr a ha⟩
  · rintro ⟨a, ha, rfl⟩
    obtain ⟨r, hr, hin⟩ := List.mem_flatMap.mp (h.elements.mem_iff.mpr ha)
    exact ⟨r, hr, (h.keyed r hr a hin).symm⟩

/-- Different keys that occur have rows of their own. -/
theorem length_le (h : Grouped key xs rs) {ks : List κ} (hks : ks.Nodup)
    (hoccur : ∀ k ∈ ks, ∃ a ∈ xs, key a = k) : ks.length ≤ rs.length := by
  have hsub : ks ⊆ rs.map Prod.fst := fun k hk => h.mem_keys.mpr (hoccur k hk)
  have hle := (List.subperm_of_subset hks hsub).length_le
  rwa [List.length_map] at hle

/-- What is counted row by row is counted once. -/
theorem countP_rows (h : Grouped key xs rs) (p : α → Bool) :
    (rs.map fun r => r.2.countP p).sum = xs.countP p := by
  rw [← h.elements.countP_eq, List.countP_flatMap]
  rfl

end Grouped

/-! ## Keys in a range -/

/-- The numbers of a range that are no element's key. -/
def idle (key : α → Nat) (xs : List α) (lo hi : Nat) : Nat :=
  ((List.range' lo (hi - lo + 1)).filter fun k => ∀ a ∈ xs, key a ≠ k).length

/-- **There is a row for every number of the range that is not idle.** -/
theorem length_add_idle {key : α → Nat} {lo hi : Nat} {rs : List (Nat × List α)}
    (h : Grouped key xs rs) (hrange : ∀ a ∈ xs, lo ≤ key a ∧ key a ≤ hi) :
    rs.length + idle key xs lo hi = hi - lo + 1 := by
  have hoccurs : (rs.map Prod.fst).Perm ((List.range' lo (hi - lo + 1)).filter fun k =>
      ¬∀ a ∈ xs, key a ≠ k) := by
    have hnodup := List.Nodup.filter (fun k => decide (¬∀ a ∈ xs, key a ≠ k))
      (List.nodup_range' (s := lo) (n := hi - lo + 1))
    refine (List.perm_ext_iff_of_nodup h.keys_nodup hnodup).mpr fun k => ?_
    rw [h.mem_keys, List.mem_filter, List.mem_range'_1, decide_eq_true_iff]
    push Not
    constructor
    · rintro ⟨a, ha, rfl⟩
      have hk := hrange a ha
      exact ⟨by omega, a, ha, rfl⟩
    · rintro ⟨-, a, ha, hk⟩
      exact ⟨a, ha, hk⟩
  have hlen := hoccurs.length_eq
  have hsplit := List.length_eq_length_filter_add (l := List.range' lo (hi - lo + 1))
    (fun k => decide (∀ a ∈ xs, key a ≠ k))
  rw [List.length_range'] at hsplit
  rw [List.length_map] at hlen
  simp only [idle, decide_not] at *
  omega

/-- Nothing is idle where every number of the range is some element's key. -/
theorem idle_eq_zero_iff {key : α → Nat} {lo hi : Nat} (h : lo ≤ hi) :
    idle key xs lo hi = 0 ↔ ∀ k, lo ≤ k → k ≤ hi → ∃ a ∈ xs, key a = k := by
  rw [idle, List.length_eq_zero_iff, List.filter_eq_nil_iff]
  constructor
  · intro hnone k hlo hhi
    have hk := hnone k (List.mem_range'_1.mpr (by omega))
    rw [decide_eq_true_iff] at hk
    push Not at hk
    exact hk
  · intro hall k hk
    rw [List.mem_range'_1] at hk
    obtain ⟨a, ha, heq⟩ := hall k hk.1 (by omega)
    rw [decide_eq_true_iff]
    exact fun hidle => hidle a ha heq

end Grouping
