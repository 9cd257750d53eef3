import Mathlib.Data.List.AList
import Mathlib.Algebra.Order.Ring.Nat
import Mathlib.Algebra.BigOperators.Group.List.Basic
import Mathlib.Algebra.BigOperators.Group.Finset.Basic

/-!
# Finite tables and the weight of their values

A `Table` is a finite map as an association list without repeated keys.  The
**weight** of a table under `f` is the sum of `f` over its values; it is the
quantity that a running counter over a table keeps track of.  Inserting,
replacing and erasing change it by exactly the values that come and go, and
the number of entries is the weight of the constant 1.
-/

universe u

/-- A finite map from keys to values. -/
abbrev Table (K V : Type u) := AList fun _ : K => V

namespace Table

variable {K V : Type}

/-- How many keys the table holds. -/
def size (t : Table K V) : Nat := t.entries.length

/-- The sum of `f` over the values of the table. -/
def weight (f : V → Nat) (t : Table K V) : Nat :=
  (t.entries.map fun e => f e.2).sum

@[simp] theorem weight_empty (f : V → Nat) : weight f (∅ : Table K V) = 0 := rfl

@[simp] theorem size_empty : size (∅ : Table K V) = 0 := rfl

/-- The size counts each entry once. -/
theorem size_eq_weight (t : Table K V) : size t = weight (fun _ => 1) t := by
  simp [size, weight]

variable [DecidableEq K]

/-- What is found after an insertion. -/
theorem lookup_insert_ite (t : Table K V) (k k' : K) (v : V) :
    (t.insert k v).lookup k' = if k' = k then some v else t.lookup k' := by
  by_cases h : k' = k
  · subst h
    simp
  · rw [if_neg h, AList.lookup_insert_ne h]

/-- What is found after an erasure. -/
theorem lookup_erase_ite (t : Table K V) (k k' : K) :
    (t.erase k).lookup k' = if k' = k then none else t.lookup k' := by
  by_cases h : k' = k
  · subst h
    simp
  · rw [if_neg h, AList.lookup_erase_ne h]

/-- What is found after an insertion is what was inserted, or was there before. -/
theorem of_lookup_insert {t : Table K V} {k k' : K} {v w : V}
    (h : (t.insert k v).lookup k' = some w) :
    k' = k ∧ v = w ∨ k' ≠ k ∧ t.lookup k' = some w := by
  rw [lookup_insert_ite] at h
  split at h
  next hk => exact .inl ⟨hk, Option.some.inj h⟩
  next hk => exact .inr ⟨hk, h⟩

/-- What is found after an erasure was there, under another key. -/
theorem of_lookup_erase {t : Table K V} {k k' : K} {w : V} (h : (t.erase k).lookup k' = some w) :
    k' ≠ k ∧ t.lookup k' = some w := by
  rw [lookup_erase_ite] at h
  split at h
  next => cases h
  next hk => exact ⟨hk, h⟩

/-- A key under which something is found is in the table. -/
theorem mem_of_lookup {t : Table K V} {k : K} {v : V} (h : t.lookup k = some v) :
    k ∈ t :=
  AList.lookup_isSome.mp (by rw [h]; rfl)

/-- Under a key in the table something is found. -/
theorem lookup_of_mem {t : Table K V} {k : K} (h : k ∈ t) :
    ∃ v, t.lookup k = some v :=
  Option.isSome_iff_exists.mp (AList.lookup_isSome.mpr h)

/-- Erasing a key takes its entry out. -/
theorem perm_erase {t : Table K V} {k : K} {v : V} (h : t.lookup k = some v) :
    t.entries.Perm (⟨k, v⟩ :: (t.erase k).entries) := by
  obtain ⟨entries, nodup⟩ := t
  change entries.Perm (⟨k, v⟩ :: List.kerase k entries)
  change List.dlookup k entries = some v at h
  induction entries with
  | nil => cases h
  | cons e rest ih =>
      by_cases hk : k = e.1
      · obtain ⟨key, value⟩ := e
        subst hk
        rw [List.dlookup_cons_eq] at h
        cases h
        have hfst : k = (⟨k, v⟩ : (_ : K) × V).1 := rfl
        rw [List.kerase_cons_eq hfst]
      · rw [List.dlookup_cons_ne rest e hk] at h
        have htail := ih (List.nodupKeys_of_nodupKeys_cons nodup) h
        rw [List.kerase_cons_ne hk]
        exact (htail.cons e).trans (List.Perm.swap _ e _)

/-- Erasing a key takes its value's weight away. -/
theorem weight_erase (f : V → Nat) {t : Table K V} {k : K} {v : V}
    (h : t.lookup k = some v) :
    weight f (t.erase k) + f v = weight f t := by
  have hperm := ((perm_erase h).map fun e => f e.2).sum_eq
  rw [List.map_cons, List.sum_cons] at hperm
  unfold weight
  rw [hperm]
  exact Nat.add_comm _ _

/-- What is not there cannot be erased. -/
theorem erase_of_lookup_none {t : Table K V} {k : K} (h : t.lookup k = none) :
    t.erase k = t := by
  apply AList.ext
  exact List.kerase_of_notMem_keys (AList.lookup_eq_none.mp h)

/-- Inserting is erasing and then adding one entry. -/
theorem weight_insert (f : V → Nat) (t : Table K V) (k : K) (v : V) :
    weight f (t.insert k v) = f v + weight f (t.erase k) := by
  simp only [weight, AList.entries_insert, List.map_cons, List.sum_cons]
  rfl

/-- A new entry adds its weight. -/
theorem weight_insert_new (f : V → Nat) {t : Table K V} {k : K} (v : V)
    (h : t.lookup k = none) :
    weight f (t.insert k v) = f v + weight f t := by
  rw [weight_insert, erase_of_lookup_none h]

/-- A new value for a known key exchanges the weights. -/
theorem weight_insert_old (f : V → Nat) {t : Table K V} {k : K} {v₀ : V} (v : V)
    (h : t.lookup k = some v₀) :
    weight f (t.insert k v) + f v₀ = f v + weight f t := by
  rw [weight_insert, ← weight_erase f h]
  omega

/-- A new key adds one entry. -/
theorem size_insert_new {t : Table K V} {k : K} (v : V) (h : t.lookup k = none) :
    size (t.insert k v) = size t + 1 := by
  rw [size_eq_weight, weight_insert_new _ v h, ← size_eq_weight, Nat.add_comm]

/-- A new value for a known key adds no entry. -/
theorem size_insert_old {t : Table K V} {k : K} {v₀ : V} (v : V)
    (h : t.lookup k = some v₀) : size (t.insert k v) = size t := by
  have hw := weight_insert_old (fun _ => 1) v h
  rw [← size_eq_weight, ← size_eq_weight] at hw
  omega

/-- Erasing a known key takes one entry away. -/
theorem size_erase {t : Table K V} {k : K} {v : V} (h : t.lookup k = some v) :
    size (t.erase k) + 1 = size t := by
  rw [size_eq_weight, weight_erase (fun _ => 1) h, ← size_eq_weight]

/-- Erasing a key never adds an entry. -/
theorem size_erase_le (t : Table K V) (k : K) : size (t.erase k) ≤ size t := by
  cases h : t.lookup k with
  | none => rw [erase_of_lookup_none h]
  | some v =>
      have hsize := size_erase h
      omega

/-- An insertion adds one at most. -/
theorem size_insert_le (t : Table K V) (k : K) (v : V) : size (t.insert k v) ≤ size t + 1 := by
  cases h : t.lookup k with
  | none => rw [size_insert_new v h]
  | some v₀ =>
      rw [size_insert_old v h]
      exact Nat.le_succ _

/-- The weight of one value is part of the whole. -/
theorem le_weight (f : V → Nat) {t : Table K V} {k : K} {v : V}
    (h : t.lookup k = some v) : f v ≤ weight f t := by
  rw [← weight_erase f h]
  omega

/-- A table is determined by what it looks up, up to the order of entries, so
its weight can be summed over any finite set that holds its keys. -/
theorem weight_eq_sum (f : V → Nat) (t : Table K V) (s : Finset K)
    (h : ∀ k, k ∉ s → t.lookup k = none) :
    weight f t = ∑ k ∈ s, (t.lookup k).elim 0 f := by
  induction s using Finset.induction_on generalizing t with
  | empty =>
      have hempty : t.entries = [] := by
        cases hentries : t.entries with
        | nil => rfl
        | cons e rest =>
            have hmem : e.1 ∈ t := by
              rw [AList.mem_keys, AList.keys, hentries]
              simp
            exact absurd hmem (AList.lookup_eq_none.mp (h e.1 (by simp)))
      simp [weight, hempty]
  | insert k s hk ih =>
      have herase := ih (t.erase k) (by
        intro k' hk'
        rw [lookup_erase_ite]
        split
        · rfl
        · rename_i hne
          exact h k' (by simp [hne, hk']))
      have hsum : ∑ k' ∈ s, ((t.erase k).lookup k').elim 0 f =
          ∑ k' ∈ s, (t.lookup k').elim 0 f := by
        refine Finset.sum_congr rfl ?_
        intro k' hk'
        have hne : k' ≠ k := fun heq => hk (heq ▸ hk')
        rw [lookup_erase_ite, if_neg hne]
      rw [Finset.sum_insert hk, ← hsum, ← herase]
      cases hl : t.lookup k with
      | none =>
          rw [erase_of_lookup_none hl]
          simp
      | some v =>
          rw [← weight_erase f hl, Nat.add_comm]
          rfl

/-! ## Changing every value -/

/-- The same keys, with other values. -/
def mapValues {W : Type} (f : V → W) (t : Table K V) : Table K W where
  entries := t.entries.map (.map id fun _ => f)
  nodupKeys := by
    rw [List.NodupKeys, List.keys, List.map_map]
    exact t.nodupKeys

/-- Changing all values changes what is found. -/
theorem lookup_mapValues {W : Type} (f : V → W) (t : Table K V) (k : K) :
    (t.mapValues f).lookup k = (t.lookup k).map f :=
  List.dlookup_map₂ (f := fun _ => f) k

end Table
