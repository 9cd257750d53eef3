import Mathlib.Algebra.Order.Ring.Nat
import Mathlib.Data.List.Count

/-!
# Entries counted by their keys

Things that pass through queues and logs keep a key on their way, although they change their
form.  `tally key k` counts the entries of a list with the key `k`, so that nothing is lost or
made twice where the sum of the tallies of all places stays the same.  `tally_set` is for the
places that are the parts of one list, such as the queues of several workers.
-/

namespace Tally

variable {α β κ : Type} [DecidableEq κ] {key : α → Option κ} {k : κ}

/-- Does the entry have the key? -/
def hit (key : α → Option κ) (k : κ) (a : α) : Nat := if key a = some k then 1 else 0

/-- How many entries have the key. -/
def tally (key : α → Option κ) (k : κ) (entries : List α) : Nat := (entries.map (hit key k)).sum

theorem hit_of_ne {a : α} (h : key a ≠ some k) : hit key k a = 0 := if_neg h

/-- A thing that changes its form counts as before. -/
theorem hit_congr {key' : β → Option κ} {a : α} {b : β} (h : key a = key' b) :
    hit key k a = hit key' k b := by
  unfold hit
  rw [h]

@[simp] theorem tally_nil : tally key k [] = 0 := rfl

@[simp] theorem tally_cons (a : α) (entries : List α) :
    tally key k (a :: entries) = hit key k a + tally key k entries := by
  simp [tally]

@[simp] theorem tally_append (entries more : List α) :
    tally key k (entries ++ more) = tally key k entries + tally key k more := by
  simp [tally]

theorem tally_map (f : β → α) (entries : List β) :
    tally key k (entries.map f) = tally (key ∘ f) k entries := by
  unfold tally
  rw [List.map_map]
  rfl

/-- Entries with other keys do not count. -/
theorem tally_of_ne {entries : List α} (h : ∀ a ∈ entries, key a ≠ some k) :
    tally key k entries = 0 := by
  induction entries with
  | nil => rfl
  | cons a entries ih =>
      rw [tally_cons, hit_of_ne (h a List.mem_cons_self),
        ih fun b hb => h b (List.mem_cons_of_mem a hb)]

theorem tally_of_none {entries : List α} (h : ∀ a ∈ entries, key a = none) :
    tally key k entries = 0 :=
  tally_of_ne fun a ha => by simp [h a ha]

/-- What has a key counts somewhere. -/
theorem tally_pos {entries : List α} {a : α} (ha : a ∈ entries) (h : key a = some k) :
    0 < tally key k entries := by
  induction entries with
  | nil => cases ha
  | cons b entries ih =>
      rw [tally_cons]
      rcases List.mem_cons.mp ha with rfl | ha
      · rw [hit, if_pos h]
        omega
      · have := ih ha
        omega

/-- An entry that is taken out. -/
theorem tally_erase [DecidableEq α] {entries : List α} {a : α} (ha : a ∈ entries) :
    tally key k (entries.erase a) + hit key k a = tally key k entries := by
  induction entries with
  | nil => cases ha
  | cons b entries ih =>
      by_cases hb : b = a
      · subst hb
        rw [List.erase_cons_head, tally_cons]
        omega
      · have := ih ((List.mem_cons.mp ha).resolve_left (Ne.symm hb))
        rw [List.erase_cons_tail (by simpa using hb), tally_cons, tally_cons]
        omega

/-- One entry more of a list that is read from the front. -/
theorem tally_take_succ {entries : List α} {i : Nat} {a : α} (h : entries[i]? = some a) :
    tally key k (entries.take (i + 1)) = tally key k (entries.take i) + hit key k a := by
  rw [List.take_add_one, h, Option.toList_some, tally_append, tally_cons, tally_nil]
  rfl

/-- A part that is replaced takes its entries with it. -/
theorem tally_set (entries : β → List α) {parts : List β} {i : Nat} {part : β}
    (h : parts[i]? = some part) (part' : β) :
    tally key k ((parts.set i part').flatMap entries) + tally key k (entries part) =
      tally key k (parts.flatMap entries) + tally key k (entries part') := by
  induction parts generalizing i with
  | nil => cases h
  | cons first parts ih =>
      cases i with
      | zero =>
          cases h
          simp only [List.set_cons_zero, List.flatMap_cons, tally_append]
          omega
      | succ i =>
          have := ih h
          simp only [List.set_cons_succ, List.flatMap_cons, tally_append]
          omega

end Tally
