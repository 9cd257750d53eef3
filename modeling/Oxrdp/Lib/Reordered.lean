import Mathlib.Data.List.Nodup
import Mathlib.Data.List.Perm.Basic

/-!
# Rearranging the items of a fold

Items may carry a key.  Where steps of items that do not share a key can be exchanged, a
fold over the items depends on the order within each key only: the items of one key stay
in their order, everything else may be moved.

Steps may fail; an exchange then fails on both sides.
-/

namespace Reordering

variable {σ α κ : Type} {key : α → Option κ} {step : σ → α → Option σ}

/-- Two items that do not share a key. -/
def Apart (key : α → Option κ) (a b : α) : Prop := key a = none ∨ key a ≠ key b

/-- Steps of items that do not share a key may be exchanged. -/
def Exchangeable (key : α → Option κ) (step : σ → α → Option σ) : Prop :=
  ∀ a b, Apart key a b → ∀ s, (step s a).bind (step · b) = (step s b).bind (step · a)

/-- An item that shares its key with nothing in front of it may go first. -/
theorem Exchangeable.to_front (hex : Exchangeable key step) (a : α) (back : List α) :
    ∀ {front : List α} (s : σ), (∀ b ∈ front, Apart key a b) →
      (front ++ a :: back).foldlM step s = (a :: (front ++ back)).foldlM step s := by
  intro front
  induction front with
  | nil => exact fun s _ => rfl
  | cons b front ih =>
      intro s hapart
      have hb : Apart key a b := hapart b (List.mem_cons_self ..)
      have hrest : ∀ s, (front ++ a :: back).foldlM step s =
          (a :: (front ++ back)).foldlM step s :=
        fun s => ih s fun c hc => hapart c (List.mem_cons_of_mem b hc)
      calc (b :: (front ++ a :: back)).foldlM step s
          = (step s b).bind fun s' => (front ++ a :: back).foldlM step s' := rfl
        _ = (step s b).bind fun s' => (a :: (front ++ back)).foldlM step s' := by
            simp only [hrest]
        _ = ((step s b).bind (step · a)).bind fun s' => (front ++ back).foldlM step s' := by
            rw [Option.bind_assoc]
            rfl
        _ = ((step s a).bind (step · b)).bind fun s' => (front ++ back).foldlM step s' := by
            rw [hex a b hb s]
        _ = (a :: (b :: (front ++ back))).foldlM step s := by
            rw [Option.bind_assoc]
            rfl

variable [DecidableEq κ]

/-- The items of one key, in their order. -/
def ofKey (key : α → Option κ) (k : κ) (l : List α) : List α :=
  l.filter fun a => key a = some k

/-- The same items, those of each key in the same order. -/
structure Reordered (key : α → Option κ) (l l' : List α) : Prop where
  perm : l.Perm l'
  ordered : ∀ k, ofKey key k l = ofKey key k l'

/-- Where the first item of a list went: nothing in front of it shares its key. -/
theorem Reordered.first {a : α} {l l' : List α} (h : Reordered key (a :: l) l') :
    ∃ front back, l' = front ++ a :: back ∧ (∀ b ∈ front, Apart key a b) ∧
      Reordered key l (front ++ back) := by
  cases hk : key a with
  | none =>
      obtain ⟨front, back, rfl⟩ := List.append_of_mem (h.perm.mem_iff.mp (List.mem_cons_self ..))
      refine ⟨front, back, rfl, fun b _ => .inl hk, ?_, fun k => ?_⟩
      · exact (List.perm_cons a).mp (h.perm.trans List.perm_middle)
      · have hord := h.ordered k
        simpa [ofKey, hk] using hord
  | some k =>
      have hord := h.ordered k
      rw [ofKey, List.filter_cons_of_pos (by simpa using hk)] at hord
      obtain ⟨front, back, rfl, hfront, -, hback⟩ := List.filter_eq_cons_iff.mp hord.symm
      refine ⟨front, back, rfl, fun b hb => ?_, ?_, fun k' => ?_⟩
      · refine .inr fun hsame => hfront b hb ?_
        simpa [← hsame] using hk
      · exact (List.perm_cons a).mp (h.perm.trans List.perm_middle)
      · have hord' := h.ordered k'
        by_cases hk' : k = k'
        · subst hk'
          have hnone : front.filter (fun b => decide (key b = some k)) = [] :=
            List.filter_eq_nil_iff.mpr hfront
          rw [ofKey, ofKey, List.filter_append, hnone, List.nil_append, hback]
        · simpa [ofKey, hk, hk'] using hord'

/-- The fold sees the order within each key only. -/
theorem Exchangeable.foldlM_eq (hex : Exchangeable key step) :
    ∀ {l l' : List α} (s : σ), Reordered key l l' → l.foldlM step s = l'.foldlM step s := by
  intro l
  induction l with
  | nil =>
      intro l' s h
      rw [List.nil_perm.mp h.perm]
  | cons a l ih =>
      intro l' s h
      obtain ⟨front, back, rfl, hapart, hrest⟩ := h.first
      rw [hex.to_front a back s hapart]
      have htail : ∀ s, l.foldlM step s = (front ++ back).foldlM step s := fun s => ih s hrest
      simp only [List.foldlM_cons, htail]

theorem length_ofKey (k : κ) (l : List α) :
    (ofKey key k l).length = (l.filterMap key).count k := by
  induction l with
  | nil => rfl
  | cons a l ih =>
      cases ha : key a with
      | none =>
          rw [List.filterMap_cons_none ha, ← ih]
          simp [ofKey, ha]
      | some k' =>
          rw [List.filterMap_cons_some ha, List.count_cons, ← ih]
          by_cases hk : k' = k
          · simp [ofKey, ha, hk]
          · simp [ofKey, ha, hk]

/-- Items whose keys are all different may be permuted at will. -/
theorem Reordered.of_nodup {l l' : List α} (hperm : l.Perm l') (hkeys : (l.filterMap key).Nodup) :
    Reordered key l l' := by
  refine ⟨hperm, fun k => ?_⟩
  have hlen : (ofKey key k l).length ≤ 1 := by
    rw [length_ofKey]
    exact List.nodup_iff_count_le_one.mp hkeys k
  have hof : (ofKey key k l).Perm (ofKey key k l') := hperm.filter _
  rcases Nat.le_one_iff_eq_zero_or_eq_one.mp hlen with hzero | hone
  · rw [List.length_eq_zero_iff.mp hzero] at hof ⊢
    exact (List.nil_perm.mp hof).symm
  · obtain ⟨a, ha⟩ := List.length_eq_one_iff.mp hone
    rw [ha] at hof ⊢
    exact List.singleton_perm.mp hof

end Reordering
