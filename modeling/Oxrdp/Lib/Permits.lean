import Mathlib.Data.List.Count

/-!
# Permits that tasks hold

A pool of permits is shared by the tasks of a list, each of which holds one or none.  It is
**balanced** if the permits that are left and those that are held make up the capacity.  A
task that starts with a permit takes it from the pool, and a task that changes gives back or
takes what makes the difference; both keep the balance (`Balanced.acquire`, `Balanced.set`).
-/

namespace Permits

variable {α : Type} {holds : α → Bool} {capacity free free' : Nat} {tasks : List α} {t t' : α}

/-- The permits that are left and those that are held make up the capacity. -/
def Balanced (holds : α → Bool) (capacity free : Nat) (tasks : List α) : Prop :=
  free + tasks.countP holds = capacity

theorem Balanced.start (holds : α → Bool) (capacity : Nat) :
    Balanced holds capacity capacity [] := rfl

/-- A task that starts with a permit of the pool. -/
theorem Balanced.acquire (h : Balanced holds capacity free tasks) (hfree : free ≠ 0)
    (ht : holds t = true) : Balanced holds capacity (free - 1) (tasks ++ [t]) := by
  unfold Balanced at h ⊢
  rw [List.countP_append, List.countP_singleton, if_pos ht]
  omega

/-- A task that starts without a permit. -/
theorem Balanced.join (h : Balanced holds capacity free tasks) (ht : holds t = false) :
    Balanced holds capacity free (tasks ++ [t]) := by
  unfold Balanced at h ⊢
  rw [List.countP_append, List.countP_singleton, if_neg (by simp [ht])]
  omega

/-- A task that changes, with what it takes from the pool or gives back. -/
theorem Balanced.set (h : Balanced holds capacity free tasks) {i : Nat}
    (ht : tasks[i]? = some t)
    (hpermit : free' + (holds t').toNat = free + (holds t).toNat) :
    Balanced holds capacity free' (tasks.set i t') := by
  obtain ⟨hi, rfl⟩ := List.getElem?_eq_some_iff.mp ht
  have hheld : (holds tasks[i]).toNat ≤ tasks.countP holds := by
    cases hholds : holds tasks[i] with
    | false => exact Nat.zero_le _
    | true => exact List.countP_pos_iff.mpr ⟨_, List.getElem_mem hi, hholds⟩
  have hcount : ∀ b : Bool, (if b = true then 1 else 0) = b.toNat := by decide
  unfold Balanced at h ⊢
  rw [List.countP_set hi, hcount, hcount]
  omega

/-- No more permits are held than there are. -/
theorem Balanced.held_le (h : Balanced holds capacity free tasks) :
    tasks.countP holds ≤ capacity := by
  unfold Balanced at h
  omega

/-- The pool is empty exactly if all permits are held. -/
theorem Balanced.empty_iff (h : Balanced holds capacity free tasks) :
    free = 0 ↔ capacity ≤ tasks.countP holds := by
  unfold Balanced at h
  omega

/-- As many tasks of a narrower kind as hold a permit: then all of these are of that kind. -/
theorem countP_le_iff {narrow : α → Bool} (hnarrow : ∀ t, narrow t = true → holds t = true)
    (tasks : List α) :
    tasks.countP holds ≤ tasks.countP narrow ↔
      ∀ t ∈ tasks, holds t = true → narrow t = true := by
  induction tasks with
  | nil => exact iff_of_true (Nat.le_refl _) nofun
  | cons t tasks ih =>
      have hle : tasks.countP narrow ≤ tasks.countP holds :=
        List.countP_mono_left fun t _ => hnarrow t
      rw [List.forall_mem_cons, ← ih, List.countP_cons, List.countP_cons]
      have := hnarrow t
      cases hn : narrow t with
      | true =>
          simp [this hn]
      | false =>
          cases hh : holds t with
          | true =>
              simp
              omega
          | false => simp

end Permits
