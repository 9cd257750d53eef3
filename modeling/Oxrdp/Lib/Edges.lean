import Mathlib.Data.List.Chain

/-!
# Signals by their edges

A signal of two levels that starts low is given by its edges, the levels that it goes to.  They
alternate, from a rising one on, if each leads to the other level.  A signal that is brought to
a level by the edge between the two, if there is one, stays so.
-/

namespace Edges

variable {edges : List Bool}

/-- Each edge leads to the other level; the first is a rising one. -/
def Alternating (edges : List Bool) : Prop := (false :: edges).IsChain (· ≠ ·)

instance : Decidable (Alternating edges) :=
  inferInstanceAs (Decidable ((false :: edges).IsChain (· ≠ ·)))

/-- The level after some edges. -/
def level (edges : List Bool) : Bool := edges.getLastD false

/-- The edge from one level to another, if they differ. -/
def edge (before after : Bool) : List Bool := if before = after then [] else [after]

theorem Alternating.nil : Alternating [] := List.isChain_singleton false

theorem level_append_edge (edges : List Bool) (after : Bool) :
    level (edges ++ edge (level edges) after) = after := by
  unfold edge
  split
  next hsame => rw [List.append_nil, hsame]
  next hother =>
    simp [level, List.getLastD_eq_getLast?]

theorem Alternating.append_edge (h : Alternating edges) (after : Bool) :
    Alternating (edges ++ edge (level edges) after) := by
  unfold edge
  split
  next hsame =>
    rw [List.append_nil]
    exact h
  next hother =>
    rw [Alternating, ← List.cons_append, List.isChain_append]
    refine ⟨h, List.isChain_singleton _, ?_⟩
    intro x hx y hy
    -- the level after the edges is the last of them, or the low one that stands before them
    have hlast : x = level edges := by
      rw [List.getLast?_cons] at hx
      simpa [level, List.getLastD_eq_getLast?] using (Option.some.inj hx).symm
    have hfirst : y = after := by simpa using hy.symm
    rw [hlast, hfirst]
    exact hother

end Edges
