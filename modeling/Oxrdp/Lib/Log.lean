import Mathlib.Data.List.Infix

/-!
# Logs whose entries depend on what came before

A log is **lawful** if each entry is allowed by the entries before it.  A lawful
log grows one allowed entry at a time, every part of it from the start is lawful,
and `Lawful.rec_snoc` is the induction that follows.

Where each entry gives rise to one output at most, a beginning of the outputs came of a
beginning of the log (`exists_cause`).
-/

namespace Log

variable {α : Type} {Allowed : List α → α → Prop} {log log' : List α}

/-- Every entry is allowed by the entries before it. -/
def Lawful (Allowed : List α → α → Prop) (log : List α) : Prop :=
  ∀ before a after, log = before ++ a :: after → Allowed before a

theorem Lawful.nil : Lawful Allowed [] := by
  intro before a after h
  simp at h

theorem Lawful.snoc (h : Lawful Allowed log) {a : α} (ha : Allowed log a) :
    Lawful Allowed (log ++ [a]) := by
  intro before b after heq
  rcases List.eq_nil_or_concat after with rfl | ⟨after, last, rfl⟩
  · obtain ⟨rfl, hlast⟩ := List.append_inj' heq rfl
    cases hlast
    exact ha
  · rw [List.concat_eq_append, ← List.cons_append, ← List.append_assoc] at heq
    obtain ⟨rfl, -⟩ := List.append_inj' heq rfl
    exact h before b after rfl

/-- Entries that are always allowed may follow. -/
theorem Lawful.append {more : List α} (h : Lawful Allowed log)
    (hmore : ∀ a ∈ more, ∀ before, Allowed before a) : Lawful Allowed (log ++ more) := by
  induction more generalizing log with
  | nil =>
      rw [List.append_nil]
      exact h
  | cons a rest ih =>
      rw [List.append_cons]
      apply ih (h.snoc (hmore a List.mem_cons_self log))
      intro b hb
      exact hmore b (List.mem_cons_of_mem a hb)

/-- A lawful log was lawful all along. -/
theorem Lawful.of_start (h : Lawful Allowed log) (hpre : log' <+: log) :
    Lawful Allowed log' := by
  obtain ⟨rest, rfl⟩ := hpre
  intro before a after heq
  apply h before a (after ++ rest)
  rw [heq, List.append_assoc, List.cons_append]

theorem Lawful.last {a : α} (h : Lawful Allowed (log ++ [a])) :
    Lawful Allowed log ∧ Allowed log a :=
  ⟨h.of_start (List.prefix_append log [a]), h log a [] rfl⟩

/-- What holds of the empty log and is kept by every allowed entry holds of every
lawful log. -/
theorem Lawful.rec_snoc {P : List α → Prop} (hnil : P [])
    (hsnoc : ∀ log a, Lawful Allowed log → Allowed log a → P log → P (log ++ [a]))
    (h : Lawful Allowed log) : P log := by
  induction log using List.reverseRecOn with
  | nil => exact hnil
  | append_singleton log a ih =>
      obtain ⟨hlog, ha⟩ := h.last
      exact hsnoc log a hlog ha (ih hlog)

/-- The entry that an output came of, with those before it. -/
theorem exists_cause {β : Type} (out : List α → List β) (hnil : out [] = [])
    (hsnoc : ∀ log a, ∃ o : Option β, out (log ++ [a]) = out log ++ o.toList)
    {outputs : List β} {b : β} (h : outputs ++ [b] <+: out log) :
    ∃ before a, before ++ [a] <+: log ∧ out before = outputs ∧
      out (before ++ [a]) = outputs ++ [b] := by
  induction log using List.reverseRecOn with
  | nil =>
      rw [hnil, List.prefix_nil] at h
      simp at h
  | append_singleton rest a ih =>
      have hlater : outputs ++ [b] <+: out rest →
          ∃ before a', before ++ [a'] <+: rest ++ [a] ∧ out before = outputs ∧
            out (before ++ [a']) = outputs ++ [b] := by
        intro hrest
        obtain ⟨before, a', hpre, hbefore, hafter⟩ := ih hrest
        exact ⟨before, a', hpre.trans (List.prefix_append rest [a]), hbefore, hafter⟩
      obtain ⟨o, ho⟩ := hsnoc rest a
      rw [ho] at h
      cases o with
      | none =>
          rw [Option.toList_none, List.append_nil] at h
          exact hlater h
      | some b' =>
          rcases List.prefix_concat_iff.mp h with heq | hrest
          · obtain ⟨rfl, hb⟩ := List.append_inj' heq rfl
            cases hb
            exact ⟨rest, a, List.prefix_rfl, rfl, ho⟩
          · exact hlater hrest

end Log
