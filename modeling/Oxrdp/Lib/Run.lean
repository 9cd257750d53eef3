import Mathlib.Data.List.Basic

/-!
# Runs of a partial step function

A machine takes a state and an input to an output and a next state, or stops.
`run` feeds it a list of inputs and collects the outputs.  The rules turn what
one step keeps into what every run keeps: `run_safe` for a machine that never
stops while its invariant holds, and `run_append_split` to cut a run in two.
-/

namespace Machine

variable {σ ι ω : Type}

/-- Feed a list of inputs to the machine, collecting one output for each. -/
def run (step : σ → ι → Option (ω × σ)) : σ → List ι → Option (List ω × σ)
  | s, [] => some ([], s)
  | s, i :: rest => do
      let (o, s') ← step s i
      let (os, s'') ← run step s' rest
      pure (o :: os, s'')

variable {step : σ → ι → Option (ω × σ)}

theorem run_cons_some {s : σ} {i : ι} {rest : List ι} {r : List ω × σ} :
    run step s (i :: rest) = some r ↔
      ∃ o s' os, step s i = some (o, s') ∧ run step s' rest = some (os, r.2) ∧
        r.1 = o :: os := by
  obtain ⟨rs, rf⟩ := r
  constructor
  · intro h
    obtain ⟨⟨o, s'⟩, hstep, h⟩ := Option.bind_eq_some_iff.mp h
    obtain ⟨⟨os, s''⟩, hrest, h⟩ := Option.bind_eq_some_iff.mp h
    cases h
    exact ⟨o, s', os, hstep, hrest, rfl⟩
  · intro h
    obtain ⟨o, s', os, hstep, hrest, heq⟩ := h
    simp only at hrest heq
    subst heq
    simp [run, hstep, hrest]

/-- One output for each input. -/
theorem run_length {s s' : σ} {is : List ι} {os : List ω}
    (h : run step s is = some (os, s')) : os.length = is.length := by
  induction is generalizing s os with
  | nil =>
      cases h
      rfl
  | cons i is ih =>
      obtain ⟨o, m, os', -, hrest, heq⟩ := run_cons_some.mp h
      simp only at hrest heq
      subst heq
      rw [List.length_cons, List.length_cons, ih hrest]

/-- A run over two lists passes through a state between them. -/
theorem run_append_split {s s'' : σ} {is js : List ι} {os : List ω}
    (h : run step s (is ++ js) = some (os, s'')) :
    ∃ os₁ s' os₂, run step s is = some (os₁, s') ∧ run step s' js = some (os₂, s'') ∧
      os = os₁ ++ os₂ := by
  induction is generalizing s os with
  | nil => exact ⟨[], s, os, rfl, h, rfl⟩
  | cons i is ih =>
      obtain ⟨o, m, os', hstep, hrest, heq⟩ := run_cons_some.mp h
      simp only at hrest heq
      subst heq
      obtain ⟨os₁, s', os₂, h₁, h₂, rfl⟩ := ih hrest
      exact ⟨o :: os₁, s', os₂, run_cons_some.mpr ⟨o, m, os₁, hstep, h₁, rfl⟩, h₂, rfl⟩

/-- A machine that cannot stop while its invariant holds, and whose steps keep
the invariant and only give good outputs, does so along every run. -/
theorem run_safe {Inv : σ → Prop} {Good : ω → Prop}
    (hstep : ∀ s i, Inv s → ∃ o s', step s i = some (o, s') ∧ Inv s' ∧ Good o) :
    ∀ (is : List ι) (s : σ), Inv s →
      ∃ os s', run step s is = some (os, s') ∧ Inv s' ∧ ∀ o ∈ os, Good o := by
  intro is
  induction is with
  | nil =>
      intro s hs
      exact ⟨[], s, rfl, hs, by simp⟩
  | cons i rest ih =>
      intro s hs
      obtain ⟨o, s', hi, hs', ho⟩ := hstep s i hs
      obtain ⟨os, s'', hrest, hs'', hos⟩ := ih s' hs'
      refine ⟨o :: os, s'', run_cons_some.mpr ⟨o, s', os, hi, hrest, rfl⟩, hs'', ?_⟩
      intro o' ho'
      rcases List.mem_cons.mp ho' with rfl | hmem
      · exact ho
      · exact hos o' hmem

/-! ## Labelled chains of a step relation -/

section Chain

variable {R : ι → σ → σ → Prop}

/-- `s` goes to `s'` by one step for each label of the list. -/
inductive Chain (R : ι → σ → σ → Prop) : List ι → σ → σ → Prop
  | nil {s : σ} : Chain R [] s s
  | cons {i : ι} {is : List ι} {s s' s'' : σ} (hstep : R i s s')
      (hrest : Chain R is s' s'') : Chain R (i :: is) s s''

theorem Chain.append {is js : List ι} {s s' s'' : σ} (h₁ : Chain R is s s')
    (h₂ : Chain R js s' s'') : Chain R (is ++ js) s s'' := by
  induction h₁ with
  | nil => exact h₂
  | cons hstep _ ih => exact .cons hstep (ih h₂)

theorem Chain.snoc {i : ι} {is : List ι} {s s' s'' : σ} (h : Chain R is s s')
    (hstep : R i s' s'') : Chain R (is ++ [i]) s s'' :=
  h.append (.cons hstep .nil)

/-- What every step keeps, a chain keeps. -/
theorem Chain.keep {Inv : σ → Prop} {is : List ι} {s s' : σ} (h : Chain R is s s')
    (hs : Inv s) (hstep : ∀ i ∈ is, ∀ s s', R i s s' → Inv s → Inv s') : Inv s' := by
  induction h with
  | nil => exact hs
  | cons hone _ ih =>
      exact ih (hstep _ List.mem_cons_self _ _ hone hs)
        fun i hi => hstep i (List.mem_cons_of_mem _ hi)

/-- A chain keeps an invariant that may speak of the labels already passed. -/
theorem Chain.keep_labels {is : List ι} {s s' : σ} (h : Chain R is s s')
    (Inv : List ι → σ → Prop) (hs : Inv [] s)
    (hstep : ∀ done i rest, is = done ++ i :: rest → ∀ a b, R i a b → Inv done a →
      Inv (done ++ [i]) b) : Inv is s' := by
  -- the induction is on the chain that is left, for any labels already passed
  have hgen : ∀ {rest : List ι} {a : σ}, Chain R rest a s' → ∀ done, is = done ++ rest →
      Inv done a → Inv is s' := by
    intro rest a hrest
    clear h
    induction hrest with
    | nil =>
        intro done hdone ha
        rw [hdone, List.append_nil]
        exact ha
    | cons hone _ ih =>
        intro done hdone ha
        have hnext := hstep done _ _ hdone _ _ hone ha
        exact ih (done ++ [_]) (by simpa using hdone) hnext
  exact hgen h [] rfl hs

end Chain

end Machine
