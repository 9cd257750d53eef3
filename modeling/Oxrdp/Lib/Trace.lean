import Oxrdp.Lib.Effect
import Mathlib.Order.Basic

/-!
# What a computation went through

A computation is given a **trace** by a function from the state it starts in: what is worth
noting of its run.  The trace of a loop is made of the traces of its turns (`traced`).

`Traces` is an invariant that may speak of the trace so far, and not only of the state: a turn
that keeps it adds its own trace to what was noted before.  A computation that stops leaves a
trace too, of which something else may hold.

`Rises` says that some part of the state never goes down.
-/

namespace Effect

variable {ε σ α β τ : Type}

/-! ## Traces -/

/-- What is noted of a loop: the traces of its turns, each from the state the turn starts
in. -/
def traced (t : α → σ → List τ) (f : α → EStateM ε σ PUnit) : List α → σ → List τ
  | [], _ => []
  | a :: rest, s =>
      t a s ++
        match (f a).run s with
        | .ok _ s' => traced t f rest s'
        | .error _ _ => []

/-- `x`, whose trace is `t`, keeps an invariant of trace and state, or stops with `X`. -/
def Traces (K : List τ → σ → Prop) (t : σ → List τ) (x : EStateM ε σ α)
    (X : List τ → σ → Prop) : Prop :=
  ∀ before s, K before s →
    match x.run s with
    | .ok _ s' => K (before ++ t s) s'
    | .error _ s' => X (before ++ t s) s'

section Rules

variable {K : List τ → σ → Prop} {X : List τ → σ → Prop}

/-- Of a computation that notes nothing it is enough to know the state. -/
theorem traces_silent {x : EStateM ε σ α}
    (h : ∀ before, Triple (K before) x (fun _ => K before) fun _ => X before) :
    Traces K (fun _ => []) x X := by
  intro before s hs
  rw [List.append_nil]
  exact h before s hs

/-- A loop all of whose turns keep the invariant. -/
theorem traces_forM {t : α → σ → List τ} {f : α → EStateM ε σ PUnit}
    (h : ∀ a, Traces K (t a) (f a) X) (l : List α) :
    Traces K (traced t f l) (l.forM f) X := by
  induction l with
  | nil =>
      intro before s hs
      rw [traced, List.append_nil]
      exact hs
  | cons a rest ih =>
      intro before s hs
      have hone := h a before s hs
      have hforM : ((a :: rest).forM f).run s = EStateM.bind (f a) (fun _ => rest.forM f) s := rfl
      rw [hforM, traced, EStateM.run]
      rw [EStateM.run] at hone
      unfold EStateM.bind
      cases hrun : f a s with
      | ok u s' =>
          rw [hrun] at hone
          have hrest := ih (before ++ t a s) s' hone
          rw [List.append_assoc] at hrest
          exact hrest
      | error e s' =>
          rw [hrun] at hone
          rw [List.append_nil]
          exact hone

/-- The elements whose turns were noted, each with its state, are the first ones of the
loop. -/
theorem traced_fst (f : α → EStateM ε σ PUnit) (l : List α) (s : σ) :
    (traced (fun a s => [(a, s)]) f l s).map Prod.fst <+: l := by
  induction l generalizing s with
  | nil => exact List.prefix_rfl
  | cons a rest ih =>
      rw [traced, List.map_append]
      cases (f a).run s with
      | ok u s' => exact List.prefix_cons_inj a |>.mpr (ih s')
      | error e s' => exact List.prefix_cons_inj a |>.mpr List.nil_prefix

end Rules

/-! ## What never goes down -/

section Rises

variable {γ : Type} [Preorder γ] {f : σ → γ}

/-- However `x` ends, `f` of the state is no less than it was. -/
def Rises (f : σ → γ) (x : EStateM ε σ α) : Prop :=
  ∀ c, Triple (fun s => c ≤ f s) x (fun _ s => c ≤ f s) fun _ s => c ≤ f s

/-- An effect that does nothing lowers nothing. -/
theorem rises_pure (a : α) : Rises (ε := ε) f (pure a) :=
  fun _ => triple_pure fun _ hs => hs

/-- Throwing an error lowers nothing. -/
theorem rises_throw (e : ε) : Rises f (throw e : EStateM ε σ α) :=
  fun _ => triple_throw fun _ hs => hs

/-- A modification raises what it does not lower. -/
theorem rises_modify {g : σ → σ} (h : ∀ s, f s ≤ f (g s)) :
    Rises f (modify g : EStateM ε σ PUnit) :=
  fun _ => triple_modify fun s hs => hs.trans (h s)

/-- What is kept is not lowered. -/
theorem Keeps.rises {x : EStateM ε σ α} (h : Keeps f x) : Rises f x := by
  intro c s hs
  refine (h (f s)).conseq (fun _ h => h) (fun _ s' hs' => ?_) (fun _ s' hs' => ?_) s rfl
  · exact hs'.symm ▸ hs
  · exact hs'.symm ▸ hs

/-- Two effects in turn lower nothing if neither does. -/
theorem Rises.bind {x : EStateM ε σ α} {g : α → EStateM ε σ β} (hx : Rises f x)
    (hg : ∀ a, Rises f (g a)) : Rises f (x >>= g) :=
  fun c => (hx c).bind fun a => hg a c

/-- A computation that looks at its state need only not go below the state it saw. -/
theorem rises_looking {g : σ → EStateM ε σ β}
    (h : ∀ s, match (g s).run s with
      | .ok _ s' => f s ≤ f s'
      | .error _ s' => f s ≤ f s') :
    Rises f (get >>= g) := by
  intro c s hs
  have hg := h s
  change match (g s).run s with
    | .ok _ s' => c ≤ f s'
    | .error _ s' => c ≤ f s'
  cases hrun : (g s).run s with
  | ok b s' =>
      rw [hrun] at hg
      exact hs.trans hg
  | error e s' =>
      rw [hrun] at hg
      exact hs.trans hg

/-- A choice lowers nothing if neither branch does. -/
theorem rises_ite {p : Prop} [Decidable p] {x y : EStateM ε σ α} (hx : Rises f x)
    (hy : Rises f y) : Rises f (if p then x else y) := by
  split
  · exact hx
  · exact hy

/-- A loop lowers nothing if its body does not. -/
theorem rises_forM {g : α → EStateM ε σ PUnit} {l : List α} (h : ∀ a, Rises f (g a)) :
    Rises f (l.forM g) :=
  fun c => triple_forM_keep fun a _ => h a c

end Rises

end Effect
