import Mathlib.Logic.Basic

/-!
# Reasoning about computations that keep their state when they fail

`EStateM ε σ` computations return a value or throw, and leave a state behind
in both cases.  A **triple** says what holds of the state after either exit.
Sequencing, loops over lists and case splits compose triples, so that a
property of a long computation is the list of the properties of its steps.
-/

namespace Effect

variable {ε σ α β : Type}

/-- From a state with `P`, `x` returns with `Q` or throws with `E`. -/
def Triple (P : σ → Prop) (x : EStateM ε σ α) (Q : α → σ → Prop) (E : ε → σ → Prop) :
    Prop :=
  ∀ s, P s →
    match x.run s with
    | .ok a s' => Q a s'
    | .error e s' => E e s'

section Rules

variable {P : σ → Prop} {E : ε → σ → Prop}

/-- Returning changes no state. -/
theorem triple_pure {a : α} {Q : α → σ → Prop} (h : ∀ s, P s → Q a s) :
    Triple P (pure a : EStateM ε σ α) Q E :=
  fun s hs => h s hs

/-- Throwing ends with the exception. -/
theorem triple_throw {e : ε} {Q : α → σ → Prop} (h : ∀ s, P s → E e s) :
    Triple P (throw e : EStateM ε σ α) Q E :=
  fun s hs => h s hs

/-- Reading returns the state. -/
theorem triple_get {Q : σ → σ → Prop} (h : ∀ s, P s → Q s s) :
    Triple P (get : EStateM ε σ σ) Q E :=
  fun s hs => h s hs

/-- Writing replaces it. -/
theorem triple_set {s' : σ} {Q : PUnit → σ → Prop} (h : ∀ s, P s → Q ⟨⟩ s') :
    Triple P (set s' : EStateM ε σ PUnit) Q E :=
  fun s hs => h s hs

/-- Modifying applies the function. -/
theorem triple_modify {f : σ → σ} {Q : PUnit → σ → Prop} (h : ∀ s, P s → Q ⟨⟩ (f s)) :
    Triple P (modify f : EStateM ε σ PUnit) Q E :=
  fun s hs => h s hs

/-- What a triple says of a run that returned. -/
theorem Triple.of_ok {x : EStateM ε σ α} {Q : α → σ → Prop} (h : Triple P x Q E) {s s' : σ} {a : α}
    (hs : P s) (hrun : x.run s = .ok a s') : Q a s' := by
  have hx := h s hs
  rw [hrun] at hx
  exact hx

/-- What a triple says of a run that stopped. -/
theorem Triple.of_error {x : EStateM ε σ α} {Q : α → σ → Prop} (h : Triple P x Q E) {s s' : σ}
    {e : ε} (hs : P s) (hrun : x.run s = .error e s') : E e s' := by
  have hx := h s hs
  rw [hrun] at hx
  exact hx

/-- The second half starts where the first one returned. -/
theorem Triple.bind {x : EStateM ε σ α} {f : α → EStateM ε σ β} {R : α → σ → Prop}
    {Q : β → σ → Prop} (hx : Triple P x R E) (hf : ∀ a, Triple (R a) (f a) Q E) :
    Triple P (x >>= f) Q E := by
  intro s hs
  have h := hx s hs
  change match EStateM.bind x f s with
    | .ok a s' => Q a s'
    | .error e s' => E e s'
  unfold EStateM.bind
  cases hrun : x s with
  | ok a s' =>
      rw [EStateM.run, hrun] at h
      exact hf a s' h
  | error e s' =>
      rw [EStateM.run, hrun] at h
      exact h

/-- A sequence that returned went through the return of its first half. -/
theorem run_bind_ok {x : EStateM ε σ α} {f : α → EStateM ε σ β} {s s'' : σ} {b : β}
    (h : (x >>= f).run s = .ok b s'') :
    ∃ a s', x.run s = .ok a s' ∧ (f a).run s' = .ok b s'' := by
  change EStateM.bind x f s = .ok b s'' at h
  unfold EStateM.bind at h
  cases hrun : x s with
  | ok a s' =>
      rw [hrun] at h
      exact ⟨a, s', hrun, h⟩
  | error e s' =>
      rw [hrun] at h
      cases h

/-- **Consequence.** A stronger precondition and weaker outcomes. -/
theorem Triple.conseq {P' : σ → Prop} {Q Q' : α → σ → Prop} {E' : ε → σ → Prop}
    {x : EStateM ε σ α} (h : Triple P' x Q' E') (hpre : ∀ s, P s → P' s)
    (hpost : ∀ a s, Q' a s → Q a s) (hexc : ∀ e s, E' e s → E e s) :
    Triple P x Q E := by
  intro s hs
  have h' := h s (hpre s hs)
  cases hrun : x.run s with
  | ok a s' =>
      rw [hrun] at h'
      exact hpost a s' h'
  | error e s' =>
      rw [hrun] at h'
      exact hexc e s' h'

/-- Two things that hold after the same computation hold together. -/
theorem Triple.and {P' : σ → Prop} {Q Q' : α → σ → Prop} {E' : ε → σ → Prop}
    {x : EStateM ε σ α} (h : Triple P x Q E) (h' : Triple P' x Q' E') :
    Triple (fun s => P s ∧ P' s) x (fun a s => Q a s ∧ Q' a s) (fun e s => E e s ∧ E' e s) := by
  intro s hs
  have hx := h s hs.1
  have hx' := h' s hs.2
  cases hrun : x.run s with
  | ok a s' =>
      rw [hrun] at hx hx'
      exact ⟨hx, hx'⟩
  | error e s' =>
      rw [hrun] at hx hx'
      exact ⟨hx, hx'⟩

/-- A fact that does not mention the state may be assumed outside. -/
theorem triple_of_fact {p : Prop} {x : EStateM ε σ α} {Q : α → σ → Prop}
    (h : p → Triple P x Q E) : Triple (fun s => p ∧ P s) x Q E :=
  fun s hs => h hs.1 s hs.2

/-- A fact that does not mention the state holds wherever the computation ends. -/
theorem Triple.with_fact {p : Prop} {x : EStateM ε σ α} {Q : α → σ → Prop} (h : Triple P x Q E) :
    Triple (fun s => P s ∧ p) x (fun a s => Q a s ∧ p) fun _ _ => p := by
  intro s hs
  cases hrun : x.run s with
  | ok a s' => exact ⟨h.of_ok hs.1 hrun, hs.2⟩
  | error e s' => exact hs.2

/-- A loop whose invariant may speak of the elements already handled. -/
theorem triple_forM {f : α → EStateM ε σ PUnit} (I : List α → σ → Prop) (l : List α)
    (h : ∀ done a rest, l = done ++ a :: rest →
      Triple (I done) (f a) (fun _ => I (done ++ [a])) E) :
    Triple (I []) (l.forM f) (fun _ => I l) E := by
  -- the induction is on what is left, for any part already handled
  have hgen : ∀ rest done, l = done ++ rest →
      Triple (I done) (rest.forM f) (fun _ => I l) E := by
    intro rest
    induction rest with
    | nil =>
        intro done hl
        rw [List.append_nil] at hl
        subst hl
        exact triple_pure fun s hs => hs
    | cons a rest ih =>
        intro done hl
        have hnext : l = (done ++ [a]) ++ rest := by simpa using hl
        exact (h done a rest hl).bind fun _ => ih (done ++ [a]) hnext
  exact hgen l [] rfl

/-- A loop that keeps an invariant. -/
theorem triple_forM_keep {f : α → EStateM ε σ PUnit} {I : σ → Prop} {l : List α}
    (h : ∀ a ∈ l, Triple I (f a) (fun _ => I) E) :
    Triple I (l.forM f) (fun _ => I) E := by
  refine triple_forM (fun _ => I) l ?_
  intro done a rest hl
  exact h a (by simp [hl])

/-- Whether `p` holds along a loop: of each element and the state it is handled in. -/
def along (p : α → σ → Bool) (f : α → EStateM ε σ PUnit) : List α → σ → Bool
  | [], _ => true
  | a :: rest, s =>
      p a s &&
        match (f a).run s with
        | .ok _ s' => along p f rest s'
        | .error _ _ => true

/-- A loop that keeps an invariant as long as `p` holds along it. -/
theorem triple_forM_along {p : α → σ → Bool} {f : α → EStateM ε σ PUnit} {I : σ → Prop}
    {l : List α} (h : ∀ a, Triple (fun s => p a s = true ∧ I s) (f a) (fun _ => I) E) :
    Triple (fun s => along p f l s = true ∧ I s) (l.forM f) (fun _ => I) E := by
  induction l with
  | nil => exact triple_pure fun s hs => hs.2
  | cons a rest ih =>
      refine Triple.bind (R := fun _ s => along p f rest s = true ∧ I s) ?_ fun _ => ih
      intro s hs
      obtain ⟨hall, hs⟩ := hs
      rw [along, Bool.and_eq_true] at hall
      obtain ⟨hone, hrest⟩ := hall
      have hstep := h a s ⟨hone, hs⟩
      cases hrun : (f a).run s with
      | ok u s' =>
          rw [hrun] at hstep hrest
          exact ⟨hrest, hstep⟩
      | error e s' =>
          rw [hrun] at hstep
          exact hstep

/-- A condition that always holds holds along every run. -/
theorem along_true (f : α → EStateM ε σ PUnit) (l : List α) (s : σ) :
    along (fun _ _ => true) f l s = true := by
  induction l generalizing s with
  | nil => rfl
  | cons a rest ih =>
      rw [along, Bool.true_and]
      cases (f a).run s with
      | ok u s' => exact ih s'
      | error e s' => rfl

end Rules

/-! ## What a computation leaves alone -/

section Keeps

variable {γ : Type} {f : σ → γ}

/-- However `x` ends, `f` of the state is what it was. -/
def Keeps (f : σ → γ) (x : EStateM ε σ α) : Prop :=
  ∀ c, Triple (fun s => f s = c) x (fun _ s => f s = c) (fun _ s => f s = c)

theorem keeps_pure (a : α) : Keeps (ε := ε) f (pure a) :=
  fun _ => triple_pure fun _ hs => hs

/-- Throwing keeps any view of the state. -/
theorem keeps_throw (e : ε) : Keeps f (throw e : EStateM ε σ α) :=
  fun _ => triple_throw fun _ hs => hs

theorem keeps_get : Keeps f (get : EStateM ε σ σ) :=
  fun _ => triple_get fun _ hs => hs

/-- A change that the view does not show keeps it. -/
theorem keeps_modify {g : σ → σ} (h : ∀ s, f (g s) = f s) :
    Keeps f (modify g : EStateM ε σ PUnit) :=
  fun _ => triple_modify fun s hs => (h s).trans hs

/-- Keeping the whole keeps its parts. -/
theorem Keeps.part {δ : Type} {x : EStateM ε σ α} (h : Keeps f x) (g : γ → δ) :
    Keeps (fun s => g (f s)) x := by
  intro c s hs
  refine (h (f s)).conseq (fun _ h => h) (fun _ s' hs' => ?_) (fun _ s' hs' => ?_) s rfl
  · exact (congrArg g hs').trans hs
  · exact (congrArg g hs').trans hs

/-- **Sequence.** A view that both parts keep is kept. -/
theorem Keeps.bind {x : EStateM ε σ α} {g : α → EStateM ε σ β} (hx : Keeps f x)
    (hg : ∀ a, Keeps f (g a)) : Keeps f (x >>= g) :=
  fun c => (hx c).bind fun a => hg a c

/-- A computation that looks at its state need only keep `f` of the state it saw. -/
theorem keeps_looking {g : σ → EStateM ε σ β}
    (h : ∀ s, match (g s).run s with
      | .ok _ s' => f s' = f s
      | .error _ s' => f s' = f s) :
    Keeps f (get >>= g) := by
  intro c s hs
  have hg := h s
  change match (g s).run s with
    | .ok _ s' => f s' = c
    | .error _ s' => f s' = c
  rw [← hs]
  exact hg

/-- A choice keeps what both branches keep. -/
theorem keeps_ite {p : Prop} [Decidable p] {x y : EStateM ε σ α} (hx : Keeps f x)
    (hy : Keeps f y) : Keeps f (if p then x else y) := by
  split
  · exact hx
  · exact hy

/-- A loop keeps what its body keeps. -/
theorem keeps_forM {g : α → EStateM ε σ PUnit} {l : List α} (h : ∀ a, Keeps f (g a)) :
    Keeps f (l.forM g) :=
  fun c => triple_forM_keep fun a _ => h a c

end Keeps

/-! ## Computations over two kinds of state -/

section Follows

variable {τ : Type} {φ : σ → τ}

/-- The same exit, in the state that `φ` makes of the one left behind. -/
def Exit.map (φ : σ → τ) : EStateM.Result ε σ α → EStateM.Result ε τ α
  | .ok a s => .ok a (φ s)
  | .error e s => .error e (φ s)

/-- `y` does on the state that `φ` makes of `s` what `x` does on `s`. -/
def Follows (φ : σ → τ) (x : EStateM ε σ α) (y : EStateM ε τ α) : Prop :=
  ∀ s, y.run (φ s) = Exit.map φ (x.run s)

theorem follows_pure (a : α) : Follows (ε := ε) φ (pure a) (pure a) :=
  fun _ => rfl

/-- Both throw the same. -/
theorem follows_throw (e : ε) : Follows φ (throw e : EStateM ε σ α) (throw e) :=
  fun _ => rfl

theorem follows_set (s : σ) : Follows (ε := ε) φ (set s) (set (φ s)) :=
  fun _ => rfl

/-- A change that is followed by one of the view. -/
theorem follows_modify {f : σ → σ} {g : τ → τ} (h : ∀ s, g (φ s) = φ (f s)) :
    Follows (ε := ε) φ (modify f) (modify g) := by
  intro s
  change EStateM.Result.ok PUnit.unit (g (φ s)) = _
  rw [h]
  rfl

/-- **Sequence.** What follows in both parts follows in all. -/
theorem Follows.bind {x : EStateM ε σ α} {y : EStateM ε τ α} {f : α → EStateM ε σ β}
    {g : α → EStateM ε τ β} (hx : Follows φ x y) (hf : ∀ a, Follows φ (f a) (g a)) :
    Follows φ (x >>= f) (y >>= g) := by
  intro s
  have h := hx s
  change EStateM.bind y g (φ s) = Exit.map φ (EStateM.bind x f s)
  rw [EStateM.run, EStateM.run] at h
  unfold EStateM.bind
  rw [h]
  cases x s with
  | ok a s' => exact hf a s'
  | error e s' => rfl

/-- A computation that looks at its state follows if it does so for every state it may
see. -/
theorem follows_get {f : σ → EStateM ε σ β} {g : τ → EStateM ε τ β}
    (h : ∀ s, Follows φ (f s) (g (φ s))) : Follows φ (get >>= f) (get >>= g) :=
  fun s => h s s

/-- Both take the same branch. -/
theorem follows_ite {p : Prop} [Decidable p] {x x' : EStateM ε σ α} {y y' : EStateM ε τ α}
    (h : Follows φ x y) (h' : Follows φ x' y') :
    Follows φ (if p then x else x') (if p then y else y') := by
  split
  · exact h
  · exact h'

/-- A loop follows as its body does. -/
theorem follows_forM {f : α → EStateM ε σ PUnit} {g : α → EStateM ε τ PUnit}
    (h : ∀ a, Follows φ (f a) (g a)) (l : List α) : Follows φ (l.forM f) (l.forM g) := by
  induction l with
  | nil => exact follows_pure _
  | cons a rest ih => exact (h a).bind fun _ => ih

end Follows

end Effect
