import Mathlib.Algebra.Order.Ring.Nat
import Mathlib.Data.List.Induction

/-!
# Code that may stop

Arithmetic on machine integers may leave its range, and an index may leave its slice.  Code that
checks both stops there: `Checked` is a result or the reason why there is none.  Each operation
comes with the lemma that says when it goes on.
-/

/-- Why code stops. -/
inductive Panic where
  | overflow
  | outOfBounds
  | assertion
  deriving DecidableEq, Repr

/-- A result, unless the code stops. -/
abbrev Checked (α : Type) := Except Panic α

namespace Checked

variable {α β : Type}

/-! ## Arithmetic -/

/-- A number that has to be below the limit. -/
def below (limit n : Nat) : Checked Nat := if n < limit then .ok n else .error .overflow

def usize (n : Nat) : Checked Nat := below (2 ^ 64) n

/-- Subtraction on unsigned numbers. -/
def natSub (a b : Nat) : Checked Nat := if b ≤ a then .ok (a - b) else .error .overflow

/-- A number that has to be an `i32`. -/
def i32 (n : Int) : Checked Int :=
  if -2 ^ 31 ≤ n ∧ n < 2 ^ 31 then .ok n else .error .overflow

def u32Add (a b : UInt32) : Checked UInt32 :=
  if a.toNat + b.toNat < 2 ^ 32 then .ok (a + b) else .error .overflow

def u32Sub (a b : UInt32) : Checked UInt32 :=
  if b ≤ a then .ok (a - b) else .error .overflow

/-- The distance of a shift is checked; what is shifted out is lost. -/
def u32Shl (a : UInt32) (n : Nat) : Checked UInt32 :=
  if n < 32 then .ok (a <<< UInt32.ofNat n) else .error .overflow

def i32Neg (a : Int32) : Checked Int32 :=
  if a = Int32.minValue then .error .overflow else .ok (-a)

def i32Sub (a b : Int32) : Checked Int32 :=
  if -2 ^ 31 ≤ a.toInt - b.toInt ∧ a.toInt - b.toInt < 2 ^ 31 then .ok (a - b)
  else .error .overflow

def i64Mul (a b : Int64) : Checked Int64 :=
  if -2 ^ 63 ≤ a.toInt * b.toInt ∧ a.toInt * b.toInt < 2 ^ 63 then .ok (a * b)
  else .error .overflow

/-- The least number has no quotient by -1. -/
def i64Div (a b : Int64) : Checked Int64 :=
  if b = 0 then .error .assertion
  else if a = Int64.minValue ∧ b = -1 then .error .overflow
  else .ok (a / b)

/-- `Ord::clamp`, which asserts that its bounds are in order. -/
def i32Clamp (value low high : Int32) : Checked Int32 :=
  if low ≤ high then .ok (if value < low then low else if high < value then high else value)
  else .error .assertion

@[simp] theorem bind_ok {ε : Type} (a : α) (f : α → Except ε β) : (Except.ok a >>= f) = f a := rfl

/-- A pure continuation cannot fail. -/
theorem isOk_bind_pure (c : Checked α) (f : α → β) : (c >>= fun a => pure (f a)).isOk = c.isOk := by
  cases c with
  | ok a => rfl
  | error why => rfl

/-- An index below 2^64 is one. -/
theorem usize_ok {n : Nat} (h : n < 2 ^ 64) : usize n = .ok n := if_pos h

/-- A difference that is not negative is exact. -/
theorem natSub_ok {a b : Nat} (h : b ≤ a) : natSub a b = .ok (a - b) := if_pos h

/-- A number in range is an `i32`. -/
theorem i32_ok {n : Int} (hlow : -2 ^ 31 ≤ n) (hhigh : n < 2 ^ 31) : i32 n = .ok n :=
  if_pos ⟨hlow, hhigh⟩

/-- A sum that fits is exact. -/
theorem u32Add_ok {a b : UInt32} (h : a.toNat + b.toNat < 2 ^ 32) : u32Add a b = .ok (a + b) :=
  if_pos h

/-- A difference that is not negative is exact, of words too. -/
theorem u32Sub_ok {a b : UInt32} (h : b ≤ a) : u32Sub a b = .ok (a - b) := if_pos h

/-- A shift by less than the width is defined. -/
theorem u32Shl_ok {n : Nat} (h : n < 32) (a : UInt32) :
    u32Shl a n = .ok (a <<< UInt32.ofNat n) :=
  if_pos h

/-- Every `i32` but the least has a negative. -/
theorem i32Neg_ok {a : Int32} (h : a ≠ Int32.minValue) : i32Neg a = .ok (-a) := if_neg h

/-- A difference in range is exact. -/
theorem i32Sub_ok {a b : Int32} (hlow : -2 ^ 31 ≤ a.toInt - b.toInt)
    (hhigh : a.toInt - b.toInt < 2 ^ 31) : i32Sub a b = .ok (a - b) :=
  if_pos ⟨hlow, hhigh⟩

/-- A product in range is exact. -/
theorem i64Mul_ok {a b : Int64} (hlow : -2 ^ 63 ≤ a.toInt * b.toInt)
    (hhigh : a.toInt * b.toInt < 2 ^ 63) : i64Mul a b = .ok (a * b) :=
  if_pos ⟨hlow, hhigh⟩

/-- Division is defined but for zero, and for the least number by -1. -/
theorem i64Div_ok {a b : Int64} (hzero : b ≠ 0) (hneg : b ≠ -1) : i64Div a b = .ok (a / b) := by
  rw [i64Div, if_neg hzero, if_neg fun h => hneg h.2]

/-- A clamp with bounds in order is the usual one. -/
theorem i32Clamp_ok {value low high : Int32} (h : low ≤ high) :
    i32Clamp value low high =
      .ok (if value < low then low else if high < value then high else value) :=
  if_pos h

/-! ## Slices -/

/-- An assertion of the code. -/
def require (p : Prop) [Decidable p] : Checked Unit := if p then .ok () else .error .assertion

def get (l : List α) (i : Nat) : Checked α :=
  match l[i]? with
  | some a => .ok a
  | none => .error .outOfBounds

def set (l : List α) (i : Nat) (a : α) : Checked (List α) :=
  if i < l.length then .ok (l.set i a) else .error .outOfBounds

/-- The slice from a place on. -/
def drop (l : List α) (start : Nat) : Checked (List α) :=
  if start ≤ l.length then .ok (l.drop start) else .error .outOfBounds

/-- The slice up to a place. -/
def take (l : List α) (stop : Nat) : Checked (List α) :=
  if stop ≤ l.length then .ok (l.take stop) else .error .outOfBounds

/-- What is required is there. -/
theorem require_ok {p : Prop} [Decidable p] (h : p) : require p = .ok () := if_pos h

/-- An index in range finds its entry. -/
theorem get_ok {l : List α} {i : Nat} (h : i < l.length) (d : α) : get l i = .ok (l.getD i d) := by
  simp [get, List.getD_eq_getElem?_getD, h]

/-- An index in range is replaced. -/
theorem set_ok {l : List α} {i : Nat} (h : i < l.length) (a : α) : set l i a = .ok (l.set i a) :=
  if_pos h

/-- A start in range leaves the rest. -/
theorem drop_ok {l : List α} {start : Nat} (h : start ≤ l.length) :
    drop l start = .ok (l.drop start) :=
  if_pos h

/-- A stop in range leaves what is before it. -/
theorem take_ok {l : List α} {stop : Nat} (h : stop ≤ l.length) : take l stop = .ok (l.take stop) :=
  if_pos h

/-- A loop whose steps all go on. -/
theorem mapM_ok {f : α → Checked β} {g : α → β} {l : List α} (h : ∀ a ∈ l, f a = .ok (g a)) :
    l.mapM f = .ok (l.map g) := by
  induction l with
  | nil => rfl
  | cons a l ih =>
      rw [List.mapM_cons, h a List.mem_cons_self, ih fun a ha => h a (List.mem_cons_of_mem _ ha)]
      rfl

/-- The same, where each step writes to a place of its own that it need not read. -/
theorem mapM_zip_ok {γ : Type} {f : γ × α → Checked β} {g : α → β} {places : List γ} {l : List α}
    (hplaces : l.length ≤ places.length)
    (h : ∀ place ∈ places, ∀ a ∈ l, f (place, a) = .ok (g a)) :
    (places.zip l).mapM f = .ok (l.map g) := by
  have hmap : l.map g = (places.zip l).map fun pair => g pair.2 := by
    conv_lhs => rw [← List.map_snd_zip hplaces, List.map_map]
    rfl
  rw [hmap]
  refine mapM_ok fun pair hpair => ?_
  exact h pair.1 (List.of_mem_zip hpair).1 pair.2 (List.of_mem_zip hpair).2

/-- A counted loop whose steps all go on. -/
theorem foldlM_range_ok {f : β → Nat → Checked β} {g : Nat → β} {n : Nat}
    (h : ∀ k < n, f (g k) k = .ok (g (k + 1))) : (List.range n).foldlM f (g 0) = .ok (g n) := by
  induction n with
  | zero => rfl
  | succ n ih =>
      rw [List.range_succ, List.foldlM_append, ih fun k hk => h k (Nat.lt_succ_of_lt hk), bind_ok,
        List.foldlM_cons, h n (Nat.lt_succ_self n)]
      rfl

/-! ## Runs -/

section Runs

variable {ε σ ι : Type} {step : σ → ι → Except ε σ} {s₀ s : σ} {before : List ι} {i : ι}

/-- A run with one more step. -/
theorem foldlM_snoc (h : (before ++ [i]).foldlM step s₀ = .ok s) :
    ∃ m, before.foldlM step s₀ = .ok m ∧ step m i = .ok s := by
  rw [List.foldlM_append] at h
  cases hbefore : before.foldlM step s₀ with
  | error why =>
      rw [hbefore] at h
      cases h
  | ok m =>
      rw [hbefore, bind_ok, List.foldlM_cons] at h
      cases hstep : step m i with
      | error why =>
          rw [hstep] at h
          cases h
      | ok s' =>
          rw [hstep] at h
          exact ⟨m, rfl, hstep.trans h⟩

/-- A loop with one more round, if none stopped. -/
theorem foldlM_snoc_ok {m : σ} (h : before.foldlM step s₀ = .ok m) (hstep : step m i = .ok s) :
    (before ++ [i]).foldlM step s₀ = .ok s := by
  rw [List.foldlM_append, h, bind_ok, List.foldlM_cons, hstep]
  rfl

/-- What every step keeps, every run keeps. -/
theorem foldlM_keep {Inv : σ → Prop} (hstart : Inv s₀)
    (hstep : ∀ s i s', Inv s → step s i = .ok s' → Inv s')
    (h : before.foldlM step s₀ = .ok s) : Inv s := by
  induction before using List.reverseRecOn generalizing s with
  | nil =>
      cases h
      exact hstart
  | append_singleton before i ih =>
      obtain ⟨m, hbefore, hlast⟩ := foldlM_snoc h
      exact hstep m i s (ih hbefore) hlast

/-- A property that exactly the bad steps lose holds all along a run exactly if none of its
steps is bad. -/
theorem foldlM_keep_iff {Inv P : σ → Prop} {Bad : σ → ι → Prop} {is : List ι}
    (hinv : Inv s₀) (hstart : P s₀) (hkeep : ∀ s i s', Inv s → step s i = .ok s' → Inv s')
    (hstep : ∀ s i s', Inv s → P s → step s i = .ok s' → (P s' ↔ ¬Bad s i))
    (hbad : ∀ s i, Inv s → Bad s i → ∃ s', step s i = .ok s') :
    (∀ before, before <+: is → ∀ s, before.foldlM step s₀ = .ok s → P s) ↔
      ∀ before i after, is = before ++ i :: after →
        ∀ s, before.foldlM step s₀ = .ok s → ¬Bad s i := by
  constructor
  · intro h before i after his s hs hlost
    have hs' : Inv s := foldlM_keep hinv hkeep hs
    have hpre : before <+: is := his ▸ List.prefix_append before (i :: after)
    have hnext : before ++ [i] <+: is := ⟨after, by rw [his, List.append_assoc]; rfl⟩
    obtain ⟨s', hone⟩ := hbad s i hs' hlost
    have hP : P s' := h _ hnext s' (foldlM_snoc_ok hs hone)
    exact (hstep s i s' hs' (h before hpre s hs) hone).mp hP hlost
  · intro h before
    -- one step longer at a time
    induction before using List.reverseRecOn with
    | nil =>
        intro _ s hs
        cases hs
        exact hstart
    | append_singleton before i ih =>
        intro hpre s hs
        obtain ⟨after, his⟩ := hpre
        obtain ⟨m, hbefore, hlast⟩ := foldlM_snoc hs
        have hsplit : is = before ++ i :: after := by rw [← his, List.append_assoc]; rfl
        have hpre' : before <+: is := hsplit ▸ List.prefix_append before (i :: after)
        exact (hstep m i s (foldlM_keep hinv hkeep hbefore) (ih hpre' m hbefore) hlast).mpr
          (h before i after hsplit m hbefore)

end Runs

end Checked
