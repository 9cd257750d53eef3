import Mathlib.Logic.Function.Basic
import Mathlib.Data.List.Induction

/-!
# Keyboards with locks

A keyboard is what its keys are found to be: held or not, and for the lock keys lit or not.
A stroke presses a key or releases it; a lock changes its light when it goes down, which a key
that is already down does not.

The rest is about setting a keyboard from outside, where only strokes can be sent: a pair of
keys that stand for one modifier (`holdEither`), and a lock (`light`).  `settle` does a list of
pairs and then a list of locks, and where no key is named twice it does to each key what it
would do alone.
-/

namespace Keyboard

/-- A key goes down, or up. -/
structure Stroke (K : Type) where
  key : K
  press : Bool
  deriving DecidableEq, Repr

/-- What a keyboard is found to be. -/
@[ext] structure Board (K : Type) where
  held : K → Bool
  lit : K → Bool

variable {K : Type} [DecidableEq K]

/-! ## What the last stroke of a key was -/

/-- The last stroke of a key, if it has had one. -/
def last (strokes : List (Stroke K)) (k : K) : Option Bool :=
  strokes.foldl (fun found s => if s.key = k then some s.press else found) none

/-- The last stroke of a key decides. -/
theorem last_append (strokes : List (Stroke K)) (s : Stroke K) (k : K) :
    last (strokes ++ [s]) k = if s.key = k then some s.press else last strokes k := by
  rw [last, List.foldl_append]
  rfl

namespace Board

variable (isLock : K → Bool)

def strike (b : Board K) (s : Stroke K) : Board K where
  held := Function.update b.held s.key s.press
  lit :=
    if isLock s.key && s.press && !b.held s.key then
      Function.update b.lit s.key (!b.lit s.key)
    else b.lit

/-- A stroke holds or releases its own key. -/
theorem strike_held (b : Board K) (s : Stroke K) (k : K) :
    (b.strike isLock s).held k = if k = s.key then s.press else b.held k :=
  Function.update_apply ..

/-- A stroke does not reach the light of another key. -/
theorem strike_lit_ne (b : Board K) {s : Stroke K} {k : K} (h : k ≠ s.key) :
    (b.strike isLock s).lit k = b.lit k := by
  unfold strike
  dsimp only
  split
  · exact Function.update_of_ne h ..
  · rfl

/-- A lock is toggled when it is pressed and was not held. -/
theorem strike_lit (b : Board K) (s : Stroke K) :
    (b.strike isLock s).lit s.key =
      (b.lit s.key ^^ (isLock s.key && s.press && !b.held s.key)) := by
  unfold strike
  dsimp only
  split
  next h => rw [h, Function.update_self, Bool.xor_true]
  next h => rw [Bool.eq_false_iff.mpr h, Bool.xor_false]

/-! ## One modifier -/

/-- Bring a pair of keys to hold a modifier, or not to. -/
def holdEither (b : Board K) (left right : K) (want : Bool) : Board K :=
  if want then
    if !b.held left && !b.held right then b.strike isLock ⟨left, true⟩ else b
  else
    (b.strike isLock ⟨left, false⟩).strike isLock ⟨right, false⟩

variable {left right k : K} {want : Bool} (b : Board K)

/-- The other keys are as they were. -/
theorem holdEither_ne (hleft : k ≠ left) (hright : k ≠ right) :
    (b.holdEither isLock left right want).held k = b.held k ∧
      (b.holdEither isLock left right want).lit k = b.lit k := by
  unfold holdEither
  split
  · split
    · exact ⟨(strike_held ..).trans (if_neg hleft), strike_lit_ne _ _ hleft⟩
    · exact ⟨rfl, rfl⟩
  · rw [strike_held, if_neg hright, strike_held, if_neg hleft, strike_lit_ne _ _ hright,
      strike_lit_ne _ _ hleft]
    exact ⟨rfl, rfl⟩

/-- The left key is pressed if neither was held. -/
theorem holdEither_left (hne : left ≠ right) :
    (b.holdEither isLock left right want).held left =
      (want && (b.held left || !b.held right)) := by
  unfold holdEither
  cases want with
  | false =>
      rw [if_neg nofun, strike_held, if_neg hne, strike_held, if_pos rfl]
      rfl
  | true =>
      rw [if_pos rfl]
      split
      next h =>
        rw [strike_held, if_pos rfl]
        cases hr : b.held right <;> simp_all
      next h => cases hl : b.held left <;> simp_all

/-- The right key is never pressed. -/
theorem holdEither_right (hne : left ≠ right) :
    (b.holdEither isLock left right want).held right = (want && b.held right) := by
  unfold holdEither
  cases want with
  | false =>
      rw [if_neg nofun, strike_held, if_pos rfl]
      rfl
  | true =>
      rw [if_pos rfl]
      split
      next => exact (strike_held ..).trans (if_neg hne.symm)
      next => rfl

/-! ## One lock -/

/-- Bring the light of a lock to a state, by a tap if it has the other one. -/
def light (b : Board K) (lock : K) (want : Bool) : Board K :=
  if b.lit lock ≠ want then
    (b.strike isLock ⟨lock, true⟩).strike isLock ⟨lock, false⟩
  else b

variable {lock : K}

/-- Every other key is as it was. -/
theorem light_ne (h : k ≠ lock) :
    (b.light isLock lock want).held k = b.held k ∧
      (b.light isLock lock want).lit k = b.lit k := by
  unfold light
  split
  · rw [strike_held, if_neg h, strike_held, if_neg h, strike_lit_ne _ _ h, strike_lit_ne _ _ h]
    exact ⟨rfl, rfl⟩
  · exact ⟨rfl, rfl⟩

/-- A lock that is held does not see the tap. -/
theorem light_lit (hlock : isLock lock = true) :
    (b.light isLock lock want).lit lock = if b.held lock then b.lit lock else want := by
  unfold light
  split
  next hother =>
    have hup := strike_lit isLock (b.strike isLock ⟨lock, true⟩) ⟨lock, false⟩
    have hdown := strike_lit isLock b ⟨lock, true⟩
    dsimp only at hup hdown
    rw [hup, hdown, hlock]
    cases hheld : b.held lock with
    | true => simp
    | false =>
        cases hlit : b.lit lock <;> cases want <;> simp_all
  next hsame =>
    rw [not_not.mp hsame, ite_self]

/-- The tap leaves the lock released. -/
theorem light_held :
    (b.light isLock lock want).held lock = (b.held lock && b.lit lock == want) := by
  unfold light
  split
  next hother =>
    rw [strike_held, if_pos rfl, beq_false_of_ne hother, Bool.and_false]
  next hsame =>
    rw [not_not.mp hsame, BEq.rfl, Bool.and_true]

/-! ## All of them -/

/-- A pair of keys, and whether its modifier is wanted. -/
structure Wish (K : Type) where
  left : K
  right : K
  want : Bool
  deriving DecidableEq, Repr

def Wish.apart (w : Wish K) (k : K) : Prop := k ≠ w.left ∧ k ≠ w.right

/-- The modifiers one after the other, and then the locks. -/
def settle (b : Board K) (pairs : List (Wish K)) (locks : List (K × Bool)) : Board K :=
  locks.foldl (fun b l => b.light isLock l.1 l.2)
    (pairs.foldl (fun b w => b.holdEither isLock w.left w.right w.want) b)

omit [DecidableEq K] in
/-- A key that no step reaches is left as it is. -/
theorem foldl_frame {α : Type} {f : Board K → α → Board K} {l : List α} {k : K}
    (hf : ∀ a ∈ l, ∀ b : Board K, (f b a).held k = b.held k ∧ (f b a).lit k = b.lit k)
    (b : Board K) : (l.foldl f b).held k = b.held k ∧ (l.foldl f b).lit k = b.lit k := by
  induction l generalizing b with
  | nil => exact ⟨rfl, rfl⟩
  | cons a rest ih =>
      obtain ⟨hheld, hlit⟩ := hf a List.mem_cons_self b
      obtain ⟨hheld', hlit'⟩ := ih (fun c hc => hf c (List.mem_cons_of_mem a hc)) (f b a)
      exact ⟨hheld'.trans hheld, hlit'.trans hlit⟩

variable (pairs : List (Wish K)) (locks : List (K × Bool))

/-- Keys apart from the pairs are as they were. -/
theorem foldl_pairs_ne (hk : ∀ w ∈ pairs, w.apart k) :
    (pairs.foldl (fun b w => b.holdEither isLock w.left w.right w.want) b).held k = b.held k ∧
      (pairs.foldl (fun b w => b.holdEither isLock w.left w.right w.want) b).lit k =
        b.lit k :=
  foldl_frame (fun w hw b => holdEither_ne isLock b (hk w hw).1 (hk w hw).2) b

/-- Keys other than the locks are as they were. -/
theorem foldl_locks_ne (hk : ∀ l ∈ locks, k ≠ l.1) :
    (locks.foldl (fun b l => b.light isLock l.1 l.2) b).held k = b.held k ∧
      (locks.foldl (fun b l => b.light isLock l.1 l.2) b).lit k = b.lit k :=
  foldl_frame (fun l hl b => light_ne isLock b (hk l hl)) b

/-- The keys that are named. -/
def named : List K := pairs.flatMap (fun w => [w.left, w.right]) ++ locks.map Prod.fst

variable {pairs locks}

omit [DecidableEq K] in
/-- A key that is not named stands apart from every pair and every lock. -/
theorem apart_of_not_named (h : k ∉ named pairs locks) :
    (∀ w ∈ pairs, w.apart k) ∧ ∀ l ∈ locks, k ≠ l.1 := by
  simp only [named, List.mem_append, List.mem_flatMap, List.mem_map, not_or, not_exists,
    not_and] at h
  obtain ⟨hpairs, hlocks⟩ := h
  constructor
  · intro w hw
    have hno := hpairs w hw
    rw [List.mem_cons, List.mem_singleton, not_or] at hno
    exact hno
  · intro l hl heq
    exact hlocks l hl heq.symm

/-- A key that is not named stays as it is. -/
theorem settle_ne (h : k ∉ named pairs locks) :
    (b.settle isLock pairs locks).held k = b.held k ∧
      (b.settle isLock pairs locks).lit k = b.lit k := by
  obtain ⟨hpairs, hlocks⟩ := apart_of_not_named h
  obtain ⟨hheld, hlit⟩ := foldl_pairs_ne isLock b pairs hpairs
  obtain ⟨hheld', hlit'⟩ := foldl_locks_ne isLock
    (pairs.foldl (fun b w => b.holdEither isLock w.left w.right w.want) b) locks hlocks
  exact ⟨hheld'.trans hheld, hlit'.trans hlit⟩

/-- A modifier ends up as it is wanted: a key that already holds it goes on holding it, and
otherwise the left one does. -/
theorem settle_pair (hnodup : (named pairs locks).Nodup) {w : Wish K} (hw : w ∈ pairs) :
    (b.settle isLock pairs locks).held w.left =
        (w.want && (b.held w.left || !b.held w.right)) ∧
      (b.settle isLock pairs locks).held w.right = (w.want && b.held w.right) := by
  obtain ⟨before, after, rfl⟩ := List.append_of_mem hw
  have hperm : (named (before ++ w :: after) locks).Perm
      (w.left :: w.right :: (named before [] ++ named after locks)) := by
    simp only [named, List.flatMap_append, List.flatMap_cons, List.map_nil, List.append_nil]
    rw [List.append_assoc, List.append_assoc]
    exact List.perm_append_comm_assoc ..
  have hsplit := hperm.nodup_iff.mp hnodup
  rw [List.nodup_cons, List.nodup_cons, List.mem_cons, not_or, List.mem_append,
    List.mem_append, not_or, not_or] at hsplit
  obtain ⟨⟨hne, hleft, hleft'⟩, ⟨hright, hright'⟩, -⟩ := hsplit
  have hl := fun b => (foldl_pairs_ne isLock b before (apart_of_not_named hleft).1).1
  have hr := fun b => (foldl_pairs_ne isLock b before (apart_of_not_named hright).1).1
  obtain ⟨hal, hll⟩ := apart_of_not_named hleft'
  obtain ⟨har, hlr⟩ := apart_of_not_named hright'
  unfold settle
  rw [(foldl_locks_ne isLock _ locks hll).1, (foldl_locks_ne isLock _ locks hlr).1,
    List.foldl_append, List.foldl_cons, (foldl_pairs_ne isLock _ after hal).1,
    (foldl_pairs_ne isLock _ after har).1, holdEither_left _ _ hne, holdEither_right _ _ hne,
    hl, hr]
  exact ⟨rfl, rfl⟩

/-- A lock gets the light that is wanted, unless it is held down. -/
theorem settle_lock (hnodup : (named pairs locks).Nodup) {l : K × Bool} (hl : l ∈ locks)
    (hlock : isLock l.1 = true) :
    (b.settle isLock pairs locks).lit l.1 = (if b.held l.1 then b.lit l.1 else l.2) ∧
      (b.settle isLock pairs locks).held l.1 = (b.held l.1 && b.lit l.1 == l.2) := by
  obtain ⟨before, after, rfl⟩ := List.append_of_mem hl
  have hperm : (named pairs (before ++ l :: after)).Perm
      (l.1 :: (named pairs before ++ named [] after)) := by
    simp only [named, List.map_append, List.map_cons, List.flatMap_nil, List.nil_append]
    rw [← List.append_assoc]
    exact List.perm_middle
  have hsplit := hperm.nodup_iff.mp hnodup
  rw [List.nodup_cons, List.mem_append, not_or] at hsplit
  obtain ⟨⟨hbefore, hafter⟩, -⟩ := hsplit
  obtain ⟨hpairs, hbefore⟩ := apart_of_not_named hbefore
  obtain ⟨hheld, hlit⟩ := foldl_pairs_ne isLock b pairs hpairs
  obtain ⟨hheld', hlit'⟩ := foldl_locks_ne isLock
    (pairs.foldl (fun b w => b.holdEither isLock w.left w.right w.want) b) before hbefore
  have hrest := fun b => foldl_locks_ne isLock b after (apart_of_not_named hafter).2
  unfold settle
  rw [List.foldl_append, List.foldl_cons, (hrest _).1, (hrest _).2, light_lit _ _ hlock,
    light_held, hheld', hlit', hheld, hlit]
  exact ⟨rfl, rfl⟩

end Board

end Keyboard
