import Mathlib.Data.Nat.Bitwise
import Mathlib.Data.Nat.Log
import Mathlib.Tactic.Ring

/-!
# Exponential-Golomb codes

A number is coded as the bits of its successor, the highest first, behind one zero for every
bit but the highest.  Integers are numbered by going back and forth between both signs.
-/

namespace ExpGolomb

/-- The `n` low bits of a number, the highest first. -/
def fixed : Nat → Nat → List Bool
  | 0, _ => []
  | n + 1, v => v.testBit n :: fixed n v

/-- How many zeros stand in front of the code of a number. -/
def zeros (v : Nat) : Nat := Nat.log2 (v + 1)

/-- The code of a number. -/
def ue (v : Nat) : List Bool := List.replicate (zeros v) false ++ fixed (zeros v + 1) (v + 1)

/-- The number of an integer: 0, 1, -1, 2, -2 and so on. -/
def index (i : Int) : Nat := if i ≤ 0 then (-2 * i).toNat else (2 * i - 1).toNat

/-- The code of an integer. -/
def se (i : Int) : List Bool := ue (index i)

@[simp] theorem length_fixed (n v : Nat) : (fixed n v).length = n := by
  induction n with
  | zero => rfl
  | succ n ih => simp [fixed, ih]

theorem getElem?_fixed {n k : Nat} (h : k < n) (v : Nat) :
    (fixed n v)[k]? = some (v.testBit (n - 1 - k)) := by
  induction n generalizing k with
  | zero => omega
  | succ n ih =>
      cases k with
      | zero => rfl
      | succ k =>
          rw [fixed, List.getElem?_cons_succ, ih (by omega)]
          congr 2
          omega

/-- One bit more of a number. -/
theorem mod_two_pow_succ_testBit (n v : Nat) :
    v % 2 ^ (n + 1) = (v.testBit n).toNat * 2 ^ n + v % 2 ^ n := by
  rw [Nat.pow_succ, Nat.mod_mul, Nat.toNat_testBit, Nat.mul_comm, Nat.add_comm]

/-- The successor of a number lies between the powers that its zeros count. -/
theorem zeros_spec (v : Nat) : 2 ^ zeros v ≤ v + 1 ∧ v + 1 < 2 ^ (zeros v + 1) :=
  ⟨Nat.log2_self_le (Nat.succ_ne_zero v), Nat.lt_log2_self⟩

/-- What is behind the highest bit. -/
theorem mod_zeros (v : Nat) : (v + 1) % 2 ^ zeros v + 2 ^ zeros v = v + 1 := by
  obtain ⟨hlow, hhigh⟩ := zeros_spec v
  rw [Nat.pow_succ] at hhigh
  rw [Nat.mod_eq_sub_mod hlow, Nat.mod_eq_of_lt (by omega)]
  omega

/-- The zeros, a one, and the bits that are left. -/
theorem ue_eq (v : Nat) :
    ue v = List.replicate (zeros v) false ++ true :: fixed (zeros v) (v + 1) := by
  have hbit : (v + 1).testBit (zeros v) = true := by
    have hmod := mod_two_pow_succ_testBit (zeros v) (v + 1)
    rw [Nat.mod_eq_of_lt (zeros_spec v).2] at hmod
    have hrest := mod_zeros v
    have hpos := Nat.two_pow_pos (zeros v)
    cases hb : (v + 1).testBit (zeros v) with
    | true => rfl
    | false =>
        rw [hb, Bool.toNat_false] at hmod
        omega
  rw [ue, fixed, hbit]

theorem length_ue (v : Nat) : (ue v).length = 2 * zeros v + 1 := by
  simp [ue]
  omega

theorem zeros_le {v n : Nat} (h : v + 1 < 2 ^ (n + 1)) : zeros v ≤ n := by
  have hlt := (Nat.log2_lt (Nat.succ_ne_zero v)).mpr h
  exact Nat.le_of_lt_succ hlt

end ExpGolomb
