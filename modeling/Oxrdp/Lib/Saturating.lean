import Mathlib.Algebra.Order.Ring.Nat

/-!
# Saturating machine arithmetic

Addition, subtraction and multiplication that stop at the end of the range instead of
wrapping.  Each operation is given by the value it has in the integers, clamped to the range,
and the lemmas say so: `toNat` of an unsigned result, `toInt` of a signed one.
-/

namespace UInt64

/-- The number clamped from above to the largest value. -/
def clampNat (n : Nat) : UInt64 := UInt64.ofNat (min n (2 ^ 64 - 1))

def saturatingAdd (a b : UInt64) : UInt64 := clampNat (a.toNat + b.toNat)

def saturatingSub (a b : UInt64) : UInt64 := clampNat (a.toNat - b.toNat)

def saturatingMul (a b : UInt64) : UInt64 := clampNat (a.toNat * b.toNat)

@[simp] theorem toNat_clampNat (n : Nat) : (clampNat n).toNat = min n (2 ^ 64 - 1) := by
  rw [clampNat, UInt64.toNat_ofNat', Nat.mod_eq_of_lt]
  omega

@[simp] theorem toNat_saturatingAdd (a b : UInt64) :
    (a.saturatingAdd b).toNat = min (a.toNat + b.toNat) (2 ^ 64 - 1) :=
  toNat_clampNat _

/-- Subtraction never leaves the range at the top. -/
@[simp] theorem toNat_saturatingSub (a b : UInt64) :
    (a.saturatingSub b).toNat = a.toNat - b.toNat := by
  rw [saturatingSub, toNat_clampNat]
  have := a.toNat_lt
  omega

@[simp] theorem toNat_saturatingMul (a b : UInt64) :
    (a.saturatingMul b).toNat = min (a.toNat * b.toNat) (2 ^ 64 - 1) :=
  toNat_clampNat _

end UInt64

namespace UInt32

/-- The number clamped from above to the largest value. -/
def clampNat (n : Nat) : UInt32 := UInt32.ofNat (min n (2 ^ 32 - 1))

def saturatingAdd (a b : UInt32) : UInt32 := clampNat (a.toNat + b.toNat)

end UInt32

namespace Int64

/-- The integer clamped to the range. -/
def clamp (n : Int) : Int64 := Int64.ofInt (max (-2 ^ 63) (min n (2 ^ 63 - 1)))

/-- An integer in the range is kept. -/
theorem toInt_clamp {n : Int} (hlow : -2 ^ 63 ≤ n) (hhigh : n < 2 ^ 63) : (clamp n).toInt = n := by
  have hin : max (-2 ^ 63) (min n (2 ^ 63 - 1)) = n := by omega
  rw [clamp, hin]
  exact Int64.toInt_ofInt_of_le hlow hhigh

end Int64

namespace Int32

/-- The integer clamped to the range. -/
def clamp (n : Int) : Int32 := Int32.ofInt (max (-2 ^ 31) (min n (2 ^ 31 - 1)))

def saturatingAdd (a b : Int32) : Int32 := clamp (a.toInt + b.toInt)

def saturatingSub (a b : Int32) : Int32 := clamp (a.toInt - b.toInt)

theorem toInt_clamp_eq (n : Int) : (clamp n).toInt = max (-2 ^ 31) (min n (2 ^ 31 - 1)) := by
  apply Int32.toInt_ofInt_of_le
  · omega
  · omega

/-- An integer in the range is kept. -/
theorem toInt_clamp {n : Int} (hlow : -2 ^ 31 ≤ n) (hhigh : n < 2 ^ 31) : (clamp n).toInt = n := by
  rw [toInt_clamp_eq]
  omega

/-- No difference saturates to zero. -/
theorem saturatingSub_eq_zero {a b : Int32} (h : a.saturatingSub b = 0) : a.toInt = b.toInt := by
  have hzero := congrArg Int32.toInt h
  rw [saturatingSub, toInt_clamp_eq, Int32.toInt_zero] at hzero
  omega

end Int32

namespace UInt8

/-- The integer clamped to the range. -/
def clamp (n : Int) : UInt8 := UInt8.ofNat (max 0 (min n 255)).toNat

theorem toNat_clamp (n : Int) : ((clamp n).toNat : Int) = max 0 (min n 255) := by
  have hlt : (max 0 (min n 255)).toNat < 256 := by omega
  rw [clamp, UInt8.toNat_ofNat', Nat.mod_eq_of_lt hlt]
  omega

end UInt8
