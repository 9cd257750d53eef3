import Oxrdp.Proto.Wire

/-!
# The auth token

`verify_token` of `oxsec` compares two strings in time that depends on the expected one only:
it collects every difference instead of stopping at the first, and reads a token that is too
short as if it went on with zeros.  The lengths are compared with the rest, so what it decides
is equality.
-/

namespace Oxrdp

/-- The differences found so far, and those from the bytes at one position. -/
def tokenDiff (presented : List UInt8) (diff : Nat) (entry : UInt8 × Nat) : Nat :=
  diff ||| (entry.1 ^^^ presented.getD entry.2 0).toNat

/-- Compare a presented token against the expected one. -/
def verifyToken (expected presented : String) : Bool :=
  let expected := strBytes expected
  let presented := strBytes presented
  expected.zipIdx.foldl (tokenDiff presented) (expected.length ^^^ presented.length) == 0

/-- Differences stay. -/
theorem tokenDiff_foldl_zero (presented : List UInt8) (entries : List (UInt8 × Nat))
    (diff : Nat) :
    entries.foldl (tokenDiff presented) diff = 0 ↔
      diff = 0 ∧ ∀ entry ∈ entries, entry.1 = presented.getD entry.2 0 := by
  induction entries generalizing diff with
  | nil => simp
  | cons entry rest ih =>
      have hbyte : (entry.1 ^^^ presented.getD entry.2 0).toNat = 0 ↔
          entry.1 = presented.getD entry.2 0 := by
        rw [← UInt8.toNat_zero, UInt8.toNat_inj, UInt8.xor_eq_zero_iff]
      rw [List.foldl_cons, ih, tokenDiff, Nat.or_eq_zero_iff, hbyte, List.forall_mem_cons,
        and_assoc]

theorem strBytes_inj {s s' : String} (h : strBytes s = strBytes s') : s = s' := by
  have hread := strFromUtf8_strBytes s
  rw [h, strFromUtf8_strBytes] at hread
  exact (Option.some_inj.mp hread).symm

/-- **The token comparison decides equality.** -/
theorem verifyToken_iff (expected presented : String) :
    verifyToken expected presented = true ↔ presented = expected := by
  unfold verifyToken
  simp only [beq_iff_eq]
  rw [tokenDiff_foldl_zero]
  constructor
  · rintro ⟨hlen, hbytes⟩
    have hsame : (strBytes expected).length = (strBytes presented).length := by
      rw [← Nat.xor_zero (strBytes expected).length, ← Nat.xor_self (strBytes presented).length,
        ← Nat.xor_assoc, hlen, Nat.zero_xor]
    refine strBytes_inj (List.ext_getElem hsame.symm fun i hi hi' => ?_)
    have hat := hbytes ((strBytes expected)[i], i) (List.mem_zipIdx_iff_getElem?.mpr ?_)
    · rw [List.getD_eq_getElem?_getD, List.getElem?_eq_getElem hi] at hat
      exact hat.symm
    · exact List.getElem?_eq_getElem hi'
  · rintro rfl
    refine ⟨Nat.xor_self _, ?_⟩
    intro entry hentry
    have hat := List.mem_zipIdx_iff_getElem?.mp hentry
    rw [List.getD_eq_getElem?_getD, hat]
    rfl

end Oxrdp
