import Mathlib.Data.List.Basic
import Oxrdp.Lib.Checked

/-!
# Copying rows

Memory is copied between two buffers without a look at their ends.  `copyNonoverlapping`
stops where such a copy would leave one of them, so that a run that does not stop is one
that stays inside.

Rows of one length, at a stride of their own in either buffer, are copied one after the
other.  What is found in the end is said by row and column.
-/

namespace Blit

variable {α : Type}

/-- `n` elements of `src` from `srcOffset` on, put over those of `dst` from `dstOffset` on. -/
def copyNonoverlapping (src : List α) (srcOffset : Nat) (dst : List α) (dstOffset n : Nat) :
    Checked (List α) :=
  if srcOffset + n ≤ src.length ∧ dstOffset + n ≤ dst.length then
    .ok (dst.take dstOffset ++ ((src.drop srcOffset).take n ++ dst.drop (dstOffset + n)))
  else
    .error .outOfBounds

/-- Row number `row`, at its offset in either buffer. -/
def copyRow (src : List α) (srcStride dstStride n : Nat) (dst : List α) (row : Nat) :
    Checked (List α) := do
  let srcOffset ← Checked.usize (row * srcStride)
  let dstOffset ← Checked.usize (row * dstStride)
  copyNonoverlapping src srcOffset dst dstOffset n

theorem copyNonoverlapping_ok {src dst : List α} {srcOffset dstOffset n : Nat}
    (hsrc : srcOffset + n ≤ src.length) (hdst : dstOffset + n ≤ dst.length) :
    ∃ out, copyNonoverlapping src srcOffset dst dstOffset n = .ok out ∧
      out.length = dst.length ∧
      ∀ i, out[i]? = if dstOffset ≤ i ∧ i < dstOffset + n then src[srcOffset + (i - dstOffset)]?
        else dst[i]? := by
  have hfront : (dst.take dstOffset).length = dstOffset := List.length_take_of_le (by omega)
  have hmiddle : ((src.drop srcOffset).take n).length = n := by
    rw [List.length_take, List.length_drop]
    omega
  refine ⟨_, if_pos ⟨hsrc, hdst⟩, ?_, fun i => ?_⟩
  · rw [List.length_append, List.length_append, hfront, hmiddle, List.length_drop]
    omega
  · by_cases hbefore : i < dstOffset
    · rw [List.getElem?_append_left (by omega), List.getElem?_take_of_lt hbefore,
        if_neg (by omega)]
    · rw [List.getElem?_append_right (by omega), hfront]
      by_cases hin : i < dstOffset + n
      · rw [List.getElem?_append_left (by omega), List.getElem?_take_of_lt (by omega),
          List.getElem?_drop, if_pos (by omega)]
      · rw [List.getElem?_append_right (by omega), hmiddle, List.getElem?_drop,
          if_neg (by omega)]
        congr 1
        omega

/-- A place of a row stands in the first `n` columns of one row only. -/
theorem in_row_iff {stride n row y c : Nat} (hn : n ≤ stride) (hc : c < stride) :
    (row * stride ≤ y * stride + c ∧ y * stride + c < row * stride + n) ↔ y = row ∧ c < n := by
  rcases Nat.lt_trichotomy y row with hlt | heq | hgt
  · have hle := Nat.mul_le_mul_right stride (Nat.succ_le_of_lt hlt)
    rw [Nat.succ_mul] at hle
    omega
  · subst heq
    omega
  · have hle := Nat.mul_le_mul_right stride (Nat.succ_le_of_lt hgt)
    rw [Nat.succ_mul] at hle
    omega

/-- Rows that lie in both buffers are copied, and nothing else changes. -/
theorem copyRows_ok {src dst : List α} {srcStride dstStride n rows : Nat}
    (hn : n ≤ dstStride) (hsrc : ∀ row < rows, row * srcStride + n ≤ src.length)
    (hdst : rows * dstStride ≤ dst.length)
    (hsrcWord : rows * srcStride < 2 ^ 64) (hdstWord : rows * dstStride < 2 ^ 64) :
    ∃ out, (List.range rows).foldlM (copyRow src srcStride dstStride n) dst = .ok out ∧
      out.length = dst.length ∧
      ∀ y c, c < dstStride → out[y * dstStride + c]? =
        if y < rows ∧ c < n then src[y * srcStride + c]? else dst[y * dstStride + c]? := by
  induction rows with
  | zero => exact ⟨dst, rfl, rfl, fun y c _ => by rw [if_neg (by omega)]⟩
  | succ rows ih =>
      rw [Nat.succ_mul] at hdst hsrcWord hdstWord
      obtain ⟨mid, hmid, hlen, hplaces⟩ := ih (fun row hrow => hsrc row (by omega)) (by omega)
        (by omega) (by omega)
      have hroom : rows * dstStride + n ≤ mid.length := by omega
      obtain ⟨out, hout, houtLen, houtPlaces⟩ :=
        copyNonoverlapping_ok (hsrc rows (Nat.lt_succ_self rows)) hroom
      refine ⟨out, ?_, houtLen.trans hlen, fun y c hc => ?_⟩
      · rw [List.range_succ, List.foldlM_append, hmid, Checked.bind_ok, List.foldlM_cons,
          copyRow, Checked.usize_ok (by omega), Checked.bind_ok, Checked.usize_ok (by omega),
          Checked.bind_ok, hout]
        rfl
      · rw [houtPlaces]
        by_cases hrow : y = rows ∧ c < n
        · rw [if_pos ((in_row_iff hn hc).mpr hrow), if_pos (by omega), hrow.1]
          congr 1
          omega
        · rw [if_neg fun h => hrow ((in_row_iff hn hc).mp h), hplaces y c hc]
          by_cases hold : y < rows ∧ c < n
          · rw [if_pos hold, if_pos (by omega)]
          · rw [if_neg hold, if_neg (by omega)]

end Blit
