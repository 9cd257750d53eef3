import Oxrdp.Lib.Checked
import Oxrdp.Lib.Rank
import Oxrdp.Lib.Raster
import Oxrdp.Lib.RingBuffer
import Oxrdp.Proto.Latency

/-!
# Rolling statistics

The rest of `Samples`: what is read from the buffer that `push` fills.  `Holds` says of every
buffer that it is the last samples, rotated so that the oldest is at `head`; each statistic is
then that of a list, and no index leaves the buffer.
-/

namespace Oxrdp

namespace Samples

def isEmpty (s : Samples) : Bool := s.len == 0

/-- Where the sample number `i` is, counted from the oldest. -/
def index (s : Samples) (i : Nat) : Nat :=
  if s.len < s.capacity then i else (s.head + i) % s.capacity

/-- The samples from the oldest on. -/
def iter (s : Samples) : Checked (List UInt64) :=
  (List.range s.len).mapM fun i => Checked.get s.buf (s.index i)

/-- The most recent sample. -/
def last (s : Samples) : Checked (Option UInt64) :=
  if s.isEmpty then pure none
  else do
    let idx := if s.len < s.capacity then s.len - 1 else (s.head + s.capacity - 1) % s.capacity
    let value ← Checked.get s.buf idx
    pure (some value)

/-- The arithmetic mean, of a sum that saturates. -/
def mean (s : Samples) : Checked (Option UInt64) :=
  if s.isEmpty then pure none
  else do
    let values ← s.iter
    pure (some (values.foldl UInt64.saturatingAdd 0 / UInt64.ofNat s.len))

protected def min (s : Samples) : Checked (Option UInt64) := do
  let values ← s.iter
  pure values.min?

protected def max (s : Samples) : Checked (Option UInt64) := do
  let values ← s.iter
  pure values.max?

/-- The order of samples. -/
def le (a b : UInt64) : Bool := decide (a ≤ b)

/-- The value at a percentile, nearest rank. -/
def percentile (s : Samples) (p : UInt8) : Checked (Option UInt64) :=
  if s.isEmpty then pure none
  else do
    let p := if p ≤ 100 then p else 100
    let values ← s.iter
    let sorted := values.mergeSort le
    let rank := max 1 (min ((p.toNat * sorted.length + 99) / 100) sorted.length)
    let value ← Checked.get sorted (rank - 1)
    pure (some value)

/-- A window after some samples. -/
def pushed (capacity : Nat) (values : List UInt64) : Samples := values.foldl push (new capacity)

/-! ## What a window holds -/

/-- The buffer is the last of these values, the oldest at `head`. -/
structure Holds (s : Samples) (values : List UInt64) : Prop where
  capacity_pos : 0 < s.capacity
  len_eq : s.len = min values.length s.capacity
  buf_length : s.buf.length = s.len
  head_lt : s.head < s.capacity
  head_first : values.length < s.capacity → s.head = 0
  rotated : s.buf.rotate s.head = values.rtake s.capacity

/-- A new ring holds nothing. -/
theorem new_holds (capacity : Nat) : (new capacity).Holds [] where
  capacity_pos := Nat.le_max_right _ _
  len_eq := (Nat.zero_min _).symm
  buf_length := rfl
  head_lt := Nat.le_max_right _ _
  head_first _ := rfl
  rotated := (List.rtake_nil _).symm

/-- **A push** holds one value more, and gives up the oldest once the ring is full. -/
theorem Holds.push {s : Samples} {values : List UInt64} (h : s.Holds values) (value : UInt64) :
    (s.push value).Holds (values ++ [value]) := by
  have hlen := h.len_eq
  have hbuf := h.buf_length
  have hpos := h.capacity_pos
  unfold Samples.push
  split_ifs with hroom
  · have hfew : values.length < s.capacity := by omega
    have hhead := h.head_first hfew
    have hall := h.rotated
    rw [hhead, List.rotate_zero, RingBuffer.rtake_of_length_le hfew.le] at hall
    exact {
      capacity_pos := hpos
      len_eq := by
        simp only [List.length_append, List.length_singleton]
        omega
      buf_length := by
        simp only [List.length_append, List.length_singleton]
        omega
      head_lt := h.head_lt
      head_first := fun _ => hhead
      rotated := by
        dsimp only
        rw [hhead, List.rotate_zero, RingBuffer.rtake_of_length_le ?_, hall]
        rw [List.length_append, List.length_singleton]
        exact hfew }
  · have hmany : s.capacity ≤ values.length := by omega
    have hfull : s.buf.length = s.capacity := by omega
    exact {
      capacity_pos := hpos
      len_eq := by
        simp only [List.length_append, List.length_singleton]
        omega
      buf_length := by
        simp only [List.length_set]
        omega
      head_lt := Nat.mod_lt _ hpos
      head_first := by
        simp only [List.length_append, List.length_singleton]
        omega
      rotated := by
        have hlength : (s.buf.set s.head value).length = s.capacity := by
          rw [List.length_set, hfull]
        have hin : s.head < s.buf.length := by
          rw [hfull]
          exact h.head_lt
        dsimp only
        rw [← hlength, List.rotate_mod, RingBuffer.rotate_set hin, h.rotated, hlength,
          RingBuffer.rtake_concat hmany hpos] }

/-- A ring holds one value at least. -/
theorem pushed_capacity (capacity : Nat) (values : List UInt64) :
    (pushed capacity values).capacity = max capacity 1 := by
  induction values using List.reverseRecOn with
  | nil => rfl
  | append_singleton values value ih =>
      rw [pushed, List.foldl_append]
      change (Samples.push (pushed capacity values) value).capacity = _
      unfold Samples.push
      split_ifs
      · exact ih
      · exact ih

/-- The ring of a list of values holds that list. -/
theorem pushed_holds (capacity : Nat) (values : List UInt64) :
    (pushed capacity values).Holds values := by
  induction values using List.reverseRecOn with
  | nil => exact new_holds capacity
  | append_singleton values value ih =>
      rw [pushed, List.foldl_append]
      exact ih.push value

/-! ## What is read -/

section Reading

variable {s : Samples} {values : List UInt64} (h : s.Holds values)

include h

/-- As many values are kept as the ring counts. -/
theorem Holds.length_kept : (values.rtake s.capacity).length = s.len := by
  rw [RingBuffer.length_rtake, h.len_eq]

/-- The ring is empty if nothing is kept. -/
theorem Holds.isEmpty_iff : s.isEmpty = true ↔ values.rtake s.capacity = [] := by
  rw [isEmpty, beq_iff_eq, ← h.length_kept, List.length_eq_zero_iff]

/-- The place of a sample is that of the list. -/
theorem Holds.get_index {i : Nat} (hi : i < s.len) :
    s.buf[s.index i]? = (values.rtake s.capacity)[i]? := by
  have hlen := h.len_eq
  have hbuf := h.buf_length
  rw [← h.rotated, List.getElem?_rotate (by omega)]
  congr 1
  unfold index
  split_ifs with hroom
  · rw [h.head_first (by omega), Nat.add_zero, Nat.mod_eq_of_lt (by omega)]
  · rw [Nat.add_comm, hbuf]
    congr 1
    omega

/-- Each index of the iterator is inside the buffer. -/
theorem Holds.index_lt {i : Nat} (hi : i < s.len) : s.index i < s.buf.length := by
  have hsome := h.get_index hi
  rw [← h.length_kept] at hi
  rw [List.getElem?_eq_getElem hi] at hsome
  exact (List.getElem?_eq_some_iff.mp hsome).1

/-- The iterator yields what is kept, oldest first. -/
theorem Holds.iter_ok : s.iter = .ok (values.rtake s.capacity) := by
  have hkept : values.rtake s.capacity =
      (List.range s.len).map fun i => (values.rtake s.capacity).getD i 0 := by
    rw [← h.length_kept]
    exact Raster.eq_map_range _ 0
  rw [hkept]
  refine Checked.mapM_ok fun i hi => ?_
  have hlt := List.mem_range.mp hi
  rw [Checked.get_ok (h.index_lt hlt) 0, List.getD_eq_getElem?_getD, h.get_index hlt,
    ← List.getD_eq_getElem?_getD]

/-- Where the newest sample is. -/
theorem Holds.index_newest (hne : s.len ≠ 0) : s.index (s.len - 1) =
    if s.len < s.capacity then s.len - 1 else (s.head + s.capacity - 1) % s.capacity := by
  have hlen := h.len_eq
  unfold index
  by_cases hroom : s.len < s.capacity
  · rw [if_pos hroom, if_pos hroom]
  · have hfull : s.head + (s.len - 1) = s.head + s.capacity - 1 := by omega
    rw [if_neg hroom, if_neg hroom, hfull]

/-- What was pushed last stands last. -/
theorem Holds.last_ok : s.last = .ok (values.rtake s.capacity).getLast? := by
  have hkept := h.length_kept
  unfold last
  by_cases hempty : s.isEmpty = true
  · rw [if_pos hempty, h.isEmpty_iff.mp hempty]
    rfl
  · have hne : s.len ≠ 0 := fun hzero => hempty (by rw [isEmpty, hzero]; rfl)
    have hin : s.len - 1 < s.len := by omega
    have hnewest : (values.rtake s.capacity)[s.len - 1]? =
        some (values.rtake s.capacity)[s.len - 1] := List.getElem?_eq_getElem (by omega)
    rw [if_neg hempty]
    dsimp only
    rw [← h.index_newest hne, Checked.get_ok (h.index_lt hin) 0, Checked.bind_ok,
      List.getD_eq_getElem?_getD, h.get_index hin, List.getLast?_eq_getElem?, hkept, hnewest]
    rfl

/-- The least is the least of the values kept. -/
theorem Holds.min_ok : s.min = .ok (values.rtake s.capacity).min? := by
  rw [Samples.min, h.iter_ok]
  rfl

/-- The greatest is the greatest of the values kept. -/
theorem Holds.max_ok : s.max = .ok (values.rtake s.capacity).max? := by
  rw [Samples.max, h.iter_ok]
  rfl

end Reading

/-! ## Statistics of a list -/

/-- The sum of a list, stopped at the greatest `u64`, over its length. -/
def meanOf (values : List UInt64) : Option UInt64 :=
  if values = [] then none
  else
    let sum := min (values.map UInt64.toNat).sum (2 ^ 64 - 1)
    some (UInt64.ofNat (sum / values.length))

/-- A saturating sum is the sum, as far as it fits. -/
theorem toNat_foldl_saturatingAdd (values : List UInt64) (start : UInt64) :
    (values.foldl UInt64.saturatingAdd start).toNat =
      min (start.toNat + (values.map UInt64.toNat).sum) (2 ^ 64 - 1) := by
  induction values generalizing start with
  | nil =>
      have hlt := start.toNat_lt
      simp only [List.foldl_nil, List.map_nil, List.sum_nil]
      omega
  | cons value values ih =>
      rw [List.foldl_cons, ih, UInt64.toNat_saturatingAdd, List.map_cons, List.sum_cons]
      omega

/-- The mean is that of what is kept, of its saturated sum. -/
theorem Holds.mean_ok {s : Samples} {values : List UInt64} (h : s.Holds values)
    (hsize : s.capacity < 2 ^ 64) : s.mean = .ok (meanOf (values.rtake s.capacity)) := by
  have hkept := h.length_kept
  unfold mean meanOf
  by_cases hempty : s.isEmpty = true
  · rw [if_pos hempty, if_pos (h.isEmpty_iff.mp hempty)]
    rfl
  · have hlen : s.len < 2 ^ 64 := by
      have hle := h.len_eq
      omega
    have hsum := toNat_foldl_saturatingAdd (values.rtake s.capacity) 0
    rw [UInt64.toNat_zero, Nat.zero_add] at hsum
    rw [if_neg hempty, if_neg fun hnil => hempty (h.isEmpty_iff.mpr hnil), h.iter_ok,
      Checked.bind_ok, hkept, ← hsum]
    refine congrArg (fun value => Except.ok (some value)) ?_
    apply UInt64.toNat_inj.mp
    rw [UInt64.toNat_div, UInt64.toNat_ofNat_of_lt' hlen, UInt64.toNat_ofNat_of_lt']
    exact (Nat.div_le_self _ _).trans_lt (UInt64.toNat_lt _)

theorem le_trans (a b c : UInt64) (hab : le a b = true) (hbc : le b c = true) : le a c = true := by
  simp only [le, decide_eq_true_eq] at hab hbc ⊢
  exact UInt64.le_trans hab hbc

theorem le_total (a b : UInt64) : (le a b || le b a) = true := by
  simp only [le, Bool.or_eq_true, decide_eq_true_eq]
  exact UInt64.le_total a b

/-- A percentile is the value at its rank in what is kept, sorted. -/
theorem Holds.percentile_ok {s : Samples} {values : List UInt64} (h : s.Holds values) (p : UInt8) :
    s.percentile p = .ok (Rank.percentile le (min p.toNat 100) (values.rtake s.capacity)) := by
  have hkept := h.length_kept
  have hclamp : (if p ≤ 100 then p else 100).toNat = min p.toNat 100 := by
    split_ifs with hp
    · rw [UInt8.le_iff_toNat_le] at hp
      exact (Nat.min_eq_left hp).symm
    · rw [UInt8.le_iff_toNat_le, Nat.not_le] at hp
      exact (Nat.min_eq_right hp.le).symm
  unfold percentile
  by_cases hempty : s.isEmpty = true
  · rw [if_pos hempty, h.isEmpty_iff.mp hempty, Rank.percentile, List.mergeSort_nil]
    rfl
  · have hne : values.rtake s.capacity ≠ [] := fun hnil => hempty (h.isEmpty_iff.mpr hnil)
    obtain ⟨v, hv, -⟩ := Rank.percentile_spec le_trans le_total (Nat.min_le_right p.toNat 100) hne
    have hsorted : ((values.rtake s.capacity).mergeSort le).length =
        (values.rtake s.capacity).length := List.length_mergeSort _
    rw [if_neg hempty, h.iter_ok, Checked.bind_ok, hv]
    rw [Rank.percentile, Rank.rank, ← hclamp, ← hsorted] at hv
    dsimp only
    rw [Checked.get, hv]
    rfl

/-- **The window.**  After any samples it holds the last of them, in order, and each statistic is
that of this list; the percentile is the nearest rank. -/
theorem samples_ring (capacity : UInt64) (values : List UInt64) :
    let s := pushed capacity.toNat values
    let kept := values.rtake (max capacity.toNat 1)
    s.len = min values.length (max capacity.toNat 1) ∧ s.iter = .ok kept ∧
      s.last = .ok kept.getLast? ∧ s.min = .ok kept.min? ∧ s.max = .ok kept.max? ∧
      s.mean = .ok (meanOf kept) ∧
      ∀ p, s.percentile p = .ok (Rank.percentile le (min p.toNat 100) kept) ∧
        (kept ≠ [] → ∃ v, s.percentile p = .ok (some v) ∧
          Rank.NearestRank le (min p.toNat 100) kept v) := by
  have h := pushed_holds capacity.toNat values
  have hcapacity := pushed_capacity capacity.toNat values
  have hsize : (pushed capacity.toNat values).capacity < 2 ^ 64 := by
    have hlt := capacity.toNat_lt
    omega
  dsimp only
  rw [← hcapacity]
  refine ⟨h.len_eq, h.iter_ok, h.last_ok, h.min_ok, h.max_ok, h.mean_ok hsize, fun p => ?_⟩
  refine ⟨h.percentile_ok p, fun hne => ?_⟩
  obtain ⟨v, hv, hrank⟩ :=
    Rank.percentile_spec le_trans le_total (Nat.min_le_right p.toNat 100) hne
  exact ⟨v, by rw [h.percentile_ok, hv], hrank⟩

/-- With capacity 0 there is still room for one sample. -/
theorem zero_capacity_keeps : (pushed 0 [7]).len = 1 ∧ min [(7 : UInt64)].length 0 = 0 ∧
    (pushed 0 [7]).last = .ok (some 7) := by
  decide

end Samples

end Oxrdp
