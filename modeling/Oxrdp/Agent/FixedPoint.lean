import Oxrdp.Agent.Reframe

/-!
# Reframing what has been reframed

The output of `reframe` is an arrangement already: its units are found again as they
were written, they are in the prescribed order, and on a keyframe the parameter sets in
front of the slices are the cached ones.  So a second pass with the cache that the
first one left has nothing to do.

`ParamSets` has private fields: outside `h264.rs` a cache is made by `Default` and
changed by `reframe`, which is what `ParamSets.Built` says.
-/

namespace Oxrdp

/-- A cache that the code can hold. -/
inductive ParamSets.Built : ParamSets → Prop
  | initial : Built {}
  | updated {cached : ParamSets} (raw : List UInt8) :
      Built cached → Built (reframe raw cached).2

/-- A cache holds the last parameter sets of the units that were passed through it. -/
theorem ParamSets.Built.caches {cached : ParamSets} (h : cached.Built) :
    ∃ seen, cached.Caches seen := by
  induction h with
  | initial => exact ⟨[], ParamSets.caches_nil⟩
  | updated raw _ ih =>
      obtain ⟨seen, hseen⟩ := ih
      exact ⟨_, reframe_caches raw hseen⟩

/-! ## An arrangement is its own arrangement -/

section Arranged

variable {seen unit : List Nal}

/-- What stands where the parameter sets of a keyframe go. -/
def paramSlot (seen unit : List Nal) : List Nal :=
  if unit.any (·.kind = NalType.sliceIdr) then
    (latest NalType.sps seen).toList ++ (latest NalType.pps seen).toList
  else []

theorem aud_kind {n : Nal} (h : n ∈ (unitsOf NalType.aud unit).take 1) :
    n.kind = NalType.aud := by
  have hmem := List.mem_filter.mp (List.mem_of_mem_take h)
  exact of_decide_eq_true hmem.2

theorem sei_kind {n : Nal} (h : n ∈ unitsOf NalType.sei unit) : n.kind = NalType.sei :=
  of_decide_eq_true (List.mem_filter.mp h).2

theorem paramSlot_kind {n : Nal} (h : n ∈ paramSlot seen unit) : IsParamSet n := by
  rw [paramSlot] at h
  split at h
  · rw [List.mem_append, Option.mem_toList, Option.mem_toList] at h
    rcases h with hsps | hpps
    · exact .inl (latest_mem hsps).2
    · exact .inr (latest_mem hpps).2
  · cases h

theorem slices_kind {n : Nal} (h : n ∈ slicesOf unit) :
    n.kind = NalType.sliceIdr ∨ n.kind = NalType.slice :=
  of_decide_eq_true (List.mem_filter.mp h).2

theorem remaining_kind {n : Nal} (h : n ∈ remaining unit) : ¬ Placed n.kind :=
  of_decide_eq_true (List.mem_filter.mp h).2

/-- Filtering an arrangement filters its five parts. -/
theorem arranged_filter (p : Nal → Bool) :
    (arranged seen unit).filter p =
      ((unitsOf NalType.aud unit).take 1).filter p ++ (unitsOf NalType.sei unit).filter p ++
        (paramSlot seen unit).filter p ++ (slicesOf unit).filter p ++
        (remaining unit).filter p := by
  simp only [arranged, paramSlot, List.filter_append]

theorem filter_none {p : Nal → Bool} {nals : List Nal} (h : ∀ n ∈ nals, p n = false) :
    nals.filter p = [] :=
  List.filter_eq_nil_iff.mpr fun n hn => by simp [h n hn]

theorem unitsOf_sei_arranged :
    unitsOf NalType.sei (arranged seen unit) = unitsOf NalType.sei unit := by
  rw [unitsOf, arranged_filter,
    filter_none fun n hn => by simp [aud_kind hn, NalType.aud, NalType.sei],
    List.filter_eq_self.mpr fun n hn => by simp [sei_kind hn],
    filter_none fun n hn => by rcases paramSlot_kind hn with h | h <;> simp +decide [h],
    filter_none fun n hn => by rcases slices_kind hn with h | h <;> simp +decide [h],
    filter_none fun n hn => decide_eq_false fun h => remaining_kind hn (.inl h)]
  simp

theorem slicesOf_arranged : slicesOf (arranged seen unit) = slicesOf unit := by
  rw [slicesOf, arranged_filter,
    filter_none fun n hn => by simp +decide [aud_kind hn],
    filter_none fun n hn => by simp +decide [sei_kind hn],
    filter_none fun n hn => by rcases paramSlot_kind hn with h | h <;> simp +decide [h],
    List.filter_eq_self.mpr fun n hn => decide_eq_true (slices_kind hn),
    filter_none fun n hn => decide_eq_false fun h =>
      remaining_kind hn (.inr (.inr (.inr h)))]
  simp

/-- Without a first delimiter there is no later one. -/
theorem remaining_no_aud (h : unitsOf NalType.aud unit = []) :
    ∀ n ∈ remaining unit, n.kind ≠ NalType.aud := by
  intro n hn hkind
  have hmem : n ∈ unit := List.mem_of_mem_eraseP (List.mem_filter.mp hn).1
  have haud : n ∈ unitsOf NalType.aud unit :=
    List.mem_filter.mpr ⟨hmem, decide_eq_true hkind⟩
  rw [h] at haud
  cases haud

/-- The first delimiter of an arrangement is the one at its head. -/
theorem take_aud_arranged :
    (unitsOf NalType.aud (arranged seen unit)).take 1 = (unitsOf NalType.aud unit).take 1 := by
  rw [unitsOf, arranged_filter,
    List.filter_eq_self.mpr fun n hn => by simp [aud_kind hn],
    filter_none fun n hn => by simp +decide [sei_kind hn],
    filter_none fun n hn => by rcases paramSlot_kind hn with h | h <;> simp +decide [h],
    filter_none fun n hn => by rcases slices_kind hn with h | h <;> simp +decide [h]]
  cases hfirst : unitsOf NalType.aud unit with
  | nil =>
      rw [filter_none fun n hn => decide_eq_false (remaining_no_aud hfirst n hn)]
      rfl
  | cons first rest => rfl

/-- What is behind the slices stays there: only the delimiter at the head is taken out. -/
theorem remaining_arranged : remaining (arranged seen unit) = remaining unit := by
  have hplaced : ∀ n : Nal, Placed n.kind → decide (¬ Placed n.kind) = false := by simp
  have hparts : arranged seen unit = (unitsOf NalType.aud unit).take 1 ++
      (unitsOf NalType.sei unit ++ paramSlot seen unit ++ slicesOf unit ++ remaining unit) := by
    simp only [arranged, paramSlot, List.append_assoc]
  have hkept : ((unitsOf NalType.sei unit ++ paramSlot seen unit ++ slicesOf unit ++
      remaining unit).filter fun n => ¬ Placed n.kind) = remaining unit := by
    rw [List.filter_append, List.filter_append, List.filter_append,
      filter_none fun n hn => hplaced n (.inl (sei_kind hn)),
      filter_none fun n hn => hplaced n (.inr ((paramSlot_kind hn).elim .inl
        fun h => .inr (.inl h))),
      filter_none fun n hn => hplaced n (.inr (.inr (.inr (slices_kind hn)))),
      List.filter_eq_self.mpr fun n hn => decide_eq_true (remaining_kind hn)]
    rfl
  rw [remaining, hparts]
  cases hfirst : unitsOf NalType.aud unit with
  | nil =>
      rw [List.take_nil, List.nil_append, List.eraseP_of_forall_not, hkept]
      intro n hn
      simp only [List.mem_append] at hn
      have hkind : n.kind ≠ NalType.aud := by
        rcases hn with ((hn | hn) | hn) | hn
        · simp +decide [sei_kind hn]
        · rcases paramSlot_kind hn with h | h <;> simp +decide [h]
        · rcases slices_kind hn with h | h <;> simp +decide [h]
        · exact remaining_no_aud hfirst n hn
      simpa using hkind
  | cons first rest =>
      have hkind : first.kind = NalType.aud := by
        have hmem : first ∈ unitsOf NalType.aud unit := by
          rw [hfirst]
          exact List.mem_cons_self
        exact of_decide_eq_true (List.mem_filter.mp hmem).2
      have herase : ∀ nals : List Nal,
          (first :: nals).eraseP (·.kind = NalType.aud) = nals := by
        intro nals
        rw [List.eraseP_cons_of_pos]
        exact decide_eq_true hkind
      rw [List.take_succ_cons, List.take_zero, List.singleton_append, herase, hkept]

/-- An arrangement is a keyframe when its unit is. -/
theorem any_idr_arranged :
    (arranged seen unit).any (·.kind = NalType.sliceIdr) =
      unit.any (·.kind = NalType.sliceIdr) := by
  have hslices : ∀ nals : List Nal, nals.any (·.kind = NalType.sliceIdr) =
      (slicesOf nals).any (·.kind = NalType.sliceIdr) := by
    intro nals
    rw [slicesOf, List.any_filter]
    congr 1
    funext n
    by_cases h : n.kind = NalType.sliceIdr
    · simp [h]
    · simp [h]
  rw [hslices, slicesOf_arranged, ← hslices]

/-- An arrangement brings no parameter set that was not the last one already. -/
theorem latest_arranged {kind : UInt8} (hkind : kind = NalType.sps ∨ kind = NalType.pps) :
    latest kind (seen ++ arranged seen unit) = latest kind seen := by
  rw [latest_append]
  cases hlast : latest kind (arranged seen unit) with
  | none => rfl
  | some n =>
      have hsame := ((arranged_param hkind).mp (latest_mem hlast)).2
      rw [hsame]
      rfl

/-- **An arrangement is a fixed point.** -/
theorem arranged_arranged :
    arranged (seen ++ arranged seen unit) (arranged seen unit) = arranged seen unit := by
  rw [arranged, take_aud_arranged, unitsOf_sei_arranged, any_idr_arranged,
    latest_arranged (.inl rfl), latest_arranged (.inr rfl), slicesOf_arranged,
    remaining_arranged]
  rfl

end Arranged

/-- **Reframing is idempotent.**  For every cache and every access unit, reframing the
output with the updated cache gives the same bytes, the same flag and the same cache. -/
theorem reframe_idempotent {cached : ParamSets} (h : cached.Built) (raw : List UInt8) :
    reframe (reframe raw cached).1.1 (reframe raw cached).2 = reframe raw cached := by
  obtain ⟨seen, hseen⟩ := h.caches
  have hvalid : ∀ n ∈ arranged (seen ++ splitAnnexb raw) (splitAnnexb raw), n.Valid := by
    apply arranged_valid
    · exact (reframe_caches raw hseen).valid
    · exact splitAnnexb_valid raw
  have hfirst := @reframe_spec raw cached seen hseen
  have hout : splitAnnexb (reframe raw cached).1.1 =
      arranged (seen ++ splitAnnexb raw) (splitAnnexb raw) := by
    rw [hfirst, splitAnnexb_annexb hvalid]
  have hsecond := @reframe_spec (reframe raw cached).1.1 _ _ (reframe_caches raw hseen)
  rw [hout, arranged_arranged, any_idr_arranged, latest_arranged (.inl rfl),
    latest_arranged (.inr rfl)] at hsecond
  rw [hsecond, hfirst]

/-- A keyframe that relies on the parameter sets of the unit before it. -/
theorem reframe_idempotent_keyframe :
    let cached := (reframe [0, 0, 1, 0x67, 1, 0, 0, 1, 0x68, 2] {}).2
    reframe (reframe [0, 0, 1, 0x65, 9, 0] cached).1.1 (reframe [0, 0, 1, 0x65, 9, 0] cached).2 =
      reframe [0, 0, 1, 0x65, 9, 0] cached :=
  reframe_idempotent (.updated _ .initial) _

end Oxrdp
