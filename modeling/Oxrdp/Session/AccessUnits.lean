import Oxrdp.Agent.Reframe
import Oxrdp.Client.AnnexB

/-!
# Both ends read an access unit alike

The agent writes access units with `reframe`, and labels one a keyframe if it found an IDR
slice among the units it was given.  The client does not trust the label: it scans the
payload itself.  Whatever the encoder produced, and whatever the cache held, the client's
scan lists the units that the agent's own splitter finds, and its decision to start a decode
is the agent's label.
-/

namespace Oxrdp

/-- What the client reports of a unit, in the form of the agent's diagnostics. -/
def NalUnit.summary (u : NalUnit) : UInt8 × UInt8 × Nat := (u.nalType, u.refIdc, u.len)

/-- The `forbidden_zero_bit` of a unit's header is clear. -/
def Nal.ForbiddenClear (n : Nal) : Prop := n.payload.headD 0 &&& 0x80 = 0

theorem Nal.Valid.kind_eq {n : Nal} (h : n.Valid) : n.kind = n.payload.headD 0 &&& 0x1F :=
  congrArg Nal.kind h.named

theorem Nal.Valid.unit_summary {n : Nal} (h : n.Valid) : n.unit.summary = n.summary := by
  rw [Nal.summary, h.kind_eq]
  rfl

/-- The client's list is the agent's. -/
theorem units_summary {nals : List Nal} (h : ∀ n ∈ nals, n.Valid) :
    (units (annexb nals)).map NalUnit.summary = nalSummary (annexb nals) := by
  rw [units_annexb h, nalSummary, splitAnnexb_annexb h, List.map_map]
  apply List.map_congr_left
  intro n hn
  exact (h n hn).unit_summary

/-- The client sees a parameter set exactly if one was written. -/
theorem hasParameterSets_annexb {nals : List Nal} (h : ∀ n ∈ nals, n.Valid) :
    hasParameterSets (annexb nals) = true ↔ ∃ n ∈ nals, IsParamSet n := by
  rw [hasParameterSets, units_annexb h, List.any_map, List.any_eq_true]
  constructor
  · intro hany
    obtain ⟨n, hn, hkind⟩ := hany
    refine ⟨n, hn, ?_⟩
    rw [IsParamSet, (h n hn).kind_eq]
    simpa [Nal.unit] using hkind
  · intro hset
    obtain ⟨n, hn, hkind⟩ := hset
    refine ⟨n, hn, ?_⟩
    rw [IsParamSet, (h n hn).kind_eq] at hkind
    simpa [Nal.unit] using hkind

/-- With the forbidden bit clear, an IDR header is one whose type is that of an IDR slice. -/
theorem Nal.Valid.idrHeader_iff {n : Nal} (h : n.Valid) (hclear : n.ForbiddenClear) :
    idrHeader (n.payload.headD 0) = true ↔ n.kind = NalType.sliceIdr := by
  rw [Nal.ForbiddenClear] at hclear
  rw [h.kind_eq, idrHeader, hclear]
  simp

theorem containsIdr_iff {nals : List Nal} (h : ∀ n ∈ nals, n.Valid)
    (hclear : ∀ n ∈ nals, n.ForbiddenClear) :
    containsIdr (annexb nals) = true ↔ ∃ n ∈ nals, n.kind = NalType.sliceIdr := by
  rw [containsIdr_annexb h, List.any_eq_true]
  constructor
  · intro hany
    obtain ⟨n, hn, hidr⟩ := hany
    exact ⟨n, hn, ((h n hn).idrHeader_iff (hclear n hn)).mp hidr⟩
  · intro hidr
    obtain ⟨n, hn, hkind⟩ := hidr
    exact ⟨n, hn, ((h n hn).idrHeader_iff (hclear n hn)).mpr hkind⟩

/-- Arranging neither adds nor removes an IDR slice. -/
theorem arranged_idr (seen unit : List Nal) :
    (∃ n ∈ arranged seen unit, n.kind = NalType.sliceIdr) ↔
      unit.any (·.kind = NalType.sliceIdr) = true := by
  have hplain : ∀ {n : Nal}, n.kind = NalType.sliceIdr → ¬ IsParamSet n := by
    intro n hn
    simp +decide [IsParamSet, hn]
  have hperm := arranged_preserved seen unit
  simp only [List.any_eq_true, decide_eq_true_eq]
  constructor
  · intro h
    obtain ⟨n, hn, hkind⟩ := h
    have hkept := hperm.mem_iff.mp (List.mem_filter.mpr ⟨hn, decide_eq_true (hplain hkind)⟩)
    exact ⟨n, (List.mem_filter.mp hkept).1, hkind⟩
  · intro h
    obtain ⟨n, hn, hkind⟩ := h
    have hkept := hperm.mem_iff.mpr (List.mem_filter.mpr ⟨hn, decide_eq_true (hplain hkind)⟩)
    exact ⟨n, (List.mem_filter.mp hkept).1, hkind⟩

/-- Only a keyframe is given parameter sets. -/
theorem arranged_idr_of_param {seen unit : List Nal}
    (h : ∃ n ∈ arranged seen unit, IsParamSet n) :
    unit.any (·.kind = NalType.sliceIdr) = true := by
  obtain ⟨n, hn, hset⟩ := h
  rcases hset with hsps | hpps
  · exact ((arranged_param (.inl rfl)).mp ⟨hn, hsps⟩).1
  · exact ((arranged_param (.inr rfl)).mp ⟨hn, hpps⟩).1

/-- **The two parsers agree on what is sent.**  Whatever access units were passed through one
cache before, the client lists the next output as the agent's diagnostics do, finds an IDR
slice in it exactly if it was labelled a keyframe (headers with the forbidden bit set apart),
and finds parameter sets in keyframes only. -/
theorem parsers_agree (before : List (List UInt8)) (raw : List UInt8)
    (after : List (List UInt8)) :
    ∃ out isIdr, (reframeAll {} (before ++ raw :: after))[before.length]? = some (out, isIdr) ∧
      (units out).map NalUnit.summary = nalSummary out ∧
      ((∀ n ∈ splitAnnexb out, n.ForbiddenClear) → containsIdr out = isIdr) ∧
      (hasParameterSets out = true → isIdr = true) := by
  have hout := reframeAll_arranged before raw after ParamSets.caches_nil
  rw [List.nil_append] at hout
  have hvalid := arranged_seen_valid (before ++ [raw]) raw
  refine ⟨_, _, hout, units_summary hvalid, ?_, ?_⟩
  · intro hclear
    rw [splitAnnexb_annexb hvalid] at hclear
    rw [Bool.eq_iff_iff, containsIdr_iff hvalid hclear, arranged_idr]
  · intro hset
    exact arranged_idr_of_param ((hasParameterSets_annexb hvalid).mp hset)

end Oxrdp
