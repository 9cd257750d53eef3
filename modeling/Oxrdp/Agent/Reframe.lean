import Mathlib.Data.List.Induction
import Oxrdp.Agent.AnnexB

/-!
# Reframing access units

`reframe` of `h264.rs`: the units of one encoder output are sorted into the order that
the wire format prescribes, and a keyframe gets the most recent parameter sets whether
or not the encoder repeated them.

`Sorted.put` is the body of the sorting loop.  `sorted_spec` says what the loop leaves
in each list, in terms of the units it was given, and `ParamSets.Caches` what the cache
holds after any sequence of access units.  `Reframed` is the prescribed layout.
-/

namespace Oxrdp

/-- The most recent SPS and PPS units seen, empty if there was none. -/
structure ParamSets where
  sps : List UInt8 := []
  pps : List UInt8 := []
  deriving DecidableEq, Repr

/-- Where the loop of `reframe` puts the units of one access unit. -/
structure Sorted where
  aud : Option (List UInt8) := none
  sei : List (List UInt8) := []
  sps : Option (List UInt8) := none
  pps : Option (List UInt8) := none
  slices : List (List UInt8) := []
  trailing : List (List UInt8) := []
  isIdr : Bool := false
  deriving DecidableEq, Repr

/-- One pass of the loop.  A second delimiter, and whatever has no place of its own,
rides along behind the slices. -/
def Sorted.put (s : Sorted) (nal : Nal) : Sorted :=
  if nal.kind = NalType.aud ∧ s.aud.isNone then
    { s with aud := some nal.payload }
  else if nal.kind = NalType.sei then
    { s with sei := s.sei ++ [nal.payload] }
  else if nal.kind = NalType.sps then
    { s with sps := some nal.payload }
  else if nal.kind = NalType.pps then
    { s with pps := some nal.payload }
  else if nal.kind = NalType.sliceIdr then
    { s with isIdr := true, slices := s.slices ++ [nal.payload] }
  else if nal.kind = NalType.slice then
    { s with slices := s.slices ++ [nal.payload] }
  else
    { s with trailing := s.trailing ++ [nal.payload] }

/-- A cached parameter set, if there is one. -/
def cachedSet (bytes : List UInt8) : Option (List UInt8) :=
  if bytes.isEmpty then none else some bytes

/-- Turn one encoder-produced access unit into the prescribed byte layout, updating the
cache.  The flag tells whether the unit holds an IDR slice. -/
def reframe (raw : List UInt8) (cached : ParamSets) : (List UInt8 × Bool) × ParamSets :=
  let s := (splitAnnexb raw).foldl Sorted.put {}
  let cached : ParamSets :=
    { sps := s.sps.getD cached.sps, pps := s.pps.getD cached.pps }
  let out := s.aud.elim [] (pushNal [])
  let out := s.sei.foldl pushNal out
  let out :=
    if s.isIdr then
      let out := (s.sps.or (cachedSet cached.sps)).elim out (pushNal out)
      (s.pps.or (cachedSet cached.pps)).elim out (pushNal out)
    else
      out
  let out := s.slices.foldl pushNal out
  let out := s.trailing.foldl pushNal out
  ((out, s.isIdr), cached)

/-- Pass a sequence of access units through `reframe` with one cache. -/
def reframeAll (cached : ParamSets) : List (List UInt8) → List (List UInt8 × Bool)
  | [] => []
  | raw :: rest => (reframe raw cached).1 :: reframeAll (reframe raw cached).2 rest

/-! ## The prescribed layout -/

/-- Units of one type, in order. -/
def unitsOf (kind : UInt8) (nals : List Nal) : List Nal := nals.filter (·.kind = kind)

/-- The last unit of one type. -/
def latest (kind : UInt8) (nals : List Nal) : Option Nal := (unitsOf kind nals).getLast?

/-- Slices of either kind, in order. -/
def slicesOf (nals : List Nal) : List Nal :=
  nals.filter fun n => n.kind = NalType.sliceIdr ∨ n.kind = NalType.slice

/-- A type that has a place in the layout, delimiters apart. -/
def Placed (kind : UInt8) : Prop :=
  kind = NalType.sei ∨ kind = NalType.sps ∨ kind = NalType.pps ∨
    kind = NalType.sliceIdr ∨ kind = NalType.slice

instance (kind : UInt8) : Decidable (Placed kind) :=
  inferInstanceAs (Decidable (_ ∨ _))

/-- Everything else: neither the first delimiter nor a unit with a place. -/
def remaining (nals : List Nal) : List Nal :=
  (nals.eraseP (·.kind = NalType.aud)).filter fun n => ¬ Placed n.kind

/-- A parameter set of either kind. -/
def IsParamSet (n : Nal) : Prop := n.kind = NalType.sps ∨ n.kind = NalType.pps

instance (n : Nal) : Decidable (IsParamSet n) :=
  inferInstanceAs (Decidable (_ ∨ _))

/-- The output units `out` are the prescribed arrangement of the units of one access
unit, where `seen` are all units up to and including this access unit. -/
structure Reframed (seen unit out : List Nal) (isIdr : Bool) : Prop where
  idr : isIdr = true ↔ ∃ n ∈ unit, n.kind = NalType.sliceIdr
  layout : out =
    (unitsOf NalType.aud unit).take 1 ++ unitsOf NalType.sei unit ++
      (if isIdr then (latest NalType.sps seen).toList ++ (latest NalType.pps seen).toList
        else []) ++
      slicesOf unit ++ remaining unit
  sps : (∃ n ∈ out, n.kind = NalType.sps) ↔
    isIdr = true ∧ ∃ n ∈ seen, n.kind = NalType.sps
  spsLatest : ∀ n ∈ out, n.kind = NalType.sps → latest NalType.sps seen = some n
  pps : (∃ n ∈ out, n.kind = NalType.pps) ↔
    isIdr = true ∧ ∃ n ∈ seen, n.kind = NalType.pps
  ppsLatest : ∀ n ∈ out, n.kind = NalType.pps → latest NalType.pps seen = some n
  preserved : List.Perm (out.filter (¬ IsParamSet ·)) (unit.filter (¬ IsParamSet ·))

/-! ## What the sorting loop leaves -/

/-- The units of a kind, one unit later. -/
theorem unitsOf_snoc (kind : UInt8) (nals : List Nal) (n : Nal) :
    unitsOf kind (nals ++ [n]) = unitsOf kind nals ++ if n.kind = kind then [n] else [] := by
  simp only [unitsOf, List.filter_append, List.filter_cons, List.filter_nil,
    decide_eq_true_eq]

/-- The first unit of a kind, one unit later. -/
theorem take_unitsOf_snoc (kind : UInt8) (nals : List Nal) (n : Nal) :
    (unitsOf kind (nals ++ [n])).take 1 = (unitsOf kind nals).take 1 ++
      if n.kind = kind ∧ unitsOf kind nals = [] then [n] else [] := by
  rw [unitsOf_snoc]
  cases unitsOf kind nals with
  | nil => by_cases h : n.kind = kind <;> simp [h]
  | cons first rest => simp

/-- The latest unit of a kind, one unit later. -/
theorem latest_snoc (kind : UInt8) (nals : List Nal) (n : Nal) :
    latest kind (nals ++ [n]) = if n.kind = kind then some n else latest kind nals := by
  rw [latest, unitsOf_snoc]
  split
  · exact List.getLast?_concat
  · rw [List.append_nil, latest]

/-- The slices, one unit later. -/
theorem slicesOf_snoc (nals : List Nal) (n : Nal) :
    slicesOf (nals ++ [n]) = slicesOf nals ++
      if n.kind = NalType.sliceIdr ∨ n.kind = NalType.slice then [n] else [] := by
  simp only [slicesOf, List.filter_append, List.filter_cons, List.filter_nil,
    decide_eq_true_eq]

/-- The first delimiter is the one that is taken out. -/
theorem remaining_snoc (nals : List Nal) (n : Nal) :
    remaining (nals ++ [n]) = remaining nals ++
      if ¬ Placed n.kind ∧ ¬ (n.kind = NalType.aud ∧ unitsOf NalType.aud nals = []) then [n]
      else [] := by
  by_cases hseen : unitsOf NalType.aud nals = []
  · have hnone : ∀ k ∈ nals, k.kind ≠ NalType.aud := by
      simpa [unitsOf] using hseen
    have hkeep : nals.eraseP (·.kind = NalType.aud) = nals :=
      List.eraseP_of_forall_not (by simpa using hnone)
    by_cases haud : n.kind = NalType.aud
    · have hfirst : (nals ++ [n]).eraseP (·.kind = NalType.aud) = nals := by
        rw [List.eraseP_append_right _ (by simpa using hnone)]
        simp [haud]
      simp [remaining, hfirst, hkeep, hseen, haud]
    · have hboth : (nals ++ [n]).eraseP (·.kind = NalType.aud) = nals ++ [n] := by
        rw [List.eraseP_append_right _ (by simpa using hnone)]
        simp [haud]
      simp [remaining, hboth, hkeep, haud, List.filter_cons]
  · obtain ⟨k, hk⟩ := List.exists_mem_of_ne_nil _ hseen
    obtain ⟨hmem, hkind⟩ := List.mem_filter.mp hk
    have hearlier : (nals ++ [n]).eraseP (·.kind = NalType.aud) =
        nals.eraseP (·.kind = NalType.aud) ++ [n] :=
      List.eraseP_append_left (p := fun k => k.kind = NalType.aud) hkind [n] hmem
    simp [remaining, hearlier, hseen, List.filter_cons]

/-- What the loop has made of these units. -/
def Sorted.of (nals : List Nal) : Sorted where
  aud := (unitsOf NalType.aud nals).head?.map Nal.payload
  sei := (unitsOf NalType.sei nals).map Nal.payload
  sps := (latest NalType.sps nals).map Nal.payload
  pps := (latest NalType.pps nals).map Nal.payload
  slices := (slicesOf nals).map Nal.payload
  trailing := (remaining nals).map Nal.payload
  isIdr := nals.any (·.kind = NalType.sliceIdr)

/-- The types that the loop tells apart. -/
theorem kind_cases (kind : UInt8) :
    kind = NalType.aud ∨ kind = NalType.sei ∨ kind = NalType.sps ∨ kind = NalType.pps ∨
      kind = NalType.sliceIdr ∨ kind = NalType.slice ∨ kind ≠ NalType.aud ∧ ¬ Placed kind := by
  unfold Placed
  tauto

/-- The sorting loop does one unit at a time. -/
theorem Sorted.put_of (nals : List Nal) (n : Nal) :
    (Sorted.of nals).put n = Sorted.of (nals ++ [n]) := by
  simp only [Sorted.of, unitsOf_snoc, latest_snoc, slicesOf_snoc, remaining_snoc, List.any_append]
  rcases kind_cases n.kind with h | h | h | h | h | h | ⟨haud, h⟩
  · cases hseen : unitsOf NalType.aud nals with
    | nil => simp +decide [Sorted.put, h]
    | cons first rest => simp +decide [Sorted.put, h, Placed]
  · simp +decide [Sorted.put, h, Placed]
  · simp +decide [Sorted.put, h, Placed]
  · simp +decide [Sorted.put, h, Placed]
  · simp +decide [Sorted.put, h, Placed]
  · simp +decide [Sorted.put, h, Placed]
  · simp only [Placed, not_or] at h
    simp [Sorted.put, h, haud, Placed]

/-- **The sorting loop** does what `Sorted.of` says of the list. -/
theorem sorted_spec (nals : List Nal) : nals.foldl Sorted.put {} = Sorted.of nals := by
  induction nals using List.reverseRecOn with
  | nil => rfl
  | append_singleton nals n ih =>
      rw [List.foldl_append, ih, List.foldl_cons, List.foldl_nil, Sorted.put_of]

/-! ## What is written -/

/-- Units one after the other are framed one after the other. -/
theorem annexb_append (nals more : List Nal) : annexb (nals ++ more) = annexb nals ++ annexb more :=
  List.flatMap_append

/-- Framing units appends them. -/
theorem foldl_pushNal (out : List UInt8) (nals : List Nal) :
    (nals.map Nal.payload).foldl pushNal out = out ++ annexb nals := by
  induction nals generalizing out with
  | nil => simp [annexb]
  | cons n rest ih =>
      rw [List.map_cons, List.foldl_cons, ih]
      simp [pushNal, annexb]

/-- An absent unit is framed by nothing. -/
theorem elim_pushNal (out : List UInt8) (nal : Option Nal) :
    (nal.map Nal.payload).elim out (pushNal out) = out ++ annexb nal.toList := by
  cases nal with
  | none => simp [annexb]
  | some n => simp [pushNal, annexb]

/-- The cache holds the last parameter sets of these units. -/
structure ParamSets.Caches (cached : ParamSets) (seen : List Nal) : Prop where
  sps : cached.sps = ((latest NalType.sps seen).map Nal.payload).getD []
  pps : cached.pps = ((latest NalType.pps seen).map Nal.payload).getD []
  valid : ∀ n ∈ seen, n.Valid

/-- An empty cache has seen nothing. -/
theorem ParamSets.caches_nil : ParamSets.Caches {} [] :=
  ⟨rfl, rfl, by simp⟩

/-- The latest of a kind is one of that kind. -/
theorem latest_mem {kind : UInt8} {nals : List Nal} {n : Nal} (h : latest kind nals = some n) :
    n ∈ nals ∧ n.kind = kind := by
  have hmem := List.mem_filter.mp (List.mem_of_getLast? h)
  exact ⟨hmem.1, of_decide_eq_true hmem.2⟩

/-- The latest of two lists is that of the second, or else of the first. -/
theorem latest_append (kind : UInt8) (earlier nals : List Nal) :
    latest kind (earlier ++ nals) = (latest kind nals).or (latest kind earlier) := by
  simp [latest, unitsOf, List.getLast?_append]

/-- A parameter set of this unit, or else the cached one, is the last one seen. -/
theorem latest_or_cached {kind : UInt8} {seen : List Nal} {bytes : List UInt8}
    (nals : List Nal) (hvalid : ∀ n ∈ seen, n.Valid)
    (hcache : bytes = ((latest kind seen).map Nal.payload).getD []) :
    ((latest kind nals).map Nal.payload).getD bytes =
        ((latest kind (seen ++ nals)).map Nal.payload).getD [] ∧
      (((latest kind nals).map Nal.payload).or
        (cachedSet (((latest kind nals).map Nal.payload).getD bytes))) =
          (latest kind (seen ++ nals)).map Nal.payload := by
  rw [latest_append]
  cases hnow : latest kind nals with
  | some n => simp
  | none =>
      cases hbefore : latest kind seen with
      | none =>
          rw [hbefore] at hcache
          simp [hcache, cachedSet]
      | some n =>
          have hne : n.payload ≠ [] := (hvalid n (latest_mem hbefore).1).nonempty
          rw [hbefore] at hcache
          simp [hcache, cachedSet, hne]

/-- The units of the output, in order. -/
def arranged (seen unit : List Nal) : List Nal :=
  (unitsOf NalType.aud unit).take 1 ++ unitsOf NalType.sei unit ++
    (if unit.any (·.kind = NalType.sliceIdr) then
      (latest NalType.sps seen).toList ++ (latest NalType.pps seen).toList
    else []) ++
    slicesOf unit ++ remaining unit

/-- What one call writes, and what it leaves in the cache. -/
theorem reframe_spec {raw : List UInt8} {cached : ParamSets} {seen : List Nal}
    (h : cached.Caches seen) :
    reframe raw cached =
      ((annexb (arranged (seen ++ splitAnnexb raw) (splitAnnexb raw)),
        (splitAnnexb raw).any (·.kind = NalType.sliceIdr)),
       { sps := ((latest NalType.sps (seen ++ splitAnnexb raw)).map Nal.payload).getD [],
         pps := ((latest NalType.pps (seen ++ splitAnnexb raw)).map Nal.payload).getD [] }) := by
  obtain ⟨hsps, hspsOut⟩ := latest_or_cached (splitAnnexb raw) h.valid h.sps
  obtain ⟨hpps, hppsOut⟩ := latest_or_cached (splitAnnexb raw) h.valid h.pps
  rw [hsps] at hspsOut
  rw [hpps] at hppsOut
  have haud : (unitsOf NalType.aud (splitAnnexb raw)).head?.toList =
      (unitsOf NalType.aud (splitAnnexb raw)).take 1 := by
    cases unitsOf NalType.aud (splitAnnexb raw) with
    | nil => rfl
    | cons first rest => rfl
  simp only [reframe, sorted_spec, Sorted.of, hsps, hpps, hspsOut, hppsOut, foldl_pushNal,
    elim_pushNal, haud, arranged, annexb_append]
  congr 2
  split
  · simp [annexb_append]
  · simp [annexb]

/-! The units that have a place of their own, none of them a parameter set. -/

/-- Of the other kinds no unit is a parameter set. -/
theorem unitsOf_plain {kind : UInt8} {unit : List Nal} {n : Nal}
    (hkind : kind ≠ NalType.sps ∧ kind ≠ NalType.pps) (h : n ∈ unitsOf kind unit) :
    n ∈ unit ∧ ¬ IsParamSet n := by
  obtain ⟨hmem, hn⟩ := List.mem_filter.mp h
  simp only [decide_eq_true_eq] at hn
  refine ⟨hmem, ?_⟩
  rw [IsParamSet, hn]
  exact not_or.mpr hkind

/-- A slice is no parameter set. -/
theorem slicesOf_plain {unit : List Nal} {n : Nal} (h : n ∈ slicesOf unit) :
    n ∈ unit ∧ ¬ IsParamSet n := by
  obtain ⟨hmem, hn⟩ := List.mem_filter.mp h
  simp only [decide_eq_true_eq] at hn
  refine ⟨hmem, ?_⟩
  rcases hn with hn | hn
  · simp +decide [IsParamSet, hn]
  · simp +decide [IsParamSet, hn]

/-- What remains has no parameter sets. -/
theorem remaining_plain {unit : List Nal} {n : Nal} (h : n ∈ remaining unit) :
    n ∈ unit ∧ ¬ IsParamSet n := by
  obtain ⟨hmem, hn⟩ := List.mem_filter.mp h
  simp only [decide_eq_true_eq, Placed, not_or] at hn
  exact ⟨List.mem_of_mem_eraseP hmem, not_or.mpr ⟨hn.2.1, hn.2.2.1⟩⟩

/-- What stands in the output is a unit of this access unit, or a parameter set of a
keyframe. -/
theorem mem_arranged {seen unit : List Nal} {n : Nal} (h : n ∈ arranged seen unit) :
    n ∈ unit ∧ ¬ IsParamSet n ∨
      unit.any (·.kind = NalType.sliceIdr) = true ∧
        (latest NalType.sps seen = some n ∨ latest NalType.pps seen = some n) := by
  simp only [arranged, List.mem_append] at h
  rcases h with (((haud | hsei) | hparam) | hslice) | hrest
  · exact .inl (unitsOf_plain (by decide) (List.mem_of_mem_take haud))
  · exact .inl (unitsOf_plain (by decide) hsei)
  · split at hparam
    · rename_i hidr
      simp only [List.mem_append, Option.mem_toList] at hparam
      exact .inr ⟨hidr, hparam⟩
    · cases hparam
  · exact .inl (slicesOf_plain hslice)
  · exact .inl (remaining_plain hrest)

/-- Valid units are arranged to valid ones. -/
theorem arranged_valid {seen unit : List Nal} (hseen : ∀ n ∈ seen, n.Valid)
    (hunit : ∀ n ∈ unit, n.Valid) : ∀ n ∈ arranged seen unit, n.Valid := by
  intro n hn
  rcases mem_arranged hn with ⟨hmem, -⟩ | ⟨-, hsps | hpps⟩
  · exact hunit n hmem
  · exact hseen n (latest_mem hsps).1
  · exact hseen n (latest_mem hpps).1

/-- The parameter sets of the output are the last ones seen, and only a keyframe has
them. -/
theorem arranged_param {seen unit : List Nal} {kind : UInt8} {n : Nal}
    (hkind : kind = NalType.sps ∨ kind = NalType.pps) :
    n ∈ arranged seen unit ∧ n.kind = kind ↔
      unit.any (·.kind = NalType.sliceIdr) = true ∧ latest kind seen = some n := by
  constructor
  · intro h
    obtain ⟨hmem, hn⟩ := h
    rcases mem_arranged hmem with ⟨-, hnot⟩ | ⟨hidr, hsps | hpps⟩
    · rw [← hn] at hkind
      exact absurd hkind hnot
    · have hk : kind = NalType.sps := hn.symm.trans (latest_mem hsps).2
      exact ⟨hidr, hk ▸ hsps⟩
    · have hk : kind = NalType.pps := hn.symm.trans (latest_mem hpps).2
      exact ⟨hidr, hk ▸ hpps⟩
  · intro h
    obtain ⟨hidr, hlast⟩ := h
    refine ⟨?_, (latest_mem hlast).2⟩
    simp only [arranged, if_pos hidr, List.mem_append, Option.mem_toList]
    rcases hkind with rfl | rfl
    · tauto
    · tauto

/-- There is a latest of a kind exactly if there is one at all. -/
theorem exists_latest {kind : UInt8} {nals : List Nal} :
    (∃ n, latest kind nals = some n) ↔ ∃ n ∈ nals, n.kind = kind := by
  constructor
  · intro h
    obtain ⟨n, hn⟩ := h
    exact ⟨n, latest_mem hn⟩
  · intro h
    obtain ⟨n, hmem, hkind⟩ := h
    have hne : unitsOf kind nals ≠ [] :=
      List.ne_nil_of_mem (List.mem_filter.mpr ⟨hmem, decide_eq_true hkind⟩)
    exact ⟨_, List.getLast?_eq_getLast_of_ne_nil hne⟩

/-- Parameter sets are put in front of a key frame, whether it has them or the cache does. -/
theorem arranged_has_param {seen unit : List Nal} {kind : UInt8}
    (hkind : kind = NalType.sps ∨ kind = NalType.pps) :
    (∃ n ∈ arranged seen unit, n.kind = kind) ↔
      unit.any (·.kind = NalType.sliceIdr) = true ∧ ∃ n ∈ seen, n.kind = kind := by
  simp only [arranged_param hkind, exists_and_left, exists_latest]

/-- A unit is counted where the condition holds. -/
theorem count_ite {c : Prop} [Decidable c] (n k : Nal) :
    (if c then [k] else []).count n = if c then [k].count n else 0 := by
  split
  · rfl
  · rfl

/-- Taken together, the lists that the units were sorted into hold each unit as often as
the access unit did. -/
theorem sorted_count (unit : List Nal) (n : Nal) :
    ((unitsOf NalType.aud unit).take 1).count n + (unitsOf NalType.sei unit).count n +
        (slicesOf unit).count n + (remaining unit).count n =
      (unit.filter (¬ IsParamSet ·)).count n := by
  induction unit using List.reverseRecOn with
  | nil => rfl
  | append_singleton unit k ih =>
      -- one more unit is counted once on each side, wherever it was put
      have hfilter : (unit ++ [k]).filter (¬ IsParamSet ·) =
          unit.filter (¬ IsParamSet ·) ++ if ¬ IsParamSet k then [k] else [] := by
        simp only [List.filter_append, List.filter_cons, List.filter_nil, decide_eq_true_eq]
      rw [take_unitsOf_snoc, unitsOf_snoc, slicesOf_snoc, remaining_snoc, hfilter]
      simp only [List.count_append, count_ite, ← ih]
      generalize [k].count n = c
      rcases kind_cases k.kind with h | h | h | h | h | h | ⟨haud, h⟩
      · by_cases hseen : unitsOf NalType.aud unit = []
        · simp +decide [h, hseen, IsParamSet, Placed]
          omega
        · simp +decide [h, hseen, IsParamSet, Placed]
          omega
      · simp +decide [h, IsParamSet, Placed]
        omega
      · simp +decide [h, IsParamSet, Placed]
      · simp +decide [h, IsParamSet, Placed]
      · simp +decide [h, IsParamSet, Placed]
        omega
      · simp +decide [h, IsParamSet, Placed]
        omega
      · simp only [Placed, not_or] at h
        simp [h, haud, IsParamSet, Placed]
        omega

/-- Plain units stay where parameter sets are taken out. -/
theorem filter_plain {nals unit : List Nal}
    (h : ∀ n ∈ nals, n ∈ unit ∧ ¬ IsParamSet n) : nals.filter (¬ IsParamSet ·) = nals :=
  List.filter_eq_self.mpr fun n hn => decide_eq_true (h n hn).2

/-- A parameter set is not kept for itself. -/
theorem filter_params (seen : List Nal) (isIdr : Bool) :
    (if isIdr then (latest NalType.sps seen).toList ++ (latest NalType.pps seen).toList
      else []).filter (¬ IsParamSet ·) = [] := by
  apply List.filter_eq_nil_iff.mpr
  intro n hn
  split at hn
  · simp only [List.mem_append, Option.mem_toList] at hn
    have hset : IsParamSet n := by
      rcases hn with hn | hn
      · exact .inl (latest_mem hn).2
      · exact .inr (latest_mem hn).2
    simp [hset]
  · cases hn

/-- Every unit that is not a parameter set is kept, as often as it was there. -/
theorem arranged_preserved (seen unit : List Nal) :
    List.Perm ((arranged seen unit).filter (¬ IsParamSet ·)) (unit.filter (¬ IsParamSet ·)) := by
  have haud : ((unitsOf NalType.aud unit).take 1).filter (¬ IsParamSet ·) = _ :=
    filter_plain fun n hn => unitsOf_plain (by decide) (List.mem_of_mem_take hn)
  have hsei : (unitsOf NalType.sei unit).filter (¬ IsParamSet ·) = _ :=
    filter_plain fun n hn => unitsOf_plain (by decide) hn
  have hslices : (slicesOf unit).filter (¬ IsParamSet ·) = _ :=
    filter_plain fun n hn => slicesOf_plain hn
  have hrest : (remaining unit).filter (¬ IsParamSet ·) = _ :=
    filter_plain fun n hn => remaining_plain hn
  apply List.perm_iff_count.mpr
  intro n
  rw [arranged, List.filter_append, List.filter_append, List.filter_append, List.filter_append,
    haud, hsei, hslices, hrest, filter_params, List.append_nil, List.count_append,
    List.count_append, List.count_append, sorted_count]

/-- The arrangement has the prescribed layout. -/
theorem arranged_reframed (seen unit : List Nal) :
    Reframed seen unit (arranged seen unit) (unit.any (·.kind = NalType.sliceIdr)) where
  idr := by simp
  layout := rfl
  sps := arranged_has_param (.inl rfl)
  spsLatest := fun n hn hkind => ((arranged_param (.inl rfl)).mp ⟨hn, hkind⟩).2
  pps := arranged_has_param (.inr rfl)
  ppsLatest := fun n hn hkind => ((arranged_param (.inr rfl)).mp ⟨hn, hkind⟩).2
  preserved := arranged_preserved seen unit

/-- After one call the cache holds the last parameter sets including this unit's. -/
theorem reframe_caches (raw : List UInt8) {cached : ParamSets} {seen : List Nal}
    (h : cached.Caches seen) : (reframe raw cached).2.Caches (seen ++ splitAnnexb raw) := by
  rw [reframe_spec h]
  refine ⟨rfl, rfl, ?_⟩
  intro n hn
  rcases List.mem_append.mp hn with hn | hn
  · exact h.valid n hn
  · exact splitAnnexb_valid raw n hn

/-- Whatever units were passed through the cache before, the output for the next one is
its arrangement, written behind start codes. -/
theorem reframeAll_arranged (before : List (List UInt8)) (raw : List UInt8)
    (after : List (List UInt8)) {cached : ParamSets} {seen : List Nal}
    (h : cached.Caches seen) :
    (reframeAll cached (before ++ raw :: after))[before.length]? =
      some (annexb (arranged (seen ++ (before ++ [raw]).flatMap splitAnnexb) (splitAnnexb raw)),
        (splitAnnexb raw).any (·.kind = NalType.sliceIdr)) := by
  induction before generalizing cached seen with
  | nil =>
      rw [List.nil_append, reframeAll, reframe_spec h]
      simp
  | cons first rest ih =>
      have hnext := ih (reframe_caches first h)
      simpa [reframeAll] using hnext

/-- All units that were passed through are valid, and so is what is arranged of them. -/
theorem arranged_seen_valid (raws : List (List UInt8)) (raw : List UInt8) :
    ∀ n ∈ arranged (raws.flatMap splitAnnexb) (splitAnnexb raw), n.Valid := by
  apply arranged_valid
  · intro n hn
    obtain ⟨unit, -, hn⟩ := List.mem_flatMap.mp hn
    exact splitAnnexb_valid unit n hn
  · exact splitAnnexb_valid raw

/-- **Reframing.**  Whatever units were passed through one cache before, the output for
the next has the prescribed layout. -/
theorem reframe_layout (before : List (List UInt8)) (raw : List UInt8)
    (after : List (List UInt8)) :
    ∃ out isIdr, (reframeAll {} (before ++ raw :: after))[before.length]? = some (out, isIdr) ∧
      Reframed ((before ++ [raw]).flatMap splitAnnexb) (splitAnnexb raw) (splitAnnexb out)
        isIdr := by
  have h := reframeAll_arranged before raw after ParamSets.caches_nil
  rw [List.nil_append] at h
  refine ⟨_, _, h, ?_⟩
  rw [splitAnnexb_annexb (arranged_seen_valid (before ++ [raw]) raw)]
  exact arranged_reframed _ _

end Oxrdp
