import Oxrdp.Agent.Sps
import Oxrdp.Session.AccessUnits
import Mathlib.Data.List.Find

/-!
# Both ends read arbitrary bytes

`AccessUnits` compares the two parsers on what the agent writes.  On arbitrary bytes they
differ.  The client skips the byte behind a start code as a header, so it misses a short code
that stands right there, and the one behind that is found again; it passes over units whose
forbidden bit is set; and it reads the profile of an SPS from the payload as a whole, so also
where the unit has ended before.

A **spot** is a place behind a start code, with what both parsers make of it.  `Legible` is what
has to hold of the spots of a payload for both to give the same answers.
-/

namespace Oxrdp

/-- A place behind a start code: the bytes up to the next code, all the bytes that are left, and
whether the client's scan passes over it. -/
structure Spot where
  unit : List UInt8
  rest : List UInt8
  masked : Bool
  deriving DecidableEq, Repr

/-- The places behind the start codes; with `skip` the client's scan begins one byte later. -/
def spotsFrom (skip : Bool) : List UInt8 → List Spot
  | 0 :: 0 :: 1 :: rest => { unit := (cut rest).1, rest, masked := skip } :: spotsFrom (!skip) rest
  -- the client finds the short code within the long one, and skips at most its first zero
  | 0 :: 0 :: 0 :: 1 :: rest =>
      { unit := (cut rest).1, rest, masked := false } :: spotsFrom true rest
  | _ :: rest => spotsFrom false rest
  | [] => []

def spots (data : List UInt8) : List Spot := spotsFrom false data

namespace Spot

/-- The first byte of the unit; an empty unit has none. -/
def header (s : Spot) : UInt8 := s.unit.headD 0

def IsSps (s : Spot) : Prop := s.header &&& 0x1f = NalType.sps

/-- The client takes what stands here for a unit. -/
def Readable (s : Spot) : Prop := s.masked = false ∧ s.header &&& 0x80 = 0

instance (s : Spot) : Decidable s.IsSps := inferInstanceAs (Decidable (_ = _))

instance (s : Spot) : Decidable s.Readable := inferInstanceAs (Decidable (_ ∧ _))

end Spot

namespace Spot

/-- What the client reads of another SPS, or of none, is what this one says. -/
def ReplacedBy (s : Spot) : Option Spot → Prop
  | none => s.unit.length < 4
  | some shown =>
      if s.unit.length < 4 then shown.rest.length < 4
      else (shown.rest.take 4).drop 1 = (s.unit.take 4).drop 1

end Spot

/-- The first SPS is long enough, or has nothing behind it that could be read on in; and if the
client cannot read it, then the one that it reads instead does as well. -/
def ProfileLegible (data : List UInt8) : Prop :=
  ∀ s, (spots data).find? (fun s => s.IsSps) = some s →
    (s.Readable → 4 ≤ s.unit.length ∨ s.rest.length < 4) ∧
      (¬ s.Readable → s.ReplacedBy ((spots data).find? fun s => s.Readable && s.IsSps))

/-- What the payload has to be like for both parsers to agree on it. -/
structure Legible (data : List UInt8) : Prop where
  idr : (∃ s ∈ spots data, idrHeader s.header = true) →
    ∃ s ∈ spots data, idrHeader s.header = true ∧ s.masked = false
  profile : ProfileLegible data

/-! ## What the agent finds -/

/-- The spots are the units that are cut. -/
theorem spotsFrom_units (skip : Bool) (data : List UInt8) :
    (spotsFrom skip data).map Spot.unit = (cut data).2 := by
  fun_induction spotsFrom skip data with
  | case1 skip rest ih => rw [List.map_cons, ih, cut]
  | case2 skip rest ih => rw [List.map_cons, ih, cut]
  | case3 skip b rest h3 h4 ih =>
      rw [ih, cut]
      · exact h3
      · exact h4
  | case4 skip => rfl

/-- A unit is what stands before the next code. -/
theorem spotsFrom_unit (skip : Bool) (data : List UInt8) :
    ∀ s ∈ spotsFrom skip data, s.unit = (cut s.rest).1 := by
  fun_induction spotsFrom skip data with
  | case1 skip rest ih => exact List.forall_mem_cons.mpr ⟨rfl, ih⟩
  | case2 skip rest ih => exact List.forall_mem_cons.mpr ⟨rfl, ih⟩
  | case3 skip b rest h3 h4 ih => exact ih
  | case4 skip => exact nofun

/-- An empty unit stands where the next code begins, with a zero. -/
theorem headD_cut (data : List UInt8) : (cut data).1.headD 0 = data.headD 0 := by
  fun_cases cut data with
  | case1 rest => rfl
  | case2 rest => rfl
  | case3 b rest h3 h4 => rfl
  | case4 => rfl

/-! ## What the client finds -/

/-- The bytes from each header on that the client's scan comes to. -/
def behindCodes : List UInt8 → List (List UInt8)
  | 0 :: 0 :: 1 :: header :: rest => (header :: rest) :: behindCodes rest
  | _ :: rest => behindCodes rest
  | [] => []

/-- A byte that begins no start code changes nothing. -/
theorem behindCodes_cons {b : UInt8} {rest : List UInt8} (h : ¬ [0, 0, 1] <+: b :: rest) :
    behindCodes (b :: rest) = behindCodes rest := by
  rw [behindCodes]
  intro header tail hb hrest
  rw [hb, hrest] at h
  exact h ⟨header :: tail, rfl⟩

/-- The headers that are found by their index are those behind a code. -/
theorem headersFrom_behindCodes (data : List UInt8) : ∀ before : List UInt8,
    (headersFrom data before.length).map ((before ++ data).drop ·) = behindCodes data := by
  fun_induction behindCodes data with
  | case1 header rest ih =>
      intro before
      have hrest := ih (before ++ [0, 0, 1, header])
      rw [headersFrom, List.map_cons]
      simp only [List.length_append, List.append_assoc, List.length_cons, List.length_nil] at hrest
      refine congrArg₂ List.cons ?_ hrest
      simp [List.drop_append]
  | case2 b rest h ih =>
      intro before
      have hrest := ih (before ++ [b])
      simp only [List.length_append, List.append_assoc, List.length_singleton] at hrest
      rw [headersFrom]
      · exact hrest
      · exact h
  | case3 => exact fun _ => rfl

/-- Behind the codes are the spots that are not masked and not empty. -/
theorem behindCodes_spots (skip : Bool) (data : List UInt8) :
    behindCodes (if skip then data.tail else data) =
      ((spotsFrom skip data).filter fun s => !s.masked && !s.rest.isEmpty).map Spot.rest := by
  fun_induction spotsFrom skip data with
  | case1 skip rest ih =>
      cases skip with
      | false =>
          cases rest with
          | nil => rfl
          | cons header tail =>
              simp only [Bool.not_false, if_true, List.tail_cons] at ih
              simp [behindCodes, ih]
      | true =>
          simp only [Bool.not_true, Bool.false_eq_true, if_false] at ih
          simp [behindCodes, ih]
  | case2 skip rest ih =>
      have hlong : behindCodes (0 :: 0 :: 0 :: 1 :: rest) = behindCodes (0 :: 0 :: 1 :: rest) :=
        behindCodes_cons (by simp)
      have hcode : behindCodes (if skip then (0 :: 0 :: 0 :: 1 :: rest).tail
          else 0 :: 0 :: 0 :: 1 :: rest) = behindCodes (0 :: 0 :: 1 :: rest) := by
        cases skip with
        | false => exact hlong
        | true => rfl
      rw [hcode]
      cases rest with
      | nil => rfl
      | cons header tail =>
          simp only [if_true, List.tail_cons] at ih
          simp [behindCodes, ih]
  | case3 skip b rest h3 h4 ih =>
      simp only [Bool.false_eq_true, if_false] at ih
      have hhead : ¬ [0, 0, 1] <+: b :: rest := by
        rintro ⟨tail, htail⟩
        exact h3 tail (List.cons.inj htail).1.symm (List.cons.inj htail).2.symm
      cases skip with
      | false =>
          rw [← ih]
          exact behindCodes_cons hhead
      | true => exact ih
  | case4 skip => cases skip <;> rfl

/-- What the client finds, by spots: those that are not masked. -/
theorem codesFrom_spots (data : List UInt8) :
    (codesFrom data 0).map (data.drop ·) =
      ((spots data).filter fun s => !s.masked && !s.rest.isEmpty).map Spot.rest := by
  have hcodes := headersFrom_behindCodes data []
  rw [List.nil_append, List.length_nil] at hcodes
  rw [codesFrom_eq, List.drop_zero, hcodes]
  exact behindCodes_spots false data

/-- The byte behind a code is the header of its unit. -/
theorem header_eq {data : List UInt8} {s : Spot} (h : s ∈ spots data) :
    s.header = s.rest.headD 0 := by
  rw [Spot.header, spotsFrom_unit false data s h, headD_cut]

/-- Looking for a header that the scan comes to is looking for a spot; no header that is asked
for is a zero. -/
theorem find?_codesFrom (data : List UInt8) {p : UInt8 → Bool} (hzero : p 0 = false) :
    ((codesFrom data 0).find? fun start => p (data.getD start 0)).map (data.drop ·) =
      ((spots data).find? fun s => !s.masked && p s.header).map Spot.rest := by
  have hbytes : ((codesFrom data 0).find? fun start => p (data.getD start 0)).map (data.drop ·) =
      ((codesFrom data 0).map (data.drop ·)).find? fun behind => p (behind.headD 0) := by
    rw [List.find?_map]
    congr 2
    funext start
    simp
  rw [hbytes, codesFrom_spots, List.find?_map, List.find?_filter]
  congr 1
  apply List.find?_congr
  intro s hs
  cases hrest : s.rest with
  | nil => simp [header_eq hs, hrest, hzero]
  | cons header tail => simp [header_eq hs, hrest]

/-- Any header with a property is that of a spot. -/
theorem any_codesFrom (data : List UInt8) {p : UInt8 → Bool} (hzero : p 0 = false) :
    ((codesFrom data 0).any fun start => p (data.getD start 0)) =
      (spots data).any fun s => !s.masked && p s.header := by
  have hfind := congrArg Option.isSome (find?_codesFrom data hzero)
  rw [Option.isSome_map, Option.isSome_map] at hfind
  rw [Bool.eq_iff_iff, List.any_eq_true, ← List.find?_isSome, hfind, List.find?_isSome,
    List.any_eq_true]

/-- The client looks for a key frame in the headers of the spots. -/
theorem containsIdr_spots (data : List UInt8) :
    containsIdr data = (spots data).any fun s => !s.masked && idrHeader s.header := by
  rw [containsIdr, containsIdrFrom_eq]
  exact any_codesFrom data rfl

/-- The client's profile in the form of the agent's. -/
def StreamProfile.fields (p : StreamProfile) : UInt8 × UInt8 × UInt8 :=
  (p.profileIdc, p.constraints, p.levelIdc)

/-- `stream_profile` reads on from the first header of an SPS that the scan comes to. -/
theorem streamProfileFrom_eq (data : List UInt8) (index : Nat) :
    (streamProfileFrom data index).map StreamProfile.fields =
      ((codesFrom data index).find? fun start => spsHeader (data.getD start 0)).bind
        fun start => spsProfile (data.drop start) := by
  fun_induction streamProfileFrom data index with
  | case1 index h hcode hsps hbody =>
      rw [codesFrom, dif_pos h, if_pos hcode, List.find?_cons_of_pos]
      · have hprofile : data[index + 4]? = some data[index + 4] := List.getElem?_eq_getElem _
        have hflags : data[index + 5]? = some data[index + 5] := List.getElem?_eq_getElem _
        have hlevel : data[index + 6]? = some data[index + 6] := List.getElem?_eq_getElem _
        simp only [Option.bind_some, spsProfile, List.getElem?_drop]
        rw [hprofile, hflags, hlevel]
        rfl
      · simpa [h] using hsps
  | case2 index h hcode hsps hbody =>
      rw [codesFrom, dif_pos h, if_pos hcode, List.find?_cons_of_pos]
      · have hlevel : data[index + 6]? = none := List.getElem?_eq_none (by omega)
        simp only [Option.bind_some, spsProfile, List.getElem?_drop]
        rw [hlevel]
        cases data[index + 3 + 1]? <;> cases data[index + 3 + 2]? <;> rfl
      · simpa [h] using hsps
  | case3 index h hcode hsps ih =>
      rw [codesFrom, dif_pos h, if_pos hcode, List.find?_cons_of_neg, ih]
      simpa [h] using hsps
  | case4 index h hno ih => rw [codesFrom, dif_pos h, if_neg hno, ih]
  | case5 index h => rw [codesFrom, dif_neg h]; rfl

/-- The first SPS that the client can read, if any. -/
def shownSps (data : List UInt8) : Option Spot :=
  (spots data).find? fun s => s.Readable && s.IsSps

/-- The client's profile is that of the shown parameter set. -/
theorem streamProfile_spots (data : List UInt8) :
    (streamProfile data).map StreamProfile.fields =
      (shownSps data).bind fun s => spsProfile s.rest := by
  have hfind := find?_codesFrom data (p := spsHeader) rfl
  have hshown : ((spots data).find? fun s => !s.masked && spsHeader s.header) = shownSps data := by
    apply List.find?_congr
    intro s _
    rw [Bool.eq_iff_iff]
    simp only [Bool.and_eq_true, Bool.not_eq_true', decide_eq_true_eq, spsHeader]
    exact and_assoc.symm
  rw [hshown] at hfind
  have hbind := congrArg (Option.bind · spsProfile) hfind
  rw [streamProfile, streamProfileFrom_eq]
  simpa only [Option.bind_map, Function.comp_def] using hbind

/-! ## Both together -/

/-- There is no profile in fewer than four bytes. -/
theorem spsProfile_eq_none {bytes : List UInt8} : spsProfile bytes = none ↔ bytes.length < 4 := by
  match bytes with
  | [] | [_] | [_, _] | [_, _, _] => simp [spsProfile]
  | _ :: _ :: _ :: _ :: _ => simp [spsProfile]

/-- Of four bytes or more, the profile is the second to the fourth. -/
theorem spsProfile_eq_iff {a b : List UInt8} (ha : 4 ≤ a.length) (hb : 4 ≤ b.length) :
    spsProfile a = spsProfile b ↔ (a.take 4).drop 1 = (b.take 4).drop 1 := by
  match a, b, ha, hb with
  | _ :: _ :: _ :: _ :: _, _ :: _ :: _ :: _ :: _, _, _ => simp [spsProfile]

/-- A unit that is long enough has the profile that stands in the payload. -/
theorem spsProfile_rest {data : List UInt8} {s : Spot} (hs : s ∈ spots data) :
    spsProfile s.rest = spsProfile s.unit ↔ 4 ≤ s.unit.length ∨ s.rest.length < 4 := by
  have hprefix : s.unit <+: s.rest := by
    rw [spotsFrom_unit false data s hs]
    exact cut_fst_start s.rest
  have hle := hprefix.length_le
  by_cases hlong : 4 ≤ s.unit.length
  · have htake : s.rest.take 4 = s.unit.take 4 := by
      obtain ⟨behind, hbehind⟩ := hprefix
      rw [← hbehind, List.take_append_of_le_length hlong]
    rw [spsProfile_eq_iff (by omega) hlong, htake]
    simp [hlong]
  · rw [spsProfile_eq_none.mpr (Nat.lt_of_not_le hlong), spsProfile_eq_none]
    simp [hlong]

/-- A spot is replaced by another with the same profile. -/
theorem Spot.replacedBy_iff (s : Spot) (shown : Option Spot) :
    s.ReplacedBy shown ↔ (shown.bind fun v => spsProfile v.rest) = spsProfile s.unit := by
  cases shown with
  | none =>
      rw [Option.bind_none, eq_comm, spsProfile_eq_none]
      rfl
  | some v =>
      rw [Option.bind_some, ReplacedBy]
      split_ifs with hshort
      · rw [spsProfile_eq_none.mpr hshort, spsProfile_eq_none]
      · by_cases hv : v.rest.length < 4
        · -- fewer bytes than the agent reads are not the same bytes
          have hne : (v.rest.take 4).drop 1 ≠ (s.unit.take 4).drop 1 := by
            intro h
            have hlength := congrArg List.length h
            simp only [List.length_drop, List.length_take] at hlength
            omega
          have hsome : none ≠ spsProfile s.unit := fun h => hshort (spsProfile_eq_none.mp h.symm)
          rw [spsProfile_eq_none.mpr hv]
          exact iff_of_false hne hsome
        · rw [spsProfile_eq_iff (by omega) (by omega)]

/-- The agent cuts the spots as units. -/
theorem splitAnnexb_spots (data : List UInt8) :
    splitAnnexb data = nalsOf ((spots data).map Spot.unit) := by
  rw [splitAnnexb_cut, spots, spotsFrom_units]

/-- The agent's profile is that of the first parameter set. -/
theorem firstSpsProfile_spots (data : List UInt8) :
    firstSpsProfile data =
      ((spots data).find? fun s => s.IsSps).bind fun s => spsProfile s.unit := by
  have hfind : (splitAnnexb data).find? (·.kind = NalType.sps) =
      ((spots data).find? fun s => s.IsSps).map fun s => Nal.ofPayload s.unit := by
    rw [splitAnnexb_spots, nalsOf, List.find?_map, List.find?_filter, List.find?_map, Option.map_map]
    congr 1
    apply List.find?_congr
    intro s _
    rw [Bool.eq_iff_iff]
    -- an empty unit is of no type that is asked for
    cases hunit : s.unit with
    | nil => simp [Spot.IsSps, Spot.header, hunit, NalType.sps]
    | cons header tail => simp [Spot.IsSps, Spot.header, hunit, Nal.ofPayload]
  rw [firstSpsProfile, hfind, Option.bind_map]
  rfl

/-- The agent finds a key frame among the spots. -/
theorem agentIdr_spots (data : List UInt8) :
    (∃ n ∈ splitAnnexb data, n.kind = NalType.sliceIdr ∧ n.ForbiddenClear) ↔
      ∃ s ∈ spots data, idrHeader s.header = true := by
  rw [splitAnnexb_spots, nalsOf]
  constructor
  · rintro ⟨n, hn, hkind, hclear⟩
    obtain ⟨piece, hpiece, rfl⟩ := List.mem_map.mp hn
    obtain ⟨s, hs, rfl⟩ := List.mem_map.mp (List.mem_filter.mp hpiece).1
    refine ⟨s, hs, ?_⟩
    have hkind' : s.header &&& 0x1F = NalType.sliceIdr := hkind
    have hclear' : s.header &&& 0x80 = 0 := hclear
    simp [idrHeader, hkind', hclear']
  · rintro ⟨s, hs, hidr⟩
    simp only [idrHeader, Bool.and_eq_true, decide_eq_true_eq] at hidr
    have hne : s.unit ≠ [] := by
      intro hnil
      rw [Spot.header, hnil] at hidr
      exact absurd hidr.2 (by decide)
    refine ⟨Nal.ofPayload s.unit, ?_, hidr.2, hidr.1⟩
    apply List.mem_map_of_mem
    exact List.mem_filter.mpr ⟨List.mem_map_of_mem hs, decide_eq_true hne⟩

/-- Both parsers give the same answers. -/
def ParsersAgree (data : List UInt8) : Prop :=
  (containsIdr data = true ↔
      ∃ n ∈ splitAnnexb data, n.kind = NalType.sliceIdr ∧ n.ForbiddenClear) ∧
    (streamProfile data).map StreamProfile.fields = firstSpsProfile data

/-- **Both profiles agree** exactly where the first parameter set is the one that is shown. -/
theorem profile_agrees_iff (data : List UInt8) :
    (streamProfile data).map StreamProfile.fields = firstSpsProfile data ↔
      ProfileLegible data := by
  rw [streamProfile_spots, firstSpsProfile_spots, ProfileLegible]
  cases hfirst : (spots data).find? fun s => s.IsSps with
  | none =>
      have hshown : shownSps data = none := by
        rw [shownSps, List.find?_eq_none]
        intro s hs
        have hno := List.find?_eq_none.mp hfirst s hs
        simp at hno
        simp [hno]
      simp [hshown]
  | some s =>
      have hs := List.mem_of_find?_eq_some hfirst
      have hsps : s.IsSps := by simpa using List.find?_some hfirst
      have hall : (∀ t, some s = some t →
          (t.Readable → 4 ≤ t.unit.length ∨ t.rest.length < 4) ∧
            (¬ t.Readable → t.ReplacedBy (shownSps data))) ↔
          (s.Readable → 4 ≤ s.unit.length ∨ s.rest.length < 4) ∧
            (¬ s.Readable → s.ReplacedBy (shownSps data)) := by
        simp
      rw [← shownSps, hall, s.replacedBy_iff, Option.bind_some]
      by_cases hread : s.Readable
      · -- the first SPS of all is the first that can be read
        have hshown : shownSps data = some s := by
          obtain ⟨-, before, after, hdata, hbefore⟩ := List.find?_eq_some_iff_append.mp hfirst
          refine List.find?_eq_some_iff_append.mpr ⟨by simp [hread, hsps], before, after, hdata, ?_⟩
          intro t ht
          have hno := hbefore t ht
          simp at hno
          simp [hno]
        simp [hread, hshown, spsProfile_rest hs]
      · simp [hread]

/-- **The two parsers on arbitrary bytes.**  They agree on whether there is an IDR slice and on
the profile of the stream exactly if the payload is legible. -/
theorem parsersAgree_iff (data : List UInt8) : ParsersAgree data ↔ Legible data := by
  have hidr : (containsIdr data = true ↔
      ∃ n ∈ splitAnnexb data, n.kind = NalType.sliceIdr ∧ n.ForbiddenClear) ↔
        ((∃ s ∈ spots data, idrHeader s.header = true) →
          ∃ s ∈ spots data, idrHeader s.header = true ∧ s.masked = false) := by
    rw [agentIdr_spots, containsIdr_spots, List.any_eq_true]
    simp only [Bool.and_eq_true, Bool.not_eq_true', and_comm (a := Spot.masked _ = false)]
    constructor
    · exact fun h => h.mpr
    · exact fun h => ⟨fun ⟨s, hs, hidr, _⟩ => ⟨s, hs, hidr⟩, h⟩
  rw [ParsersAgree, hidr, profile_agrees_iff]
  exact ⟨fun h => ⟨h.1, h.2⟩, fun h => ⟨h.idr, h.profile⟩⟩

/-- An SPS of two bytes with a PPS behind it: the client takes the zeros of the next start code
for constraint flags and level, where the agent sees no profile.  And an IDR slice behind an
empty unit is in the agent's list but not found by the client. -/
theorem truncated_sps_borrows :
    (streamProfile [0, 0, 1, 0x67, 0x42, 0, 0, 1, 0x68, 0xCE]).map StreamProfile.fields =
        some (0x42, 0, 0) ∧
      firstSpsProfile [0, 0, 1, 0x67, 0x42, 0, 0, 1, 0x68, 0xCE] = none ∧
      containsIdr [0, 0, 1, 0, 0, 1, 0x65, 0x88] = false ∧
      (∃ n ∈ splitAnnexb [0, 0, 1, 0, 0, 1, 0x65, 0x88],
        n.kind = NalType.sliceIdr ∧ n.ForbiddenClear) ∧
      ¬ ParsersAgree [0, 0, 1, 0x67, 0x42, 0, 0, 1, 0x68, 0xCE] ∧
      ¬ ParsersAgree [0, 0, 1, 0, 0, 1, 0x65, 0x88] := by
  simp only [ParsersAgree, streamProfile_spots, firstSpsProfile_spots, containsIdr_spots,
    agentIdr_spots]
  decide

end Oxrdp
