import Mathlib.Data.List.Infix
import Mathlib.Data.Nat.Basic

/-!
# Annex-B byte streams

The splitting half of `h264.rs`.  `splitAnnexb` scans for start codes by index and then
cuts the stream between them.  `cut` is the same scan without indices: what stands
before the first start code, and what stands after each.

A payload that the scan returned holds no start code, so that payloads written one
after the other, each behind a four-byte code, are found again.  Zeros at the end of a
payload are the delicate case: together with the code that follows they make a longer
run of zeros, and the scan has to stop exactly where the payload ends.
-/

namespace Oxrdp

/-! ## `nal_unit_type` values -/

namespace NalType

def slice : UInt8 := 1
def sliceIdr : UInt8 := 5
def sei : UInt8 := 6
def sps : UInt8 := 7
def pps : UInt8 := 8
def aud : UInt8 := 9

end NalType

/-- One NAL unit as found in an Annex-B byte stream: `kind` is the low 5 bits of the
header byte, `payload` the complete NAL, header byte included. -/
structure Nal where
  kind : UInt8
  payload : List UInt8
  deriving DecidableEq, Repr

/-- The NAL with these bytes. -/
def Nal.ofPayload (payload : List UInt8) : Nal :=
  { kind := payload.headD 0 &&& 0x1F, payload }

/-- The scan of `split_annexb` from index `i` on: where each start code begins, and how
many bytes it occupies. -/
def startsFrom (data : List UInt8) (i : Nat) : List (Nat × Nat) :=
  if h : i + 3 ≤ data.length then
    if data[i] = 0 ∧ data[i + 1] = 0 ∧ data[i + 2] = 1 then
      (i, 3) :: startsFrom data (i + 3)
    else if h4 : i + 4 ≤ data.length then
      if data[i] = 0 ∧ data[i + 1] = 0 ∧ data[i + 2] = 0 ∧ data[i + 3] = 1 then
        (i, 4) :: startsFrom data (i + 4)
      else
        startsFrom data (i + 1)
    else
      startsFrom data (i + 1)
  else
    []
termination_by data.length - i

/-- The second loop of `split_annexb`: each payload ends where the next start code
begins, and an empty one is skipped. -/
def nalsAt (data : List UInt8) : List (Nat × Nat) → List Nal
  | [] => []
  | (pos, codeLen) :: rest =>
      let payloadStart := pos + codeLen
      let payloadEnd := (rest.head?.map Prod.fst).getD data.length
      if payloadStart ≥ payloadEnd then
        nalsAt data rest
      else
        Nal.ofPayload ((data.drop payloadStart).take (payloadEnd - payloadStart)) ::
          nalsAt data rest

/-- Split an Annex-B byte stream into its NAL units; three- and four-byte start codes
are both accepted. -/
def splitAnnexb (data : List UInt8) : List Nal := nalsAt data (startsFrom data 0)

/-- What the header byte says of a unit, and its length: type, `nal_ref_idc` and bytes,
header included. -/
def Nal.summary (nal : Nal) : UInt8 × UInt8 × Nat :=
  (nal.kind, (nal.payload.headD 0 >>> 5) &&& 0x3, nal.payload.length)

/-- The diagnostic view of an access unit, in stream order. -/
def nalSummary (data : List UInt8) : List (UInt8 × UInt8 × Nat) :=
  (splitAnnexb data).map Nal.summary

/-! ## The scan without indices -/

/-- What stands before the first start code, and what stands after each. -/
def cut : List UInt8 → List UInt8 × List (List UInt8)
  | 0 :: 0 :: 1 :: rest => ([], (cut rest).1 :: (cut rest).2)
  | 0 :: 0 :: 0 :: 1 :: rest => ([], (cut rest).1 :: (cut rest).2)
  | b :: rest => (b :: (cut rest).1, (cut rest).2)
  | [] => ([], [])

/-- The units that the scan makes of the pieces: the empty ones are skipped. -/
def nalsOf (pieces : List (List UInt8)) : List Nal :=
  (pieces.filter (· ≠ [])).map Nal.ofPayload

theorem cut_fst_start (data : List UInt8) : (cut data).1 <+: data := by
  induction data using cut.induct with
  | case1 rest ih => exact List.nil_prefix
  | case2 rest ih => exact List.nil_prefix
  | case3 b rest h3 h4 ih =>
      rw [cut]
      · exact (List.prefix_cons_inj b).mpr ih
      · exact h3
      · exact h4
  | case4 => exact List.nil_prefix

/-- A byte where no start code begins belongs to the piece before the next one. -/
theorem cut_cons {b : UInt8} {rest : List UInt8} (h3 : ¬ [0, 0, 1] <+: b :: rest)
    (h4 : ¬ [0, 0, 0, 1] <+: b :: rest) :
    cut (b :: rest) = (b :: (cut rest).1, (cut rest).2) := by
  rw [cut]
  · intro tail hb hrest
    rw [hb, hrest] at h3
    exact h3 ⟨tail, rfl⟩
  · intro tail hb hrest
    rw [hb, hrest] at h4
    exact h4 ⟨tail, rfl⟩

/-- Fewer than three bytes hold no start code. -/
theorem cut_short {data : List UInt8} (h : data.length < 3) : cut data = (data, []) := by
  match data, h with
  | [], _ => rfl
  | [a], _ => simp [cut]
  | [a, b], _ => simp [cut]

/-- The second loop at a code, where the scan behind it is known. -/
theorem nalsAt_code {data : List UInt8} {pos codeLen : Nat} {rest : List (Nat × Nat)}
    (hend : (rest.head?.map Prod.fst).getD data.length =
      pos + codeLen + (cut (data.drop (pos + codeLen))).1.length)
    (hrest : nalsAt data rest = nalsOf (cut (data.drop (pos + codeLen))).2) :
    nalsAt data ((pos, codeLen) :: rest) =
      nalsOf ((cut (data.drop (pos + codeLen))).1 :: (cut (data.drop (pos + codeLen))).2) := by
  have hpiece := List.prefix_iff_eq_take.mp (cut_fst_start (data.drop (pos + codeLen)))
  rw [nalsAt, hend, hrest]
  by_cases hnil : (cut (data.drop (pos + codeLen))).1 = []
  · simp [hnil, nalsOf]
  · have hlen : 0 < (cut (data.drop (pos + codeLen))).1.length := List.length_pos_of_ne_nil hnil
    rw [if_neg (by omega), Nat.add_sub_cancel_left, ← hpiece]
    simp [nalsOf, hnil]

/-- The scan moves over a byte where no code begins. -/
theorem scan_step {data : List UInt8} {i : Nat} (hi : i < data.length)
    (h3 : ¬ [0, 0, 1] <+: data.drop i) (h4 : ¬ [0, 0, 0, 1] <+: data.drop i)
    (h : ((startsFrom data (i + 1)).head?.map Prod.fst).getD data.length =
        i + 1 + (cut (data.drop (i + 1))).1.length ∧
      nalsAt data (startsFrom data (i + 1)) = nalsOf (cut (data.drop (i + 1))).2) :
    ((startsFrom data (i + 1)).head?.map Prod.fst).getD data.length =
        i + (cut (data.drop i)).1.length ∧
      nalsAt data (startsFrom data (i + 1)) = nalsOf (cut (data.drop i)).2 := by
  rw [List.drop_eq_getElem_cons hi] at h3 h4 ⊢
  rw [cut_cons h3 h4, h.1, h.2, List.length_cons]
  exact ⟨by omega, rfl⟩

/-- The index scan and `cut` see the same thing from index `i` on: the first code stands
where the piece before it ends, and the units are those of the pieces behind the codes. -/
theorem startsFrom_cut (data : List UInt8) (i : Nat) (hi : i ≤ data.length) :
    ((startsFrom data i).head?.map Prod.fst).getD data.length =
        i + (cut (data.drop i)).1.length ∧
      nalsAt data (startsFrom data i) = nalsOf (cut (data.drop i)).2 := by
  fun_induction startsFrom data i with
  | case1 i h hcode ih =>
      obtain ⟨hend, hrest⟩ := ih (by omega)
      have hdrop : data.drop i = 0 :: 0 :: 1 :: data.drop (i + 3) := by
        rw [List.drop_eq_getElem_cons (by omega), List.drop_eq_getElem_cons (by omega),
          List.drop_eq_getElem_cons (by omega), hcode.1, hcode.2.1, hcode.2.2]
      rw [nalsAt_code hend hrest, hdrop, cut]
      exact ⟨rfl, rfl⟩
  | case2 i h hno h4 hcode ih =>
      obtain ⟨hend, hrest⟩ := ih (by omega)
      have hdrop : data.drop i = 0 :: 0 :: 0 :: 1 :: data.drop (i + 4) := by
        rw [List.drop_eq_getElem_cons (by omega), List.drop_eq_getElem_cons (by omega),
          List.drop_eq_getElem_cons (by omega), List.drop_eq_getElem_cons (by omega),
          hcode.1, hcode.2.1, hcode.2.2.1, hcode.2.2.2]
      rw [nalsAt_code hend hrest, hdrop, cut]
      exact ⟨rfl, rfl⟩
  | case3 i h hno h4 hno4 ih =>
      have hdrop : data.drop i =
          data[i] :: data[i + 1] :: data[i + 2] :: data[i + 3] :: data.drop (i + 4) := by
        rw [List.drop_eq_getElem_cons (by omega), List.drop_eq_getElem_cons (by omega),
          List.drop_eq_getElem_cons (by omega), List.drop_eq_getElem_cons (by omega)]
      have h3 : ¬ [0, 0, 1] <+: data.drop i := by
        intro hpre
        rw [hdrop, List.cons_prefix_cons, List.cons_prefix_cons, List.cons_prefix_cons] at hpre
        exact hno ⟨hpre.1.symm, hpre.2.1.symm, hpre.2.2.1.symm⟩
      have h4' : ¬ [0, 0, 0, 1] <+: data.drop i := by
        intro hpre
        rw [hdrop, List.cons_prefix_cons, List.cons_prefix_cons, List.cons_prefix_cons,
          List.cons_prefix_cons] at hpre
        exact hno4 ⟨hpre.1.symm, hpre.2.1.symm, hpre.2.2.1.symm, hpre.2.2.2.1.symm⟩
      exact scan_step (by omega) h3 h4' (ih (by omega))
  | case4 i h hno h4 ih =>
      have hdrop : data.drop i = data[i] :: data[i + 1] :: data[i + 2] :: data.drop (i + 3) := by
        rw [List.drop_eq_getElem_cons (by omega), List.drop_eq_getElem_cons (by omega),
          List.drop_eq_getElem_cons (by omega)]
      have h3 : ¬ [0, 0, 1] <+: data.drop i := by
        intro hpre
        rw [hdrop, List.cons_prefix_cons, List.cons_prefix_cons, List.cons_prefix_cons] at hpre
        exact hno ⟨hpre.1.symm, hpre.2.1.symm, hpre.2.2.1.symm⟩
      have h4' : ¬ [0, 0, 0, 1] <+: data.drop i := by
        intro hpre
        have hlen := hpre.length_le
        rw [List.length_drop] at hlen
        simp only [List.length_cons, List.length_nil] at hlen
        omega
      exact scan_step (by omega) h3 h4' (ih (by omega))
  | case5 i h =>
      have hshort : (data.drop i).length < 3 := by
        rw [List.length_drop]
        omega
      rw [cut_short hshort]
      refine ⟨?_, rfl⟩
      rw [List.length_drop]
      simp
      omega

theorem splitAnnexb_cut (data : List UInt8) : splitAnnexb data = nalsOf (cut data).2 := by
  have h := (startsFrom_cut data 0 (Nat.zero_le _)).2
  rwa [List.drop_zero] at h

/-! ## Pieces hold no start code -/

/-- No start code stands anywhere in the bytes. -/
def NoCode (bytes : List UInt8) : Prop := ¬ [0, 0, 1] <:+: bytes

theorem NoCode.nil : NoCode [] := by
  intro h
  exact absurd (List.infix_nil.mp h) (by decide)

theorem NoCode.tail {b : UInt8} {rest : List UInt8} (h : NoCode (b :: rest)) : NoCode rest := by
  intro hcode
  exact h (hcode.trans (List.suffix_cons b rest).isInfix)

theorem NoCode.cons {b : UInt8} {rest : List UInt8} (h : NoCode rest)
    (hhead : ¬ [0, 0, 1] <+: b :: rest) : NoCode (b :: rest) := by
  intro hcode
  rcases List.infix_cons_iff.mp hcode with hpre | hrest
  · exact hhead hpre
  · exact h hrest

theorem cut_noCode (data : List UInt8) :
    NoCode (cut data).1 ∧ ∀ piece ∈ (cut data).2, NoCode piece := by
  induction data using cut.induct with
  | case1 rest ih =>
      rw [cut]
      exact ⟨NoCode.nil, List.forall_mem_cons.mpr ih⟩
  | case2 rest ih =>
      rw [cut]
      exact ⟨NoCode.nil, List.forall_mem_cons.mpr ih⟩
  | case3 b rest h3 h4 ih =>
      rw [cut]
      · refine ⟨ih.1.cons ?_, ih.2⟩
        -- a code at the head of the piece would be one at the head of the stream
        intro hpre
        have hall := hpre.trans ((List.prefix_cons_inj b).mpr (cut_fst_start rest))
        obtain ⟨tail, htail⟩ := hall
        have hb : b = 0 := (List.cons.inj htail).1.symm
        have hrest : rest = 0 :: 1 :: tail := (List.cons.inj htail).2.symm
        exact h3 tail hb hrest
      · exact h3
      · exact h4
  | case4 => exact ⟨NoCode.nil, by simp [cut]⟩

/-- What every unit of a split stream is: named after its header byte, not empty, and
free of start codes. -/
structure Nal.Valid (n : Nal) : Prop where
  named : n = Nal.ofPayload n.payload
  nonempty : n.payload ≠ []
  noCode : NoCode n.payload

theorem splitAnnexb_valid (data : List UInt8) : ∀ n ∈ splitAnnexb data, n.Valid := by
  intro n hn
  rw [splitAnnexb_cut] at hn
  obtain ⟨piece, hpiece, rfl⟩ := List.mem_map.mp hn
  obtain ⟨hmem, hne⟩ := List.mem_filter.mp hpiece
  exact ⟨rfl, of_decide_eq_true hne, (cut_noCode data).2 piece hmem⟩

/-! ## Writing units behind start codes -/

/-- The four-byte code that `push_nal` writes. -/
def startCode : List UInt8 := [0, 0, 0, 1]

/-- Append one NAL as Annex-B. -/
def pushNal (out payload : List UInt8) : List UInt8 := out ++ startCode ++ payload

/-- The code behind a piece is found where it stands, also when the piece ends in
zeros. -/
theorem cut_startCode {piece : List UInt8} (h : NoCode piece) (rest : List UInt8) :
    cut (piece ++ (startCode ++ rest)) = (piece, (cut rest).1 :: (cut rest).2) := by
  induction piece with
  | nil => rfl
  | cons b tail ih =>
      have hhead : ¬ [0, 0, 1] <+: b :: tail := by
        intro hpre
        exact h hpre.isInfix
      have h3 : ¬ [0, 0, 1] <+: b :: (tail ++ (startCode ++ rest)) := by
        match tail, hhead with
        | [], _ => simp [startCode]
        | [c], _ => simp [startCode]
        | c :: d :: tail, hhead => simpa using hhead
      have h4 : ¬ [0, 0, 0, 1] <+: b :: (tail ++ (startCode ++ rest)) := by
        match tail, h.tail with
        | [], _ => simp [startCode]
        | [c], _ => simp [startCode]
        | [c, d], _ => simp [startCode]
        | c :: d :: e :: tail, htail =>
            intro hpre
            have hcode : [0, 0, 1] <+: c :: d :: e :: tail := by
              simpa using (List.cons_prefix_cons.mp hpre).2
            exact htail hcode.isInfix
      rw [List.cons_append, cut_cons h3 h4, ih h.tail]

/-- A piece at the end of the stream. -/
theorem cut_of_noCode {piece : List UInt8} (h : NoCode piece) : cut piece = (piece, []) := by
  induction piece with
  | nil => rfl
  | cons b tail ih =>
      have h3 : ¬ [0, 0, 1] <+: b :: tail := by
        intro hpre
        exact h hpre.isInfix
      have h4 : ¬ [0, 0, 0, 1] <+: b :: tail := by
        intro hpre
        have hcode : [0, 0, 1] <+: tail := (List.cons_prefix_cons.mp hpre).2
        exact h.tail hcode.isInfix
      rw [cut_cons h3 h4, ih h.tail]

/-- Units written one after the other, each behind its start code. -/
def annexb (nals : List Nal) : List UInt8 := nals.flatMap fun n => startCode ++ n.payload

theorem cut_append_annexb {nals : List Nal} (h : ∀ n ∈ nals, n.Valid) :
    ∀ {piece : List UInt8}, NoCode piece →
      cut (piece ++ annexb nals) = (piece, nals.map Nal.payload) := by
  induction nals with
  | nil =>
      intro piece hpiece
      rw [annexb, List.flatMap_nil, List.append_nil, cut_of_noCode hpiece]
      rfl
  | cons n rest ih =>
      intro piece hpiece
      have hn : n.Valid := h n List.mem_cons_self
      have hall : annexb (n :: rest) = startCode ++ (n.payload ++ annexb rest) :=
        List.append_assoc ..
      have hrest := ih (fun k hk => h k (List.mem_cons_of_mem n hk)) hn.noCode
      rw [hall, cut_startCode hpiece, hrest]
      rfl

/-- **Splitting inverts writing.**  Valid units are found again, byte for byte. -/
theorem splitAnnexb_annexb {nals : List Nal} (h : ∀ n ∈ nals, n.Valid) :
    splitAnnexb (annexb nals) = nals := by
  have hkeep : (nals.map Nal.payload).filter (· ≠ []) = nals.map Nal.payload := by
    apply List.filter_eq_self.mpr
    intro piece hpiece
    obtain ⟨n, hn, rfl⟩ := List.mem_map.mp hpiece
    exact decide_eq_true (h n hn).nonempty
  have hcut : cut (annexb nals) = ([], nals.map Nal.payload) := cut_append_annexb h NoCode.nil
  rw [splitAnnexb_cut, hcut, nalsOf, hkeep, List.map_map]
  have hnamed : nals.map (Nal.ofPayload ∘ Nal.payload) = nals.map id := by
    apply List.map_congr_left
    intro n hn
    exact (h n hn).named.symm
  rw [hnamed, List.map_id]

end Oxrdp
