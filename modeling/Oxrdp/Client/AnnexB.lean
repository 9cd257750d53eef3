import Oxrdp.Agent.AnnexB

/-!
# The client's reading of an access unit

`decode/annexb.rs` of the client.  It was written apart from the agent's splitter: it
looks for the three-byte code only, skips the header byte behind it, and works out where
a unit ends from the code that follows.

`codesFrom` is the loop that `contains_idr` and `units` share.  `headersFrom` is the same
loop without indices into the payload, and `codesFrom_annexb` says what it finds in units
that were written one after the other behind four-byte codes.
-/

namespace Oxrdp

/-- One NAL unit, as far as its header describes it. -/
structure NalUnit where
  nalType : UInt8
  refIdc : UInt8
  len : Nat
  deriving DecidableEq, Repr

/-- The scan of `units` from `index` on: where the header behind each start code stands. -/
def codesFrom (data : List UInt8) (index : Nat) : List Nat :=
  if h : index + 3 < data.length then
    if data[index] = 0 ∧ data[index + 1] = 0 ∧ data[index + 2] = 1 then
      (index + 3) :: codesFrom data (index + 4)
    else
      codesFrom data (index + 1)
  else
    []
termination_by data.length - index

/-- The header byte of an IDR slice: `forbidden_zero_bit` clear and the type of an IDR. -/
def idrHeader (header : UInt8) : Bool := header &&& 0x80 = 0 && header &&& 0x1f = NalType.sliceIdr

/-- The scan of `contains_idr` from `index` on. -/
def containsIdrFrom (data : List UInt8) (index : Nat) : Bool :=
  if h : index + 3 < data.length then
    if data[index] = 0 ∧ data[index + 1] = 0 ∧ data[index + 2] = 1 then
      if idrHeader data[index + 3] then
        true
      else
        containsIdrFrom data (index + 4)
    else
      containsIdrFrom data (index + 1)
  else
    false
termination_by data.length - index

/-- Whether an Annex-B payload carries an IDR slice, and can therefore start a decode. -/
def containsIdr (data : List UInt8) : Bool := containsIdrFrom data 0

/-- Where the unit at `start` ends: before the next start code, without the fourth zero
of a long one. -/
def unitEnd (data : List UInt8) (start : Nat) : Option Nat → Nat
  | none => data.length
  | some next =>
      let short := next - 3
      if short > start ∧ data.getD (short - 1) 0 = 0 then short - 1 else short

/-- The units behind these codes. -/
def unitsAt (data : List UInt8) : List Nat → List NalUnit
  | [] => []
  | start :: rest =>
      { nalType := data.getD start 0 &&& 0x1f
        refIdc := (data.getD start 0 >>> 5) &&& 0x03
        len := unitEnd data start rest.head? - start } :: unitsAt data rest

/-- Every NAL unit in an Annex-B payload. -/
def units (data : List UInt8) : List NalUnit := unitsAt data (codesFrom data 0)

/-- Whether an Annex-B payload carries a sequence or picture parameter set. -/
def hasParameterSets (data : List UInt8) : Bool :=
  (units data).any fun unit => unit.nalType = NalType.sps || unit.nalType = NalType.pps

/-- What an SPS says about the profile a stream is coded in. -/
structure StreamProfile where
  profileIdc : UInt8
  constraints : UInt8
  levelIdc : UInt8
  deriving DecidableEq, Repr

/-- The header byte of an SPS: `forbidden_zero_bit` clear and the type of an SPS. -/
def spsHeader (header : UInt8) : Bool := header &&& 0x80 = 0 && header &&& 0x1f = NalType.sps

/-- The scan of `stream_profile` from `index` on.  The three bytes are taken from the payload as
a whole, wherever the unit ends. -/
def streamProfileFrom (data : List UInt8) (index : Nat) : Option StreamProfile :=
  if h : index + 3 < data.length then
    if data[index] = 0 ∧ data[index + 1] = 0 ∧ data[index + 2] = 1 then
      if spsHeader data[index + 3] then
        if hbody : index + 7 ≤ data.length then
          some
            { profileIdc := data[index + 4]
              constraints := data[index + 5]
              levelIdc := data[index + 6] }
        else
          none
      else
        streamProfileFrom data (index + 4)
    else
      streamProfileFrom data (index + 1)
  else
    none
termination_by data.length - index

/-- The profile, constraint flags and level of the first SPS in an Annex-B payload. -/
def streamProfile (data : List UInt8) : Option StreamProfile := streamProfileFrom data 0

/-! ## The scan without indices -/

/-- The scan over the bytes that stand from position `i` on. -/
def headersFrom : List UInt8 → Nat → List Nat
  | 0 :: 0 :: 1 :: _ :: rest, i => (i + 3) :: headersFrom rest (i + 4)
  | _ :: rest, i => headersFrom rest (i + 1)
  | [], _ => []

/-- The scan moves over a byte where no code begins. -/
theorem headersFrom_cons {b : UInt8} {rest : List UInt8} {i : Nat}
    (h : ¬ [0, 0, 1] <+: b :: rest) : headersFrom (b :: rest) i = headersFrom rest (i + 1) := by
  rw [headersFrom]
  intro header tail hb hrest
  rw [hb, hrest] at h
  exact h ⟨header :: tail, rfl⟩

/-- Fewer than four bytes hold no unit. -/
theorem headersFrom_short {data : List UInt8} (h : data.length < 4) (i : Nat) :
    headersFrom data i = [] := by
  match data, h with
  | [], _ => rfl
  | [a], _ => simp [headersFrom]
  | [a, b], _ => simp [headersFrom]
  | [a, b, c], _ => simp [headersFrom]

theorem codesFrom_eq (data : List UInt8) (index : Nat) :
    codesFrom data index = headersFrom (data.drop index) index := by
  fun_induction codesFrom data index with
  | case1 index h hcode ih =>
      rw [ih, List.drop_eq_getElem_cons (i := index) (by omega),
        List.drop_eq_getElem_cons (i := index + 1) (by omega),
        List.drop_eq_getElem_cons (i := index + 2) (by omega),
        List.drop_eq_getElem_cons (i := index + 3) (by omega), hcode.1, hcode.2.1, hcode.2.2,
        headersFrom]
  | case2 index h hno ih =>
      have hdrop : data.drop index =
          data[index] :: data[index + 1] :: data[index + 2] :: data.drop (index + 3) := by
        rw [List.drop_eq_getElem_cons (by omega), List.drop_eq_getElem_cons (by omega),
          List.drop_eq_getElem_cons (by omega)]
      have hhead : ¬ [0, 0, 1] <+: data.drop index := by
        intro hpre
        rw [hdrop, List.cons_prefix_cons, List.cons_prefix_cons, List.cons_prefix_cons] at hpre
        exact hno ⟨hpre.1.symm, hpre.2.1.symm, hpre.2.2.1.symm⟩
      rw [List.drop_eq_getElem_cons (i := index) (by omega)] at hhead ⊢
      rw [ih, headersFrom_cons hhead]
  | case3 index h =>
      rw [headersFrom_short]
      rw [List.length_drop]
      omega

/-- `contains_idr` looks at the headers that `units` finds. -/
theorem containsIdrFrom_eq (data : List UInt8) (index : Nat) :
    containsIdrFrom data index =
      (codesFrom data index).any fun start => idrHeader (data.getD start 0) := by
  fun_induction containsIdrFrom data index with
  | case1 index h hcode hidr =>
      rw [codesFrom, dif_pos h, if_pos hcode, List.any_cons]
      simp [h, hidr]
  | case2 index h hcode hidr ih =>
      rw [codesFrom, dif_pos h, if_pos hcode, List.any_cons, ih]
      simp [h, hidr]
  | case3 index h hno ih => rw [codesFrom, dif_pos h, if_neg hno, ih]
  | case4 index h => rw [codesFrom, dif_neg h, List.any_nil]

/-! ## Units behind four-byte codes -/

/-- Where the headers of these units stand, written one after the other from `i` on. -/
def headersOf : List Nal → Nat → List Nat
  | [], _ => []
  | n :: rest, i => (i + 4) :: headersOf rest (i + 4 + n.payload.length)

/-- The code behind a piece is found where it stands, and the header byte is skipped. -/
theorem headersFrom_startCode {piece : List UInt8} (h : NoCode piece) (header : UInt8)
    (rest : List UInt8) (i : Nat) :
    headersFrom (piece ++ (startCode ++ header :: rest)) i =
      (i + piece.length + 4) :: headersFrom rest (i + piece.length + 5) := by
  induction piece generalizing i with
  | nil =>
      rw [List.nil_append, startCode, List.cons_append, headersFrom_cons (by simp)]
      rfl
  | cons b tail ih =>
      have hhead : ¬ [0, 0, 1] <+: b :: (tail ++ (startCode ++ header :: rest)) := by
        have hpiece : ¬ [0, 0, 1] <+: b :: tail := by
          intro hpre
          exact h hpre.isInfix
        rcases tail with _ | ⟨c, _ | ⟨d, tail⟩⟩
        · simp [startCode]
        · simp [startCode]
        · simpa using hpiece
      rw [List.cons_append, headersFrom_cons hhead, ih h.tail, List.length_cons]
      congr 2
      · omega
      · omega

/-- A piece at the end of the payload. -/
theorem headersFrom_of_noCode {piece : List UInt8} (h : NoCode piece) (i : Nat) :
    headersFrom piece i = [] := by
  induction piece generalizing i with
  | nil => rfl
  | cons b tail ih =>
      have hhead : ¬ [0, 0, 1] <+: b :: tail := by
        intro hpre
        exact h hpre.isInfix
      rw [headersFrom_cons hhead, ih h.tail]

theorem headersFrom_append_annexb {nals : List Nal} (h : ∀ n ∈ nals, n.Valid) :
    ∀ {piece : List UInt8}, NoCode piece → ∀ i,
      headersFrom (piece ++ annexb nals) i = headersOf nals (i + piece.length) := by
  induction nals with
  | nil =>
      intro piece hpiece i
      rw [annexb, List.flatMap_nil, List.append_nil, headersFrom_of_noCode hpiece]
      rfl
  | cons n rest ih =>
      intro piece hpiece i
      have hn : n.Valid := h n List.mem_cons_self
      obtain ⟨header, tail, hpayload⟩ := List.exists_cons_of_ne_nil hn.nonempty
      have htail : NoCode tail := (hpayload ▸ hn.noCode).tail
      have hall : annexb (n :: rest) = startCode ++ header :: (tail ++ annexb rest) := by
        simp [annexb, hpayload]
      have hrest := ih (fun k hk => h k (List.mem_cons_of_mem n hk)) htail (i + piece.length + 5)
      rw [hall, headersFrom_startCode hpiece, hrest, headersOf, hpayload, List.length_cons]
      congr 2
      omega

theorem codesFrom_annexb {nals : List Nal} (h : ∀ n ∈ nals, n.Valid) :
    codesFrom (annexb nals) 0 = headersOf nals 0 := by
  rw [codesFrom_eq, List.drop_zero]
  have hall := headersFrom_append_annexb h NoCode.nil 0
  rwa [List.nil_append, List.length_nil] at hall

/-- The bytes before the second unit and those from it on. -/
theorem append_annexb_cons (before : List UInt8) (n : Nal) (rest : List Nal) :
    before ++ annexb (n :: rest) = before ++ startCode ++ n.payload ++ annexb rest := by
  simp [annexb]

theorem length_behind (before : List UInt8) (n : Nal) :
    (before ++ startCode ++ n.payload).length = before.length + 4 + n.payload.length := by
  rw [List.length_append, List.length_append]
  rfl

/-- The byte at a header is the unit's first byte. -/
theorem getD_header {before : List UInt8} {n : Nal} {rest : List Nal} (hn : n.Valid) :
    (before ++ annexb (n :: rest)).getD (before.length + 4) 0 = n.payload.headD 0 := by
  obtain ⟨header, tail, hpayload⟩ := List.exists_cons_of_ne_nil hn.nonempty
  simp [annexb, hpayload, startCode, List.getD_eq_getElem?_getD]

/-- What the client reports of a unit. -/
def Nal.unit (n : Nal) : NalUnit :=
  { nalType := n.payload.headD 0 &&& 0x1f
    refIdc := (n.payload.headD 0 >>> 5) &&& 0x03
    len := n.payload.length }

/-- A unit ends where the four-byte code behind it begins, or at the end of the payload. -/
theorem unitEnd_annexb {before : List UInt8} {n : Nal} {rest : List Nal} (hn : n.Valid) :
    unitEnd (before ++ annexb (n :: rest)) (before.length + 4)
        (headersOf rest (before.length + 4 + n.payload.length)).head? =
      before.length + 4 + n.payload.length := by
  have hlen : 0 < n.payload.length := List.length_pos_of_ne_nil hn.nonempty
  cases rest with
  | nil =>
      simp [headersOf, unitEnd, annexb, startCode]
      omega
  | cons next more =>
      have hzero : (before ++ annexb (n :: next :: more)).getD
          (before.length + 4 + n.payload.length) 0 = 0 := by
        rw [append_annexb_cons, ← length_behind, List.getD_eq_getElem?_getD,
          List.getElem?_append_right (Nat.le_refl _)]
        simp [annexb, startCode]
      have hshort : before.length + 4 + n.payload.length + 4 - 3 - 1 =
          before.length + 4 + n.payload.length := by
        omega
      simp only [headersOf, List.head?_cons, unitEnd, hshort, hzero]
      rw [if_pos ⟨by omega, trivial⟩]

/-- The units that were written are the ones that are listed. -/
theorem unitsAt_annexb {nals : List Nal} (h : ∀ n ∈ nals, n.Valid) (before : List UInt8) :
    unitsAt (before ++ annexb nals) (headersOf nals before.length) = nals.map Nal.unit := by
  induction nals generalizing before with
  | nil => rfl
  | cons n rest ih =>
      have hn : n.Valid := h n List.mem_cons_self
      have hrest := ih (fun k hk => h k (List.mem_cons_of_mem n hk))
        (before ++ startCode ++ n.payload)
      rw [← append_annexb_cons, length_behind] at hrest
      rw [headersOf, unitsAt, hrest, getD_header hn, unitEnd_annexb hn, List.map_cons,
        Nat.add_sub_cancel_left]
      rfl

/-- **The client lists what was written.** -/
theorem units_annexb {nals : List Nal} (h : ∀ n ∈ nals, n.Valid) :
    units (annexb nals) = nals.map Nal.unit := by
  rw [units, codesFrom_annexb h]
  exact unitsAt_annexb h []

/-- The header bytes that the scan reads are the units' first bytes. -/
theorem any_headersOf {nals : List Nal} (h : ∀ n ∈ nals, n.Valid) (p : UInt8 → Bool)
    (before : List UInt8) :
    ((headersOf nals before.length).any fun start => p ((before ++ annexb nals).getD start 0)) =
      nals.any fun n => p (n.payload.headD 0) := by
  induction nals generalizing before with
  | nil => rfl
  | cons n rest ih =>
      have hn : n.Valid := h n List.mem_cons_self
      have hrest := ih (fun k hk => h k (List.mem_cons_of_mem n hk))
        (before ++ startCode ++ n.payload)
      rw [← append_annexb_cons, length_behind] at hrest
      rw [headersOf, List.any_cons, List.any_cons, hrest, getD_header hn]

theorem containsIdr_annexb {nals : List Nal} (h : ∀ n ∈ nals, n.Valid) :
    containsIdr (annexb nals) = nals.any fun n => idrHeader (n.payload.headD 0) := by
  rw [containsIdr, containsIdrFrom_eq, codesFrom_annexb h]
  exact any_headersOf h idrHeader []

end Oxrdp
