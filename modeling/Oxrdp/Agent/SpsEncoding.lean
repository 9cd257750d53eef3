import Oxrdp.Agent.Sps

/-!
# Reading back what an encoder wrote

The reference encoder writes the fields of a sequence parameter set as bits, packs them into
bytes and escapes the result.  Each stage has its inverse in the parser, and each inverse is
proved for its own stage: a reader **reads** a code when, wherever that code stands, it returns
the value and moves behind it.  Codes then compose as their readers do.
-/

namespace Oxrdp

open Effect ExpGolomb

/-! ## The bits of bytes -/

/-- The bits of a byte, the highest first. -/
def byteBits (byte : UInt8) : List Bool := fixed 8 byte.toNat

/-- The bits of a byte string, eight a byte, the highest first. -/
theorem getElem?_flatMap_byteBits (data : List UInt8) (p : Nat) :
    (data.flatMap byteBits)[p]? =
      data[p / 8]?.map fun byte => byte.toNat.testBit (7 - p % 8) := by
  induction data generalizing p with
  | nil => simp
  | cons byte data ih =>
      have hlength : (byteBits byte).length = 8 := length_fixed 8 byte.toNat
      rw [List.flatMap_cons]
      by_cases hp : p < 8
      · rw [List.getElem?_append_left (by omega), byteBits, getElem?_fixed hp,
          Nat.div_eq_of_lt hp, Nat.mod_eq_of_lt hp]
        rfl
      · obtain ⟨q, rfl⟩ : ∃ q, p = q + 8 := ⟨p - 8, by omega⟩
        rw [List.getElem?_append_right (by omega), hlength, Nat.add_sub_cancel, ih,
          Nat.add_div_right q (by omega), Nat.add_mod_right]
        rfl

/-- The byte with these bits, the highest first. -/
def byteOf (bits : Nat → Bool) : UInt8 :=
  UInt8.ofNat (Nat.ofBits fun k : Fin 8 => bits (7 - k))

/-- Bits packed into bytes, with zeros behind the last one. -/
def bitsToBytes (bits : List Bool) : List UInt8 :=
  (List.range ((bits.length + 7) / 8)).map fun i => byteOf fun k => bits.getD (i * 8 + k) false

/-- A byte of eight bits has these bits. -/
theorem testBit_byteOf (bits : Nat → Bool) {k : Nat} (hk : k < 8) :
    (byteOf bits).toNat.testBit (7 - k) = bits k := by
  have hlt := Nat.ofBits_lt_two_pow fun k : Fin 8 => bits (7 - k)
  rw [byteOf, UInt8.toNat_ofNat_of_lt' hlt, Nat.testBit_ofBits_lt _ _ (by omega)]
  congr 1
  change 7 - (7 - k) = k
  omega

/-- Unpacking begins with the bits that were packed. -/
theorem prefix_flatMap_bitsToBytes (bits : List Bool) :
    bits <+: (bitsToBytes bits).flatMap byteBits := by
  refine List.prefix_iff_getElem?.mpr fun p hp => ?_
  have hbyte : (bitsToBytes bits)[p / 8]? =
      some (byteOf fun k => bits.getD (p / 8 * 8 + k) false) := by
    rw [bitsToBytes, List.getElem?_map, List.getElem?_range (by omega)]
    rfl
  rw [getElem?_flatMap_byteBits, hbyte, Option.map_some, testBit_byteOf _ (by omega),
    Nat.div_add_mod']
  simp [List.getD_eq_getElem?_getD, hp]

namespace BitReader

/-- The bits that are left to read. -/
def bits (r : BitReader) : List Bool := (r.data.flatMap byteBits).drop r.bitPos

/-- The cursor moved on. -/
def skip (r : BitReader) (n : Nat) : BitReader := { r with bitPos := r.bitPos + n }

/-- What is skipped is not read any more. -/
@[simp] theorem bits_skip (r : BitReader) (n : Nat) : (r.skip n).bits = r.bits.drop n := by
  simp [bits, skip]

/-- Skipping adds up. -/
@[simp] theorem skip_skip (r : BitReader) (m n : Nat) : (r.skip m).skip n = r.skip (m + n) := by
  simp [skip, Nat.add_assoc]

end BitReader

/-! ## Readers and codes -/

/-- Where `code` comes next, the reader returns `a` and moves behind it. -/
def Reads {α : Type} (m : Reading α) (code : List Bool) (a : α) : Prop :=
  ∀ r : BitReader, code <+: r.bits → r.bitPos + code.length < 2 ^ 64 →
    m.run r = .ok a (r.skip code.length)

namespace Reads

variable {α β : Type} {m : Reading α} {code code' : List Bool} {a : α} {b : β}

/-- A pure reading needs no bits. -/
theorem pure (a : α) : Reads (Pure.pure a) [] a := fun _ _ _ => rfl

/-- **Sequence.** Two readings take both codes. -/
theorem bind {f : α → Reading β} (h : Reads m code a) (hf : Reads (f a) code' b) :
    Reads (m >>= f) (code ++ code') b := by
  intro r hcode hroom
  rw [List.length_append] at hroom
  have hfirst := h r ((List.prefix_append _ _).trans hcode) (by omega)
  have hrest : code' <+: (r.skip code.length).bits := by
    obtain ⟨rest, hrest⟩ := hcode
    rw [BitReader.bits_skip, ← hrest, List.append_assoc, List.drop_left]
    exact List.prefix_append _ _
  have hsecond := hf (r.skip code.length) hrest (by simp [BitReader.skip]; omega)
  rw [BitReader.skip_skip, ← List.length_append] at hsecond
  change EStateM.bind m f r = _
  unfold EStateM.bind
  rw [show m r = .ok a (r.skip code.length) from hfirst]
  exact hsecond

end Reads

namespace BitReader

/-- One bit is one bit. -/
theorem reads_bit (t : Bool) : Reads bit [t] (UInt32.ofNat t.toNat) := by
  intro r hcode hroom
  obtain ⟨rest, hrest⟩ := hcode
  have hhead : (r.data.flatMap byteBits)[r.bitPos]? = some t := by
    rw [← List.head?_drop]
    change r.bits.head? = some t
    rw [← hrest]
    rfl
  rw [getElem?_flatMap_byteBits] at hhead
  obtain ⟨byte, hbyte, htest⟩ := Option.map_eq_some_iff.mp hhead
  rw [run_bit hroom, hbyte]
  have hvalue : ((byte >>> UInt8.ofNat (7 - r.bitPos % 8)) &&& 1).toNat = t.toNat := by
    have hshift : (7 - r.bitPos % 8) % 8 = 7 - r.bitPos % 8 := Nat.mod_eq_of_lt (by omega)
    rw [UInt8.toNat_and, UInt8.toNat_shiftRight, UInt8.toNat_one, Nat.and_one_is_mod, ← htest,
      Nat.toNat_testBit, Nat.shiftRight_eq_div_pow]
    simp [hshift]
  dsimp only
  rw [hvalue]
  rfl

/-- The bits that are read go behind those that have been. -/
theorem reads_uFrom (n v : Nat) {k : Nat} (hn : k + n ≤ 32) {value : UInt32}
    (hvalue : value.toNat < 2 ^ k) :
    Reads (uFrom n value) (fixed n v) (UInt32.ofNat (value.toNat * 2 ^ n + v % 2 ^ n)) := by
  induction n generalizing k value with
  | zero =>
      have hsame : UInt32.ofNat (value.toNat * 2 ^ 0 + v % 2 ^ 0) = value := by
        simp [Nat.mod_one]
      rw [hsame]
      exact .pure value
  | succ n ih =>
      have hbit : (UInt32.ofNat (v.testBit n).toNat).toNat = (v.testBit n).toNat :=
        toNat_ofNat_of_lt (by cases v.testBit n <;> decide)
      have hle : (v.testBit n).toNat ≤ 1 := Bool.toNat_le _
      have hpush := toNat_push hvalue (by omega) (hbit ▸ hle)
      rw [uFrom, fixed]
      refine (reads_bit (v.testBit n)).bind ?_
      rw [hbit] at hpush
      have hrest := ih (k := k + 1) (by omega) (by rw [hpush, Nat.pow_succ]; omega)
      have hsum : (2 * value.toNat + (v.testBit n).toNat) * 2 ^ n + v % 2 ^ n =
          value.toNat * 2 ^ (n + 1) + v % 2 ^ (n + 1) := by
        rw [mod_two_pow_succ_testBit]
        ring
      rwa [hpush, hsum] at hrest

/-- A fixed number of bits is read as the number that it stands for. -/
theorem reads_u {n v : Nat} (hn : n ≤ 32) : Reads (u n) (fixed n v) (UInt32.ofNat (v % 2 ^ n)) := by
  have hzero : (0 : UInt32).toNat < 2 ^ 0 := by decide
  have h := reads_uFrom n v (by omega) hzero
  rwa [UInt32.toNat_zero, Nat.zero_mul, Nat.zero_add] at h

/-- The zeros in front of a code are counted, and its first one passed. -/
theorem reads_leadingZeros {zeros left : Nat} (h : zeros ≤ left) :
    Reads (leadingZeros left) (List.replicate zeros false ++ [true]) zeros := by
  induction left generalizing zeros with
  | zero =>
      obtain rfl : zeros = 0 := by omega
      rw [leadingZeros]
      exact (reads_bit true).bind (.pure 0)
  | succ left ih =>
      rw [leadingZeros]
      cases zeros with
      | zero => exact (reads_bit true).bind (.pure 0)
      | succ zeros =>
          have hrest : Reads (leadingZeros left >>= fun zeros => pure (zeros + 1))
              (List.replicate zeros false ++ [true]) (zeros + 1) := by
            rw [← List.append_nil (List.replicate zeros false ++ [true])]
            exact (ih (by omega)).bind (.pure (zeros + 1))
          exact (reads_bit false).bind hrest

/-- A code is read back as long as its value is not the greatest `u32`. -/
theorem reads_ue {v : Nat} (hv : v + 1 < 2 ^ 32) : Reads ue (ExpGolomb.ue v) (UInt32.ofNat v) := by
  have hzeros : zeros v ≤ 31 := zeros_le hv
  have hsum := mod_zeros v
  rw [ue_eq, ← List.singleton_append, ← List.append_assoc]
  refine (reads_leadingZeros hzeros).bind ?_
  split_ifs with hzero
  · rw [hzero] at hsum ⊢
    obtain rfl : v = 0 := by omega
    exact .pure 0
  · rw [← List.append_nil (fixed _ _)]
    refine (reads_u (by omega)).bind ?_
    have hmod : (v + 1) % 2 ^ zeros v < 2 ^ zeros v := Nat.mod_lt _ (Nat.two_pow_pos _)
    have hsuffix : (UInt32.ofNat ((v + 1) % 2 ^ zeros v)).toNat = (v + 1) % 2 ^ zeros v :=
      toNat_ofNat_of_lt (by omega)
    rw [ue_value hzeros (by omega), hsuffix, show 2 ^ zeros v - 1 + (v + 1) % 2 ^ zeros v = v by omega]
    exact .pure _

/-- What `se` makes of the number of an integer. -/
theorem signed_index {i : Int} (hi : i.natAbs ≤ 2 ^ 31 - 1) :
    let code := UInt32.ofNat (index i)
    (if code % 2 = 0 then -(code / 2 + code % 2).toInt32
      else (code / 2 + code % 2).toInt32) = Int32.ofInt i := by
  dsimp only
  by_cases hneg : i ≤ 0
  · obtain ⟨m, rfl⟩ : ∃ m : Nat, i = -(m : Int) := ⟨(-i).toNat, by omega⟩
    have hindex : index (-(m : Int)) = 2 * m := by
      rw [index, if_pos hneg]
      omega
    have heven : UInt32.ofNat (2 * m) % 2 = 0 := by
      apply UInt32.toNat_inj.mp
      rw [UInt32.toNat_mod, toNat_ofNat_of_lt (by omega)]
      exact Nat.mul_mod_right 2 m
    have hhalf : UInt32.ofNat (2 * m) / 2 = UInt32.ofNat m := by
      apply UInt32.toNat_inj.mp
      rw [UInt32.toNat_div, toNat_ofNat_of_lt (by omega), toNat_ofNat_of_lt (by omega)]
      exact Nat.mul_div_cancel_left m (by decide)
    rw [hindex, if_pos heven, heven, hhalf, UInt32.add_zero, ← Int32.neg_ofInt,
      Int32.ofInt_eq_ofNat]
    rfl
  · obtain ⟨m, rfl⟩ : ∃ m : Nat, i = (m : Int) + 1 := ⟨(i - 1).toNat, by omega⟩
    have hindex : index ((m : Int) + 1) = 2 * m + 1 := by
      rw [index, if_neg hneg]
      omega
    have hodd : UInt32.ofNat (2 * m + 1) % 2 = 1 := by
      apply UInt32.toNat_inj.mp
      rw [UInt32.toNat_mod, toNat_ofNat_of_lt (by omega)]
      change (2 * m + 1) % 2 = 1
      omega
    have hhalf : UInt32.ofNat (2 * m + 1) / 2 = UInt32.ofNat m := by
      apply UInt32.toNat_inj.mp
      rw [UInt32.toNat_div, toNat_ofNat_of_lt (by omega), toNat_ofNat_of_lt (by omega)]
      change (2 * m + 1) / 2 = m
      omega
    have hsum : UInt32.ofNat m + 1 = UInt32.ofNat (m + 1) := (UInt32.ofNat_add m 1).symm
    rw [hindex, hodd, if_neg (by decide), hhalf, hsum, ← Int.natCast_succ, Int32.ofInt_eq_ofNat]
    rfl

/-- A signed value that is read has an index in 32 bits. -/
theorem index_lt {i : Int} (hi : i.natAbs ≤ 2 ^ 31 - 1) : index i + 1 < 2 ^ 32 := by
  unfold index
  split_ifs <;> omega

/-- A signed code is read as its value. -/
theorem reads_se {i : Int} (hi : i.natAbs ≤ 2 ^ 31 - 1) :
    Reads se (ExpGolomb.se i) (Int32.ofInt i) := by
  have hindex := index_lt hi
  rw [ExpGolomb.se, ← List.append_nil (ExpGolomb.ue _)]
  refine (reads_ue hindex).bind ?_
  rw [se_value (by rw [toNat_ofNat_of_lt (by omega)]; omega), signed_index hi]
  exact .pure _

end BitReader

/-! ## Escaping -/

/-- Escaping behind so many zeros. -/
def escapeFrom : Nat → List UInt8 → List UInt8
  | _, [] => []
  | zeroRun, byte :: rest =>
      if zeroRun ≥ 2 ∧ byte ≤ 0x03 then
        0x03 :: byte :: escapeFrom (if byte = 0 then 1 else 0) rest
      else
        byte :: escapeFrom (if byte = 0 then zeroRun + 1 else 0) rest

/-- Emulation prevention: behind two zeros, a byte up to `03` stands behind an inserted `03`. -/
def escape (payload : List UInt8) : List UInt8 := escapeFrom 0 payload

/-- What unescaping does with a byte that it keeps. -/
theorem unescapeFrom_cons {zeroRun : UInt32} {byte : UInt8} {rest out : List UInt8}
    (hrun : zeroRun ≤ 2) (hkept : ¬ (zeroRun ≥ 2 ∧ byte = 0x03))
    (h : unescapeFrom (if byte = 0 then zeroRun + 1 else 0) rest = .ok out) :
    unescapeFrom zeroRun (byte :: rest) = .ok (byte :: out) := by
  have hcount : Checked.u32Add zeroRun 1 = .ok (zeroRun + 1) := by
    refine Checked.u32Add_ok ?_
    have hle := UInt32.le_iff_toNat_le.mp hrun
    change zeroRun.toNat ≤ 2 at hle
    rw [UInt32.toNat_one]
    omega
  rw [unescapeFrom, if_neg hkept, hcount]
  split_ifs at h ⊢ with hbyte
  · rw [Checked.bind_ok, h]
    rfl
  · rw [pure_bind, h]
    rfl

/-- What was escaped is unescaped, whatever run of zeros came before it. -/
theorem unescapeFrom_escapeFrom (payload : List UInt8) {zeroRun : Nat} (hrun : zeroRun ≤ 2) :
    unescapeFrom (UInt32.ofNat zeroRun) (escapeFrom zeroRun payload) = .ok payload := by
  induction payload generalizing zeroRun with
  | nil => rfl
  | cons byte rest ih =>
      have hnext (n : Nat) : (if byte = 0 then UInt32.ofNat n + 1 else 0) =
          UInt32.ofNat (if byte = 0 then n + 1 else 0) := by
        split_ifs
        · exact (UInt32.ofNat_add n 1).symm
        · rfl
      rw [escapeFrom]
      by_cases hescaped : zeroRun ≥ 2 ∧ byte ≤ 0x03
      · obtain rfl : zeroRun = 2 := by omega
        rw [if_pos hescaped, unescapeFrom, if_pos ⟨UInt32.le_refl 2, rfl⟩]
        refine unescapeFrom_cons (by decide) (fun h => absurd h.1 (by decide)) ?_
        have hrest := hnext 0
        change (if byte = 0 then (0 : UInt32) + 1 else 0) = _ at hrest
        rw [hrest]
        exact ih (by split_ifs <;> omega)
      · have hnat : (UInt32.ofNat zeroRun).toNat = zeroRun := BitReader.toNat_ofNat_of_lt (by omega)
        rw [if_neg hescaped]
        refine unescapeFrom_cons ?_ ?_ ?_
        · rw [UInt32.le_iff_toNat_le, hnat]
          exact hrun
        · rintro ⟨htwo, rfl⟩
          rw [ge_iff_le, UInt32.le_iff_toNat_le, hnat] at htwo
          exact hescaped ⟨htwo, UInt8.le_refl 3⟩
        · rw [hnext]
          refine ih ?_
          split_ifs with hbyte
          · subst hbyte
            have hlt : ¬ zeroRun ≥ 2 := fun h => hescaped ⟨h, by decide⟩
            omega
          · omega

/-- A payload comes back from its escaped form. -/
theorem unescapeRbsp_escape (payload : List UInt8) : unescapeRbsp (escape payload) = .ok payload :=
  unescapeFrom_escapeFrom payload (Nat.zero_le 2)

/-! ## Parameter sets -/

/-- A value that has an unsigned code. -/
abbrev Code := { v : Nat // v < 2 ^ 32 - 1 }

/-- A value that has a signed code. -/
abbrev Offset := { i : Int // i.natAbs ≤ 2 ^ 31 - 1 }

/-- How the order of pictures is described. -/
inductive PicOrderCnt where
  | lsb (log2MaxPicOrderCntLsbMinus4 : Code)
  | cycle (deltaPicOrderAlwaysZeroFlag : Bool)
      (offsetForNonRefPic offsetForTopToBottomField : Offset)
      (offsetForRefFrame : { offsets : List Offset // offsets.length ≤ 255 })
  | frameNum

/-- The fields of a sequence parameter set without chroma block; `rest` stands behind those
that are parsed, the stop bit included. -/
structure SequenceParameterSet where
  header : UInt8
  profileIdc : UInt8
  constraintFlags : UInt8
  levelIdc : UInt8
  seqParameterSetId : Code
  log2MaxFrameNumMinus4 : Code
  picOrderCnt : PicOrderCnt
  maxNumRefFrames : Code
  rest : List Bool
  header_kind : header &&& 0x1F = NalType.sps
  profile_plain : profileIdc ∉ spsProfilesWithChromaBlock
  level_ne : levelIdc ≠ 0

namespace PicOrderCnt

def type : PicOrderCnt → Nat
  | lsb _ => 0
  | cycle _ _ _ _ => 1
  | frameNum => 2

/-- What stands between the type and the number of reference frames. -/
def bits : PicOrderCnt → List Bool
  | lsb log2Max => ue log2Max
  | cycle alwaysZero nonRef topToBottom offsets =>
      fixed 1 alwaysZero.toNat ++ (se nonRef ++ (se topToBottom ++
        (ue offsets.val.length ++ offsets.val.flatMap fun offset => se offset.val)))
  | frameNum => []

end PicOrderCnt

namespace SequenceParameterSet

/-- The fields that are parsed. -/
def bits (sps : SequenceParameterSet) : List Bool :=
  ue sps.seqParameterSetId ++ (ue sps.log2MaxFrameNumMinus4 ++ (ue sps.picOrderCnt.type ++
    (sps.picOrderCnt.bits ++ ue sps.maxNumRefFrames)))

/-- The bytes behind the fixed ones, not yet escaped. -/
def body (sps : SequenceParameterSet) : List UInt8 := bitsToBytes (sps.bits ++ sps.rest)

/-- The NAL unit as it is sent. -/
def nal (sps : SequenceParameterSet) : List UInt8 :=
  escape (sps.header :: sps.profileIdc :: sps.constraintFlags :: sps.levelIdc :: sps.body)

/-- What the parser should find. -/
def info (sps : SequenceParameterSet) : SpsRefFrameInfo :=
  { maxNumRefFrames := UInt32.ofNat sps.maxNumRefFrames,
    picOrderCntType := UInt32.ofNat sps.picOrderCnt.type }

/-- Whether the fixed bytes need an emulation prevention byte among them. -/
def EscapedLevel (sps : SequenceParameterSet) : Prop :=
  sps.profileIdc = 0 ∧ sps.constraintFlags = 0 ∧ sps.levelIdc ≤ 3

end SequenceParameterSet

namespace SpsRefFrameInfo

open BitReader

/-- The offsets of a cycle are skipped, one code each. -/
theorem reads_skipOffsets (offsets : List Offset) :
    Reads (skipOffsets offsets.length) (offsets.flatMap fun offset => ExpGolomb.se offset.val) () := by
  induction offsets with
  | nil => exact .pure ()
  | cons offset offsets ih => exact (reads_se offset.property).bind ih

/-- An unsigned code is read as its value. -/
theorem reads_code (c : Code) : Reads BitReader.ue (ExpGolomb.ue c) (UInt32.ofNat c) := by
  have hc := c.property
  exact reads_ue (by omega)

/-- The picture order count is skipped as its type has it. -/
theorem reads_skipPicOrderCnt (picOrderCnt : PicOrderCnt) :
    Reads (skipPicOrderCnt (UInt32.ofNat picOrderCnt.type)) picOrderCnt.bits () := by
  cases picOrderCnt with
  | lsb log2Max =>
      change Reads (BitReader.ue >>= fun _ => pure ()) (ExpGolomb.ue log2Max) ()
      rw [← List.append_nil (ExpGolomb.ue _)]
      exact (reads_code log2Max).bind (.pure ())
  | cycle alwaysZero nonRef topToBottom offsets =>
      have hle := offsets.property
      have hlength : (UInt32.ofNat offsets.val.length).toNat = offsets.val.length :=
        toNat_ofNat_of_lt (by omega)
      have hspec : ¬ UInt32.ofNat offsets.val.length > 255 := by
        rw [gt_iff_lt, UInt32.lt_iff_toNat_lt, hlength]
        exact Nat.not_lt.mpr hle
      refine (reads_u (by decide)).bind ((reads_se nonRef.property).bind
        ((reads_se topToBottom.property).bind ((reads_ue (by omega)).bind ?_)))
      rw [if_neg hspec, hlength]
      exact reads_skipOffsets offsets.val
  | frameNum => exact .pure ()

/-- **The whole set** is read from its bits. -/
theorem reads_read (sps : SequenceParameterSet) : Reads read sps.bits sps.info := by
  refine (reads_code sps.seqParameterSetId).bind ((reads_code sps.log2MaxFrameNumMinus4).bind
    ((reads_ue ?_).bind ((reads_skipPicOrderCnt sps.picOrderCnt).bind ?_)))
  · cases sps.picOrderCnt <;> simp [PicOrderCnt.type]
  · rw [← List.append_nil (ExpGolomb.ue _)]
    exact (reads_code sps.maxNumRefFrames).bind (.pure sps.info)

end SpsRefFrameInfo

namespace SequenceParameterSet

/-- An unsigned code takes 63 bits at most. -/
theorem length_ue_le {v : Nat} (hv : v + 1 < 2 ^ 32) : (ue v).length ≤ 63 := by
  have hzeros : zeros v ≤ 31 := zeros_le hv
  rw [length_ue]
  omega

/-- The code of a field is 63 bits at most. -/
theorem length_code_le (c : Code) : (ue c).length ≤ 63 := by
  have hc := c.property
  exact length_ue_le (by omega)

/-- The code of an offset is 63 bits at most. -/
theorem length_offset_le (offset : Offset) : (se offset).length ≤ 63 :=
  length_ue_le (BitReader.index_lt offset.property)

/-- Offsets take 63 bits each at most. -/
theorem length_offsets_le (offsets : List Offset) :
    (offsets.flatMap fun offset => se offset.val).length ≤ 63 * offsets.length := by
  induction offsets with
  | nil => exact Nat.le_refl 0
  | cons offset offsets ih =>
      have hone := length_offset_le offset
      rw [List.flatMap_cons, List.length_append, List.length_cons]
      omega

/-- All parsed fields fit where a cursor can go. -/
theorem length_bits_lt (sps : SequenceParameterSet) : sps.bits.length < 2 ^ 64 := by
  have hid := length_code_le sps.seqParameterSetId
  have hnum := length_code_le sps.log2MaxFrameNumMinus4
  have hmax := length_code_le sps.maxNumRefFrames
  have htype : (ue sps.picOrderCnt.type).length ≤ 63 :=
    length_ue_le (by cases sps.picOrderCnt <;> simp [PicOrderCnt.type])
  have horder : sps.picOrderCnt.bits.length ≤ 1 + 63 * 3 + 63 * 255 := by
    cases sps.picOrderCnt with
    | lsb log2Max => exact (length_code_le log2Max).trans (by decide)
    | cycle alwaysZero nonRef topToBottom offsets =>
        have hle := offsets.property
        have hnonRef := length_offset_le nonRef
        have htop := length_offset_le topToBottom
        have hcount : (ue offsets.val.length).length ≤ 63 := length_ue_le (by omega)
        have hoffsets := length_offsets_le offsets.val
        simp only [PicOrderCnt.bits, List.length_append, length_fixed]
        omega
    | frameNum => exact Nat.zero_le _
  simp only [bits, List.length_append]
  omega

/-- Where the fixed bytes need no escaping, they stand at the start of the NAL. -/
theorem nal_eq {sps : SequenceParameterSet} (h : ¬ sps.EscapedLevel) :
    sps.nal = sps.header :: sps.profileIdc :: sps.constraintFlags :: sps.levelIdc ::
      escape sps.body := by
  have hheader : sps.header ≠ 0 := by
    intro hzero
    have hkind := sps.header_kind
    rw [hzero] at hkind
    exact absurd hkind (by decide)
  have hlevel := sps.level_ne
  unfold EscapedLevel at h
  by_cases hprofile : sps.profileIdc = 0
  · by_cases hflags : sps.constraintFlags = 0
    · have hhigh : ¬ sps.levelIdc ≤ 3 := fun hle => h ⟨hprofile, hflags, hle⟩
      simp [nal, escape, escapeFrom, hheader, hprofile, hflags, hlevel, hhigh]
    · simp [nal, escape, escapeFrom, hheader, hprofile, hflags, hlevel]
  · by_cases hflags : sps.constraintFlags = 0 <;>
      simp [nal, escape, escapeFrom, hheader, hprofile, hflags, hlevel]

/-- The parser finds in a parameter set what the encoder put there. -/
theorem spsRefFrameInfo_nal {sps : SequenceParameterSet} (h : ¬ sps.EscapedLevel) :
    spsRefFrameInfo sps.nal = .ok (some sps.info) := by
  have hread : SpsRefFrameInfo.read.run (BitReader.new sps.body) =
      .ok sps.info ((BitReader.new sps.body).skip sps.bits.length) := by
    refine SpsRefFrameInfo.reads_read sps _ ?_ ?_
    · exact (List.prefix_append _ _).trans (prefix_flatMap_bitsToBytes _)
    · rw [BitReader.new, Nat.zero_add]
      exact length_bits_lt sps
  rw [nal_eq h]
  unfold spsRefFrameInfo
  simp only [List.getElem?_cons_succ, List.getElem?_cons_zero, List.length_cons, List.drop_succ_cons,
    List.drop_zero]
  rw [if_neg (by simp [sps.profile_plain]), unescapeRbsp_escape, Checked.bind_ok, hread]
  rfl

end SequenceParameterSet

/-- Parsing inverts encoding, stage by stage and as a whole, and arithmetic stays in range. -/
theorem sps_parsing_inverts :
    (∀ sps : SequenceParameterSet, ¬ sps.EscapedLevel →
      spsRefFrameInfo sps.nal = .ok (some sps.info)) ∧
    (∀ v, v < 2 ^ 32 - 1 → Reads BitReader.ue (ue v) (UInt32.ofNat v)) ∧
    (∀ i : Int, i.natAbs ≤ 2 ^ 31 - 1 → Reads BitReader.se (se i) (Int32.ofInt i)) ∧
    (∀ payload, unescapeRbsp (escape payload) = .ok payload) ∧
    ∀ payload, ¬ ZerosInARow (2 ^ 32) payload → (spsRefFrameInfo payload).isOk := by
  refine ⟨fun _ => SequenceParameterSet.spsRefFrameInfo_nal, fun v hv => ?_,
    fun _ => BitReader.reads_se, unescapeRbsp_escape, fun _ => spsRefFrameInfo_isOk rfl⟩
  exact BitReader.reads_ue (by omega)

/-- A parameter set whose level stands behind an emulation prevention byte. -/
def zeroProfile : SequenceParameterSet where
  header := 0x67
  profileIdc := 0
  constraintFlags := 0
  levelIdc := 1
  seqParameterSetId := ⟨0, by decide⟩
  log2MaxFrameNumMinus4 := ⟨0, by decide⟩
  picOrderCnt := .frameNum
  maxNumRefFrames := ⟨1, by decide⟩
  rest := [true]
  header_kind := by decide
  profile_plain := by decide
  level_ne := by decide

/-- The parser takes the level for the first parsed byte there, and on enough zeros it
overflows. -/
theorem zero_profile_and_zeros :
    spsRefFrameInfo zeroProfile.nal ≠ .ok (some zeroProfile.info) ∧
      ¬ (spsRefFrameInfo (0x67 :: 66 :: 0x40 :: 31 :: List.replicate (2 ^ 32) 0)).isOk := by
  constructor
  · decide +kernel
  · rw [spsRefFrameInfo_isOk_iff rfl (by decide), not_not]
    exact List.infix_refl _

end Oxrdp
