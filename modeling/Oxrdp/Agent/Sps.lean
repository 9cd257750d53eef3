import Oxrdp.Agent.AnnexB
import Oxrdp.Lib.Checked
import Oxrdp.Lib.Effect
import Oxrdp.Lib.ExpGolomb

/-!
# Sequence parameter sets

The half of `h264.rs` that looks into an SPS.  Profile and level stand at fixed places; the
fields behind them are Exponential-Golomb codes, read bit by bit from the bytes without their
emulation prevention.  A reader stops where it runs out of bits or finds what it does not
accept, which is `None` in the code; where machine arithmetic would leave its range the code
panics, and so does the model.

A **sound** reader never does, whatever the bytes: it goes on for at most so many bits, with a
result that is as small as its caller needs.
-/

namespace Oxrdp

open Effect

/-- Profile, constraint flags and level, which stand right behind the header byte. -/
def spsProfile (payload : List UInt8) : Option (UInt8 × UInt8 × UInt8) := do
  let profileIdc ← payload[1]?
  let constraintFlags ← payload[2]?
  let levelIdc ← payload[3]?
  pure (profileIdc, constraintFlags, levelIdc)

/-- `sps_profile` of the first SPS in an access unit. -/
def firstSpsProfile (raw : List UInt8) : Option (UInt8 × UInt8 × UInt8) :=
  ((splitAnnexb raw).find? (·.kind = NalType.sps)).bind fun nal => spsProfile nal.payload

/-- `unescape_rbsp` behind a run of so many zeros. -/
def unescapeFrom (zeroRun : UInt32) : List UInt8 → Checked (List UInt8)
  | [] => pure []
  | byte :: rest =>
      if zeroRun ≥ 2 ∧ byte = 0x03 then
        unescapeFrom 0 rest
      else do
        let zeroRun ← (if byte = 0 then Checked.u32Add zeroRun 1 else pure 0)
        let out ← unescapeFrom zeroRun rest
        pure (byte :: out)

/-- The bytes of a payload without emulation prevention. -/
def unescapeRbsp (payload : List UInt8) : Checked (List UInt8) := unescapeFrom 0 payload

/-- A cursor over the bits of these bytes, the highest of each byte first. -/
structure BitReader where
  data : List UInt8
  bitPos : Nat
  deriving DecidableEq, Repr

/-- Why a reader stops: it makes no sense of its input, or it panics. -/
inductive Unread where
  | refused
  | panicked (why : Panic)
  deriving DecidableEq, Repr

/-- Reading with a cursor. -/
abbrev Reading (α : Type) := EStateM Unread BitReader α

namespace BitReader

def new (data : List UInt8) : BitReader := { data, bitPos := 0 }

/-- Arithmetic within a reader. -/
def checked {α : Type} : Checked α → Reading α
  | .ok a => pure a
  | .error why => throw (.panicked why)

def bit : Reading UInt32 := do
  let r ← get
  match r.data[r.bitPos / 8]? with
  | none => throw .refused
  | some byte =>
      let shift := 7 - r.bitPos % 8
      let bitPos ← checked (Checked.usize (r.bitPos + 1))
      set { r with bitPos }
      pure (UInt32.ofNat ((byte >>> UInt8.ofNat shift) &&& 1).toNat)

/-- The loop of `u`. -/
def uFrom : Nat → UInt32 → Reading UInt32
  | 0, value => pure value
  | n + 1, value => do
      let bit ← bit
      uFrom n ((value <<< 1) ||| bit)

/-- An unsigned field of `n` bits. -/
def u (n : Nat) : Reading UInt32 := uFrom n 0

/-- The loop of `ue`, where so many zeros are still allowed: how many there are. -/
def leadingZeros : Nat → Reading Nat
  | 0 => do
      let bit ← bit
      if bit = 0 then throw .refused else pure 0
  | left + 1 => do
      let bit ← bit
      if bit = 0 then do
        let zeros ← leadingZeros left
        pure (zeros + 1)
      else pure 0

/-- An Exponential-Golomb code. -/
def ue : Reading UInt32 := do
  let zeros ← leadingZeros 31
  if zeros = 0 then pure 0
  else do
    let suffix ← u zeros
    let power ← checked (Checked.u32Shl 1 zeros)
    let first ← checked (Checked.u32Sub power 1)
    checked (Checked.u32Add first suffix)

/-- A signed Exponential-Golomb code. -/
def se : Reading Int32 := do
  let code ← ue
  let magnitude := code / 2 + code % 2
  if code % 2 = 0 then checked (Checked.i32Neg magnitude.toInt32) else pure magnitude.toInt32

end BitReader

/-- The profiles with a block of fields that this parser does not know. -/
def spsProfilesWithChromaBlock : List UInt8 :=
  [100, 110, 122, 244, 44, 83, 86, 118, 128, 138, 139, 134, 135]

/-- The fields of an SPS that say what the decoder keeps for prediction. -/
structure SpsRefFrameInfo where
  maxNumRefFrames : UInt32
  picOrderCntType : UInt32
  deriving DecidableEq, Repr

namespace SpsRefFrameInfo

open BitReader

/-- The offsets of a cycle. -/
def skipOffsets : Nat → Reading Unit
  | 0 => pure ()
  | n + 1 => do
      let _ ← se
      skipOffsets n

/-- What stands between the type and `max_num_ref_frames`. -/
def skipPicOrderCnt (picOrderCntType : UInt32) : Reading Unit :=
  if picOrderCntType = 0 then do
    let _ ← ue
    pure ()
  else if picOrderCntType = 1 then do
    let _ ← u 1
    let _ ← se
    let _ ← se
    let cycle ← ue
    if cycle > 255 then throw .refused else skipOffsets cycle.toNat
  else pure ()

def read : Reading SpsRefFrameInfo := do
  let _ ← ue
  let _ ← ue
  let picOrderCntType ← ue
  skipPicOrderCnt picOrderCntType
  let maxNumRefFrames ← ue
  pure { maxNumRefFrames, picOrderCntType }

end SpsRefFrameInfo

/-- What an SPS says of reference frames, or `none` where it cannot be trusted. -/
def spsRefFrameInfo (payload : List UInt8) : Checked (Option SpsRefFrameInfo) :=
  match payload[1]? with
  | none => pure none
  | some profileIdc =>
      if profileIdc ∈ spsProfilesWithChromaBlock ∨ payload.length < 4 then pure none
      else do
        let rbsp ← unescapeRbsp (payload.drop 4)
        match SpsRefFrameInfo.read.run (BitReader.new rbsp) with
        | .ok info _ => pure (some info)
        | .error .refused _ => pure none
        | .error (.panicked why) _ => throw why

/-- `sps_ref_frame_info` of the first SPS in an access unit. -/
def firstSpsRefFrameInfo (raw : List UInt8) : Checked (Option SpsRefFrameInfo) :=
  match (splitAnnexb raw).find? (·.kind = NalType.sps) with
  | none => pure none
  | some nal => spsRefFrameInfo nal.payload

/-! ## Reading never panics -/

/-- From any place with room for `cost` more bits, the reader does not panic; it goes on for at
most that many bits, and what it returns has `Q`. -/
def Sound {α : Type} (cost : Nat) (m : Reading α) (Q : α → Prop) : Prop :=
  ∀ k, k + cost < 2 ^ 64 →
    Triple (fun r => r.bitPos ≤ k) m (fun a r => Q a ∧ r.bitPos ≤ k + cost)
      (fun e _ => e = .refused)

namespace Sound

variable {α β : Type} {cost cost' : Nat} {m : Reading α} {Q Q' : α → Prop} {R : β → Prop}

/-- A value with the property costs no bits. -/
theorem pure {a : α} (h : Q a) : Sound cost (Pure.pure a) Q :=
  fun _ _ => triple_pure fun _ hr => ⟨h, Nat.le_add_right_of_le hr⟩

/-- A refusal is always sound. -/
theorem refuse : Sound cost (throw .refused : Reading α) Q :=
  fun _ _ => triple_throw fun _ _ => rfl

/-- What the first half leaves is there for the second one. -/
theorem bind {f : α → Reading β} (h : Sound cost m Q) (hcost : cost ≤ cost')
    (hf : ∀ a, Q a → Sound (cost' - cost) (f a) R) : Sound cost' (m >>= f) R := by
  intro k hk
  refine (h k (by omega)).bind fun a => ?_
  refine triple_of_fact fun ha => ?_
  have hrest := hf a ha (k + cost) (by omega)
  rwa [Nat.add_assoc, Nat.add_sub_cancel' hcost] at hrest

/-- More bits may be allowed, and less be said. -/
theorem weaken (h : Sound cost m Q) (hcost : cost ≤ cost') (hQ : ∀ a, Q a → Q' a) :
    Sound cost' m Q' := by
  intro k hk
  refine (h k (by omega)).conseq (fun _ hr => hr) ?_ (fun _ _ he => he)
  intro a r ⟨ha, hr⟩
  exact ⟨hQ a ha, by omega⟩

/-- A branch is as sound as either of its ways. -/
theorem ite {p : Prop} [Decidable p] {m' : Reading α} (h : p → Sound cost m Q)
    (h' : ¬ p → Sound cost m' Q) : Sound cost (if p then m else m') Q := by
  split_ifs with hp
  · exact h hp
  · exact h' hp

end Sound

namespace BitReader

/-- What `bit` does, away from the end of the address space. -/
theorem run_bit {r : BitReader} (h : r.bitPos + 1 < 2 ^ 64) :
    bit.run r = match r.data[r.bitPos / 8]? with
      | none => .error Unread.refused r
      | some byte =>
          .ok (UInt32.ofNat ((byte >>> UInt8.ofNat (7 - r.bitPos % 8)) &&& 1).toNat)
            { r with bitPos := r.bitPos + 1 } := by
  change (match r.data[r.bitPos / 8]? with
    | none => (throw Unread.refused : Reading UInt32)
    | some byte => do
        let bitPos ← checked (Checked.usize (r.bitPos + 1))
        set { r with bitPos }
        pure (UInt32.ofNat
          ((byte >>> UInt8.ofNat (7 - r.bitPos % 8)) &&& 1).toNat)).run r = _
  rw [Checked.usize_ok h]
  cases r.data[r.bitPos / 8]? with
  | none => rfl
  | some byte => rfl

/-- A bit is 0 or 1. -/
theorem sound_bit : Sound 1 bit fun b => b.toNat ≤ 1 := by
  intro k hk r hr
  rw [run_bit (by omega)]
  cases r.data[r.bitPos / 8]? with
  | none => exact rfl
  | some byte =>
      have hbit : ((byte >>> UInt8.ofNat (7 - r.bitPos % 8)) &&& 1).toNat ≤ 1 := by
        rw [UInt8.toNat_and]
        exact Nat.and_le_right
      refine ⟨?_, Nat.succ_le_succ hr⟩
      change (UInt32.ofNat _).toNat ≤ 1
      rw [UInt32.toNat_ofNat']
      exact (Nat.mod_le _ _).trans hbit

/-- A bit pushed behind a number. -/
theorem toNat_push {value b : UInt32} {k : Nat} (hvalue : value.toNat < 2 ^ k) (hk : k < 32)
    (hb : b.toNat ≤ 1) : (value <<< 1 ||| b).toNat = 2 * value.toNat + b.toNat := by
  have hpow : 2 ^ k ≤ 2 ^ 31 := Nat.pow_le_pow_right (by omega) (by omega)
  have hshift : (value <<< 1).toNat = value.toNat <<< 1 := by
    rw [UInt32.toNat_shiftLeft]
    refine Nat.mod_eq_of_lt ?_
    simp [Nat.shiftLeft_eq]
    omega
  rw [UInt32.toNat_or, hshift, ← Nat.shiftLeft_add_eq_or_of_lt (by omega), Nat.shiftLeft_eq]
  omega

/-- Each further bit doubles the bound of the value. -/
theorem sound_uFrom (n : Nat) {k : Nat} (hn : k + n ≤ 32) {value : UInt32}
    (hvalue : value.toNat < 2 ^ k) :
    Sound n (uFrom n value) fun v => v.toNat < 2 ^ (k + n) := by
  induction n generalizing k value with
  | zero => exact .pure hvalue
  | succ n ih =>
      rw [uFrom]
      refine sound_bit.bind (by omega) fun b hb => ?_
      have hpush := toNat_push hvalue (by omega) hb
      rw [Nat.add_sub_cancel, Nat.add_comm n 1, ← Nat.add_assoc]
      refine ih (by omega) ?_
      rw [hpush, Nat.pow_succ]
      omega

/-- A number of `n` bits is below `2 ^ n`. -/
theorem sound_u {n : Nat} (hn : n ≤ 32) : Sound n (u n) fun v => v.toNat < 2 ^ n := by
  have hzero : (0 : UInt32).toNat < 2 ^ 0 := by decide
  have h := sound_uFrom n (by omega) hzero
  rwa [Nat.zero_add] at h

/-- No more zeros are counted than may be, and the bit behind them is read as well. -/
theorem sound_leadingZeros (left : Nat) : Sound (left + 1) (leadingZeros left) (· ≤ left) := by
  induction left with
  | zero =>
      rw [leadingZeros]
      refine sound_bit.bind (Nat.le_refl 1) fun b _ => ?_
      exact .ite (fun _ => .refuse) fun _ => .pure (Nat.le_refl 0)
  | succ left ih =>
      rw [leadingZeros]
      refine sound_bit.bind (by omega) fun b _ => ?_
      refine .ite (fun _ => ?_) fun _ => .pure (Nat.zero_le _)
      refine ih.bind (Nat.le_refl _) fun zeros hzeros => ?_
      exact .pure (Nat.succ_le_succ hzeros)

/-- A number that fits a word is kept. -/
theorem toNat_ofNat_of_lt {n : Nat} (h : n < 2 ^ 32) : (UInt32.ofNat n).toNat = n :=
  UInt32.toNat_ofNat_of_lt' h

/-- The value of a code from its zeros and the bits behind them, without an overflow. -/
theorem ue_value {zeros : Nat} (hzeros : zeros ≤ 31) {suffix : UInt32}
    (hsuffix : suffix.toNat < 2 ^ zeros) :
    (do
      let power ← checked (Checked.u32Shl 1 zeros)
      let first ← checked (Checked.u32Sub power 1)
      checked (Checked.u32Add first suffix)) =
      (pure (UInt32.ofNat (2 ^ zeros - 1 + suffix.toNat)) : Reading UInt32) := by
  have hpow : 2 ^ zeros ≤ 2 ^ 31 := Nat.pow_le_pow_right (by omega) hzeros
  have hpos := Nat.two_pow_pos zeros
  have hpower : (UInt32.ofNat (2 ^ zeros)).toNat = 2 ^ zeros := toNat_ofNat_of_lt (by omega)
  have hfirst : (UInt32.ofNat (2 ^ zeros - 1)).toNat = 2 ^ zeros - 1 :=
    toNat_ofNat_of_lt (by omega)
  have hone : (1 : UInt32) ≤ UInt32.ofNat (2 ^ zeros) := by
    rw [UInt32.le_iff_toNat_le, hpower]
    exact hpos
  have hshl : (1 : UInt32) <<< UInt32.ofNat zeros = UInt32.ofNat (2 ^ zeros) := by
    apply UInt32.toNat_inj.mp
    rw [UInt32.toNat_shiftLeft, hpower]
    simp [Nat.shiftLeft_eq, Nat.mod_eq_of_lt (show zeros < 32 by omega)]
    omega
  have hsub : UInt32.ofNat (2 ^ zeros) - 1 = UInt32.ofNat (2 ^ zeros - 1) := by
    apply UInt32.toNat_inj.mp
    rw [UInt32.toNat_sub_of_le _ _ hone, hpower, hfirst]
    rfl
  rw [Checked.u32Shl_ok (by omega), hshl]
  simp only [checked, pure_bind]
  rw [Checked.u32Sub_ok hone, hsub]
  simp only [pure_bind]
  rw [Checked.u32Add_ok (by omega), UInt32.ofNat_add, UInt32.ofNat_toNat]

/-- With at most 31 zeros in front, a code is below `2 ^ 32 - 1`. -/
theorem sound_ue : Sound 63 ue fun v => v.toNat ≤ 2 ^ 32 - 2 := by
  refine (sound_leadingZeros 31).bind (by decide) fun zeros hzeros => ?_
  refine .ite (fun _ => .pure (by decide)) fun _ => ?_
  refine (sound_u (by omega)).bind hzeros fun suffix hsuffix => ?_
  rw [ue_value hzeros hsuffix]
  have hpow : 2 ^ zeros ≤ 2 ^ 31 := Nat.pow_le_pow_right (by omega) hzeros
  refine .pure ?_
  rw [toNat_ofNat_of_lt (by omega)]
  omega

/-- What `se` makes of a code, without an overflow. -/
theorem se_value {code : UInt32} (hcode : code.toNat ≤ 2 ^ 32 - 2) :
    (if code % 2 = 0 then checked (Checked.i32Neg (code / 2 + code % 2).toInt32)
      else pure (code / 2 + code % 2).toInt32) =
      (pure (if code % 2 = 0 then -(code / 2 + code % 2).toInt32
        else (code / 2 + code % 2).toInt32) : Reading Int32) := by
  split_ifs with heven
  · have hne : (code / 2 + code % 2).toInt32 ≠ Int32.minValue := by
      intro hmin
      have hcast := congrArg (fun i => i.toUInt32.toNat) hmin
      rw [heven, UInt32.add_zero] at hcast
      change (code / 2).toNat = 2 ^ 31 at hcast
      rw [UInt32.toNat_div] at hcast
      change code.toNat / 2 = 2 ^ 31 at hcast
      omega
    rw [Checked.i32Neg_ok hne]
    rfl
  · rfl

/-- A signed code is read with 63 bits at most. -/
theorem sound_se : Sound 63 se fun _ => True := by
  refine sound_ue.bind (Nat.le_refl 63) fun code hcode => ?_
  rw [se_value hcode]
  exact .pure trivial

end BitReader

namespace SpsRefFrameInfo

open BitReader

/-- Skipping the offsets of a cycle takes 63 bits each at most. -/
theorem sound_skipOffsets (n : Nat) : Sound (63 * n) (skipOffsets n) fun _ => True := by
  induction n with
  | zero => exact .pure trivial
  | succ n ih =>
      rw [skipOffsets]
      exact sound_se.bind (by omega) fun _ _ => ih.weaken (by omega) fun _ h => h

/-- How many bits a description of the picture order may take. -/
def orderCost : Nat := 1 + 3 * 63 + 63 * 255

/-- The picture order count is skipped whatever its type. -/
theorem sound_skipPicOrderCnt (picOrderCntType : UInt32) :
    Sound orderCost (skipPicOrderCnt picOrderCntType) fun _ => True := by
  refine .ite (fun _ => ?_) fun _ => .ite (fun _ => ?_) fun _ => .pure trivial
  · exact sound_ue.bind (by decide) fun _ _ => .pure trivial
  · refine (sound_u (n := 1) (by omega)).bind (by decide) fun _ _ => ?_
    refine sound_se.bind (by decide) fun _ _ => sound_se.bind (by decide) fun _ _ => ?_
    refine sound_ue.bind (by decide) fun cycle _ => ?_
    refine .ite (fun _ => .refuse) fun hcycle => ?_
    have hle : cycle ≤ 255 := UInt32.not_lt.mp hcycle
    rw [UInt32.le_iff_toNat_le] at hle
    change cycle.toNat ≤ 255 at hle
    refine (sound_skipOffsets cycle.toNat).weaken ?_ fun _ h => h
    simp only [orderCost]
    omega

/-- **Reading a sequence parameter set** leaves no range, whatever the bits. -/
theorem sound_read : Sound (4 * 63 + orderCost) read fun _ => True := by
  refine sound_ue.bind (by decide) fun _ _ => sound_ue.bind (by decide) fun _ _ => ?_
  refine sound_ue.bind (by decide) fun picOrderCntType _ => ?_
  refine (sound_skipPicOrderCnt picOrderCntType).bind (by decide) fun _ _ => ?_
  exact sound_ue.bind (by decide) fun _ _ => .pure trivial

end SpsRefFrameInfo

/-! ## Where the parser stops

The cursor never leaves its range, so all that may overflow is the count of zeros.
-/

/-- A row of so many zeros. -/
def ZerosInARow (n : Nat) (payload : List UInt8) : Prop := List.replicate n 0 <:+: payload

/-- A run does not reach over another element. -/
theorem replicate_infix_iff {α : Type} {a b : α} {n k : Nat} (hk : k < n) (hb : b ≠ a)
    (l : List α) :
    List.replicate n a <:+: List.replicate k a ++ b :: l ↔ List.replicate n a <:+: l := by
  constructor
  · intro h
    obtain ⟨start, hstart, hget⟩ := List.infix_iff_getElem?.mp h
    simp only [List.length_replicate, List.length_append, List.length_cons] at hstart hget
    -- the run starts behind the other element, which stands at place `k`
    have hbehind : k < start := by
      by_contra hle
      have hat := hget (k - start) (by omega)
      rw [Nat.sub_add_cancel (by omega), List.getElem?_append_right (by simp)] at hat
      simp at hat
      exact hb hat
    refine List.infix_iff_getElem?.mpr ⟨start - (k + 1), ?_, fun i hi => ?_⟩
    · simp only [List.length_replicate]
      omega
    · rw [List.length_replicate] at hi
      have hat := hget i hi
      rw [List.getElem?_append_right (by simp; omega), List.length_replicate,
        show i + start - k = i + (start - (k + 1)) + 1 by omega, List.getElem?_cons_succ] at hat
      exact hat
  · intro h
    exact h.trans ((List.suffix_cons b l).isInfix.trans (List.suffix_append _ _).isInfix)

/-- Behind a run of zeros, unescaping goes on unless the run or a later one is too long. -/
theorem unescapeFrom_isOk {n : Nat} (hn : n = 2 ^ 32) (payload : List UInt8) (zeroRun : UInt32) :
    (unescapeFrom zeroRun payload).isOk ↔
      ¬ ZerosInARow n (List.replicate zeroRun.toNat 0 ++ payload) := by
  induction payload generalizing zeroRun with
  | nil =>
      refine iff_of_true rfl fun h => ?_
      have hlen := h.length_le
      have hlt := zeroRun.toNat_lt
      simp only [List.append_nil, List.length_replicate] at hlen
      omega
  | cons byte rest ih =>
      have hlt : zeroRun.toNat < n := hn ▸ zeroRun.toNat_lt
      have hrest (hbyte : byte ≠ 0) : (unescapeFrom 0 rest).isOk ↔
          ¬ ZerosInARow n (List.replicate zeroRun.toNat 0 ++ byte :: rest) := by
        rw [ih 0, ZerosInARow, ZerosInARow, replicate_infix_iff hlt hbyte]
        simp
      rw [unescapeFrom]
      split_ifs with hprevent hbyte
      · exact hrest (by rw [hprevent.2]; decide)
      · subst hbyte
        have hpush : List.replicate zeroRun.toNat (0 : UInt8) ++ 0 :: rest =
            List.replicate (zeroRun.toNat + 1) 0 ++ rest := by
          simp [List.replicate_succ']
        rw [hpush]
        by_cases hcount : zeroRun.toNat + 1 < 2 ^ 32
        · have hnext : (zeroRun + 1).toNat = zeroRun.toNat + 1 := by
            rw [UInt32.toNat_add, UInt32.toNat_one, Nat.mod_eq_of_lt hcount]
          rw [Checked.u32Add_ok hcount, Checked.bind_ok, Checked.isOk_bind_pure, ih (zeroRun + 1),
            hnext]
        · have hfull : zeroRun.toNat + 1 = n := by omega
          have hover : Checked.u32Add zeroRun 1 = .error .overflow := if_neg hcount
          rw [hover, hfull]
          exact iff_of_false Bool.false_ne_true fun h => h (List.prefix_append _ _).isInfix
      · rw [pure_bind, Checked.isOk_bind_pure, hrest hbyte]

/-- Unescaping counts zeros in 32 bits, which is enough for any but 2^32 of them. -/
theorem unescapeRbsp_isOk {n : Nat} (hn : n = 2 ^ 32) (payload : List UInt8) :
    (unescapeRbsp payload).isOk ↔ ¬ ZerosInARow n payload :=
  unescapeFrom_isOk hn payload 0

/-- A payload with the fixed bytes of a known profile is read or refused, unless unescaping stops
at such a run. -/
theorem spsRefFrameInfo_isOk_iff {n : Nat} (hn : n = 2 ^ 32) {profileIdc : UInt8}
    (hprofile : profileIdc ∉ spsProfilesWithChromaBlock) (header constraintFlags levelIdc : UInt8)
    (body : List UInt8) :
    (spsRefFrameInfo (header :: profileIdc :: constraintFlags :: levelIdc :: body)).isOk ↔
      ¬ ZerosInARow n body := by
  rw [← unescapeRbsp_isOk hn]
  unfold spsRefFrameInfo
  simp only [List.getElem?_cons_succ, List.getElem?_cons_zero, List.length_cons,
    List.drop_succ_cons, List.drop_zero]
  rw [if_neg (by simp [hprofile])]
  cases unescapeRbsp body with
  | error why => exact Iff.rfl
  | ok rbsp =>
      rw [Checked.bind_ok]
      have hsound := SpsRefFrameInfo.sound_read 0 (by decide) (BitReader.new rbsp) (Nat.le_refl 0)
      cases hread : SpsRefFrameInfo.read.run (BitReader.new rbsp) with
      | ok info r => exact Iff.rfl
      | error e r =>
          rw [hread] at hsound
          change e = .refused at hsound
          subst hsound
          exact Iff.rfl

/-- Away from such a run, any bytes are read or refused. -/
theorem spsRefFrameInfo_isOk {n : Nat} (hn : n = 2 ^ 32) {payload : List UInt8}
    (h : ¬ ZerosInARow n payload) : (spsRefFrameInfo payload).isOk := by
  match payload with
  | [] => rfl
  | header :: profileIdc :: constraintFlags :: levelIdc :: body =>
      by_cases hprofile : profileIdc ∈ spsProfilesWithChromaBlock
      · simp [spsRefFrameInfo, hprofile]
        rfl
      · refine (spsRefFrameInfo_isOk_iff hn hprofile header constraintFlags levelIdc body).mpr ?_
        exact fun hzeros => h (hzeros.trans (List.suffix_append
          [header, profileIdc, constraintFlags, levelIdc] body).isInfix)
  | [header] => rfl
  | [header, profileIdc] => simp [spsRefFrameInfo]; rfl
  | [header, profileIdc, constraintFlags] => simp [spsRefFrameInfo]; rfl

end Oxrdp
