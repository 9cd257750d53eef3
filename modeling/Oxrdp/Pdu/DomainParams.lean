import Oxrdp.Pdu.Lengths

/-!
# The MCS domain parameters

`domain_params.rs`: a BER sequence of eight unsigned integers.  An integer is written
without its leading zero bytes, but with one zero byte in front where its top bit is
set, so it takes one to five bytes.
-/

namespace Oxrdp

open Coder

/-! ## Unsigned BER integers -/

/-- Drop leading zero bytes, at most `n` of them. -/
def stripZeros : Nat → List UInt8 → List UInt8
  | n + 1, 0 :: rest => stripZeros n rest
  | _, bytes => bytes

/-- Minimal content bytes of an unsigned BER INTEGER. -/
def integerContent (value : UInt32) : List UInt8 :=
  let content := stripZeros 3 (beBytes 4 value.toNat)
  if content.headD 0 &&& 0x80 ≠ 0 then 0x00 :: content else content

def integerSize (value : UInt32) : Nat :=
  1 + lengthSize (integerContent value).length + (integerContent value).length

def writeInteger (value : UInt32) (ctx : String) : Encoder Unit := do
  writeU8 0x02 ctx
  writeLength (integerContent value).length ctx
  writeSlice (integerContent value) ctx

/-- A byte shifted into a `u32` from the right. -/
def shiftInU32 (v : UInt32) (b : UInt8) : UInt32 := (v <<< 8) ||| b.toUInt32

/-- The content bytes, each shifted in. -/
def readU32Be (ctx : String) : Nat → UInt32 → Decoder UInt32
  | 0, v => pure v
  | n + 1, v => do
      let next ← readU8 ctx
      readU32Be ctx n (shiftInU32 v next)

def readInteger (ctx : String) : Decoder UInt32 := do
  expectU8 0x02 ctx (.invalidField ctx "ber tag" "expected INTEGER 0x02")
  let len ← readLength ctx
  if len = 0 ∨ 5 < len then
    throw (.invalidLength ctx "bad INTEGER length")
  else
    readU32Be ctx len 0

/-- Leading zeros count nothing. -/
theorem stripZeros_beNat (n : Nat) (bs : List UInt8) : beNat (stripZeros n bs) = beNat bs := by
  induction n generalizing bs with
  | zero => rfl
  | succ n ih =>
      cases bs with
      | nil => rfl
      | cons b rest =>
          by_cases hb : b = 0
          · subst hb
            rw [stripZeros, ih, beNat_eq_foldl, beNat_eq_foldl, List.foldl_cons]
            rfl
          · rw [stripZeros]
            intro m rest' _ hzero
            exact absurd (List.cons.inj hzero).1 hb

/-- At most `n` zeros are stripped. -/
theorem stripZeros_length (n : Nat) (bs : List UInt8) :
    bs.length ≤ (stripZeros n bs).length + n ∧ (stripZeros n bs).length ≤ bs.length := by
  induction n generalizing bs with
  | zero => simp [stripZeros]
  | succ n ih =>
      cases bs with
      | nil => simp [stripZeros]
      | cons b rest =>
          by_cases hb : b = 0
          · subst hb
            have hrest := ih rest
            rw [stripZeros, List.length_cons]
            omega
          · rw [stripZeros]
            · omega
            · intro m rest' _ hzero
              exact absurd (List.cons.inj hzero).1 hb

/-- The content of an integer stands for it. -/
theorem integerContent_beNat (value : UInt32) : beNat (integerContent value) = value.toNat := by
  have hvalue : beNat (stripZeros 3 (beBytes 4 value.toNat)) = value.toNat := by
    rw [stripZeros_beNat, beNat_beBytes value.toNat_lt]
  rw [integerContent]
  split_ifs
  · rw [beNat_eq_foldl, List.foldl_cons]
    rw [beNat_eq_foldl] at hvalue
    exact hvalue
  · exact hvalue

/-- It is one byte to five bytes long. -/
theorem integerContent_length (value : UInt32) :
    1 ≤ (integerContent value).length ∧ (integerContent value).length ≤ 5 := by
  have hlen := stripZeros_length 3 (beBytes 4 value.toNat)
  rw [beBytes_length] at hlen
  rw [integerContent]
  split_ifs
  · rw [List.length_cons]
    omega
  · omega

/-- Shifting a byte into a `u32` drops what no longer fits. -/
theorem shift_in_u32 (v : UInt32) (b : UInt8) :
    (shiftInU32 v b).toNat = (v.toNat * 256 + b.toNat) % 2 ^ 32 := by
  have hb : b.toNat < 2 ^ 8 := b.toNat_lt
  have hshift : (v <<< 8).toNat = (v.toNat * 256) % 2 ^ 32 := by
    rw [UInt32.toNat_shiftLeft]
    change (v.toNat <<< 8) % 2 ^ 32 = _
    rw [Nat.shiftLeft_eq]
  have hmul : (v.toNat * 256) % 2 ^ 32 = ((v.toNat % 2 ^ 24) <<< 8) := by
    rw [Nat.shiftLeft_eq]
    omega
  rw [shiftInU32, UInt32.toNat_or, hshift, UInt8.toNat_toUInt32, hmul,
    ← Nat.shiftLeft_add_eq_or_of_lt hb, Nat.shiftLeft_eq]
  omega

/-- Big-endian bytes are read one by one. -/
theorem readU32Be_parses (bs : List UInt8) (ctx : String) (v : UInt32) :
    Parses (readU32Be ctx bs.length v) bs
      (bs.foldl shiftInU32 v) := by
  induction bs generalizing v with
  | nil => exact Parses.pure v
  | cons b rest ih =>
      exact (readU8_parses b ctx).bind
        (k := fun next => readU32Be ctx rest.length (shiftInU32 v next)) (ih (shiftInU32 v b))

/-- Shifting in bytes counts modulo 2^32. -/
theorem foldl_u32 (bs : List UInt8) (v : UInt32) (n : Nat) (h : v.toNat = n % 2 ^ 32) :
    (bs.foldl shiftInU32 v).toNat =
      (bs.foldl (fun acc b => acc * 256 + b.toNat) n) % 2 ^ 32 := by
  induction bs generalizing v n with
  | nil => exact h
  | cons b rest ih =>
      rw [List.foldl_cons, List.foldl_cons]
      apply ih
      rw [shift_in_u32, h]
      omega

/-- The content bytes of a value give the value back. -/
theorem readU32Be_content (value : UInt32) (ctx : String) :
    Parses (readU32Be ctx (integerContent value).length 0) (integerContent value) value := by
  have hparse := readU32Be_parses (integerContent value) ctx 0
  have hvalue : (integerContent value).foldl shiftInU32 0 = value := by
    apply UInt32.toNat_inj.mp
    rw [foldl_u32 _ 0 0 rfl, ← beNat_eq_foldl, integerContent_beNat,
      Nat.mod_eq_of_lt value.toNat_lt]
  rw [hvalue] at hparse
  exact hparse

/-- **An integer comes back.** -/
theorem writeInteger_coded (value : UInt32) (c c' : String) :
    Coded (writeInteger value c) (integerSize value) (readInteger c') value := by
  obtain ⟨hone, hfive⟩ := integerContent_length value
  have hcontent : Coded (writeSlice (integerContent value) c) (integerContent value).length
      (readU32Be c' (integerContent value).length 0) value :=
    (writeSlice_emits _ c).coded (writeSlice_writes _ c) (readU32Be_content value c')
  have hall : Coded (writeInteger value c)
      (1 + (lengthSize (integerContent value).length + (integerContent value).length))
      (readInteger c') value := by
    refine (expectU8_coded 0x02 _ _ _).bind ?_
    have hlt : (integerContent value).length < 256 ^ 8 := Nat.lt_of_le_of_lt hfive (by decide)
    refine (writeLength_coded hlt _ _).bind ?_
    exact Coded.unless (by omega) hcontent
  exact hall.of_eq (by rw [integerSize, Nat.add_assoc])

/-! ## The sequence -/

structure DomainParameters where
  maxChannelIds : UInt32
  maxUserIds : UInt32
  maxTokenIds : UInt32
  numPriorities : UInt32
  minThroughput : UInt32
  maxHeight : UInt32
  maxMcsPduSize : UInt32
  protocolVersion : UInt32
  deriving DecidableEq, Repr

namespace DomainParameters

/-- Standard RDP target parameters. -/
def target : DomainParameters := ⟨34, 2, 0, 1, 0, 1, 65535, 2⟩

/-- Standard RDP minimum parameters. -/
def minimum : DomainParameters := ⟨1, 1, 1, 1, 0, 1, 1056, 2⟩

/-- Standard RDP maximum parameters. -/
def maximum : DomainParameters := ⟨65535, 64535, 65535, 1, 0, 1, 65535, 2⟩

def fields (m : DomainParameters) : List UInt32 :=
  [m.maxChannelIds, m.maxUserIds, m.maxTokenIds, m.numPriorities, m.minThroughput,
    m.maxHeight, m.maxMcsPduSize, m.protocolVersion]

def contentLen (m : DomainParameters) : Nat := (m.fields.map integerSize).sum

def size (m : DomainParameters) : Nat := 1 + lengthSize m.contentLen + m.contentLen

def encode (m : DomainParameters) : Encoder Unit := do
  writeU8 0x30 "domain params sequence tag"
  writeLength m.contentLen "domain params sequence length"
  writeMany (fun value => writeInteger value "domain params integer") m.fields

def decode : Decoder DomainParameters := do
  expectU8 0x30 "domain params sequence tag"
    (.invalidField "domain params sequence tag" "ber tag" "expected SEQUENCE 0x30")
  let _len ← readLength "domain params sequence length"
  let maxChannelIds ← readInteger "max_channel_ids"
  let maxUserIds ← readInteger "max_user_ids"
  let maxTokenIds ← readInteger "max_token_ids"
  let numPriorities ← readInteger "num_priorities"
  let minThroughput ← readInteger "min_throughput"
  let maxHeight ← readInteger "max_height"
  let maxMcsPduSize ← readInteger "max_mcs_pdu_size"
  let protocolVersion ← readInteger "protocol_version"
  pure
    { maxChannelIds, maxUserIds, maxTokenIds, numPriorities,
      minThroughput, maxHeight, maxMcsPduSize, protocolVersion }

/-- An integer takes seven bytes at most. -/
theorem integerSize_le (value : UInt32) : integerSize value ≤ 7 := by
  have hlen := integerContent_length value
  have hshort : (integerContent value).length < 0x80 := by omega
  rw [integerSize, lengthSize, if_pos hshort]
  omega

/-- The parameters take 56 bytes at most. -/
theorem contentLen_le (m : DomainParameters) : m.contentLen ≤ 56 := by
  have hle := integerSize_le
  simp only [contentLen, fields, List.map_cons, List.map_nil, List.sum_cons, List.sum_nil]
  have h₁ := hle m.maxChannelIds
  have h₂ := hle m.maxUserIds
  have h₃ := hle m.maxTokenIds
  have h₄ := hle m.numPriorities
  have h₅ := hle m.minThroughput
  have h₆ := hle m.maxHeight
  have h₇ := hle m.maxMcsPduSize
  have h₈ := hle m.protocolVersion
  omega

/-- The parameters come back. -/
theorem coded (m : DomainParameters) : Coded m.encode m.size decode m := by
  have hlen : m.contentLen < 256 ^ 8 := Nat.lt_of_le_of_lt m.contentLen_le (by decide)
  have hall : Coded m.encode (1 + (lengthSize m.contentLen + m.contentLen)) decode m := by
    refine (expectU8_coded 0x30 _ _ _).bind ?_
    refine (writeLength_coded hlen _ _).bind ?_
    refine (writeInteger_coded m.maxChannelIds _ _).bind ?_
    refine (writeInteger_coded m.maxUserIds _ _).bind ?_
    refine (writeInteger_coded m.maxTokenIds _ _).bind ?_
    refine (writeInteger_coded m.numPriorities _ _).bind ?_
    refine (writeInteger_coded m.minThroughput _ _).bind ?_
    refine (writeInteger_coded m.maxHeight _ _).bind ?_
    refine (writeInteger_coded m.maxMcsPduSize _ _).bind ?_
    refine (writeInteger_coded m.protocolVersion _ _).bind (n := 0) ?_
    exact Coded.pure m
  exact hall.of_eq (by rw [size, Nat.add_assoc])

end DomainParameters

end Oxrdp
