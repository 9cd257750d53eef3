import Mathlib.Data.List.Induction
import Mathlib.Data.Nat.Bitwise
import Oxrdp.Pdu.Fields

/-!
# BER and PER lengths

`ber.rs`, the length readers of `connect_response.rs`, the length writers of
`connect_initial.rs` and the PER length of `send_data.rs`.  A BER length is one byte
below `0x80`, or a count byte and that many big-endian bytes.  A PER length is one byte
below `0x80`, or two bytes that hold fifteen bits.
-/

namespace Oxrdp

open Coder

/-! ## Big-endian numbers of any width -/

/-- Reading big-endian bytes is folding from the left. -/
theorem beNat_eq_foldl (bs : List UInt8) :
    beNat bs = bs.foldl (fun acc b => acc * 256 + b.toNat) 0 := by
  induction bs using List.reverseRecOn with
  | nil => rfl
  | append_singleton bs b ih =>
      rw [beNat_append, List.foldl_append, ← ih, List.foldl_cons, List.foldl_nil]
      omega

/-- The number without its leading zero bytes (`to_be_bytes`, zeros skipped). -/
def minimalBe (n : Nat) : List UInt8 := (beBytes 8 n).dropWhile (· = 0)

/-- Leading zeros add nothing. -/
theorem beNat_dropWhile (bs : List UInt8) : beNat (bs.dropWhile (· = 0)) = beNat bs := by
  induction bs with
  | nil => rfl
  | cons b rest ih =>
      by_cases hb : b = 0
      · rw [List.dropWhile_cons_of_pos (by simpa using hb), ih, beNat_eq_foldl, beNat_eq_foldl,
          List.foldl_cons, hb]
        rfl
      · rw [List.dropWhile_cons_of_neg (by simpa using hb)]

/-- The minimal bytes of a number read back as the number. -/
theorem beNat_minimalBe {n : Nat} (h : n < 256 ^ 8) : beNat (minimalBe n) = n := by
  rw [minimalBe, beNat_dropWhile, beNat_beBytes h]

/-- A number other than zero takes at least one byte. -/
theorem minimalBe_ne_nil {n : Nat} (h : n < 256 ^ 8) (hpos : 0 < n) : minimalBe n ≠ [] := by
  intro hnil
  have hzero := beNat_minimalBe h
  rw [hnil] at hzero
  exact absurd hzero (Nat.ne_of_lt hpos)

/-- The next `n` bytes, each shifted in from the right. -/
def readBe (ctx : String) : Nat → Nat → Decoder Nat
  | 0, len => pure len
  | n + 1, len => do
      let next ← readU8 ctx
      readBe ctx n ((len <<< 8) ||| next.toNat)

/-- Shifting a byte in is multiplying by 256 and adding it. -/
theorem shift_in (len : Nat) (b : UInt8) : (len <<< 8) ||| b.toNat = len * 256 + b.toNat := by
  have hb : b.toNat < 2 ^ 8 := b.toNat_lt
  rw [← Nat.shiftLeft_add_eq_or_of_lt hb, Nat.shiftLeft_eq]

/-- A byte is read back. -/
theorem readU8_parses (b : UInt8) (c : String) : Parses (readU8 c) [b] b :=
  (writeU8_roundTrip b c c).parses_emitted (writeSlice_emits [b] c)

/-- A big-endian number is read byte by byte. -/
theorem readBe_parses (bs : List UInt8) (ctx : String) (len : Nat) :
    Parses (readBe ctx bs.length len) bs
      (bs.foldl (fun acc b => acc * 256 + b.toNat) len) := by
  induction bs generalizing len with
  | nil => exact Parses.pure len
  | cons b rest ih =>
      have hnext := ih (len * 256 + b.toNat)
      rw [← shift_in] at hnext
      have hall := (readU8_parses b ctx).bind
        (k := fun next => readBe ctx rest.length ((len <<< 8) ||| next.toNat)) hnext
      rw [shift_in] at hall
      exact hall

/-! ## BER -/

/-- Number of bytes `writeLength` will emit. -/
def lengthSize (len : Nat) : Nat :=
  if len < 0x80 then 1 else 1 + (minimalBe len).length

/-- The bytes of a BER definite length. -/
def berBytes (len : Nat) : List UInt8 :=
  if len < 0x80 then [UInt8.ofNat len]
  else (0x80 ||| UInt8.ofNat (minimalBe len).length) :: minimalBe len

/-- Write a BER definite length. -/
def writeLength (len : Nat) (ctx : String) : Encoder Unit :=
  if len < 0x80 then
    writeU8 (UInt8.ofNat len) ctx
  else if (minimalBe len).length ≤ 4 then do
    writeU8 (0x80 ||| UInt8.ofNat (minimalBe len).length) ctx
    writeSlice (minimalBe len) ctx
  else
    throw (.fieldTooLarge ctx "ber length")

/-- Read a definite length of at most four bytes; the two texts are for a count of none
and for one that is too large. -/
def readDefinite (indefinite tooLarge : String) (ctx : String) : Decoder Nat := do
  let b ← readU8 ctx
  if b < 0x80 then
    pure b.toNat
  else if b &&& 0x7F = 0 then
    throw (.invalidLength ctx indefinite)
  else if 4 < (b &&& 0x7F).toNat then
    throw (.invalidLength ctx tooLarge)
  else
    readBe ctx (b &&& 0x7F).toNat 0

/-- `ber::read_length`. -/
def readLength (ctx : String) : Decoder Nat :=
  readDefinite "indefinite length not allowed" "length too large" ctx

/-- `read_ber_length` of `connect_response.rs`. -/
def readBerLength (ctx : String) : Decoder Nat :=
  readDefinite "invalid BER length form" "invalid BER length form" ctx

/-- The count byte of a long form. -/
theorem count_byte {k : Nat} (hpos : 0 < k) (hle : k ≤ 4) :
    ¬ (0x80 ||| UInt8.ofNat k) < 0x80 ∧ (0x80 ||| UInt8.ofNat k) &&& 0x7F = UInt8.ofNat k ∧
      UInt8.ofNat k ≠ 0 ∧ (UInt8.ofNat k).toNat = k := by
  have hcases : k = 1 ∨ k = 2 ∨ k = 3 ∨ k = 4 := by omega
  rcases hcases with rfl | rfl | rfl | rfl
  all_goals decide

/-- A length of at most four bytes is read back. -/
theorem readDefinite_parses {len : Nat} (h : len < 256 ^ 8)
    (hfit : len < 0x80 ∨ (minimalBe len).length ≤ 4) (s₁ s₂ ctx : String) :
    Parses (readDefinite s₁ s₂ ctx) (berBytes len) len := by
  unfold berBytes
  by_cases hshort : len < 0x80
  · rw [if_pos hshort]
    have hbyte : (UInt8.ofNat len).toNat = len :=
      UInt8.toNat_ofNat_of_lt' (Nat.lt_trans hshort (by decide))
    have hlt : UInt8.ofNat len < 0x80 := by
      rw [UInt8.lt_iff_toNat_lt, hbyte]
      exact hshort
    refine (readU8_parses (UInt8.ofNat len) ctx).last ?_
    rw [if_pos hlt, hbyte]
    exact Parses.pure len
  · rw [if_neg hshort]
    have hle := hfit.resolve_left hshort
    have hpos : 0 < (minimalBe len).length :=
      List.length_pos_of_ne_nil (minimalBe_ne_nil h (by omega))
    obtain ⟨hlong, hand, hzero, hcount⟩ := count_byte hpos hle
    refine (readU8_parses _ ctx).bind ?_
    rw [if_neg hlong, hand, if_neg hzero, hcount, if_neg (by omega)]
    have hread := readBe_parses (minimalBe len) ctx 0
    rw [← beNat_eq_foldl, beNat_minimalBe h] at hread
    exact hread

/-- A BER length is written in the announced size, or not at all, and read back. -/
theorem writeLength_coded {len : Nat} (h : len < 256 ^ 8) (c c' : String) :
    Coded (writeLength len c) (lengthSize len) (readLength c') len := by
  unfold writeLength lengthSize
  by_cases hshort : len < 0x80
  · rw [if_pos hshort, if_pos hshort]
    have hparse := readDefinite_parses h (.inl hshort) "indefinite length not allowed"
      "length too large" c'
    rw [berBytes, if_pos hshort] at hparse
    exact (writeSlice_roundTrip c hparse).coded (writeU8_writes _ c)
  · rw [if_neg hshort, if_neg hshort]
    refine Coded.guarded fun hle => ?_
    have hparse := readDefinite_parses h (.inr hle) "indefinite length not allowed"
      "length too large" c'
    rw [berBytes, if_neg hshort] at hparse
    have hwrites := (writeU8_writes (0x80 ||| UInt8.ofNat (minimalBe len).length) c).bind
      (writeSlice_writes (minimalBe len) c)
    have hemits := (writeSlice_emits [0x80 ||| UInt8.ofNat (minimalBe len).length] c).bind
      (writeSlice_emits (minimalBe len) c)
    exact (hemits.coded hwrites hparse).of_eq rfl

/-! ## PER -/

/-- The bytes of a PER length, as `per_append_length` pushes them: the high byte is cast
to a `u8` after the top bit has been set. -/
def perBytes (len : Nat) : List UInt8 :=
  if len < 0x80 then [UInt8.ofNat len]
  else [0x80 ||| UInt8.ofNat (len >>> (8 : Nat)), UInt8.ofNat (len &&& (0xFF : Nat))]

def perLengthSize (len : Nat) : Nat := if len < 0x80 then 1 else 2

/-- `per_write_length` of `send_data.rs`. -/
def perWriteLength (len : Nat) (ctx : String) : Encoder Unit :=
  if len < 0x80 then
    writeU8 (UInt8.ofNat len) ctx
  else if len ≤ 0x7FFF then do
    writeU8 (0x80 ||| UInt8.ofNat (len >>> (8 : Nat))) ctx
    writeU8 (UInt8.ofNat (len &&& (0xFF : Nat))) ctx
    pure ()
  else
    throw (.fieldTooLarge ctx "per length")

/-- `per_read_length` of `send_data.rs` and `read_per_length` of `connect_response.rs`. -/
def perReadLength (ctx : String) : Decoder Nat := do
  let b ← readU8 ctx
  if b &&& 0x80 = 0 then
    pure b.toNat
  else
    let b2 ← readU8 ctx
    pure (((b &&& 0x7F).toNat <<< 8) ||| b2.toNat)

/-- The first byte of the two-byte form carries seven bits. -/
theorem per_high (b : UInt8) :
    ¬ (0x80 ||| b) &&& 0x80 = 0 ∧ ((0x80 ||| b) &&& 0x7F).toNat = b.toNat % 128 := by
  have hall : ∀ n : Fin 256, ¬ (0x80 ||| UInt8.ofNat n.val) &&& 0x80 = 0 ∧
      ((0x80 ||| UInt8.ofNat n.val) &&& 0x7F).toNat = n.val % 128 := by
    decide +kernel
  have hb := hall ⟨b.toNat, b.toNat_lt⟩
  rw [UInt8.ofNat_toNat] at hb
  exact hb

/-- A byte below 128 has its top bit clear. -/
theorem per_low {b : UInt8} (h : b.toNat < 0x80) : b &&& 0x80 = 0 := by
  have hall : ∀ n : Fin 256, n.val < 0x80 → UInt8.ofNat n.val &&& 0x80 = 0 := by
    decide +kernel
  have hb := hall ⟨b.toNat, b.toNat_lt⟩ h
  rw [UInt8.ofNat_toNat] at hb
  exact hb

/-- The low fifteen bits of a length that takes two bytes are read back. -/
theorem perReadLength_parses (len : Nat) (ctx : String) :
    Parses (perReadLength ctx) (perBytes len) (if len < 0x80 then len else len % 0x8000) := by
  unfold perBytes
  by_cases hshort : len < 0x80
  · rw [if_pos hshort, if_pos hshort]
    have hbyte : (UInt8.ofNat len).toNat = len :=
      UInt8.toNat_ofNat_of_lt' (Nat.lt_trans hshort (by decide))
    refine (readU8_parses (UInt8.ofNat len) ctx).last ?_
    rw [if_pos (per_low (by rw [hbyte]; exact hshort)), hbyte]
    exact Parses.pure len
  · rw [if_neg hshort, if_neg hshort]
    obtain ⟨hflag, hseven⟩ := per_high (UInt8.ofNat (len >>> (8 : Nat)))
    have hvalue : (((0x80 ||| UInt8.ofNat (len >>> (8 : Nat))) &&& 0x7F).toNat <<< 8) |||
        (UInt8.ofNat (len &&& (0xFF : Nat))).toNat = len % 0x8000 := by
      have hlow : (len &&& (0xFF : Nat)) = len % 256 := Nat.and_two_pow_sub_one_eq_mod len 8
      rw [shift_in, hseven, UInt8.toNat_ofNat', UInt8.toNat_ofNat', hlow,
        Nat.shiftRight_eq_div_pow]
      omega
    have hlast := (readU8_parses (UInt8.ofNat (len &&& (0xFF : Nat))) ctx).last (k := fun b2 =>
      pure ((((0x80 ||| UInt8.ofNat (len >>> (8 : Nat))) &&& 0x7F).toNat <<< 8) ||| b2.toNat))
      (Parses.pure _)
    rw [hvalue] at hlast
    refine (readU8_parses _ ctx).bind ?_
    rw [if_neg hflag]
    exact hlast

/-- A PER length is written in as many bytes as `per_length_size` says. -/
theorem perBytes_length (len : Nat) : (perBytes len).length = perLengthSize len := by
  unfold perBytes perLengthSize
  split
  · rfl
  · rfl

/-- A PER length is written in the announced size, or not at all, and read back. -/
theorem perWriteLength_coded (len : Nat) (c c' : String) :
    Coded (perWriteLength len c) (perLengthSize len) (perReadLength c') len := by
  have hparse := perReadLength_parses len c'
  unfold perWriteLength perLengthSize
  unfold perBytes at hparse
  by_cases hshort : len < 0x80
  · rw [if_pos hshort, if_pos hshort] at *
    exact (writeSlice_roundTrip c hparse).coded (writeU8_writes _ c)
  · rw [if_neg hshort, if_neg hshort] at *
    refine Coded.guarded fun hle => ?_
    rw [Nat.mod_eq_of_lt (by omega)] at hparse
    have hwrites := (writeU8_writes (0x80 ||| UInt8.ofNat (len >>> (8 : Nat))) c).bind
      ((writeU8_writes (UInt8.ofNat (len &&& (0xFF : Nat))) c).bind Writes.pure)
    have hemits := (writeSlice_emits [0x80 ||| UInt8.ofNat (len >>> (8 : Nat))] c).bind
      ((writeSlice_emits [UInt8.ofNat (len &&& (0xFF : Nat))] c).bind Emits.pure)
    exact hemits.coded hwrites hparse

end Oxrdp
