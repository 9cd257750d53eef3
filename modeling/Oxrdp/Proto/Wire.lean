import Oxrdp.Pdu.Cursor

/-!
# Primitive encoders shared by every message body

`wire.rs` of `oxproto`: length-prefixed strings and blobs, booleans, signed
and 64-bit integers.  A length that does not fit its prefix is an encode
error, and text that is not UTF-8 is a decode error.
-/

namespace Oxrdp

open Coder

/-- The UTF-8 bytes of a string (`as_bytes`). -/
def strBytes (s : String) : List UInt8 := s.toByteArray.data.toList

/-- A string from bytes that are valid UTF-8 (`String::from_utf8`). -/
def strFromUtf8 (bytes : List UInt8) : Option String :=
  String.fromUTF8? bytes.toByteArray

/-- A string has as many bytes as its UTF-8 form. -/
theorem strBytes_length (s : String) : (strBytes s).length = s.utf8ByteSize := by
  rw [strBytes, Array.length_toList]
  rfl

/-- UTF-8 is read back. -/
theorem strFromUtf8_strBytes (s : String) : strFromUtf8 (strBytes s) = some s := by
  have hbytes : (strBytes s).toByteArray = s.toByteArray := by
    apply ByteArray.ext
    simp [strBytes, List.data_toByteArray]
  unfold strFromUtf8 String.fromUTF8?
  rw [hbytes, dif_pos s.isValidUTF8]
  rfl

/-- Text that was accepted has the bytes it was made from. -/
theorem strBytes_strFromUtf8 {bytes : List UInt8} {s : String}
    (h : strFromUtf8 bytes = some s) : strBytes s = bytes := by
  unfold strFromUtf8 String.fromUTF8? at h
  split at h
  · cases h
    simp [strBytes, List.data_toByteArray, String.fromUTF8]
  · cases h

/-- On-wire size of a length-prefixed UTF-8 string. -/
def stringSize (s : String) : Nat := 2 + s.utf8ByteSize

/-- Write a `u16` length followed by the UTF-8 bytes. -/
def writeString (s : String) (ctx : String) : Encoder Unit := do
  if s.utf8ByteSize < 2 ^ 16 then
    writeU16Le (UInt16.ofNat s.utf8ByteSize) ctx
    writeSlice (strBytes s) ctx
  else
    throw (.fieldTooLarge ctx "string length")

/-- Read a `u16`-length-prefixed UTF-8 string. -/
def readString (ctx : String) : Decoder String := do
  let len ← readU16Le ctx
  let bytes ← readSlice len.toNat ctx
  match strFromUtf8 bytes with
  | some s => pure s
  | none => throw (.invalidField ctx "string" "not valid UTF-8")

def writeBool (value : Bool) (ctx : String) : Encoder Unit :=
  writeU8 (if value then 1 else 0) ctx

/-- Read a boolean; any non-zero byte is true. -/
def readBool (ctx : String) : Decoder Bool := do
  let b ← readU8 ctx
  pure (b != 0)

/-- Write a `u32`-length-prefixed byte blob. -/
def writeBlob (data : List UInt8) (ctx : String) : Encoder Unit := do
  if data.length < 2 ^ 32 then
    writeU32Le (UInt32.ofNat data.length) ctx
    writeSlice data ctx
  else
    throw (.fieldTooLarge ctx "blob length")

/-- Read a `u32`-length-prefixed byte blob. -/
def readBlob (ctx : String) : Decoder (List UInt8) := do
  let len ← readU32Le ctx
  readSlice len.toNat ctx

def writeI32 (v : Int32) (ctx : String) : Encoder Unit :=
  writeU32Le v.toUInt32 ctx

def readI32 (ctx : String) : Decoder Int32 := do
  let v ← readU32Le ctx
  pure v.toInt32

def writeI16 (v : Int16) (ctx : String) : Encoder Unit :=
  writeU16Le v.toUInt16 ctx

def readI16 (ctx : String) : Decoder Int16 := do
  let v ← readU16Le ctx
  pure v.toInt16

/-- Write a `u64` as its low and then its high half. -/
def writeU64 (v : UInt64) (ctx : String) : Encoder Unit := do
  writeU32Le (v &&& 0xFFFFFFFF).toUInt32 ctx
  writeU32Le (v >>> 32).toUInt32 ctx

def readU64 (ctx : String) : Decoder UInt64 := do
  let lo ← readU32Le ctx
  let hi ← readU32Le ctx
  pure ((hi.toUInt64 <<< 32) ||| lo.toUInt64)

/-! ## Round trips -/

/-- A string comes back, whatever its length: one that does not fit is refused when it is written.
-/
theorem writeString_roundTrip (s c c' : String) :
    RoundTrip (writeString s c) (readString c') s := by
  unfold writeString
  by_cases hlen : s.utf8ByteSize < 2 ^ 16
  · rw [if_pos hlen]
    refine (writeU16Le_roundTrip (UInt16.ofNat s.utf8ByteSize) c c').bind ?_
    have htoNat : (UInt16.ofNat s.utf8ByteSize).toNat = (strBytes s).length := by
      rw [strBytes_length]
      exact UInt16.toNat_ofNat_of_lt' hlen
    rw [htoNat]
    refine writeSlice_roundTrip c ?_
    have htail : Parses (match strFromUtf8 (strBytes s) with
        | some s => pure s
        | none => throw (.invalidField c' "string" "not valid UTF-8") : Decoder String)
        [] s := by
      rw [strFromUtf8_strBytes]
      exact Parses.pure s
    have hboth := (readSlice_parses (strBytes s) c').bind (k := fun bytes =>
      match strFromUtf8 bytes with
      | some s => pure s
      | none => throw (.invalidField c' "string" "not valid UTF-8")) htail
    rwa [List.append_nil] at hboth
  · intro t t' he
    rw [if_neg hlen] at he
    cases he

/-- A truth value comes back. -/
theorem writeBool_roundTrip (b : Bool) (c c' : String) :
    RoundTrip (writeBool b c) (readBool c') b := by
  have h := (writeU8_roundTrip (if b then 1 else 0) c c').map (fun v => v != 0)
  have hb : ((if b then 1 else 0 : UInt8) != 0) = b := by cases b <;> rfl
  rw [hb] at h
  exact h

/-- A blob comes back. -/
theorem writeBlob_roundTrip (data : List UInt8) (c c' : String) :
    RoundTrip (writeBlob data c) (readBlob c') data := by
  unfold writeBlob
  by_cases hlen : data.length < 2 ^ 32
  · rw [if_pos hlen]
    refine (writeU32Le_roundTrip (UInt32.ofNat data.length) c c').bind ?_
    rw [UInt32.toNat_ofNat_of_lt' hlen]
    exact writeSlice_roundTrip c (readSlice_parses data c')
  · intro t t' he
    rw [if_neg hlen] at he
    cases he

/-- A signed word comes back through its unsigned one. -/
theorem writeI32_roundTrip (v : Int32) (c c' : String) :
    RoundTrip (writeI32 v c) (readI32 c') v :=
  (writeU32Le_roundTrip v.toUInt32 c c').map UInt32.toInt32

/-- A signed half word comes back through its unsigned one. -/
theorem writeI16_roundTrip (v : Int16) (c c' : String) :
    RoundTrip (writeI16 v c) (readI16 c') v :=
  (writeU16Le_roundTrip v.toUInt16 c c').map UInt16.toInt16

/-- A number is its high half shifted up over its low half. -/
theorem nat_halves (n : Nat) : ((n / 2 ^ 32) <<< 32) ||| (n % 2 ^ 32) = n := by
  rw [← Nat.shiftLeft_add_eq_or_of_lt (Nat.mod_lt _ (by decide)), Nat.shiftLeft_eq]
  exact Nat.div_add_mod' n (2 ^ 32)

/-- The two halves of a `u64` put together again. -/
theorem u64_halves (v : UInt64) :
    ((v >>> 32).toUInt32.toUInt64 <<< 32) |||
      (v &&& 0xFFFFFFFF).toUInt32.toUInt64 = v := by
  have hhi : (v >>> 32).toUInt32.toNat = v.toNat / 2 ^ 32 := by
    have hv := v.toNat_lt
    rw [UInt64.toNat_toUInt32, UInt64.toNat_shiftRight]
    change v.toNat >>> 32 % 2 ^ 32 = v.toNat / 2 ^ 32
    rw [Nat.shiftRight_eq_div_pow]
    exact Nat.mod_eq_of_lt (Nat.div_lt_of_lt_mul (by simpa using hv))
  have hlo : (v &&& 0xFFFFFFFF).toUInt32.toNat = v.toNat % 2 ^ 32 := by
    rw [UInt64.toNat_toUInt32, UInt64.toNat_and]
    change (v.toNat &&& (2 ^ 32 - 1)) % 2 ^ 32 = v.toNat % 2 ^ 32
    rw [Nat.and_two_pow_sub_one_eq_mod, Nat.mod_mod]
  have hshift : (v.toNat / 2 ^ 32) <<< 32 < 2 ^ 64 :=
    lt_of_le_of_lt (Nat.left_le_or.trans (nat_halves v.toNat).le) v.toNat_lt
  apply UInt64.toNat_inj.mp
  rw [UInt64.toNat_or, UInt64.toNat_shiftLeft, UInt32.toNat_toUInt64,
    UInt32.toNat_toUInt64, hhi, hlo]
  change ((v.toNat / 2 ^ 32) <<< 32) % 2 ^ 64 ||| v.toNat % 2 ^ 32 = v.toNat
  rw [Nat.mod_eq_of_lt hshift, nat_halves]

/-- Eight bytes come back, their halves in the order in which they are written. -/
theorem writeU64_roundTrip (v : UInt64) (c c' : String) :
    RoundTrip (writeU64 v c) (readU64 c') v := by
  refine (writeU32Le_roundTrip _ c c').bind ?_
  have h := (writeU32Le_roundTrip (v >>> 32).toUInt32 c c').map
    (fun hi : UInt32 => (hi.toUInt64 <<< 32) ||| (v &&& 0xFFFFFFFF).toUInt32.toUInt64)
  rw [u64_halves] at h
  exact h

/-! ## Sizes -/

/-- A string has two bytes of length in front. -/
theorem writeString_writes (s c : String) : Writes (writeString s c) (stringSize s) := by
  unfold writeString
  by_cases hlen : s.utf8ByteSize < 2 ^ 16
  · rw [if_pos hlen]
    have hslice := writeSlice_writes (strBytes s) c
    rw [strBytes_length] at hslice
    exact (writeU16Le_writes _ c).bind hslice
  · intro t t' he
    rw [if_neg hlen] at he
    cases he

/-- A truth value is one byte. -/
theorem writeBool_writes (b : Bool) (c : String) : Writes (writeBool b c) 1 :=
  writeU8_writes _ c

/-- A blob has four bytes of length in front. -/
theorem writeBlob_writes (data : List UInt8) (c : String) :
    Writes (writeBlob data c) (4 + data.length) := by
  unfold writeBlob
  by_cases hlen : data.length < 2 ^ 32
  · rw [if_pos hlen]
    exact (writeU32Le_writes _ c).bind (writeSlice_writes data c)
  · intro t t' he
    rw [if_neg hlen] at he
    cases he

theorem writeI32_writes (v : Int32) (c : String) : Writes (writeI32 v c) 4 :=
  writeU32Le_writes _ c

theorem writeI16_writes (v : Int16) (c : String) : Writes (writeI16 v c) 2 :=
  writeU16Le_writes _ c

theorem writeU64_writes (v : UInt64) (c : String) : Writes (writeU64 v c) 8 :=
  (writeU32Le_writes _ c).bind (writeU32Le_writes _ c)

/-- A string that its prefix can count takes its announced size. -/
theorem writeString_fills {s : String} (hlen : s.utf8ByteSize < 2 ^ 16) (ctx : String) :
    Fills (writeString s ctx) (stringSize s) := by
  unfold writeString stringSize
  rw [if_pos hlen, ← strBytes_length]
  exact (writeU16Le_fills _ ctx).bind (writeSlice_fills (strBytes s) ctx)

/-- The two halves are four bytes each. -/
theorem writeBlob_fills {data : List UInt8} (hlen : data.length < 2 ^ 32) (ctx : String) :
    Fills (writeBlob data ctx) (4 + data.length) := by
  unfold writeBlob
  rw [if_pos hlen]
  exact (writeU32Le_fills _ ctx).bind (writeSlice_fills data ctx)

theorem writeU64_fills (v : UInt64) (c : String) : Fills (writeU64 v c) 8 :=
  (writeU32Le_fills _ c).bind (writeU32Le_fills _ c)

/-! ## Putting back what was read

A boolean is the exception: any non-zero byte is true, and only one of them is what
the writer puts there. -/

/-- A string that was read is written back: UTF-8 is strict. -/
theorem readString_undoes (c : String) : Undoes (fun s => writeString s c) (readString c) := by
  apply UndoesIn.undoes
  apply (readU16Le_undoes c).field
  intro len _
  apply (readSlice_undoes len.toNat c).field
  intro bytes hret
  have hlen := readSlice_returns hret
  cases hs : strFromUtf8 bytes with
  | none =>
      intro t s t' hrun
      cases hrun
  | some s =>
      apply UndoesIn.done
      have hbytes := strBytes_strFromUtf8 hs
      have hsize : s.utf8ByteSize = len.toNat := by
        rw [← strBytes_length, hbytes, hlen]
      have hfit : len.toNat < 2 ^ 16 := len.toNat_lt
      simp only [writeString, hsize, hbytes, if_pos hfit, UInt16.ofNat_toNat, bind_pure_unit]

/-- A blob that was read is written back. -/
theorem readBlob_undoes (c : String) : Undoes (fun data => writeBlob data c) (readBlob c) := by
  intro t data t'' hrun
  obtain ⟨len, t', hlen, hdata⟩ := bind_run_ok.mp hrun
  obtain ⟨xs, hpass, hparse, hemit⟩ := readU32Le_undoes c t len t' hlen
  obtain ⟨ys, hpass', hparse', hemit'⟩ := readSlice_undoes len.toNat c t' data t'' hdata
  have hsize : data.length = len.toNat := readSlice_returns ⟨t', t'', hdata⟩
  have hfit : len.toNat < 2 ^ 32 := len.toNat_lt
  refine ⟨xs ++ ys, hpass.trans hpass', hparse.bind hparse', ?_⟩
  have hall := hemit.bind hemit'
  simp only [writeBlob, hsize, if_pos hfit, UInt32.ofNat_toNat]
  exact hall

/-- The writer puts a `1` for whatever non-zero byte was read. -/
theorem readBool_takes {c : String} {t t' : ReadCursor} {b : Bool}
    (h : (readBool c).run t = .ok (b, t')) :
    ∃ v, t.Passes [v] t' ∧ Parses (readBool c) [v] b ∧
      Emits (writeBool b c) [if v = 0 then 0 else 1] := by
  obtain ⟨v, t₁, hv, hb⟩ := bind_run_ok.mp h
  cases hb
  obtain ⟨hpass, hparse⟩ := readU8_takes hv
  have hall := hparse.bind (k := fun v => pure (v != 0)) (Parses.pure (v != 0))
  refine ⟨v, hpass, hall, ?_⟩
  by_cases hzero : v = 0
  · simp only [hzero, if_pos]
    exact writeSlice_emits [0] c
  · have htrue : (v != 0) = true := bne_iff_ne.mpr hzero
    simp only [htrue, if_neg hzero]
    exact writeSlice_emits [1] c

/-- What is read as a signed word is written back. -/
theorem readI32_undoes (c : String) : Undoes (fun v => writeI32 v c) (readI32 c) := by
  apply (readU32Le_undoes c).map
  intro v _
  rfl

/-- What is read as a short signed integer is written back. -/
theorem readI16_undoes (c : String) : Undoes (fun v => writeI16 v c) (readI16 c) := by
  apply (readU16Le_undoes c).map
  intro v _
  rfl

/-- The upper half counts 2^32 times. -/
theorem u64_of_halves_toNat (hi lo : UInt32) :
    ((hi.toUInt64 <<< 32) ||| lo.toUInt64).toNat = hi.toNat * 2 ^ 32 + lo.toNat := by
  have hhi := hi.toNat_lt
  have hlo := lo.toNat_lt
  rw [UInt64.toNat_or, UInt64.toNat_shiftLeft, UInt32.toNat_toUInt64, UInt32.toNat_toUInt64]
  change (hi.toNat <<< 32) % 2 ^ 64 ||| lo.toNat = _
  rw [Nat.shiftLeft_eq, Nat.mod_eq_of_lt (by omega), ← Nat.shiftLeft_eq,
    ← Nat.shiftLeft_add_eq_or_of_lt hlo, Nat.shiftLeft_eq]

/-- The low half of a `u64` that was put together. -/
theorem u64_lo (hi lo : UInt32) :
    (((hi.toUInt64 <<< 32) ||| lo.toUInt64) &&& 0xFFFFFFFF).toUInt32 = lo := by
  have hlo := lo.toNat_lt
  apply UInt32.toNat_inj.mp
  rw [UInt64.toNat_toUInt32, UInt64.toNat_and, u64_of_halves_toNat]
  change (_ &&& (2 ^ 32 - 1)) % 2 ^ 32 = lo.toNat
  rw [Nat.and_two_pow_sub_one_eq_mod]
  omega

/-- The high half of a `u64` that was put together. -/
theorem u64_hi (hi lo : UInt32) :
    (((hi.toUInt64 <<< 32) ||| lo.toUInt64) >>> 32).toUInt32 = hi := by
  have hhi := hi.toNat_lt
  have hlo := lo.toNat_lt
  apply UInt32.toNat_inj.mp
  rw [UInt64.toNat_toUInt32, UInt64.toNat_shiftRight, u64_of_halves_toNat]
  change (_ >>> 32) % 2 ^ 32 = hi.toNat
  rw [Nat.shiftRight_eq_div_pow]
  omega

/-- Eight bytes that were read are written back. -/
theorem readU64_undoes (c : String) : Undoes (fun v => writeU64 v c) (readU64 c) := by
  apply UndoesIn.undoes
  apply (readU32Le_undoes c).field
  intro lo _
  apply (readU32Le_undoes c).last
  intro hi _
  simp only [writeU64, u64_lo, u64_hi]

end Oxrdp
