import Oxrdp.Proto.Wire

/-!
# Text on the wire

`String::from_utf8_lossy` reads bytes that may not be UTF-8: text that is valid stays as
it is, and each stretch that can not be continued becomes one replacement character.
Text that is cut in front of an ASCII byte is still text.

`str::encode_utf16` writes one unit for a character of the basic plane and a pair of
surrogates for any other.
-/

namespace Oxrdp

/-- What the continuation bytes behind a first byte may be. -/
def utf8Tails (first : UInt8) : List (UInt8 × UInt8) :=
  if 0xC2 ≤ first ∧ first ≤ 0xDF then [(0x80, 0xBF)]
  else if first = 0xE0 then [(0xA0, 0xBF), (0x80, 0xBF)]
  else if first = 0xED then [(0x80, 0x9F), (0x80, 0xBF)]
  else if 0xE1 ≤ first ∧ first ≤ 0xEF then [(0x80, 0xBF), (0x80, 0xBF)]
  else if first = 0xF0 then [(0x90, 0xBF), (0x80, 0xBF), (0x80, 0xBF)]
  else if 0xF1 ≤ first ∧ first ≤ 0xF3 then [(0x80, 0xBF), (0x80, 0xBF), (0x80, 0xBF)]
  else if first = 0xF4 then [(0x80, 0x8F), (0x80, 0xBF), (0x80, 0xBF)]
  else []

/-- How many of the bytes are the expected ones. -/
def utf8Matched : List (UInt8 × UInt8) → List UInt8 → Nat
  | (low, high) :: tails, b :: rest =>
      if low ≤ b ∧ b ≤ high then 1 + utf8Matched tails rest else 0
  | _, _ => 0

/-- Text with a replacement character for each sequence that breaks off. -/
def replaceInvalid : List UInt8 → String
  | [] => ""
  | b :: rest =>
      let matched := utf8Matched (utf8Tails b) rest
      (strFromUtf8 (b :: rest.take matched)).getD "\uFFFD" ++
        replaceInvalid (rest.drop matched)
termination_by bytes => bytes.length
decreasing_by
  rw [List.length_drop, List.length_cons]
  omega

/-- `String::from_utf8_lossy`: valid text is returned as it is. -/
def fromUtf8Lossy (bytes : List UInt8) : String :=
  (strFromUtf8 bytes).getD (replaceInvalid bytes)

/-- Text that was encoded is decoded without loss. -/
theorem fromUtf8Lossy_strBytes (s : String) : fromUtf8Lossy (strBytes s) = s := by
  rw [fromUtf8Lossy, strFromUtf8_strBytes]
  rfl

/-- Text that is cut in front of an ASCII byte is still text. -/
theorem strFromUtf8_take {s : String} {p : Nat} {b : UInt8} (hb : (strBytes s)[p]? = some b)
    (hascii : b.IsUTF8FirstByte) :
    ∃ cut, strFromUtf8 ((strBytes s).take p) = some cut ∧
      strBytes cut = (strBytes s).take p := by
  obtain ⟨hp, hget⟩ := List.getElem?_eq_some_iff.mp hb
  have hsize : p < s.utf8ByteSize := by
    rw [← strBytes_length]
    exact hp
  have hvalid : (String.Pos.Raw.mk p).IsValid s := by
    rw [String.Pos.Raw.isValid_iff_isUTF8FirstByte]
    refine .inr ⟨hsize, ?_⟩
    have hbyte : s.getUTF8Byte ⟨p⟩ hsize = b := by
      rw [← hget]
      simp [String.getUTF8Byte, strBytes]
      rfl
    rw [hbyte]
    exact hascii
  have hextract := hvalid.isValidUTF8_extract_zero
  have hbytes : ((strBytes s).take p).toByteArray = s.toByteArray.extract 0 p := by
    apply ByteArray.ext
    apply Array.toList_inj.mp
    simp [strBytes, List.data_toByteArray]
  have hcut : strFromUtf8 ((strBytes s).take p) = some ⟨s.toByteArray.extract 0 p, hextract⟩ := by
    unfold strFromUtf8 String.fromUTF8?
    rw [hbytes, dif_pos hextract]
    rfl
  exact ⟨_, hcut, strBytes_strFromUtf8 hcut⟩

/-! ## UTF-16 -/

/-- The units of one character. -/
def utf16Units (c : Char) : List UInt16 :=
  if c.toNat < 0x10000 then [UInt16.ofNat c.toNat]
  else
    [UInt16.ofNat (0xD800 + (c.toNat - 0x10000) / 0x400),
      UInt16.ofNat (0xDC00 + (c.toNat - 0x10000) % 0x400)]

/-- `str::encode_utf16`. -/
def encodeUtf16 (cs : List Char) : List UInt16 := cs.flatMap utf16Units

/-- The bytes of some units, low byte first. -/
def unitBytes (us : List UInt16) : List UInt8 := us.flatMap fun u => leBytes 2 u.toNat

/-- UTF-16LE bytes of `s` (no null terminator). -/
def utf16le (s : String) : List UInt8 := unitBytes (encodeUtf16 s.toList)

/-- The text of some units, if they are UTF-16. -/
def decodeUtf16 : List UInt16 → Option (List Char)
  | [] => some []
  | u :: rest =>
      if u.toNat < 0xD800 ∨ 0xDFFF < u.toNat then
        (decodeUtf16 rest).map (Char.ofNat u.toNat :: ·)
      else
        match rest with
        | [] => none
        | v :: more =>
            if u.toNat < 0xDC00 ∧ 0xDC00 ≤ v.toNat ∧ v.toNat ≤ 0xDFFF then
              (decodeUtf16 more).map
                (Char.ofNat (0x10000 + (u.toNat - 0xD800) * 0x400 + (v.toNat - 0xDC00)) :: ·)
            else
              none

/-- The units that the bytes are, if there is an even number of them. -/
def bytesUnits : List UInt8 → Option (List UInt16)
  | [] => some []
  | [_] => none
  | a :: b :: rest => (bytesUnits rest).map (UInt16.ofNat (leNat [a, b]) :: ·)

/-- Read text back from its UTF-16LE bytes. -/
def fromUtf16le (bytes : List UInt8) : Option String :=
  ((bytesUnits bytes).bind decodeUtf16).map String.ofList

/-- Code units survive their bytes. -/
theorem bytesUnits_unitBytes (us : List UInt16) : bytesUnits (unitBytes us) = some us := by
  induction us with
  | nil => rfl
  | cons u rest ih =>
      have hword : leBytes 2 u.toNat = [UInt8.ofNat u.toNat, UInt8.ofNat (u.toNat / 256)] := by
        simp [leBytes, List.range_succ]
      have hback : UInt16.ofNat (leNat (leBytes 2 u.toNat)) = u := by
        rw [leNat_leBytes u.toNat_lt]
        exact UInt16.ofNat_toNat
      have hcons : unitBytes (u :: rest) = leBytes 2 u.toNat ++ unitBytes rest := rfl
      rw [hcons, hword, List.cons_append, List.cons_append, List.nil_append, bytesUnits, ih,
        ← hword, hback]
      rfl

/-- A code unit takes two bytes. -/
theorem unitBytes_length (us : List UInt16) : (unitBytes us).length = 2 * us.length := by
  induction us with
  | nil => rfl
  | cons u rest ih =>
      have hcons : unitBytes (u :: rest) = leBytes 2 u.toNat ++ unitBytes rest := rfl
      rw [hcons, List.length_append, ih, leBytes_length, List.length_cons]
      omega

/-- Bytes are read two to a code unit. -/
theorem bytesUnits_length {bytes : List UInt8} {us : List UInt16}
    (h : bytesUnits bytes = some us) : bytes.length = 2 * us.length := by
  fun_induction bytesUnits bytes generalizing us with
  | case1 =>
      cases h
      rfl
  | case2 b => cases h
  | case3 a b rest ih =>
      obtain ⟨us', hrest, rfl⟩ := Option.map_eq_some_iff.mp h
      have hlen := ih hrest
      rw [List.length_cons, List.length_cons, List.length_cons, hlen]
      omega

/-- A character is its units, whatever follows them. -/
theorem decodeUtf16_units (c : Char) (rest : List UInt16) :
    decodeUtf16 (utf16Units c ++ rest) = (decodeUtf16 rest).map (c :: ·) := by
  have hvalid : c.toNat < 0xD800 ∨ 0xDFFF < c.toNat ∧ c.toNat < 0x110000 := c.valid
  unfold utf16Units
  by_cases hbasic : c.toNat < 0x10000
  · have hunit : (UInt16.ofNat c.toNat).toNat = c.toNat := UInt16.toNat_ofNat_of_lt' hbasic
    rw [if_pos hbasic, List.cons_append, List.nil_append, decodeUtf16.eq_def]
    dsimp only
    rw [hunit, if_pos (by omega), Char.ofNat_toNat]
  · have hhigh : (UInt16.ofNat (0xD800 + (c.toNat - 0x10000) / 0x400)).toNat =
        0xD800 + (c.toNat - 0x10000) / 0x400 := UInt16.toNat_ofNat_of_lt' (by
      change _ < 65536
      omega)
    have hlow : (UInt16.ofNat (0xDC00 + (c.toNat - 0x10000) % 0x400)).toNat =
        0xDC00 + (c.toNat - 0x10000) % 0x400 := UInt16.toNat_ofNat_of_lt' (by
      change _ < 65536
      omega)
    have hvalue : 0x10000 + (0xD800 + (c.toNat - 0x10000) / 0x400 - 0xD800) * 0x400 +
        (0xDC00 + (c.toNat - 0x10000) % 0x400 - 0xDC00) = c.toNat := by omega
    rw [if_neg hbasic, List.cons_append, List.cons_append, List.nil_append, decodeUtf16.eq_def]
    dsimp only
    rw [hhigh, if_neg (by omega), hlow, if_pos (by omega), hvalue, Char.ofNat_toNat]

/-- Text survives UTF-16. -/
theorem decodeUtf16_encode (cs : List Char) : decodeUtf16 (encodeUtf16 cs) = some cs := by
  induction cs with
  | nil => rfl
  | cons c rest ih =>
      have hcons : encodeUtf16 (c :: rest) = utf16Units c ++ encodeUtf16 rest := rfl
      rw [hcons, decodeUtf16_units, ih]
      rfl

/-- A character takes one code unit, or two above the basic plane. -/
theorem utf16Units_length {n : Nat} (h : n.isValidChar) :
    (utf16Units (Char.ofNat n)).length = if n < 0x10000 then 1 else 2 := by
  have hback : (Char.ofNat n).toNat = n := by
    rw [Char.ofNat, dif_pos h]
    rfl
  rw [utf16Units, hback]
  split
  · rfl
  · rfl

/-- Text has as many units as it was read from. -/
theorem decodeUtf16_length {us : List UInt16} {cs : List Char}
    (h : decodeUtf16 us = some cs) : (encodeUtf16 cs).length = us.length := by
  have hcons : ∀ c rest, (encodeUtf16 (c :: rest)).length =
      (utf16Units c).length + (encodeUtf16 rest).length := fun c rest => List.length_append
  fun_induction decodeUtf16 us generalizing cs with
  | case1 =>
      cases h
      rfl
  | case2 u rest hplain ih =>
      obtain ⟨cs', hrest, rfl⟩ := Option.map_eq_some_iff.mp h
      have hvalid : u.toNat.isValidChar := by
        have hlt : u.toNat < 65536 := u.toNat_lt
        change u.toNat < 0xD800 ∨ 0xDFFF < u.toNat ∧ u.toNat < 0x110000
        omega
      rw [hcons, ih hrest, utf16Units_length hvalid, if_pos u.toNat_lt, List.length_cons]
      omega
  | case3 u hsurrogate => cases h
  | case4 u hsurrogate v more hpair ih =>
      obtain ⟨cs', hrest, rfl⟩ := Option.map_eq_some_iff.mp h
      have hvalid : (0x10000 + (u.toNat - 0xD800) * 0x400 +
          (v.toNat - 0xDC00)).isValidChar := by
        change _ ∨ 0xDFFF < _ ∧ _ < 0x110000
        omega
      rw [hcons, ih hrest, utf16Units_length hvalid, if_neg (by omega), List.length_cons,
        List.length_cons]
      omega
  | case5 u hsurrogate v more hpair => cases h

/-- Text is read back from its bytes. -/
theorem fromUtf16le_utf16le (s : String) : fromUtf16le (utf16le s) = some s := by
  rw [fromUtf16le, utf16le, bytesUnits_unitBytes, Option.bind_some, decodeUtf16_encode]
  exact congrArg some String.ofList_toList

/-- Text takes as many bytes as it was read from. -/
theorem utf16le_length {bytes : List UInt8} {s : String} (h : fromUtf16le bytes = some s) :
    (utf16le s).length = bytes.length := by
  obtain ⟨cs, hbind, rfl⟩ := Option.map_eq_some_iff.mp h
  obtain ⟨us, hunits, hdec⟩ := Option.bind_eq_some_iff.mp hbind
  rw [utf16le, String.toList_ofList, unitBytes_length, decodeUtf16_length hdec,
    bytesUnits_length hunits]

end Oxrdp
