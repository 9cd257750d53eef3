import Mathlib.Data.List.Basic

/-!
# ASCII text

Text whose characters are all ASCII has one byte for each of them, and so its UTF-8 bytes are
what it was made of.
-/

namespace Ascii

/-- The text of some bytes (`char::from`, one after the other). -/
def text (bytes : List UInt8) : String := String.ofList (bytes.map Char.ofUInt8)

theorem utf8EncodeChar_ofUInt8 {b : UInt8} (h : b < 128) :
    String.utf8EncodeChar (Char.ofUInt8 b) = [b] := by
  have hall : ∀ n : Fin 128, String.utf8EncodeChar (Char.ofUInt8 (UInt8.ofNat n.val)) =
      [UInt8.ofNat n.val] := by
    decide +kernel
  have hb := hall ⟨b.toNat, UInt8.lt_iff_toNat_lt.mp h⟩
  rwa [UInt8.ofNat_toNat] at hb

/-- The bytes of ASCII text. -/
theorem toByteArray_text {bytes : List UInt8} (h : ∀ b ∈ bytes, b < 128) :
    (text bytes).toByteArray = bytes.toByteArray := by
  have hencode : (bytes.map Char.ofUInt8).flatMap String.utf8EncodeChar = bytes := by
    induction bytes with
    | nil => rfl
    | cons b rest ih =>
        rw [List.map_cons, List.flatMap_cons, utf8EncodeChar_ofUInt8 (h b List.mem_cons_self),
          ih fun x hx => h x (List.mem_cons_of_mem b hx)]
        rfl
  rw [text, String.toByteArray_ofList, List.utf8Encode, hencode]

/-- The byte of an ASCII character. -/
def byte (c : Char) : UInt8 := UInt8.ofNat c.toNat

theorem byte_lt {c : Char} (h : c.toNat < 128) : byte c < 128 := by
  rw [UInt8.lt_iff_toNat_lt, byte, UInt8.toNat_ofNat_of_lt' (Nat.lt_trans h (by decide))]
  exact h

theorem ofUInt8_byte {c : Char} (h : c.toNat < 128) : Char.ofUInt8 (byte c) = c := by
  have hbyte : (byte c).toNat = c.toNat :=
    UInt8.toNat_ofNat_of_lt' (Nat.lt_trans h (by decide))
  apply Char.toNat_inj.mp
  rw [← hbyte]
  exact UInt8.toNat_toUInt32 _

/-- ASCII characters are the text of their bytes. -/
theorem text_map_byte {cs : List Char} (h : ∀ c ∈ cs, c.toNat < 128) :
    text (cs.map byte) = String.ofList cs := by
  have hback : ∀ c ∈ cs, (Char.ofUInt8 ∘ byte) c = c := fun c hc => ofUInt8_byte (h c hc)
  rw [text, List.map_map, List.map_congr_left hback, List.map_id']

theorem length_text (bytes : List UInt8) : (text bytes).length = bytes.length := by
  rw [text, String.length_ofList, List.length_map]

end Ascii
