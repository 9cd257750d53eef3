import Oxrdp.Lib.Ascii
import Oxrdp.Sec.Token

/-!
# The pinned public key

The client of `oxsec` knows its server by the digest of a public key, which it is told as 64
lower-case hexadecimal digits, and accepts every certificate with this digest and no other.

How a certificate is parsed and the digest of a key calculated is not part of the repository;
any two functions will do.  What a verifier says of signatures is left to the TLS library.
-/

namespace Oxrdp

/-- Errors of the helpers for the protocol's security, without what they wrap. -/
inductive SecError where
  | io
  | certGeneration
  | pem
  | incompleteIdentityFiles
  | invalidPin
  | invalidCertificate
  deriving DecidableEq, Repr

/-- The SHA-256 of something. -/
abbrev Digest := Vector UInt8 32

/-! ## Hexadecimal digits -/

def hexDigit (n : Nat) : UInt8 := UInt8.ofNat (if n < 10 then 48 + n else 87 + n)

/-- A byte as `{byte:02x}`. -/
def lowerHex (byte : UInt8) : List UInt8 := [hexDigit (byte.toNat / 16), hexDigit (byte.toNat % 16)]

def hexEncode (bytes : List UInt8) : String := Ascii.text (bytes.flatMap lowerHex)

def hexValue (byte : UInt8) : Option UInt8 :=
  if 48 ≤ byte ∧ byte ≤ 57 then some (byte - 48)
  else if 97 ≤ byte ∧ byte ≤ 102 then some (byte - 97 + 10)
  else none

/-- The byte that two digits stand for. -/
def hexByte (high low : UInt8) : Option UInt8 := do
  let high ← hexValue high
  let low ← hexValue low
  some ((high <<< 4) ||| low)

/-- The loop of `hex_decode_pin`: the pairs of digits, one after the other.  A digit without a
partner is left out. -/
def decodePairs : List UInt8 → Nat → Digest → Except SecError Digest
  | high :: low :: rest, index, out =>
      match hexByte high low with
      | some byte => decodePairs rest (index + 1) (out.setIfInBounds index byte)
      | none => .error .invalidPin
  | _, _, out => .ok out

def hexDecodePin (hex : String) : Except SecError Digest :=
  if (strBytes hex).length ≠ 64 then .error .invalidPin
  else decodePairs (strBytes hex) 0 (Vector.replicate 32 0)

/-! ### What is read and what is written -/

/-- A hexadecimal digit is ASCII. -/
theorem hexDigit_lt {n : Nat} (h : n < 16) : hexDigit n < 128 := by
  have hall : ∀ n : Fin 16, hexDigit n.val < 128 := by decide
  exact hall ⟨n, h⟩

/-- A digit has the value that it was made of. -/
theorem hexValue_hexDigit {n : Nat} (h : n < 16) :
    hexValue (hexDigit n) = some (UInt8.ofNat n) := by
  have hall : ∀ n : Fin 16, hexValue (hexDigit n.val) = some (UInt8.ofNat n.val) := by decide
  exact hall ⟨n, h⟩

/-- Only the sixteen digits are read. -/
theorem of_hexValue {c v : UInt8} (h : hexValue c = some v) :
    v.toNat < 16 ∧ hexDigit v.toNat = c := by
  have hall : ∀ c : Fin 256, (hexValue (UInt8.ofNat c.val)).all (fun v =>
      decide (v.toNat < 16 ∧ hexDigit v.toNat = UInt8.ofNat c.val)) = true := by
    decide +kernel
  have hc := hall ⟨c.toNat, c.toNat_lt⟩
  rw [UInt8.ofNat_toNat, h] at hc
  exact of_decide_eq_true hc

/-- A byte is its two halves. -/
theorem nibbles_byte (b : UInt8) :
    (UInt8.ofNat (b.toNat / 16) <<< 4) ||| UInt8.ofNat (b.toNat % 16) = b := by
  have hall : ∀ n : Fin 256,
      (UInt8.ofNat (n.val / 16) <<< 4) ||| UInt8.ofNat (n.val % 16) = UInt8.ofNat n.val := by
    decide +kernel
  have hb := hall ⟨b.toNat, b.toNat_lt⟩
  rwa [UInt8.ofNat_toNat] at hb

/-- The halves of a byte are read off it. -/
theorem byte_nibbles {high low : UInt8} (hhigh : high.toNat < 16) (hlow : low.toNat < 16) :
    ((high <<< 4) ||| low).toNat / 16 = high.toNat ∧
      ((high <<< 4) ||| low).toNat % 16 = low.toNat := by
  have hall : ∀ high low : Fin 16,
      ((UInt8.ofNat high.val <<< 4) ||| UInt8.ofNat low.val).toNat / 16 = high.val ∧
        ((UInt8.ofNat high.val <<< 4) ||| UInt8.ofNat low.val).toNat % 16 = low.val := by
    decide +kernel
  have hboth := hall ⟨high.toNat, hhigh⟩ ⟨low.toNat, hlow⟩
  rwa [UInt8.ofNat_toNat, UInt8.ofNat_toNat] at hboth

/-- Two characters are read as a byte exactly if they are how it is written. -/
theorem hexByte_iff {high low b : UInt8} :
    hexByte high low = some b ↔ [high, low] = lowerHex b := by
  constructor
  · intro h
    obtain ⟨vhigh, hvhigh, h⟩ := Option.bind_eq_some_iff.mp h
    obtain ⟨vlow, hvlow, h⟩ := Option.bind_eq_some_iff.mp h
    obtain ⟨hhigh, hwritten⟩ := of_hexValue hvhigh
    obtain ⟨hlow, hwritten'⟩ := of_hexValue hvlow
    obtain ⟨hdiv, hmod⟩ := byte_nibbles hhigh hlow
    cases h
    rw [lowerHex, hdiv, hmod, hwritten, hwritten']
  · intro h
    have hlt := b.toNat_lt
    obtain ⟨rfl, hrest⟩ := List.cons.inj h
    obtain ⟨rfl, -⟩ := List.cons.inj hrest
    rw [hexByte, hexValue_hexDigit (by omega), hexValue_hexDigit (Nat.mod_lt _ (by decide))]
    exact congrArg some (nibbles_byte b)

/-- Two digits are those of the first byte. -/
theorem split_digits {high low b : UInt8} {rest : List UInt8} {bs : List UInt8}
    (h : high :: low :: rest = (b :: bs).flatMap lowerHex) :
    [high, low] = lowerHex b ∧ rest = bs.flatMap lowerHex := by
  rw [List.flatMap_cons] at h
  exact List.append_inj h rfl

/-- A byte that is written stands between those before and behind it. -/
theorem write_place {l : List UInt8} {index k : Nat} {b : UInt8} (h : index < l.length)
    (bytes : List UInt8) :
    (l.set index b).take (index + 1) ++ (bytes ++ (l.set index b).drop (index + 1 + k)) =
      l.take index ++ (b :: bytes ++ l.drop (index + (k + 1))) := by
  have hset : index < (l.set index b).length := by rwa [List.length_set]
  have hcount : index + 1 + k = index + (k + 1) := by omega
  rw [List.take_succ_eq_append_getElem hset, List.getElem_set_self, List.take_set_of_le le_rfl,
    List.drop_set_of_lt (by omega), hcount, List.append_assoc]
  rfl

/-- The loop writes the bytes whose digits it is given, from a place on. -/
theorem decodePairs_iff {k : Nat} : ∀ {s : List UInt8} {index : Nat} {out pin : Digest},
    s.length = 2 * k → index + k ≤ 32 →
    (decodePairs s index out = .ok pin ↔
      ∃ bytes, s = bytes.flatMap lowerHex ∧ bytes.length = k ∧
        pin.toList = out.toList.take index ++ (bytes ++ out.toList.drop (index + k))) := by
  induction k with
  | zero =>
      intro s index out pin hs hindex
      obtain rfl := List.length_eq_zero_iff.mp hs
      constructor
      · intro h
        cases h
        exact ⟨[], rfl, rfl, (List.take_append_drop index _).symm⟩
      · rintro ⟨bytes, -, hlen, hpin⟩
        obtain rfl := List.length_eq_zero_iff.mp hlen
        have hsame : pin.toList = out.toList := hpin.trans (List.take_append_drop index _)
        exact congrArg Except.ok (Vector.toList_inj.mp hsame.symm)
  | succ k ih =>
      intro s index out pin hs hindex
      obtain ⟨high, s, rfl⟩ := List.exists_cons_of_length_eq_add_one hs
      obtain ⟨low, rest, rfl⟩ := List.exists_cons_of_length_eq_add_one (n := 2 * k)
        (Nat.succ.inj hs)
      have hrest : rest.length = 2 * k := by
        simp only [List.length_cons] at hs
        omega
      unfold decodePairs
      cases hbyte : hexByte high low with
      | none =>
          refine iff_of_false (fun h => by cases h) ?_
          rintro ⟨bytes, hdigits, hlen, -⟩
          obtain ⟨b, bs, rfl⟩ := List.exists_cons_of_length_eq_add_one hlen
          have hwritten := (split_digits hdigits).1
          rw [hexByte_iff.mpr hwritten] at hbyte
          cases hbyte
      | some byte =>
          have hroom : index < out.toList.length := by
            rw [Vector.length_toList]
            omega
          rw [ih hrest (by omega), Vector.toList_setIfInBounds]
          constructor
          · rintro ⟨bytes, rfl, hlen, hpin⟩
            refine ⟨byte :: bytes, ?_, by rw [List.length_cons, hlen], ?_⟩
            · rw [List.flatMap_cons, ← hexByte_iff.mp hbyte]
              rfl
            · rw [hpin, write_place hroom]
          · rintro ⟨bytes, hdigits, hlen, hpin⟩
            obtain ⟨b, bs, rfl⟩ := List.exists_cons_of_length_eq_add_one hlen
            obtain ⟨hwritten, htail⟩ := split_digits hdigits
            obtain rfl : byte = b :=
              Option.some.inj (hbyte.symm.trans (hexByte_iff.mpr hwritten))
            exact ⟨bs, htail, Nat.succ.inj hlen, hpin.trans (write_place hroom bs).symm⟩

/-- A byte has two digits. -/
theorem lowerHex_length (b : UInt8) : (lowerHex b).length = 2 := rfl

/-- Bytes have two digits each. -/
theorem hexDigits_length (bytes : List UInt8) :
    (bytes.flatMap lowerHex).length = 2 * bytes.length := by
  rw [List.length_flatMap]
  simp [lowerHex_length, Nat.mul_comm]

/-- The text of a pin is its digits. -/
theorem strBytes_hexEncode (bytes : List UInt8) :
    strBytes (hexEncode bytes) = bytes.flatMap lowerHex := by
  have hascii : ∀ c ∈ bytes.flatMap lowerHex, c < 128 := by
    intro c hc
    obtain ⟨b, -, hc⟩ := List.mem_flatMap.mp hc
    have hlt := b.toNat_lt
    rcases List.mem_cons.mp hc with rfl | hc
    · exact hexDigit_lt (by omega)
    · cases List.mem_singleton.mp hc
      exact hexDigit_lt (Nat.mod_lt _ (by decide))
  rw [strBytes, hexEncode, Ascii.toByteArray_text hascii, List.data_toByteArray]

/-- **Pins are read as they are written**, and nothing else is read. -/
theorem hexDecodePin_iff (hex : String) (pin : Digest) :
    hexDecodePin hex = .ok pin ↔ hex = hexEncode pin.toList := by
  have hbytes : hex = hexEncode pin.toList ↔ strBytes hex = pin.toList.flatMap lowerHex := by
    rw [← strBytes_hexEncode]
    exact ⟨congrArg strBytes, strBytes_inj⟩
  rw [hbytes, hexDecodePin]
  by_cases hlen : (strBytes hex).length = 64
  · rw [if_neg (not_not.mpr hlen), decodePairs_iff (k := 32) hlen (by decide)]
    constructor
    · rintro ⟨bytes, hdigits, -, hpin⟩
      rw [List.take_zero, List.nil_append, List.drop_eq_nil_of_le (by simp),
        List.append_nil] at hpin
      rw [hdigits, hpin]
    · intro hdigits
      refine ⟨pin.toList, hdigits, Vector.length_toList, ?_⟩
      rw [List.take_zero, List.nil_append, List.drop_eq_nil_of_le (by simp), List.append_nil]
  · rw [if_pos hlen]
    refine iff_of_false (fun h => by cases h) fun hdigits => hlen ?_
    rw [hdigits, hexDigits_length, Vector.length_toList]

/-! ## The verifier -/

/-- `ct_eq`: every difference is collected. -/
def ctEq (left right : Digest) : Bool :=
  (List.finRange 32).foldl (fun diff index => diff ||| (left[index] ^^^ right[index])) 0 == 0

/-- Differences that are put together are none exactly if each of them is none. -/
theorem foldl_or_eq_zero {ι : Type} (f : ι → UInt8) (l : List ι) (diff : UInt8) :
    l.foldl (fun diff i => diff ||| f i) diff = 0 ↔ diff = 0 ∧ ∀ i ∈ l, f i = 0 := by
  induction l generalizing diff with
  | nil => simp
  | cons i rest ih =>
      rw [List.foldl_cons, ih, UInt8.or_eq_zero_iff, List.forall_mem_cons, and_assoc]

/-- **The comparison** looks at every byte and says whether all are equal. -/
theorem ctEq_iff (left right : Digest) : ctEq left right = true ↔ left = right := by
  rw [ctEq, beq_iff_eq, foldl_or_eq_zero]
  constructor
  · rintro ⟨-, hsame⟩
    refine Vector.ext fun i hi => ?_
    exact UInt8.xor_eq_zero_iff.mp (hsame ⟨i, hi⟩ (List.mem_finRange _))
  · rintro rfl
    exact ⟨rfl, fun i _ => UInt8.xor_self⟩

inductive CertificateError where
  | badEncoding
  | applicationVerificationFailure
  deriving DecidableEq, Repr

/-- What a server certificate is verified with. -/
structure PinnedServerVerifier where
  pin : Digest
  deriving DecidableEq, Repr

def PinnedServerVerifier.new (spkiPinHex : String) : Except SecError PinnedServerVerifier :=
  match hexDecodePin spkiPinHex with
  | .ok pin => .ok { pin }
  | .error why => .error why

section Verifier

-- The SubjectPublicKeyInfo of a certificate, if it can be parsed, and SHA-256.
variable (subjectPublicKeyInfo : List UInt8 → Option (List UInt8)) (sha256 : List UInt8 → Digest)

def spkiPinFromCert (cert : List UInt8) : Except SecError Digest :=
  match subjectPublicKeyInfo cert with
  | none => .error .invalidCertificate
  | some spki => .ok (sha256 spki)

/-- `verify_server_cert`.  The other certificates, the name of the server and the time do not
matter. -/
def PinnedServerVerifier.verifyServerCert (v : PinnedServerVerifier) (endEntity : List UInt8) :
    Except CertificateError Unit :=
  match spkiPinFromCert subjectPublicKeyInfo sha256 endEntity with
  | .error _ => .error .badEncoding
  | .ok actualPin =>
      if ctEq v.pin actualPin then .ok () else .error .applicationVerificationFailure

/-- A verifier is made of a text exactly if it is the lower-case text of its pin. -/
theorem PinnedServerVerifier.new_iff {hex : String} {v : PinnedServerVerifier} :
    new hex = .ok v ↔ hex = hexEncode v.pin.toList := by
  rw [← hexDecodePin_iff, new]
  cases hexDecodePin hex with
  | error why => exact iff_of_false (fun h => by cases h) (fun h => by cases h)
  | ok pin =>
      constructor
      · intro h
        cases h
        rfl
      · intro h
        cases h
        rfl

/-- **A certificate is accepted** exactly if its key has the digest of the pin. -/
theorem PinnedServerVerifier.verifyServerCert_iff (v : PinnedServerVerifier)
    (cert : List UInt8) :
    v.verifyServerCert subjectPublicKeyInfo sha256 cert = .ok () ↔
      ∃ spki, subjectPublicKeyInfo cert = some spki ∧ sha256 spki = v.pin := by
  unfold verifyServerCert spkiPinFromCert
  cases subjectPublicKeyInfo cert with
  | none => simp
  | some spki =>
      by_cases heq : v.pin = sha256 spki
      · simp [ctEq_iff, heq]
      · simp [ctEq_iff, heq, Ne.symm heq]

/-- **Secrets are compared for equality.**  A token verifies exactly if it has the bytes of the
expected one; a pin is read exactly if it is the 64 digits that a digest is written as, and as
this digest; and a certificate is accepted exactly if the digest of its key is the pin. -/
theorem secrets_decide_equality :
    (∀ expected presented : String,
      verifyToken expected presented = true ↔ strBytes expected = strBytes presented) ∧
    (∀ (hex : String) (pin : Digest), hexDecodePin hex = .ok pin ↔ hex = hexEncode pin.toList) ∧
    (∀ pin : Digest, (hexEncode pin.toList).length = 64) ∧
    (∀ (hex : String) (v : PinnedServerVerifier),
      PinnedServerVerifier.new hex = .ok v ↔ hex = hexEncode v.pin.toList) ∧
    ∀ (v : PinnedServerVerifier) (cert : List UInt8),
      v.verifyServerCert subjectPublicKeyInfo sha256 cert = .ok () ↔
        ∃ spki, subjectPublicKeyInfo cert = some spki ∧ sha256 spki = v.pin := by
  refine ⟨fun expected presented => ?_, hexDecodePin_iff, fun pin => ?_,
    fun hex v => PinnedServerVerifier.new_iff, fun v cert => ?_⟩
  · rw [verifyToken_iff]
    exact ⟨fun h => congrArg strBytes h.symm, fun h => (strBytes_inj h).symm⟩
  · rw [hexEncode, Ascii.length_text, hexDigits_length, Vector.length_toList]
  · exact v.verifyServerCert_iff subjectPublicKeyInfo sha256 cert

end Verifier

end Oxrdp
