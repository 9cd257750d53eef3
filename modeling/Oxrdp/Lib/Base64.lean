import Mathlib.Algebra.Order.Ring.Nat
import Oxrdp.Lib.Chunks

/-!
# Base64

The standard encoding of bytes in characters of six bits each, with padding.  Three bytes are a
number of 24 bits, which four characters write; one or two bytes at the end are padded, and the
bits that stand for no byte are zero.  `decode` is strict about both.
-/

namespace Base64

open Chunks

def alphabet : List Char :=
  "ABCDEFGHIJKLMNOPQRSTUVWXYZabcdefghijklmnopqrstuvwxyz0123456789+/".toList

/-- The character for the last six bits of a number. -/
def digit (n : Nat) : Char := alphabet.getD (n % 64) '='

/-- The six bits that a character stands for. -/
def value (c : Char) : Option Nat := alphabet.idxOf? c

/-- One to three bytes in four characters. -/
def group (a : UInt8) : List UInt8 → List Char
  | [] => let n := a.toNat * 65536; [digit (n / 262144), digit (n / 4096), '=', '=']
  | [b] =>
      let n := a.toNat * 65536 + b.toNat * 256
      [digit (n / 262144), digit (n / 4096), digit (n / 64), '=']
  | b :: c :: _ =>
      let n := a.toNat * 65536 + b.toNat * 256 + c.toNat
      [digit (n / 262144), digit (n / 4096), digit (n / 64), digit n]

/-- The number that some characters write. -/
def number (cs : List Char) : Option Nat :=
  cs.foldlM (fun n c => (value c).map fun v => n * 64 + v) 0

/-- The bytes of some text.  Only its last four characters may be padded. -/
def decode : List Char → Option (List UInt8)
  | [] => some []
  | a :: b :: c :: d :: rest =>
      if d = '=' ∧ rest = [] then
        if c = '=' then do
          let n ← number [a, b]
          if n % 16 = 0 then some [UInt8.ofNat (n / 16)] else none
        else do
          let n ← number [a, b, c]
          if n % 4 = 0 then some [UInt8.ofNat (n / 1024), UInt8.ofNat (n / 4)] else none
      else do
        let n ← number [a, b, c, d]
        let bytes ← decode rest
        some (UInt8.ofNat (n / 65536) :: UInt8.ofNat (n / 256) :: UInt8.ofNat n :: bytes)
  | _ => none

/-! ## Characters -/

/-- A digit has the value that it was made of. -/
theorem value_digit (n : Nat) : value (digit n) = some (n % 64) := by
  have hall : ∀ i : Fin 64, value (digit i.val) = some i.val := by decide +kernel
  have hn := hall ⟨n % 64, Nat.mod_lt n (by decide)⟩
  rwa [digit, Nat.mod_mod] at hn

/-- No digit is padding, or ends a line, and all are ASCII. -/
theorem digit_plain (n : Nat) :
    digit n ≠ '=' ∧ digit n ≠ '\n' ∧ digit n ≠ '\r' ∧ (digit n).toNat < 128 := by
  have hall : ∀ i : Fin 64, digit i.val ≠ '=' ∧ digit i.val ≠ '\n' ∧ digit i.val ≠ '\r' ∧
      (digit i.val).toNat < 128 := by
    decide +kernel
  have hn := hall ⟨n % 64, Nat.mod_lt n (by decide)⟩
  rwa [digit, Nat.mod_mod] at hn

/-- Two digits are a number of twelve bits. -/
theorem number_two (m : Nat) (h : m < 4096) : number [digit (m / 64), digit m] = some m := by
  simp only [number, List.foldlM_cons, List.foldlM_nil, value_digit, Option.map_some,
    Option.bind_eq_bind, Option.bind_some]
  exact congrArg some (by omega)

/-- Three digits are a number of eighteen bits. -/
theorem number_three (m : Nat) (h : m < 262144) :
    number [digit (m / 4096), digit (m / 64), digit m] = some m := by
  simp only [number, List.foldlM_cons, List.foldlM_nil, value_digit, Option.map_some,
    Option.bind_eq_bind, Option.bind_some]
  exact congrArg some (by omega)

/-- Four digits are a number of twenty-four bits. -/
theorem number_four (m : Nat) (h : m < 16777216) :
    number [digit (m / 262144), digit (m / 4096), digit (m / 64), digit m] = some m := by
  simp only [number, List.foldlM_cons, List.foldlM_nil, value_digit, Option.map_some,
    Option.bind_eq_bind, Option.bind_some]
  exact congrArg some (by omega)

/-! ## Groups -/

/-- A number that is a byte's modulo 256 is that byte. -/
theorem ofNat_of_toNat {n : Nat} {b : UInt8} (h : n % 256 = b.toNat) : UInt8.ofNat n = b := by
  apply UInt8.toNat_inj.mp
  rw [UInt8.toNat_ofNat', h]

/-- One byte comes back from two digits and padding. -/
theorem decode_one (a : UInt8) : decode (group a []) = some [a] := by
  have ha := a.toNat_lt
  have hhigh : a.toNat * 65536 / 262144 = a.toNat * 16 / 64 := by omega
  have hlow : a.toNat * 65536 / 4096 = a.toNat * 16 := by omega
  have hnumber := number_two (a.toNat * 16) (by omega)
  have hbyte : UInt8.ofNat (a.toNat * 16 / 16) = a := ofNat_of_toNat (by omega)
  rw [group]
  simp only [hhigh, hlow, decode, hnumber, and_self, if_true, Option.bind_eq_bind,
    Option.bind_some, Nat.mul_mod_left, hbyte]

/-- Two bytes come back from three digits and padding. -/
theorem decode_two (a b : UInt8) : decode (group a [b]) = some [a, b] := by
  have ha := a.toNat_lt
  have hb := b.toNat_lt
  obtain ⟨m, hm⟩ : ∃ m, m = a.toNat * 1024 + b.toNat * 4 := ⟨_, rfl⟩
  have hvalue : a.toNat * 65536 + b.toNat * 256 = m * 64 := by omega
  have hhigh : m * 64 / 262144 = m / 4096 := by omega
  have hmiddle : m * 64 / 4096 = m / 64 := by omega
  have hlow : m * 64 / 64 = m := by omega
  have hnumber := number_three m (by omega)
  have hzero : m % 4 = 0 := by omega
  have hfirst : UInt8.ofNat (m / 1024) = a := ofNat_of_toNat (by omega)
  have hsecond : UInt8.ofNat (m / 4) = b := ofNat_of_toNat (by omega)
  rw [group]
  simp only [hvalue, hhigh, hmiddle, hlow, decode, hnumber, and_self, if_true,
    (digit_plain m).1, if_false, Option.bind_eq_bind, Option.bind_some, hzero, hfirst, hsecond]

/-- Three bytes come back from four digits, in front of the rest. -/
theorem decode_three (a b c : UInt8) (rest : List Char) :
    decode (group a [b, c] ++ rest) = (decode rest).map fun bytes => a :: b :: c :: bytes := by
  have ha := a.toNat_lt
  have hb := b.toNat_lt
  have hc := c.toNat_lt
  rw [group]
  generalize hm : a.toNat * 65536 + b.toNat * 256 + c.toNat = m
  have hnumber := number_four m (by omega)
  have hfirst : UInt8.ofNat (m / 65536) = a := ofNat_of_toNat (by omega)
  have hsecond : UInt8.ofNat (m / 256) = b := ofNat_of_toNat (by omega)
  have hthird : UInt8.ofNat m = c := ofNat_of_toNat (by omega)
  simp only [List.cons_append, List.nil_append, decode, hnumber, (digit_plain m).1, false_and,
    if_false, Option.bind_eq_bind, Option.bind_some, hfirst, hsecond, hthird]
  cases decode rest with
  | none => rfl
  | some bytes => rfl

/-- The characters of one piece. -/
def piece : List UInt8 → List Char
  | [] => []
  | a :: rest => group a rest

def encode (bytes : List UInt8) : List Char := (chunks 3 bytes).flatMap piece

/-- A group has no characters that end a line. -/
theorem group_plain (a : UInt8) (rest : List UInt8) :
    ∀ c ∈ group a rest, c ≠ '\n' ∧ c ≠ '\r' ∧ c.toNat < 128 := by
  have hdigit := fun n => (digit_plain n).2
  have hpad : '=' ≠ '\n' ∧ '=' ≠ '\r' ∧ '='.toNat < 128 := by decide
  unfold group
  split <;> simp only [List.mem_cons, List.not_mem_nil, or_false, forall_eq_or_imp, forall_eq]
  · exact ⟨hdigit _, hdigit _, hpad, hpad⟩
  · exact ⟨hdigit _, hdigit _, hdigit _, hpad⟩
  · exact ⟨hdigit _, hdigit _, hdigit _, hdigit _⟩

/-- Neither has an encoding. -/
theorem encode_plain {bytes : List UInt8} {c : Char} (h : c ∈ encode bytes) :
    c ≠ '\n' ∧ c ≠ '\r' ∧ c.toNat < 128 := by
  obtain ⟨part, -, hc⟩ := List.mem_flatMap.mp h
  cases part with
  | nil => cases hc
  | cons a rest => exact group_plain a rest c hc

/-- **What was encoded is decoded.** -/
theorem decode_encode (bytes : List UInt8) : decode (encode bytes) = some bytes := by
  unfold encode
  fun_induction chunks 3 bytes with
  | case1 bytes h =>
      obtain rfl := h.resolve_right (by decide)
      rfl
  | case2 bytes h ih =>
      rw [List.flatMap_cons]
      cases bytes with
      | nil => exact absurd (.inl rfl) h
      | cons a rest =>
          cases rest with
          | nil =>
              have hend : chunks 3 (List.drop 3 [a]) = [] := chunks_nil 3
              rw [hend, List.flatMap_nil, List.append_nil]
              exact decode_one a
          | cons b rest =>
              cases rest with
              | nil =>
                  have hend : chunks 3 (List.drop 3 [a, b]) = [] := chunks_nil 3
                  rw [hend, List.flatMap_nil, List.append_nil]
                  exact decode_two a b
              | cons c rest =>
                  change decode (group a [b, c] ++ (chunks 3 rest).flatMap piece) = _
                  have ih : decode ((chunks 3 rest).flatMap piece) = some rest := ih
                  rw [decode_three, ih, Option.map_some]

end Base64
