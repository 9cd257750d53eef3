import Mathlib.Algebra.Order.Ring.Nat
import Mathlib.Data.Char
import Mathlib.Data.List.DropRight

/-!
# Text as Rust's `str` sees it

The methods of `str` on a list of Unicode scalar values, and `FromStr` of the unsigned
integers.
-/

namespace Str

/-- Unicode `White_Space`. -/
def isWhitespace (c : Char) : Bool :=
  let n := c.toNat
  (0x9 ≤ n && n ≤ 0xD) || n == 0x20 || n == 0x85 || n == 0xA0 || n == 0x1680 ||
    (0x2000 ≤ n && n ≤ 0x200A) || n == 0x2028 || n == 0x2029 || n == 0x202F || n == 0x205F ||
    n == 0x3000

def trim (s : List Char) : List Char := (s.dropWhile isWhitespace).rdropWhile isWhitespace

/-- One more character in front of the first line. -/
def consLine (c : Char) : List (List Char) → List (List Char)
  | [] => [[c]]
  | line :: rest => (c :: line) :: rest

/-- A line ends with a line feed, or with a carriage return and a line feed; the last one
may end with the text. -/
def lines : List Char → List (List Char)
  | [] => []
  | '\n' :: rest => [] :: lines rest
  | '\r' :: '\n' :: rest => [] :: lines rest
  | c :: rest => consLine c (lines rest)

/-- A character that ends no line. -/
theorem lines_cons {c : Char} {s : List Char} (hc : c ≠ '\n')
    (hreturn : c = '\r' → s.head? ≠ some '\n') : lines (c :: s) = consLine c (lines s) := by
  rw [lines]
  · exact hc
  · intro rest hc' hs
    exact hreturn hc' (by rw [hs]; rfl)

/-- A line that ends with a line feed, and with no carriage return in front of it. -/
theorem lines_line {line : List Char} (hfeed : '\n' ∉ line) (hreturn : line.getLast? ≠ some '\r')
    (rest : List Char) : lines (line ++ '\n' :: rest) = line :: lines rest := by
  induction line with
  | nil => rw [List.nil_append, lines]
  | cons c line ih =>
      have hc : c ≠ '\n' := fun heq => hfeed (heq ▸ List.mem_cons_self)
      have hline : '\n' ∉ line := fun hmem => hfeed (List.mem_cons_of_mem c hmem)
      rw [List.cons_append, lines_cons hc, ih hline, consLine]
      · cases line with
        | nil => simp
        | cons d line => rwa [List.getLast?_cons_cons] at hreturn
      · rintro rfl
        cases line with
        | nil => simp at hreturn
        | cons d line =>
            intro hd
            have heq : d = '\n' := Option.some.inj hd
            exact hline (heq ▸ List.mem_cons_self)

/-- The parts around the first `sep`. -/
def splitOnce (sep : Char) : List Char → Option (List Char × List Char)
  | [] => none
  | c :: rest =>
      if c = sep then some ([], rest)
      else (splitOnce sep rest).map fun parts => (c :: parts.1, parts.2)

def stripPrefix (c : Char) : List Char → Option (List Char)
  | [] => none
  | c' :: rest => if c' = c then some rest else none

/-- `char::to_digit`. -/
def toDigit (radix : Nat) (c : Char) : Option Nat :=
  let digit :=
    if '0' ≤ c ∧ c ≤ '9' then some (c.toNat - '0'.toNat)
    else if 'a' ≤ c ∧ c ≤ 'z' then some (c.toNat - 'a'.toNat + 10)
    else if 'A' ≤ c ∧ c ≤ 'Z' then some (c.toNat - 'A'.toNat + 10)
    else none
  digit.filter (· < radix)

def fromDigits (radix : Nat) (digits : List Nat) : Nat :=
  digits.foldl (fun value digit => value * radix + digit) 0

/-- A number below `bound` in decimal digits, with or without a plus sign. -/
def parseUnsigned (bound : Nat) (s : List Char) : Option Nat := do
  let digits ← ((stripPrefix '+' s).getD s).mapM (toDigit 10)
  if digits = [] then
    none
  else
    let value := fromDigits 10 digits
    if value < bound then some value else none

def parseU8 (s : List Char) : Option UInt8 := (parseUnsigned (2 ^ 8) s).map UInt8.ofNat
def parseU16 (s : List Char) : Option UInt16 := (parseUnsigned (2 ^ 16) s).map UInt16.ofNat

end Str
