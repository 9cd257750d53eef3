import Oxrdp.Lib.Str

/-!
# Socket addresses in text

`FromStr` of `std::net::SocketAddr`: dotted IPv4 addresses, IPv6 addresses in brackets
with `::` and a trailing IPv4 part, an optional scope, and the port.
-/

namespace Str

structure Ipv4Addr where
  a : UInt8
  b : UInt8
  c : UInt8
  d : UInt8
  deriving DecidableEq, Repr

structure Ipv6Addr where
  segments : Fin 8 → UInt16

inductive IpAddr where
  | v4 (ip : Ipv4Addr)
  | v6 (ip : Ipv6Addr)

inductive SocketAddr where
  | v4 (ip : Ipv4Addr) (port : UInt16)
  | v6 (ip : Ipv6Addr) (port : UInt16) (scopeId : UInt32)

def SocketAddr.ip : SocketAddr → IpAddr
  | .v4 ip _ => .v4 ip
  | .v6 ip _ _ => .v6 ip

/-- The wildcard addresses `0.0.0.0` and `::`. -/
def IpAddr.isUnspecified : IpAddr → Bool
  | .v4 ip => ip = ⟨0, 0, 0, 0⟩
  | .v6 ip => (List.finRange 8).all fun i => ip.segments i == 0

/-- A parser that leaves the text alone where it fails. -/
abbrev Parser := StateT (List Char) Option

def readGivenChar (c : Char) : Parser Unit := fun s => (stripPrefix c s).map fun rest => ((), rest)

/-- `inner`, with the separator in front of every element but the first. -/
def readSeparator {α : Type} (sep : Char) (index : Nat) (inner : Parser α) : Parser α :=
  if 0 < index then do
    readGivenChar sep
    inner
  else
    inner

/-- As many digits as there are; a number below `bound`. -/
def readNumber (radix bound : Nat) (maxDigits : Option Nat) (allowZeroPrefix : Bool) :
    Parser Nat := fun s =>
  let digits := s.takeWhile fun c => (toDigit radix c).isSome
  let value := fromDigits radix (digits.filterMap (toDigit radix))
  if maxDigits.any (· < digits.length) then none
  else if digits = [] then none
  else if !allowZeroPrefix && digits.head? == some '0' && 1 < digits.length then none
  else if value < bound then some (value, s.drop digits.length)
  else none

/-- Octal numbers are not taken. -/
def readOctet (index : Nat) : Parser UInt8 :=
  readSeparator '.' index (UInt8.ofNat <$> readNumber 10 (2 ^ 8) (some 3) false)

def readIpv4Addr : Parser Ipv4Addr := do
  let a ← readOctet 0
  let b ← readOctet 1
  let c ← readOctet 2
  let d ← readOctet 3
  pure ⟨a, b, c, d⟩

def segmentOf (hi lo : UInt8) : UInt16 := UInt16.ofNat (hi.toNat * 256 + lo.toNat)

/-- Up to `left` more groups behind `groups`, and whether they end with an IPv4 address,
which takes the place of two. -/
def readGroups : Nat → List UInt16 → List Char → (List UInt16 × Bool) × List Char
  | 0, groups, s => ((groups, false), s)
  | left + 1, groups, s =>
      let ipv4 := if 0 < left then (readSeparator ':' groups.length readIpv4Addr).run s else none
      match ipv4 with
      | some (ip, rest) =>
          ((groups ++ [segmentOf ip.a ip.b, segmentOf ip.c ip.d], true), rest)
      | none =>
          match (readSeparator ':' groups.length (readNumber 16 (2 ^ 16) (some 4) true)).run s with
          | some (group, rest) => readGroups left (groups ++ [UInt16.ofNat group]) rest
          | none => ((groups, false), s)

/-- The groups in front of `::`, zeros, and the groups behind it. -/
def Ipv6Addr.ofGroups (head tail : List UInt16) : Ipv6Addr :=
  ⟨fun i => (head ++ List.replicate (8 - head.length - tail.length) 0 ++ tail).getD i 0⟩

def readIpv6Addr : Parser Ipv6Addr := fun s =>
  let ((head, headIpv4), s) := readGroups 8 [] s
  if head.length = 8 then some (.ofGroups head [], s)
  else if headIpv4 then none
  else do
    let (_, s) ← (readGivenChar ':').run s
    let (_, s) ← (readGivenChar ':').run s
    let ((tail, _), s) := readGroups (8 - (head.length + 1)) [] s
    some (.ofGroups head tail, s)

def readPort : Parser UInt16 := do
  readGivenChar ':'
  let port ← readNumber 10 (2 ^ 16) none true
  pure (UInt16.ofNat port)

def readScopeId : Parser UInt32 := do
  readGivenChar '%'
  let scope ← readNumber 10 (2 ^ 32) none true
  pure (UInt32.ofNat scope)

def readSocketAddrV4 : Parser SocketAddr := do
  let ip ← readIpv4Addr
  let port ← readPort
  pure (.v4 ip port)

def readSocketAddrV6 : Parser SocketAddr := do
  readGivenChar '['
  let ip ← readIpv6Addr
  let scopeId ← readScopeId <|> pure 0
  readGivenChar ']'
  let port ← readPort
  pure (.v6 ip port scopeId)

/-- The whole text is an address. -/
def SocketAddr.fromStr (s : List Char) : Option SocketAddr := do
  let (addr, rest) ← (readSocketAddrV4 <|> readSocketAddrV6).run s
  if rest = [] then some addr else none

example : ((SocketAddr.fromStr "[::ffff:10.0.0.1%7]:80".toList).map fun addr =>
    addr.ip.isUnspecified) = some false := by decide

end Str
