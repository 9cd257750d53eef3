import Oxrdp.Pdu.Counted
import Oxrdp.Pdu.Text

/-!
# The Client Info PDU

`client_info.rs`: five strings whose byte counts stand in front of all of them, and two
more with their own counts.  Every count is cast to a `u16` without a check, so a string
of 32768 UTF-16 units or more is announced as a shorter one.
-/

namespace Oxrdp

open Coder

structure ExtendedInfo where
  clientAddress : String
  clientDir : String
  timeZone : Bytes 172
  sessionId : UInt32
  performanceFlags : UInt32
  deriving DecidableEq

structure ClientInfo where
  codePage : UInt32
  flags : UInt32
  domain : String
  username : String
  password : String
  alternateShell : String
  workingDir : String
  extended : ExtendedInfo
  deriving DecidableEq

namespace ClientInfo

/-- `(len as u16).to_le_bytes()`. -/
def countBytes (len : Nat) : List UInt8 := leBytes 2 (UInt16.ofNat len).toNat

/-- A string and its null terminator. -/
def terminated (s : String) : List UInt8 := utf16le s ++ [0x00, 0x00]

/-- The strings whose counts stand in front. -/
def strings (m : ClientInfo) : List String :=
  [m.domain, m.username, m.password, m.alternateShell, m.workingDir]

def extendedBytes (m : ExtendedInfo) : List UInt8 :=
  leBytes 2 2 ++ (countBytes ((utf16le m.clientAddress).length + 2) ++
    (terminated m.clientAddress ++ (countBytes ((utf16le m.clientDir).length + 2) ++
      (terminated m.clientDir ++ (m.timeZone.val ++ (leBytes 4 m.sessionId.toNat ++
        leBytes 4 m.performanceFlags.toNat))))))

/-- Encode this packet into its wire representation. -/
def toBytes (m : ClientInfo) : EncodeResult (List UInt8) :=
  pure (leBytes 4 m.codePage.toNat ++ (leBytes 4 m.flags.toNat ++
    (m.strings.flatMap (fun s => countBytes (utf16le s).length) ++
      (m.strings.flatMap terminated ++ extendedBytes m.extended))))

/-! ## Following the lengths -/

def ctx : String := "Client Info"

/-- As many bytes of UTF-16LE text as were announced, and its terminator. -/
def readText (n : Nat) : Decoder String := do
  let bytes ← readSlice n ctx
  expectU8 0x00 ctx (.invalidField ctx "terminator" "expected 0")
  expectU8 0x00 ctx (.invalidField ctx "terminator" "expected 0")
  match fromUtf16le bytes with
  | some s => pure s
  | none => throw (.invalidField ctx "string" "expected UTF-16")

/-- The texts of the announced lengths, one behind the other. -/
def readTexts : List UInt16 → Decoder (List String)
  | [] => pure []
  | count :: counts => do
      let s ← readText count.toNat
      let rest ← readTexts counts
      pure (s :: rest)

/-- A text behind its own count, which includes the terminator. -/
def readCountedText : Decoder String := do
  let count ← readU16Le ctx
  if count.toNat < 2 then
    throw (.invalidLength ctx "no room for the terminator")
  else
    readText (count.toNat - 2)

def readExtended : Decoder ExtendedInfo := do
  let _clientAddressFamily ← readU16Le ctx
  let clientAddress ← readCountedText
  let clientDir ← readCountedText
  let timeZone ← readArray 172 ctx
  let sessionId ← readU32Le ctx
  let performanceFlags ← readU32Le ctx
  pure { clientAddress, clientDir, timeZone, sessionId, performanceFlags }

/-- What a reader finds that follows the lengths. -/
structure Followed where
  codePage : UInt32
  flags : UInt32
  strings : List String
  extended : ExtendedInfo
  deriving DecidableEq

def readFollowed : Decoder Followed := do
  let codePage ← readU32Le ctx
  let flags ← readU32Le ctx
  let counts ← readMany (readU16Le ctx) 5
  let strings ← readTexts counts
  let extended ← readExtended
  pure { codePage, flags, strings, extended }

/-- Every byte has to be accounted for. -/
def follow (bytes : List UInt8) : DecodeResult Followed := decodeAll readFollowed bytes

/-- What there is to find. -/
def contents (m : ClientInfo) : Followed :=
  { codePage := m.codePage, flags := m.flags, strings := m.strings, extended := m.extended }

/-- Every count fits its field; the two counts of the extended part include the
terminator. -/
structure Fits (m : ClientInfo) : Prop where
  strings : ∀ s ∈ m.strings, (utf16le s).length < 2 ^ 16
  address : (utf16le m.extended.clientAddress).length + 2 < 2 ^ 16
  dir : (utf16le m.extended.clientDir).length + 2 < 2 ^ 16

/-! ## What is found -/

theorem readText_parses (s : String) :
    Parses (readText (utf16le s).length) (terminated s) s := by
  have hlast : Parses (match fromUtf16le (utf16le s) with
      | some s => pure s
      | none => throw (.invalidField ctx "string" "expected UTF-16") : Decoder String) [] s := by
    rw [fromUtf16le_utf16le]
    exact Parses.pure s
  refine (readSlice_parses (utf16le s) ctx).bind ?_
  refine (expectU8_parses 0x00 ctx _).bind ?_
  exact (expectU8_parses 0x00 ctx _).last hlast

theorem readCounts_parses (l : List String) :
    Parses (readMany (readU16Le ctx) l.length)
      (l.flatMap fun s => countBytes (utf16le s).length)
      (l.map fun s => UInt16.ofNat (utf16le s).length) := by
  have hall := Parses.many (l := l.map fun s => UInt16.ofNat (utf16le s).length)
    fun v _ => readU16Le_parses v ctx
  rw [List.length_map, List.flatMap_map] at hall
  exact hall

theorem readTexts_parses {l : List String} (h : ∀ s ∈ l, (utf16le s).length < 2 ^ 16) :
    Parses (readTexts (l.map fun s => UInt16.ofNat (utf16le s).length))
      (l.flatMap terminated) l := by
  induction l with
  | nil => exact Parses.pure []
  | cons s rest ih =>
      have hcount : (UInt16.ofNat (utf16le s).length).toNat = (utf16le s).length :=
        UInt16.toNat_ofNat_of_lt' (h s (List.mem_cons_self ..))
      have hs := readText_parses s
      rw [← hcount] at hs
      have hrest := ih fun s' hs' => h s' (List.mem_cons_of_mem _ hs')
      exact hs.bind (hrest.last (Parses.pure (s :: rest)))

theorem readCountedText_parses {s : String} (h : (utf16le s).length + 2 < 2 ^ 16) :
    Parses readCountedText (countBytes ((utf16le s).length + 2) ++ terminated s) s := by
  have hcount : (UInt16.ofNat ((utf16le s).length + 2)).toNat = (utf16le s).length + 2 :=
    UInt16.toNat_ofNat_of_lt' h
  refine (readU16Le_parses (UInt16.ofNat ((utf16le s).length + 2)) ctx).bind ?_
  rw [hcount, if_neg (by omega), Nat.add_sub_cancel]
  exact readText_parses s

theorem readExtended_parses {m : ExtendedInfo}
    (haddress : (utf16le m.clientAddress).length + 2 < 2 ^ 16)
    (hdir : (utf16le m.clientDir).length + 2 < 2 ^ 16) :
    Parses readExtended (extendedBytes m) m := by
  refine (readU16Le_parses 2 ctx).bind ?_
  rw [← List.append_assoc]
  refine (readCountedText_parses haddress).bind ?_
  rw [← List.append_assoc]
  refine (readCountedText_parses hdir).bind ?_
  refine (readArray_parses m.timeZone ctx).bind ?_
  refine (readU32Le_parses m.sessionId ctx).bind ?_
  exact (readU32Le_parses m.performanceFlags ctx).last (Parses.pure m)

/-- When every count fits, all of it is read back. -/
theorem readFollowed_parses {m : ClientInfo} (h : m.Fits) {bytes : List UInt8}
    (hbytes : m.toBytes = .ok bytes) : Parses readFollowed bytes m.contents := by
  cases hbytes
  refine (readU32Le_parses m.codePage ctx).bind ?_
  refine (readU32Le_parses m.flags ctx).bind ?_
  refine (readCounts_parses m.strings).bind ?_
  refine (readTexts_parses h.strings).bind ?_
  exact (readExtended_parses h.address h.dir).last (Parses.pure m.contents)

/-- A text has as many bytes as were announced for it. -/
theorem readText_returns {n : Nat} {s : String} (h : Returns (readText n) s) :
    (utf16le s).length = n := by
  obtain ⟨bytes, hbytes, h⟩ := h.of_bind
  obtain ⟨-, -, h⟩ := h.of_bind
  obtain ⟨-, -, h⟩ := h.of_bind
  obtain ⟨t, t', hrun⟩ := h
  cases htext : fromUtf16le bytes with
  | none =>
      rw [htext] at hrun
      cases hrun
  | some s' =>
      rw [htext] at hrun
      cases hrun
      rw [utf16le_length htext, readSlice_returns hbytes]

theorem readTexts_returns {counts : List UInt16} :
    ∀ {l : List String}, Returns (readTexts counts) l →
      ∀ s ∈ l, (utf16le s).length < 2 ^ 16 := by
  induction counts with
  | nil =>
      intro l h s hs
      obtain ⟨t, t', hrun⟩ := h
      cases hrun
      cases hs
  | cons count counts ih =>
      intro l h s hs
      obtain ⟨s', htext, h⟩ := h.of_bind
      obtain ⟨rest, hrest, h⟩ := h.of_bind
      obtain ⟨t, t', hrun⟩ := h
      cases hrun
      rcases List.mem_cons.mp hs with rfl | hs
      · rw [readText_returns htext]
        exact count.toNat_lt
      · exact ih hrest s hs

theorem readCountedText_returns {s : String} (h : Returns readCountedText s) :
    (utf16le s).length + 2 < 2 ^ 16 := by
  obtain ⟨count, -, h⟩ := h.of_bind
  have hlt : count.toNat < 65536 := count.toNat_lt
  by_cases hshort : count.toNat < 2
  · rw [if_pos hshort] at h
    obtain ⟨t, t', hrun⟩ := h
    cases hrun
  · rw [if_neg hshort] at h
    rw [readText_returns h]
    omega

theorem readExtended_returns {m : ExtendedInfo} (h : Returns readExtended m) :
    (utf16le m.clientAddress).length + 2 < 2 ^ 16 ∧
      (utf16le m.clientDir).length + 2 < 2 ^ 16 := by
  obtain ⟨-, -, h⟩ := h.of_bind
  obtain ⟨address, haddress, h⟩ := h.of_bind
  obtain ⟨dir, hdir, h⟩ := h.of_bind
  obtain ⟨timeZone, -, h⟩ := h.of_bind
  obtain ⟨sessionId, -, h⟩ := h.of_bind
  obtain ⟨performanceFlags, -, h⟩ := h.of_bind
  obtain ⟨t, t', hrun⟩ := h
  cases hrun
  exact ⟨readCountedText_returns haddress, readCountedText_returns hdir⟩

/-- Whatever a reader finds by following sixteen-bit counts fits sixteen-bit counts. -/
theorem fits_of_returns {m : ClientInfo} (h : Returns readFollowed m.contents) : m.Fits := by
  obtain ⟨codePage, -, h⟩ := h.of_bind
  obtain ⟨flags, -, h⟩ := h.of_bind
  obtain ⟨counts, -, h⟩ := h.of_bind
  obtain ⟨strings, hstrings, h⟩ := h.of_bind
  obtain ⟨extended, hextended, h⟩ := h.of_bind
  obtain ⟨t, t', hrun⟩ := h
  have hsame : (⟨codePage, flags, strings, extended⟩ : Followed) = m.contents :=
    congrArg Prod.fst (Except.ok.inj hrun)
  cases hsame
  obtain ⟨haddress, hdir⟩ := readExtended_returns hextended
  exact ⟨readTexts_returns hstrings, haddress, hdir⟩

/-- **The reader that follows the counts finds every string iff every count fits.** -/
theorem follow_iff {m : ClientInfo} {bytes : List UInt8} (h : m.toBytes = .ok bytes) :
    follow bytes = .ok m.contents ↔ m.Fits := by
  constructor
  · intro hall
    exact fits_of_returns (decodeAll_returns hall)
  · intro hfits
    exact decodeAll_of_parses (readFollowed_parses hfits h)

end ClientInfo

end Oxrdp
