import Oxrdp.Pdu.Fields

/-!
# TPKT and X.224 framing

`tpkt.rs`, `x224.rs` and `frame.rs`: every RDP message travels in a TPKT header,
which counts the whole message, and an X.224 data header.  `wrapMcs` puts the two in
front of a payload and `mcsPayload` takes them off again.

`wrapMcs` casts the total length to a `u16` without a check.
-/

namespace Oxrdp

open Coder

/-- Size of a TPKT header in bytes. -/
def tpktHeaderLen : Nat := 4

/-- The only TPKT version RDP uses. -/
def tpktVersion : UInt8 := 3

/-- The outermost header.  The length covers the whole PDU including this header. -/
structure TpktHeader where
  length : UInt16
  deriving DecidableEq, Repr

namespace TpktHeader

def size (_ : TpktHeader) : Nat := tpktHeaderLen

def encode (h : TpktHeader) : Encoder Unit := do
  writeU8 tpktVersion "TPKT version"
  writeU8 0 "TPKT reserved"
  writeU16Be h.length "TPKT length"
  pure ()

def decode : Decoder TpktHeader := do
  let version ← readU8 "TPKT version"
  if version ≠ tpktVersion then
    throw (.invalidField "TPKT" "version" "expected 3")
  else
    let _reserved ← readU8 "TPKT reserved"
    let length ← readU16Be "TPKT length"
    if length.toNat < tpktHeaderLen then
      throw (.invalidLength "TPKT" "length is smaller than the header")
    else
      pure { length }

/-- A header that covers at least itself is read back. -/
theorem coded {h : TpktHeader} (hlen : tpktHeaderLen ≤ h.length.toNat) :
    Coded h.encode h.size decode h := by
  refine (writeU8_coded tpktVersion _ _).bind (n := 3) ?_
  refine Coded.unless (by decide) ?_
  refine (writeU8_coded 0 _ _).bind (n := 2) ?_
  refine (writeU16Be_coded h.length _ _).bind (n := 0) ?_
  exact Coded.unless (Nat.not_lt.mpr hlen) (Coded.pure h)

/-- What stands in front of the length. -/
theorem emits (h : TpktHeader) :
    Emits h.encode ([3, 0] ++ beBytes 2 h.length.toNat) := by
  have hall := (writeSlice_emits [3] "TPKT version").bind
    ((writeSlice_emits [0] "TPKT reserved").bind
      ((writeSlice_emits (beBytes 2 h.length.toNat) "TPKT length").bind Emits.pure))
  rw [List.append_nil] at hall
  exact hall

theorem writes (h : TpktHeader) : Writes h.encode h.size :=
  (writeU8_writes tpktVersion _).bind <|
    (writeU8_writes 0 _).bind <|
    (writeSlice_writes (beBytes 2 h.length.toNat) _).bind Writes.pure

/-- A header that does not cover itself is written, but refused by the reader. -/
theorem decode_short {h : TpktHeader} (hlen : h.length.toNat < tpktHeaderLen)
    (tail : List UInt8) :
    Oxrdp.decode decode ([3, 0] ++ beBytes 2 h.length.toNat ++ tail) =
      .error (.invalidLength "TPKT" "length is smaller than the header") := by
  obtain ⟨length⟩ := h
  change length.toNat < 4 at hlen
  have hcases : length = 0 ∨ length = 1 ∨ length = 2 ∨ length = 3 := by
    have hval : length.toNat = 0 ∨ length.toNat = 1 ∨ length.toNat = 2 ∨ length.toNat = 3 := by
      omega
    rcases hval with h | h | h | h
    · exact .inl (UInt16.toNat_inj.mp h)
    · exact .inr (.inl (UInt16.toNat_inj.mp h))
    · exact .inr (.inr (.inl (UInt16.toNat_inj.mp h)))
    · exact .inr (.inr (.inr (UInt16.toNat_inj.mp h)))
  rcases hcases with rfl | rfl | rfl | rfl
  all_goals rfl

end TpktHeader

/-- Size of an X.224 class 0 data header in bytes. -/
def x224DataHeaderLen : Nat := 3

/-- The X.224 class 0 data header, a fixed marker. -/
structure X224DataHeader where
  deriving DecidableEq, Repr

namespace X224DataHeader

def dataLi : UInt8 := 0x02
def dtDataCode : UInt8 := 0xF0
def eot : UInt8 := 0x80

def size (_ : X224DataHeader) : Nat := x224DataHeaderLen

def encode (_ : X224DataHeader) : Encoder Unit := do
  writeU8 dataLi "X.224 length indicator"
  writeU8 dtDataCode "X.224 TPDU code"
  writeU8 eot "X.224 EOT"
  pure ()

def decode : Decoder X224DataHeader := do
  let li ← readU8 "X.224 length indicator"
  if li ≠ dataLi then
    throw (.invalidField "X.224 data" "length indicator" "expected 2")
  else
    let code ← readU8 "X.224 TPDU code"
    if code ≠ dtDataCode then
      throw (.invalidField "X.224 data" "TPDU code" "expected DT data (0xF0)")
    else
      let mark ← readU8 "X.224 EOT"
      if mark ≠ eot then
        throw (.invalidField "X.224 data" "EOT" "expected 0x80")
      else
        pure {}

/-- A data header has its code in the second byte. -/
theorem decode_second {bytes : List UInt8} {h : X224DataHeader}
    (hdec : Oxrdp.decode decode bytes = .ok h) : bytes[1]? = some dtDataCode := by
  obtain ⟨t, hrun⟩ := decode_run hdec
  obtain ⟨li, t₁, hli, hrun⟩ := bind_run_ok.mp hrun
  obtain ⟨-, hrun⟩ := checked_run hrun
  obtain ⟨code, t₂, hcode, hrun⟩ := bind_run_ok.mp hrun
  obtain ⟨hdata, -⟩ := checked_run hrun
  have hbytes : bytes = li :: code :: t₂.todo := by
    rw [← readU8_todo hcode]
    exact readU8_todo hli
  rw [hbytes, ← not_not.mp hdata]
  rfl

theorem coded (h : X224DataHeader) : Coded h.encode h.size decode h := by
  refine (writeU8_coded dataLi _ _).bind (n := 2) ?_
  refine Coded.unless (by decide) ?_
  refine (writeU8_coded dtDataCode _ _).bind (n := 1) ?_
  refine Coded.unless (by decide) ?_
  refine (writeU8_coded eot _ _).bind (n := 0) ?_
  exact Coded.unless (by decide) (Coded.pure h)

theorem emits (h : X224DataHeader) : Emits h.encode [0x02, 0xF0, 0x80] := by
  have hall := (writeSlice_emits [dataLi] "X.224 length indicator").bind
    ((writeSlice_emits [dtDataCode] "X.224 TPDU code").bind
      ((writeSlice_emits [eot] "X.224 EOT").bind Emits.pure))
  exact hall

end X224DataHeader

/-! ## Wrapping -/

/-- Wrap an MCS payload in a TPKT header and an X.224 data header. -/
def wrapMcs (payload : List UInt8) : EncodeResult (List UInt8) := do
  let total := tpktHeaderLen + x224DataHeaderLen + payload.length
  -- `total as u16`
  let tpkt : TpktHeader := { length := UInt16.ofNat total }
  let out ← encodeVec tpkt.size tpkt.encode
  let x224 : X224DataHeader := {}
  let data ← encodeVec x224.size x224.encode
  pure (out ++ data ++ payload)

/-- Strip the two headers; what is left is bounded by the TPKT length. -/
def mcsPayload (frame : List UInt8) : DecodeResult (List UInt8) := do
  let tpkt ← decode TpktHeader.decode frame
  let stop := min tpkt.length.toNat frame.length
  if stop < tpktHeaderLen + x224DataHeaderLen then
    throw (.invalidLength "MCS frame" "frame shorter than TPKT+X224 headers")
  else
    let _x224 ← decode X224DataHeader.decode (frame.drop tpktHeaderLen)
    pure ((frame.take stop).drop (tpktHeaderLen + x224DataHeaderLen))

/-- The two headers of a frame of this total length. -/
def frameHeader (total : Nat) : List UInt8 :=
  [3, 0] ++ beBytes 2 (UInt16.ofNat total).toNat ++ [0x02, 0xF0, 0x80]

/-- Wrapping always succeeds, and writes the low half of the total length. -/
theorem wrapMcs_eq (payload : List UInt8) :
    wrapMcs payload =
      .ok (frameHeader (tpktHeaderLen + x224DataHeaderLen + payload.length) ++ payload) := by
  have htpkt := encodeVec_emits (TpktHeader.emits
    { length := UInt16.ofNat (tpktHeaderLen + x224DataHeaderLen + payload.length) })
    (TpktHeader.writes _)
  have hx224 := encodeVec_emits (X224DataHeader.emits {}) (X224DataHeader.coded {}).writes
  change (do
    let out ← encodeVec _ _
    let data ← encodeVec _ _
    pure (out ++ data ++ payload)) = _
  rw [htpkt, hx224]
  rfl

/-- What is left of a frame stands behind the headers, as far as the TPKT length goes. -/
theorem mcsPayload_eq {frame payload : List UInt8} (h : mcsPayload frame = .ok payload) :
    ∃ stop, stop < 2 ^ 16 ∧ 7 ≤ stop ∧ payload = (frame.take stop).drop 7 ∧
      ∃ x224, decode X224DataHeader.decode (frame.drop tpktHeaderLen) = .ok x224 := by
  unfold mcsPayload at h
  cases htpkt : decode TpktHeader.decode frame with
  | error e =>
      rw [htpkt] at h
      cases h
  | ok tpkt =>
      rw [htpkt, Checked.bind_ok] at h
      by_cases hshort : min tpkt.length.toNat frame.length < tpktHeaderLen + x224DataHeaderLen
      · rw [if_pos hshort] at h
        cases h
      · rw [if_neg hshort] at h
        cases hx224 : decode X224DataHeader.decode (frame.drop tpktHeaderLen) with
        | error e =>
            rw [hx224] at h
            cases h
        | ok x224 =>
            rw [hx224, Checked.bind_ok] at h
            cases h
            have hlt : tpkt.length.toNat < 65536 := tpkt.length.toNat_lt
            simp only [tpktHeaderLen, x224DataHeaderLen] at hshort
            exact ⟨_, by omega, by omega, rfl, x224, rfl⟩

/-- No payload is longer than its TPKT length allows. -/
theorem mcsPayload_short {frame payload : List UInt8} (h : mcsPayload frame = .ok payload) :
    payload.length + 7 < 2 ^ 16 := by
  obtain ⟨stop, hstop, hmin, rfl, -⟩ := mcsPayload_eq h
  rw [List.length_drop, List.length_take]
  omega

theorem frameHeader_length (total : Nat) : (frameHeader total).length = 7 := by
  simp [frameHeader]

/-- However long a wrapped payload is, what comes back is a prefix of it. -/
theorem mcsPayload_prefix {total : Nat} {payload found : List UInt8}
    (h : mcsPayload (frameHeader total ++ payload) = .ok found) : found <+: payload := by
  obtain ⟨stop, -, hmin, rfl, -⟩ := mcsPayload_eq h
  have hlen := frameHeader_length total
  rw [List.drop_take, List.drop_left' hlen]
  exact List.take_prefix ..

/-- The header of a frame that fits announces its length. -/
theorem decode_frameHeader {total : Nat} (hmin : 7 ≤ total) (hfit : total < 2 ^ 16)
    (payload : List UInt8) :
    decode TpktHeader.decode (frameHeader total ++ payload) = .ok ⟨UInt16.ofNat total⟩ := by
  have hval : (UInt16.ofNat total).toNat = total := UInt16.toNat_ofNat_of_lt' hfit
  have hcoded := TpktHeader.coded (h := ⟨UInt16.ofNat total⟩) (by
    change 4 ≤ (UInt16.ofNat total).toNat
    omega)
  have hparse := hcoded.roundTrip.parses_emitted (TpktHeader.emits ⟨UInt16.ofNat total⟩)
  rw [frameHeader, List.append_assoc]
  exact decode_prefix hparse _

theorem mcsPayload_frame {payload : List UInt8} (hfit : payload.length + 7 < 2 ^ 16) :
    mcsPayload (frameHeader (7 + payload.length) ++ payload) = .ok payload := by
  have hval : (UInt16.ofNat (7 + payload.length)).toNat = 7 + payload.length :=
    UInt16.toNat_ofNat_of_lt' (by
      change _ < 65536
      omega)
  have hx224 : Parses X224DataHeader.decode [0x02, 0xF0, 0x80] {} :=
    (X224DataHeader.coded {}).roundTrip.parses_emitted (X224DataHeader.emits {})
  have hdrop : (frameHeader (7 + payload.length) ++ payload).drop tpktHeaderLen =
      [0x02, 0xF0, 0x80] ++ payload := rfl
  rw [mcsPayload, decode_frameHeader (by omega) (by omega), Checked.bind_ok]
  dsimp only
  rw [hval, List.length_append, frameHeader_length, Nat.min_self,
    if_neg (by simp only [tpktHeaderLen, x224DataHeaderLen]; omega), hdrop,
    decode_prefix hx224 payload, Checked.bind_ok]
  have hall : (frameHeader (7 + payload.length) ++ payload).take (7 + payload.length) =
      frameHeader (7 + payload.length) ++ payload := by
    apply List.take_of_length_le
    rw [List.length_append, frameHeader_length]
  rw [hall]
  rfl

end Oxrdp
