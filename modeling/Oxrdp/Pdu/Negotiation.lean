import Mathlib.Data.List.Infix
import Oxrdp.Pdu.Framing
import Oxrdp.Pdu.Text

/-!
# Protocol negotiation

`nego.rs` and `connect.rs`: the three negotiation blocks, and the X.224 Connection
Request and Connection Confirm that carry them.  The variable part of both is cut out
by its announced length and read through a cursor of its own.

The identifier in a Connection Request ends at the first CR LF.  One that holds a CR LF
itself is written as it is, and read back only up to there.
-/

namespace Oxrdp

open Coder

namespace NegoProtocol

def rdp : UInt32 := 0x00000000
def ssl : UInt32 := 0x00000001

end NegoProtocol

def rdpNegLen : Nat := 8

def typeNegReq : UInt8 := 0x01
def typeNegRsp : UInt8 := 0x02
def typeNegFailure : UInt8 := 0x03

/-! ## The three blocks -/

/-- Each block is its type, a flags byte, its own length and one word. -/
def encodeNego (typ flags : UInt8) (value : UInt32) (ctx : String) : Encoder Unit := do
  writeU8 typ ctx
  writeU8 flags ctx
  writeU16Le (UInt16.ofNat rdpNegLen) ctx
  writeU32Le value ctx
  pure ()

/-- The flags and the word of a block of this type. -/
def decodeNego (typ : UInt8) (ctx : String) : Decoder (UInt8 × UInt32) := do
  let found ← readU8 ctx
  if found ≠ typ then
    throw (.invalidField ctx "type" "unexpected negotiation type")
  else
    let flags ← readU8 ctx
    let length ← readU16Le ctx
    if length.toNat ≠ rdpNegLen then
      throw (.invalidLength ctx "length must be 8")
    else
      let value ← readU32Le ctx
      pure (flags, value)

/-- The common form of a negotiation structure comes back. -/
theorem encodeNego_coded (typ flags : UInt8) (value : UInt32) (ctx : String) :
    Coded (encodeNego typ flags value ctx) rdpNegLen (decodeNego typ ctx) (flags, value) := by
  refine (writeU8_coded typ _ _).bind (n := 7) ?_
  refine Coded.unless (by simp) ?_
  refine (writeU8_coded flags _ _).bind (n := 6) ?_
  refine (writeU16Le_coded _ _ _).bind (n := 4) ?_
  refine Coded.unless (by decide) ?_
  refine (writeU32Le_coded value _ _).bind (n := 0) ?_
  exact Coded.pure (flags, value)

/-- The bytes of a block. -/
def negoBytes (typ flags : UInt8) (value : UInt32) : List UInt8 :=
  typ :: flags :: 8 :: 0 :: leBytes 4 value.toNat

/-- Its eight bytes, in their order. -/
theorem encodeNego_emits (typ flags : UInt8) (value : UInt32) (ctx : String) :
    Emits (encodeNego typ flags value ctx) (negoBytes typ flags value) := by
  have hall := (writeSlice_emits [typ] ctx).bind
    ((writeSlice_emits [flags] ctx).bind
      ((writeSlice_emits [8, 0] ctx).bind
        ((writeSlice_emits (leBytes 4 value.toNat) ctx).bind Emits.pure)))
  rw [List.append_nil] at hall
  exact hall

/-- What a client asks for. -/
structure NegotiationRequest where
  flags : UInt8
  requestedProtocols : UInt32
  deriving DecidableEq, Repr

namespace NegotiationRequest

def ctx : String := "RDP_NEG_REQ"

def size (_ : NegotiationRequest) : Nat := rdpNegLen

def encode (m : NegotiationRequest) : Encoder Unit :=
  encodeNego typeNegReq m.flags m.requestedProtocols ctx

def decode : Decoder NegotiationRequest := do
  let r ← decodeNego typeNegReq ctx
  pure { flags := r.1, requestedProtocols := r.2 }

/-- A request comes back. -/
theorem coded (m : NegotiationRequest) : Coded m.encode m.size decode m :=
  (encodeNego_coded typeNegReq m.flags m.requestedProtocols ctx).map fun r : UInt8 × UInt32 =>
    NegotiationRequest.mk r.1 r.2

def bytes (m : NegotiationRequest) : List UInt8 :=
  negoBytes typeNegReq m.flags m.requestedProtocols

/-- A request is written as these bytes. -/
theorem emits (m : NegotiationRequest) : Emits m.encode m.bytes :=
  encodeNego_emits typeNegReq m.flags m.requestedProtocols ctx

/-- Those bytes are read as the request. -/
theorem decode_bytes (m : NegotiationRequest) : Oxrdp.decode decode m.bytes = .ok m :=
  decode_of_parses (m.coded.roundTrip.parses_emitted m.emits)

end NegotiationRequest

/-- What the server has chosen. -/
structure NegotiationResponse where
  flags : UInt8
  selectedProtocol : UInt32
  deriving DecidableEq, Repr

namespace NegotiationResponse

def ctx : String := "RDP_NEG_RSP"

def size (_ : NegotiationResponse) : Nat := rdpNegLen

def encode (m : NegotiationResponse) : Encoder Unit :=
  encodeNego typeNegRsp m.flags m.selectedProtocol ctx

def decode : Decoder NegotiationResponse := do
  let r ← decodeNego typeNegRsp ctx
  pure { flags := r.1, selectedProtocol := r.2 }

/-- A response comes back, its type byte included. -/
theorem coded (m : NegotiationResponse) : Coded m.encode m.size decode m :=
  (encodeNego_coded typeNegRsp m.flags m.selectedProtocol ctx).map fun r : UInt8 × UInt32 =>
    NegotiationResponse.mk r.1 r.2

end NegotiationResponse

/-- Why the server refused. -/
structure NegotiationFailure where
  failureCode : UInt32
  deriving DecidableEq, Repr

namespace NegotiationFailure

def ctx : String := "RDP_NEG_FAILURE"

def size (_ : NegotiationFailure) : Nat := rdpNegLen

/-- The flags byte is always zero, and not looked at. -/
def encode (m : NegotiationFailure) : Encoder Unit :=
  encodeNego typeNegFailure 0 m.failureCode ctx

def decode : Decoder NegotiationFailure := do
  let r ← decodeNego typeNegFailure ctx
  pure { failureCode := r.2 }

/-- A failure comes back with its code. -/
theorem coded (m : NegotiationFailure) : Coded m.encode m.size decode m :=
  (encodeNego_coded typeNegFailure 0 m.failureCode ctx).map fun r : UInt8 × UInt32 =>
    NegotiationFailure.mk r.2

end NegotiationFailure

/-! ## The header of both TPDUs -/

def crCdt : UInt8 := 0xE0
def ccCdt : UInt8 := 0xD0
def fixedHeaderLen : Nat := 6

/-- The length indicator and the fixed part of a Connection Request or Confirm. -/
def encodeTpduHeader (pdu : String) (cdt : UInt8) (variableSize : Nat) : Encoder Unit :=
  if fixedHeaderLen + variableSize < 256 then do
    writeU8 (UInt8.ofNat (fixedHeaderLen + variableSize)) (pdu ++ " LI")
    writeU8 cdt (pdu ++ " CDT")
    writeU16Be 0x0000 (pdu ++ " DST-REF")
    writeU16Be 0x0000 (pdu ++ " SRC-REF")
    writeU8 0x00 (pdu ++ " CLASS-OPTION")
  else
    throw (.fieldTooLarge pdu "length indicator")

/-- The announced length of the variable part. -/
def decodeTpduHeader (pdu : String) (cdt : UInt8) (reason : String) : Decoder Nat := do
  let li ← readU8 (pdu ++ " LI")
  let found ← readU8 (pdu ++ " CDT")
  if found ≠ cdt then
    throw (.invalidField pdu "tpdu code" reason)
  else
    let _dstRef ← readU16Be (pdu ++ " DST-REF")
    let _srcRef ← readU16Be (pdu ++ " SRC-REF")
    let _class ← readU8 (pdu ++ " CLASS-OPTION")
    if li.toNat < fixedHeaderLen then
      throw (.invalidLength pdu "LI smaller than fixed header length")
    else
      pure (li.toNat - fixedHeaderLen)

/-- The header of a TPDU has the length of what follows, in one byte. -/
theorem encodeTpduHeader_coded (pdu : String) (cdt : UInt8) (variableSize : Nat)
    (reason : String) :
    Coded (encodeTpduHeader pdu cdt variableSize) 7 (decodeTpduHeader pdu cdt reason)
      variableSize := by
  refine Coded.guarded fun hfit => ?_
  have hli : (UInt8.ofNat (fixedHeaderLen + variableSize)).toNat =
      fixedHeaderLen + variableSize := UInt8.toNat_ofNat_of_lt' hfit
  refine (writeU8_coded _ _ _).bind (n := 6) ?_
  refine (writeU8_coded cdt _ _).bind (n := 5) ?_
  refine Coded.unless (by simp) ?_
  refine (writeU16Be_coded 0 _ _).bind (n := 3) ?_
  refine (writeU16Be_coded 0 _ _).bind (n := 1) ?_
  have hlast : Coded (writeU8 0x00 (pdu ++ " CLASS-OPTION")) 1
      (readU8 (pdu ++ " CLASS-OPTION") >>= fun _ => pure variableSize) variableSize :=
    (writeU8_coded 0 _ _).map fun _ => variableSize
  rw [hli, if_neg (by omega), Nat.add_sub_cancel_left]
  exact hlast

/-- The second byte is the TPDU code. -/
theorem decodeTpduHeader_second {pdu reason : String} {cdt : UInt8} {bytes : List UInt8} {v : Nat}
    (h : Oxrdp.decode (decodeTpduHeader pdu cdt reason) bytes = .ok v) :
    bytes[1]? = some cdt := by
  obtain ⟨t, hrun⟩ := decode_run h
  obtain ⟨li, t₁, hli, hrun⟩ := bind_run_ok.mp hrun
  obtain ⟨code, t₂, hcode, hrun⟩ := bind_run_ok.mp hrun
  obtain ⟨hcdt, -⟩ := checked_run hrun
  have hbytes : bytes = li :: code :: t₂.todo := by
    rw [← readU8_todo hcode]
    exact readU8_todo hli
  rw [hbytes, ← not_not.mp hcdt]
  rfl

/-! ## The Connection Request -/

/-- `Cookie: mstshash=`. -/
def cookiePrefix : List UInt8 :=
  [0x43, 0x6F, 0x6F, 0x6B, 0x69, 0x65, 0x3A, 0x20,
    0x6D, 0x73, 0x74, 0x73, 0x68, 0x61, 0x73, 0x68, 0x3D]

def crlf : List UInt8 := [0x0D, 0x0A]

/-- Where the first CR LF begins. -/
def crlfPos : List UInt8 → Option Nat
  | 0x0D :: 0x0A :: _ => some 0
  | _ :: rest => (crlfPos rest).map (· + 1)
  | [] => none

structure ConnectionRequest where
  /-- The identifier, without its prefix and its terminator. -/
  cookie : Option String
  negotiation : Option NegotiationRequest
  deriving DecidableEq, Repr

namespace ConnectionRequest

def variableSize (m : ConnectionRequest) : Nat :=
  m.cookie.elim 0 (fun c => cookiePrefix.length + c.utf8ByteSize + 2) +
    m.negotiation.elim 0 NegotiationRequest.size

def size (m : ConnectionRequest) : Nat := 1 + fixedHeaderLen + m.variableSize

def encodeCookie : Option String → Encoder Unit
  | some cookie => do
      writeSlice cookiePrefix "X.224 CR cookie prefix"
      writeSlice (strBytes cookie) "X.224 CR cookie identifier"
      writeSlice crlf "X.224 CR cookie terminator"
  | none => pure ()

def encodeNegotiation : Option NegotiationRequest → Encoder Unit
  | some negotiation => negotiation.encode
  | none => pure ()

/-- The variable part. -/
def encodeVariable (m : ConnectionRequest) : Encoder Unit := do
  encodeCookie m.cookie
  encodeNegotiation m.negotiation

def encode (m : ConnectionRequest) : Encoder Unit := do
  encodeTpduHeader "X.224 CR" crCdt m.variableSize
  m.encodeVariable

/-- The cookie at the head of the variable part, and what follows it. -/
def splitCookie (sub : List UInt8) : DecodeResult (Option String × List UInt8) :=
  if cookiePrefix.isPrefixOf sub then
    let body := sub.drop cookiePrefix.length
    match crlfPos body with
    | none => .error (.invalidField "X.224 CR" "cookie" "missing CR LF terminator")
    | some pos => .ok (some (fromUtf8Lossy (body.take pos)), body.drop (pos + 2))
  else
    .ok (none, sub)

/-- Read the variable part. -/
def decodeVariable (sub : List UInt8) : DecodeResult ConnectionRequest := do
  let (cookie, rest) ← splitCookie sub
  if rest.isEmpty then
    pure { cookie, negotiation := none }
  else
    let negotiation ← Oxrdp.decode NegotiationRequest.decode rest
    pure { cookie, negotiation := some negotiation }

def decode : Decoder ConnectionRequest := do
  let variableLen ← decodeTpduHeader "X.224 CR" crCdt "expected CR-CDT 0xE0"
  readPart variableLen "X.224 CR variable part" decodeVariable

/-- The bytes of the variable part. -/
def variableBytes (m : ConnectionRequest) : List UInt8 :=
  m.cookie.elim [] (fun c => cookiePrefix ++ (strBytes c ++ crlf)) ++
    m.negotiation.elim [] NegotiationRequest.bytes

/-- Cookie and request are written one after the other. -/
theorem encodeVariable_emits (m : ConnectionRequest) :
    Emits m.encodeVariable m.variableBytes := by
  obtain ⟨cookie, negotiation⟩ := m
  have hnego : Emits (encodeNegotiation negotiation)
      (negotiation.elim [] NegotiationRequest.bytes) := by
    cases negotiation with
    | none => exact Emits.pure
    | some n => exact n.emits
  have hcookie : Emits (encodeCookie cookie)
      (cookie.elim [] fun c => cookiePrefix ++ (strBytes c ++ crlf)) := by
    cases cookie with
    | none => exact Emits.pure
    | some c =>
        exact (writeSlice_emits cookiePrefix _).bind
          ((writeSlice_emits (strBytes c) _).bind (writeSlice_emits crlf _))
  exact hcookie.bind hnego

/-- They are as long as the request says. -/
theorem variableBytes_length (m : ConnectionRequest) :
    m.variableBytes.length = m.variableSize := by
  obtain ⟨cookie, negotiation⟩ := m
  have hnego : (negotiation.elim [] NegotiationRequest.bytes).length =
      negotiation.elim 0 NegotiationRequest.size := by
    cases negotiation with
    | none => rfl
    | some n => simp [NegotiationRequest.bytes, negoBytes, NegotiationRequest.size, rdpNegLen]
  rw [variableBytes, variableSize, List.length_append, hnego]
  cases cookie with
  | none => rfl
  | some c =>
      simp only [Option.elim_some, List.length_append, strBytes_length]
      rfl

/-- The first CR LF is the terminator when there is none in front of it. -/
theorem crlfPos_of_free {xs : List UInt8} (h : ¬ crlf <:+: xs) (rest : List UInt8) :
    crlfPos (xs ++ (crlf ++ rest)) = some xs.length := by
  induction xs with
  | nil => rfl
  | cons b tail ih =>
      have htail : ¬ crlf <:+: tail := by
        intro hin
        exact h (hin.trans (List.suffix_cons b tail).isInfix)
      rw [List.cons_append, crlfPos, ih htail]
      · rfl
      · intro after hb hafter
        cases tail with
        | nil =>
            have hhead : (0x0D : UInt8) = 0x0A := (List.cons.inj hafter).1
            exact absurd hhead (by decide)
        | cons c tail =>
            have hc : c = 0x0A := (List.cons.inj hafter).1
            apply h
            rw [hb, hc]
            exact ⟨[], tail, rfl⟩

/-- Where there is a CR LF in front, the first one is there. -/
theorem crlfPos_of_infix {xs : List UInt8} (h : crlf <:+: xs) (rest : List UInt8) :
    ∃ pos, crlfPos (xs ++ rest) = some pos ∧ pos < xs.length ∧ xs[pos]? = some 0x0D := by
  obtain ⟨before, after, hxs⟩ := h
  induction before generalizing xs with
  | nil =>
      subst hxs
      exact ⟨0, rfl, by simp [crlf], rfl⟩
  | cons b before ih =>
      subst hxs
      obtain ⟨pos, hpos, hlt, hget⟩ := ih rfl
      rw [List.cons_append, List.cons_append, List.cons_append]
      by_cases hhere : b = 0x0D ∧ (before ++ crlf ++ after).head? = some 0x0A
      · refine ⟨0, ?_, by simp, by simp [hhere.1]⟩
        obtain ⟨tail, htail⟩ := List.head?_eq_some_iff.mp hhere.2
        rw [htail, hhere.1]
        rfl
      · refine ⟨pos + 1, ?_, by simpa using hlt, by simpa using hget⟩
        rw [crlfPos, hpos]
        · rfl
        · intro tail hb htail
          apply hhere
          refine ⟨hb, ?_⟩
          cases hbefore : before ++ crlf ++ after with
          | nil =>
              simp [crlf] at hbefore
          | cons c more =>
              rw [hbefore] at htail
              rw [List.head?_cons]
              exact congrArg some (List.cons.inj htail).1

/-- The identifier holds no terminator of its own. -/
def Terminated (m : ConnectionRequest) : Prop :=
  ∀ c ∈ m.cookie, ¬ crlf <:+: strBytes c

/-- A cookie is split at the first line end, which may be inside it. -/
theorem splitCookie_cookie (c : String) (rest : List UInt8) :
    splitCookie (cookiePrefix ++ (strBytes c ++ crlf) ++ rest) =
      match crlfPos (strBytes c ++ (crlf ++ rest)) with
      | none => .error (.invalidField "X.224 CR" "cookie" "missing CR LF terminator")
      | some pos => .ok (some (fromUtf8Lossy ((strBytes c ++ (crlf ++ rest)).take pos)),
          (strBytes c ++ (crlf ++ rest)).drop (pos + 2)) := by
  have hall : cookiePrefix ++ (strBytes c ++ crlf) ++ rest =
      cookiePrefix ++ (strBytes c ++ (crlf ++ rest)) := by
    simp only [List.append_assoc]
  have hpre : cookiePrefix.isPrefixOf (cookiePrefix ++ (strBytes c ++ (crlf ++ rest))) = true :=
    List.isPrefixOf_iff_prefix.mpr (List.prefix_append _ _)
  rw [hall, splitCookie, if_pos hpre, List.drop_left]

/-- The cookie is split off where it ends, and what follows is left. -/
theorem splitCookie_variable {m : ConnectionRequest} (h : m.Terminated) :
    splitCookie m.variableBytes =
      .ok (m.cookie, m.negotiation.elim [] NegotiationRequest.bytes) := by
  obtain ⟨cookie, negotiation⟩ := m
  cases cookie with
  | none =>
      cases negotiation with
      | none => rfl
      | some n => rfl
  | some c =>
      have hfree : ¬ crlf <:+: strBytes c := h c rfl
      rw [variableBytes, Option.elim_some, splitCookie_cookie, crlfPos_of_free hfree]
      have htake : ∀ rest, (strBytes c ++ (crlf ++ rest)).take (strBytes c).length =
          strBytes c := fun rest => List.take_left
      have hdrop : ∀ rest, (strBytes c ++ (crlf ++ rest)).drop ((strBytes c).length + 2) =
          rest := by
        intro rest
        rw [← List.drop_drop, List.drop_left]
        rfl
      simp only [htake, hdrop, fromUtf8Lossy_strBytes]

/-- What was written is read back, if the cookie has no line end. -/
theorem decodeVariable_bytes {m : ConnectionRequest} (h : m.Terminated) :
    decodeVariable m.variableBytes = .ok m := by
  rw [decodeVariable, splitCookie_variable h]
  obtain ⟨cookie, negotiation⟩ := m
  cases negotiation with
  | none => rfl
  | some n =>
      change (do
        let negotiation ← Oxrdp.decode NegotiationRequest.decode n.bytes
        pure ({ cookie, negotiation := some negotiation } : ConnectionRequest)) = _
      rw [n.decode_bytes]
      rfl

/-- The cookie that is returned is the one that was split off. -/
theorem decodeVariable_cookie {sub : List UInt8} {m : ConnectionRequest}
    (h : decodeVariable sub = .ok m) : ∃ rest, splitCookie sub = .ok (m.cookie, rest) := by
  unfold decodeVariable at h
  cases hsplit : splitCookie sub with
  | error e =>
      rw [hsplit] at h
      cases h
  | ok parts =>
      obtain ⟨cookie, rest⟩ := parts
      rw [hsplit] at h
      refine ⟨rest, ?_⟩
      change (if rest.isEmpty then pure { cookie, negotiation := none } else do
        let negotiation ← Oxrdp.decode NegotiationRequest.decode rest
        pure { cookie, negotiation := some negotiation } : DecodeResult _) = .ok m at h
      split at h
      next =>
        cases h
        rfl
      next =>
        cases hnego : Oxrdp.decode NegotiationRequest.decode rest with
        | error e =>
            rw [hnego] at h
            cases h
        | ok n =>
            rw [hnego] at h
            cases h
            rfl

/-- An identifier with a CR LF in it comes back cut, if it comes back at all. -/
theorem decodeVariable_cut {m : ConnectionRequest} (h : ¬ m.Terminated) :
    decodeVariable m.variableBytes ≠ .ok m := by
  obtain ⟨cookie, negotiation⟩ := m
  cases cookie with
  | none => exact absurd (fun c hc => by cases hc) h
  | some c =>
      have hin : crlf <:+: strBytes c := by
        by_contra hfree
        apply h
        intro c' hc'
        cases hc'
        exact hfree
      intro hback
      obtain ⟨rest, hsplit⟩ := decodeVariable_cookie hback
      rw [variableBytes, Option.elim_some, splitCookie_cookie] at hsplit
      obtain ⟨pos, hpos, hlt, hget⟩ :=
        crlfPos_of_infix hin (crlf ++ negotiation.elim [] NegotiationRequest.bytes)
      -- the cut is text again, and shorter than the identifier
      obtain ⟨cut, hcut, hbytes⟩ := strFromUtf8_take hget (by decide)
      have hfound : fromUtf8Lossy ((strBytes c).take pos) = cut := by
        rw [fromUtf8Lossy, hcut]
        rfl
      simp only [hpos] at hsplit
      rw [List.take_append_of_le_length (Nat.le_of_lt hlt), hfound] at hsplit
      have hcookie : cut = c := Option.some.inj (Prod.mk.inj (Except.ok.inj hsplit)).1
      have hlen := congrArg List.length hbytes
      rw [hcookie, List.length_take] at hlen
      omega

/-- They are written in full, or not at all. -/
theorem encodeVariable_writes (m : ConnectionRequest) :
    Writes m.encodeVariable m.variableSize := by
  obtain ⟨cookie, negotiation⟩ := m
  have hnego : Writes (encodeNegotiation negotiation)
      (negotiation.elim 0 NegotiationRequest.size) := by
    cases negotiation with
    | none => exact Writes.pure
    | some n => exact n.coded.writes
  have hcookie : Writes (encodeCookie cookie)
      (cookie.elim 0 fun c => cookiePrefix.length + c.utf8ByteSize + 2) := by
    cases cookie with
    | none => exact Writes.pure
    | some c =>
        have hc := writeSlice_writes (strBytes c) "X.224 CR cookie identifier"
        rw [strBytes_length] at hc
        exact ((writeSlice_writes cookiePrefix _).bind
          (hc.bind (writeSlice_writes crlf _))).of_eq (by simp [crlf]; omega)
  exact hcookie.bind hnego

/-- What an encoded request is decoded to. -/
theorem encodeVec_decode {m : ConnectionRequest} {body : List UInt8}
    (h : encodeVec m.size m.encode = .ok body) :
    body.length = m.size ∧
      (∃ t, m.encode.run (Tape.start (List.replicate m.size 0)) = .ok ((), t) ∧ t.todo = []) ∧
      Oxrdp.decode decode body = decodeVariable m.variableBytes := by
  have hlen := m.variableBytes_length
  have hsize : m.size = 7 + m.variableBytes.length := by rw [hlen]; rfl
  have hheader := encodeTpduHeader_coded "X.224 CR" crCdt m.variableSize "expected CR-CDT 0xE0"
  have hwrites := m.encodeVariable_writes
  rw [← hlen] at hheader hwrites
  rw [hsize] at h ⊢
  rw [encode, ← hlen] at h ⊢
  exact encodeVec_part hheader m.encodeVariable_emits hwrites _ decodeVariable h

/-- An encoded request has its own code in the second byte. -/
theorem encodeVec_second {m : ConnectionRequest} {body : List UInt8}
    (h : encodeVec m.size m.encode = .ok body) : body[1]? = some crCdt :=
  decodeTpduHeader_second (encodeVec_starts
    (encodeTpduHeader_coded "X.224 CR" crCdt m.variableSize "expected CR-CDT 0xE0")
    m.encodeVariable_writes h)

end ConnectionRequest

/-! ## The Connection Confirm -/

/-- The outcome that a Connection Confirm carries. -/
inductive NegotiationConfirm where
  | response (r : NegotiationResponse)
  | failure (f : NegotiationFailure)
  deriving DecidableEq, Repr

namespace NegotiationConfirm

def size : NegotiationConfirm → Nat
  | response r => r.size
  | failure f => f.size

def encode : NegotiationConfirm → Encoder Unit
  | response r => r.encode
  | failure f => f.encode

/-- The block that the first byte announces. -/
def decode (typ : UInt8) : Decoder NegotiationConfirm :=
  if typ = 0x02 then do
    let r ← NegotiationResponse.decode
    pure (response r)
  else if typ = 0x03 then do
    let f ← NegotiationFailure.decode
    pure (failure f)
  else
    throw (.invalidField "X.224 CC" "negotiation type" "expected 0x02 or 0x03")

def bytes : NegotiationConfirm → List UInt8
  | response r => negoBytes typeNegRsp r.flags r.selectedProtocol
  | failure f => negoBytes typeNegFailure 0 f.failureCode

/-- A confirm is written as these bytes. -/
theorem emits (m : NegotiationConfirm) : Emits m.encode m.bytes := by
  cases m with
  | response r => exact encodeNego_emits typeNegRsp r.flags r.selectedProtocol _
  | failure f => exact encodeNego_emits typeNegFailure 0 f.failureCode _

/-- A confirm comes back, decoded by the type that it begins with. -/
theorem coded (m : NegotiationConfirm) :
    Coded m.encode m.size (decode (m.bytes.headD 0)) m := by
  cases m with
  | response r => exact r.coded.map response
  | failure f => exact f.coded.map failure

end NegotiationConfirm

structure ConnectionConfirm where
  negotiation : Option NegotiationConfirm
  deriving DecidableEq, Repr

namespace ConnectionConfirm

def variableSize (m : ConnectionConfirm) : Nat :=
  m.negotiation.elim 0 NegotiationConfirm.size

def size (m : ConnectionConfirm) : Nat := 1 + fixedHeaderLen + m.variableSize

def encodeNegotiation : Option NegotiationConfirm → Encoder Unit
  | some negotiation => negotiation.encode
  | none => pure ()

def encode (m : ConnectionConfirm) : Encoder Unit := do
  encodeTpduHeader "X.224 CC" ccCdt m.variableSize
  encodeNegotiation m.negotiation

/-- Read the variable part: its first byte is looked at, not consumed. -/
def decodeVariable (sub : List UInt8) : DecodeResult ConnectionConfirm :=
  match sub with
  | [] => pure { negotiation := none }
  | typ :: _ => do
      let negotiation ← Oxrdp.decode (NegotiationConfirm.decode typ) sub
      pure { negotiation := some negotiation }

def decode : Decoder ConnectionConfirm := do
  let variableLen ← decodeTpduHeader "X.224 CC" ccCdt "expected CC-CDT 0xD0"
  readPart variableLen "X.224 CC variable part" decodeVariable

/-- An encoded confirm is read back. -/
theorem encodeVec_decode {m : ConnectionConfirm} {body : List UInt8}
    (h : encodeVec m.size m.encode = .ok body) :
    body.length = m.size ∧
      (∃ t, m.encode.run (Tape.start (List.replicate m.size 0)) = .ok ((), t) ∧ t.todo = []) ∧
      Oxrdp.decode decode body = .ok m := by
  obtain ⟨negotiation⟩ := m
  cases negotiation with
  | none =>
      have hheader := encodeTpduHeader_coded "X.224 CC" ccCdt 0 "expected CC-CDT 0xD0"
      exact encodeVec_part hheader Emits.pure Writes.pure _ decodeVariable h
  | some n =>
      have hemits := n.emits
      have hwrites := n.coded.writes
      have hlen := hemits.length_eq hwrites
      have hheader := encodeTpduHeader_coded "X.224 CC" ccCdt n.size "expected CC-CDT 0xD0"
      have hblock : Oxrdp.decode (NegotiationConfirm.decode (n.bytes.headD 0)) n.bytes = .ok n :=
        decode_of_parses (n.coded.roundTrip.parses_emitted hemits)
      have hback : decodeVariable n.bytes = .ok ⟨some n⟩ := by
        have hvar : decodeVariable n.bytes = (do
            let negotiation ←
              Oxrdp.decode (NegotiationConfirm.decode (n.bytes.headD 0)) n.bytes
            pure { negotiation := some negotiation }) := by
          cases n with
          | response r => rfl
          | failure f => rfl
        rw [hvar, hblock]
        rfl
      rw [← hlen] at hheader hwrites
      have hsize : (⟨some n⟩ : ConnectionConfirm).size = 7 + n.bytes.length := by
        rw [hlen]
        rfl
      rw [hsize] at h ⊢
      have henc : (⟨some n⟩ : ConnectionConfirm).encode =
          encodeTpduHeader "X.224 CC" ccCdt n.bytes.length >>= fun _ => n.encode := by
        rw [hlen]
        rfl
      rw [henc] at h ⊢
      rw [← hback]
      exact encodeVec_part hheader hemits hwrites _ decodeVariable h

end ConnectionConfirm

end Oxrdp
