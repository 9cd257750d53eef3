import Oxrdp.Pdu.Counted
import Oxrdp.Pdu.DomainParams
import Oxrdp.Pdu.Gcc

/-!
# The MCS Connect-Initial PDU

`connect_initial.rs`: the three client blocks inside a GCC Conference Create Request
inside the MCS Connect-Initial envelope.  The envelope has BER lengths, the request has
two PER lengths of fifteen bits, and neither is checked against what it can hold.

`follow` is a reader that follows every length of the PDU.  It gets the blocks back up
to 2709 channels; from there on the outer PER length is too small, although the block
itself can list 5460.
-/

namespace Oxrdp

open Coder

structure ConnectInitial where
  core : ClientCoreData
  security : ClientSecurityData
  network : ClientNetworkData
  deriving DecidableEq

namespace ConnectInitial

/-- The three client blocks. -/
def userData (m : ConnectInitial) : EncodeResult (List UInt8) := do
  let core ← encodeVec m.core.size m.core.encode
  let security ← encodeVec m.security.size m.security.encode
  let network ← encodeVec m.network.size m.network.encode
  pure (core ++ security ++ network)

/-- The T.124 object identifier. -/
def conferenceOid : List UInt8 := [0x00, 0x05, 0x00, 0x14, 0x7C, 0x00, 0x01]

/-- What stands in front of the second length: the fixed part of the create request and
the client's H.221 key, `Duca`. -/
def createPrefix : List UInt8 :=
  [0x00, 0x08, 0x00, 0x10, 0x00, 0x01, 0xC0, 0x00, 0x44, 0x75, 0x63, 0x61]

/-- What the second length and the user data are. -/
def createRequest (userData : List UInt8) : List UInt8 :=
  createPrefix ++ (perBytes userData.length ++ userData)

/-- The GCC Conference Create Request. -/
def gcc (userData : List UInt8) : List UInt8 :=
  conferenceOid ++ (perBytes (userData.length + 14) ++ createRequest userData)

/-- Encode the Connect-Initial PDU to bytes. -/
def toBytes (m : ConnectInitial) : EncodeResult (List UInt8) := do
  let userData ← m.userData
  let target ← encodeVec DomainParameters.target.size DomainParameters.target.encode
  let minimum ← encodeVec DomainParameters.minimum.size DomainParameters.minimum.encode
  let maximum ← encodeVec DomainParameters.maximum.size DomainParameters.maximum.encode
  let body := [0x04, 0x01, 0x01] ++ ([0x04, 0x01, 0x01] ++ ([0x01, 0x01, 0xFF] ++
    (target ++ (minimum ++ (maximum ++
      (0x04 :: (berBytes (gcc userData).length ++ gcc userData)))))))
  pure ([0x7F, 0x65] ++ (berBytes body.length ++ body))

/-! ## Following the lengths -/

def ctx : String := "MCS Connect-Initial"

/-- The application tag of the PDU and its body. -/
def readEnvelope : Decoder (List UInt8) := do
  expectU8 0x7F ctx (.invalidField ctx "tag" "expected 0x7F 0x65")
  readTlv 0x65 ctx

/-- The three sets of domain parameters and the GCC request. -/
def readBody : Decoder (List (List UInt8) × List UInt8) := do
  let _callingDomain ← readTlv 0x04 ctx
  let _calledDomain ← readTlv 0x04 ctx
  let _upwardFlag ← readTlv 0x01 ctx
  let parameters ← readMany (readTlv 0x30 ctx) 3
  let gcc ← readTlv 0x04 ctx
  pure (parameters, gcc)

/-- A PER length behind some bytes that are the same in every request. -/
def readLengthBehind (n : Nat) : Decoder Nat := do
  let _fixed ← readSlice n ctx
  perReadLength ctx

def readBehind (n : Nat) : Decoder (List UInt8) :=
  readCounted (readLengthBehind n) ctx

def readBlocks : Decoder ConnectInitial := do
  let core ← ClientCoreData.decode
  let security ← ClientSecurityData.decode
  let network ← ClientNetworkData.decode
  pure { core, security, network }

/-- What a reader finds that follows the lengths. -/
structure Followed where
  parameters : List (List UInt32)
  userData : List UInt8
  blocks : ConnectInitial
  deriving DecidableEq

/-- The user data of a GCC request. -/
def followGcc (gcc : List UInt8) : DecodeResult (List UInt8) := do
  let request ← decodeAll (readBehind 7) gcc
  decodeAll (readBehind 12) request

/-- The integers of each set of domain parameters. -/
def followParameters (contents : List (List UInt8)) : DecodeResult (List (List UInt32)) :=
  contents.mapM (decodeAll (readMany (readInteger ctx) 8))

/-- Every length has to end where the part ends that it stands in. -/
def follow (bytes : List UInt8) : DecodeResult Followed := do
  let body ← decodeAll readEnvelope bytes
  let parts ← decodeAll readBody body
  let parameters ← followParameters parts.1
  let userData ← followGcc parts.2
  let blocks ← decodeAll readBlocks userData
  pure { parameters, userData, blocks }

/-- What there is to find. -/
def contents (m : ConnectInitial) (userData : List UInt8) : Followed :=
  { parameters := [DomainParameters.target.fields, DomainParameters.minimum.fields,
      DomainParameters.maximum.fields]
    userData
    blocks := m }

/-! ## What is found -/

/-- The blocks have a size that depends on the number of channels, of which there are at
most 5460, and can be read back. -/
theorem userData_spec {m : ConnectInitial} {ud : List UInt8} (h : m.userData = .ok ud) :
    ud.length = 236 + 12 * m.network.channels.length ∧ m.network.channels.length ≤ 5460 ∧
      decodeAll readBlocks ud = .ok m := by
  unfold userData at h
  cases hcore : encodeVec m.core.size m.core.encode with
  | error e =>
      rw [hcore] at h
      cases h
  | ok core =>
      cases hsecurity : encodeVec m.security.size m.security.encode with
      | error e =>
          rw [hcore, hsecurity] at h
          cases h
      | ok security =>
          cases hnetwork : encodeVec m.network.size m.network.encode with
          | error e =>
              rw [hcore, hsecurity, hnetwork] at h
              cases h
          | ok network =>
              rw [hcore, hsecurity, hnetwork] at h
              cases h
              obtain ⟨hclen, -, hcparse⟩ := encodeVec_parses m.core.coded hcore
              obtain ⟨hslen, -, hsparse⟩ := encodeVec_parses m.security.coded hsecurity
              obtain ⟨hnlen, ⟨t, hrun, -⟩, hnparse⟩ :=
                encodeVec_parses m.network.coded hnetwork
              refine ⟨?_, ClientNetworkData.encode_fits hrun, ?_⟩
              · rw [List.length_append, List.length_append, hclen, hslen, hnlen]
                simp only [ClientCoreData.size, ClientCoreData.csCoreLen,
                  ClientSecurityData.size, ClientNetworkData.size]
                omega
              · have hlast : Parses (do
                    let network ← ClientNetworkData.decode
                    pure ({ m with network } : ConnectInitial)) network m :=
                  hnparse.last (Parses.pure m)
                have hall := hcparse.bind (k := fun core => do
                    let security ← ClientSecurityData.decode
                    let network ← ClientNetworkData.decode
                    pure ({ core, security, network } : ConnectInitial))
                  (hsparse.bind hlast)
                rw [← List.append_assoc] at hall
                exact decodeAll_of_parses hall

/-- The contents of a set of domain parameters. -/
def parameterContent (m : DomainParameters) : List UInt8 :=
  m.fields.flatMap fun v => 0x02 :: (berBytes (integerContent v).length ++ integerContent v)

/-- The target parameters as they are written. -/
theorem target_bytes :
    encodeVec DomainParameters.target.size DomainParameters.target.encode =
      .ok (0x30 :: (berBytes (parameterContent .target).length ++ parameterContent .target)) :=
  rfl

/-- The minimum parameters as they are written. -/
theorem minimum_bytes :
    encodeVec DomainParameters.minimum.size DomainParameters.minimum.encode =
      .ok (0x30 :: (berBytes (parameterContent .minimum).length ++ parameterContent .minimum)) :=
  rfl

/-- The maximum parameters as they are written. -/
theorem maximum_bytes :
    encodeVec DomainParameters.maximum.size DomainParameters.maximum.encode =
      .ok (0x30 :: (berBytes (parameterContent .maximum).length ++ parameterContent .maximum)) :=
  rfl

/-- A tag, a BER length and what it counts. -/
def tlv (tag : UInt8) (content : List UInt8) : List UInt8 :=
  tag :: (berBytes content.length ++ content)

/-- The contents of the three sets of domain parameters. -/
def parameterContents : List (List UInt8) :=
  [parameterContent .target, parameterContent .minimum, parameterContent .maximum]

/-- The body of the PDU around a GCC request. -/
def body (gcc : List UInt8) : List UInt8 :=
  tlv 0x04 [0x01] ++ (tlv 0x04 [0x01] ++ (tlv 0x01 [0xFF] ++
    (parameterContents.flatMap (tlv 0x30) ++ tlv 0x04 gcc)))

/-- The parts of the body in the order `toBytes` writes them. -/
theorem body_eq (gcc : List UInt8) :
    body gcc = [0x04, 0x01, 0x01] ++ ([0x04, 0x01, 0x01] ++ ([0x01, 0x01, 0xFF] ++
      (tlv 0x30 (parameterContent .target) ++ (tlv 0x30 (parameterContent .minimum) ++
        (tlv 0x30 (parameterContent .maximum) ++ tlv 0x04 gcc))))) := by
  have hselector : tlv 0x04 [0x01] = [0x04, 0x01, 0x01] := rfl
  have hflag : tlv 0x01 [0xFF] = [0x01, 0x01, 0xFF] := rfl
  rw [body, hselector, hflag]
  simp only [parameterContents, List.flatMap_cons, List.flatMap_nil, List.append_nil,
    List.append_assoc]

/-- What is written, if the user data can be. -/
theorem toBytes_eq {m : ConnectInitial} {ud : List UInt8} (h : m.userData = .ok ud) :
    m.toBytes = .ok ([0x7F] ++ tlv 0x65 (body (gcc ud))) := by
  rw [toBytes, h, target_bytes, minimum_bytes, maximum_bytes, body_eq]
  simp only [Checked.bind_ok, tlv, List.append_assoc, List.cons_append, List.nil_append]
  rfl

/-- What was written has user data. -/
theorem toBytes_ok {m : ConnectInitial} {bytes : List UInt8} (h : m.toBytes = .ok bytes) :
    ∃ ud, m.userData = .ok ud := by
  cases hud : m.userData with
  | error e =>
      rw [toBytes, hud] at h
      cases h
  | ok ud => exact ⟨ud, rfl⟩

/-- The parts of the body are read back. -/
theorem readBody_parses {gcc : List UInt8} (h : gcc.length < 2 ^ 32) :
    Parses readBody (body gcc) (parameterContents, gcc) := by
  have hshort : ∀ c ∈ parameterContents, c.length < 2 ^ 32 := by decide
  have hparameters : Parses (readMany (readTlv 0x30 ctx) 3)
      (parameterContents.flatMap (tlv 0x30)) parameterContents :=
    Parses.many fun c hc => readTlv_parses 0x30 (hshort c hc) ctx
  have hgcc : Parses (do
      let gcc ← readTlv 0x04 ctx
      pure (parameterContents, gcc)) (tlv 0x04 gcc) (parameterContents, gcc) :=
    (readTlv_parses 0x04 h ctx).last (Parses.pure (parameterContents, gcc))
  have hone : ([0x01] : List UInt8).length < 2 ^ 32 := by decide
  have hflag : ([0xFF] : List UInt8).length < 2 ^ 32 := by decide
  refine (readTlv_parses 0x04 hone ctx).bind ?_
  refine (readTlv_parses 0x04 hone ctx).bind ?_
  refine (readTlv_parses 0x01 hflag ctx).bind ?_
  exact hparameters.bind hgcc

/-- The message is read back in its envelope. -/
theorem readEnvelope_parses {body : List UInt8} (h : body.length < 2 ^ 32) :
    Parses readEnvelope ([0x7F] ++ tlv 0x65 body) body :=
  (expectU8_parses 0x7F ctx _).bind (readTlv_parses 0x65 h ctx)

/-- The request is 14 bytes longer than its user data, if these are long. -/
theorem createRequest_length {ud : List UInt8} (h : 0x80 ≤ ud.length) :
    (createRequest ud).length = ud.length + 14 := by
  have hper := perBytes_length ud.length
  rw [perLengthSize, if_neg (by omega)] at hper
  rw [createRequest, List.length_append, List.length_append, hper]
  simp only [createPrefix, List.length_cons, List.length_nil]
  omega

/-- The length behind a fixed part is read as fifteen bits. -/
theorem readLengthBehind_parses (fixed : List UInt8) (len : Nat) :
    Parses (readLengthBehind fixed.length) (fixed ++ perBytes len)
      (if len < 0x80 then len else len % 0x8000) :=
  (readSlice_parses fixed ctx).bind (perReadLength_parses len ctx)

/-- What a length behind a fixed part counts is found, and nothing else, as long as
fifteen bits are enough. -/
theorem readBehind_iff (fixed xs ys : List UInt8) :
    decodeAll (readBehind fixed.length) (fixed ++ (perBytes xs.length ++ xs)) = .ok ys ↔
      xs = ys ∧ xs.length < 0x8000 := by
  have hlength := readLengthBehind_parses fixed xs.length
  rw [← List.append_assoc]
  by_cases hfit : xs.length < 0x8000
  · have hvalue : (if xs.length < 0x80 then xs.length else xs.length % 0x8000) = xs.length := by
      split
      next => rfl
      next => exact Nat.mod_eq_of_lt hfit
    rw [hvalue] at hlength
    rw [readBehind, decodeAll_of_parses (readCounted_parses hlength ctx)]
    constructor
    · intro hall
      exact ⟨Except.ok.inj hall, hfit⟩
    · rintro ⟨rfl, -⟩
      rfl
  · have hsmall : xs.length % 0x8000 < xs.length := by
      have hlt := Nat.mod_lt xs.length (y := 0x8000) (by omega)
      omega
    rw [if_neg (by omega)] at hlength
    constructor
    · intro hall
      exact absurd hall (decodeAll_short hlength hsmall ctx ys)
    · rintro ⟨-, hlt⟩
      exact absurd hlt hfit

/-- The three sets of parameters are read back. -/
theorem followParameters_contents :
    followParameters parameterContents = .ok [DomainParameters.target.fields,
      DomainParameters.minimum.fields, DomainParameters.maximum.fields] := by
  decide +kernel

/-- The GCC part is 23 bytes longer than the user data. -/
theorem gcc_length {ud : List UInt8} (h : 0x80 ≤ ud.length) :
    (gcc ud).length = ud.length + 23 := by
  have hper := perBytes_length (ud.length + 14)
  rw [perLengthSize, if_neg (by omega)] at hper
  rw [gcc, List.length_append, List.length_append, hper, createRequest_length h]
  simp only [conferenceOid, List.length_cons, List.length_nil]
  omega

/-- The user data are found iff the outer of the two lengths fits: the inner one is
smaller. -/
theorem followGcc_iff {ud : List UInt8} (h : 0x80 ≤ ud.length) (ys : List UInt8) :
    followGcc (gcc ud) = .ok ys ↔ ud = ys ∧ ud.length + 14 < 0x8000 := by
  have hlen := createRequest_length h
  have houter := readBehind_iff conferenceOid (createRequest ud)
  have hinner := readBehind_iff createPrefix ud ys
  rw [hlen] at houter
  constructor
  · intro hall
    cases hrequest : decodeAll (readBehind 7) (gcc ud) with
    | error e =>
        rw [followGcc, hrequest] at hall
        cases hall
    | ok request =>
        obtain ⟨hsame, hfit⟩ := (houter request).mp hrequest
        rw [followGcc, hrequest, Checked.bind_ok, ← hsame] at hall
        exact ⟨(hinner.mp hall).1, hfit⟩
  · rintro ⟨hsame, hfit⟩
    have hrequest : decodeAll (readBehind 7) (gcc ud) = .ok (createRequest ud) :=
      (houter _).mpr ⟨rfl, hfit⟩
    rw [followGcc, hrequest, Checked.bind_ok]
    exact hinner.mpr ⟨hsame, by omega⟩

/-- The body is little longer than the GCC part. -/
theorem body_length (gcc : List UInt8) : (body gcc).length ≤ gcc.length + 200 := by
  have hber : (berBytes gcc.length).length ≤ 9 := by
    have hle := (List.dropWhile_sublist (l := beBytes 8 gcc.length) (· = 0)).length_le
    rw [beBytes_length] at hle
    rw [berBytes]
    split
    next => simp
    next =>
      rw [List.length_cons, minimalBe]
      omega
  have hfixed : (parameterContents.flatMap (tlv 0x30)).length ≤ 100 := by decide +kernel
  simp only [body, tlv, List.length_append, List.length_cons, List.length_nil] at hfixed ⊢
  have hone : (berBytes (0 + 1)).length = 1 := rfl
  omega

/-- **The reader that follows the lengths finds the blocks iff there are at most 2709
channels.** -/
theorem follow_iff {m : ConnectInitial} {ud bytes : List UInt8} (hud : m.userData = .ok ud)
    (h : m.toBytes = .ok bytes) :
    follow bytes = .ok (m.contents ud) ↔ m.network.channels.length ≤ 2709 := by
  obtain ⟨hlen, hmany, hblocks⟩ := userData_spec hud
  have hgcc : (gcc ud).length = ud.length + 23 := gcc_length (by omega)
  have hbody := body_length (gcc ud)
  rw [toBytes_eq hud] at h
  cases h
  have hopen : follow ([0x7F] ++ tlv 0x65 (body (gcc ud))) =
      followGcc (gcc ud) >>= fun userData =>
        decodeAll readBlocks userData >>= fun blocks =>
          .ok { m.contents userData with blocks } := by
    rw [follow, decodeAll_of_parses (readEnvelope_parses (by omega)), Checked.bind_ok,
      decodeAll_of_parses (readBody_parses (by omega)), Checked.bind_ok, followParameters_contents,
      Checked.bind_ok]
    rfl
  rw [hopen]
  constructor
  · intro hall
    cases hfound : followGcc (gcc ud) with
    | error e =>
        rw [hfound] at hall
        cases hall
    | ok ys =>
        have hfit := ((followGcc_iff (by omega) ys).mp hfound).2
        omega
  · intro hfew
    rw [(followGcc_iff (by omega) ud).mpr ⟨rfl, by omega⟩, Checked.bind_ok, hblocks,
      Checked.bind_ok]
    rfl

end ConnectInitial

end Oxrdp
