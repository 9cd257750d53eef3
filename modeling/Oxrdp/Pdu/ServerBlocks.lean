import Oxrdp.Lib.Checked
import Oxrdp.Pdu.ConnectResponse
import Oxrdp.Pdu.Counted

/-!
# Responses with any server blocks

The builder of the tests of `connect_response.rs`, for any result code and any list of server
blocks: what `fromBytes` makes of its responses.  A block is core data, network data or of a
type that is not looked at.

The second part is the loop over the blocks as the code has it, with an offset into the slice
and indices that are checked.
-/

namespace Oxrdp

open Coder

/-! ## The builder -/

/-- `ber_len`: the bytes of a number, most significant first, in front of some others. -/
def berLoop (v : Nat) (b : List UInt8) : List UInt8 :=
  if v = 0 then b else berLoop (v >>> (8 : Nat)) (UInt8.ofNat (v &&& (0xFF : Nat)) :: b)
termination_by v
decreasing_by
  rw [Nat.shiftRight_eq_div_pow]
  omega

def berLen (len : Nat) : List UInt8 :=
  if len < 0x80 then [UInt8.ofNat len]
  else
    let b := berLoop len []
    (0x80 ||| UInt8.ofNat b.length) :: b

/-- A server block. -/
inductive ServerBlock where
  | core (core : ServerCoreData)
  | network (network : ServerNetworkData)
  | other (typ : UInt16) (content : List UInt8) (htyp : typ ≠ 0x0C01 ∧ typ ≠ 0x0C03)
      (hlen : 4 + content.length < 2 ^ 16)

namespace ServerBlock

def size : ServerBlock → Nat
  | core m => m.size
  | network m => m.size
  | other _ content _ _ => 4 + content.length

def encode : ServerBlock → EncodeResult (List UInt8)
  | core m => encodeVec m.size m.encode
  | network m => encodeVec m.size m.encode
  | other typ content _ _ =>
      .ok (leBytes 2 typ.toNat ++ (leBytes 2 (4 + content.length) ++ content))

def typ : ServerBlock → UInt16
  | core _ => 0x0C01
  | network _ => 0x0C03
  | other typ _ _ _ => typ

def core? : ServerBlock → Option ServerCoreData
  | core m => some m
  | _ => none

def network? : ServerBlock → Option ServerNetworkData
  | network m => some m
  | _ => none

end ServerBlock

/-- The GCC Conference Create Response of `build_response`.  `per_len` is the same as
`per_append_length` of the client. -/
def gccResponse (blocks : List UInt8) : List UInt8 :=
  [0x00, 0x05, 0x00, 0x14, 0x7C, 0x00, 0x01] ++ (perBytes (blocks.length + 14) ++
    ([0x2A, 0x14, 0x76, 0x0A, 0x01, 0x01, 0x00, 0x01, 0xC0, 0x00] ++
      (ConnectResponse.mcdn ++ (perBytes blocks.length ++ blocks))))

/-- The result, a called connect id of zero, no domain parameters and the user data. -/
def responseBody (result : UInt8) (gcc : List UInt8) : List UInt8 :=
  [0x0A, 0x01, result] ++ ([0x02, 0x01, 0x00] ++ ([0x30, 0x00] ++
    (0x04 :: (berLen gcc.length ++ gcc))))

/-- `build_response`, with the result and the blocks as arguments. -/
def buildResponse (result : UInt8) (blocks : List ServerBlock) : EncodeResult (List UInt8) := do
  let parts ← blocks.mapM ServerBlock.encode
  let body := responseBody result (gccResponse parts.flatten)
  pure ([0x7F, 0x66] ++ (berLen body.length ++ body))

/-- The core data of the last block that has some. -/
def lastCore (blocks : List ServerBlock) : Option ServerCoreData :=
  (blocks.filterMap ServerBlock.core?).getLast?

def lastNetwork (blocks : List ServerBlock) : Option ServerNetworkData :=
  (blocks.filterMap ServerBlock.network?).getLast?

/-! ## Lengths -/

/-- The highest bytes come first. -/
theorem beBytes_succ (k n : Nat) : beBytes (k + 1) n = beBytes k (n / 256) ++ [UInt8.ofNat n] := by
  rw [beBytes, leBytes_succ, List.reverse_cons, ← beBytes]

/-- Zero has no bytes but leading zeros. -/
theorem beBytes_zero (k : Nat) : (beBytes k 0).dropWhile (· = 0) = [] := by
  induction k with
  | zero => rfl
  | succ k ih =>
      rw [beBytes_succ, Nat.zero_div, List.dropWhile_append, ih]
      rfl

/-- The loop stops at the last byte that is not zero. -/
theorem berLoop_eq {k n : Nat} (h : n < 256 ^ k) (b : List UInt8) :
    berLoop n b = (beBytes k n).dropWhile (· = 0) ++ b := by
  induction k generalizing n b with
  | zero =>
      obtain rfl : n = 0 := by simpa using h
      rw [berLoop]
      rfl
  | succ k ih =>
      rw [berLoop]
      by_cases hzero : n = 0
      · rw [if_pos hzero, hzero, beBytes_zero, List.nil_append]
      have hdiv : n / 256 < 256 ^ k := by
        rw [Nat.pow_succ] at h
        exact Nat.div_lt_of_lt_mul (by omega)
      have hlow : UInt8.ofNat (n &&& (0xFF : Nat)) = UInt8.ofNat n := by
        have hand : (n &&& (0xFF : Nat)) = n % 256 := Nat.and_two_pow_sub_one_eq_mod n 8
        apply UInt8.toNat_inj.mp
        rw [hand, UInt8.toNat_ofNat', UInt8.toNat_ofNat', Nat.mod_mod]
      have hhigh := beNat_dropWhile (beBytes k (n / 256))
      rw [beNat_beBytes hdiv] at hhigh
      have hnext := ih hdiv (UInt8.ofNat n :: b)
      rw [if_neg hzero, hlow, Nat.shiftRight_eq_div_pow, beBytes_succ, List.dropWhile_append]
      cases hdigits : (beBytes k (n / 256)).dropWhile (· = 0) with
      | nil =>
          -- only one byte is left, and it is not zero
          rw [hdigits] at hhigh hnext
          have hsmall : n / 256 = 0 := hhigh.symm
          have hlast : UInt8.ofNat n ≠ 0 := by
            intro heq
            have hmod := congrArg UInt8.toNat heq
            rw [UInt8.toNat_ofNat', UInt8.toNat_zero] at hmod
            omega
          simpa [hlast] using hnext
      | cons d digits =>
          rw [hdigits] at hnext
          simpa using hnext

/-- The tests encode lengths as BER does. -/
theorem berLen_eq {len : Nat} (h : len < 256 ^ 8) : berLen len = berBytes len := by
  unfold berLen berBytes
  rw [berLoop_eq h, List.append_nil]
  rfl

/-! ## The bytes of a block -/

/-- A block with a type and a length in front of its content. -/
def blockBytes (typ : UInt16) (len : Nat) (content : List UInt8) : List UInt8 :=
  leBytes 2 typ.toNat ++ (leBytes 2 len ++ content)

/-- A block is four bytes longer than its content. -/
theorem blockBytes_length (typ : UInt16) (len : Nat) (content : List UInt8) :
    (blockBytes typ len content).length = 4 + content.length := by
  simp [blockBytes]
  omega

/-- A header counts itself and the content. -/
theorem header_emits (typ : UInt16) {len : Nat} (hlen : len < 2 ^ 16) {e : Encoder Unit}
    {content : List UInt8} (h : Emits e content) (c c' : String) :
    Emits (do
      writeU16Le typ c
      writeU16Le (UInt16.ofNat len) c'
      e) (blockBytes typ len content) := by
  have hword : leBytes 2 (UInt16.ofNat len).toNat = leBytes 2 len := by
    rw [UInt16.toNat_ofNat_of_lt' hlen]
  rw [blockBytes, ← hword]
  exact (writeSlice_emits (leBytes 2 typ.toNat) c).bind ((writeSlice_emits _ c').bind h)

/-- The core data of a server is a block. -/
theorem ServerCoreData.emits (m : ServerCoreData) :
    ∃ content, Emits m.encode (blockBytes 0x0C01 m.size content) := by
  have hsize : m.size < 2 ^ 16 := by
    unfold ServerCoreData.size
    split <;> decide
  have hoptional : ∃ xs, Emits
      (encodeOptional m.clientRequestedProtocols m.earlyCapabilityFlags) xs := by
    unfold encodeOptional
    split
    · exact ⟨_, (writeSlice_emits _ _).bind (writeSlice_emits _ _)⟩
    · exact ⟨_, writeSlice_emits _ _⟩
    · exact ⟨_, Emits.pure⟩
  obtain ⟨xs, hxs⟩ := hoptional
  refine ⟨leBytes 4 m.version.toNat ++ xs, ?_⟩
  rw [ServerCoreData.encode, if_pos hsize]
  exact header_emits scCore hsize ((writeSlice_emits _ "version").bind hxs) _ _

/-- The network data is emitted as it stands if its size fits the header. -/
theorem ServerNetworkData.emits {m : ServerNetworkData} (hsize : m.size < 2 ^ 16) :
    ∃ content, Emits m.encode (blockBytes 0x0C03 m.size content) := by
  have hcount : m.channelIds.length < 2 ^ 16 := by
    unfold ServerNetworkData.size at hsize
    omega
  have hpad : ∃ xs, Emits (encodePad m.channelIds.length) xs := by
    unfold encodePad
    split
    · exact ⟨_, writeSlice_emits _ _⟩
    · exact ⟨_, Emits.pure⟩
  obtain ⟨xs, hxs⟩ := hpad
  have hids := Emits.many (fun id => writeSlice_emits (leBytes 2 (UInt16.toNat id)) "channelId")
    m.channelIds
  rw [ServerNetworkData.encode, if_pos hsize, if_pos hcount]
  exact ⟨_, header_emits scNet hsize ((writeSlice_emits _ "mcsChannelId").bind
    ((writeSlice_emits _ "channelCount").bind (hids.bind hxs))) _ _⟩

namespace ServerBlock

variable {block : ServerBlock}

/-- What a block leaves found. -/
def keep (found : Option ServerCoreData × Option ServerNetworkData) :
    ServerBlock → Option ServerCoreData × Option ServerNetworkData
  | core m => (some m.written, found.2)
  | network m => (found.1, some m)
  | other _ _ _ _ => found

/-- **Every block is written with its type and its length**, and read as what it is. -/
theorem encode_spec (hsize : block.size < 2 ^ 16) :
    ∃ content, block.encode = .ok (blockBytes block.typ block.size content) ∧
      4 + content.length = block.size ∧
      ∀ found, ConnectResponse.readBlock block.typ.toNat (blockBytes block.typ block.size content)
        found = .ok (block.keep found) := by
  cases block with
  | core m =>
      obtain ⟨content, hemits⟩ := m.emits
      have hbytes := encodeVec_emits hemits m.coded.writes
      obtain ⟨hlen, -, hdecode⟩ := encodeVec_coded m.coded hbytes
      rw [blockBytes_length] at hlen
      refine ⟨content, hbytes, hlen, fun found => ?_⟩
      change (ConnectResponse.readBlock 0x0C01 (blockBytes 0x0C01 m.size content) found) = _
      rw [ConnectResponse.readBlock, if_pos rfl, hdecode]
      rfl
  | network m =>
      obtain ⟨content, hemits⟩ := ServerNetworkData.emits hsize
      have hbytes := encodeVec_emits hemits m.coded.writes
      obtain ⟨hlen, -, hdecode⟩ := encodeVec_coded m.coded hbytes
      rw [blockBytes_length] at hlen
      refine ⟨content, hbytes, hlen, fun found => ?_⟩
      change (ConnectResponse.readBlock 0x0C03 (blockBytes 0x0C03 m.size content) found) = _
      rw [ConnectResponse.readBlock, if_neg (by decide), if_pos rfl, hdecode]
      rfl
  | other typ content htyp hlen =>
      refine ⟨content, rfl, rfl, fun found => ?_⟩
      have hcore : typ.toNat ≠ 0x0C01 := fun h => htyp.1 (UInt16.toNat_inj.mp h)
      have hnetwork : typ.toNat ≠ 0x0C03 := fun h => htyp.2 (UInt16.toNat_inj.mp h)
      change (ConnectResponse.readBlock typ.toNat _ found) = _
      rw [ConnectResponse.readBlock, if_neg hcore, if_neg hnetwork]
      rfl

end ServerBlock

namespace ConnectResponse

/-- One block in front of others. -/
theorem readBlocks_append {typ : UInt16} {len : Nat} {content : List UInt8} (hlen : len < 2 ^ 16)
    (hcontent : 4 + content.length = len) {found found' : Option ServerCoreData ×
      Option ServerNetworkData}
    (hread : readBlock typ.toNat (blockBytes typ len content) found = .ok found')
    (rest : List UInt8) :
    readBlocks (blockBytes typ len content ++ rest) found = readBlocks rest found' := by
  have hwhole := blockBytes_length typ len content
  have htype : leNat ((blockBytes typ len content ++ rest).take 2) = typ.toNat := by
    rw [blockBytes, List.append_assoc, List.take_left' (leBytes_length 2 _)]
    exact leNat_leBytes typ.toNat_lt
  have hlength : leNat (((blockBytes typ len content ++ rest).drop 2).take 2) = len := by
    rw [blockBytes, List.append_assoc, List.drop_left' (leBytes_length 2 _), List.append_assoc,
      List.take_left' (leBytes_length 2 _)]
    exact leNat_leBytes hlen
  rw [readBlocks, htype, hlength, if_pos (by rw [List.length_append]; omega)]
  dsimp only
  rw [if_neg (by rw [List.length_append]; omega), List.take_left' (by omega),
    List.drop_left' (by omega), hread]

end ConnectResponse

/-- The blocks of a response: what is found in them. -/
theorem readBlocks_built {blocks : List ServerBlock}
    (htotal : (blocks.map ServerBlock.size).sum < 2 ^ 16) :
    ∃ parts, blocks.mapM ServerBlock.encode = .ok parts ∧
      parts.flatten.length = (blocks.map ServerBlock.size).sum ∧
      ∀ found, ConnectResponse.readBlocks parts.flatten found =
        .ok (blocks.foldl (fun found b => b.keep found) found) := by
  induction blocks with
  | nil =>
      refine ⟨[], rfl, rfl, fun found => ?_⟩
      rw [ConnectResponse.readBlocks]
      rfl
  | cons block blocks ih =>
      rw [List.map_cons, List.sum_cons] at htotal
      have hsize : block.size < 2 ^ 16 := by omega
      obtain ⟨content, hencode, hcontent, hread⟩ := ServerBlock.encode_spec hsize
      obtain ⟨parts, hparts, hlen, hblocks⟩ := ih (by omega)
      refine ⟨_ :: parts, by rw [List.mapM_cons, hencode, hparts]; rfl, ?_, fun found => ?_⟩
      · rw [List.flatten_cons, List.length_append, blockBytes_length, hlen, hcontent]
        rfl
      · rw [List.flatten_cons, ConnectResponse.readBlocks_append hsize hcontent (hread found),
          hblocks]
        rfl

/-- A later block replaces an earlier one of its kind. -/
theorem foldl_keep (blocks : List ServerBlock)
    (found : Option ServerCoreData × Option ServerNetworkData) :
    blocks.foldl (fun found b => b.keep found) found =
      (((lastCore blocks).map ServerCoreData.written).or found.1,
        (lastNetwork blocks).or found.2) := by
  induction blocks generalizing found with
  | nil => rfl
  | cons block blocks ih =>
      rw [List.foldl_cons, ih]
      unfold lastCore lastNetwork
      cases block with
      | core m =>
          simp only [List.filterMap_cons, ServerBlock.core?, ServerBlock.network?,
            ServerBlock.keep, List.getLast?_cons]
          cases (blocks.filterMap ServerBlock.core?).getLast? <;> rfl
      | network m =>
          simp only [List.filterMap_cons, ServerBlock.core?, ServerBlock.network?,
            ServerBlock.keep, List.getLast?_cons]
          cases (blocks.filterMap ServerBlock.network?).getLast? <;> rfl
      | other typ content htyp hlen => rfl

/-! ## The envelope -/

namespace ConnectResponse

/-- A tag and a short length. -/
theorem readTag_parses (tag : UInt8) {len : Nat} (h : len < 2 ^ 32) (field reason : String) :
    Parses (readTag tag field reason) (tag :: berBytes len) len :=
  (expectU8_parses tag ctx _).bind (readBerLength_parses h ctx)

/-- An element that is skipped is passed to its end. -/
theorem skipTagged_parses (tag : UInt8) {xs : List UInt8} (h : xs.length < 2 ^ 32)
    (field reason : String) :
    Parses (skipTagged tag field reason) (tag :: berBytes xs.length ++ xs) () :=
  (readTag_parses tag h field reason).bind
    ((readSlice_parses xs ctx).last (Parses.pure ()))

/-- The result code and the user data of an envelope. -/
theorem readEnvelope_parses (result : UInt8) {gcc : List UInt8} (hgcc : gcc.length < 2 ^ 32)
    {bodyLen : Nat} (hbody : bodyLen < 2 ^ 32) :
    Parses readEnvelope ([0x7F, 0x66] ++ (berLen bodyLen ++ responseBody result gcc))
      (result, gcc) := by
  have hone : berBytes 1 = [1] := by decide
  have hresult := readTag_parses 0x0A (show 1 < 2 ^ 32 by decide) "result tag" "expected 0x0A"
  have hcci := skipTagged_parses 0x02 (show ([0x00] : List UInt8).length < 2 ^ 32 by decide)
    "calledConnectId tag" "expected 0x02"
  have hparams := skipTagged_parses 0x30 (show ([] : List UInt8).length < 2 ^ 32 by decide)
    "DomainParameters tag" "expected 0x30"
  have hdata := readTag_parses 0x04 hgcc "userData tag" "expected 0x04"
  rw [hone] at hresult
  rw [responseBody, berLen_eq (Nat.lt_trans hgcc (by decide)),
    berLen_eq (Nat.lt_trans hbody (by decide))]
  change Parses _ ([0x7F] ++ ([0x66] ++ (berBytes bodyLen ++ ([0x0A, 0x01] ++ ([result] ++
    ([] ++ ([0x02, 0x01, 0x00] ++ ([0x30, 0x00] ++ (0x04 :: berBytes gcc.length ++ gcc)))))))))
    (result, gcc)
  refine (readU8_parses 0x7F ctx).bind ((readU8_parses 0x66 ctx).bind ?_)
  rw [if_neg (by decide)]
  refine (readBerLength_parses hbody ctx).bind (hresult.bind ((readU8_parses result ctx).bind ?_))
  refine Parses.bind (a := ()) (Parses.pure ()) ?_
  refine hcci.bind (hparams.bind (hdata.bind ?_))
  exact (readSlice_parses gcc ctx).last (Parses.pure (result, gcc))

/-- The key stands only where it belongs, whatever the length in front of it. -/
theorem findPattern_gccResponse (blocks : List UInt8) :
    ∃ pos, findPattern mcdn (gccResponse blocks) = some pos ∧
      (gccResponse blocks).drop (pos + 4) = perBytes blocks.length ++ blocks := by
  unfold gccResponse
  generalize perBytes blocks.length ++ blocks = rest
  unfold perBytes
  split
  · exact ⟨18, by simp [findPattern, mcdn], rfl⟩
  · exact ⟨19, by simp [findPattern, mcdn], rfl⟩

/-- The blocks are behind the key and the second length. -/
theorem serverBlocks_gccResponse (blocks : List UInt8) :
    serverBlocks (gccResponse blocks) = .ok blocks := by
  obtain ⟨pos, hpos, hdrop⟩ := findPattern_gccResponse blocks
  have hper := perReadLength_parses blocks.length gccCtx [] blocks
  rw [serverBlocks, hpos]
  dsimp only
  rw [hdrop, Tape.start, hper]

end ConnectResponse

/-- The answer of the conference is little longer than its blocks. -/
theorem gccResponse_length_le (blocks : List UInt8) :
    (gccResponse blocks).length ≤ blocks.length + 25 := by
  have hper : ∀ len, (perBytes len).length ≤ 2 := by
    intro len
    rw [perBytes_length, perLengthSize]
    split <;> omega
  have h₁ := hper (blocks.length + 14)
  have h₂ := hper blocks.length
  simp only [gccResponse, ConnectResponse.mcdn, List.length_append, List.length_cons,
    List.length_nil]
  omega

/-- The body is little longer than the answer. -/
theorem responseBody_length_le (result : UInt8) {gcc : List UInt8} (h : gcc.length < 2 ^ 32) :
    (responseBody result gcc).length ≤ gcc.length + 14 := by
  have hber : (berLen gcc.length).length ≤ 5 := by
    rw [berLen_eq (Nat.lt_trans h (by decide)), berBytes]
    split
    · simp
    · have hle := minimalBe_length_le h
      rw [List.length_cons]
      omega
  simp only [responseBody, List.length_append, List.length_cons, List.length_nil]
  omega

/-- **What is read of a response**: its result code, and of each kind of block the last one, as
far as it was written. -/
theorem fromBytes_built (result : UInt8) {blocks : List ServerBlock}
    (htotal : (blocks.map ServerBlock.size).sum < 0x7F00) :
    ∃ data, buildResponse result blocks = .ok data ∧
      ConnectResponse.fromBytes data =
        .ok ⟨result, (lastCore blocks).map ServerCoreData.written, lastNetwork blocks⟩ := by
  obtain ⟨parts, hparts, hlen, hread⟩ := readBlocks_built (Nat.lt_trans htotal (by decide))
  have hgccLen := gccResponse_length_le parts.flatten
  have hgcc : (gccResponse parts.flatten).length < 2 ^ 32 := by omega
  have hbodyLen := responseBody_length_le result hgcc
  have hbody : (responseBody result (gccResponse parts.flatten)).length < 2 ^ 32 := by omega
  have henvelope := decode_of_parses (ConnectResponse.readEnvelope_parses result hgcc hbody)
  refine ⟨_, by rw [buildResponse, hparts]; rfl, ?_⟩
  rw [ConnectResponse.fromBytes, henvelope, Checked.bind_ok,
    ConnectResponse.serverBlocks_gccResponse, Checked.bind_ok, hread, Checked.bind_ok, foldl_keep,
    Option.or_none, Option.or_none]
  rfl

/-! ## The loop over the blocks -/

/-- `u16::from_le_bytes` of the byte at a place and the next one. -/
def blockWord (blocks : List UInt8) (i : Nat) : Checked Nat := do
  let low ← Checked.get blocks i
  let high ← Checked.get blocks (i + 1)
  pure (leNat [low, high])

/-- One turn of the loop: the block at an offset, and the offset behind it.  A slice is shorter
than the numbers that count its bytes can be, so the sums do not overflow. -/
def walkStep (blocks : List UInt8) (off : Nat)
    (found : Option ServerCoreData × Option ServerNetworkData) :
    Checked (DecodeResult (Nat × Option ServerCoreData × Option ServerNetworkData)) := do
  let typ ← blockWord blocks off
  let len ← blockWord blocks (off + 2)
  if len < 4 ∨ blocks.length < off + len then
    pure (.error (.invalidLength "GCC server block" "bad block length"))
  else do
    let upTo ← Checked.take blocks (off + len)
    let block ← Checked.drop upTo off
    pure ((ConnectResponse.readBlock typ block found).map fun found => (off + len, found))

/-- The loop, for at most some number of turns. -/
def walkBlocks (blocks : List UInt8) :
    Nat → Nat → Option ServerCoreData × Option ServerNetworkData →
    Option (Checked (DecodeResult (Option ServerCoreData × Option ServerNetworkData)))
  | 0, off, found => if off + 4 ≤ blocks.length then none else some (.ok (.ok found))
  | turns + 1, off, found =>
      if off + 4 ≤ blocks.length then
        match walkStep blocks off found with
        | .error why => some (.error why)
        | .ok (.error e) => some (.ok (.error e))
        | .ok (.ok (off, found)) => walkBlocks blocks turns off found
      else
        some (.ok (.ok found))

/-- A word inside the blocks is read. -/
theorem blockWord_ok {blocks : List UInt8} {i : Nat} (h : i + 2 ≤ blocks.length) :
    blockWord blocks i = .ok (leNat ((blocks.drop i).take 2)) := by
  have hfirst : i < blocks.length := by omega
  have hsecond : i + 1 < blocks.length := by omega
  rw [blockWord, Checked.get, Checked.get, List.getElem?_eq_getElem hfirst,
    List.getElem?_eq_getElem hsecond, List.drop_eq_getElem_cons hfirst,
    List.drop_eq_getElem_cons hsecond]
  rfl

variable {blocks : List UInt8} {off : Nat}
  (found : Option ServerCoreData × Option ServerNetworkData)

/-- A turn reads inside the slice, and reads the block at the front of what is left. -/
theorem walkStep_ok (h : off + 4 ≤ blocks.length) :
    ∃ typ len, typ = leNat ((blocks.drop off).take 2) ∧
      len = leNat (((blocks.drop off).drop 2).take 2) ∧
      walkStep blocks off found = .ok (
        if len < 4 ∨ (blocks.drop off).length < len then
          .error (.invalidLength "GCC server block" "bad block length")
        else (ConnectResponse.readBlock typ ((blocks.drop off).take len) found).map fun found =>
          (off + len, found)) := by
  refine ⟨_, _, rfl, rfl, ?_⟩
  rw [walkStep, blockWord_ok (by omega), blockWord_ok (by omega), List.drop_drop,
    Checked.bind_ok, Checked.bind_ok, List.length_drop]
  by_cases hbad : leNat (((blocks.drop (off + 2))).take 2) < 4 ∨
      blocks.length < off + leNat (((blocks.drop (off + 2))).take 2)
  · rw [if_pos hbad, if_pos (by omega)]
    rfl
  · rw [if_neg hbad, if_neg (by omega), Checked.take_ok (by omega), Checked.bind_ok,
      Checked.drop_ok (by rw [List.length_take]; omega), Checked.bind_ok, List.drop_take,
      Nat.add_sub_cancel_left]
    rfl

/-- **The loop ends, and reads only inside the slice.**  Every turn moves the offset by at least
four bytes. -/
theorem walkBlocks_eq {turns : Nat} (h : blocks.length < off + 4 * (turns + 1)) :
    walkBlocks blocks turns off found =
      some (.ok (ConnectResponse.readBlocks (blocks.drop off) found)) := by
  induction turns generalizing off found with
  | zero =>
      rw [walkBlocks, if_neg (by omega), ConnectResponse.readBlocks,
        if_neg (by rw [List.length_drop]; omega)]
  | succ turns ih =>
      rw [walkBlocks, ConnectResponse.readBlocks, List.length_drop]
      by_cases hmore : off + 4 ≤ blocks.length
      · obtain ⟨typ, len, htyp, hlen, hstep⟩ := walkStep_ok found hmore
        rw [if_pos hmore, if_pos (by omega), hstep, List.length_drop, ← htyp, ← hlen]
        dsimp only
        by_cases hbad : len < 4 ∨ blocks.length - off < len
        · rw [if_pos hbad, if_pos hbad]
        · rw [if_neg hbad, if_neg hbad]
          cases ConnectResponse.readBlock typ ((blocks.drop off).take len) found with
          | error e => rfl
          | ok found' =>
              have hnext := ih found' (show blocks.length < off + len + 4 * (turns + 1) by omega)
              rw [← List.drop_drop] at hnext
              exact hnext
      · rw [if_neg hmore, if_neg (by omega)]

/-- **Responses are read, and their blocks are walked through safely.**  A response with any
blocks gives back its result code, and the last block of each kind, exactly if the last core data
has no flags without protocols in front of them.  On any bytes the loop ends, reads only inside
them, and comes to the same as `readBlocks`. -/
theorem ConnectResponse.built_read_iff (result : UInt8) {blocks : List ServerBlock}
    (htotal : (blocks.map ServerBlock.size).sum < 0x7F00) (bytes : List UInt8) :
    (∃ data, buildResponse result blocks = .ok data ∧
      (ConnectResponse.fromBytes data = .ok ⟨result, lastCore blocks, lastNetwork blocks⟩ ↔
        ∀ core, lastCore blocks = some core → core.Positional)) ∧
    ∀ found, walkBlocks bytes (bytes.length / 4) 0 found =
      some (.ok (ConnectResponse.readBlocks bytes found)) := by
  constructor
  · obtain ⟨data, hbuild, hread⟩ := fromBytes_built result htotal
    refine ⟨data, hbuild, ?_⟩
    rw [hread]
    cases lastCore blocks with
    | none => simp
    | some core => simp [ServerCoreData.written_eq_iff]
  · intro found
    exact walkBlocks_eq found (by omega)

/-- The blocks that the tests have, with a third one between them. -/
theorem ConnectResponse.built_read_three :
    ∃ data, buildResponse 0 [.core ⟨0x00080004, some 1, none⟩,
        .other 0x0C02 [0, 0, 0, 0, 0, 0, 0, 0] (by decide) (by decide), .network ⟨1003, [1004]⟩] =
        .ok data ∧
      ConnectResponse.fromBytes data =
        .ok ⟨0, some ⟨0x00080004, some 1, none⟩, some ⟨1003, [1004]⟩⟩ := by
  have hsize : ([.core ⟨0x00080004, some 1, none⟩,
      .other 0x0C02 [0, 0, 0, 0, 0, 0, 0, 0] (by decide) (by decide),
      .network ⟨1003, [1004]⟩].map ServerBlock.size).sum < 0x7F00 := by
    decide
  obtain ⟨⟨data, hbuild, hiff⟩, -⟩ := ConnectResponse.built_read_iff 0 hsize []
  refine ⟨data, hbuild, hiff.mpr fun core hcore => ?_⟩
  obtain rfl := Option.some.inj hcore
  exact fun h => by cases h

/-- Flags with no protocols in front of them are not written. -/
theorem ConnectResponse.flags_lost :
    ¬ ∀ (result : UInt8) (blocks : List ServerBlock),
      (blocks.map ServerBlock.size).sum < 0x7F00 →
        ∃ data, buildResponse result blocks = .ok data ∧
          ConnectResponse.fromBytes data = .ok ⟨result, lastCore blocks, lastNetwork blocks⟩ := by
  intro h
  obtain ⟨data, hbuild, hread⟩ := h 0 [.core ⟨0x00080004, none, some 1⟩] (by decide)
  have hsize : ([.core ⟨0x00080004, none, some 1⟩].map ServerBlock.size).sum < 0x7F00 := by decide
  obtain ⟨data', hbuild', hread'⟩ := fromBytes_built 0 hsize
  rw [hbuild] at hbuild'
  cases hbuild'
  rw [hread] at hread'
  exact absurd (Except.ok.inj hread') (by decide)

end Oxrdp
