import Oxrdp.Proto.Envelope

/-!
# What `fragment` puts on the wire

The receiver takes chunks off the byte stream one header and one payload at a
time (`readChunk`).  Reading back the frames that `fragment` wrote gives
`chunksOf`: full chunks with the more-follows bit, then one chunk of what is
left, without it.  `sentChunks_eq` is that fact, and the rest of the
development reasons about `chunksOf` only.
-/

namespace Oxrdp

open Coder

/-- A chunk as the receiver hands it to the reassembler. -/
abbrev Chunk := ChunkHeader × List UInt8

/-- Take one chunk off the stream: the header, then as many bytes as it
announces (the two `read_exact` calls of `read_reassembled`). -/
def readChunk : Decoder Chunk := do
  let header ← ChunkHeader.decode
  let payload ← readSlice header.length.toNat "chunk payload"
  pure (header, payload)

/-- The chunks of one message, as they come off the wire on `channel`. -/
def sentChunks (channel : UInt16) (m : RawMessage) : Option (List Chunk) := do
  let frames ← (fragment m.msgType channel m.payload).toOption
  frames.mapM fun frame => (decode readChunk frame).toOption

/-! ## One chunk -/

/-- The chunk that carries `piece`. -/
def chunkOf (msgType : UInt8) (channel : UInt16) (piece : List UInt8) (more : Bool) :
    Chunk :=
  ({ msgType, flags := if more then ChunkFlags.fragMore else 0, channel,
     length := UInt32.ofNat piece.length }, piece)

@[simp] theorem chunkOf_msgType (t : UInt8) (c : UInt16) (piece : List UInt8)
    (more : Bool) : (chunkOf t c piece more).1.msgType = t := rfl

@[simp] theorem chunkOf_channel (t : UInt8) (c : UInt16) (piece : List UInt8)
    (more : Bool) : (chunkOf t c piece more).1.channel = c := rfl

@[simp] theorem chunkOf_payload (t : UInt8) (c : UInt16) (piece : List UInt8)
    (more : Bool) : (chunkOf t c piece more).2 = piece := rfl

@[simp] theorem chunkOf_hasMore (t : UInt8) (c : UInt16) (piece : List UInt8)
    (more : Bool) : (chunkOf t c piece more).1.hasMore = more := by
  cases more with
  | false => simp [chunkOf, ChunkHeader.hasMore]
  | true => simp [chunkOf, ChunkHeader.hasMore, ChunkFlags.fragMore]

/-- The length in the header is that of the piece. -/
theorem chunkOf_length {t : UInt8} {c : UInt16} {piece : List UInt8} {more : Bool}
    (hlen : piece.length ≤ maxChunkPayload) :
    (chunkOf t c piece more).1.length.toNat = piece.length := by
  have hlt : piece.length < 2 ^ 32 := by
    unfold maxChunkPayload at hlen
    omega
  simpa [chunkOf] using Nat.mod_eq_of_lt hlt

/-- A header with no reserved bits and a legal length is read back as it was. -/
theorem ChunkHeader.roundTrip (h : ChunkHeader)
    (hflags : h.flags &&& ChunkFlags.known = h.flags)
    (hlen : h.length.toNat ≤ maxChunkPayload) :
    RoundTrip h.encode ChunkHeader.decode h := by
  refine (writeU8_roundTrip h.msgType _ _).bind ?_
  refine (writeU8_roundTrip h.flags _ _).bind ?_
  refine (writeU16Le_roundTrip h.channel _ _).bind ?_
  refine (writeU32Le_roundTrip h.length _ _).bind ?_
  simp only [hflags, gt_iff_lt, Nat.not_lt.mpr hlen, if_false]
  exact RoundTrip.pure h

/-- There is need of a header's length of room. -/
theorem ChunkHeader.fills (h : ChunkHeader) : Fills h.encode chunkHeaderLen := by
  have hfills := (writeU8_fills h.msgType "chunk type").bind
    ((writeU8_fills h.flags "chunk flags").bind
      ((writeU16Le_fills h.channel "chunk channel").bind
        ((writeU32Le_fills h.length "chunk length").bind Fills.pure)))
  exact hfills

/-- The eight bytes of a header. -/
def ChunkHeader.bytes (h : ChunkHeader) : List UInt8 :=
  [h.msgType] ++ ([h.flags] ++ (leBytes 2 h.channel.toNat ++ leBytes 4 h.length.toNat))

/-- A header has its length. -/
theorem ChunkHeader.bytes_length (h : ChunkHeader) : h.bytes.length = chunkHeaderLen := by
  simp [ChunkHeader.bytes, chunkHeaderLen]

/-- A header is written as these bytes. -/
theorem ChunkHeader.emits (h : ChunkHeader) : Emits h.encode h.bytes := by
  have hlast := (writeSlice_emits (leBytes 4 h.length.toNat) "chunk length").bind Emits.pure
  rw [List.append_nil] at hlast
  exact (writeSlice_emits [h.msgType] "chunk type").bind
    ((writeSlice_emits [h.flags] "chunk flags").bind
      ((writeSlice_emits (leBytes 2 h.channel.toNat) "chunk channel").bind hlast))

/-- A header writes its length. -/
theorem ChunkHeader.writes (h : ChunkHeader) : Writes h.encode chunkHeaderLen :=
  Writes.of_eq
    ((writeU8_writes h.msgType _).bind <|
      (writeU8_writes h.flags _).bind <|
      (writeU16Le_writes h.channel _).bind <|
      (writeU32Le_writes h.length _).bind <|
      Writes.pure)
    rfl

/-- No chunk has a flag that is not known. -/
theorem chunkOf_flags (t : UInt8) (c : UInt16) (piece : List UInt8) (more : Bool) :
    (chunkOf t c piece more).1.flags &&& ChunkFlags.known =
      (chunkOf t c piece more).1.flags := by
  cases more with
  | false => simp [chunkOf]
  | true => simp [chunkOf, ChunkFlags.known]

/-- The header of a chunk of legal size decodes to itself. -/
theorem chunkOf_decode (t : UInt8) (c : UInt16) {piece : List UInt8} (more : Bool)
    (hlen : piece.length ≤ maxChunkPayload) :
    decode ChunkHeader.decode (chunkOf t c piece more).1.bytes =
      .ok (chunkOf t c piece more).1 := by
  have hlength : (chunkOf t c piece more).1.length.toNat = piece.length := chunkOf_length hlen
  have hround := ChunkHeader.roundTrip _ (chunkOf_flags t c piece more) (hlength ▸ hlen)
  have hparse := hround.parses_emitted (ChunkHeader.emits _) [] []
  rw [List.append_nil] at hparse
  rw [decode, Tape.start, hparse]
  rfl

/-- A frame is its header and its piece. -/
theorem fragmentChunk_eq (t : UInt8) (c : UInt16) (piece : List UInt8) (more : Bool) :
    fragmentChunk t c piece more = .ok ((chunkOf t c piece more).1.bytes ++ piece) :=
  encodeVec_emits ((ChunkHeader.emits _).bind (writeSlice_emits piece _))
    ((ChunkHeader.writes _).bind (writeSlice_writes piece _))

/-- Every piece of legal size gets a frame, and the frame reads back as it. -/
theorem fragmentChunk_read (t : UInt8) (c : UInt16) {piece : List UInt8} (more : Bool)
    (hlen : piece.length ≤ maxChunkPayload) :
    ∃ frame, fragmentChunk t c piece more = .ok frame ∧
      decode readChunk frame = .ok (chunkOf t c piece more) := by
  have hflags := chunkOf_flags t c piece more
  have hlength : (chunkOf t c piece more).1.length.toNat = piece.length :=
    chunkOf_length hlen
  have hround : RoundTrip
      (do ChunkHeader.encode (chunkOf t c piece more).1
          writeSlice piece "chunk payload")
      readChunk (chunkOf t c piece more) := by
    refine (ChunkHeader.roundTrip _ hflags (hlength ▸ hlen)).bind ?_
    have hslice : Parses (readSlice (chunkOf t c piece more).1.length.toNat
        "chunk payload") piece piece := by
      rw [hlength]
      exact readSlice_parses piece _
    exact (writeSlice_roundTrip _ hslice).map fun payload =>
      ((chunkOf t c piece more).1, payload)
  obtain ⟨frame, hframe⟩ := encodeVec_succeeds
    ((ChunkHeader.fills (chunkOf t c piece more).1).bind
      (writeSlice_fills piece "chunk payload"))
  exact ⟨frame, hframe, (encodeVec_roundTrip hround hframe).2⟩

/-! ## All chunks of a message -/

/-- The chunks of a message body: full ones, then the rest. -/
def chunksOf (msgType : UInt8) (channel : UInt16) (payload : List UInt8) : List Chunk :=
  if payload.length ≤ maxChunkPayload then
    [chunkOf msgType channel payload false]
  else
    chunkOf msgType channel (payload.take maxChunkPayload) true ::
      chunksOf msgType channel (payload.drop maxChunkPayload)
termination_by payload.length
decreasing_by
  simp only [maxChunkPayload, List.length_drop] at *
  omega

/-- From `offset` on, `fragment` writes the chunks of what is left. -/
theorem fragmentFrom_read (t : UInt8) (c : UInt16) (payload : List UInt8) (offset : Nat)
    (hle : offset ≤ payload.length) :
    ∃ frames, fragmentFrom t c payload offset = .ok frames ∧
      frames.mapM (fun frame => (decode readChunk frame).toOption) =
        some (chunksOf t c (payload.drop offset)) := by
  rw [fragmentFrom, chunksOf, List.length_drop]
  by_cases hmore : offset + maxChunkPayload < payload.length
  · have hstop : min (offset + maxChunkPayload) payload.length =
        offset + maxChunkPayload := by omega
    have hrest : ¬payload.length - offset ≤ maxChunkPayload := by omega
    have hpiece : ((payload.drop offset).take maxChunkPayload).length ≤
        maxChunkPayload := List.length_take_le _ _
    obtain ⟨frame, hframe, hread⟩ := fragmentChunk_read t c true hpiece
    obtain ⟨frames, hframes, hreads⟩ :=
      fragmentFrom_read t c payload (offset + maxChunkPayload) (by omega)
    refine ⟨frame :: frames, ?_, ?_⟩
    · simp only [hstop, hmore, Nat.add_sub_cancel_left, decide_true, hframe, if_true,
        hframes]
      rfl
    · simp [hrest, hread, hreads]
      rfl
  · have hstop : min (offset + maxChunkPayload) payload.length = payload.length := by
      omega
    have hrest : payload.length - offset ≤ maxChunkPayload := by omega
    have hall : (payload.drop offset).take (payload.length - offset) =
        payload.drop offset := by
      rw [← List.length_drop, List.take_length]
    have hpiece : (payload.drop offset).length ≤ maxChunkPayload := by
      rw [List.length_drop]
      exact hrest
    obtain ⟨frame, hframe, hread⟩ := fragmentChunk_read t c false hpiece
    refine ⟨[frame], ?_, ?_⟩
    · simp only [hstop, hall, Nat.lt_irrefl, decide_false, hframe, if_false]
      rfl
    · simp [hrest, hread, Except.toOption]
termination_by payload.length - offset
decreasing_by
  simp only [maxChunkPayload] at *
  omega

/-- **What arrives.**  Fragmenting never fails, and the frames read back as the
chunks of the body. -/
theorem sentChunks_eq (c : UInt16) (m : RawMessage) :
    sentChunks c m = some (chunksOf m.msgType c m.payload) := by
  obtain ⟨frames, hframes, hreads⟩ :=
    fragmentFrom_read m.msgType c m.payload 0 (Nat.zero_le _)
  simpa [sentChunks, fragment, hframes, Except.toOption] using hreads

end Oxrdp
