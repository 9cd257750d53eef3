import Oxrdp.Proto.SizeLimits
import Oxrdp.Transport.Resume
import Oxrdp.Transport.Writer

/-!
# From one writer to one reader

The two halves of `stream.rs` over one stream: what a `ChunkWriter` queues is cut into chunks,
put on the stream in whatever parts the stream accepts, taken off it in whatever parts arrive,
and put together again.

`Delivers` says which messages come of pushing some chunks, `readAll_cut` that a stream which
breaks off anywhere gives the first of them and then its own end, and no other error.
`messages_carried` is the whole way.
-/

namespace Oxrdp

variable {ending : Ending}

/-! ## One message in flight -/

namespace Reassembler

/-- A reassembler with nothing but the beginning of one message, or with nothing at all. -/
def holding (c : UInt16) (t : UInt8) : Option (List UInt8) → Reassembler
  | none => .new
  | some buf => ⟨(∅ : Table UInt16 Pending).insert c ⟨t, buf⟩, buf.length⟩

variable {c : UInt16} {t : UInt8} {piece : List UInt8}

/-- What is held on the channel. -/
theorem holding_lookup (c : UInt16) (t : UInt8) (o : Option (List UInt8)) :
    (holding c t o).pending.lookup c = o.map (⟨t, ·⟩) := by
  cases o with
  | none => rfl
  | some buf => exact AList.lookup_insert _

/-- The bytes that are held are those that are counted. -/
theorem holding_accounted (c : UInt16) (t : UInt8) (o : Option (List UInt8)) :
    (holding c t o).Accounted := by
  cases o with
  | none => rfl
  | some buf =>
      have hweight := Table.weight_insert_new bufLen ⟨t, buf⟩
        (AList.lookup_empty c : (∅ : Table UInt16 Pending).lookup c = none)
      exact hweight.symm

/-- One more piece is held behind the others. -/
theorem holding_grownBy (o : Option (List UInt8)) (piece : List UInt8) :
    (holding c t o).grownBy c ((o.map (⟨t, ·⟩)).getD ⟨t, []⟩) piece =
      holding c t (some (o.getD [] ++ piece)) := by
  cases o with
  | none => exact congrArg (Reassembler.mk _) (Nat.zero_add _)
  | some buf =>
      unfold grownBy holding
      dsimp only [Option.map_some, Option.getD_some]
      rw [AList.insert_insert, List.length_append]

/-- When the last piece has come, nothing is held. -/
theorem holding_without (c : UInt16) (t : UInt8) (buf : List UInt8) :
    (holding c t (some buf)).without c ⟨t, buf⟩ = .new := by
  unfold without holding
  dsimp only
  rw [erase_insert, Nat.sub_self]
  rfl

/-- The next piece of a message that keeps to its limit. -/
theorem push_piece (o : Option (List UInt8)) (more : Bool)
    (hpiece : piece.length ≤ maxChunkPayload)
    (hlimit : (o.getD []).length + piece.length ≤ maxMessageLen t) :
    (holding c t o).push (chunkOf t c piece more).1 piece =
      if more then some (.ok none, holding c t (some (o.getD [] ++ piece)))
      else some (.ok (some ⟨t, o.getD [] ++ piece⟩), .new) := by
  have hlength : (chunkOf t c piece more).1.length.toNat = piece.length := chunkOf_length hpiece
  have hmore : (chunkOf t c piece more).1.hasMore = more := chunkOf_hasMore t c piece more
  have hlookup := holding_lookup c t o
  have hmax := Message.maxMessageLen_le t
  have hbytes : (holding c t o).pendingBytes = (o.getD []).length := by
    cases o with
    | none => rfl
    | some buf => rfl
  obtain ⟨res, r', hpush, hout⟩ :=
    push_outcome (holding_accounted c t o) (chunkOf t c piece more).1 piece
  rw [hpush]
  cases hout with
  | refused e hguard =>
      exfalso
      simp only [chunkOf_channel, chunkOf_msgType, hlookup, hbytes, hlength] at hguard
      rcases hguard with hne | ⟨-, hlong⟩ | ⟨hnone, hfull, -⟩ | ⟨-, hfull⟩
      · exact hne rfl
      · omega
      · rw [Option.map_eq_none_iff] at hnone
        subst hnone
        have hempty : (holding c t none).pendingChannels = 0 := rfl
        rw [hempty] at hfull
        exact absurd hfull (by decide)
      · omega
  | discarded e p hp hguard =>
      exfalso
      rw [chunkOf_channel, hlookup] at hp
      obtain ⟨buf, rfl, rfl⟩ := Option.map_eq_some_iff.mp hp
      rcases hguard with hne | hlong
      · exact hne rfl
      · exact absurd hlong (Nat.not_lt.mpr hlimit)
  | single hp hlast hlen =>
      rw [chunkOf_channel, hlookup, Option.map_eq_none_iff] at hp
      subst hp
      rw [hmore] at hlast
      rw [hlast]
      rfl
  | grown p hmore' hp htype hlen hbytes' hroom =>
      rw [hmore] at hmore'
      rw [hmore', if_pos rfl]
      rw [chunkOf_channel, chunkOf_msgType, hlookup] at hp
      subst hp
      rw [chunkOf_channel, holding_grownBy]
  | completed p hlast hp htype hlen hbytes' =>
      rw [hmore] at hlast
      rw [chunkOf_channel, hlookup] at hp
      obtain ⟨buf, rfl, rfl⟩ := Option.map_eq_some_iff.mp hp
      rw [hlast]
      rw [chunkOf_channel, holding_without]
      rfl

end Reassembler

/-! ## What comes of some chunks -/

/-- Pushing the chunks in order gives the messages, and no error. -/
inductive Delivers : Reassembler → List Chunk → List RawMessage → Reassembler → Prop
  | nil (r : Reassembler) : Delivers r [] [] r
  | more {r r' r'' : Reassembler} {k : Chunk} {ks : List Chunk} {ms : List RawMessage}
      (hpush : r.push k.1 k.2 = some (.ok none, r')) (h : Delivers r' ks ms r'') :
      Delivers r (k :: ks) ms r''
  | last {r r' r'' : Reassembler} {k : Chunk} {ks : List Chunk} {m : RawMessage}
      {ms : List RawMessage} (hpush : r.push k.1 k.2 = some (.ok (some m), r'))
      (h : Delivers r' ks ms r'') : Delivers r (k :: ks) (m :: ms) r''

/-- What is delivered in two parts is delivered. -/
theorem Delivers.append {r r' r'' : Reassembler} {ks ks' : List Chunk}
    {ms ms' : List RawMessage} (h : Delivers r ks ms r') (h' : Delivers r' ks' ms' r'') :
    Delivers r (ks ++ ks') (ms ++ ms') r'' := by
  induction h with
  | nil r => exact h'
  | more hpush _ ih => exact .more hpush (ih h')
  | last hpush _ ih => exact .last hpush (ih h')

/-- The chunks of a message that keeps to its limit. -/
theorem delivers_chunksOf (t : UInt8) (c : UInt16) (payload : List UInt8)
    (o : Option (List UInt8))
    (hlimit : (o.getD []).length + payload.length ≤ maxMessageLen t) :
    Delivers (.holding c t o) (chunksOf t c payload) [⟨t, o.getD [] ++ payload⟩] .new := by
  fun_induction chunksOf t c payload generalizing o with
  | case1 payload hsmall =>
      have hpush := Reassembler.push_piece (c := c) o false hsmall hlimit
      exact .last hpush (.nil _)
  | case2 payload hlarge ih =>
      have htake : (payload.take maxChunkPayload).length = maxChunkPayload :=
        List.length_take_of_le (by omega)
      have hlength : (payload.take maxChunkPayload).length +
          (payload.drop maxChunkPayload).length = payload.length := by
        rw [← List.length_append, List.take_append_drop]
      have hpush := Reassembler.push_piece (c := c) (t := t) o true (le_of_eq htake)
        (by omega)
      refine .more hpush ?_
      have hrest := ih (some (o.getD [] ++ payload.take maxChunkPayload))
        (by rw [Option.getD_some, List.length_append]; omega)
      rw [Option.getD_some, List.append_assoc, List.take_append_drop] at hrest
      exact hrest

/-- The chunks of one message after the other. -/
theorem delivers_messages (ms : List (UInt16 × RawMessage))
    (hlimit : ∀ m ∈ ms, m.2.payload.length ≤ maxMessageLen m.2.msgType) :
    Delivers .new (ms.flatMap fun m => chunksOf m.2.msgType m.1 m.2.payload)
      (ms.map Prod.snd) .new := by
  induction ms with
  | nil => exact .nil _
  | cons m rest ih =>
      rw [List.flatMap_cons, List.map_cons]
      have hfirst := delivers_chunksOf m.2.msgType m.1 m.2.payload none
        (by rw [Option.getD_none, List.length_nil, Nat.zero_add]; exact hlimit m List.mem_cons_self)
      exact hfirst.append (ih fun m' hm' => hlimit m' (List.mem_cons_of_mem m hm'))

/-! ## Chunks on a stream -/

/-- The bytes of a chunk. -/
def chunkBytes (k : Chunk) : List UInt8 := k.1.bytes ++ k.2

/-- A chunk whose header can be read back, and says how long it is. -/
structure SelfDescribing (k : Chunk) : Prop where
  header : decode ChunkHeader.decode k.1.bytes = .ok k.1
  length : k.2.length = k.1.length.toNat

/-- The chunks of a message say of themselves what they are. -/
theorem selfDescribing_chunksOf (t : UInt8) (c : UInt16) (payload : List UInt8) :
    ∀ k ∈ chunksOf t c payload, SelfDescribing k := by
  have hone : ∀ {piece : List UInt8} (more : Bool), piece.length ≤ maxChunkPayload →
      SelfDescribing (chunkOf t c piece more) := fun more hpiece =>
    ⟨chunkOf_decode t c more hpiece, (chunkOf_length hpiece).symm⟩
  fun_induction chunksOf t c payload with
  | case1 payload hsmall =>
      intro k hk
      rw [List.mem_singleton.mp hk]
      exact hone false hsmall
  | case2 payload hlarge ih =>
      intro k hk
      rcases List.mem_cons.mp hk with rfl | hmem
      · exact hone true (List.length_take_le _ _)
      · exact ih k hmem

/-- Less than the chunk that it begins is not enough. -/
theorem takeChunk_cut {k : Chunk} (h : SelfDescribing k) {bytes : List UInt8}
    (hpre : bytes <+: chunkBytes k) (hshort : bytes.length < (chunkBytes k).length) :
    takeChunk ending bytes = .error (.io ending.error) := by
  have hheader := ChunkHeader.bytes_length k.1
  have htotal : (chunkBytes k).length = chunkHeaderLen + k.2.length := by
    rw [chunkBytes, List.length_append, hheader]
  by_cases hhead : chunkHeaderLen ≤ bytes.length
  · obtain ⟨missing, hmissing⟩ := hpre
    have htake : bytes.take chunkHeaderLen = k.1.bytes := by
      have hfront : (bytes ++ missing).take chunkHeaderLen = bytes.take chunkHeaderLen :=
        List.take_append_of_le_length hhead
      rw [← hfront, hmissing, ← hheader]
      exact List.take_left
    simp only [takeChunk, readExact, if_pos hhead, htake, h.header]
    rw [if_neg (by rw [List.length_drop, ← h.length]; omega)]
  · simp only [takeChunk, readExact, if_neg hhead]

/-- A beginning of a stream ends in the first chunk or after it. -/
theorem cut_cases {k : Chunk} (h : SelfDescribing k) {bytes rest : List UInt8}
    (hpre : bytes <+: chunkBytes k ++ rest) :
    (takeChunk ending bytes = .error (.io ending.error) ∧ bytes ≠ chunkBytes k ++ rest) ∨
      ∃ later, bytes = chunkBytes k ++ later ∧ later <+: rest := by
  by_cases hshort : bytes.length < (chunkBytes k).length
  · left
    have hbegin : bytes <+: chunkBytes k :=
      List.prefix_of_prefix_length_le hpre (List.prefix_append _ rest) (Nat.le_of_lt hshort)
    refine ⟨takeChunk_cut h hbegin hshort, ?_⟩
    rintro rfl
    rw [List.length_append] at hshort
    omega
  · right
    obtain ⟨later, rfl⟩ := List.prefix_of_prefix_length_le (List.prefix_append _ rest) hpre
      (Nat.le_of_not_lt hshort)
    exact ⟨later, rfl, (List.prefix_append_right_inj _).mp hpre⟩

/-- A whole chunk goes to the reassembler. -/
theorem readAll_chunkBytes {k : Chunk} (h : SelfDescribing k) (rest : List UInt8)
    (r : Reassembler) :
    readAll ending (chunkBytes k ++ rest) r =
      match r.push k.1 k.2 with
      | none => ([], .panicked)
      | some (.ok (some m), r) => (m :: (readAll ending rest r).1, (readAll ending rest r).2)
      | some (.ok none, r) => readAll ending rest r
      | some (.error e, _) => ([], .io (.undecodable e)) :=
  readAll_chunk (ChunkHeader.bytes_length k.1) h.header h.length rest r

/-- **A stream that breaks off.**  Wherever a stream of chunks ends, the reader gives the first
of the messages that come of them, and then the end of the stream. -/
theorem readAll_cut {r r' : Reassembler} {ks : List Chunk} {ms : List RawMessage}
    (h : Delivers r ks ms r') (hchunk : ∀ k ∈ ks, SelfDescribing k) {bytes : List UInt8}
    (hpre : bytes <+: ks.flatMap chunkBytes) :
    (readAll ending bytes r).1 <+: ms ∧ (readAll ending bytes r).2 = .io ending.error ∧
      (bytes = ks.flatMap chunkBytes → (readAll ending bytes r).1 = ms) := by
  induction h generalizing bytes with
  | nil r =>
      rw [List.flatMap_nil, List.prefix_nil] at hpre
      subst hpre
      have hshort : takeChunk ending [] = .error (.io ending.error) := rfl
      rw [readAll_short hshort]
      exact ⟨List.prefix_rfl, rfl, fun _ => rfl⟩
  | more hpush _ ih =>
      rw [List.flatMap_cons] at hpre ⊢
      rcases cut_cases (hchunk _ List.mem_cons_self) hpre with
        ⟨hshort, hne⟩ | ⟨later, rfl, hlater⟩
      · rw [readAll_short hshort]
        exact ⟨List.nil_prefix, rfl, fun hall => absurd hall hne⟩
      · rw [readAll_chunkBytes (hchunk _ List.mem_cons_self), hpush]
        obtain ⟨hbegin, hstop, hall⟩ :=
          ih (fun k hk => hchunk k (List.mem_cons_of_mem _ hk)) hlater
        exact ⟨hbegin, hstop, fun heq => hall (List.append_cancel_left heq)⟩
  | last hpush _ ih =>
      rw [List.flatMap_cons] at hpre ⊢
      rcases cut_cases (hchunk _ List.mem_cons_self) hpre with
        ⟨hshort, hne⟩ | ⟨later, rfl, hlater⟩
      · rw [readAll_short hshort]
        exact ⟨List.nil_prefix, rfl, fun hall => absurd hall hne⟩
      · rw [readAll_chunkBytes (hchunk _ List.mem_cons_self), hpush]
        obtain ⟨hbegin, hstop, hall⟩ :=
          ih (fun k hk => hchunk k (List.mem_cons_of_mem _ hk)) hlater
        exact ⟨(List.prefix_cons_inj _).mpr hbegin, hstop,
          fun heq => congrArg _ (hall (List.append_cancel_left heq))⟩

/-! ## The writer -/

/-- From `offset` on, `fragment` writes the chunks of what is left. -/
theorem fragmentFrom_bytes (t : UInt8) (c : UInt16) (payload : List UInt8) (offset : Nat)
    (hle : offset ≤ payload.length) :
    fragmentFrom t c payload offset =
      .ok ((chunksOf t c (payload.drop offset)).map chunkBytes) := by
  rw [fragmentFrom, chunksOf, List.length_drop]
  by_cases hmore : offset + maxChunkPayload < payload.length
  · have hstop : min (offset + maxChunkPayload) payload.length = offset + maxChunkPayload := by
      omega
    have hrest : ¬payload.length - offset ≤ maxChunkPayload := by omega
    simp only [hstop, hmore, Nat.add_sub_cancel_left, decide_true, fragmentChunk_eq, if_true,
      if_neg hrest, fragmentFrom_bytes t c payload (offset + maxChunkPayload) (by omega),
      List.drop_drop]
    rfl
  · have hstop : min (offset + maxChunkPayload) payload.length = payload.length := by omega
    have hrest : payload.length - offset ≤ maxChunkPayload := by omega
    have hall : (payload.drop offset).take (payload.length - offset) = payload.drop offset := by
      rw [← List.length_drop, List.take_length]
    simp only [hstop, hall, Nat.lt_irrefl, decide_false, fragmentChunk_eq, if_false, if_pos hrest]
    rfl
termination_by payload.length - offset
decreasing_by
  simp only [maxChunkPayload] at *
  omega

/-- The message that a call queues, with its channel. -/
def WriterOp.queued : WriterOp → Option (UInt16 × RawMessage)
  | .queueMessage msg videoChannel =>
      match msg.encodeBody with
      | .ok body => some (msg.channel videoChannel, ⟨msg.msgType, body⟩)
      | .error _ => none
  | .queueRaw msgType channel body => some (channel, ⟨msgType, body⟩)
  | .flush _ _ => none

/-- The chunks of the messages, one message after the other. -/
def chunksOfAll (ms : List (UInt16 × RawMessage)) : List Chunk :=
  ms.flatMap fun m => chunksOf m.2.msgType m.1 m.2.payload

/-- The chunks of two parts. -/
theorem chunksOfAll_append (ms ms' : List (UInt16 × RawMessage)) :
    chunksOfAll (ms ++ ms') = chunksOfAll ms ++ chunksOfAll ms' := List.flatMap_append

/-- What a call puts into the buffer are the bytes of its chunks. -/
theorem WriterOp.chunks_bytes (op : WriterOp) :
    ChunkWriter.chunkBytes op.chunks = (chunksOfAll op.queued.toList).flatMap chunkBytes := by
  have hfragment : ∀ (t : UInt8) (c : UInt16) (body : List UInt8),
      ChunkWriter.chunkBytes (fragment t c body) =
        (chunksOfAll [(c, ⟨t, body⟩)]).flatMap chunkBytes := by
    intro t c body
    rw [fragment, fragmentFrom_bytes t c body 0 (Nat.zero_le _), ChunkWriter.chunkBytes,
      chunksOfAll, List.flatMap_singleton, List.drop_zero, List.flatMap_def]
  cases op with
  | queueMessage msg videoChannel =>
      rw [WriterOp.chunks, WriterOp.queued, Message.toChunks]
      cases msg.encodeBody with
      | error e => rfl
      | ok body => exact hfragment ..
  | queueRaw t c body => exact hfragment t c body
  | flush writes closing => rfl

/-- What a writer has made of its calls. -/
theorem Sending.run_chunks (ops : List WriterOp) :
    (run ops).accepted ++ (run ops).writer.unwritten =
      (chunksOfAll (ops.filterMap WriterOp.queued)).flatMap chunkBytes := by
  rw [(run_bytes ops).2]
  induction ops with
  | nil => rfl
  | cons op rest ih =>
      rw [List.flatMap_cons, ih, op.chunks_bytes, List.filterMap_cons]
      cases op.queued with
      | none => rfl
      | some m =>
          rw [← List.flatMap_append]
          exact congrArg (List.flatMap chunkBytes) (chunksOfAll_append [m] _).symm

/-! ## The whole way -/

/-- What a reader has got of what a writer queued, over one stream. -/
structure Carries (queued : List RawMessage) (t : ReadTask) (ending : Ending) : Prop where
  /-- The messages come in their order, none lost and none twice. -/
  delivered : t.delivered <+: queued
  /-- Reading stops at the end of the stream only. -/
  stopped : ∀ stop, t.stopped = some stop → stop = .io ending.error

/-- However a writer queues messages and flushes them, however much the stream takes at a time,
wherever it breaks off, and however its bytes arrive and reads are cancelled: the reader delivers
the first of the messages, and all of them once the stream is flushed and read. -/
theorem carries_run (ending : Ending) (ops : List WriterOp)
    (hlimit : ∀ m ∈ ops.filterMap WriterOp.queued,
      m.2.payload.length ≤ maxMessageLen m.2.msgType) (events : List ReadEvent) :
    let sending := Sending.run ops
    let t := ReadTask.run ending sending.accepted events
    Carries ((ops.filterMap WriterOp.queued).map Prod.snd) t ending ∧
      (sending.writer.unwritten = [] → t.unread = [] →
        t.delivered = (ops.filterMap WriterOp.queued).map Prod.snd) := by
  intro sending t
  have hbytes := Sending.run_chunks ops
  have hchunk : ∀ k ∈ chunksOfAll (ops.filterMap WriterOp.queued), SelfDescribing k := by
    intro k hk
    obtain ⟨m, -, hmem⟩ := List.mem_flatMap.mp hk
    exact selfDescribing_chunksOf _ _ _ k hmem
  obtain ⟨hbegin, hstop, hall⟩ : _ ∧ (readAll ending sending.accepted .new).2 = _ ∧ _ :=
    readAll_cut (delivers_messages _ hlimit) hchunk
      (hbytes ▸ List.prefix_append sending.accepted sending.writer.unwritten)
  obtain ⟨hfaith, -⟩ := ReadTask.faithful_run ending sending.accepted events
  have hplain := hfaith.plain
  cases hstopped : t.stopped with
  | none =>
      rw [show (ReadTask.run ending sending.accepted events).stopped = none from hstopped] at hplain
      rw [hplain] at hbegin hall
      refine ⟨⟨(List.prefix_append _ _).trans hbegin, fun _ h => by cases hstopped.symm.trans h⟩,
        fun hflushed hread => ?_⟩
      have hend : (readAll ending (t.reader.held ++ t.unread) t.reassembler).1 = [] := by
        rw [hread, List.append_nil, (hfaith.ready hstopped).readAll_end]
      rw [hflushed, List.append_nil] at hbytes
      have hdone := hall hbytes
      rw [show (readAll ending (_ ++ _) _).1 = [] from hend, List.append_nil] at hdone
      exact hdone
  | some stop =>
      rw [show (ReadTask.run ending sending.accepted events).stopped = some stop from hstopped]
        at hplain
      rw [hplain] at hbegin hall hstop
      refine ⟨⟨hbegin, fun _ h => ?_⟩, fun hflushed _ => ?_⟩
      · cases hstopped.symm.trans h
        exact hstop
      · rw [hflushed, List.append_nil] at hbytes
        exact hall hbytes

/-! ## Decoded -/

/-- The message that a body is, if this build knows it. -/
def RawMessage.known (m : RawMessage) : Option Message :=
  match Message.decodeKnown m.msgType m.payload with
  | .ok message => message
  | .error _ => none

/-- The message that a call queues. -/
def WriterOp.message : WriterOp → Option Message
  | .queueMessage msg _ => some msg
  | .queueRaw msgType _ body => RawMessage.known ⟨msgType, body⟩
  | .flush _ _ => none

/-- The peer can read what the call queues, and does not find it too long. -/
def WriterOp.Sendable : WriterOp → Prop
  | .queueMessage msg _ =>
      msg.CountsFit ∧ (∃ body, msg.encodeBody = .ok body) ∧ msg.size ≤ maxMessageLen msg.msgType
  | .queueRaw msgType _ body =>
      (RawMessage.known ⟨msgType, body⟩).isSome = true ∧ body.length ≤ maxMessageLen msgType
  | .flush _ _ => True

/-- What a sendable call queues is within its limit, and is known. -/
theorem WriterOp.Sendable.queued {op : WriterOp} (h : op.Sendable) {m : UInt16 × RawMessage}
    (hm : op.queued = some m) :
    m.2.payload.length ≤ maxMessageLen m.2.msgType ∧ m.2.known = op.message ∧
      m.2.known.isSome = true := by
  cases op with
  | queueMessage msg videoChannel =>
      obtain ⟨hfit, ⟨body, hbody⟩, hsize⟩ := h
      rw [WriterOp.queued, hbody] at hm
      cases hm
      have hknown : RawMessage.known ⟨msg.msgType, body⟩ = some msg := by
        rw [RawMessage.known, (Message.readBack hfit body hbody).2]
      refine ⟨?_, hknown, hknown ▸ rfl⟩
      dsimp only
      rw [Message.encodeBody_length hbody]
      exact hsize
  | queueRaw msgType channel body =>
      cases hm
      exact ⟨h.2, rfl, h.1⟩
  | flush writes closing => cases hm

/-- What can be sent is known to the peer. -/
theorem filterMap_known {ops : List WriterOp} (h : ∀ op ∈ ops, op.Sendable) :
    ((ops.filterMap WriterOp.queued).map Prod.snd).filterMap RawMessage.known =
      ops.filterMap WriterOp.message := by
  rw [List.filterMap_map, List.filterMap_filterMap]
  apply List.filterMap_congr
  intro op hop
  cases hqueued : op.queued with
  | some m => exact ((h op hop).queued hqueued).2.1
  | none =>
      cases op with
      | queueMessage msg videoChannel =>
          obtain ⟨-, ⟨body, hbody⟩, -⟩ := h _ hop
          rw [WriterOp.queued, hbody] at hqueued
          cases hqueued
      | queueRaw msgType channel body => cases hqueued
      | flush writes closing => rfl

/-- A writer and a reader over one stream, with all that happens to them. -/
structure Wire where
  ops : List WriterOp
  ending : Ending
  events : List ReadEvent

namespace Wire

variable (w : Wire)

/-- The messages that are queued. -/
def queued : List Message := w.ops.filterMap WriterOp.message

/-- The reader, which is given what the stream has accepted. -/
def reader : ReadTask := .run w.ending (Sending.run w.ops).accepted w.events

/-- The messages that the reader has decoded. -/
def read : List Message := w.reader.delivered.filterMap RawMessage.known

/-- All that was queued is on the stream, and has been read. -/
def Drained : Prop := (Sending.run w.ops).writer.unwritten = [] ∧ w.reader.unread = []

variable {w}

/-- What can be sent keeps to the limits and is known. -/
theorem queued_known (h : ∀ op ∈ w.ops, op.Sendable) :
    ∀ m ∈ w.ops.filterMap WriterOp.queued,
      m.2.payload.length ≤ maxMessageLen m.2.msgType ∧ m.2.known.isSome = true := by
  intro m hm
  obtain ⟨op, hop, hsome⟩ := List.mem_filterMap.mp hm
  obtain ⟨hlimit, -, hknown⟩ := (h op hop).queued hsome
  exact ⟨hlimit, hknown⟩

/-- **What was read** is a beginning of what was queued. -/
theorem read_prefix (h : ∀ op ∈ w.ops, op.Sendable) : w.read <+: w.queued := by
  obtain ⟨hcarries, -⟩ :=
    carries_run w.ending w.ops (fun m hm => (queued_known h m hm).1) w.events
  rw [queued, ← filterMap_known h]
  exact hcarries.delivered.filterMap _

/-- **Once drained** it is all of it. -/
theorem read_drained (h : ∀ op ∈ w.ops, op.Sendable) (hdrained : w.Drained) :
    w.read = w.queued := by
  obtain ⟨-, hall⟩ := carries_run w.ending w.ops (fun m hm => (queued_known h m hm).1) w.events
  rw [queued, ← filterMap_known h, ← hall hdrained.1 hdrained.2]
  rfl

end Wire

/-- **Messages are carried.**  Let all that is queued be within the limits of the peer.  However
it is flushed, however much the stream takes at a time, wherever it breaks off, and however its
bytes arrive and reads are cancelled: what the peer decodes is a beginning of what was queued, it
never meets an error but the end of the stream, and it has decoded everything once the stream is
flushed and read. -/
theorem messages_carried (w : Wire) (hsendable : ∀ op ∈ w.ops, op.Sendable) :
    w.read <+: w.queued ∧ (∀ m ∈ w.reader.delivered, m.known.isSome = true) ∧
      (∀ stop, w.reader.stopped = some stop → stop = .io w.ending.error) ∧
      (w.Drained → w.read = w.queued) := by
  obtain ⟨hcarries, -⟩ :=
    carries_run w.ending w.ops (fun m hm => (Wire.queued_known hsendable m hm).1) w.events
  refine ⟨Wire.read_prefix hsendable, fun m hm => ?_, hcarries.stopped,
    Wire.read_drained hsendable⟩
  obtain ⟨queued, hmem, rfl⟩ := List.mem_map.mp (hcarries.delivered.subset hm)
  exact (Wire.queued_known hsendable queued hmem).2

/-- Two messages, of which the stream takes ten bytes and then the rest, and a reader that is
cancelled after each poll. -/
def twoPings : Wire where
  ops :=
    [.queueMessage (.ping ⟨1, 10⟩) Channel.control, .flush [.wrote 10] none,
     .queueMessage (.ping ⟨2, 20⟩) Channel.control, .flush [.wrote 100] (some (.ok ()))]
  ending := .eof
  events := (List.replicate 60 [.poll (some 7), .drop]).flatten

/-- Both pings arrive, though each poll is cancelled. -/
theorem messages_carried_pings : twoPings.read = [.ping ⟨1, 10⟩, .ping ⟨2, 20⟩] := by
  have hping : ∀ p : Ping, (WriterOp.queueMessage (.ping p) Channel.control).Sendable :=
    fun p => ⟨trivial, ⟨_, rfl⟩, show 12 ≤ maxMessageLen MsgType.ping by decide⟩
  have hsendable : ∀ op ∈ twoPings.ops, op.Sendable := by
    simp only [twoPings, List.forall_mem_cons, List.not_mem_nil, false_implies, implies_true,
      and_true]
    exact ⟨hping _, trivial, hping _, trivial⟩
  obtain ⟨-, -, -, hall⟩ := messages_carried twoPings hsendable
  exact hall ⟨by decide +kernel, by decide +kernel⟩

end Oxrdp
