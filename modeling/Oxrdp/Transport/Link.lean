import Oxrdp.Proto.Reassembly
import Oxrdp.Transport.Resume

/-!
# One end of a connection

`read_message` and `write_message` of `stream.rs`, on one end of a connection: what it has
not read yet, what it has sent, and which of its writes fail.  A failed write may leave a
part of a chunk on the wire; nothing is sent after it, so that part is left out of `sent`.

A message that fits one chunk is read back by the other end as it was written.
-/

namespace Oxrdp

/-- One end of a connection. -/
structure Link where
  unread : List UInt8
  ending : Ending
  sent : List UInt8 := []
  /-- How many messages were written so far. -/
  writes : Nat := 0
  /-- The error of the `n`-th write, if it fails. -/
  writeFails : Nat → Option IoError := fun _ => none

namespace Link

/-- Send one protocol message. -/
def writeMessage (link : Link) (msg : Message) (videoChannel : UInt16) :
    Except IoError Unit × Link :=
  match msg.toChunks videoChannel with
  | .error e => (.error (.unencodable e), link)
  | .ok chunks =>
      match link.writeFails link.writes with
      | some e => (.error e, { link with writes := link.writes + 1 })
      | none =>
          (.ok (), { link with writes := link.writes + 1,
                               sent := link.sent ++ chunks.flatten })

/-- Read chunks until a complete message is reassembled, then decode it; nothing for a type
this build does not implement. -/
def readMessage (link : Link) (r : Reassembler) :
    Except ReadStop (Option Message) × Link × Reassembler :=
  match readReassembled link.ending link.unread r with
  | .error e => (.error e, link, r)
  | .ok (raw, rest, r) =>
      match Message.decodeKnown raw.msgType raw.payload with
      | .error e => (.error (.io (.undecodable e)), { link with unread := rest }, r)
      | .ok msg => (.ok msg, { link with unread := rest }, r)

end Link

/-! ## A message on the wire -/

/-- The bytes of a message on the control channel, or on the one it has of its own. -/
def wire (msg : Message) : List UInt8 :=
  match msg.toChunks Channel.control with
  | .ok chunks => chunks.flatten
  | .error _ => []

/-- The message encodes, into a body that one chunk can carry and its type may have. -/
structure OneChunk (msg : Message) : Prop where
  fit : msg.CountsFit
  encodes : ∃ body, msg.encodeBody = .ok body
  size : msg.size ≤ maxChunkPayload ∧ msg.size ≤ maxMessageLen msg.msgType

theorem fragment_one {t : UInt8} {c : UInt16} {body : List UInt8}
    (h : body.length ≤ maxChunkPayload) :
    fragment t c body = .ok [(chunkOf t c body false).1.bytes ++ body] := by
  have hstop : min (0 + maxChunkPayload) body.length = body.length := by omega
  rw [fragment, fragmentFrom]
  simp only [hstop, List.drop_zero, Nat.sub_zero, List.take_length, Nat.lt_irrefl,
    decide_false, fragmentChunk_eq, if_false]
  rfl

/-- A single chunk on an idle channel is a whole message. -/
theorem push_one {t : UInt8} {c : UInt16} {body : List UInt8}
    (h : body.length ≤ maxChunkPayload) (hmax : body.length ≤ maxMessageLen t) :
    Reassembler.new.push (chunkOf t c body false).1 body =
      some (.ok (some ⟨t, body⟩), .new) := by
  have hlen : (chunkOf t c body false).1.length.toNat = body.length := chunkOf_length h
  have hmore : (chunkOf t c body false).1.hasMore = false := chunkOf_hasMore t c body false
  have hidle : (!(chunkOf t c body false).1.hasMore &&
      (Reassembler.new.pending.lookup (chunkOf t c body false).1.channel).isNone) = true := by
    rw [hmore]
    rfl
  unfold Reassembler.push
  rw [if_neg (not_not.mpr hlen.symm), if_pos hidle]
  simp only [chunkOf_msgType, Reassembler.checkLen_ok hmax]

/-- A message at the front of a stream is reassembled, and the bytes behind it stay
unread. -/
theorem readReassembled_wire {msg : Message} (h : OneChunk msg) (ending : Ending)
    (rest : List UInt8) :
    ∃ body, readReassembled ending (wire msg ++ rest) .new =
        .ok (⟨msg.msgType, body⟩, rest, .new) ∧
      Message.decodeKnown msg.msgType body = .ok (some msg) := by
  obtain ⟨body, hbody⟩ := h.encodes
  have hsize : body.length = msg.size := Message.encodeBody_length hbody
  have hchunk : body.length ≤ maxChunkPayload := hsize ▸ h.size.1
  have hmax : body.length ≤ maxMessageLen msg.msgType := hsize ▸ h.size.2
  let chunk := chunkOf msg.msgType (msg.channel Channel.control) body false
  have hwire : wire msg = chunk.1.bytes ++ body := by
    have hone : msg.toChunks Channel.control = .ok [chunk.1.bytes ++ body] := by
      rw [Message.toChunks, hbody]
      exact fragment_one hchunk
    rw [wire, hone]
    exact List.append_nil _
  have htake : takeChunk ending (wire msg ++ rest) = .ok (chunk, rest) := by
    rw [hwire]
    exact takeChunk_append (ChunkHeader.bytes_length _) (chunkOf_decode _ _ false hchunk)
      (chunkOf_length hchunk).symm rest
  refine ⟨body, ?_, (Message.readBack h.fit body hbody).2⟩
  rw [readReassembled_eq, htake]
  simp only [chunk, chunkOf_payload, push_one hchunk hmax]

/-- **One chunk over the wire.**  What one end writes, the other reads back. -/
theorem readMessage_wire {msg : Message} (h : OneChunk msg) {link : Link} {rest : List UInt8}
    (hunread : link.unread = wire msg ++ rest) :
    link.readMessage .new = (.ok (some msg), { link with unread := rest }, .new) := by
  obtain ⟨body, hread, hdec⟩ := readReassembled_wire h link.ending rest
  simp only [Link.readMessage, hunread, hread, hdec]

/-- A write that does not fail sends the message. -/
theorem Link.writeMessage_sent {link : Link} (h : ∀ n, link.writeFails n = none)
    (msg : Message) :
    (link.writeMessage msg Channel.control).2.sent = link.sent ++ wire msg ∧
      (link.writeMessage msg Channel.control).2.writeFails = link.writeFails := by
  unfold Link.writeMessage wire
  cases msg.toChunks Channel.control with
  | error e => exact ⟨(List.append_nil _).symm, rfl⟩
  | ok chunks =>
      rw [h link.writes]
      exact ⟨rfl, rfl⟩

/-- A message that encodes is sent. -/
theorem Link.writeMessage_ok {link : Link} (h : ∀ n, link.writeFails n = none)
    {msg : Message} {body : List UInt8} (hbody : msg.encodeBody = .ok body) (c : UInt16) :
    ∃ link', link.writeMessage msg c = (.ok (), link') ∧
      link'.unread = link.unread ∧ link'.ending = link.ending := by
  obtain ⟨frames, hframes, -⟩ :=
    fragmentFrom_read msg.msgType (msg.channel c) body 0 (Nat.zero_le _)
  have hchunks : msg.toChunks c = .ok frames := by
    rw [Message.toChunks, hbody]
    exact hframes
  unfold Link.writeMessage
  rw [hchunks, h link.writes]
  exact ⟨_, rfl, rfl, rfl⟩

end Oxrdp
