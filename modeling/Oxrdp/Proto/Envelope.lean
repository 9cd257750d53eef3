import Oxrdp.Lib.Table
import Oxrdp.Pdu.Cursor

/-!
# Chunk framing

`envelope.rs` of `oxproto`: the 8-byte chunk header, the fragmentation of a
message into chunks of at most `maxChunkPayload` bytes, the per-type size
limits, and the per-channel reassembly of what arrives.

`push` returns `none` where the source would stop the process: when a
subtraction on `pendingBytes` underflows, or when the entry it has just
inserted is missing.  That neither happens is proved, not assumed.  Buffer
lengths are natural numbers; the sums of `usize` lengths taken here stay far
below its range.
-/

namespace Oxrdp

open Coder

/-! ## Message type codes, channels and limits -/

namespace MsgType

@[match_pattern] def clientHello : UInt8 := 0x01
@[match_pattern] def serverHello : UInt8 := 0x02
@[match_pattern] def error : UInt8 := 0x03
@[match_pattern] def close : UInt8 := 0x04
@[match_pattern] def ping : UInt8 := 0x05
@[match_pattern] def pong : UInt8 := 0x06
@[match_pattern] def qualityHint : UInt8 := 0x07
@[match_pattern] def displayLayout : UInt8 := 0x08
@[match_pattern] def windowOpened : UInt8 := 0x10
@[match_pattern] def windowClosed : UInt8 := 0x11
@[match_pattern] def windowGeometry : UInt8 := 0x12
@[match_pattern] def windowTitle : UInt8 := 0x13
@[match_pattern] def windowState : UInt8 := 0x14
@[match_pattern] def windowZorder : UInt8 := 0x15
@[match_pattern] def windowIcon : UInt8 := 0x16
@[match_pattern] def frameData : UInt8 := 0x20
@[match_pattern] def frameAck : UInt8 := 0x21
@[match_pattern] def pointerEvent : UInt8 := 0x30
@[match_pattern] def keyEvent : UInt8 := 0x31
@[match_pattern] def textInput : UInt8 := 0x32
@[match_pattern] def modifierSync : UInt8 := 0x33
@[match_pattern] def windowControl : UInt8 := 0x38
@[match_pattern] def cursorShape : UInt8 := 0x40
@[match_pattern] def cursorPosition : UInt8 := 0x41
@[match_pattern] def cursorVisibility : UInt8 := 0x42

end MsgType

namespace Channel

def control : UInt16 := 0
def input : UInt16 := 1
def cursor : UInt16 := 2
def window : UInt16 := 3
def videoBase : UInt16 := 16

end Channel

/-- Bytes in a chunk header. -/
def chunkHeaderLen : Nat := 8

/-- Largest payload carried by a single chunk. -/
def maxChunkPayload : Nat := 32 * 1024

/-- Most channels that may hold a partially reassembled message at once. -/
def maxPendingChannels : Nat := 64

/-- Total bytes buffered across all partially reassembled messages. -/
def maxPendingBytes : Nat := 64 * 1024 * 1024

/-- Maximum size of a fully reassembled message of this type. -/
def maxMessageLen (msgType : UInt8) : Nat :=
  if msgType = MsgType.windowOpened ∨ msgType = MsgType.windowTitle ∨
      msgType = MsgType.displayLayout ∨ msgType = MsgType.error then 8 * 1024
  else if msgType = MsgType.cursorShape then 256 * 1024
  else if msgType = MsgType.windowIcon then 1024 * 1024
  else if msgType = MsgType.frameData then 32 * (1024 * 1024)
  else 4 * 1024

/-! ## The chunk header -/

/-- More chunks follow for this message on this channel. -/
def ChunkFlags.fragMore : UInt8 := 0x01

/-- Bits that are defined. -/
def ChunkFlags.known : UInt8 := ChunkFlags.fragMore

structure ChunkHeader where
  msgType : UInt8
  flags : UInt8
  channel : UInt16
  length : UInt32
  deriving DecidableEq, Repr

namespace ChunkHeader

/-- Whether more chunks follow for this message. -/
def hasMore (h : ChunkHeader) : Bool := h.flags &&& ChunkFlags.fragMore != 0

def encode (h : ChunkHeader) : Encoder Unit := do
  writeU8 h.msgType "chunk type"
  writeU8 h.flags "chunk flags"
  writeU16Le h.channel "chunk channel"
  writeU32Le h.length "chunk length"
  pure ()

/-- Reserved flag bits are cleared, not rejected; a payload length above the
chunk limit is. -/
def decode : Decoder ChunkHeader := do
  let msgType ← readU8 "chunk type"
  let flags ← readU8 "chunk flags"
  let channel ← readU16Le "chunk channel"
  let length ← readU32Le "chunk length"
  let flags := flags &&& ChunkFlags.known
  if length.toNat > maxChunkPayload then
    throw (.invalidLength "oxproto chunk" "chunk payload exceeds MAX_CHUNK_PAYLOAD")
  else
    pure { msgType, flags, channel, length }

end ChunkHeader

/-! ## Fragmentation -/

/-- One pass of the loop in `fragment`: the chunk for `payload[offset..end]`. -/
def fragmentChunk (msgType : UInt8) (channel : UInt16) (piece : List UInt8)
    (more : Bool) : EncodeResult (List UInt8) :=
  encodeVec (chunkHeaderLen + piece.length) do
    ChunkHeader.encode
      { msgType, flags := if more then ChunkFlags.fragMore else 0, channel,
        length := UInt32.ofNat piece.length }
    writeSlice piece "chunk payload"

/-- The loop of `fragment`, from `offset` on. -/
def fragmentFrom (msgType : UInt8) (channel : UInt16) (payload : List UInt8)
    (offset : Nat) : EncodeResult (List (List UInt8)) := do
  let stop := min (offset + maxChunkPayload) payload.length
  let piece := (payload.drop offset).take (stop - offset)
  let buf ← fragmentChunk msgType channel piece (decide (stop < payload.length))
  if stop < payload.length then
    let rest ← fragmentFrom msgType channel payload stop
    pure (buf :: rest)
  else
    pure [buf]
termination_by payload.length - offset
decreasing_by
  simp only [maxChunkPayload] at *
  omega

/-- Split `payload` into chunk-sized frames, returning the complete wire bytes.
An empty payload still produces one chunk. -/
def fragment (msgType : UInt8) (channel : UInt16) (payload : List UInt8) :
    EncodeResult (List (List UInt8)) :=
  fragmentFrom msgType channel payload 0

/-! ## Reassembly -/

/-- A fully reassembled message: its type and its body bytes. -/
structure RawMessage where
  msgType : UInt8
  payload : List UInt8
  deriving DecidableEq, Repr

/-- A message of which some chunks have arrived. -/
structure Pending where
  msgType : UInt8
  buf : List UInt8
  deriving DecidableEq, Repr

/-- Per-channel reassembly of fragmented messages. -/
structure Reassembler where
  pending : Table UInt16 Pending
  pendingBytes : Nat

def checkLen (msgType : UInt8) (len : Nat) : DecodeResult Unit :=
  if len > maxMessageLen msgType then
    .error (.invalidLength "oxproto reassembly"
      "message exceeds the maximum size for its type")
  else
    .ok ()

/-- `a -= b` on a `usize`: stops the process where it would underflow. -/
def checkedSub (a b : Nat) : Option Nat := if b ≤ a then some (a - b) else none

namespace Reassembler

/-- A reassembler with no messages in flight. -/
def new : Reassembler := ⟨∅, 0⟩

/-- How many channels currently have a partial message. -/
def pendingChannels (r : Reassembler) : Nat := Table.size r.pending

/-- Remove a channel's entry and take its length off the account. -/
def dropPending (r : Reassembler) (channel : UInt16) : Option Reassembler := do
  let dropped := (r.pending.lookup channel).elim 0 fun p => p.buf.length
  let pendingBytes ← checkedSub r.pendingBytes dropped
  pure { pending := r.pending.erase channel, pendingBytes }

/-- Feed one chunk: the complete message once its final chunk arrives, nothing
while more are expected. -/
def push (r : Reassembler) (header : ChunkHeader) (payload : List UInt8) :
    Option (DecodeResult (Option RawMessage) × Reassembler) :=
  if payload.length ≠ header.length.toNat then
    some (.error (.invalidLength "oxproto reassembly"
      "payload length does not match the chunk header"), r)
  -- fast path: an unfragmented message with nothing pending on the channel
  else if !header.hasMore && (r.pending.lookup header.channel).isNone then
    match checkLen header.msgType payload.length with
    | .error e => some (.error e, r)
    | .ok () => some (.ok (some ⟨header.msgType, payload⟩), r)
  else if (r.pending.lookup header.channel).isNone &&
      decide (r.pendingChannels ≥ maxPendingChannels) then
    some (.error (.invalidLength "oxproto reassembly"
      "too many channels with a partially reassembled message"), r)
  else if r.pendingBytes + payload.length > maxPendingBytes then
    some (.error (.invalidLength "oxproto reassembly"
      "total buffered reassembly bytes exceeded"), r)
  else
    let entry := (r.pending.lookup header.channel).getD ⟨header.msgType, []⟩
    let r := { r with pending := r.pending.insert header.channel entry }
    if entry.msgType ≠ header.msgType then do
      let r ← r.dropPending header.channel
      some (.error (.invalidField "oxproto reassembly" "type"
        "chunk type differs from the message in flight on this channel"), r)
    else
      match checkLen header.msgType (entry.buf.length + payload.length) with
      | .error e => do
          let r ← r.dropPending header.channel
          some (.error e, r)
      | .ok () =>
          let grown := { entry with buf := entry.buf ++ payload }
          let r : Reassembler :=
            { pending := r.pending.insert header.channel grown,
              pendingBytes := r.pendingBytes + payload.length }
          if header.hasMore then
            some (.ok none, r)
          else do
            let done ← r.pending.lookup header.channel
            let pendingBytes ← checkedSub r.pendingBytes done.buf.length
            some (.ok (some ⟨done.msgType, done.buf⟩),
              { pending := r.pending.erase header.channel, pendingBytes })

end Reassembler

end Oxrdp
