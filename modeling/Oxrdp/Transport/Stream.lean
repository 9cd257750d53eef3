import Oxrdp.Proto.Fragmentation
import Oxrdp.Proto.Message

/-!
# Chunk IO over a byte stream

`stream.rs` of `oxtransport`.  A byte stream as its reader sees it is a list of bytes and
what comes after them.  `readReassembled` takes whole buffers off the stream and keeps its
progress in local variables; `ChunkReader` does the same job one partial read at a time,
with its progress in its own fields.

`next_message` is suspended only inside its two fill loops, so the future is the await it
stands at together with the local variables that live across it.  `ReadTask` is a caller
that polls the future, drops it whenever it likes, and calls again for the next message.
-/

namespace Oxrdp

open Coder

/-- The errors of the transport.  A codec error becomes an `InvalidData` error with its
text. -/
inductive IoError where
  | unexpectedEof
  | writeZero
  | undecodable (e : DecodeError)
  | unencodable (e : EncodeError)
  | stream (code : Nat)
  deriving DecidableEq, Repr

/-- What comes after the last byte of a stream. -/
inductive Ending where
  | eof
  | failed (e : IoError)
  deriving DecidableEq, Repr

/-- The error that a reader reports when it needs more than there is. -/
def Ending.error : Ending → IoError
  | .eof => .unexpectedEof
  | .failed e => e

/-- Why reading stopped: an error, or the process itself where a `push` would stop it. -/
inductive ReadStop where
  | io (e : IoError)
  | panicked
  deriving DecidableEq, Repr

/-! ## The plain reader -/

section Plain

variable (ending : Ending)

/-- Fill a buffer of `n` bytes, or fail. -/
def readExact (n : Nat) (bytes : List UInt8) : Except ReadStop (List UInt8 × List UInt8) :=
  if n ≤ bytes.length then
    .ok (bytes.take n, bytes.drop n)
  else
    .error (.io ending.error)

/-- The body of the loop of `read_reassembled` up to the push: one header, and the
payload it announces. -/
def takeChunk (bytes : List UInt8) : Except ReadStop (Chunk × List UInt8) :=
  match readExact ending chunkHeaderLen bytes with
  | .error e => .error e
  | .ok (headerBuf, rest) =>
      match decode ChunkHeader.decode headerBuf with
      | .error e => .error (.io (.undecodable e))
      | .ok header =>
          match readExact ending header.length.toNat rest with
          | .error e => .error e
          | .ok (payload, rest) => .ok ((header, payload), rest)

variable {ending}

theorem readExact_ok {n : Nat} {bytes buf rest : List UInt8}
    (h : readExact ending n bytes = .ok (buf, rest)) : buf.length = n ∧ bytes = buf ++ rest := by
  unfold readExact at h
  split at h
  · rename_i hle
    cases h
    exact ⟨List.length_take_of_le hle, (List.take_append_drop n bytes).symm⟩
  · cases h

theorem readExact_append {buf : List UInt8} (rest : List UInt8) :
    readExact ending buf.length (buf ++ rest) = .ok (buf, rest) := by
  simp [readExact]

/-- A chunk that was taken off the stream stood at its start. -/
theorem takeChunk_ok {bytes rest : List UInt8} {header : ChunkHeader} {payload : List UInt8}
    (h : takeChunk ending bytes = .ok ((header, payload), rest)) :
    ∃ headerBuf, headerBuf.length = chunkHeaderLen ∧
      decode ChunkHeader.decode headerBuf = .ok header ∧
      payload.length = header.length.toNat ∧ bytes = headerBuf ++ payload ++ rest := by
  unfold takeChunk at h
  split at h
  · cases h
  · rename_i headerBuf rest₁ hhead
    split at h
    · cases h
    · rename_i header' hdec
      split at h
      · cases h
      · rename_i payload' rest₂ hpay
        cases h
        obtain ⟨hlen, hbytes⟩ := readExact_ok hhead
        obtain ⟨hlen', hrest⟩ := readExact_ok hpay
        exact ⟨headerBuf, hlen, hdec, hlen', by rw [hbytes, hrest, List.append_assoc]⟩

/-- A chunk at the start of the stream is taken off it. -/
theorem takeChunk_append {headerBuf payload : List UInt8} {header : ChunkHeader}
    (hlen : headerBuf.length = chunkHeaderLen)
    (hdec : decode ChunkHeader.decode headerBuf = .ok header)
    (hpay : payload.length = header.length.toNat) (rest : List UInt8) :
    takeChunk ending (headerBuf ++ payload ++ rest) = .ok ((header, payload), rest) := by
  have hhead : readExact ending chunkHeaderLen (headerBuf ++ (payload ++ rest)) =
      .ok (headerBuf, payload ++ rest) := by
    rw [← hlen]
    exact readExact_append _
  have hbody : readExact ending header.length.toNat (payload ++ rest) = .ok (payload, rest) := by
    rw [← hpay]
    exact readExact_append _
  simp only [takeChunk, List.append_assoc, hhead, hdec, hbody]

theorem takeChunk_shorter {bytes rest : List UInt8} {chunk : Chunk}
    (h : takeChunk ending bytes = .ok (chunk, rest)) : rest.length < bytes.length := by
  obtain ⟨headerBuf, hlen, -, -, rfl⟩ := takeChunk_ok h
  simp only [List.length_append, hlen, chunkHeaderLen]
  omega

variable (ending)

/-- Read chunks until one complete message is reassembled. -/
def readReassembled (bytes : List UInt8) (r : Reassembler) :
    Except ReadStop (RawMessage × List UInt8 × Reassembler) :=
  match _h : takeChunk ending bytes with
  | .error e => .error e
  | .ok ((header, payload), rest) =>
      match r.push header payload with
      | none => .error .panicked
      | some (.ok (some m), r) => .ok (m, rest, r)
      | some (.ok none, r) => readReassembled rest r
      | some (.error e, _) => .error (.io (.undecodable e))
termination_by bytes.length
decreasing_by exact takeChunk_shorter _h

variable {ending}

theorem readReassembled_shorter {bytes rest : List UInt8} {r r' : Reassembler} {m : RawMessage}
    (h : readReassembled ending bytes r = .ok (m, rest, r')) : rest.length < bytes.length := by
  fun_induction readReassembled ending bytes r with
  | case1 bytes r e hchunk => cases h
  | case2 bytes r header payload rest' hchunk hpush => cases h
  | case3 bytes r header payload rest' hchunk m' r'' hpush =>
      cases h
      exact takeChunk_shorter hchunk
  | case4 bytes r header payload rest' hchunk r'' hpush ih =>
      exact (ih h).trans (takeChunk_shorter hchunk)
  | case5 bytes r header payload rest' hchunk e r'' hpush => cases h

variable (ending)

/-- Read message after message with one reassembler, until an error. -/
def readAll (bytes : List UInt8) (r : Reassembler) : List RawMessage × ReadStop :=
  match _h : readReassembled ending bytes r with
  | .error e => ([], e)
  | .ok (m, rest, r) => (m :: (readAll rest r).1, (readAll rest r).2)
termination_by bytes.length
decreasing_by all_goals exact readReassembled_shorter _h

end Plain

/-! ## The resumable reader -/

/-- Where a partially-read chunk left off. -/
inductive ReadState where
  | header (filled : Nat)
  | payload (header : ChunkHeader) (filled : Nat)
  deriving DecidableEq, Repr

/-- A cancel-safe chunk reader. -/
structure ChunkReader where
  headerBuf : List UInt8 := List.replicate chunkHeaderLen 0
  payload : List UInt8 := []
  state : ReadState := .header 0
  deriving DecidableEq, Repr

/-- Where `next_message` is suspended, with the local variables that live across the
await. -/
inductive Await where
  | header (filled : Nat)
  | payload (header : ChunkHeader) (filled : Nat)
  deriving DecidableEq, Repr

/-- How `next_message` leaves the processor. -/
inductive Outcome where
  | waiting (point : Await)
  | returned (result : Except ReadStop RawMessage)

/-- What `next_message` did between two awaits.  `pushed` are the bytes of the chunk it
handed to the reassembler, if it did. -/
structure Progress where
  reader : ChunkReader
  reassembler : Reassembler
  outcome : Outcome
  pushed : List UInt8 := []

/-- `buf[filled..filled + got.len()]` overwritten with what was read. -/
def fillAt (buf : List UInt8) (filled : Nat) (got : List UInt8) : List UInt8 :=
  buf.take filled ++ got ++ buf.drop (filled + got.length)

namespace ChunkReader

/-- The payload loop with `filled` bytes in place, and what follows it. -/
def payloadLoop (c : ChunkReader) (r : Reassembler) (header : ChunkHeader) (filled : Nat) :
    Progress :=
  if filled < c.payload.length then
    { reader := c, reassembler := r, outcome := .waiting (.payload header filled) }
  else
    let c := { c with state := .header 0 }
    let pushed := c.headerBuf ++ c.payload
    match r.push header c.payload with
    | none => { reader := c, reassembler := r, outcome := .returned (.error .panicked), pushed }
    | some (.ok (some m), r) =>
        { reader := c, reassembler := r, outcome := .returned (.ok m), pushed }
    -- `continue`: the next header has no byte in place, so its loop waits at once
    | some (.ok none, r) =>
        { reader := c, reassembler := r, outcome := .waiting (.header 0), pushed }
    | some (.error e, r) =>
        { reader := c, reassembler := r,
          outcome := .returned (.error (.io (.undecodable e))), pushed }

/-- The header loop with `filled` bytes in place, and what follows it. -/
def headerLoop (c : ChunkReader) (r : Reassembler) (filled : Nat) : Progress :=
  if filled < chunkHeaderLen then
    { reader := c, reassembler := r, outcome := .waiting (.header filled) }
  else
    match decode ChunkHeader.decode c.headerBuf with
    | .error e =>
        { reader := c, reassembler := r, outcome := .returned (.error (.io (.undecodable e))) }
    | .ok header =>
        let c :=
          { c with payload := List.replicate header.length.toNat 0,
                   state := .payload header 0 }
        c.payloadLoop r header 0

/-- A call of `next_message`, up to its first await. -/
def nextMessage (c : ChunkReader) (r : Reassembler) : Progress :=
  match c.state with
  | .header filled => c.headerLoop r filled
  | .payload header filled => c.payloadLoop r header filled

/-- The size of the buffer that the pending `read` was given. -/
def room (c : ChunkReader) : Await → Nat
  | .header filled => chunkHeaderLen - filled
  | .payload _ filled => c.payload.length - filled

/-- The pending `read` has returned `got`; no bytes mean the end of the stream. -/
def resume (c : ChunkReader) (r : Reassembler) (point : Await) (got : List UInt8) : Progress :=
  match point with
  | .header filled =>
      if got.length = 0 then
        { reader := { c with state := .header filled }, reassembler := r,
          outcome := .returned (.error (.io .unexpectedEof)) }
      else
        let filled' := filled + got.length
        let c := { c with headerBuf := fillAt c.headerBuf filled got, state := .header filled' }
        c.headerLoop r filled'
  | .payload header filled =>
      if got.length = 0 then
        { reader := { c with state := .payload header filled }, reassembler := r,
          outcome := .returned (.error (.io .unexpectedEof)) }
      else
        let filled' := filled + got.length
        let c :=
          { c with payload := fillAt c.payload filled got, state := .payload header filled' }
        c.payloadLoop r header filled'

/-- The bytes of the current chunk that are already in place. -/
def held (c : ChunkReader) : List UInt8 :=
  match c.state with
  | .header filled => c.headerBuf.take filled
  | .payload _ filled => c.headerBuf ++ c.payload.take filled

end ChunkReader

/-! ## A caller that may cancel -/

/-- A caller that reads message after message until an error.  `future` is the call in
progress, if it was polled; `handed` collects the bytes of all chunks that were handed to
the reassembler. -/
structure ReadTask where
  reader : ChunkReader
  reassembler : Reassembler
  future : Option Await
  unread : List UInt8
  delivered : List RawMessage
  stopped : Option ReadStop
  handed : List UInt8

/-- What can happen to the call in progress: it is polled, with its read still pending or
with up to `n` bytes for it, or it is dropped. -/
inductive ReadEvent where
  | poll (ready : Option Nat)
  | drop
  deriving DecidableEq, Repr

namespace ReadTask

def start (input : List UInt8) : ReadTask where
  reader := {}
  reassembler := .new
  future := none
  unread := input
  delivered := []
  stopped := none
  handed := []

/-- The caller after the call in progress ran on. -/
def after (t : ReadTask) (p : Progress) : ReadTask :=
  let t := { t with reader := p.reader, reassembler := p.reassembler,
                    handed := t.handed ++ p.pushed }
  match p.outcome with
  | .waiting point => { t with future := some point }
  | .returned (.ok m) => { t with future := none, delivered := t.delivered ++ [m] }
  | .returned (.error e) => { t with future := none, stopped := some e }

/-- There is a call in progress, and it stands at its first await or behind. -/
def call (t : ReadTask) : ReadTask :=
  match t.future with
  | some _ => t
  | none => t.after (t.reader.nextMessage t.reassembler)

/-- The pending read completes: with at least one byte and at most as many as fit, or with
what comes after the last byte. -/
def readReady (ending : Ending) (t : ReadTask) (n : Nat) : ReadTask :=
  match t.future with
  | none => t
  | some point =>
      if t.unread = [] then
        match ending with
        | .eof => t.after (t.reader.resume t.reassembler point [])
        | .failed e =>
            t.after { reader := t.reader, reassembler := t.reassembler,
                      outcome := .returned (.error (.io e)) }
      else
        let count := max 1 (min n (t.reader.room point))
        let t' := { t with unread := t.unread.drop count }
        t'.after (t.reader.resume t.reassembler point (t.unread.take count))

def step (ending : Ending) (t : ReadTask) (event : ReadEvent) : ReadTask :=
  if t.stopped.isSome then
    t
  else
    match event with
    | .drop => { t with future := none }
    | .poll none => t.call
    | .poll (some n) => t.call.readReady ending n

def run (ending : Ending) (input : List UInt8) (events : List ReadEvent) : ReadTask :=
  events.foldl (step ending) (start input)

end ReadTask

end Oxrdp
