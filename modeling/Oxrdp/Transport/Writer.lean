import Mathlib.Data.List.Induction
import Oxrdp.Transport.Stream

/-!
# A cancelled write loses nothing

`ChunkWriter` of `stream.rs`, and the outgoing half of `ClientSession`, which has the same
buffer and the same two operations.  Queueing appends whole messages; `flush` writes from
the offset on, and is the only part that touches the stream.

`flush` is suspended in its `write` or in the stream's own flush at the end, and keeps
nothing in local variables, so a dropped flush is one that runs out of completed writes.
-/

namespace Oxrdp

/-- A cancel-safe chunked-message writer: the bytes queued and not yet fully written, and how
many of them are already on the wire. -/
structure ChunkWriter where
  pending : List UInt8 := []
  written : Nat := 0
  deriving DecidableEq, Repr

/-- What became of one `write`: the stream took up to `n` of the bytes offered, or failed. -/
inductive WriteOutcome where
  | wrote (n : Nat)
  | failed (e : IoError)
  deriving DecidableEq, Repr

/-- How a flush ended. -/
inductive FlushEnd where
  | done
  | failed (e : IoError)
  | cancelled
  deriving DecidableEq, Repr

namespace ChunkWriter

/-- Append the chunks to the buffer, or nothing where they could not be made. -/
def queueChunks (w : ChunkWriter) (chunks : EncodeResult (List (List UInt8))) :
    Except IoError Unit × ChunkWriter :=
  match chunks with
  | .error e => (.error (.unencodable e), w)
  | .ok chunks => (.ok (), { w with pending := chunks.foldl (· ++ ·) w.pending })

/-- Queue a message's chunks. -/
def queueMessage (w : ChunkWriter) (msg : Message) (videoChannel : UInt16) :
    Except IoError Unit × ChunkWriter :=
  w.queueChunks (msg.toChunks videoChannel)

/-- Queue a pre-encoded body's chunks. -/
def queueRaw (w : ChunkWriter) (msgType : UInt8) (channel : UInt16) (body : List UInt8) :
    Except IoError Unit × ChunkWriter :=
  w.queueChunks (fragment msgType channel body)

/-- Write out everything queued so far.  `writes` are the outcomes of the writes that complete
before the future is dropped, `closing` that of the stream's own flush.  The last component
is what the stream has accepted. -/
def flush (w : ChunkWriter) (closing : Option (Except IoError Unit))
    (writes : List WriteOutcome) : FlushEnd × ChunkWriter × List UInt8 :=
  if w.written < w.pending.length then
    match writes with
    | [] => (.cancelled, w, [])
    | .failed e :: _ => (.failed e, w, [])
    | .wrote n :: rest =>
        let n := min n (w.pending.length - w.written)
        if n = 0 then
          (.failed .writeZero, w, [])
        else
          let r := flush { w with written := w.written + n } closing rest
          (r.1, r.2.1, (w.pending.drop w.written).take n ++ r.2.2)
  else
    let w : ChunkWriter := { pending := [], written := 0 }
    match closing with
    | none => (.cancelled, w, [])
    | some (.error e) => (.failed e, w, [])
    | some (.ok ()) => (.done, w, [])

/-- The bytes that are queued and have not been written. -/
def unwritten (w : ChunkWriter) : List UInt8 := w.pending.drop w.written

/-- The offset lies in the buffer. -/
def InRange (w : ChunkWriter) : Prop := w.written ≤ w.pending.length

theorem foldl_append_eq (chunks : List (List UInt8)) (buf : List UInt8) :
    chunks.foldl (· ++ ·) buf = buf ++ chunks.flatten := by
  induction chunks generalizing buf with
  | nil => simp
  | cons chunk rest ih =>
      rw [List.foldl_cons, ih, List.flatten_cons, List.append_assoc]

/-- The bytes of chunks that could be made. -/
def chunkBytes (chunks : EncodeResult (List (List UInt8))) : List UInt8 :=
  match chunks with
  | .ok chunks => chunks.flatten
  | .error _ => []

/-- Queueing adds the bytes of the chunks behind what is unwritten, and a failed call leaves
the writer as it was. -/
theorem queueChunks_spec {w : ChunkWriter} (h : w.InRange)
    (chunks : EncodeResult (List (List UInt8))) :
    (w.queueChunks chunks).2.InRange ∧
      (w.queueChunks chunks).2.unwritten = w.unwritten ++ chunkBytes chunks ∧
      ((w.queueChunks chunks).1 ≠ .ok () → (w.queueChunks chunks).2 = w) := by
  cases chunks with
  | error e => exact ⟨h, (List.append_nil _).symm, fun _ => rfl⟩
  | ok chunks =>
      have hle : w.written ≤ w.pending.length := h
      refine ⟨?_, ?_, fun hfail => absurd rfl hfail⟩
      · simp only [queueChunks, InRange, foldl_append_eq, List.length_append]
        omega
      · simp only [queueChunks, unwritten, foldl_append_eq, chunkBytes]
        exact List.drop_append_of_le_length hle

theorem unwritten_full {w : ChunkWriter} (h : ¬ w.written < w.pending.length) :
    w.unwritten = [] :=
  List.drop_of_length_le (by omega)

/-- With everything written, the buffer is cleared and the stream gets no more. -/
theorem flush_full {w : ChunkWriter} (h : ¬ w.written < w.pending.length)
    (closing : Option (Except IoError Unit)) (writes : List WriteOutcome) :
    (w.flush closing writes).2 = ({ pending := [], written := 0 }, []) := by
  unfold flush
  rw [if_neg h]
  rcases closing with _ | e | ⟨⟩
  · rfl
  · rfl
  · rfl

/-- Whatever becomes of a flush, what the stream accepted and what is left unwritten are what
was unwritten before. -/
theorem flush_spec (closing : Option (Except IoError Unit)) (writes : List WriteOutcome) :
    ∀ {w : ChunkWriter}, w.InRange →
      (w.flush closing writes).2.1.InRange ∧
        (w.flush closing writes).2.2 ++ (w.flush closing writes).2.1.unwritten =
          w.unwritten := by
  induction writes with
  | nil =>
      intro w h
      by_cases hmore : w.written < w.pending.length
      · simp only [flush, if_pos hmore]
        exact ⟨h, rfl⟩
      · rw [flush_full hmore, unwritten_full hmore]
        exact ⟨Nat.le_refl _, rfl⟩
  | cons outcome rest ih =>
      intro w h
      by_cases hmore : w.written < w.pending.length
      · cases outcome with
        | failed e =>
            simp only [flush, if_pos hmore]
            exact ⟨h, rfl⟩
        | wrote n =>
            generalize hn : min n (w.pending.length - w.written) = count
            by_cases hzero : count = 0
            · simp only [flush, if_pos hmore, hn, if_pos hzero]
              exact ⟨h, rfl⟩
            · have hin : ChunkWriter.InRange { w with written := w.written + count } := by
                simp only [InRange]
                omega
              obtain ⟨hrange, hbytes⟩ := ih hin
              rw [flush, if_pos hmore]
              simp only [hn, if_neg hzero]
              refine ⟨hrange, ?_⟩
              -- the part just accepted stood in front of what the rest of the flush sees
              rw [List.append_assoc, hbytes]
              simp only [unwritten]
              rw [← List.drop_drop, List.take_append_drop]
      · rw [flush_full hmore, unwritten_full hmore]
        exact ⟨Nat.le_refl _, rfl⟩

end ChunkWriter

/-! ## The writer and its stream -/

/-- What is done with a writer. -/
inductive WriterOp where
  | queueMessage (msg : Message) (videoChannel : UInt16)
  | queueRaw (msgType : UInt8) (channel : UInt16) (body : List UInt8)
  | flush (writes : List WriteOutcome) (closing : Option (Except IoError Unit))

/-- A writer and what its stream has accepted so far. -/
structure Sending where
  writer : ChunkWriter := {}
  accepted : List UInt8 := []

namespace Sending

def step (s : Sending) : WriterOp → Sending
  | .queueMessage msg videoChannel =>
      { s with writer := (s.writer.queueMessage msg videoChannel).2 }
  | .queueRaw msgType channel body =>
      { s with writer := (s.writer.queueRaw msgType channel body).2 }
  | .flush writes closing =>
      let r := s.writer.flush closing writes
      { writer := r.2.1, accepted := s.accepted ++ r.2.2 }

def run (ops : List WriterOp) : Sending := ops.foldl step {}

end Sending

/-! The outgoing half of `ClientSession`: `pending_out` and `pending_written` are a writer's
two fields, and every message goes to the control channel unless it has one of its own. -/

namespace ClientSession

/-- Append a message's chunks to the outgoing buffer. -/
def queue (out : ChunkWriter) (msg : Message) : Except IoError Unit × ChunkWriter :=
  out.queueMessage msg Channel.control

/-- Write out whatever is queued. -/
def flushPending (out : ChunkWriter) (closing : Option (Except IoError Unit))
    (writes : List WriteOutcome) : FlushEnd × ChunkWriter × List UInt8 :=
  out.flush closing writes

/-- What a session does with its outgoing buffer. -/
inductive OutOp where
  | queue (msg : Message)
  | flushPending (writes : List WriteOutcome) (closing : Option (Except IoError Unit))

def outStep (s : Sending) : OutOp → Sending
  | .queue msg => { s with writer := (queue s.writer msg).2 }
  | .flushPending writes closing =>
      let r := flushPending s.writer closing writes
      { writer := r.2.1, accepted := s.accepted ++ r.2.2 }

def outRun (ops : List OutOp) : Sending := ops.foldl outStep {}

/-- The same call on a writer. -/
def OutOp.onWriter : OutOp → WriterOp
  | .queue msg => .queueMessage msg Channel.control
  | .flushPending writes closing => .flush writes closing

theorem outRun_eq (ops : List OutOp) : outRun ops = Sending.run (ops.map OutOp.onWriter) := by
  have hstep : outStep = fun s op => s.step (OutOp.onWriter op) := by
    funext s op
    cases op with
    | queue msg => rfl
    | flushPending writes closing => rfl
  rw [outRun, Sending.run, List.foldl_map, hstep]

end ClientSession

/-- The chunks that a call queues where it succeeds. -/
def WriterOp.chunks : WriterOp → EncodeResult (List (List UInt8))
  | .queueMessage msg videoChannel => msg.toChunks videoChannel
  | .queueRaw msgType channel body => fragment msgType channel body
  | .flush _ _ => .ok []

namespace Sending

theorem step_bytes {s : Sending} (h : s.writer.InRange) (op : WriterOp) :
    (s.step op).writer.InRange ∧
      (s.step op).accepted ++ (s.step op).writer.unwritten =
        s.accepted ++ s.writer.unwritten ++ ChunkWriter.chunkBytes op.chunks := by
  cases op with
  | queueMessage msg videoChannel =>
      obtain ⟨hrange, hbytes, -⟩ := ChunkWriter.queueChunks_spec h (msg.toChunks videoChannel)
      refine ⟨hrange, ?_⟩
      rw [List.append_assoc]
      exact congrArg (s.accepted ++ ·) hbytes
  | queueRaw msgType channel body =>
      obtain ⟨hrange, hbytes, -⟩ := ChunkWriter.queueChunks_spec h (fragment msgType channel body)
      refine ⟨hrange, ?_⟩
      rw [List.append_assoc]
      exact congrArg (s.accepted ++ ·) hbytes
  | flush writes closing =>
      obtain ⟨hrange, hbytes⟩ := ChunkWriter.flush_spec closing writes h
      refine ⟨hrange, ?_⟩
      simp only [step, WriterOp.chunks, ChunkWriter.chunkBytes, List.flatten_nil, List.append_nil]
      rw [List.append_assoc, hbytes]

theorem run_bytes (ops : List WriterOp) :
    (run ops).writer.InRange ∧
      (run ops).accepted ++ (run ops).writer.unwritten =
        ops.flatMap fun op => ChunkWriter.chunkBytes op.chunks := by
  induction ops using List.reverseRecOn with
  | nil => exact ⟨Nat.le_refl _, rfl⟩
  | append_singleton ops op ih =>
      obtain ⟨hrange, hbytes⟩ := ih
      obtain ⟨hrange', hbytes'⟩ := step_bytes hrange op
      have hrun : run (ops ++ [op]) = (run ops).step op := by
        simp only [run, List.foldl_append, List.foldl_cons, List.foldl_nil]
      rw [hrun]
      refine ⟨hrange', ?_⟩
      rw [hbytes', hbytes, List.flatMap_append, List.flatMap_singleton]

/-- **The writer preserves the byte stream.**  After any queueing and any flushing, cut short
anywhere, what the stream has accepted followed by what is still pending are the chunks of
the messages that were queued, in the order of the calls; a call that fails queues nothing;
and the same holds of a client session's outgoing buffer. -/
theorem writer_bytes (ops : List WriterOp) (out : List ClientSession.OutOp) :
    (run ops).accepted ++ (run ops).writer.pending.drop (run ops).writer.written =
        (ops.flatMap fun op => ChunkWriter.chunkBytes op.chunks) ∧
      (∀ msg videoChannel, ((run ops).writer.queueMessage msg videoChannel).1 ≠ .ok () →
        ((run ops).writer.queueMessage msg videoChannel).2 = (run ops).writer) ∧
      (∀ msgType channel body, ((run ops).writer.queueRaw msgType channel body).1 ≠ .ok () →
        ((run ops).writer.queueRaw msgType channel body).2 = (run ops).writer) ∧
      (ClientSession.outRun out).accepted ++
          (ClientSession.outRun out).writer.pending.drop
            (ClientSession.outRun out).writer.written =
        (out.flatMap fun op => ChunkWriter.chunkBytes op.onWriter.chunks) := by
  obtain ⟨hrange, hbytes⟩ := run_bytes ops
  refine ⟨hbytes, ?_, ?_, ?_⟩
  · intro msg videoChannel
    exact (ChunkWriter.queueChunks_spec hrange _).2.2
  · intro msgType channel body
    exact (ChunkWriter.queueChunks_spec hrange _).2.2
  · have hout := (run_bytes (out.map ClientSession.OutOp.onWriter)).2
    rw [ClientSession.outRun_eq]
    rw [List.flatMap_map] at hout
    exact hout

end Sending

end Oxrdp
