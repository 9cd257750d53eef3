import Mathlib.Data.List.Induction
import Oxrdp.Transport.Stream

/-!
# A cancelled read loses nothing

The bytes that `ChunkReader` holds, followed by the bytes still unread, are what the plain
reader has left to read: no read, no cancellation and no resumption changes that list, and
finishing a chunk takes it off the front.  `Continues` says so for one stretch of
`next_message`, `Faithful` for a caller after any sequence of events.
-/

namespace Oxrdp

variable {ending : Ending}

/-! ## The plain reader at a chunk boundary -/

/-- One message is read chunk by chunk. -/
theorem readReassembled_eq (bytes : List UInt8) (r : Reassembler) :
    readReassembled ending bytes r =
      match takeChunk ending bytes with
      | .error e => .error e
      | .ok ((header, payload), rest) =>
          match r.push header payload with
          | none => .error .panicked
          | some (.ok (some m), r) => .ok (m, rest, r)
          | some (.ok none, r) => readReassembled ending rest r
          | some (.error e, _) => .error (.io (.undecodable e)) := by
  rw [readReassembled]
  split
  · rename_i e h
    rw [h]
  · rename_i header payload rest h
    exact h ▸ rfl

/-- The whole stream is read message by message. -/
theorem readAll_eq (bytes : List UInt8) (r : Reassembler) :
    readAll ending bytes r =
      match readReassembled ending bytes r with
      | .error e => ([], e)
      | .ok (m, rest, r) => (m :: (readAll ending rest r).1, (readAll ending rest r).2) := by
  rw [readAll]
  split
  · rename_i e h
    rw [h]
  · rename_i m rest r' h
    rw [h]

/-- A whole chunk at the front goes to the reassembler. -/
theorem readAll_chunk {headerBuf payload : List UInt8} {header : ChunkHeader}
    (hlen : headerBuf.length = chunkHeaderLen)
    (hdec : decode ChunkHeader.decode headerBuf = .ok header)
    (hpay : payload.length = header.length.toNat) (rest : List UInt8) (r : Reassembler) :
    readAll ending (headerBuf ++ payload ++ rest) r =
      match r.push header payload with
      | none => ([], .panicked)
      | some (.ok (some m), r) => (m :: (readAll ending rest r).1, (readAll ending rest r).2)
      | some (.ok none, r) => readAll ending rest r
      | some (.error e, _) => ([], .io (.undecodable e)) := by
  rw [readAll_eq, readReassembled_eq, takeChunk_append hlen hdec hpay]
  simp only
  rcases r.push header payload with _ | ⟨e | _ | m, r'⟩
  · rfl
  · rfl
  · exact (readAll_eq rest r').symm
  · rfl

/-- A header that does not decode ends the reading. -/
theorem readAll_badHeader {headerBuf : List UInt8} {e : DecodeError}
    (hlen : headerBuf.length = chunkHeaderLen)
    (hdec : decode ChunkHeader.decode headerBuf = .error e) (rest : List UInt8)
    (r : Reassembler) :
    readAll ending (headerBuf ++ rest) r = ([], .io (.undecodable e)) := by
  have hhead : readExact ending chunkHeaderLen (headerBuf ++ rest) = .ok (headerBuf, rest) := by
    rw [← hlen]
    exact readExact_append _
  rw [readAll_eq, readReassembled_eq]
  simp only [takeChunk, hhead, hdec]

/-- Less than a chunk is not enough. -/
theorem readAll_short {bytes : List UInt8}
    (h : takeChunk ending bytes = .error (.io ending.error)) (r : Reassembler) :
    readAll ending bytes r = ([], .io ending.error) := by
  rw [readAll_eq, readReassembled_eq, h]

/-! ## The resumable reader inside a chunk -/

namespace ChunkReader

/-- The reader waits for the next byte of a chunk. -/
structure Ready (c : ChunkReader) : Prop where
  headerBuf : c.headerBuf.length = chunkHeaderLen
  state : match c.state with
    | .header filled => filled < chunkHeaderLen
    | .payload header filled => filled < c.payload.length ∧
        decode ChunkHeader.decode c.headerBuf = .ok header ∧
        c.payload.length = header.length.toNat

/-- The await of a call that finds the reader in this state. -/
def point (c : ChunkReader) : Await :=
  match c.state with
  | .header filled => .header filled
  | .payload header filled => .payload header filled

/-- A new reader is ready for a header. -/
theorem ready_new : Ready {} := ⟨rfl, by decide⟩

/-- A call on a reader inside a chunk waits for the next byte, whatever call put the reader
there. -/
theorem nextMessage_ready {c : ChunkReader} (h : c.Ready) (r : Reassembler) :
    c.nextMessage r =
      { reader := c, reassembler := r, outcome := .waiting c.point, pushed := [] } := by
  have hstate := h.state
  unfold nextMessage point
  cases hs : c.state with
  | header filled =>
      rw [hs] at hstate
      exact if_pos hstate
  | payload header filled =>
      rw [hs] at hstate
      exact if_pos hstate.1

/-- Ending inside a chunk is an error of the plain reader too. -/
theorem Ready.readAll_end {c : ChunkReader} (h : c.Ready) (r : Reassembler) :
    readAll ending c.held r = ([], .io ending.error) := by
  apply readAll_short
  have hstate := h.state
  unfold held
  cases hs : c.state with
  | header filled =>
      rw [hs] at hstate
      have hshort : ¬ chunkHeaderLen ≤ (c.headerBuf.take filled).length := by
        have hle := List.length_take_le filled c.headerBuf
        omega
      simp only [takeChunk, readExact, if_neg hshort]
  | payload header filled =>
      rw [hs] at hstate
      obtain ⟨hlt, hdec, hpay⟩ := hstate
      have hhead : readExact ending chunkHeaderLen (c.headerBuf ++ c.payload.take filled) =
          .ok (c.headerBuf, c.payload.take filled) := by
        rw [← h.headerBuf]
        exact readExact_append _
      have hshort : ¬ header.length.toNat ≤ (c.payload.take filled).length := by
        have hle := List.length_take_le filled c.payload
        omega
      simp only [takeChunk, hhead, hdec]
      simp only [readExact, if_neg hshort]

/-! ### One stretch of `next_message` -/

/-- Started with `bytes` of the current chunk in place, the stretch accounts for all of them
and goes on as the plain reader does from there. -/
structure Continues (ending : Ending) (bytes : List UInt8) (r : Reassembler) (p : Progress) :
    Prop where
  held : p.pushed ++ p.reader.held = bytes
  ready : (∀ e, p.outcome ≠ .returned (.error e)) → p.reader.Ready
  waits : ∀ point, p.outcome = .waiting point → point = p.reader.point
  plain : ∀ rest, readAll ending (bytes ++ rest) r =
    match p.outcome with
    | .waiting _ => readAll ending (p.reader.held ++ rest) p.reassembler
    | .returned (.ok m) =>
        (m :: (readAll ending (p.reader.held ++ rest) p.reassembler).1,
          (readAll ending (p.reader.held ++ rest) p.reassembler).2)
    | .returned (.error e) => ([], e)

variable (ending)

/-- A stretch that only waits. -/
theorem continues_waiting {c : ChunkReader} (h : c.Ready) (r : Reassembler) :
    Continues ending c.held r
      { reader := c, reassembler := r, outcome := .waiting c.point, pushed := [] } where
  held := rfl
  ready := fun _ => h
  waits := fun _ hpoint => (Outcome.waiting.inj hpoint).symm
  plain := fun _ => rfl

/-- A reader in a payload continues where it stands. -/
theorem payloadLoop_continues {c : ChunkReader} {header : ChunkHeader} {filled : Nat}
    (hbuf : c.headerBuf.length = chunkHeaderLen)
    (hdec : decode ChunkHeader.decode c.headerBuf = .ok header)
    (hpay : c.payload.length = header.length.toNat)
    (hstate : c.state = .payload header filled) (hle : filled ≤ c.payload.length)
    (r : Reassembler) : Continues ending c.held r (c.payloadLoop r header filled) := by
  by_cases hlt : filled < c.payload.length
  · have hready : c.Ready := ⟨hbuf, by simp only [hstate]; exact ⟨hlt, hdec, hpay⟩⟩
    have hwait := continues_waiting ending hready r
    simp only [point, hstate] at hwait
    rw [payloadLoop, if_pos hlt]
    exact hwait
  · have hfull : c.held = c.headerBuf ++ c.payload := by
      simp only [held, hstate]
      rw [List.take_of_length_le (by omega)]
    have hready : ChunkReader.Ready ⟨c.headerBuf, c.payload, .header 0⟩ :=
      ⟨hbuf, Nat.zero_lt_succ _⟩
    have hplain : ∀ rest, readAll ending (c.headerBuf ++ c.payload ++ rest) r = _ :=
      fun rest => readAll_chunk hbuf hdec hpay rest r
    rw [payloadLoop, if_neg hlt, hfull]
    simp only
    -- the chunk is complete: whatever the reassembler says, both readers hear it
    rcases hpush : r.push header c.payload with _ | ⟨e | _ | m, r'⟩
    all_goals simp only [hpush] at hplain
    · exact ⟨by simp [held], fun h => absurd rfl (h _), fun _ h => (by cases h), hplain⟩
    · exact ⟨by simp [held], fun h => absurd rfl (h _), fun _ h => (by cases h), hplain⟩
    · exact ⟨by simp [held], fun _ => hready, fun _ h => (Outcome.waiting.inj h).symm, hplain⟩
    · exact ⟨by simp [held], fun _ => hready, fun _ h => (by cases h), hplain⟩

/-- A reader in a header continues where it stands. -/
theorem headerLoop_continues {c : ChunkReader} {filled : Nat}
    (hbuf : c.headerBuf.length = chunkHeaderLen) (hstate : c.state = .header filled)
    (hle : filled ≤ chunkHeaderLen) (r : Reassembler) :
    Continues ending c.held r (c.headerLoop r filled) := by
  by_cases hlt : filled < chunkHeaderLen
  · have hready : c.Ready := ⟨hbuf, by simp only [hstate]; exact hlt⟩
    have hwait := continues_waiting ending hready r
    simp only [point, hstate] at hwait
    rw [headerLoop, if_pos hlt]
    exact hwait
  · have hfull : c.held = c.headerBuf := by
      simp only [held, hstate]
      rw [List.take_of_length_le (by omega)]
    rw [headerLoop, if_neg hlt]
    cases hdec : decode ChunkHeader.decode c.headerBuf with
    | error e =>
        refine ⟨rfl, fun h => absurd rfl (h _), fun _ h => (by cases h), ?_⟩
        intro rest
        rw [hfull]
        exact readAll_badHeader hbuf hdec rest r
    | ok header =>
        have hnext := payloadLoop_continues ending
          (c := ⟨c.headerBuf, List.replicate header.length.toNat 0, .payload header 0⟩)
          hbuf hdec (List.length_replicate ..) rfl (Nat.zero_le _) r
        have hheld : ChunkReader.held
            ⟨c.headerBuf, List.replicate header.length.toNat 0, .payload header 0⟩ = c.held := by
          rw [hfull]
          simp [held]
        rw [hheld] at hnext
        exact hnext

/-- What was filled stands in front. -/
theorem fillAt_take {buf got : List UInt8} {filled : Nat} (h : filled ≤ buf.length) :
    (fillAt buf filled got).take (filled + got.length) = buf.take filled ++ got := by
  have hlen : (buf.take filled ++ got).length = filled + got.length := by
    rw [List.length_append, List.length_take_of_le h]
  rw [fillAt, ← hlen, List.take_left]

/-- Filling keeps the length of the buffer. -/
theorem fillAt_length {buf got : List UInt8} {filled : Nat}
    (h : filled + got.length ≤ buf.length) : (fillAt buf filled got).length = buf.length := by
  simp only [fillAt, List.length_append, List.length_drop, List.length_take]
  omega

/-- A read that delivered bytes for the place it was given. -/
theorem resume_continues {c : ChunkReader} (h : c.Ready) {got : List UInt8} (hgot : got ≠ [])
    (hroom : got.length ≤ c.room c.point) (r : Reassembler) :
    Continues ending (c.held ++ got) r (c.resume r c.point got) := by
  have hbuf := h.headerBuf
  have hready := h.state
  have hpos : ¬ got.length = 0 := fun h0 => hgot (List.eq_nil_of_length_eq_zero h0)
  cases hs : c.state with
  | header filled =>
      simp only [hs] at hready
      simp only [point, hs, room] at hroom
      have hnext := headerLoop_continues ending
        (c := ⟨fillAt c.headerBuf filled got, c.payload, .header (filled + got.length)⟩)
        (by simp only; rw [fillAt_length (by omega), hbuf]) rfl (by omega) r
      have hheld : ChunkReader.held
          ⟨fillAt c.headerBuf filled got, c.payload, .header (filled + got.length)⟩ =
            c.held ++ got := by
        simp only [held, hs]
        exact fillAt_take (by omega)
      rw [hheld] at hnext
      simp only [point, hs, resume, if_neg hpos]
      exact hnext
  | payload header filled =>
      simp only [hs] at hready
      obtain ⟨hlt, hdec, hpay⟩ := hready
      simp only [point, hs, room] at hroom
      have hfill : (fillAt c.payload filled got).length = c.payload.length :=
        fillAt_length (by omega)
      have hnext := payloadLoop_continues ending
        (c := ⟨c.headerBuf, fillAt c.payload filled got,
          .payload header (filled + got.length)⟩)
        hbuf hdec (hfill.trans hpay) rfl (by simp only; omega) r
      have hheld : ChunkReader.held
          ⟨c.headerBuf, fillAt c.payload filled got, .payload header (filled + got.length)⟩ =
            c.held ++ got := by
        simp only [held, hs, List.append_assoc]
        rw [fillAt_take (by omega)]
      rw [hheld] at hnext
      simp only [point, hs, resume, if_neg hpos]
      exact hnext

/-- At the end of the stream the reader stays as it is. -/
theorem resume_eof (c : ChunkReader) (r : Reassembler) :
    c.resume r c.point [] =
      { reader := c, reassembler := r, outcome := .returned (.error (.io .unexpectedEof)) } := by
  obtain ⟨headerBuf, payload, state⟩ := c
  cases state with
  | header filled => rfl
  | payload header filled => rfl

/-- A reader that is ready has room for a byte. -/
theorem Ready.room_pos {c : ChunkReader} (h : c.Ready) : 0 < c.room c.point := by
  have hstate := h.state
  cases hs : c.state with
  | header filled =>
      simp only [hs] at hstate
      simp only [point, hs, room]
      omega
  | payload header filled =>
      simp only [hs] at hstate
      simp only [point, hs, room]
      omega

end ChunkReader

/-! ## Every sequence of polls and cancellations -/

/-- A poll that finds its read completed. -/
def ReadEvent.completes : ReadEvent → Bool
  | .poll (some _) => true
  | _ => false

namespace ReadTask

/-- The caller has delivered what the plain reader delivers, and what it holds and has not
read is what the plain reader would go on with. -/
structure Faithful (ending : Ending) (input : List UInt8) (t : ReadTask) : Prop where
  bytes : t.handed ++ t.reader.held ++ t.unread = input
  ready : t.stopped = none → t.reader.Ready
  future : t.stopped = none → ∀ point, t.future = some point → point = t.reader.point
  plain : readAll ending input .new =
    match t.stopped with
    | none =>
        (t.delivered ++ (readAll ending (t.reader.held ++ t.unread) t.reassembler).1,
          (readAll ending (t.reader.held ++ t.unread) t.reassembler).2)
    | some e => (t.delivered, e)

variable {ending : Ending} {input : List UInt8}

/-- At the start everything is still to be read. -/
theorem faithful_start (input : List UInt8) : Faithful ending input (start input) where
  bytes := rfl
  ready := fun _ => ChunkReader.ready_new
  future := fun _ _ h => by cases h
  plain := rfl

/-- The call in progress ran on with the bytes `got`. -/
theorem Faithful.after {t : ReadTask} {got rest : List UInt8} {p : Progress}
    (h : Faithful ending input t) (hrun : t.stopped = none) (hunread : t.unread = got ++ rest)
    (hp : ChunkReader.Continues ending (t.reader.held ++ got) t.reassembler p) :
    Faithful ending input ({ t with unread := rest }.after p) := by
  have hbytes : t.handed ++ p.pushed ++ p.reader.held ++ rest = input := by
    rw [List.append_assoc t.handed, hp.held, ← h.bytes, hunread]
    simp only [List.append_assoc]
  have hplain := h.plain
  simp only [hrun, hunread, ← List.append_assoc] at hplain
  rw [hp.plain rest] at hplain
  cases hout : p.outcome with
  | waiting point =>
      simp only [hout] at hplain
      refine ⟨?_, ?_, ?_, ?_⟩
      all_goals simp only [ReadTask.after, hout, hrun]
      · exact hbytes
      · exact fun _ => hp.ready (by simp [hout])
      · intro _ q hq
        cases hq
        exact hp.waits point hout
      · exact hplain
  | returned result =>
      cases result with
      | ok m =>
          simp only [hout] at hplain
          refine ⟨?_, ?_, ?_, ?_⟩
          all_goals simp only [ReadTask.after, hout, hrun]
          · exact hbytes
          · exact fun _ => hp.ready (by simp [hout])
          · intro _ q hq
            cases hq
          · simpa using hplain
      | error e =>
          simp only [hout, List.append_nil] at hplain
          refine ⟨?_, ?_, ?_, ?_⟩
          all_goals simp only [ReadTask.after, hout]
          · exact hbytes
          · intro hnone
            cases hnone
          · intro hnone
            cases hnone
          · exact hplain

/-- Calling `next_message` again only puts the future back to where it was. -/
theorem Faithful.call_eq {t : ReadTask} (h : Faithful ending input t) (hrun : t.stopped = none) :
    t.call = { t with future := some t.reader.point } := by
  unfold call
  cases hf : t.future with
  | none =>
      simp only [ChunkReader.nextMessage_ready (h.ready hrun), ReadTask.after, List.append_nil]
  | some point =>
      simp only [← h.future hrun point hf, ← hf]

/-- A call that is made anew reads what the one before it left. -/
theorem Faithful.call {t : ReadTask} (h : Faithful ending input t) (hrun : t.stopped = none) :
    Faithful ending input t.call := by
  rw [h.call_eq hrun]
  exact ⟨h.bytes, h.ready, fun _ _ hq => (Option.some.inj hq).symm, h.plain⟩

/-- The stream ended inside a chunk. -/
theorem Faithful.ended {t : ReadTask} (h : Faithful ending input t) (hrun : t.stopped = none)
    (hunread : t.unread = []) {t' : ReadTask} (hreader : t'.reader = t.reader)
    (hhanded : t'.handed = t.handed) (hunread' : t'.unread = [])
    (hdelivered : t'.delivered = t.delivered) (hstop : t'.stopped = some (.io ending.error)) :
    Faithful ending input t' := by
  have hbytes := h.bytes
  have hplain := h.plain
  rw [hunread] at hbytes
  simp only [hrun, hunread, List.append_nil, (h.ready hrun).readAll_end] at hplain
  refine ⟨?_, ?_, ?_, ?_⟩
  · rw [hhanded, hreader, hunread']
    exact hbytes
  · intro hnone
    rw [hstop] at hnone
    cases hnone
  · intro hnone
    rw [hstop] at hnone
    cases hnone
  · simp only [hstop, hdelivered]
    exact hplain

/-- A completed read keeps faith, and either stops the caller or takes bytes off the
stream. -/
theorem Faithful.readReady {t : ReadTask} (h : Faithful ending input t)
    (hrun : t.stopped = none) (hfuture : t.future = some t.reader.point) (n : Nat) :
    Faithful ending input (t.readReady ending n) ∧
      ((t.readReady ending n).stopped = none →
        (t.readReady ending n).unread.length < t.unread.length) := by
  by_cases hunread : t.unread = []
  · have hstop : (t.readReady ending n).stopped = some (.io ending.error) := by
      cases ending with
      | eof =>
          simp only [ReadTask.readReady, hfuture, if_pos hunread, ChunkReader.resume_eof]
          rfl
      | failed e =>
          simp only [ReadTask.readReady, hfuture, if_pos hunread]
          rfl
    have hsame : (t.readReady ending n).reader = t.reader ∧
        (t.readReady ending n).handed = t.handed ∧ (t.readReady ending n).unread = [] ∧
        (t.readReady ending n).delivered = t.delivered := by
      cases ending with
      | eof =>
          simp only [ReadTask.readReady, hfuture, if_pos hunread, ChunkReader.resume_eof]
          exact ⟨rfl, List.append_nil _, hunread, rfl⟩
      | failed e =>
          simp only [ReadTask.readReady, hfuture, if_pos hunread]
          exact ⟨rfl, List.append_nil _, hunread, rfl⟩
    refine ⟨h.ended hrun hunread hsame.1 hsame.2.1 hsame.2.2.1 hsame.2.2.2 hstop, ?_⟩
    intro hnone
    rw [hstop] at hnone
    cases hnone
  · have hroom := (h.ready hrun).room_pos
    have hlen := List.length_pos_of_ne_nil hunread
    generalize hcount : max 1 (min n (t.reader.room t.reader.point)) = count
    have hsplit : t.unread = t.unread.take count ++ t.unread.drop count :=
      (List.take_append_drop count t.unread).symm
    have hgot : t.unread.take count ≠ [] := by
      intro hnil
      have hzero := congrArg List.length hnil
      rw [List.length_take, List.length_nil] at hzero
      omega
    have hfit : (t.unread.take count).length ≤ t.reader.room t.reader.point := by
      rw [List.length_take]
      omega
    have hcont := ChunkReader.resume_continues ending (h.ready hrun) hgot hfit t.reassembler
    have heq : t.readReady ending n =
        { t with unread := t.unread.drop count }.after
          (t.reader.resume t.reassembler t.reader.point (t.unread.take count)) := by
      simp only [ReadTask.readReady, hfuture, if_neg hunread, hcount]
    rw [heq]
    refine ⟨h.after hrun hsplit hcont, ?_⟩
    intro _
    have hkeep : ({ t with unread := t.unread.drop count }.after
        (t.reader.resume t.reassembler t.reader.point (t.unread.take count))).unread =
          t.unread.drop count := by
      unfold ReadTask.after
      split
      · rfl
      · rfl
      · rfl
    rw [hkeep, List.length_drop]
    omega

/-- A reader that has stopped stays stopped. -/
theorem step_stopped {t : ReadTask} (h : t.stopped ≠ none) (event : ReadEvent) :
    t.step ending event = t := by
  unfold ReadTask.step
  exact if_pos (Option.isSome_iff_ne_none.mpr h)

/-- **Every event** leaves what is still to be read. -/
theorem Faithful.step {t : ReadTask} (h : Faithful ending input t) (event : ReadEvent) :
    Faithful ending input (t.step ending event) ∧
      ((t.step ending event).stopped = none →
        (t.step ending event).unread.length + (if event.completes then 1 else 0) ≤
          t.unread.length) := by
  by_cases hrun : t.stopped = none
  · have hgo : ¬ t.stopped.isSome = true := by simp [hrun]
    unfold ReadTask.step
    rw [if_neg hgo]
    match event with
    | .drop =>
        refine ⟨⟨h.bytes, h.ready, ?_, h.plain⟩, fun _ => Nat.le_refl _⟩
        intro _ _ hq
        cases hq
    | .poll none =>
        refine ⟨h.call hrun, fun _ => ?_⟩
        simp only [h.call_eq hrun]
        exact Nat.le_refl _
    | .poll (some n) =>
        have hcall := h.call hrun
        have heq := h.call_eq hrun
        have hnone : t.call.stopped = none := by rw [heq]; exact hrun
        have hfuture : t.call.future = some t.call.reader.point := by rw [heq]
        have hunread : t.call.unread = t.unread := by rw [heq]
        obtain ⟨hfaith, hless⟩ := hcall.readReady hnone hfuture n
        refine ⟨hfaith, ?_⟩
        intro hstop
        have hlt := hless hstop
        rw [hunread] at hlt
        exact hlt
  · rw [step_stopped hrun]
    exact ⟨h, fun hnone => absurd hnone hrun⟩

/-- **Every run** has read what a plain reader reads first. -/
theorem faithful_run (ending : Ending) (input : List UInt8) (events : List ReadEvent) :
    Faithful ending input (run ending input events) ∧
      ((run ending input events).stopped = none →
        (run ending input events).unread.length + events.countP ReadEvent.completes ≤ input.length) := by
  induction events using List.reverseRecOn with
  | nil => exact ⟨faithful_start input, fun _ => Nat.le_refl _⟩
  | append_singleton events event ih =>
      obtain ⟨hfaith, hcount⟩ := ih
      obtain ⟨hstep, hless⟩ := hfaith.step event
      have hrun : run ending input (events ++ [event]) =
          (run ending input events).step ending event := by
        simp only [run, List.foldl_append, List.foldl_cons, List.foldl_nil]
      rw [hrun]
      refine ⟨hstep, ?_⟩
      intro hnone
      have hbefore : (run ending input events).stopped = none := by
        by_contra hsome
        rw [step_stopped hsome] at hnone
        exact hsome hnone
      have h₁ := hcount hbefore
      have h₂ := hless hnone
      rw [List.countP_append, List.countP_cons, List.countP_nil]
      omega

/-- **The resumable reader is the plain reader.**  However a stream is cut into reads and
whenever `next_message` is cancelled, every byte of the stream has been handed over in a
chunk, is held, or is unread; the messages delivered so far are the first ones of the plain
reader; the caller stops with the plain reader's messages and its final error; and it does
stop once more reads have completed than the stream has bytes. -/
theorem chunkReader_plain (ending : Ending) (input : List UInt8) (events : List ReadEvent) :
    let t := run ending input events
    t.handed ++ t.reader.held ++ t.unread = input ∧
      t.delivered <+: (readAll ending input .new).1 ∧
      (∀ stop, t.stopped = some stop → readAll ending input .new = (t.delivered, stop)) ∧
      (input.length < events.countP ReadEvent.completes → t.stopped.isSome) := by
  intro t
  obtain ⟨hfaith, hcount⟩ := faithful_run ending input events
  have hplain := hfaith.plain
  refine ⟨hfaith.bytes, ?_, ?_, ?_⟩
  · rw [hplain]
    split
    · exact List.prefix_append _ _
    · exact List.prefix_rfl
  · intro stop hstop
    have hstop' : (run ending input events).stopped = some stop := hstop
    simp only [hstop'] at hplain
    exact hplain
  · intro hmany
    by_contra hnot
    have hnone : (run ending input events).stopped = none := by simpa using hnot
    have hle := hcount hnone
    omega

end ReadTask

end Oxrdp
