import Mathlib.Data.List.MinMax
import Oxrdp.Proto.Latency
import Oxrdp.Proto.Message.Control

/-!
# The client's clock offset

The part of the client's `session.rs` that relates the agent's clock to its own.  Each pong
that answers a ping leaves an `OffsetSample`: its round trip, the estimator's offset, and when
it was taken.  The last 64 are kept, and a query takes the offset of the sample whose error
bound is smallest at that moment.

The offset of a sample is read back from the estimator.  That is the offset of the exchange
just completed as long as pongs come in the order in which their pings were sent.  The
estimator ignores an older ping's answer, though, and then the sample has the round trip of
one exchange and the offset of another.
-/

namespace Oxrdp

/-- Round-trip samples kept by the estimator. -/
def rttWindow : Nat := 128

/-- Exchanges kept as candidates for the offset estimate. -/
def offsetCandidates : Nat := 64

/-- Assumed worst-case relative drift between the two clocks, in parts per million. -/
def clockDriftPpm : UInt64 := 100

/-- One exchange, kept as a candidate for the offset estimate. -/
structure OffsetSample where
  rttUs : UInt64
  offsetUs : Int64
  takenAtUs : UInt64
  deriving DecidableEq, Repr

/-- How far the sample's offset could be out if used at `nowUs`: half the round trip, and what
the clocks may have drifted since. -/
def OffsetSample.errorBoundUs (s : OffsetSample) (nowUs : UInt64) : UInt64 :=
  let ageUs := nowUs.saturatingSub s.takenAtUs
  s.rttUs / 2 + ageUs.saturatingMul clockDriftPpm / 1000000

/-- The candidates, oldest first. -/
structure OffsetEstimate where
  recent : List OffsetSample
  deriving DecidableEq, Repr

namespace OffsetEstimate

def new : OffsetEstimate := { recent := [] }

def push (o : OffsetEstimate) (sample : OffsetSample) : OffsetEstimate :=
  if o.recent.length ≥ offsetCandidates then
    { recent := o.recent.tail ++ [sample] }
  else
    { recent := o.recent ++ [sample] }

/-- The candidate with the smallest total error bound at `nowUs`, the oldest on ties. -/
def best (o : OffsetEstimate) (nowUs : UInt64) : Option OffsetSample :=
  o.recent.argmin fun sample => (sample.errorBoundUs nowUs).toNat

end OffsetEstimate

/-- The fields of the client session that pings and pongs touch. -/
structure SessionClock where
  clockSync : ClockSync
  offsets : OffsetEstimate
  pingSeq : UInt32

namespace SessionClock

def new : SessionClock :=
  { clockSync := ClockSync.new rttWindow, offsets := OffsetEstimate.new, pingSeq := 0 }

/-- Send a liveness probe and register it. -/
def ping (s : SessionClock) (nowUs : UInt64) : Ping × SessionClock :=
  ({ seq := s.pingSeq, sentUs := nowUs },
    { s with clockSync := s.clockSync.onPingSent s.pingSeq nowUs, pingSeq := s.pingSeq + 1 })

/-- The arm of `next_event` for a pong that arrives at `nowUs`. -/
def onPong (s : SessionClock) (p : Pong) (nowUs : UInt64) : SessionClock :=
  let (rtt, clockSync) := s.clockSync.onPong p.seq p.agentUs nowUs
  let s := { s with clockSync }
  match rtt with
  | none => s
  | some rttUs =>
      match clockSync.offsetUs with
      | none => s
      | some offsetUs =>
          { s with offsets := s.offsets.push { rttUs, offsetUs, takenAtUs := nowUs } }

/-- How far ahead of the client's clock the agent's is. -/
def clockOffsetUs (s : SessionClock) (nowUs : UInt64) : Option Int64 :=
  (s.offsets.best nowUs).map OffsetSample.offsetUs

/-- How far the offset estimate could be out. -/
def offsetErrorBoundUs (s : SessionClock) (nowUs : UInt64) : Option UInt64 :=
  (s.offsets.best nowUs).map (·.errorBoundUs nowUs)

end SessionClock

/-! ## Runs -/

/-- What happens to a session's clock: a ping is sent, or a pong arrives. -/
inductive SessionOp where
  | ping (nowUs : UInt64)
  | pong (p : Pong) (nowUs : UInt64)
  deriving DecidableEq, Repr

namespace SessionClock

def step (s : SessionClock) : SessionOp → SessionClock
  | .ping nowUs => (s.ping nowUs).2
  | .pong p nowUs => s.onPong p nowUs

/-- The session's clock after a sequence of pings and pongs. -/
def run (s : SessionClock) (ops : List SessionOp) : SessionClock := ops.foldl step s

end SessionClock

/-- What the estimator sees: pings are numbered as they are sent. -/
def clockOpsFrom (seq : UInt32) : List SessionOp → List ClockOp
  | [] => []
  | .ping nowUs :: rest => .ping seq nowUs :: clockOpsFrom (seq + 1) rest
  | .pong p nowUs :: rest => .pong p.seq p.agentUs nowUs :: clockOpsFrom seq rest

/-- The exchanges of a run, in the order in which they were completed. -/
def exchanges (ops : List SessionOp) : List Exchange := answered (clockOpsFrom 0 ops)

/-- The sample that belongs to an exchange. -/
def Exchange.sample (e : Exchange) : OffsetSample :=
  { rttUs := e.rtt, offsetUs := e.offset, takenAtUs := e.nowUs }

/-- The round trip and the offset of the sample are those of one exchange. -/
def OffsetSample.Paired (s : OffsetSample) (exchanges : List Exchange) : Prop :=
  ∃ e ∈ exchanges, s.rttUs = e.rtt ∧ s.offsetUs = e.offset

instance (s : OffsetSample) (exchanges : List Exchange) : Decidable (s.Paired exchanges) :=
  inferInstanceAs (Decidable (∃ e ∈ exchanges, _))

/-- Pings are answered in the order in which they were sent. -/
def InSendOrder (exchanges : List Exchange) : Prop :=
  exchanges.Pairwise fun earlier later => earlier.sentUs ≤ later.sentUs

instance (exchanges : List Exchange) : Decidable (InSendOrder exchanges) :=
  inferInstanceAs (Decidable (List.Pairwise _ _))

/-- The samples of the last exchanges. -/
def lastSamples (exchanges : List Exchange) : List OffsetSample :=
  (exchanges.map Exchange.sample).drop (exchanges.length - offsetCandidates)

/-! ## What is kept -/

/-- A new sample displaces the oldest once 64 are kept. -/
theorem push_lastSamples {o : OffsetEstimate} {xs : List Exchange}
    (h : o.recent = lastSamples xs) (e : Exchange) :
    (o.push e.sample).recent = lastSamples (xs ++ [e]) := by
  have hlen : o.recent.length = min xs.length offsetCandidates := by
    rw [h, lastSamples, List.length_drop, List.length_map]
    omega
  have hall : lastSamples (xs ++ [e]) =
      ((xs.map Exchange.sample).drop (xs.length + 1 - offsetCandidates)) ++ [e.sample] := by
    rw [lastSamples, List.map_append, List.length_append, List.drop_append_of_le_length]
    · rfl
    · rw [List.length_map]
      simp only [offsetCandidates, List.length_singleton]
      omega
  rw [OffsetEstimate.push, hall]
  by_cases hfull : o.recent.length ≥ offsetCandidates
  · rw [if_pos hfull]
    have hnext : xs.length + 1 - offsetCandidates = xs.length - offsetCandidates + 1 := by
      omega
    rw [h, lastSamples, List.tail_drop, hnext]
  · rw [if_neg hfull]
    have hnone : xs.length + 1 - offsetCandidates = xs.length - offsetCandidates := by
      omega
    rw [h, lastSamples, hnone]

theorem mem_lastSamples {xs : List Exchange} {s : OffsetSample} (h : s ∈ lastSamples xs) :
    ∃ e ∈ xs, e.sample = s :=
  List.mem_map.mp (List.mem_of_mem_drop h)

theorem lastSamples_eq_nil {xs : List Exchange} : lastSamples xs = [] ↔ xs = [] := by
  rw [lastSamples, List.drop_eq_nil_iff, List.length_map, ← List.length_eq_zero_iff,
    offsetCandidates]
  omega

/-! ## Runs in send order -/

/-- How many pings were sent, as the sequence number counts them. -/
def pingCount : List SessionOp → UInt32
  | [] => 0
  | .ping _ :: rest => 1 + pingCount rest
  | .pong _ _ :: rest => pingCount rest

theorem clockOpsFrom_append (seq : UInt32) (ops more : List SessionOp) :
    clockOpsFrom seq (ops ++ more) =
      clockOpsFrom seq ops ++ clockOpsFrom (seq + pingCount ops) more := by
  induction ops generalizing seq with
  | nil => simp [clockOpsFrom, pingCount]
  | cons op rest ih =>
      cases op with
      | ping nowUs => simp [clockOpsFrom, pingCount, ih, UInt32.add_assoc]
      | pong p nowUs => simp [clockOpsFrom, pingCount, ih]

theorem pingCount_snoc (ops : List SessionOp) (op : SessionOp) :
    pingCount (ops ++ [op]) = pingCount ops + pingCount [op] := by
  induction ops with
  | nil => simp [pingCount]
  | cons first rest ih =>
      cases first with
      | ping nowUs => simp [pingCount, ih, UInt32.add_assoc]
      | pong p nowUs => simp [pingCount, ih]

theorem exchanges_ping (ops : List SessionOp) (nowUs : UInt64) :
    exchanges (ops ++ [.ping nowUs]) = exchanges ops := by
  rw [exchanges, clockOpsFrom_append]
  simp only [clockOpsFrom, answered_snoc, answer, Option.toList_none, List.append_nil]
  rfl

theorem exchanges_pong (ops : List SessionOp) (p : Pong) (nowUs : UInt64) :
    exchanges (ops ++ [.pong p nowUs]) =
      exchanges ops ++
        (answer (clockOpsFrom 0 ops) (.pong p.seq p.agentUs nowUs)).toList := by
  rw [exchanges, clockOpsFrom_append]
  simp only [clockOpsFrom, answered_snoc]
  rfl

namespace SessionClock

variable {s : SessionClock} {ops : List SessionOp}

/-- A pong goes to the estimator and leaves the numbering alone. -/
theorem onPong_frame (s : SessionClock) (p : Pong) (nowUs : UInt64) :
    (s.onPong p nowUs).clockSync = (s.clockSync.onPong p.seq p.agentUs nowUs).2 ∧
      (s.onPong p nowUs).pingSeq = s.pingSeq := by
  unfold onPong
  dsimp only
  split
  · exact ⟨rfl, rfl⟩
  · split
    · exact ⟨rfl, rfl⟩
    · exact ⟨rfl, rfl⟩

/-- The next number is the count of pings, and the estimator tracks the history, whatever the
order of the pongs. -/
theorem run_tracks (ops : List SessionOp) :
    (new.run ops).pingSeq = pingCount ops ∧
      (new.run ops).clockSync.Tracks (clockOpsFrom 0 ops) := by
  induction ops using List.reverseRecOn with
  | nil => exact ⟨rfl, ClockSync.new_tracks rttWindow⟩
  | append_singleton ops op ih =>
      obtain ⟨hseq, htracks⟩ := ih
      rw [run, List.foldl_append, pingCount_snoc, clockOpsFrom_append, UInt32.zero_add]
      change ((new.run ops).step op).pingSeq = _ ∧ ((new.run ops).step op).clockSync.Tracks _
      cases op with
      | ping nowUs =>
          refine ⟨?_, ?_⟩
          · simp [step, ping, hseq, pingCount]
          · rw [← hseq]
            exact htracks.ping nowUs
      | pong p nowUs =>
          obtain ⟨hsync, hkeep⟩ := onPong_frame (new.run ops) p nowUs
          refine ⟨?_, ?_⟩
          · simpa [step, hkeep, pingCount] using hseq
          · rw [step, hsync]
            exact ClockSync.step_tracks htracks (.pong p.seq p.agentUs nowUs)

/-- A pong that answers in send order leaves the sample of its own exchange. -/
theorem onPong_sample {p : Pong} {nowUs : UInt64} {e : Exchange}
    (htracks : s.clockSync.Tracks (clockOpsFrom 0 ops))
    (hanswer : answer (clockOpsFrom 0 ops) (.pong p.seq p.agentUs nowUs) = some e)
    (horder : ∀ x ∈ exchanges ops, x.sentUs ≤ e.sentUs) :
    (s.onPong p nowUs).offsets = s.offsets.push e.sample := by
  obtain ⟨sentUs, hout, he⟩ := Option.map_eq_some_iff.mp hanswer
  obtain ⟨hrtt, -, happly, -⟩ := ClockSync.onPong_answered ((htracks.pending p.seq).trans hout)
    p.agentUs nowUs he.symm
  have hholds := happly (by
    intro applied happlied
    rcases htracks.newest with ⟨-, hnone⟩ | ⟨x, hx, hholds⟩
    · rw [hnone.applied] at happlied
      cases happlied
    · rw [hholds.applied] at happlied
      cases happlied
      have hle := horder x hx.mem
      rwa [← he] at hle)
  unfold onPong
  simp only [hrtt, ClockSync.offsetUs, hholds.offset, Option.map_some, ← he]
  rfl

/-- A pong that nothing waits for leaves no sample. -/
theorem onPong_unasked {p : Pong} {nowUs : UInt64}
    (htracks : s.clockSync.Tracks (clockOpsFrom 0 ops))
    (hanswer : answer (clockOpsFrom 0 ops) (.pong p.seq p.agentUs nowUs) = none) :
    (s.onPong p nowUs).offsets = s.offsets := by
  have hout := Option.map_eq_none_iff.mp hanswer
  unfold onPong
  rw [ClockSync.onPong_unasked ((htracks.pending p.seq).trans hout)]

/-- As long as pings are answered in the order in which they were sent, the samples kept are
those of the last exchanges. -/
theorem run_recent (ops : List SessionOp) (horder : InSendOrder (exchanges ops)) :
    (new.run ops).offsets.recent = lastSamples (exchanges ops) := by
  induction ops using List.reverseRecOn with
  | nil => rfl
  | append_singleton ops op ih =>
      rw [run, List.foldl_append]
      change ((new.run ops).step op).offsets.recent = _
      cases op with
      | ping nowUs =>
          rw [exchanges_ping] at horder ⊢
          exact ih horder
      | pong p nowUs =>
          have htracks := (run_tracks ops).2
          rw [exchanges_pong] at horder ⊢
          cases hanswer : answer (clockOpsFrom 0 ops) (.pong p.seq p.agentUs nowUs) with
          | none =>
              rw [hanswer, Option.toList_none, List.append_nil] at horder
              rw [step, onPong_unasked htracks hanswer, Option.toList_none, List.append_nil]
              exact ih horder
          | some e =>
              rw [hanswer, Option.toList_some] at horder
              obtain ⟨hbefore, -, hlast⟩ := List.pairwise_append.mp horder
              have hle : ∀ x ∈ exchanges ops, x.sentUs ≤ e.sentUs := by
                intro x hx
                exact hlast x hx e List.mem_cons_self
              rw [step, onPong_sample htracks hanswer hle, Option.toList_some]
              exact push_lastSamples (ih hbefore) e

/-- **Samples pair values of one exchange.**  In every run in which pings are answered in the
order in which they were sent, each sample kept has the round trip and the offset of the same
exchange. -/
theorem samples_paired (ops : List SessionOp) (horder : InSendOrder (exchanges ops)) :
    ∀ s ∈ (new.run ops).offsets.recent, s.Paired (exchanges ops) := by
  intro s hs
  rw [run_recent ops horder] at hs
  obtain ⟨e, he, rfl⟩ := mem_lastSamples hs
  exact ⟨e, he, rfl, rfl⟩

/-- Two pings, answered in turn. -/
def promptPongs : List SessionOp :=
  [.ping 1000, .ping 2000, .pong ⟨0, 1000, 5100⟩ 2100, .pong ⟨1, 2000, 6000⟩ 2200]

theorem samples_paired_prompt :
    (new.run promptPongs).offsets.recent.length = 2 ∧
      ∀ s ∈ (new.run promptPongs).offsets.recent, s.Paired (exchanges promptPongs) :=
  ⟨by decide +kernel, samples_paired promptPongs (by decide +kernel)⟩

/-- The same two pings, and the first one's answer is late. -/
def latePongs : List SessionOp :=
  [.ping 1000, .ping 2000, .pong ⟨1, 2000, 6000⟩ 2200, .pong ⟨0, 1000, 5100⟩ 3000]

/-- The late answer's round trip of 2000 is stored with the offset 3900 of the other exchange;
its own offset is 3100. -/
theorem late_pong_mixed :
    { rttUs := 2000, offsetUs := 3900, takenAtUs := 3000 } ∈ (new.run latePongs).offsets.recent ∧
      ¬ ∀ s ∈ (new.run latePongs).offsets.recent, s.Paired (exchanges latePongs) := by
  decide +kernel

end SessionClock

end Oxrdp
