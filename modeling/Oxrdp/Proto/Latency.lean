import Oxrdp.Lib.Saturating
import Oxrdp.Lib.Table
import Mathlib.Data.List.Induction

/-!
# Round trips and the clock offset

`latency.rs` of the protocol: `ClockSync` estimates how far the agent's clock is ahead of the
client's from ping and pong exchanges.  Pings wait under their sequence number, and pongs may
come in any order, twice, or without having been asked for.

An **exchange** is a ping and the pong that answered it.  `answered` reads the exchanges off
the history alone: a pong answers the last ping with its number, if no pong with that number
came since.  `run_tracks` says that the estimator holds the pings that wait and the figures of
one exchange, the one whose ping was sent last.
-/

namespace Oxrdp

/-- Rolling statistics over the last samples; `head` is the oldest once the buffer is full. -/
structure Samples where
  buf : List UInt64
  head : Nat
  len : Nat
  capacity : Nat
  deriving DecidableEq, Repr

namespace Samples

/-- The capacity is clamped to at least 1. -/
def new (capacity : Nat) : Samples :=
  { buf := [], head := 0, len := 0, capacity := max capacity 1 }

/-- Record a sample, evicting the oldest when full. -/
def push (s : Samples) (valueUs : UInt64) : Samples :=
  if s.len < s.capacity then
    { s with buf := s.buf ++ [valueUs], len := s.len + 1 }
  else
    { s with buf := s.buf.set s.head valueUs, head := (s.head + 1) % s.capacity }

end Samples

/-- The estimator.  The offset is kept together with the round trip it was measured over and
with the time its ping was sent. -/
structure ClockSync where
  pending : Table UInt32 UInt64
  rtt : Samples
  offset : Option Int64
  offsetRtt : Option UInt64
  appliedSentUs : Option UInt64

namespace ClockSync

/-- A tracker keeping `window` RTT samples. -/
def new (window : Nat) : ClockSync :=
  { pending := ∅, rtt := Samples.new window, offset := none, offsetRtt := none,
    appliedSentUs := none }

/-- Record that a ping was sent. -/
def onPingSent (c : ClockSync) (seq : UInt32) (sentUs : UInt64) : ClockSync :=
  { c with pending := c.pending.insert seq sentUs }

/-- Record a pong.  The round trip is always recorded; the offset is taken over unless a ping
that was sent later has been answered already. -/
def onPong (c : ClockSync) (seq : UInt32) (agentUs nowUs : UInt64) :
    Option UInt64 × ClockSync :=
  match c.pending.lookup seq with
  | none => (none, c)
  | some sentUs =>
      let rtt := nowUs.saturatingSub sentUs
      let c := { c with pending := c.pending.erase seq, rtt := c.rtt.push rtt }
      if c.appliedSentUs.all (sentUs ≥ ·) then
        let rttHalf := rtt / 2
        let midpoint := sentUs.saturatingAdd rttHalf
        let offset := Int64.clamp ((agentUs.toNat : Int) - (midpoint.toNat : Int))
        (some rtt,
          { c with offset := some offset, offsetRtt := some rtt, appliedSentUs := some sentUs })
      else
        (some rtt, c)

/-- Current estimate of agent clock minus client clock. -/
def offsetUs (c : ClockSync) : Option Int64 := c.offset

/-- Half the round trip of the sample that the offset was computed from. -/
def offsetErrorBoundUs (c : ClockSync) : Option UInt64 := c.offsetRtt.map (· / 2)

end ClockSync

/-! ## Histories -/

/-- A ping that was registered, or a pong that arrived. -/
inductive ClockOp where
  | ping (seq : UInt32) (sentUs : UInt64)
  | pong (seq : UInt32) (agentUs nowUs : UInt64)
  deriving DecidableEq, Repr

def ClockOp.seq : ClockOp → UInt32
  | .ping seq _ => seq
  | .pong seq _ _ => seq

/-- A ping and the pong that answered it. -/
structure Exchange where
  sentUs : UInt64
  agentUs : UInt64
  nowUs : UInt64
  deriving DecidableEq, Repr

namespace Exchange

/-- The round trip. -/
def rtt (e : Exchange) : UInt64 := e.nowUs.saturatingSub e.sentUs

/-- The agent's reading against the middle of the round trip. -/
def offset (e : Exchange) : Int64 :=
  Int64.clamp ((e.agentUs.toNat : Int) - ((e.sentUs.saturatingAdd (e.rtt / 2)).toNat : Int))

end Exchange

/-- When the ping with this number that still waits was sent: the last thing that happened to
the number is a ping. -/
def waitingSince (ops : List ClockOp) (seq : UInt32) : Option UInt64 :=
  match (ops.filter (·.seq = seq)).getLast? with
  | some (.ping _ sentUs) => some sentUs
  | _ => none

/-- The exchange that an operation completes. -/
def answer (before : List ClockOp) : ClockOp → Option Exchange
  | .ping _ _ => none
  | .pong seq agentUs nowUs =>
      (waitingSince before seq).map fun sentUs => { sentUs, agentUs, nowUs }

def answeredFrom (before : List ClockOp) : List ClockOp → List Exchange
  | [] => []
  | op :: rest => (answer before op).toList ++ answeredFrom (before ++ [op]) rest

/-- The exchanges of a history, in the order in which they were completed. -/
def answered (ops : List ClockOp) : List Exchange := answeredFrom [] ops

/-- The exchange whose ping was sent last, and among those the one completed last. -/
def Newest (exchanges : List Exchange) (e : Exchange) : Prop :=
  ∃ earlier later, exchanges = earlier ++ e :: later ∧
    (∀ x ∈ earlier, x.sentUs ≤ e.sentUs) ∧ ∀ x ∈ later, x.sentUs < e.sentUs

/-- A call about another number leaves a ping waiting as it was. -/
theorem waitingSince_other {op : ClockOp} {seq : UInt32} (ops : List ClockOp)
    (h : seq ≠ op.seq) : waitingSince (ops ++ [op]) seq = waitingSince ops seq := by
  rw [waitingSince, List.filter_append, List.filter_cons_of_neg (by simpa using h.symm),
    List.filter_nil, List.append_nil, waitingSince]

/-- A ping that is sent waits since then. -/
theorem waitingSince_ping (ops : List ClockOp) (seq : UInt32) (sentUs : UInt64) (k : UInt32) :
    waitingSince (ops ++ [.ping seq sentUs]) k =
      if k = seq then some sentUs else waitingSince ops k := by
  by_cases h : k = seq
  · simp [waitingSince, ClockOp.seq, h]
  · rw [if_neg h, waitingSince_other ops h]

/-- A pong ends the waiting, asked for or not. -/
theorem waitingSince_pong (ops : List ClockOp) (seq : UInt32) (agentUs nowUs : UInt64)
    (k : UInt32) :
    waitingSince (ops ++ [.pong seq agentUs nowUs]) k =
      if k = seq then none else waitingSince ops k := by
  by_cases h : k = seq
  · simp [waitingSince, ClockOp.seq, h]
  · rw [if_neg h, waitingSince_other ops h]

/-- The answers of a list of calls, one call later. -/
theorem answeredFrom_snoc (before ops : List ClockOp) (op : ClockOp) :
    answeredFrom before (ops ++ [op]) =
      answeredFrom before ops ++ (answer (before ++ ops) op).toList := by
  induction ops generalizing before with
  | nil => simp [answeredFrom]
  | cons first rest ih =>
      rw [List.cons_append, answeredFrom, ih, answeredFrom, List.append_assoc, List.append_assoc]
      rfl

/-- The answers, one call later. -/
theorem answered_snoc (ops : List ClockOp) (op : ClockOp) :
    answered (ops ++ [op]) = answered ops ++ (answer ops op).toList :=
  answeredFrom_snoc [] ops op

/-- The newest exchange was sent last. -/
theorem Newest.le {exchanges : List Exchange} {e : Exchange} (h : Newest exchanges e) :
    ∀ x ∈ exchanges, x.sentUs ≤ e.sentUs := by
  obtain ⟨earlier, later, rfl, hearlier, hlater⟩ := h
  intro x hx
  rcases List.mem_append.mp hx with hx | hx
  · exact hearlier x hx
  · rcases List.mem_cons.mp hx with rfl | hx
    · exact UInt64.le_refl _
    · exact UInt64.le_of_lt (hlater x hx)

/-- The newest exchange is one of them. -/
theorem Newest.mem {exchanges : List Exchange} {e : Exchange} (h : Newest exchanges e) :
    e ∈ exchanges := by
  obtain ⟨earlier, later, rfl, -, -⟩ := h
  simp

/-- An exchange that is not older than all before it is the newest. -/
theorem Newest.last {exchanges : List Exchange} {e : Exchange}
    (h : ∀ x ∈ exchanges, x.sentUs ≤ e.sentUs) : Newest (exchanges ++ [e]) e :=
  ⟨exchanges, [], rfl, h, by simp⟩

/-- An older exchange leaves the newest as it is. -/
theorem Newest.snoc {exchanges : List Exchange} {e x : Exchange} (h : Newest exchanges e)
    (hx : x.sentUs < e.sentUs) : Newest (exchanges ++ [x]) e := by
  obtain ⟨earlier, later, rfl, hearlier, hlater⟩ := h
  refine ⟨earlier, later ++ [x], by simp, hearlier, ?_⟩
  intro y hy
  rcases List.mem_append.mp hy with hy | hy
  · exact hlater y hy
  · rw [List.mem_singleton.mp hy]
    exact hx

/-! ## What the estimator holds -/

namespace ClockSync

def step (c : ClockSync) : ClockOp → ClockSync
  | .ping seq sentUs => c.onPingSent seq sentUs
  | .pong seq agentUs nowUs => (c.onPong seq agentUs nowUs).2

/-- The estimator after a sequence of pings and pongs. -/
def run (c : ClockSync) (ops : List ClockOp) : ClockSync := ops.foldl step c

/-- The figures are those of this exchange, and absent if there is none. -/
structure Holds (c : ClockSync) (e : Option Exchange) : Prop where
  offset : c.offset = e.map Exchange.offset
  offsetRtt : c.offsetRtt = e.map Exchange.rtt
  applied : c.appliedSentUs = e.map Exchange.sentUs

/-- The estimator after this history: the pings that wait, and the newest exchange. -/
structure Tracks (c : ClockSync) (ops : List ClockOp) : Prop where
  pending : ∀ seq, c.pending.lookup seq = waitingSince ops seq
  newest : answered ops = [] ∧ c.Holds none ∨ ∃ e, Newest (answered ops) e ∧ c.Holds (some e)

variable {c : ClockSync} {ops : List ClockOp} {seq : UInt32}

/-- A pong that nothing waits for changes nothing. -/
theorem onPong_unasked (h : c.pending.lookup seq = none) (agentUs nowUs : UInt64) :
    c.onPong seq agentUs nowUs = (none, c) := by
  rw [onPong, h]

/-- What an answer does: the ping no longer waits, the round trip is reported, and the figures
are those of the exchange unless a ping sent later was answered before. -/
theorem onPong_answered {sentUs : UInt64} (h : c.pending.lookup seq = some sentUs)
    (agentUs nowUs : UInt64) {e : Exchange} (he : e = ⟨sentUs, agentUs, nowUs⟩) :
    (c.onPong seq agentUs nowUs).1 = some e.rtt ∧
      (c.onPong seq agentUs nowUs).2.pending = c.pending.erase seq ∧
      ((∀ applied, c.appliedSentUs = some applied → applied ≤ sentUs) →
        (c.onPong seq agentUs nowUs).2.Holds (some e)) ∧
      ∀ applied, c.appliedSentUs = some applied → sentUs < applied →
        ∀ e', c.Holds e' → (c.onPong seq agentUs nowUs).2.Holds e' := by
  subst he
  simp only [onPong, h]
  by_cases hnew : c.appliedSentUs.all (sentUs ≥ ·) = true
  · rw [if_pos hnew]
    refine ⟨rfl, rfl, fun _ => ⟨rfl, rfl, rfl⟩, ?_⟩
    intro applied happlied hlt
    rw [happlied, Option.all_some, decide_eq_true_eq] at hnew
    exact absurd hnew (UInt64.not_le.mpr hlt)
  · rw [if_neg hnew]
    refine ⟨rfl, rfl, ?_, fun _ _ _ _ hholds => ⟨hholds.1, hholds.2, hholds.3⟩⟩
    intro hle
    apply absurd _ hnew
    cases happlied : c.appliedSentUs with
    | none => rfl
    | some applied => simpa using hle applied happlied

/-- A new estimate tracks that nothing has happened. -/
theorem new_tracks (window : Nat) : (new window).Tracks [] where
  pending := fun _ => rfl
  newest := .inl ⟨rfl, rfl, rfl, rfl⟩

/-- **A ping** is tracked. -/
theorem Tracks.ping (h : c.Tracks ops) (sentUs : UInt64) :
    (c.onPingSent seq sentUs).Tracks (ops ++ [.ping seq sentUs]) where
  pending := by
    intro k
    rw [onPingSent, Table.lookup_insert_ite, waitingSince_ping, h.pending]
  newest := by
    rw [answered_snoc, answer, Option.toList_none, List.append_nil]
    rcases h.newest with ⟨hnone, hholds⟩ | ⟨e, he, hholds⟩
    · exact .inl ⟨hnone, hholds.1, hholds.2, hholds.3⟩
    · exact .inr ⟨e, he, hholds.1, hholds.2, hholds.3⟩

/-- **A pong that was not asked for** changes no estimate. -/
theorem Tracks.unasked (h : c.Tracks ops) (hwait : waitingSince ops seq = none)
    (agentUs nowUs : UInt64) : c.Tracks (ops ++ [.pong seq agentUs nowUs]) where
  pending := by
    intro k
    rw [waitingSince_pong, h.pending]
    by_cases hk : k = seq
    · rw [if_pos hk, hk, hwait]
    · rw [if_neg hk]
  newest := by
    rw [answered_snoc, answer, hwait, Option.map_none, Option.toList_none, List.append_nil]
    exact h.newest

/-- **A pong that answers** gives an estimate, unless a newer one is known. -/
theorem Tracks.answered (h : c.Tracks ops) {sentUs : UInt64}
    (hwait : waitingSince ops seq = some sentUs) (agentUs nowUs : UInt64) :
    (c.onPong seq agentUs nowUs).2.Tracks (ops ++ [.pong seq agentUs nowUs]) := by
  obtain ⟨-, hpending, happly, hkeep⟩ :=
    onPong_answered ((h.pending seq).trans hwait) agentUs nowUs rfl
  constructor
  · intro k
    rw [hpending, Table.lookup_erase_ite, waitingSince_pong, h.pending]
  · rw [answered_snoc, answer, hwait, Option.map_some, Option.toList_some]
    rcases h.newest with ⟨hnone, hholds⟩ | ⟨e, he, hholds⟩
    · -- the first exchange of all
      refine .inr ⟨_, Newest.last ?_, happly ?_⟩
      · simp [hnone]
      · simp [hholds.applied]
    · rcases UInt64.lt_or_le sentUs e.sentUs with hlt | hle
      · exact .inr ⟨e, he.snoc hlt, hkeep e.sentUs hholds.applied hlt _ hholds⟩
      · refine .inr ⟨_, Newest.last ?_, happly ?_⟩
        · intro x hx
          exact UInt64.le_trans (he.le x hx) hle
        · intro applied happlied
          rw [hholds.applied] at happlied
          cases happlied
          exact hle

/-- One step keeps track of the history. -/
theorem step_tracks (h : c.Tracks ops) (op : ClockOp) : (c.step op).Tracks (ops ++ [op]) := by
  cases op with
  | ping seq sentUs => exact h.ping sentUs
  | pong seq agentUs nowUs =>
      cases hwait : waitingSince ops seq with
      | none =>
          rw [step, onPong_unasked ((h.pending seq).trans hwait)]
          exact h.unasked hwait agentUs nowUs
      | some sentUs => exact h.answered hwait agentUs nowUs

/-- So **every run** is tracked. -/
theorem run_tracks (window : Nat) (ops : List ClockOp) :
    ((new window).run ops).Tracks ops := by
  induction ops using List.reverseRecOn with
  | nil => exact new_tracks window
  | append_singleton ops op ih =>
      rw [run, List.foldl_append]
      exact step_tracks ih op

/-- **The estimate is that of one exchange.**  After any sequence of pings and pongs, a pong
that nothing waits for changes nothing, and the offset, its round trip and the time its ping
was sent are those of the answered exchange whose ping was sent last; the error bound is half
its round trip. -/
theorem estimate_newest (window : Nat) (ops : List ClockOp) :
    (∀ seq agentUs nowUs, waitingSince ops seq = none →
      ((new window).run ops).onPong seq agentUs nowUs = (none, (new window).run ops)) ∧
    (answered ops = [] ∧ ((new window).run ops).Holds none ∧
        ((new window).run ops).offsetErrorBoundUs = none ∨
      ∃ e, Newest (answered ops) e ∧ ((new window).run ops).Holds (some e) ∧
        ((new window).run ops).offsetErrorBoundUs = some (e.rtt / 2)) := by
  have h := run_tracks window ops
  constructor
  · intro seq agentUs nowUs hwait
    exact onPong_unasked ((h.pending seq).trans hwait) agentUs nowUs
  · rcases h.newest with ⟨hnone, hholds⟩ | ⟨e, he, hholds⟩
    · refine .inl ⟨hnone, hholds, ?_⟩
      rw [offsetErrorBoundUs, hholds.offsetRtt]
      rfl
    · refine .inr ⟨e, he, hholds, ?_⟩
      rw [offsetErrorBoundUs, hholds.offsetRtt]
      rfl

end ClockSync

end Oxrdp
