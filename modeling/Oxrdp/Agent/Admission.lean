import Oxrdp.Agent.Authorization
import Oxrdp.Lib.Permits
import Oxrdp.Session.Agreement

/-!
# Admission

The accept loop of `run_agent` in `win/mod.rs`.  Each connection gets a task of its own: TLS
accept, then `run_session`, all on one thread.  A connection that finds no permit left among
`PRE_AUTH_CONCURRENCY` is dropped; the others take one each, which is released with the task,
and those that authenticate ask for the one session slot.

The permits are meant for connections in the middle of their handshake.  They are held to the
end of the session instead, so that a session leaves one less for the handshakes that follow:
`bounds_handshakes_iff` says when that shows.
-/

namespace Oxrdp

open Permits

/-- How many connections may be mid-handshake at once. -/
def preAuthConcurrency : Nat := 4

/-- The task of a connection. -/
inductive Task (W E I : Type) where
  /-- TLS accept, under the deadline. -/
  | accepting (sessionId : UInt64)
  /-- In `run_session`. -/
  | serving (c : Connection W E I)
  /-- The task has ended, and its permit was released. -/
  | returned

namespace Task

variable {W E I : Type}

/-- The task holds a permit of `pre_auth_slots`. -/
def holdsPermit : Task W E I → Bool
  | .accepting _ => true
  | .serving _ => true
  | .returned => false

/-- The connection is between accept and the end of its `ClientHello` phase. -/
def midHandshake : Task W E I → Bool
  | .accepting _ => true
  | .serving c => (c.phase matches .authenticating _)
  | .returned => false

/-- The connection has the session slot. -/
def pastSlot : Task W E I → Bool
  | .serving c => c.phase.holdsSlot
  | _ => false

/-- A task returns when `run_session` does.  One that is refused as busy first writes the
refusal, with no deadline. -/
def settle (c : Connection W E I) : Task W E I :=
  match c.phase with
  | .ended (.refused .busy) _ => .serving c
  | .ended _ _ => .returned
  | _ => .serving c

end Task

/-- What happens to the task of a connection. -/
inductive TaskEvent where
  /-- TLS accept is done: the connection, and the clock of the session to be. -/
  | tlsAccepted (link : Link) (env : Env)
  | tlsFails
  /-- The deadline passes, for TLS accept or for the handshake. -/
  | deadline
  /-- The handshake runs to its end; on success the slot is tried for at once. -/
  | negotiate
  /-- The driver wakes up. -/
  | wake (event : Event)
  /-- The tasks of the session have ended. -/
  | leave
  /-- A refusal is written, or could not be. -/
  | refusalWritten
  | panics

section Listener

variable {W E I : Type} [WindowSource W] [FrameEncoder E] [InputSink I]

/-- One event of a task, with `free` session slots left. -/
def Task.step (params : ServeParams) (platform : W × E × I) (free : Nat) (t : Task W E I)
    (e : TaskEvent) : Nat × Task W E I :=
  match t with
  | .accepting sessionId =>
      match e with
      | .tlsAccepted link env =>
          (free, .serving { link, sessionId, env, phase := .authenticating platform })
      | .tlsFails => (free, .returned)
      | .deadline => (free, .returned)
      | .panics => (free, .returned)
      | _ => (free, .accepting sessionId)
  | .serving c =>
      match e with
      | .deadline =>
          let (free, c) := c.step params free .deadline
          (free, .settle c)
      | .negotiate =>
          let (free, c) := c.step params free .negotiate
          let (free, c) := c.step params free .tryAcquire
          (free, .settle c)
      | .wake event =>
          let (free, c) := c.step params free (.wake event)
          (free, .settle c)
      | .leave =>
          let (free, c) := c.step params free .leave
          (free, .settle c)
      | .refusalWritten =>
          match c.phase with
          | .ended _ _ => (free, .returned)
          | _ => (free, .serving c)
      | .panics => (free + c.phase.holdsSlot.toNat, .returned)
      | _ => (free, .serving c)
  | .returned => (free, .returned)

/-- The listener, with the tasks of the connections that it has accepted. -/
structure Listener (W E I : Type) where
  preAuthSlots : Nat
  sessionSlot : Nat
  nextSessionId : UInt64
  tasks : List (Task W E I)

/-- What happens to the listener. -/
inductive ListenerEvent where
  /-- A peer connects. -/
  | accept
  | acceptFails
  | task (i : Nat) (e : TaskEvent)

namespace Listener

/-- The listener before the first connection. -/
def start : Listener W E I :=
  { preAuthSlots := preAuthConcurrency, sessionSlot := 1, nextSessionId := 1, tasks := [] }

/-- A connection without a permit is dropped. -/
def accept (l : Listener W E I) : Listener W E I :=
  if l.preAuthSlots = 0 then
    l
  else
    { l with
      preAuthSlots := l.preAuthSlots - 1
      nextSessionId := l.nextSessionId + 1
      tasks := l.tasks ++ [.accepting l.nextSessionId] }

/-- An event of one of the tasks; one that ends releases its permit. -/
def taskStep (params : ServeParams) (platform : W × E × I) (l : Listener W E I) (i : Nat)
    (e : TaskEvent) : Listener W E I :=
  match l.tasks[i]? with
  | none => l
  | some t =>
      let (sessionSlot, t') := t.step params platform l.sessionSlot e
      { l with
        preAuthSlots := if t.holdsPermit && !t'.holdsPermit then l.preAuthSlots + 1
          else l.preAuthSlots
        sessionSlot
        tasks := l.tasks.set i t' }

def step (params : ServeParams) (platform : W × E × I) (l : Listener W E I) :
    ListenerEvent → Listener W E I
  | .accept => l.accept
  | .acceptFails => l
  | .task i e => l.taskStep params platform i e

/-- The listener after some events. -/
def run (params : ServeParams) (platform : W × E × I) (events : List ListenerEvent) :
    Listener W E I :=
  events.foldl (step params platform) start

variable {params : ServeParams} {platform : W × E × I}

theorem run_snoc (events : List ListenerEvent) (e : ListenerEvent) :
    run params platform (events ++ [e]) =
      (run params platform events).step params platform e := by
  rw [run, List.foldl_append]
  rfl

end Listener

/-! ## The permits of a task -/

variable {params : ServeParams} {platform : W × E × I}

/-- An action takes the session slot, gives it back, or leaves it. -/
theorem Connection.step_slot (params : ServeParams) (free : Nat) (c : Connection W E I)
    (a : Action) :
    (c.step params free a).1 + (c.step params free a).2.phase.holdsSlot.toNat =
      free + c.phase.holdsSlot.toNat := by
  have htook := c.step_took params free a
  generalize c.step params free a = r at htook ⊢
  obtain ⟨free', c'⟩ := r
  cases htook with
  | ignored => rfl
  | refused _ _ _ hfree =>
      rw [hfree]
      rfl
  | negotiated hphase =>
      rw [hphase]
      rfl
  | acquired hphase hfree =>
      rw [hphase]
      change free - 1 + 1 = free + 0
      omega
  | woke hphase =>
      rw [hphase]
      rfl
  | stopped hphase =>
      rw [hphase]
      rfl
  | left hphase =>
      rw [hphase]
      rfl

omit [WindowSource W] [FrameEncoder E] [InputSink I] in
/-- A task that has settled has the slot its connection has. -/
theorem Task.settle_pastSlot (c : Connection W E I) :
    (Task.settle c).pastSlot = c.phase.holdsSlot := by
  unfold Task.settle
  cases hphase : c.phase with
  | ended outcome platform =>
      cases outcome with
      | refused e =>
          cases e with
          | busy =>
              change c.phase.holdsSlot = _
              rw [hphase]
          | _ => rfl
      | _ => rfl
  | _ =>
      change c.phase.holdsSlot = _
      rw [hphase]

/-- What the session slots lose, the task gains. -/
theorem Task.step_slot (params : ServeParams) (platform : W × E × I) (free : Nat)
    (t : Task W E I) (e : TaskEvent) :
    (t.step params platform free e).1 + (t.step params platform free e).2.pastSlot.toNat =
      free + t.pastSlot.toNat := by
  cases t with
  | returned => rfl
  | accepting sessionId =>
      cases e with
      | _ => rfl
  | serving c =>
      cases e with
      | tlsAccepted => rfl
      | tlsFails => rfl
      | refusalWritten =>
          cases hphase : c.phase with
          | _ => simp [Task.step, Task.pastSlot, Phase.holdsSlot, hphase]
      | panics => rfl
      | deadline =>
          simp only [Task.step, Task.settle_pastSlot]
          exact c.step_slot params free _
      | wake event =>
          simp only [Task.step, Task.settle_pastSlot]
          exact c.step_slot params free _
      | leave =>
          simp only [Task.step, Task.settle_pastSlot]
          exact c.step_slot params free _
      | negotiate =>
          simp only [Task.step, Task.settle_pastSlot]
          rw [Connection.step_slot]
          exact c.step_slot params free _

/-- A task that has returned stays returned. -/
theorem Task.step_returned (params : ServeParams) (platform : W × E × I) (free : Nat)
    {t : Task W E I} (ht : t.holdsPermit = false) (e : TaskEvent) :
    (t.step params platform free e).2.holdsPermit = false := by
  cases t with
  | returned => rfl
  | accepting => cases ht
  | serving => cases ht

/-! ## Both pools are balanced -/

/-- The permits of both pools are accounted for. -/
structure Listener.Accounted (l : Listener W E I) : Prop where
  preAuth : Balanced Task.holdsPermit preAuthConcurrency l.preAuthSlots l.tasks
  session : Balanced Task.pastSlot 1 l.sessionSlot l.tasks

omit [WindowSource W] [FrameEncoder E] [InputSink I] in
theorem Listener.Accounted.accept {l : Listener W E I} (h : l.Accounted) : l.accept.Accounted := by
  unfold Listener.accept
  split_ifs with hfree
  · exact h
  · exact ⟨h.preAuth.acquire hfree rfl, h.session.join rfl⟩

theorem Listener.Accounted.taskStep {l : Listener W E I} (h : l.Accounted) (i : Nat)
    (e : TaskEvent) : (l.taskStep params platform i e).Accounted := by
  unfold Listener.taskStep
  cases ht : l.tasks[i]? with
  | none => exact h
  | some t =>
      refine ⟨h.preAuth.set ht ?_, h.session.set ht (t.step_slot params platform _ e)⟩
      simp only
      cases hheld : t.holdsPermit with
      | true =>
          cases hholds : (t.step params platform l.sessionSlot e).2.holdsPermit with
          | true => rfl
          | false => rfl
      | false =>
          rw [Task.step_returned params platform _ hheld e]
          rfl

theorem Listener.run_accounted (params : ServeParams) (platform : W × E × I)
    (events : List ListenerEvent) :
    (run params platform events).Accounted := by
  induction events using List.reverseRecOn with
  | nil => exact ⟨.start _ _, .start _ _⟩
  | append_singleton events e ih =>
      rw [run_snoc]
      cases e with
      | accept => exact ih.accept
      | acceptFails => exact ih
      | task i e => exact ih.taskStep i e

/-! ## What the permits bound -/

namespace Listener

/-- What the permits are for: a connection is dropped only where `PRE_AUTH_CONCURRENCY` others
are in the middle of their handshake, and at most one is past the session slot. -/
structure BoundsHandshakes (params : ServeParams) (platform : W × E × I)
    (events : List ListenerEvent) : Prop where
  dropped : Log.Lawful (fun before e => e = .accept →
    (run params platform before).preAuthSlots = 0 →
      preAuthConcurrency ≤ (run params platform before).tasks.countP Task.midHandshake) events
  alone : ∀ before, before <+: events →
    (run params platform before).tasks.countP Task.pastSlot ≤ 1

/-- Where as many tasks are alive as may be mid-handshake, all of them are. -/
def Unburdened (l : Listener W E I) : Prop :=
  preAuthConcurrency ≤ l.tasks.countP Task.holdsPermit →
    ∀ t ∈ l.tasks, t.holdsPermit = true → t.midHandshake = true

omit [WindowSource W] [FrameEncoder E] [InputSink I] in
theorem midHandshake_holdsPermit (t : Task W E I) (h : t.midHandshake = true) :
    t.holdsPermit = true := by
  cases t with
  | returned => cases h
  | _ => rfl

omit [WindowSource W] [FrameEncoder E] [InputSink I] in
theorem pastSlot_not_midHandshake {t : Task W E I} (h : t.pastSlot = true) :
    t.holdsPermit = true ∧ t.midHandshake = false := by
  cases t with
  | returned => cases h
  | accepting => cases h
  | serving c =>
      refine ⟨rfl, ?_⟩
      change c.phase.holdsSlot = true at h
      change (c.phase matches .authenticating _) = false
      cases hphase : c.phase with
      | authenticating platform =>
          rw [hphase] at h
          cases h
      | _ => rfl

omit [WindowSource W] [FrameEncoder E] [InputSink I] in
/-- A drop is as it should be exactly where the tasks alive are all mid-handshake. -/
theorem Accounted.drop_iff {l : Listener W E I} (h : l.Accounted) :
    (l.preAuthSlots = 0 → preAuthConcurrency ≤ l.tasks.countP Task.midHandshake) ↔
      l.Unburdened := by
  have hall := countP_le_iff midHandshake_holdsPermit l.tasks
  have hle := h.preAuth.held_le
  rw [h.preAuth.empty_iff, Unburdened, ← hall]
  constructor
  · intro hdrop hfull
    exact hle.trans (hdrop hfull)
  · intro hmid hfull
    exact hfull.trans (hmid hfull)

/-- **What the permits bound.**  In every run, drops find `PRE_AUTH_CONCURRENCY` handshakes
under way and at most one connection is past the session slot, exactly if no connection
arrives while that many tasks are alive and one of them is past its handshake. -/
theorem bounds_handshakes_iff (params : ServeParams) (platform : W × E × I)
    (events : List ListenerEvent) :
    BoundsHandshakes params platform events ↔
      Log.Lawful (fun before e => e = .accept → (run params platform before).Unburdened)
        events := by
  constructor
  · intro h before e after heq haccept
    exact (run_accounted params platform before).drop_iff.mp (h.dropped before e after heq haccept)
  · intro h
    refine ⟨?_, ?_⟩
    · intro before e after heq haccept
      exact (run_accounted params platform before).drop_iff.mpr (h before e after heq haccept)
    · intro before _
      exact (run_accounted params platform before).session.held_le

/-- A session takes a permit from the handshakes as long as it lasts. -/
theorem midHandshake_lt (events : List ListenerEvent) {t : Task W E I}
    (ht : t ∈ (run params platform events).tasks) (hpast : t.pastSlot = true) :
    (run params platform events).tasks.countP Task.midHandshake < preAuthConcurrency := by
  have hle := (run_accounted params platform events).preAuth.held_le
  have hmid := pastSlot_not_midHandshake hpast
  by_contra hmany
  have hall := (countP_le_iff midHandshake_holdsPermit _).mp (hle.trans (Nat.not_lt.mp hmany))
  rw [hall t ht hmid.1] at hmid
  cases hmid.2

end Listener

end Listener

namespace Listener

/-- A platform without windows. -/
def idlePlatform : ScriptedSource × NoopEncoder × NoopSink :=
  ({ shots := [], frame := none }, .mk, .mk)

def tokenParams : ServeParams where
  expectedToken := "token"
  supportedCodecs := [2, 1]
  maxFramesInFlight := 2

/-- A client that authenticates and has its session, then three more in TLS accept. -/
def crowdedEvents : List ListenerEvent :=
  [.accept, .task 0 (.tlsAccepted tokenLink { clock := fun _ => 0, writer := fun _ => .take 0 }),
    .task 0 .negotiate, .accept, .accept, .accept]

/-- The connection after that is dropped with three handshakes under way. -/
theorem crowded_drop :
    ¬ BoundsHandshakes tokenParams idlePlatform (crowdedEvents ++ [.accept]) := by
  intro h
  have hfull : (run tokenParams idlePlatform crowdedEvents).preAuthSlots = 0 := by
    decide +kernel
  have hthree :
      (run tokenParams idlePlatform crowdedEvents).tasks.countP Task.midHandshake = 3 := by
    decide +kernel
  have hfour := h.dropped crowdedEvents .accept [] rfl rfl hfull
  rw [hthree] at hfour
  exact absurd hfour (by decide)

end Listener

end Oxrdp
