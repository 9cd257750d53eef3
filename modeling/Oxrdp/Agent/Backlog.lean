import Oxrdp.Agent.Queue

/-!
# A backlog of frames

Frames are produced only when a slot is free, so a full queue costs a window its
frame and nothing else.  The queue keeps no slots back for other messages, though:
frames may take all of them, and then the next `Pong` or window message ends the
session with `WouldBlock`.
-/

namespace Oxrdp

open Effect

/-- The queue is open and has no slot left. -/
def Outbound.Full (o : Outbound) : Prop :=
  o.closed = false ∧ outboundQueueCapacity ≤ o.queued.length

section Backlog

variable {W E I : Type} {cfg : Config}

/-- A message finds the queue full exactly when it is open and has no slot left. -/
theorem queueRaw_wouldBlock (s : Session W E I) (k : OutboundChunk) :
    (∃ s', (queueRaw cfg k).run s = .error (.fault .wouldBlock) s') ↔
      (s.queueNow cfg).Full := by
  rw [queueRaw_run]
  unfold Outbound.Full
  by_cases hclosed : (s.queueNow cfg).closed = true
  · simp [hclosed]
  by_cases hfull : (s.queueNow cfg).queued.length ≥ outboundQueueCapacity
  · simp [hclosed, hfull]
  · simp [hclosed, hfull]

/-- Without a free slot a window's share of the tick is a look at the queue. -/
theorem pumpWindow_full [WindowSource W] [FrameEncoder E] {s : Session W E I}
    (hfull : (s.queueNow cfg).Full) (id : UInt32) :
    ∃ s', (pumpWindow cfg id).run s = .ok ⟨⟩ s' ∧ (s' = s ∨ s' = s.looked cfg) := by
  rcases pumpWindow_noSlot (.inr hfull.2) id with hrun | hrun
  · exact ⟨s, hrun, .inl rfl⟩
  · rw [hfull.1] at hrun
    exact ⟨s.looked cfg, hrun, .inr rfl⟩

/-- **The shared queue.**  A message ends the session with `WouldBlock` exactly when it
finds the queue open and full, whatever fills it; a session that ended so has all
slots of an open queue taken.  Frames never end it: without a free slot nothing is
captured, encoded or sent for a window. -/
theorem wouldBlock_iff_full [WindowSource W] [FrameEncoder E] [InputSink I] (cfg : Config) :
    (∀ (s : Session W E I) (m : Message) (ch : UInt16) (body : List UInt8),
      m.encodeBody = .ok body →
      ((∃ s', (send cfg m ch).run s = .error (.fault .wouldBlock) s') ↔
        (s.queueNow cfg).Full)) ∧
    (∀ (source : W) (encoder : E) (sink : I) (events : List Event) (s : Session W E I),
      (drive cfg events).run (Session.start source encoder sink) =
        .error (.fault .wouldBlock) s →
      s.outbound.closed = false ∧ s.outbound.queued.length = outboundQueueCapacity) ∧
    (∀ s s' : Session W E I, (pumpFrames cfg).run s ≠ .error (.fault .wouldBlock) s') ∧
    (∀ (s : Session W E I) (id : UInt32), (s.queueNow cfg).Full →
      ∃ s', (pumpWindow cfg id).run s = .ok ⟨⟩ s' ∧ s'.source = s.source ∧
        s'.encoder = s.encoder ∧ s'.streams = s.streams ∧
        s'.outbound.accepted = s.outbound.accepted) := by
  refine ⟨?_, ?_, ?_, ?_⟩
  · intro s m ch body hbody
    unfold send
    rw [hbody]
    exact queueRaw_wouldBlock s _
  · intro source encoder sink events s hrun
    have hends := (drive_queue bounded_inv cfg events).of_error (Nat.zero_le _) hrun
    obtain ⟨hclosed, hfull⟩ := hends.2 rfl
    exact ⟨hclosed, Nat.le_antisymm hends.1 hfull⟩
  · intro s s' hrun
    have hany : QueueInv fun _ => True := ⟨fun _ _ _ => trivial, fun _ _ _ _ _ => trivial⟩
    have hends : Triple (OnQueue fun _ => True) (pumpFrames cfg : Act W E I Unit) _ _ :=
      pumpFrames_queue hany
    exact (hends.of_error trivial hrun).2 rfl
  · intro s id hfull
    obtain ⟨s', hrun, hsame⟩ := pumpWindow_full hfull id
    refine ⟨s', hrun, ?_⟩
    rcases hsame with rfl | rfl
    · exact ⟨rfl, rfl, rfl, rfl⟩
    · exact ⟨rfl, rfl, rfl, Outbound.accepted_move _ _⟩

end Backlog

/-- A session in which the announcement and 63 frames of one window wait for a
stalled writer. -/
def busySession : Session ScriptedSource NoopEncoder NoopSink :=
  sessionAfter .stalled busyScript NoopEncoder.mk NoopSink.mk (List.replicate 63 .tick)

/-- Why a computation stopped, if it did. -/
def stopOf {ε σ α : Type} : EStateM.Result ε σ α → Option ε
  | .ok _ _ => none
  | .error e _ => some e

theorem stopOf_some {ε σ α : Type} {r : EStateM.Result ε σ α} {e : ε} (h : stopOf r = some e) :
    ∃ s, r = .error e s := by
  cases r with
  | ok a s => cases h
  | error e' s =>
      cases h
      exact ⟨s, rfl⟩

theorem wouldBlock_iff_full_busy :
    (busySession.queueNow .stalled).Full ∧
    ∃ s', (send .stalled (.windowClosed { windowId := 1 }) Channel.window).run busySession =
      .error (.fault .wouldBlock) s' := by
  have hfull : (busySession.queueNow .stalled).Full := by
    unfold Outbound.Full
    decide +kernel
  have hshared := wouldBlock_iff_full (W := ScriptedSource) (E := NoopEncoder) (I := NoopSink)
    .stalled
  exact ⟨hfull, (hshared.1 busySession _ Channel.window [1, 0, 0, 0] (by decide +kernel)).mpr
    hfull⟩

/-- A session whose client has not asked to acknowledge frames, so that nothing bounds how many
are on their way. -/
def Config.unacknowledged : Config := { Config.stalled with acksEnabled := false }

/-- The announcement and 63 frames of one window, in such a session. -/
def unacknowledgedSession : Session ScriptedSource NoopEncoder NoopSink :=
  sessionAfter .unacknowledged busyScript NoopEncoder.mk NoopSink.mk (List.replicate 63 .tick)

/-- **A backlog of frames ends the session.**  The writer is stalled but open, frames are not
acknowledged, and one message that is not a frame is waiting; all the same, the answer to a ping
finds no slot. -/
theorem busy_session_ends_at_ping :
    Running .unacknowledged busyScript NoopEncoder.mk NoopSink.mk (List.replicate 63 .tick)
      unacknowledgedSession ∧
    (unacknowledgedSession.outbound.closed = false ∧
      unacknowledgedSession.outbound.queued.countP
        (fun k => k.msgType != MsgType.frameData) = 1) ∧
    ∃ s', (step .unacknowledged (.incoming (.ping { seq := 0, sentUs := 0 }))).run
        unacknowledgedSession = .error (.fault .wouldBlock) s' :=
  ⟨running_sessionAfter _ _ _ _ _ (by decide +kernel), by decide +kernel,
    stopOf_some (by decide +kernel)⟩

end Oxrdp
