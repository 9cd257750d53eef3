import Oxrdp.Agent.Frames

/-!
# Whole runs of the driver

A turn of the driver loop is a turn on views (`step_at`), so a run is a chain of
turns, labelled by the snapshots the platform gave and the acks that came in
(`drive_turns`).  A run that failed has told the client a part of what some moves
from the start would tell it (`sessionAfter_told`).  The properties of the driver are
proved of chains of turns or of moves, and carried over here.
-/

namespace Oxrdp

open Effect Machine

/-- What an incoming message means to the client's view of things. -/
def Turn.ofMessage : Message → Turn
  | .frameAck ack => .acked ack.windowId ack.frameId
  | .ping _ => .pinged
  | _ => .quiet

/-- The snapshot a turn works on, if it is a tick. -/
def Turn.snapshot : Turn → Option (List SourceWindow)
  | .tick live => some live
  | _ => none

section Runs

variable {W E I : Type}

/-- The turn an event makes in a session. -/
def turnOf [WindowSource W] (s : Session W E I) : Event → Turn
  | .tick => .tick (WindowSource.liveWindows s.source).1
  | .incoming msg => .ofMessage msg
  | .readerStopped => .quiet
  | .writerStopped _ => .quiet

/-- The turns of a run, up to and including one that fails. -/
def turns [WindowSource W] [FrameEncoder E] [InputSink I] (cfg : Config) :
    Session W E I → List Event → List Turn
  | _, [] => []
  | s, event :: rest =>
      turnOf s event ::
        match (step cfg event).run s with
        | .ok _ s' => turns cfg s' rest
        | .error _ _ => []

/-- The snapshots of the platform's windows that a run works on. -/
def snapshots [WindowSource W] [FrameEncoder E] [InputSink I] (cfg : Config)
    (s : Session W E I) (events : List Event) : List (List SourceWindow) :=
  (turns cfg s events).filterMap Turn.snapshot

/-- Whether `p` holds of the session before every tick of a run. -/
def everyTick [WindowSource W] [FrameEncoder E] [InputSink I] (p : Session W E I → Bool)
    (cfg : Config) (events : List Event) (s : Session W E I) : Bool :=
  along (fun event s => event != .tick || p s) (step cfg) events s

variable {cfg : Config} {v : View}

/-! ## One turn -/

/-- A tick of the session is a tick of its view. -/
theorem tick_at [WindowSource W] [FrameEncoder E] {s₀ : Session W E I} (hs₀ : At v s₀) :
    Triple (· = s₀) (tick cfg : Act W E I Unit)
      (fun _ s => ∃ v', TickStep cfg (WindowSource.liveWindows s₀.source).1 v v' ∧ At v' s)
      (Stopped cfg (.tick (WindowSource.liveWindows s₀.source).1) v) := by
  refine (syncWindows_at hs₀).bind fun _ => ?_
  intro s hs
  obtain ⟨v₁, v₂, hsync, hclose, hs⟩ := hs
  refine pumpFrames_at.conseq (fun s hs => hs) (fun _ s hs => ?_) (fun e s hs => ?_) s hs
  · obtain ⟨v', hframes, hs⟩ := hs
    exact ⟨v', ⟨v₁, v₂, hsync, hclose, hframes⟩, hs⟩
  · obtain ⟨v', hframes, htold⟩ := hs
    exact ⟨v', .whole ⟨v₁, v₂, hsync, hclose, hframes⟩, htold⟩

/-- Injecting input changes nothing in the view. -/
theorem inject_at {f : I → I} {X : Stop → Session W E I → Prop} :
    Triple (At v) (inject f : Act W E I Unit) (fun _ => At v) X :=
  triple_modify fun _ hs => hs

/-- An acknowledgement takes a frame out of the budget. -/
theorem onAck_at {ack : FrameAck} {X : Stop → Session W E I → Prop} [InputSink I] :
    Triple (At v) (onMessage cfg (.frameAck ack) : Act W E I Unit)
      (fun _ => At (v.ack ack.windowId ack.frameId)) X := by
  refine get_at.bind fun a => ?_
  cases hl : a.streams.lookup ack.windowId with
  | none =>
      refine triple_pure ?_
      intro s hs
      obtain ⟨rfl, hs⟩ := hs
      have hst : v.streams ack.windowId = none := by rw [← hs.1]; exact hl
      rw [View.ack, hst, Option.map_none, View.setStream_self hst]
      exact hs
  | some st =>
      intro s hs
      obtain ⟨rfl, hs⟩ := hs
      have hst : v.streams ack.windowId = some st := by rw [← hs.1]; exact hl
      rw [View.ack, hst]
      exact putStream_at (X := X) ack.windowId _ a hs

/-- A ping is answered by one pong on the control channel. -/
theorem onPing_at {p : Ping} [InputSink I] :
    Triple (At v) (onMessage cfg (.ping p) : Act W E I Unit)
      (fun _ s => ∃ pong, At (v.tell [⟨Channel.control, .pong pong⟩]) s) (Cut v) := by
  refine elapsedUs_at.bind fun agentUs => ?_
  refine (send_at (m := .pong ⟨p.seq, p.sentUs, agentUs⟩) trivial Channel.control).conseq
    (fun s hs => hs) (fun _ s hs => ⟨_, hs⟩) (fun e s hs => hs.cut List.prefix_rfl)

/-- Messages other than acks and pings change nothing of a view. -/
theorem onOther_at {m : Message} [InputSink I] (hm : Turn.ofMessage m = .quiet) :
    Triple (At v) (onMessage cfg m : Act W E I Unit) (fun _ => At v) (Cut v) := by
  cases m with
  | frameAck => cases hm
  | ping => cases hm
  | close => exact triple_throw fun s hs => hs.cut List.prefix_rfl
  | pointerEvent p =>
      refine get_at.bind fun a => ?_
      cases a.streams.lookup p.windowId with
      | none => exact triple_pure fun s hs => hs.2
      | some st => exact inject_at.conseq (fun s hs => hs.2) (fun _ s hs => hs) fun e s hs => hs
  | keyEvent => exact triple_modify fun s hs => hs
  | textInput =>
      simp only [onMessage]
      split
      · exact inject_at
      · exact triple_pure fun s hs => hs
  | modifierSync => exact triple_modify fun s hs => hs
  | windowControl w =>
      simp only [onMessage]
      split
      · refine get_at.bind fun a => ?_
        cases a.streams.lookup w.windowId with
        | none => exact triple_pure fun s hs => hs.2
        | some st =>
            exact inject_at.conseq (fun s hs => hs.2) (fun _ s hs => hs) fun e s hs => hs
      · exact triple_pure fun s hs => hs
  | _ => exact triple_pure fun s hs => hs

/-- A message of the client is a turn of the view. -/
theorem onMessage_at {m : Message} [InputSink I] :
    Triple (At v) (onMessage cfg m : Act W E I Unit)
      (fun _ s => ∃ v', TurnStep cfg (Turn.ofMessage m) v v' ∧ At v' s) (Cut v) := by
  by_cases hm : Turn.ofMessage m = .quiet
  · rw [hm]
    exact (onOther_at hm).conseq (fun s hs => hs) (fun _ s hs => ⟨v, rfl, hs⟩)
      fun e s hs => hs
  · cases m with
    | frameAck ack =>
        exact onAck_at.conseq (fun s hs => hs) (fun _ s hs => ⟨_, rfl, hs⟩) fun e s hs => hs
    | ping p =>
        refine onPing_at.conseq (fun s hs => hs) (fun _ s hs => ?_) fun e s hs => hs
        obtain ⟨pong, hs⟩ := hs
        exact ⟨_, ⟨pong, rfl⟩, hs⟩
    | _ => exact absurd rfl hm

/-- **One turn** of the driver loop is one turn on views; one that fails has told
a part of what some moves would tell. -/
theorem step_at [WindowSource W] [FrameEncoder E] [InputSink I] (cfg : Config)
    {s₀ : Session W E I} (hs₀ : At v s₀) (event : Event) :
    Triple (· = s₀) (step cfg event : Act W E I Unit)
      (fun _ s => ∃ v', TurnStep cfg (turnOf s₀ event) v v' ∧ At v' s)
      (Stopped cfg (turnOf s₀ event) v) := by
  cases event with
  | incoming msg =>
      refine onMessage_at.conseq ?_ (fun _ s hs => hs) (fun e s hs => hs.stopped)
      intro s hs
      subst hs
      exact hs₀
  | tick => exact tick_at hs₀
  | readerStopped =>
      refine triple_throw ?_
      intro s hs
      subst hs
      exact ⟨v, .quiet, hs₀.cut List.prefix_rfl⟩
  | writerStopped failed =>
      refine triple_throw ?_
      intro s hs
      subst hs
      exact ⟨v, .quiet, hs₀.cut List.prefix_rfl⟩

/-! ## A run -/

/-- A run drives its first event, and goes on if it did not stop. -/
theorem drive_cons [WindowSource W] [FrameEncoder E] [InputSink I] (s : Session W E I)
    (event : Event) (rest : List Event) :
    (drive cfg (event :: rest)).run s =
      match (step cfg event).run s with
      | .ok _ s' => (drive cfg rest).run s'
      | .error e s' => .error e s' := by
  change EStateM.bind (step cfg event) (fun _ => rest.forM (step cfg)) s = _
  unfold EStateM.bind
  cases hrun : step cfg event s <;> simp [EStateM.run, hrun, drive]

/-- A run that goes through is a chain of turns. -/
theorem drive_turns [WindowSource W] [FrameEncoder E] [InputSink I] {s s' : Session W E I}
    {events : List Event} (hreg : s.registry.WellFormed)
    (h : (drive cfg events).run s = .ok ⟨⟩ s') :
    Chain (TurnStep cfg) (turns cfg s events) s.view s'.view ∧ s'.registry.WellFormed := by
  induction events generalizing s with
  | nil =>
      cases h
      exact ⟨.nil, hreg⟩
  | cons event rest ih =>
      have hstep := step_at cfg (v := s.view) ⟨rfl, hreg⟩ event s rfl
      rw [drive_cons] at h
      unfold turns
      cases hrun : (step cfg event).run s with
      | error e m =>
          rw [hrun] at h
          cases h
      | ok u m =>
          rw [hrun] at h hstep
          obtain ⟨v', hturn, rfl, hm⟩ := hstep
          obtain ⟨hchain, hs'⟩ := ih hm h
          exact ⟨.cons hturn hchain, hs'⟩

/-! ## Turns as moves -/

/-- The synchronisation of the live windows is a sequence of moves. -/
theorem syncMoves {live : List SourceWindow} {v' : View}
    (h : Chain (SyncStep cfg) live v v') : Relation.ReflTransGen (Move cfg) v v' := by
  refine h.keep .refl ?_
  intro w _ a b hstep hab
  exact hab.tail (.sync w hstep)

/-- A turn is some moves. -/
theorem TurnStep.moves {turn : Turn} {v v' : View} (h : TurnStep cfg turn v v') :
    Relation.ReflTransGen (Move cfg) v v' := by
  cases turn with
  | tick live =>
      obtain ⟨v₁, v₂, hsync, hclose, hframes⟩ := h
      obtain ⟨ids, -, hframes⟩ := hframes
      have hmoves := (syncMoves hsync).tail (.close _ hclose)
      apply hframes.keep hmoves
      intro id _ a b hframe hab
      exact hab.tail (.frame id hframe)
  | acked id frameId =>
      cases h
      exact .single (.ack id frameId)
  | pinged =>
      obtain ⟨p, rfl⟩ := h
      exact .single (.pong p)
  | quiet =>
      cases h
      exact .refl

/-- A turn that was cut short is a sequence of moves too. -/
theorem TurnCut.moves {turn : Turn} {v v' : View} (h : TurnCut cfg turn v v') :
    Relation.ReflTransGen (Move cfg) v v' := by
  cases h with
  | quiet => exact .refl
  | syncing _ hsync => exact syncMoves hsync
  | closing hsync hclose => exact (syncMoves hsync).tail (.close _ hclose)
  | whole h => exact h.moves

/-- The state a computation leaves behind. -/
def leftBy {ε σ α : Type} : EStateM.Result ε σ α → σ
  | .ok _ s => s
  | .error _ s => s

/-- However a run ends, it has told a part of what some moves from the start
would tell. -/
theorem drive_told [WindowSource W] [FrameEncoder E] [InputSink I] {s : Session W E I}
    {events : List Event} (hreg : s.registry.WellFormed) :
    ∃ v', Relation.ReflTransGen (Move cfg) s.view v' ∧
      (leftBy ((drive cfg events).run s)).outbound.told <+: v'.told := by
  induction events generalizing s with
  | nil => exact ⟨s.view, .refl, List.prefix_rfl⟩
  | cons event rest ih =>
      have hstep := step_at cfg (v := s.view) ⟨rfl, hreg⟩ event s rfl
      rw [drive_cons]
      cases hrun : (step cfg event).run s with
      | error e m =>
          rw [hrun] at hstep
          obtain ⟨v', hcut, htold⟩ := hstep
          exact ⟨v', hcut.moves, htold⟩
      | ok u m =>
          rw [hrun] at hstep
          obtain ⟨v₁, hturn, rfl, hm⟩ := hstep
          obtain ⟨v', hmoves, htold⟩ := ih hm
          exact ⟨v', hturn.moves.trans hmoves, htold⟩

/-- Whether a computation returned. -/
def returned {ε σ α : Type} : EStateM.Result ε σ α → Bool
  | .ok _ _ => true
  | .error _ _ => false

/-- A session that has not failed is running. -/
theorem running_sessionAfter [WindowSource W] [FrameEncoder E] [InputSink I] (cfg : Config)
    (source : W) (encoder : E) (sink : I) (events : List Event)
    (h : returned ((drive cfg events).run (Session.start source encoder sink)) = true) :
    Running cfg source encoder sink events (sessionAfter cfg source encoder sink events) := by
  unfold Running sessionAfter
  cases hrun : (drive cfg events).run (Session.start source encoder sink) with
  | ok u s => rfl
  | error e s =>
      rw [hrun] at h
      cases h

/-- The view every session starts from. -/
def View.start : View :=
  { told := [], windows := fun _ => none, nextId := 1, streams := fun _ => none }

/-- A session starts with an empty view. -/
theorem start_at (source : W) (encoder : E) (sink : I) :
    At View.start (Session.start source encoder sink) :=
  ⟨rfl, WindowRegistry.new_wellFormed⟩

/-- **The driver refines the turns on views.** -/
theorem running_turns [WindowSource W] [FrameEncoder E] [InputSink I] {source : W}
    {encoder : E} {sink : I} {events : List Event} {s : Session W E I}
    (h : Running cfg source encoder sink events s) :
    Chain (TurnStep cfg) (turns cfg (Session.start source encoder sink) events)
      View.start s.view :=
  (drive_turns (start_at source encoder sink).2 h).1

/-- **Any run** has told a part of what some moves from the start would tell. -/
theorem sessionAfter_told [WindowSource W] [FrameEncoder E] [InputSink I] (cfg : Config)
    (source : W) (encoder : E) (sink : I) (events : List Event) :
    ∃ v, Relation.ReflTransGen (Move cfg) View.start v ∧
      (sessionAfter cfg source encoder sink events).outbound.told <+: v.told := by
  have hleft : sessionAfter cfg source encoder sink events =
      leftBy ((drive cfg events).run (Session.start source encoder sink)) := by
    unfold sessionAfter leftBy
    cases (drive cfg events).run (Session.start source encoder sink) <;> rfl
  rw [hleft]
  exact drive_told (start_at source encoder sink).2

end Runs

end Oxrdp
