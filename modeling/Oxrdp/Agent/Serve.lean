import Oxrdp.Agent.Frames
import Oxrdp.Agent.Handshake
import Oxrdp.Sec.Token

/-!
# Serving connections

`run_session` of `serve.rs`, for any number of connections at once.  Each of them
authenticates by itself, asks for the one session slot they all share, and only then drives
windows; a connection that finds the slot taken is told so and dropped.  The slot is given back
when the driver and its tasks have ended.

What the outside does is an `Action`: the deadline passes, a handshake runs to its end, the
driver wakes up with an event.  The reader task is not modelled: an incoming message may be any
message, whatever bytes the peer has sent.
-/

namespace Oxrdp

/-- What every session of the agent is started with. -/
structure ServeParams where
  expectedToken : String
  supportedCodecs : List UInt8
  maxFramesInFlight : UInt8

/-- How a connection ended. -/
inductive SessionEnd where
  | refused (e : HandshakeError)
  | failed (f : Fault)
  | finished (n : Negotiated)
  deriving DecidableEq, Repr

/-- Where a connection is in `run_session`, with the platform it was given. -/
inductive Phase (W E I : Type) where
  | authenticating (platform : W × E × I)
  | negotiated (n : Negotiated) (platform : W × E × I)
  | driving (n : Negotiated) (s : Session W E I)
  /-- The driver has returned, and its tasks are being stopped. -/
  | stopping (n : Negotiated) (stop : Stop) (s : Session W E I)
  | ended (outcome : SessionEnd) (platform : W × E × I)

/-- The platform of a connection, as it was left. -/
def Phase.platform {W E I : Type} : Phase W E I → W × E × I
  | .authenticating platform => platform
  | .negotiated _ platform => platform
  | .driving _ s => s.platform
  | .stopping _ _ s => s.platform
  | .ended _ platform => platform

/-- Whether the connection has the session slot. -/
def Phase.holdsSlot {W E I : Type} : Phase W E I → Bool
  | .driving _ _ => true
  | .stopping _ _ _ => true
  | _ => false

/-- One connection. -/
structure Connection (W E I : Type) where
  link : Link
  sessionId : UInt64
  /-- The clock and the writer task of the session to be. -/
  env : Env
  phase : Phase W E I

/-- What happens on a connection. -/
inductive Action where
  /-- The deadline for the handshake passes. -/
  | deadline
  /-- The handshake runs to its end. -/
  | negotiate
  /-- `session_slot.try_acquire`. -/
  | tryAcquire
  /-- The driver wakes up. -/
  | wake (event : Event)
  /-- The tasks of a session have ended, and its slot is given back. -/
  | leave
  deriving DecidableEq, Repr

/-- The tunables of a session with what was negotiated for it. -/
def Negotiated.config (n : Negotiated) (params : ServeParams) (env : Env) : Config :=
  { maxFramesInFlight := params.maxFramesInFlight
    acksEnabled := n.features &&& Feature.frameAck != 0
    textInputEnabled := n.features &&& Feature.textInput != 0
    windowControlEnabled := n.features &&& Feature.windowControl != 0
    codec := n.codec
    env }

/-- What `run_session` returns once the driver has stopped. -/
def endOf (n : Negotiated) : Stop → SessionEnd
  | .finished => .finished n
  | .fault f => .failed f

section Serve

variable {ι W E I : Type} [DecidableEq ι] [WindowSource W] [FrameEncoder E] [InputSink I]

/-- One action on a connection, with `free` slots left.  An action that the connection is not
waiting for is ignored. -/
def Connection.step (params : ServeParams) (free : Nat) (c : Connection W E I) :
    Action → Nat × Connection W E I
  | .deadline =>
      match c.phase with
      | .authenticating platform => (free, { c with phase := .ended (.refused .timeout) platform })
      | _ => (free, c)
  | .negotiate =>
      match c.phase with
      | .authenticating platform =>
          let (result, link, _) := negotiate c.link .new c.sessionId params.supportedCodecs
            (verifyToken params.expectedToken)
          match result with
          | .error e => (free, { c with link, phase := .ended (.refused e) platform })
          | .ok n => (free, { c with link, phase := .negotiated n platform })
      | _ => (free, c)
  | .tryAcquire =>
      match c.phase with
      | .negotiated n platform =>
          if free = 0 then
            let link := sendRefusal c.link ErrorCode.sessionBusy "a session is already active"
            (free, { c with link, phase := .ended (.refused .busy) platform })
          else
            let (source, encoder, sink) := platform
            (free - 1, { c with phase := .driving n (.start source encoder sink) })
      | _ => (free, c)
  | .wake event =>
      match c.phase with
      | .driving n s =>
          match (Oxrdp.step (n.config params c.env) event).run s with
          | .ok _ s => (free, { c with phase := .driving n s })
          | .error stop s => (free, { c with phase := .stopping n stop s })
      | _ => (free, c)
  | .leave =>
      match c.phase with
      | .stopping n stop s =>
          (free + 1, { c with phase := .ended (endOf n stop) s.platform })
      | _ => (free, c)

/-- What an action can do to a connection. -/
inductive Took (params : ServeParams) (free : Nat) (c : Connection W E I) :
    Action → Nat → Connection W E I → Prop
  | ignored (a : Action) : Took params free c a free c
  | refused (a : Action) {link : Link} {platform : W × E × I} (e : HandshakeError)
      (hphase : c.phase.platform = platform) (hfree : c.phase.holdsSlot = false) :
      Took params free c a free { c with link, phase := .ended (.refused e) platform }
  | negotiated {link : Link} {n : Negotiated} {platform : W × E × I}
      (hphase : c.phase = .authenticating platform) {hello : ClientHello}
      (hread : (c.link.readMessage .new).1 = .ok (some (.clientHello hello)))
      (htoken : hello.authToken = params.expectedToken)
      (hfeatures : n.features = hello.features &&& Feature.supported) :
      Took params free c .negotiate free { c with link, phase := .negotiated n platform }
  | acquired {n : Negotiated} {platform : W × E × I} (hphase : c.phase = .negotiated n platform)
      (hfree : free ≠ 0) :
      Took params free c .tryAcquire (free - 1)
        { c with phase := .driving n (.start platform.1 platform.2.1 platform.2.2) }
  | woke {n : Negotiated} {s s' : Session W E I} {event : Event}
      (hphase : c.phase = .driving n s)
      (hrun : (Oxrdp.step (n.config params c.env) event).run s = .ok ⟨⟩ s') :
      Took params free c (.wake event) free { c with phase := .driving n s' }
  | stopped {n : Negotiated} {s s' : Session W E I} {event : Event} {stop : Stop}
      (hphase : c.phase = .driving n s)
      (hrun : (Oxrdp.step (n.config params c.env) event).run s = .error stop s') :
      Took params free c (.wake event) free { c with phase := .stopping n stop s' }
  | left {n : Negotiated} {s : Session W E I} {stop : Stop}
      (hphase : c.phase = .stopping n stop s) :
      Took params free c .leave (free + 1)
        { c with phase := .ended (endOf n stop) s.platform }

theorem Connection.step_took (params : ServeParams) (free : Nat) (c : Connection W E I)
    (a : Action) : Took params free c a (c.step params free a).1 (c.step params free a).2 := by
  obtain ⟨link, sessionId, env, phase⟩ := c
  cases a with
  | deadline =>
      cases phase with
      | authenticating platform => exact .refused _ .timeout rfl rfl
      | _ => exact .ignored _
  | negotiate =>
      cases phase with
      | authenticating platform =>
          unfold Connection.step
          cases hresult : negotiate link .new sessionId params.supportedCodecs
              (verifyToken params.expectedToken) with
          | mk result rest =>
              cases result with
              | error e =>
                  simp only
                  exact .refused _ e rfl rfl
              | ok n =>
                  have haccepted := negotiate_accepted (congrArg Prod.fst hresult)
                  obtain ⟨hello, hread, hverify, hfeatures⟩ := haccepted
                  simp only
                  exact .negotiated rfl hread ((verifyToken_iff _ _).mp hverify) hfeatures
      | _ => exact .ignored _
  | tryAcquire =>
      cases phase with
      | negotiated n platform =>
          unfold Connection.step
          simp only
          split
          · exact .refused _ .busy rfl rfl
          · rename_i hfree
            exact .acquired rfl hfree
      | _ => exact .ignored _
  | wake event =>
      cases phase with
      | driving n s =>
          unfold Connection.step
          simp only
          cases hrun : (Oxrdp.step (n.config params env) event).run s with
          | ok u s' => exact .woke rfl hrun
          | error stop s' => exact .stopped rfl hrun
      | _ => exact .ignored _
  | leave =>
      cases phase with
      | stopping n stop s => exact .left rfl
      | _ => exact .ignored _

/-- The agent: its connections and how many sessions it may still start. -/
structure Server (ι W E I : Type) where
  free : Nat
  connections : ι → Connection W E I

/-- An agent with one session slot, before anything was read from any connection. -/
def Server.start (link : ι → Link) (sessionId : ι → UInt64) (env : ι → Env)
    (platform : ι → W × E × I) : Server ι W E I :=
  { free := 1
    connections := fun i =>
      { link := link i
        sessionId := sessionId i
        env := env i
        phase := .authenticating (platform i) } }

/-- One action on one of the connections. -/
def Server.step (params : ServeParams) (srv : Server ι W E I) (act : ι × Action) :
    Server ι W E I :=
  let r := (srv.connections act.1).step params srv.free act.2
  { free := r.1, connections := Function.update srv.connections act.1 r.2 }

/-- The agent after some actions. -/
def Server.run (params : ServeParams) (srv : Server ι W E I) (acts : List (ι × Action)) :
    Server ι W E I :=
  acts.foldl (Server.step params) srv

end Serve

end Oxrdp
