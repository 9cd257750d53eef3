import Oxrdp.Agent.Outbound
import Oxrdp.Agent.Pacing
import Oxrdp.Agent.Platform

/-!
# The session driver

`serve.rs` of the agent: the loop that announces window changes, sends frames,
and applies acks and input.  The driver is a computation over a `Session` that
keeps its state when it stops, so that what was queued before a failure is
there to be looked at.

The outside world is an `Env`: what the clock shows, and what the writer task
has done, at each look the driver takes.  The platform sits behind its three
traits, and any implementation will do.

Diagnostics (the log lines, their counters and the timestamps that only they
read) are left out.
-/

namespace Oxrdp

open Message

/-- Why a session fails. -/
inductive Fault where
  | invalidData (e : EncodeError)
  | wouldBlock
  | brokenPipe
  | exhausted (e : Exhausted)
  | frameIdOverflow
  deriving DecidableEq, Repr

/-- How the driver loop ends. -/
inductive Stop where
  | finished
  | fault (f : Fault)
  deriving DecidableEq, Repr

/-- What the driver sees of the world, look by look. -/
structure Env where
  /-- Microseconds since the session started (`elapsed_us`). -/
  clock : Nat → UInt64
  /-- What the writer task did since the look before. -/
  writer : Nat → WriterMove

/-- Tunables for one session, and what was negotiated for it. -/
structure Config where
  maxFramesInFlight : UInt8
  acksEnabled : Bool
  textInputEnabled : Bool
  windowControlEnabled : Bool
  codec : UInt8
  env : Env

/-- A session with the default tunables and raw frames, whose writer never gets
to take anything. -/
def Config.stalled : Config :=
  { maxFramesInFlight := 2
    acksEnabled := true
    textInputEnabled := false
    windowControlEnabled := false
    codec := Codec.rawBgra
    env := { clock := fun _ => 0, writer := fun _ => .take 0 } }

/-- The same with H.264. -/
def Config.coded : Config := { Config.stalled with codec := Codec.h264 }

/-- Position and size of a window. -/
structure Geometry where
  x : Int32
  y : Int32
  width : UInt16
  height : UInt16
  deriving DecidableEq, Repr

/-- Per-window driver state: what the client was last told of the window, and
the flow control of its frames. -/
structure WindowStream where
  handle : Handle
  videoChannel : UInt16
  budget : FrameBudget
  geometry : Geometry
  title : String
  showState : UInt8
  flags : UInt32
  needsKeyframe : Bool
  deriving DecidableEq, Repr

/-- The state of one session. -/
structure Session (W E I : Type) where
  outbound : Outbound
  source : W
  encoder : E
  sink : I
  registry : WindowRegistry
  streams : Table UInt32 WindowStream
  looks : Nat

section Driver

variable {W E I : Type} [WindowSource W] [FrameEncoder E] [InputSink I]

/-- A session that has just been negotiated. -/
def Session.start (source : W) (encoder : E) (sink : I) : Session W E I :=
  { outbound := .empty, source, encoder, sink, registry := .new, streams := ∅, looks := 0 }

/-- Computations of the driver. -/
abbrev Act (W E I : Type) := EStateM Stop (Session W E I)

/-! ## The queue and the clock -/

/-- Let the writer task catch up with the driver. -/
def writerRuns (cfg : Config) : Act W E I Unit :=
  modify fun s =>
    { s with outbound := s.outbound.move (cfg.env.writer s.looks), looks := s.looks + 1 }

/-- Microseconds since the session started. -/
def elapsedUs (cfg : Config) : Act W E I UInt64 := do
  let s ← get
  set { s with looks := s.looks + 1 }
  pure (cfg.env.clock s.looks)

/-- `try_send`: a full queue is an error, and so is a writer that has gone. -/
def queueRaw (cfg : Config) (k : OutboundChunk) : Act W E I Unit := do
  writerRuns cfg
  let s ← get
  if s.outbound.closed then
    throw (.fault .brokenPipe)
  else if s.outbound.queued.length ≥ outboundQueueCapacity then
    throw (.fault .wouldBlock)
  else
    set { s with outbound := s.outbound.push k }

/-- Encode a message and put it on the queue. -/
def send (cfg : Config) (msg : Message) (ch : UInt16) : Act W E I Unit :=
  match msg.encodeBody with
  | .error e => throw (.fault (.invalidData e))
  | .ok body => queueRaw cfg { msgType := msg.msgType, channel := ch, body }

/-- `try_reserve`: whether a frame may be produced now.  A full queue is no
error here. -/
def reserveFrameSlot (cfg : Config) : Act W E I Bool := do
  writerRuns cfg
  let s ← get
  if s.outbound.closed then
    throw (.fault .brokenPipe)
  else
    pure (decide (s.outbound.queued.length < outboundQueueCapacity))

/-- Fill a slot that was reserved. -/
def permitSend (k : OutboundChunk) : Act W E I Unit :=
  modify fun s => { s with outbound := s.outbound.push k }

/-! ## Window sync -/

/-- The booleans of a window as a `WindowOpened.flags` bitmask. -/
def windowFlags (w : SourceWindow) : UInt32 :=
  (if w.resizable then WindowFlag.resizable else 0) |||
    (if w.hasFrame then WindowFlag.hasFrame else 0) |||
    (if w.topmost then WindowFlag.topmost else 0) |||
    (if w.minimized then WindowFlag.minimized else 0) |||
    (if w.maximized then WindowFlag.maximized else 0)

/-- The show state of a window; minimized wins over maximized. -/
def showState (w : SourceWindow) : UInt8 :=
  if w.minimized then WindowShow.minimized
  else if w.maximized then WindowShow.maximized
  else WindowShow.normal

def SourceWindow.geometry (w : SourceWindow) : Geometry :=
  { x := w.x, y := w.y, width := w.width, height := w.height }

/-- Store what is known of a window. -/
def putStream (id : UInt32) (stream : WindowStream) : Act W E I Unit :=
  modify fun s => { s with streams := s.streams.insert id stream }

/-- `registry.track`, whose panics stop the session. -/
def track (handle : Handle) : Act W E I (TrackedWindow × Bool) := do
  let s ← get
  match s.registry.track handle with
  | .error e => throw (.fault (.exhausted e))
  | .ok (tracked, registry) => do
      set { s with registry }
      pure tracked

/-- The announcement of a window. -/
def openedMessage (tracked : TrackedWindow) (w : SourceWindow) : WindowOpened :=
  { windowId := tracked.windowId
    videoChannel := tracked.videoChannel
    pid := w.pid
    appId := w.appId
    title := w.title
    x := w.x
    y := w.y
    width := w.width
    height := w.height
    dpi := w.dpi
    flags := windowFlags w
    ownerId := 0 }

/-- What the driver remembers of a window it has just announced. -/
def openedStream (cfg : Config) (tracked : TrackedWindow) (w : SourceWindow) :
    WindowStream :=
  { handle := w.handle
    videoChannel := tracked.videoChannel
    budget := .new cfg.maxFramesInFlight
    geometry := w.geometry
    title := w.title
    showState := showState w
    flags := windowFlags w
    needsKeyframe := true }

def openWindow (cfg : Config) (tracked : TrackedWindow) (w : SourceWindow) :
    Act W E I Unit := do
  send cfg (.windowOpened (openedMessage tracked w)) Channel.window
  putStream tracked.windowId (openedStream cfg tracked w)

/-- Report a new title. -/
def syncTitle (cfg : Config) (id : UInt32) (w : SourceWindow) (stream : WindowStream) :
    Act W E I WindowStream := do
  if stream.title ≠ w.title then
    let stream := { stream with title := w.title }
    putStream id stream
    send cfg (.windowTitle { windowId := id, title := w.title }) Channel.window
    pure stream
  else
    pure stream

/-- Report a new show state or new flags, always both. -/
def syncState (cfg : Config) (id : UInt32) (w : SourceWindow) (stream : WindowStream) :
    Act W E I WindowStream := do
  if stream.showState ≠ showState w ∨ stream.flags ≠ windowFlags w then
    let stream := { stream with showState := showState w, flags := windowFlags w }
    putStream id stream
    send cfg
      (.windowState { windowId := id, state := showState w, flags := windowFlags w })
      Channel.window
    pure stream
  else
    pure stream

/-- Report a new position or size, or the old one in a new coordinate space. -/
def syncGeometry (cfg : Config) (id : UInt32) (w : SourceWindow) (hasFrameChanged : Bool)
    (stream : WindowStream) : Act W E I Unit := do
  if stream.geometry ≠ w.geometry ∨ hasFrameChanged = true then
    let resolutionChanged :=
      decide ((stream.geometry.width, stream.geometry.height) ≠ (w.width, w.height))
    putStream id { stream with
      geometry := w.geometry
      budget := stream.budget.restart
      needsKeyframe := stream.needsKeyframe || resolutionChanged }
    send cfg
      (.windowGeometry
        { windowId := id, x := w.x, y := w.y, width := w.width, height := w.height })
      Channel.window
  else
    pure ()

/-- Whether the frame bit differs from what the client was told. -/
def hasFrameChanged (stream : WindowStream) (w : SourceWindow) : Bool :=
  (windowFlags w ^^^ stream.flags) &&& WindowFlag.hasFrame != 0

/-- Bring the client up to date with one window it has been told of. -/
def updateWindow (cfg : Config) (id : UInt32) (w : SourceWindow) (stream : WindowStream) :
    Act W E I Unit := do
  let flip := hasFrameChanged stream w
  let stream ← syncTitle cfg id w stream
  let stream ← syncState cfg id w stream
  -- the bounds of a minimized window are not real geometry
  if w.minimized then pure () else syncGeometry cfg id w flip stream

/-- Announce a window or report what changed of it. -/
def syncWindow (cfg : Config) (w : SourceWindow) : Act W E I Unit := do
  let (tracked, isNew) ← track w.handle
  if isNew then
    openWindow cfg tracked w
  else
    let s ← get
    match s.streams.lookup tracked.windowId with
    | none => pure ()
    | some stream => updateWindow cfg tracked.windowId w stream

/-- Drop a window that has gone. -/
def closeWindow (cfg : Config) (gone : TrackedWindow) : Act W E I Unit := do
  let s ← get
  match s.streams.lookup gone.windowId with
  | none => pure ()
  | some stream =>
      set { s with
        streams := s.streams.erase gone.windowId
        encoder := FrameEncoder.forget s.encoder stream.handle }
  send cfg (.windowClosed { windowId := gone.windowId }) Channel.window

/-- `source.live_windows`. -/
def liveWindows : Act W E I (List SourceWindow) := do
  let s ← get
  let (live, source) := WindowSource.liveWindows s.source
  set { s with source }
  pure live

/-- `registry.retain_live`. -/
def retainLive (handles : List Handle) : Act W E I (List TrackedWindow) := do
  let s ← get
  let (removed, registry) := s.registry.retainLive handles
  set { s with registry }
  pure removed

/-- Diff the platform's window list against what the client has been told. -/
def syncWindows (cfg : Config) : Act W E I Unit := do
  let live ← liveWindows
  live.forM (syncWindow cfg)
  let gone ← retainLive (live.map SourceWindow.handle)
  gone.forM (closeWindow cfg)

/-! ## Frames -/

/-- What the driver asks the platform to capture. -/
def captureIntent (cfg : Config) (encoder : E) (stream : WindowStream) : CaptureIntent :=
  if cfg.codec = Codec.h264 ∧ FrameEncoder.failed encoder stream.handle = false ∧
      FrameEncoder.wantsCpuFrame encoder stream.handle stream.geometry.width
        stream.geometry.height = false then
    .gpuNv12Preferred
  else
    .cpuBgra

/-- `source.next_frame`. -/
def nextFrame (handle : Handle) (intent : CaptureIntent) :
    Act W E I (Option SourceFrame) := do
  let s ← get
  let (frame, source) := WindowSource.nextFrame s.source handle intent
  set { s with source }
  pure frame

/-- `encoder.submit`. -/
def submit (handle : Handle) (frame : SourceFrame) (forceKeyframe : Bool) :
    Act W E I Unit :=
  modify fun s =>
    { s with encoder := FrameEncoder.submit s.encoder handle frame forceKeyframe }

/-- `encoder.poll`. -/
def poll (handle : Handle) : Act W E I (Option EncodedFrame) := do
  let s ← get
  let (encoded, encoder) := FrameEncoder.poll s.encoder handle
  set { s with encoder }
  pure encoded

/-- What goes into a `FrameData`, whichever path it took. -/
structure Picture where
  codec : UInt8
  flags : UInt8
  width : UInt16
  height : UInt16
  data : List UInt8
  encodedUs : UInt64
  deriving DecidableEq, Repr

/-- Hand a captured frame to the encoder, if the session uses one. -/
def submitFrame (cfg : Config) (stream : WindowStream) (frame : SourceFrame) :
    Act W E I Unit :=
  if cfg.codec = Codec.h264 then submit stream.handle frame stream.needsKeyframe
  else pure ()

/-- The next access unit of the encoder.  A polled keyframe settles the one the
stream owed. -/
def pollPicture (cfg : Config) (id : UInt32) (stream : WindowStream) :
    Act W E I (Option (Picture × WindowStream)) := do
  match ← poll stream.handle with
  | none => pure none
  | some encoded => do
      let stream := { stream with needsKeyframe := stream.needsKeyframe && !encoded.keyframe }
      putStream id stream
      let encodedUs ← elapsedUs cfg
      pure (some
        ({ codec := Codec.h264
           flags := if encoded.keyframe then FrameFlag.keyframe else 0
           width := encoded.width
           height := encoded.height
           data := encoded.data
           encodedUs }, stream))

/-- The captured pixels themselves; every such frame is a keyframe. -/
def rawPicture (frame : SourceFrame) (capturedUs : UInt64) : Picture :=
  { codec := Codec.rawBgra
    flags := FrameFlag.keyframe
    width := frame.width
    height := frame.height
    data := frame.data
    encodedUs := capturedUs }

/-- The picture to send for a captured frame, if there is one this tick: the
next access unit of a working encoder, or else the captured pixels. -/
def encodeFrame (cfg : Config) (id : UInt32) (stream : WindowStream) (frame : SourceFrame)
    (capturedUs : UInt64) : Act W E I (Option (Picture × WindowStream)) := do
  let s ← get
  if cfg.codec = Codec.h264 ∧ FrameEncoder.failed s.encoder stream.handle = false then
    pollPicture cfg id stream
  else if frame.data.isEmpty then
    pure none
  else
    pure (some (rawPicture frame capturedUs, stream))

/-- Number a picture and put it on the slot that was reserved for it. -/
def sendFrame (id : UInt32) (stream : WindowStream) (picture : Picture)
    (capturedUs : UInt64) : Act W E I Unit :=
  match stream.budget.onCaptured with
  | none => throw (.fault .frameIdOverflow)
  | some (frameId, budget) => do
      putStream id { stream with budget }
      let msg := Message.frameData
        { windowId := id
          frameId
          codec := picture.codec
          flags := picture.flags
          width := picture.width
          height := picture.height
          capturedUs
          encodedUs := picture.encodedUs
          data := picture.data }
      match msg.encodeBody with
      | .error e => throw (.fault (.invalidData e))
      | .ok body =>
          permitSend { msgType := MsgType.frameData, channel := stream.videoChannel, body }

/-- Capture a frame of a window and send what comes of it.  A budget without
headroom changes nothing here: the frame is captured all the same, and
`onCaptured` forgets the oldest one in flight. -/
def captureWindow (cfg : Config) (id : UInt32) (stream : WindowStream) : Act W E I Unit := do
  let s ← get
  match ← nextFrame stream.handle (captureIntent cfg s.encoder stream) with
  | none => pure ()
  | some frame => do
      let capturedUs ← elapsedUs cfg
      submitFrame cfg stream frame
      match ← encodeFrame cfg id stream frame capturedUs with
      | none => pure ()
      | some (picture, stream) => sendFrame id stream picture capturedUs

/-- One window's share of the tick.  Without a free slot nothing is captured. -/
def pumpWindow (cfg : Config) (id : UInt32) : Act W E I Unit := do
  let s ← get
  match s.streams.lookup id with
  | none => pure ()
  | some stream =>
      if stream.showState = WindowShow.minimized then pure ()
      else do
        let slot ← reserveFrameSlot cfg
        if slot then captureWindow cfg id stream else pure ()

/-- Capture and send one frame per window, in the order of ids. -/
def pumpFrames (cfg : Config) : Act W E I Unit := do
  let s ← get
  (s.streams.keys.insertionSort (· ≤ ·)).forM (pumpWindow cfg)

/-! ## The loop -/

/-- What the `select!` of the driver loop may wake up with. -/
inductive Event where
  /-- The reader task handed over a message. -/
  | incoming (msg : Message)
  /-- The reader task stopped: the peer is gone. -/
  | readerStopped
  /-- The writer task ended, with an error or without. -/
  | writerStopped (failed : Bool)
  /-- The capture tick. -/
  | tick
  deriving DecidableEq, Repr

/-- Hand input to the sink. -/
def inject (f : I → I) : Act W E I Unit :=
  modify fun s => { s with sink := f s.sink }

/-- Act on a message from the client. -/
def onMessage (cfg : Config) : Message → Act W E I Unit
  | .frameAck ack => do
      let s ← get
      match s.streams.lookup ack.windowId with
      | none => pure ()
      | some stream =>
          putStream ack.windowId { stream with budget := stream.budget.onAck ack.frameId }
  | .close _ => throw .finished
  | .ping p => do
      let agentUs ← elapsedUs cfg
      send cfg (.pong { seq := p.seq, sentUs := p.sentUs, agentUs }) Channel.control
  | .pointerEvent p => do
      let s ← get
      match s.streams.lookup p.windowId with
      | none => pure ()
      | some stream =>
          inject fun sink =>
            InputSink.pointerEvent sink stream.handle p.x p.y p.buttons p.wheelX p.wheelY
  | .keyEvent k =>
      let extended := k.flags &&& KeyFlag.extended != 0
      inject fun sink => InputSink.keyEvent sink k.scancode extended k.isPressed
  | .textInput t =>
      if cfg.textInputEnabled then inject fun sink => InputSink.textInput sink t.text
      else pure ()
  | .modifierSync m => inject fun sink => InputSink.modifierSync sink m.modifiers m.locks
  | .windowControl w =>
      if cfg.windowControlEnabled then do
        let s ← get
        match s.streams.lookup w.windowId with
        | none => pure ()
        | some stream =>
            inject fun sink =>
              InputSink.windowControl sink stream.handle w.action w.x w.y w.width w.height
      else pure ()
  | _ => pure ()

/-- One capture tick. -/
def tick (cfg : Config) : Act W E I Unit := do
  syncWindows cfg
  pumpFrames cfg

/-- One turn of the driver loop. -/
def step (cfg : Config) : Event → Act W E I Unit
  | .incoming msg => onMessage cfg msg
  | .readerStopped => throw .finished
  | .writerStopped failed => throw (if failed then .fault .brokenPipe else .finished)
  | .tick => tick cfg

/-- The driver loop over the events it wakes up with, until it stops. -/
def drive (cfg : Config) (events : List Event) : Act W E I Unit := events.forM (step cfg)

/-- What a session leaves behind after some events: its state between two turns
of the loop, or where it stopped. -/
def sessionAfter (cfg : Config) (source : W) (encoder : E) (sink : I)
    (events : List Event) : Session W E I :=
  match (drive cfg events).run (Session.start source encoder sink) with
  | .ok _ s => s
  | .error _ s => s

/-- Whether the session is still running after some events. -/
def Running (cfg : Config) (source : W) (encoder : E) (sink : I) (events : List Event)
    (s : Session W E I) : Prop :=
  (drive cfg events).run (Session.start source encoder sink) = .ok ⟨⟩ s

end Driver

end Oxrdp
