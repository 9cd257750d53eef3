import Oxrdp.Client.Decode
import Oxrdp.Client.Geometry
import Oxrdp.Client.Monitor

/-!
# The session loop of the windowed client

`run_session_loop` of `main.rs`, with everything it talks to: the decode workers behind
`DecodePipeline`, the event loop of the display with its backend, and the channels between
them.  The session task reads the wire and acknowledges frames; a worker hands its pictures
straight to the display, and the display tells the session task what it presented.

A `LoopStep` is one turn of a `select!` arm, one step of a worker, or one command that the
display takes, so that a list of them is an interleaving.  What the clocks, the network, the
decoders and the presenter answer is part of the step.  `received` and `sent` are the frames
read off the wire and the messages written to it, and `discarded` the frames that the backend
took without presenting them.
-/

namespace Oxrdp

/-! ## The display -/

/-- Display-ready snapshot of one remote window. -/
structure WindowSpec where
  windowId : UInt32
  appId : String
  title : String
  x : Int32
  y : Int32
  width : UInt16
  height : UInt16
  ownerId : UInt32
  minimized : Bool
  maximized : Bool
  resizable : Bool
  hasFrame : Bool
  topmost : Bool
  icon : Option WindowIcon
  deriving DecidableEq, Repr

/-- Session thread to display thread command. -/
inductive DisplayCommand where
  | createWindow (spec : WindowSpec)
  | destroyWindow (id : UInt32)
  | moveWindow (spec : WindowSpec)
  | retitleWindow (spec : WindowSpec)
  | changeState (spec : WindowSpec)
  | changeIcon (spec : WindowSpec)
  | restack (stack : List UInt32)
  | frame (m : FrameData)
  | cursorShape (m : CursorShape)
  | cursorPosition (id : UInt32) (x y : Int32)
  | cursorVisibility (visible : Bool)
  | agentError (code : UInt16) (message : String)
  | shutdown
  deriving DecidableEq, Repr

/-- Display thread to session thread event. -/
inductive DisplayEvent where
  | pointer (id : UInt32) (x y : Int32) (buttons : UInt8) (wheelX wheelY : Int16)
  | key (scancode : UInt16) (pressed extended : Bool)
  | text (text : String)
  | modifiers (modifiers : UInt16) (locks : UInt8)
  | focused (id : UInt32) (focused : Bool)
  | closeRequested (id : UInt32)
  | resizeRequested (id : UInt32) (width height : UInt16)
  | moveRequested (id : UInt32) (x y : Int32)
  | minimized (id : UInt32) (minimized : Bool)
  | presented (id : UInt32) (frameId decodedUs presentedUs : UInt64)
  | backendError (message : String)
  deriving DecidableEq, Repr

/-- Timing returned by a presenter. -/
structure PresentTimes where
  decodedUs : UInt64
  presentedUs : UInt64
  deriving DecidableEq, Repr

/-- Error returned by a presenter. -/
inductive PresentError where
  | unknownWindow (id : UInt32)
  | unsupportedCodec (codec : UInt8)
  | droppedFrame (id : UInt32) (expected actual : Nat)
  | platform (message : String)
  deriving DecidableEq, Repr

def PresentError.text : PresentError → String
  | .unknownWindow id => "unknown display window " ++ toString id
  | .unsupportedCodec codec => "unsupported frame codec " ++ toString codec
  | .droppedFrame id expected actual =>
      "dropped malformed frame for window " ++ toString id ++ ": expected " ++
        toString expected ++ " bytes, got " ++ toString actual
  | .platform message => message

/-- What the window system and the presenter answer to a command. -/
structure DisplayAnswers where
  /-- Why a native window could not be created, or its surface not be resized. -/
  fails : Option String
  present : Except PresentError PresentTimes

/-- The native windows. -/
structure Backend where
  windows : Table UInt32 WindowSpec
  discarded : List FrameData

namespace Backend

/-- Present a frame.  One for a window that is not there is ignored, and one that the
presenter rejects as malformed is only logged. -/
def frame (b : Backend) (a : DisplayAnswers) (m : FrameData) : List DisplayEvent × Backend :=
  match b.windows.lookup m.windowId, a.present with
  | some _, .ok times =>
      ([.presented m.windowId m.frameId times.decodedUs times.presentedUs], b)
  | some _, .error (.droppedFrame ..) => ([], { b with discarded := b.discarded ++ [m] })
  | some _, .error e =>
      ([.backendError e.text], { b with discarded := b.discarded ++ [m] })
  | none, _ => ([], { b with discarded := b.discarded ++ [m] })

/-- Apply one display command: the events it gives rise to. -/
def apply (b : Backend) (a : DisplayAnswers) : DisplayCommand → List DisplayEvent × Backend
  | .createWindow spec =>
      match b.windows.lookup spec.windowId, a.fails with
      | some _, _ => ([], b)
      | none, some message => ([.backendError message], b)
      | none, none => ([], { b with windows := b.windows.insert spec.windowId spec })
  | .destroyWindow id => ([], { b with windows := b.windows.erase id })
  | .moveWindow spec =>
      match b.windows.lookup spec.windowId, a.fails with
      | some _, some message => ([.backendError message], b)
      | _, _ => ([], b)
  | .frame m => b.frame a m
  | .agentError code message =>
      ([.backendError ("agent error " ++ toString code ++ ": " ++ message)], b)
  | _ => ([], b)

end Backend

/-! ## The session task -/

def windowSpec (w : RemoteWindow) : WindowSpec :=
  { windowId := w.windowId
    appId := w.appId
    title := w.title
    x := w.x
    y := w.y
    width := w.width
    height := w.height
    ownerId := w.ownerId
    minimized := w.minimized
    maximized := w.maximized
    resizable := w.resizable
    hasFrame := w.hasFrame
    topmost := w.topmost
    icon := w.icon }

/-- What the display is told of a change; frames do not take this path. -/
def displayCommandForChange (model : WindowModel) : ModelChange → Option DisplayCommand
  | .created id => (model.windows.lookup id).map fun w => .createWindow (windowSpec w)
  | .destroyed id => some (.destroyWindow id)
  | .moved id => (model.windows.lookup id).map fun w => .moveWindow (windowSpec w)
  | .retitled id => (model.windows.lookup id).map fun w => .retitleWindow (windowSpec w)
  | .stateChanged id => (model.windows.lookup id).map fun w => .changeState (windowSpec w)
  | .iconChanged id => (model.windows.lookup id).map fun w => .changeIcon (windowSpec w)
  | .restacked => some (.restack model.stack)
  | .frame _ => none
  | .cursorShape shape => some (.cursorShape shape)
  | .cursorMoved id x y => some (.cursorPosition id x y)
  | .cursorVisibility visible => some (.cursorVisibility visible)
  | .agentError code message => some (.agentError code message)
  | .closed => some .shutdown

/-- How the loop returned. -/
inductive LoopExit where
  | finished
  | failed
  deriving DecidableEq, Repr

/-- What the clocks, the network and the platform answer to the session task. -/
structure Readings where
  /-- `Instant::now`, in nanoseconds. -/
  now : Nat
  /-- The clock of the session. -/
  nowUs : UInt64
  /-- The agent's clock minus this one, as far as it is known. -/
  offsetUs : Option Int64
  /-- Does a write to the wire succeed? -/
  sends : Bool
  /-- Does a new thread start? -/
  starts : Bool

/-- The session task with its workers, the display, and the channels between them. -/
structure ClientLoop (D : Type) where
  model : WindowModel
  geometry : GeometrySync
  decodeTimes : DecodeTimes
  latency : LatencyMonitor
  decoders : DecodePipeline D
  /-- A frame a worker had no room for, and since when. -/
  stalled : Option (Backpressure × UInt64)
  /-- How many of the reports have been received. -/
  reportsTaken : Nat
  displayEvents : List DisplayEvent
  commands : List DisplayCommand
  backend : Backend
  received : List FrameData
  sent : List Message
  exit : Option LoopExit

namespace ClientLoop

variable {X D : Type}

/-- The loop before its first turn. -/
def start (measuring : Bool) : ClientLoop D :=
  { model := .new
    geometry := .new
    decodeTimes := .new
    latency := .withRecording measuring
    decoders := .new
    stalled := none
    reportsTaken := 0
    displayEvents := []
    commands := []
    backend := { windows := ∅, discarded := [] }
    received := []
    sent := []
    exit := none }

/-- Return from the loop: the senders to the workers and the receiver of their reports go. -/
def stop (s : ClientLoop D) (e : LoopExit) : ClientLoop D :=
  { s with
    exit := some e
    stalled := none
    decoders :=
      { s.decoders with
        lanes := fun v => { s.decoders.lanes v with sender := none }
        held := []
        reportsOpen := false } }

/-- Hand a command to the display, while it is there. -/
def command (s : ClientLoop D) (c : DisplayCommand) : ClientLoop D :=
  if s.decoders.sinkOpen then { s with commands := s.commands ++ [c] } else s

/-- `commands.send` with its return: the loop ends when the display is gone. -/
def commandOrStop (s : ClientLoop D) (c : DisplayCommand) : ClientLoop D :=
  if s.decoders.sinkOpen then s.command c else s.stop .finished

/-- Write a message; an error ends the loop. -/
def send (s : ClientLoop D) (r : Readings) (m : Message) : ClientLoop D :=
  if r.sends then { s with sent := s.sent ++ [m] } else (s.command .shutdown).stop .failed

def sendFrameAck (s : ClientLoop D) (features : UInt64) (r : Readings) (ack : FrameAck) :
    ClientLoop D :=
  if features &&& Feature.frameAck != 0 then s.send r (.frameAck ack) else s

def sendWindowControl (s : ClientLoop D) (r : Readings) (id : UInt32) (action : UInt8)
    (x y : Int32) (width height : UInt16) : ClientLoop D :=
  s.send r (.windowControl { windowId := id, action, x, y, width, height })

/-- `handle_display_event`. -/
def handleDisplayEvent (s : ClientLoop D) (features : UInt64) (r : Readings) :
    DisplayEvent → ClientLoop D
  | .pointer id x y buttons wheelX wheelY =>
      s.send r (.pointerEvent
        { windowId := id, x, y, buttons, wheelX, wheelY, timestamp := r.nowUs })
  | .key scancode pressed extended =>
      let flags := (if pressed then KeyFlag.pressed else 0) |||
        (if extended then KeyFlag.extended else 0)
      s.send r (.keyEvent { scancode, flags, timestamp := r.nowUs })
  | .text text =>
      if features &&& Feature.textInput != 0 then s.send r (.textInput { text }) else s
  | .modifiers modifiers locks => s.send r (.modifierSync { modifiers, locks })
  | .focused id focused =>
      if focused && features &&& Feature.windowControl != 0 then
        s.sendWindowControl r id WindowAction.activate 0 0 0 0
      else
        s
  | .closeRequested id =>
      if features &&& Feature.windowControl != 0 then
        s.sendWindowControl r id WindowAction.close 0 0 0 0
      else
        s
  | .resizeRequested id width height =>
      if features &&& Feature.windowControl != 0 then
        let (size, geometry) := s.geometry.resized r.now s.model id width height
        let s := { s with geometry }
        match size with
        | some (width, height) => s.sendWindowControl r id WindowAction.resize 0 0 width height
        | none => s
      else
        s
  | .moveRequested id x y =>
      if features &&& Feature.windowControl != 0 then
        let (position, geometry) := s.geometry.moved r.now id x y
        let s := { s with geometry }
        match position with
        | some (x, y) => s.sendWindowControl r id WindowAction.move x y 0 0
        | none => s
      else
        s
  | .minimized id minimized =>
      if features &&& Feature.windowControl != 0 then
        let action := if minimized then WindowAction.minimize else WindowAction.restore
        s.sendWindowControl r id action 0 0 0 0
      else
        s
  | .presented id frameId decodedUs presentedUs =>
      let latency :=
        match r.offsetUs with
        | some offset => (s.latency.onPresented id frameId presentedUs offset).2
        | none => s.latency
      -- the worker's instant, and the presenter's only if there is no report
      let (decodedUs, decodeTimes) := s.decodeTimes.take id frameId decodedUs
      { s with latency, decodeTimes }.sendFrameAck features r
        { windowId := id, frameId, decodedUs, presentedUs }
  | .backendError _ => s

/-- What a change to the windows does to the tables of the session task. -/
def noteChange (s : ClientLoop D) (r : Readings) : ModelChange → ClientLoop D
  | .created id =>
      match s.model.windows.lookup id with
      | some w => { s with geometry := s.geometry.created r.now id w.x w.y }
      | none => s
  | .moved id =>
      match s.model.windows.lookup id with
      | some w => { s with geometry := s.geometry.guestMoved r.now id w.x w.y }
      | none => s
  | .destroyed id =>
      { s with
        decoders := s.decoders.forget id
        geometry := s.geometry.forget id
        latency := s.latency.forget id
        decodeTimes := s.decodeTimes.forget id }
  | _ => s

/-- Give a frame to its worker, and keep it if there is no room. -/
def submitFrame (s : ClientLoop D) (r : Readings) (frame : FrameData) : ClientLoop D :=
  let s :=
    { s with
      latency := s.latency.onArrival
        { windowId := frame.windowId
          frameId := frame.frameId
          capturedUs := frame.capturedUs
          encodedUs := frame.encodedUs
          arrivedUs := r.nowUs
          keyframe := frame.flags &&& FrameFlag.keyframe != 0
          bytes := frame.data.length } }
  match s.decoders.submit frame r.starts r.nowUs with
  | (.ok (), decoders) => { s with decoders }
  | (.error held, decoders) =>
      { s with
        decoders := { decoders with held := decoders.held ++ [held] }
        stalled := some (held, r.nowUs) }

/-- Carry out the changes that an event made to the model. -/
def applyChanges (s : ClientLoop D) (r : Readings) : List ModelChange → ClientLoop D
  | [] => s
  | change :: rest =>
      let s := s.noteChange r change
      let s :=
        match change with
        | .frame frame => s.submitFrame r frame
        | _ =>
            match displayCommandForChange s.model change with
            | some c => s.commandOrStop c
            | none => s
      if s.exit.isSome then s else s.applyChanges r rest

/-- An event of the session. -/
def onEvent (s : ClientLoop D) (r : Readings) (e : ClientEvent) : ClientLoop D :=
  let (changes, model) := s.model.apply e
  let s := { s with model }.applyChanges r changes
  match e with
  | .closed _ => if s.exit.isSome then s else s.stop .finished
  | _ => s

/-- A message of the agent: `next_event` answers pings itself and takes pongs. -/
def onMessage (s : ClientLoop D) (r : Readings) (m : Message) : ClientLoop D :=
  let s :=
    match m with
    | .frameData frame => { s with received := s.received ++ [frame] }
    | _ => s
  match m with
  | .ping p => s.send r (.pong { seq := p.seq, sentUs := p.sentUs, agentUs := 0 })
  | _ =>
      match clientEvent m with
      | some e => s.onEvent r e
      | none => s

/-- A worker has room for the frame that is held back, or is gone. -/
def onRoom (s : ClientLoop D) (r : Readings) : ClientLoop D :=
  match s.stalled with
  | none => s
  | some (held, since) =>
      match (s.decoders.lanes held.frame.windowId).trySend held.queue held.frame with
      | .error .full => s
      | sent =>
          let s :=
            { s with
              stalled := none
              latency := s.latency.onReadStall (r.nowUs.saturatingSub since)
              decoders := { s.decoders with held := s.decoders.held.erase held } }
          match sent with
          | .ok lane => { s with decoders := s.decoders.setLane held.frame.windowId lane }
          | .error _ => s

/-- A report of a worker. -/
def onReport (s : ClientLoop D) (features : UInt64) (r : Readings) : ClientLoop D :=
  match s.decoders.reports[s.reportsTaken]? with
  | none => s
  | some report =>
      let s := { s with reportsTaken := s.reportsTaken + 1 }
      match report with
      | .decoded id frameId decodedUs =>
          { s with
            latency := s.latency.onDecoded id frameId decodedUs
            decodeTimes := s.decodeTimes.record id frameId decodedUs }
      | .dropped id frameId finishedUs =>
          { s with latency := s.latency.onDropped id frameId }.sendFrameAck features r
            { windowId := id, frameId, decodedUs := finishedUs, presentedUs := finishedUs }

/-- An event of the display; without one, the loop ends when the display is gone. -/
def onDisplayEvent (s : ClientLoop D) (features : UInt64) (r : Readings) : ClientLoop D :=
  match s.displayEvents with
  | e :: rest => { s with displayEvents := rest }.handleDisplayEvent features r e
  | [] => if s.decoders.sinkOpen then s else s.stop .finished

/-- One step of a worker; what it delivers goes to the display. -/
def onWork [FrameDecoder X D] (factory : DecoderFactory X D) (s : ClientLoop D)
    (windowId : UInt32) (n : Nat) (x : X) (nowUs : UInt64) : ClientLoop D :=
  let decoders := s.decoders.work factory windowId n x nowUs
  let pictures := decoders.delivered.drop s.decoders.delivered.length
  { s with
    decoders
    commands := s.commands ++ pictures.map fun p => .frame p.2 }

/-- The event loop of the display takes a command. -/
def onDisplay (s : ClientLoop D) (a : DisplayAnswers) : ClientLoop D :=
  if s.decoders.sinkOpen then
    match s.commands with
    | [] => s
    | .shutdown :: rest =>
        { s with commands := rest, decoders := { s.decoders with sinkOpen := false } }
    | c :: rest =>
        let (events, backend) := s.backend.apply a c
        { s with commands := rest, displayEvents := s.displayEvents ++ events, backend }
  else
    s

end ClientLoop

/-- A turn of the session task, a step of a worker, or a step of the display. -/
inductive LoopStep (X : Type) where
  /-- `next_event` reads a message. -/
  | message (m : Message) (r : Readings)
  /-- `next_event` finds the end of the stream, or fails. -/
  | streamEnds (e : LoopExit)
  /-- `wait_for_decode_room`. -/
  | room (r : Readings)
  /-- `dropped_rx.recv`. -/
  | report (r : Readings)
  | ping (p : Ping) (r : Readings)
  /-- `display_events.recv`. -/
  | displayEvent (r : Readings)
  | work (windowId : UInt32) (n : Nat) (x : X) (nowUs : UInt64)
  /-- The display takes a command. -/
  | display (a : DisplayAnswers)
  /-- The window system reports something that is not a presented frame. -/
  | native (e : DisplayEvent) (h : ∀ id frameId decodedUs presentedUs,
      e ≠ .presented id frameId decodedUs presentedUs)
  /-- The event loop of the display ends. -/
  | displayExits

namespace ClientLoop

variable {X D : Type} [FrameDecoder X D]

/-- One step.  The session task reads the wire only while it holds no frame back, and does
nothing once it has returned. -/
def step (factory : DecoderFactory X D) (features : UInt64) (s : ClientLoop D) :
    LoopStep X → ClientLoop D
  | .message m r => if s.exit.isSome || s.stalled.isSome then s else s.onMessage r m
  | .streamEnds e =>
      if s.exit.isSome || s.stalled.isSome then s else (s.command .shutdown).stop e
  | .room r => if s.exit.isSome then s else s.onRoom r
  | .report r => if s.exit.isSome then s else s.onReport features r
  | .ping p r => if s.exit.isSome then s else s.send r (.ping p)
  | .displayEvent r => if s.exit.isSome then s else s.onDisplayEvent features r
  | .work windowId n x nowUs => s.onWork factory windowId n x nowUs
  | .display a => s.onDisplay a
  | .native e _ =>
      if s.decoders.sinkOpen then { s with displayEvents := s.displayEvents ++ [e] } else s
  | .displayExits => { s with decoders := { s.decoders with sinkOpen := false } }

/-- The loop after some steps. -/
def run (factory : DecoderFactory X D) (features : UInt64) (measuring : Bool)
    (steps : List (LoopStep X)) : ClientLoop D :=
  steps.foldl (step factory features) (start measuring)

/-- The last step of a run comes after the others. -/
theorem run_snoc (factory : DecoderFactory X D) (features : UInt64) (measuring : Bool)
    (steps : List (LoopStep X)) (a : LoopStep X) :
    run factory features measuring (steps ++ [a]) =
      (run factory features measuring steps).step factory features a := by
  rw [run, List.foldl_append]
  rfl

end ClientLoop

/-! ## What the display events come to -/

/-- The frame that a message acknowledges, by its window and its number. -/
def Message.acks : Message → Option (UInt32 × UInt64)
  | .frameAck ack => some (ack.windowId, ack.frameId)
  | _ => none

/-- The frame that an event says was presented. -/
def DisplayEvent.presents : DisplayEvent → Option (UInt32 × UInt64)
  | .presented id frameId _ _ => some (id, frameId)
  | _ => none

namespace ClientLoop

variable {D : Type} {s s' s'' : ClientLoop D}

/-- Only the tables of the session task changed, and the monitor tracks the same windows. -/
structure Notes (s s' : ClientLoop D) : Prop where
  same : s' = { s with
    geometry := s'.geometry, latency := s'.latency, decodeTimes := s'.decodeTimes }
  tracks : ∀ v, s'.latency.Tracks v ↔ s.latency.Tracks v

/-- Doing nothing notes nothing. -/
theorem Notes.refl (s : ClientLoop D) : Notes s s := ⟨rfl, fun _ => .rfl⟩

/-- The loop may note a geometry that it has sent. -/
theorem notes_geometry (s : ClientLoop D) (geometry : GeometrySync) :
    Notes s { s with geometry } :=
  ⟨rfl, fun _ => .rfl⟩

/-- How an event of the display is handled: notes are taken, and then at most one message is
written, which acknowledges a frame exactly if the event says it was presented. -/
def Handles (s : ClientLoop D) (features : UInt64) (r : Readings)
    (key : Option (UInt32 × UInt64)) (s' : ClientLoop D) : Prop :=
  ∃ s₁, Notes s s₁ ∧
    (s' = s₁ ∧ (features &&& Feature.frameAck ≠ 0 → key = none) ∨
      ∃ m, s' = s₁.send r m ∧ m.acks = key)

variable {features : UInt64} {r : Readings} {key : Option (UInt32 × UInt64)}

/-- An event that is only noted acknowledges nothing. -/
theorem Notes.silent (h : Notes s s') : Handles s features r none s' :=
  ⟨s', h, .inl ⟨rfl, fun _ => rfl⟩⟩

/-- A message that is sent acknowledges what it says. -/
theorem Notes.sends (h : Notes s s') {m : Message} (hm : m.acks = key) :
    Handles s features r key (s'.send r m) :=
  ⟨s', h, .inr ⟨m, rfl, hm⟩⟩

/-- A frame acknowledgement acknowledges its own frame. -/
theorem Notes.sendFrameAck (h : Notes s s') (ack : FrameAck) :
    Handles s features r (some (ack.windowId, ack.frameId)) (s'.sendFrameAck features r ack) := by
  unfold ClientLoop.sendFrameAck
  split
  · exact h.sends rfl
  next hoff => exact ⟨s', h, .inl ⟨rfl, fun hon => absurd (bne_iff_ne.mpr hon) hoff⟩⟩

/-- A display event acknowledges the frame that it presents, and no other. -/
theorem handleDisplayEvent_handles (s : ClientLoop D) (features : UInt64) (r : Readings)
    (e : DisplayEvent) : Handles s features r e.presents (s.handleDisplayEvent features r e) := by
  have hrefl := Notes.refl s
  cases e with
  | pointer => exact hrefl.sends rfl
  | key => exact hrefl.sends rfl
  | modifiers => exact hrefl.sends rfl
  | backendError => exact hrefl.silent
  | text =>
      dsimp only [handleDisplayEvent]
      split
      · exact hrefl.sends rfl
      · exact hrefl.silent
  | focused =>
      dsimp only [handleDisplayEvent]
      split
      · exact hrefl.sends rfl
      · exact hrefl.silent
  | closeRequested =>
      dsimp only [handleDisplayEvent]
      split
      · exact hrefl.sends rfl
      · exact hrefl.silent
  | minimized =>
      dsimp only [handleDisplayEvent]
      split
      · exact hrefl.sends rfl
      · exact hrefl.silent
  | resizeRequested =>
      dsimp only [handleDisplayEvent]
      split
      · split
        next => exact (notes_geometry s _).sends rfl
        next => exact (notes_geometry s _).silent
      · exact hrefl.silent
  | moveRequested =>
      dsimp only [handleDisplayEvent]
      split
      · split
        next => exact (notes_geometry s _).sends rfl
        next => exact (notes_geometry s _).silent
      · exact hrefl.silent
  | presented id frameId decodedUs presentedUs =>
      dsimp only [handleDisplayEvent]
      apply Notes.sendFrameAck
      refine ⟨rfl, fun v => ?_⟩
      cases hoffset : r.offsetUs with
      | none => rfl
      | some offset => simp

/-- What notes and commands respect is respected by all changes that show no frame. -/
theorem applyChanges_respects {P : ClientLoop D → ClientLoop D → Prop} {r : Readings}
    (hrefl : ∀ s, P s s) (htrans : ∀ s s' s'', P s s' → P s' s'' → P s s'')
    (hnote : ∀ s change, P s (s.noteChange r change))
    (hcommand : ∀ s change c, displayCommandForChange s.model change = some c →
      P s (s.commandOrStop c))
    (changes : List ModelChange) (hno : ∀ f, .frame f ∉ changes) (s : ClientLoop D) :
    P s (s.applyChanges r changes) := by
  induction changes generalizing s with
  | nil => exact hrefl s
  | cons change rest ih =>
      have hrest := ih fun f h => hno f (List.mem_cons_of_mem _ h)
      have hdone : ∀ s : ClientLoop D,
          P s (if s.exit.isSome then s else s.applyChanges r rest) := by
        intro s
        split
        · exact hrefl s
        · exact hrest s
      have hcarried : ∀ s : ClientLoop D,
          P s (match displayCommandForChange s.model change with
            | some c => s.commandOrStop c
            | none => s) := by
        intro s
        split
        next c hc => exact hcommand s change c hc
        next => exact hrefl s
      apply htrans _ _ _ (hnote s change)
      cases change with
      | frame f => exact absurd List.mem_cons_self (hno f)
      | _ => exact htrans _ _ _ (hcarried _) (hdone _)

/-- The loop with the changes that an event makes to its windows. -/
def changed (s : ClientLoop D) (r : Readings) (e : ClientEvent) : ClientLoop D :=
  { s with model := (s.model.apply e).2 }.applyChanges r (s.model.apply e).1

/-- After its changes, an event may end the loop. -/
theorem onEvent_eq (s : ClientLoop D) (r : Readings) (e : ClientEvent) :
    s.onEvent r e = s.changed r e ∨ s.onEvent r e = (s.changed r e).stop .finished := by
  cases e with
  | closed m =>
      change (if _ then _ else _) = _ ∨ (if _ then _ else _) = _
      split
      · exact .inl rfl
      · exact .inr rfl
  | _ => exact .inl rfl

/-- A frame of the model is submitted to the pipeline. -/
theorem onEvent_frame (s : ClientLoop D) (r : Readings) (f : FrameData) :
    s.onEvent r (.frame f) = s.submitFrame r f := by
  change s.applyChanges r [.frame f] = _
  unfold applyChanges
  exact ite_self _

/-- What becomes of a message: a frame goes to its worker, a ping is answered, and the other
messages are events or nothing. -/
inductive Received (s : ClientLoop D) (r : Readings) : Message → ClientLoop D → Prop where
  | frame (f : FrameData) :
      Received s r (.frameData f) ({ s with received := s.received ++ [f] }.submitFrame r f)
  | ping (p : Ping) :
      Received s r (.ping p) (s.send r (.pong { seq := p.seq, sentUs := p.sentUs, agentUs := 0 }))
  | event (m : Message) (e : ClientEvent) (he : ∀ f, e ≠ .frame f) (hm : ∀ f, m ≠ .frameData f) :
      Received s r m (s.onEvent r e)
  | ignored (m : Message) (hm : ∀ f, m ≠ .frameData f) : Received s r m s

/-- `on_message` is one of the receptions. -/
theorem onMessage_received (s : ClientLoop D) (r : Readings) (m : Message) :
    Received s r m (s.onMessage r m) := by
  cases m with
  | frameData f =>
      change Received s r _ (onEvent _ r (.frame f))
      rw [onEvent_frame]
      exact .frame f
  | ping p => exact .ping p
  | windowOpened m => exact .event _ (.windowOpened m) nofun nofun
  | windowGeometry m => exact .event _ (.windowGeometry m) nofun nofun
  | windowTitle m => exact .event _ (.windowTitle m) nofun nofun
  | windowState m => exact .event _ (.windowState m) nofun nofun
  | windowZOrder m => exact .event _ (.windowZOrder m) nofun nofun
  | windowIcon m => exact .event _ (.windowIcon m) nofun nofun
  | windowClosed m => exact .event _ (.windowClosed m) nofun nofun
  | cursorShape m => exact .event _ (.cursorShape m) nofun nofun
  | cursorPosition m => exact .event _ (.cursorPosition m) nofun nofun
  | cursorVisibility m => exact .event _ (.cursorVisibility m) nofun nofun
  | error m => exact .event _ (.error m) nofun nofun
  | close m => exact .event _ (.closed m) nofun nofun
  | _ => exact .ignored _ nofun

end ClientLoop

end Oxrdp
