import Oxrdp.Agent.Runs

/-!
# A platform that is watched

What the driver asks of its platform is a property of its runs like any other.  To speak of
it, each part of the platform is wrapped: a `Logged` part does what the part inside does and
writes down the call and its result.  The driver cannot tell the difference: a run over a
watched platform is the run over the platform itself, with the journals left out
(`watchedAfter_unwatched`).
-/

namespace Oxrdp

open Effect

/-- A part of the platform and the calls made of it so far. -/
structure Logged (C P : Type) where
  inner : P
  calls : List C

namespace Logged

variable {C P : Type}

/-- A part that has not been called yet. -/
def fresh (inner : P) : Logged C P := { inner, calls := [] }

/-- Note a call, and the part as the call left it. -/
def note (p : Logged C P) (inner : P) (call : C) : Logged C P :=
  { inner, calls := p.calls ++ [call] }

end Logged

/-- A call to the window source, with what came back. -/
inductive SourceCall where
  | liveWindows (live : List SourceWindow)
  | nextFrame (handle : Handle) (intent : CaptureIntent) (frame : Option SourceFrame)
  deriving DecidableEq, Repr

/-- A call to the encoder, with what came back. -/
inductive EncoderCall where
  | submit (handle : Handle) (frame : SourceFrame) (forceKeyframe : Bool)
  | poll (handle : Handle) (encoded : Option EncodedFrame)
  | forget (handle : Handle)
  deriving DecidableEq, Repr

/-- A call to the input sink. -/
inductive SinkCall where
  | pointerEvent (handle : Handle) (x y : Int32) (buttons : UInt8) (wheelX wheelY : Int16)
  | keyEvent (scancode : UInt16) (extended pressed : Bool)
  | textInput (text : String)
  | modifierSync (modifiers : UInt16) (locks : UInt8)
  | windowControl (handle : Handle) (action : UInt8) (x y : Int32) (width height : UInt16)
  deriving DecidableEq, Repr

instance {W : Type} [WindowSource W] : WindowSource (Logged SourceCall W) where
  liveWindows p :=
    let (live, inner) := WindowSource.liveWindows p.inner
    (live, p.note inner (.liveWindows live))
  nextFrame p handle intent :=
    let (frame, inner) := WindowSource.nextFrame p.inner handle intent
    (frame, p.note inner (.nextFrame handle intent frame))

instance {E : Type} [FrameEncoder E] : FrameEncoder (Logged EncoderCall E) where
  submit p handle frame force :=
    p.note (FrameEncoder.submit p.inner handle frame force) (.submit handle frame force)
  poll p handle :=
    let (encoded, inner) := FrameEncoder.poll p.inner handle
    (encoded, p.note inner (.poll handle encoded))
  forget p handle := p.note (FrameEncoder.forget p.inner handle) (.forget handle)
  wantsCpuFrame p handle width height :=
    FrameEncoder.wantsCpuFrame p.inner handle width height
  failed p handle := FrameEncoder.failed p.inner handle

instance {I : Type} [InputSink I] : InputSink (Logged SinkCall I) where
  pointerEvent p handle x y buttons wheelX wheelY :=
    p.note (InputSink.pointerEvent p.inner handle x y buttons wheelX wheelY)
      (.pointerEvent handle x y buttons wheelX wheelY)
  keyEvent p scancode extended pressed :=
    p.note (InputSink.keyEvent p.inner scancode extended pressed)
      (.keyEvent scancode extended pressed)
  textInput p text := p.note (InputSink.textInput p.inner text) (.textInput text)
  modifierSync p modifiers locks :=
    p.note (InputSink.modifierSync p.inner modifiers locks) (.modifierSync modifiers locks)
  windowControl p handle action x y width height :=
    p.note (InputSink.windowControl p.inner handle action x y width height)
      (.windowControl handle action x y width height)

/-- A session over a watched platform. -/
abbrev Watched (W E I : Type) :=
  Session (Logged SourceCall W) (Logged EncoderCall E) (Logged SinkCall I)

variable {W E I : Type}

/-- The session with the journals left out. -/
def Session.unwatched (s : Watched W E I) : Session W E I :=
  { outbound := s.outbound
    source := s.source.inner
    encoder := s.encoder.inner
    sink := s.sink.inner
    registry := s.registry
    streams := s.streams
    looks := s.looks }

/-- A watched session just negotiated. -/
def Session.watched (source : W) (encoder : E) (sink : I) : Watched W E I :=
  .start (.fresh source) (.fresh encoder) (.fresh sink)

/-- What a watched session leaves behind after some events. -/
def watchedAfter [WindowSource W] [FrameEncoder E] [InputSink I] (cfg : Config) (source : W)
    (encoder : E) (sink : I) (events : List Event) : Watched W E I :=
  leftBy ((drive cfg events).run (Session.watched source encoder sink))

/-! ## The encoder's journal -/

section Calls

variable [FrameEncoder E] (e : Logged EncoderCall E)

/-- A poll is logged with what it returned. -/
theorem poll_calls (handle : Handle) :
    (FrameEncoder.poll e handle).2.calls =
      e.calls ++ [.poll handle (FrameEncoder.poll e handle).1] := rfl

/-- A captured frame is noted once, in a session that uses the encoder. -/
theorem submitted_calls (cfg : Config) (st : WindowStream) (frame : SourceFrame) :
    (submitted cfg st frame e).calls = e.calls ++
      if cfg.codec = Codec.h264 then [.submit st.handle frame st.needsKeyframe] else [] := by
  unfold submitted
  split
  · rfl
  · exact (List.append_nil _).symm

/-- A turn that goes through the encoder notes a submission and a poll. -/
theorem polled_calls {cfg : Config} {st : WindowStream} {frame : SourceFrame}
    (hcoding : Coding cfg st (submitted cfg st frame e)) :
    (FrameEncoder.poll (submitted cfg st frame e) st.handle).2.calls =
      e.calls ++ [.submit st.handle frame st.needsKeyframe,
        .poll st.handle (FrameEncoder.poll (submitted cfg st frame e) st.handle).1] := by
  rw [poll_calls, submitted_calls, if_pos hcoding.1, List.append_assoc]
  rfl

/-- The windows among `gone` that the encoder is told to forget. -/
def forgets (streams : UInt32 → Option WindowStream) (gone : List TrackedWindow) :
    List EncoderCall :=
  gone.filterMap fun t => (streams t.windowId).map fun st => .forget st.handle

/-- Forgetting windows is logged, window by window. -/
theorem forgetAll_calls (streams : UInt32 → Option WindowStream) (gone : List TrackedWindow) :
    (forgetAll streams e gone).calls = e.calls ++ forgets streams gone := by
  induction gone generalizing e with
  | nil => exact (List.append_nil _).symm
  | cons t rest ih =>
      have hrest := ih (forgetOne streams e t)
      change (forgetAll streams (forgetOne streams e t) rest).calls = _
      rw [hrest]
      unfold forgetOne forgets
      cases hst : streams t.windowId with
      | none => simp [hst]
      | some st =>
          have hone : (FrameEncoder.forget e st.handle).calls = e.calls ++ [.forget st.handle] := rfl
          simp [hst, hone]

end Calls

/-! ## Nothing changes under watch -/

section Unwatched

variable {cfg : Config}

/-- The driver does the same, watched or not. -/
def Alike {α : Type} (x : Act (Logged SourceCall W) (Logged EncoderCall E) (Logged SinkCall I) α)
    (y : Act W E I α) : Prop :=
  Follows Session.unwatched x y

/-- The writer does what it does whether the session is watched or not. -/
theorem writerRuns_alike : Alike (W := W) (E := E) (I := I) (writerRuns cfg) (writerRuns cfg) :=
  follows_modify fun _ => rfl

theorem elapsedUs_alike : Alike (W := W) (E := E) (I := I) (elapsedUs cfg) (elapsedUs cfg) :=
  follows_get fun s => (follows_set { s with looks := s.looks + 1 }).bind fun _ => follows_pure _

/-- Queueing does not look at the platform. -/
theorem queueRaw_alike (k : OutboundChunk) :
    Alike (W := W) (E := E) (I := I) (queueRaw cfg k) (queueRaw cfg k) := by
  refine writerRuns_alike.bind fun _ => follows_get fun s => ?_
  refine follows_ite (follows_throw _) (follows_ite (follows_throw _) ?_)
  exact follows_set { s with outbound := s.outbound.push k }

/-- Sending does not look at the platform. -/
theorem send_alike (msg : Message) (ch : UInt16) :
    Alike (W := W) (E := E) (I := I) (send cfg msg ch) (send cfg msg ch) := by
  unfold send
  cases msg.encodeBody with
  | error e => exact follows_throw _
  | ok body => exact queueRaw_alike _

/-- Reserving a slot does not look at the platform. -/
theorem reserveFrameSlot_alike :
    Alike (W := W) (E := E) (I := I) (reserveFrameSlot cfg) (reserveFrameSlot cfg) :=
  writerRuns_alike.bind fun _ => follows_get fun _ =>
    follows_ite (follows_throw _) (follows_pure _)

theorem putStream_alike (id : UInt32) (st : WindowStream) :
    Alike (W := W) (E := E) (I := I) (putStream id st) (putStream id st) :=
  follows_modify fun _ => rfl

/-- Tracking a handle does not look at the platform. -/
theorem track_alike (handle : Handle) :
    Alike (W := W) (E := E) (I := I) (track handle) (track handle) := by
  refine follows_get fun s => ?_
  have hreg : s.unwatched.registry = s.registry := rfl
  rw [hreg]
  cases s.registry.track handle with
  | error e => exact follows_throw _
  | ok r => exact (follows_set { s with registry := r.2 }).bind fun _ => follows_pure _

/-- What is known of a window is the same under watch. -/
theorem follows_stream {α : Type} (s : Watched W E I) (id : UInt32)
    {x : Act (Logged SourceCall W) (Logged EncoderCall E) (Logged SinkCall I) α} {y : Act W E I α}
    {f : WindowStream → Act (Logged SourceCall W) (Logged EncoderCall E) (Logged SinkCall I) α}
    {g : WindowStream → Act W E I α} (hnone : Alike x y) (hsome : ∀ st, Alike (f st) (g st)) :
    Alike
      (match s.streams.lookup id with
        | none => x
        | some st => f st)
      (match s.unwatched.streams.lookup id with
        | none => y
        | some st => g st) := by
  have hstreams : s.unwatched.streams = s.streams := rfl
  rw [hstreams]
  cases s.streams.lookup id with
  | none => exact hnone
  | some st => exact hsome st

/-- A title is told alike. -/
theorem syncTitle_alike (id : UInt32) (w : SourceWindow) (st : WindowStream) :
    Alike (W := W) (E := E) (I := I) (syncTitle cfg id w st) (syncTitle cfg id w st) :=
  follows_ite
    ((putStream_alike id _).bind fun _ => (send_alike _ _).bind fun _ => follows_pure _)
    (follows_pure _)

/-- A state is told alike. -/
theorem syncState_alike (id : UInt32) (w : SourceWindow) (st : WindowStream) :
    Alike (W := W) (E := E) (I := I) (syncState cfg id w st) (syncState cfg id w st) :=
  follows_ite
    ((putStream_alike id _).bind fun _ => (send_alike _ _).bind fun _ => follows_pure _)
    (follows_pure _)

/-- A geometry is told alike. -/
theorem syncGeometry_alike (id : UInt32) (w : SourceWindow) (flip : Bool) (st : WindowStream) :
    Alike (W := W) (E := E) (I := I) (syncGeometry cfg id w flip st)
      (syncGeometry cfg id w flip st) :=
  follows_ite ((putStream_alike id _).bind fun _ => send_alike _ _) (follows_pure _)

/-- All of a known window is told alike. -/
theorem updateWindow_alike (id : UInt32) (w : SourceWindow) (st : WindowStream) :
    Alike (W := W) (E := E) (I := I) (updateWindow cfg id w st) (updateWindow cfg id w st) :=
  (syncTitle_alike id w st).bind fun st => (syncState_alike id w st).bind fun _ =>
    follows_ite (follows_pure _) (syncGeometry_alike id w _ _)

/-- A window of the snapshot is told alike, new or known. -/
theorem syncWindow_alike (w : SourceWindow) :
    Alike (W := W) (E := E) (I := I) (syncWindow cfg w) (syncWindow cfg w) := by
  refine (track_alike w.handle).bind fun r => follows_ite ?_ ?_
  · exact (send_alike _ _).bind fun _ => putStream_alike _ _
  · exact follows_get fun s => follows_stream s _ (follows_pure _) (updateWindow_alike _ w)

/-- An encoder that is watched forgets a window alike. -/
theorem closeWindow_alike [FrameEncoder E] (gone : TrackedWindow) :
    Alike (W := W) (E := E) (I := I) (closeWindow cfg gone) (closeWindow cfg gone) := by
  refine follows_get fun s => ?_
  have hstreams : s.unwatched.streams = s.streams := rfl
  rw [hstreams]
  cases s.streams.lookup gone.windowId with
  | none => exact send_alike _ _
  | some st =>
      exact (follows_set { s with
        streams := s.streams.erase gone.windowId
        encoder := FrameEncoder.forget s.encoder st.handle }).bind fun _ => send_alike _ _

/-- A watched source shows the same snapshot. -/
theorem syncWindows_alike [WindowSource W] [FrameEncoder E] :
    Alike (W := W) (E := E) (I := I) (syncWindows cfg) (syncWindows cfg) := by
  have hlive : Alike (W := W) (E := E) (I := I) liveWindows liveWindows :=
    follows_get fun s => (follows_set { s with
      source := (WindowSource.liveWindows s.source).2 }).bind fun _ => follows_pure _
  have hretain : ∀ handles : List Handle,
      Alike (W := W) (E := E) (I := I) (retainLive handles) (retainLive handles) :=
    fun handles => follows_get fun s => (follows_set { s with
      registry := (s.registry.retainLive handles).2 }).bind fun _ => follows_pure _
  exact hlive.bind fun live => (follows_forM syncWindow_alike live).bind fun _ =>
    (hretain _).bind fun gone => follows_forM closeWindow_alike gone

/-- A watched source delivers the same frame. -/
theorem nextFrame_alike [WindowSource W] (handle : Handle) (intent : CaptureIntent) :
    Alike (W := W) (E := E) (I := I) (nextFrame handle intent) (nextFrame handle intent) :=
  follows_get fun s => (follows_set { s with
    source := (WindowSource.nextFrame s.source handle intent).2 }).bind fun _ => follows_pure _

/-- A watched encoder takes the same frame. -/
theorem submitFrame_alike [FrameEncoder E] (st : WindowStream) (frame : SourceFrame) :
    Alike (W := W) (E := E) (I := I) (submitFrame cfg st frame) (submitFrame cfg st frame) :=
  follows_ite (follows_modify fun _ => rfl) (follows_pure _)

/-- A watched encoder returns the same unit. -/
theorem poll_alike [FrameEncoder E] (handle : Handle) :
    Alike (W := W) (E := E) (I := I) (poll handle) (poll handle) :=
  follows_get fun s => (follows_set { s with
    encoder := (FrameEncoder.poll s.encoder handle).2 }).bind fun _ => follows_pure _

/-- The same picture is taken from it. -/
theorem pollPicture_alike [FrameEncoder E] (id : UInt32) (st : WindowStream) :
    Alike (W := W) (E := E) (I := I) (pollPicture cfg id st) (pollPicture cfg id st) := by
  refine (poll_alike st.handle).bind fun encoded => ?_
  cases encoded with
  | none => exact follows_pure _
  | some encoded =>
      exact (putStream_alike id _).bind fun _ => elapsedUs_alike.bind fun _ => follows_pure _

/-- A raw frame becomes the same picture. -/
theorem encodeFrame_alike [FrameEncoder E] (id : UInt32) (st : WindowStream)
    (frame : SourceFrame) (capturedUs : UInt64) :
    Alike (W := W) (E := E) (I := I) (encodeFrame cfg id st frame capturedUs)
      (encodeFrame cfg id st frame capturedUs) :=
  follows_get fun _ => follows_ite (pollPicture_alike id st)
    (follows_ite (follows_pure _) (follows_pure _))

/-- The same frame is sent. -/
theorem sendFrame_alike (id : UInt32) (st : WindowStream) (picture : Picture)
    (capturedUs : UInt64) :
    Alike (W := W) (E := E) (I := I) (sendFrame id st picture capturedUs)
      (sendFrame id st picture capturedUs) := by
  unfold sendFrame
  cases st.budget.onCaptured with
  | none => exact follows_throw _
  | some r =>
      refine (putStream_alike id _).bind fun _ => ?_
      simp only
      split
      · exact follows_throw _
      · exact follows_modify fun _ => rfl

/-- One capture goes alike. -/
theorem captureWindow_alike [WindowSource W] [FrameEncoder E] (id : UInt32)
    (st : WindowStream) :
    Alike (W := W) (E := E) (I := I) (captureWindow cfg id st) (captureWindow cfg id st) := by
  refine follows_get fun s => (nextFrame_alike st.handle _).bind fun frame => ?_
  cases frame with
  | none => exact follows_pure _
  | some frame =>
      refine elapsedUs_alike.bind fun _ => (submitFrame_alike st frame).bind fun _ => ?_
      refine (encodeFrame_alike id st frame _).bind fun r => ?_
      cases r with
      | none => exact follows_pure _
      | some r => exact sendFrame_alike id _ _ _

/-- All captures of a tick go alike. -/
theorem pumpFrames_alike [WindowSource W] [FrameEncoder E] :
    Alike (W := W) (E := E) (I := I) (pumpFrames cfg) (pumpFrames cfg) := by
  have hpump : ∀ id, Alike (W := W) (E := E) (I := I) (pumpWindow cfg id) (pumpWindow cfg id) :=
    fun id => follows_get fun s => follows_stream s id (follows_pure _) fun st =>
      follows_ite (follows_pure _) (reserveFrameSlot_alike.bind fun _ =>
        follows_ite (captureWindow_alike id st) (follows_pure _))
  exact follows_get fun _ => follows_forM hpump _

/-- A message from the client reaches a watched sink alike. -/
theorem onMessage_alike [InputSink I] (msg : Message) :
    Alike (W := W) (E := E) (I := I) (onMessage cfg msg) (onMessage cfg msg) := by
  cases msg with
  | frameAck ack =>
      exact follows_get fun s => follows_stream s _ (follows_pure _) fun _ => putStream_alike _ _
  | close => exact follows_throw _
  | ping => exact elapsedUs_alike.bind fun _ => send_alike _ _
  | pointerEvent =>
      exact follows_get fun s => follows_stream s _ (follows_pure _) fun _ =>
        follows_modify fun _ => rfl
  | keyEvent => exact follows_modify fun _ => rfl
  | textInput => exact follows_ite (follows_modify fun _ => rfl) (follows_pure _)
  | modifierSync => exact follows_modify fun _ => rfl
  | windowControl =>
      exact follows_ite
        (follows_get fun s => follows_stream s _ (follows_pure _) fun _ =>
          follows_modify fun _ => rfl)
        (follows_pure _)
  | _ => exact follows_pure _

/-- **Watching changes nothing.**  A run over a watched platform, with the journals left
out, is the run over the platform itself. -/
theorem watchedAfter_unwatched [WindowSource W] [FrameEncoder E] [InputSink I] (cfg : Config)
    (source : W) (encoder : E) (sink : I) (events : List Event) :
    (watchedAfter cfg source encoder sink events).unwatched =
      sessionAfter cfg source encoder sink events := by
  have hstep : ∀ event, Alike (W := W) (E := E) (I := I) (step cfg event) (step cfg event) := by
    intro event
    cases event with
    | incoming msg => exact onMessage_alike msg
    | readerStopped => exact follows_throw _
    | writerStopped => exact follows_throw _
    | tick => exact syncWindows_alike.bind fun _ => pumpFrames_alike
  have hrun := follows_forM hstep events (Session.watched source encoder sink)
  have hstart : (Session.watched source encoder sink).unwatched =
      Session.start source encoder sink := rfl
  rw [hstart] at hrun
  unfold watchedAfter sessionAfter drive
  rw [hrun]
  cases (events.forM (step cfg)).run (Session.watched source encoder sink) with
  | ok u s => rfl
  | error e s => rfl

end Unwatched

end Oxrdp
