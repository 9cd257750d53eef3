import Oxrdp.Agent.Refinement

/-!
# A window's turn in the frame pump

What one window's turn does to the view depends on what the platform hands out: a captured
frame (`Session.captured`) and what the encoder makes of it.  So the encoder is put beside the
view, as a `Feed`, and a turn that captures a frame is a `PumpStep` of the feed: the frame is
submitted, and the next access unit or the pixels themselves are sent, if there is either.  A
turn that stops the session in between is a `PumpCut`.

On the view alone, a turn sends one frame or nothing (`pumpWindow_at`).
-/

namespace Oxrdp

open Effect Machine

section Frames

variable {W E I : Type}

variable {cfg : Config} {v : View} {e : E} {X : Stop → Session W E I → Prop}

/-- A slot is reserved on an open queue, with the rest of the session as it was. -/
theorem reserveFrameSlot_feed {s₀ : Session W E I} (hreg : s₀.registry.WellFormed) :
    Triple (· = s₀) (reserveFrameSlot cfg : Act W E I Bool)
      (fun slot s => ((s₀.queueNow cfg).closed = false ∧
        slot = decide ((s₀.queueNow cfg).queued.length < outboundQueueCapacity)) ∧
        OnFeed s₀.feed s ∧ s.source = s₀.source)
      (fun _ s => (s₀.queueNow cfg).closed = true ∧ OnFeed s₀.feed s) := by
  intro s hs
  subst hs
  have hlook : Triple (At s.view) (writerRuns cfg : Act W E I Unit) (fun _ => At s.view)
      (Cut s.view) := writerRuns_at
  have hlooked : At s.view (s.looked cfg) := hlook s ⟨rfl, hreg⟩
  rw [reserveFrameSlot_run]
  by_cases hclosed : (s.queueNow cfg).closed = true
  · rw [if_pos hclosed]
    exact ⟨hclosed, hlooked, rfl⟩
  · rw [if_neg hclosed]
    exact ⟨⟨Bool.eq_false_iff.mpr hclosed, rfl⟩, ⟨hlooked, rfl⟩, rfl⟩

/-! ## Sending a picture -/

/-- The message for a picture. -/
def Picture.frame (picture : Picture) (id : UInt32) (frameId capturedUs : UInt64) : FrameData :=
  { windowId := id
    frameId
    codec := picture.codec
    flags := picture.flags
    width := picture.width
    height := picture.height
    capturedUs
    encodedUs := picture.encodedUs
    data := picture.data }

/-- A `FrameData` encodes exactly if its payload is below 4 GiB. -/
theorem frameData_encodes (f : FrameData) :
    (∃ body, (Message.frameData f).encodeBody = .ok body) ↔ f.data.length < 2 ^ 32 := by
  constructor
  · rintro ⟨body, hbody⟩
    change encodeVec f.size f.encode = .ok body at hbody
    unfold encodeVec at hbody
    cases hrun : f.encode.run (Coder.Tape.start (List.replicate f.size 0)) with
    | error e =>
        rw [hrun] at hbody
        cases hbody
    | ok r => exact FrameData.encode_fits hrun
  · intro h
    exact encodeVec_succeeds (FrameData.fills h)

/-- Why a picture that was made is not sent after all. -/
inductive Unsent (st : WindowStream) (picture : Picture) : Stop → Prop
  | numbered (h : st.budget.onCaptured = none) : Unsent st picture (.fault .frameIdOverflow)
  | encoded (e : EncodeError) (h : 2 ^ 32 ≤ picture.data.length) :
      Unsent st picture (.fault (.invalidData e))

/-- Sending numbers the picture and tells it on the window's channel. -/
theorem sendFrame_at {id : UInt32} {st : WindowStream} {picture : Picture}
    {capturedUs : UInt64} :
    Triple (At (v.setStream id (some st))) (sendFrame id st picture capturedUs : Act W E I Unit)
      (fun _ s => ∃ frameId budget, st.budget.onCaptured = some (frameId, budget) ∧
        picture.data.length < 2 ^ 32 ∧
        At ((v.tell [⟨st.videoChannel, .frameData (picture.frame id frameId capturedUs)⟩]).setStream
          id (some { st with budget })) s)
      (fun stop s => s.view.told = v.told ∧ Unsent st picture stop) := by
  unfold sendFrame
  cases hcap : st.budget.onCaptured with
  | none => exact triple_throw fun s hs => ⟨by rw [hs.1]; rfl, .numbered hcap⟩
  | some r =>
      obtain ⟨frameId, budget⟩ := r
      refine (putStream_at id _).bind fun _ => ?_
      rw [View.setStream_setStream]
      dsimp only
      split
      next e hbody =>
          have hlarge : 2 ^ 32 ≤ picture.data.length := by
            by_contra hsmall
            obtain ⟨body, hok⟩ := (frameData_encodes (picture.frame id frameId capturedUs)).mpr
              (Nat.lt_of_not_le hsmall)
            cases hok.symm.trans hbody
          exact triple_throw fun s hs => ⟨by rw [hs.1]; rfl, .encoded e hlarge⟩
      next body hbody =>
          apply triple_modify
          intro s hs
          obtain ⟨hview, hreg⟩ := hs
          have hfits : picture.data.length < 2 ^ 32 :=
            (frameData_encodes (picture.frame id frameId capturedUs)).mp ⟨body, hbody⟩
          refine ⟨frameId, budget, rfl, hfits, ?_, hreg⟩
          have hcarried : OutboundChunk.carried ⟨MsgType.frameData, st.videoChannel, body⟩ =
              some ⟨st.videoChannel, .frameData (picture.frame id frameId capturedUs)⟩ :=
            carried_of_encodeBody (m := .frameData _) trivial hbody
          rw [← View.setStream_tell, ← hview]
          simp [Session.view, View.tell, Outbound.told_push hcarried]

/-- Sending a frame leaves the platform alone. -/
theorem sendFrame_platform (id : UInt32) (st : WindowStream) (picture : Picture)
    (capturedUs : UInt64) :
    Keeps Session.platform (sendFrame id st picture capturedUs : Act W E I Unit) := by
  unfold sendFrame
  cases st.budget.onCaptured with
  | none => exact keeps_throw _
  | some r =>
      refine (putStream_platform id _).bind fun _ => ?_
      simp only
      split
      · exact keeps_throw _
      · exact keeps_modify fun _ => rfl

/-- A stream that is put back is seen in the view. -/
theorem putStream_feed (id : UInt32) (st : WindowStream) :
    Triple (OnFeed ⟨v, e⟩) (putStream id st : Act W E I Unit)
      (fun _ => OnFeed ⟨v.setStream id (some st), e⟩) X :=
  fun s hs => ⟨putStream_at (X := X) id st s hs.1, hs.2⟩

/-- Reading the clock changes nothing. -/
theorem elapsedUs_feed :
    Triple (OnFeed ⟨v, e⟩) (elapsedUs cfg : Act W E I UInt64) (fun _ => OnFeed ⟨v, e⟩) X :=
  fun _ hs => hs

/-- What the client is told with a picture that goes out. -/
def View.pictured (v : View) (id : UInt32) (st : WindowStream) (budget : FrameBudget)
    (f : FrameData) : View :=
  (v.tell [⟨st.videoChannel, .frameData f⟩]).setStream id (some { st with budget })

/-- A picture that was made goes out, or stops the session. -/
theorem sendFrame_feed {id : UInt32} {st : WindowStream} {picture : Picture} {capturedUs : UInt64} :
    Triple (OnFeed ⟨v.setStream id (some st), e⟩)
      (sendFrame id st picture capturedUs : Act W E I Unit)
      (fun _ s => ∃ frameId budget, st.budget.onCaptured = some (frameId, budget) ∧
        picture.data.length < 2 ^ 32 ∧
        OnFeed ⟨v.pictured id st budget (picture.frame id frameId capturedUs), e⟩ s)
      (fun stop s => s.outbound.told = v.told ∧ s.encoder = e ∧ Unsent st picture stop) := by
  intro s hs
  have hboth := (sendFrame_at.and (sendFrame_platform id st picture capturedUs s.platform)) s
    ⟨hs.1, rfl⟩
  have henc : ∀ s' : Session W E I, s'.platform = s.platform → s'.encoder = e := by
    intro s' hsame
    exact (congrArg (fun p => p.2.1) hsame).trans hs.2
  cases hrun : (sendFrame id st picture capturedUs).run s with
  | ok u s' =>
      rw [hrun] at hboth
      obtain ⟨⟨frameId, budget, hcap, hfits, hat⟩, hsame⟩ := hboth
      exact ⟨frameId, budget, hcap, hfits, hat, henc s' hsame⟩
  | error stop s' =>
      rw [hrun] at hboth
      obtain ⟨⟨htold, hunsent⟩, hsame⟩ := hboth
      exact ⟨htold, henc s' hsame, hunsent⟩

/-! ## One turn -/

section Turn

variable [FrameEncoder E] {id : UInt32} {st : WindowStream} {frame : SourceFrame}

/-- The encoder once a captured frame was handed to it, if the session uses one. -/
def submitted (cfg : Config) (st : WindowStream) (frame : SourceFrame) (e : E) : E :=
  if cfg.codec = Codec.h264 then FrameEncoder.submit e st.handle frame st.needsKeyframe else e

/-- Whether the encoder is asked for the window's next picture. -/
def Coding (cfg : Config) (st : WindowStream) (e : E) : Prop :=
  cfg.codec = Codec.h264 ∧ FrameEncoder.failed e st.handle = false

/-- The picture of an access unit. -/
def EncodedFrame.picture (u : EncodedFrame) (encodedUs : UInt64) : Picture :=
  { codec := Codec.h264
    flags := if u.keyframe then FrameFlag.keyframe else 0
    width := u.width
    height := u.height
    data := u.data
    encodedUs }

/-- The stream after an access unit was polled. -/
def WindowStream.polled (st : WindowStream) (u : EncodedFrame) : WindowStream :=
  { st with needsKeyframe := st.needsKeyframe && !u.keyframe }

/-- What comes of a frame that was captured for a window. -/
inductive PumpStep (cfg : Config) (id : UInt32) (st : WindowStream) (frame : SourceFrame)
    (v : View) (e : E) : Feed E → Prop
  | waited (hcoding : Coding cfg st (submitted cfg st frame e))
      (hpoll : (FrameEncoder.poll (submitted cfg st frame e) st.handle).1 = none) :
      PumpStep cfg id st frame v e
        ⟨v, (FrameEncoder.poll (submitted cfg st frame e) st.handle).2⟩
  | coded {u : EncodedFrame} {frameId capturedUs encodedUs : UInt64} {budget : FrameBudget}
      (hcoding : Coding cfg st (submitted cfg st frame e))
      (hpoll : (FrameEncoder.poll (submitted cfg st frame e) st.handle).1 = some u)
      (hfits : u.data.length < 2 ^ 32)
      (hcap : st.budget.onCaptured = some (frameId, budget)) :
      PumpStep cfg id st frame v e
        ⟨v.pictured id (st.polled u) budget ((u.picture encodedUs).frame id frameId capturedUs),
          (FrameEncoder.poll (submitted cfg st frame e) st.handle).2⟩
  | empty (hraw : ¬Coding cfg st (submitted cfg st frame e)) (hdata : frame.data.isEmpty = true) :
      PumpStep cfg id st frame v e ⟨v, submitted cfg st frame e⟩
  | raw {frameId capturedUs : UInt64} {budget : FrameBudget}
      (hraw : ¬Coding cfg st (submitted cfg st frame e)) (hdata : frame.data.isEmpty = false)
      (hcap : st.budget.onCaptured = some (frameId, budget)) :
      PumpStep cfg id st frame v e
        ⟨v.pictured id st budget ((rawPicture frame capturedUs).frame id frameId capturedUs),
          submitted cfg st frame e⟩

/-- What a turn that stops the session leaves of what the client was told, and of the
encoder. -/
inductive PumpCut (cfg : Config) (id : UInt32) (st : WindowStream) (frame : SourceFrame)
    (v : View) (e : E) : Stop → List Sent → E → Prop
  | coded {u : EncodedFrame} {encodedUs : UInt64} {stop : Stop}
      (hcoding : Coding cfg st (submitted cfg st frame e))
      (hpoll : (FrameEncoder.poll (submitted cfg st frame e) st.handle).1 = some u)
      (hstop : Unsent (st.polled u) (u.picture encodedUs) stop) :
      PumpCut cfg id st frame v e stop v.told
        (FrameEncoder.poll (submitted cfg st frame e) st.handle).2
  | raw {stop : Stop} (hraw : ¬Coding cfg st (submitted cfg st frame e)) :
      PumpCut cfg id st frame v e stop v.told (submitted cfg st frame e)

/-- The next access unit, and the keyframe that it settles. -/
theorem pollPicture_feed :
    Triple (OnFeed ⟨v, e⟩)
      (pollPicture cfg id st : Act W E I (Option (Picture × WindowStream)))
      (fun r s => match (FrameEncoder.poll e st.handle).1 with
        | none => r = none ∧ OnFeed ⟨v, (FrameEncoder.poll e st.handle).2⟩ s
        | some u => ∃ encodedUs, r = some (u.picture encodedUs, st.polled u) ∧
            OnFeed ⟨v.setStream id (some (st.polled u)),
              (FrameEncoder.poll e st.handle).2⟩ s)
      X := by
  unfold pollPicture
  refine Triple.bind (R := fun encoded s => (FrameEncoder.poll e st.handle).1 = encoded ∧
    OnFeed ⟨v, (FrameEncoder.poll e st.handle).2⟩ s) ?_ fun encoded =>
      triple_of_fact fun hencoded => ?_
  · intro s hs
    obtain ⟨hat, rfl⟩ := hs
    exact ⟨rfl, hat, rfl⟩
  · rw [hencoded]
    cases encoded with
    | none => exact triple_pure fun s hs => ⟨rfl, hs⟩
    | some u =>
        exact (putStream_feed id _).bind fun _ => elapsedUs_feed.bind fun encodedUs =>
          triple_pure fun s hs => ⟨encodedUs, rfl, hs⟩

/-- A frame that is submitted is in the encoder. -/
theorem submitFrame_feed :
    Triple (OnFeed ⟨v, e⟩) (submitFrame cfg st frame : Act W E I Unit)
      (fun _ => OnFeed ⟨v, submitted cfg st frame e⟩) X := by
  unfold submitFrame submitted
  split
  · intro s hs
    obtain ⟨hat, rfl⟩ := hs
    exact ⟨hat, rfl⟩
  · exact triple_pure fun s hs => hs

/-- The picture for a captured frame, if there is one, and the feed behind it. -/
inductive EncodeStep (cfg : Config) (id : UInt32) (st : WindowStream) (frame : SourceFrame)
    (capturedUs : UInt64) (v : View) (e : E) : Option (Picture × WindowStream) → Feed E → Prop
  | waited (hcoding : Coding cfg st e) (hpoll : (FrameEncoder.poll e st.handle).1 = none) :
      EncodeStep cfg id st frame capturedUs v e none ⟨v, (FrameEncoder.poll e st.handle).2⟩
  | coded {u : EncodedFrame} {encodedUs : UInt64} (hcoding : Coding cfg st e)
      (hpoll : (FrameEncoder.poll e st.handle).1 = some u) :
      EncodeStep cfg id st frame capturedUs v e (some (u.picture encodedUs, st.polled u))
        ⟨v.setStream id (some (st.polled u)), (FrameEncoder.poll e st.handle).2⟩
  | empty (hraw : ¬Coding cfg st e) (hdata : frame.data.isEmpty = true) :
      EncodeStep cfg id st frame capturedUs v e none ⟨v, e⟩
  | raw (hraw : ¬Coding cfg st e) (hdata : frame.data.isEmpty = false) :
      EncodeStep cfg id st frame capturedUs v e (some (rawPicture frame capturedUs, st)) ⟨v, e⟩

/-- Encoding a frame is one step of `EncodeStep`. -/
theorem encodeFrame_feed {capturedUs : UInt64} :
    Triple (OnFeed ⟨v, e⟩)
      (encodeFrame cfg id st frame capturedUs : Act W E I (Option (Picture × WindowStream)))
      (fun r s => ∃ F, EncodeStep cfg id st frame capturedUs v e r F ∧ OnFeed F s) X := by
  unfold encodeFrame
  refine Triple.bind (R := fun a s => a.encoder = e ∧ OnFeed ⟨v, e⟩ s)
    (triple_get fun s hs => ⟨hs.2, hs⟩) fun a => triple_of_fact fun ha => ?_
  rw [ha]
  split
  · rename_i hcoding
    refine pollPicture_feed.conseq (fun s hs => hs) (fun r s hs => ?_) (fun stop s hs => hs)
    cases hpoll : (FrameEncoder.poll e st.handle).1 with
    | none =>
        rw [hpoll] at hs
        obtain ⟨rfl, hs⟩ := hs
        exact ⟨_, .waited hcoding hpoll, hs⟩
    | some u =>
        rw [hpoll] at hs
        obtain ⟨encodedUs, rfl, hs⟩ := hs
        exact ⟨_, .coded hcoding hpoll, hs⟩
  · rename_i hraw
    split
    · rename_i hdata
      exact triple_pure fun s hs => ⟨_, .empty hraw hdata, hs⟩
    · rename_i hdata
      exact triple_pure fun s hs => ⟨_, .raw hraw (Bool.eq_false_iff.mpr hdata), hs⟩

/-- What comes of a captured frame. -/
theorem captureFrame_feed (hst : v.streams id = some st) (capturedUs : UInt64) :
    Triple (OnFeed ⟨v, submitted cfg st frame e⟩)
      (do
        match ← encodeFrame cfg id st frame capturedUs with
        | none => pure ()
        | some (picture, stream) => sendFrame id stream picture capturedUs : Act W E I Unit)
      (fun _ s => ∃ F, PumpStep cfg id st frame v e F ∧ OnFeed F s)
      (fun stop s => PumpCut cfg id st frame v e stop s.outbound.told s.encoder) := by
  refine encodeFrame_feed.bind fun r => ?_
  intro s hs
  obtain ⟨F, hencode, hs⟩ := hs
  cases hencode with
  | waited hcoding hpoll => exact ⟨_, .waited hcoding hpoll, hs⟩
  | empty hraw hdata => exact ⟨_, .empty hraw hdata, hs⟩
  | coded hcoding hpoll =>
      refine sendFrame_feed.conseq (fun s hs => hs) (fun _ s hs => ?_) (fun stop s hs => ?_) s hs
      · obtain ⟨frameId, budget, hcap, hfits, hs⟩ := hs
        exact ⟨_, .coded hcoding hpoll hfits hcap, hs⟩
      · obtain ⟨htold, henc, hunsent⟩ := hs
        rw [htold, henc]
        exact .coded hcoding hpoll hunsent
  | raw hraw hdata =>
      rw [← View.setStream_self hst] at hs
      refine sendFrame_feed.conseq (fun s hs => hs) (fun _ s hs => ?_) (fun stop s hs => ?_) s hs
      · obtain ⟨frameId, budget, hcap, -, hs⟩ := hs
        exact ⟨_, .raw hraw hdata hcap, hs⟩
      · obtain ⟨htold, henc, -⟩ := hs
        rw [htold, henc]
        exact .raw hraw

/-- The frame that a window's turn captures, with what is remembered of the window: none
without a stream, of a minimized window, without a slot, or when nothing new was captured. -/
def Session.captured [WindowSource W] (cfg : Config) (s : Session W E I) (id : UInt32) :
    Option (WindowStream × SourceFrame) :=
  match s.streams.lookup id with
  | none => none
  | some st =>
      if st.showState = WindowShow.minimized then none
      else if (s.queueNow cfg).closed ∨
          outboundQueueCapacity ≤ (s.queueNow cfg).queued.length then none
      else
        (WindowSource.nextFrame s.source st.handle (captureIntent cfg s.encoder st)).1.map
          fun frame => (st, frame)

/-- A captured window submits its frame, and sends what the encoder has ready. -/
theorem captureWindow_feed [WindowSource W] {source : W} (hst : v.streams id = some st) :
    Triple (fun s => OnFeed ⟨v, e⟩ s ∧ s.source = source)
      (captureWindow cfg id st : Act W E I Unit)
      (fun _ s =>
        match (WindowSource.nextFrame source st.handle (captureIntent cfg e st)).1 with
        | none => OnFeed ⟨v, e⟩ s
        | some frame => ∃ F, PumpStep cfg id st frame v e F ∧ OnFeed F s)
      (fun stop s => ∃ frame,
        (WindowSource.nextFrame source st.handle (captureIntent cfg e st)).1 = some frame ∧
        PumpCut cfg id st frame v e stop s.outbound.told s.encoder) := by
  unfold captureWindow
  refine Triple.bind (R := fun a s => a.encoder = e ∧ OnFeed ⟨v, e⟩ s ∧ s.source = source)
    (triple_get fun s hs => ⟨hs.1.2, hs⟩) fun a => triple_of_fact fun ha => ?_
  rw [ha]
  refine Triple.bind (R := fun frame s =>
    (WindowSource.nextFrame source st.handle (captureIntent cfg e st)).1 = frame ∧
      OnFeed ⟨v, e⟩ s) ?_ fun frame => triple_of_fact fun hframe => ?_
  · intro s hs
    obtain ⟨hfeed, rfl⟩ := hs
    exact ⟨rfl, hfeed⟩
  rw [hframe]
  cases frame with
  | none => exact triple_pure fun s hs => hs
  | some frame =>
      refine elapsedUs_feed.bind fun capturedUs => submitFrame_feed.bind fun _ => ?_
      exact (captureFrame_feed hst capturedUs).conseq (fun s hs => hs) (fun _ s hs => hs)
        fun stop s hs => ⟨frame, rfl, hs⟩

/-- What it takes for a turn to capture a frame. -/
theorem captured_inv [WindowSource W] {s : Session W E I}
    (h : s.captured cfg id = some (st, frame)) :
    s.view.streams id = some st ∧ st.showState ≠ WindowShow.minimized ∧
      (s.queueNow cfg).queued.length < outboundQueueCapacity ∧
      (WindowSource.nextFrame s.source st.handle (captureIntent cfg s.encoder st)).1 =
        some frame := by
  unfold Session.captured at h
  cases hl : s.streams.lookup id with
  | none =>
      rw [hl] at h
      cases h
  | some st' =>
      rw [hl] at h
      simp only at h
      split at h
      · cases h
      rename_i hshown
      split at h
      · cases h
      rename_i hroom
      obtain ⟨frame', hframe, heq⟩ := Option.map_eq_some_iff.mp h
      cases heq
      exact ⟨hl, hshown, Nat.lt_of_not_le fun hfull => hroom (.inr hfull), hframe⟩

/-- Without a free slot a window's turn is at most a look at the queue. -/
theorem pumpWindow_noSlot [WindowSource W] {s : Session W E I}
    (hnone : (s.queueNow cfg).closed = true ∨
      outboundQueueCapacity ≤ (s.queueNow cfg).queued.length) (id : UInt32) :
    (pumpWindow cfg id).run s = .ok ⟨⟩ s ∨
      (pumpWindow cfg id).run s =
        if (s.queueNow cfg).closed then .error (.fault .brokenPipe) (s.looked cfg)
        else .ok ⟨⟩ (s.looked cfg) := by
  have hpump : (pumpWindow cfg id).run s = (match s.streams.lookup id with
    | none => pure ()
    | some stream =>
        if stream.showState = WindowShow.minimized then pure ()
        else do
          let slot ← reserveFrameSlot cfg
          if slot then captureWindow cfg id stream else pure () : Act W E I Unit) s := rfl
  rw [hpump]
  cases s.streams.lookup id with
  | none => exact .inl rfl
  | some st =>
      by_cases hmin : st.showState = WindowShow.minimized
      · simp only [hmin, if_true]
        exact .inl rfl
      simp only [hmin, if_false]
      right
      change EStateM.bind (reserveFrameSlot cfg) _ s = _
      have hslot := @reserveFrameSlot_run W E I cfg s
      rw [EStateM.run] at hslot
      unfold EStateM.bind
      rw [hslot]
      by_cases hclosed : (s.queueNow cfg).closed = true
      · rw [if_pos hclosed, if_pos hclosed]
      · have hroom : ¬(s.queueNow cfg).queued.length < outboundQueueCapacity :=
          Nat.not_lt.mpr (hnone.resolve_left hclosed)
        rw [if_neg hclosed, if_neg hclosed, decide_eq_false hroom]
        rfl

/-- How a window's turn may stop the session: before anything was captured, or with the
frame that was. -/
def TurnStopped [WindowSource W] (cfg : Config) (id : UInt32) (s₀ : Session W E I) (stop : Stop)
    (s : Session W E I) : Prop :=
  (s₀.captured cfg id = none ∧ s.outbound.told = s₀.view.told ∧ s.encoder = s₀.encoder) ∨
    ∃ st frame, s₀.captured cfg id = some (st, frame) ∧
      PumpCut cfg id st frame s₀.view s₀.encoder stop s.outbound.told s.encoder

/-- **One window's turn** is a step with the frame it captures, or changes nothing. -/
theorem pumpWindow_feed [WindowSource W] {s₀ : Session W E I}
    (hreg : s₀.registry.WellFormed) :
    Triple (· = s₀) (pumpWindow cfg id : Act W E I Unit)
      (fun _ s => match s₀.captured cfg id with
        | none => OnFeed s₀.feed s
        | some (st, frame) =>
            ∃ F, PumpStep cfg id st frame s₀.view s₀.encoder F ∧ OnFeed F s)
      (TurnStopped cfg id s₀) := by
  have hfeed : OnFeed s₀.feed s₀ := ⟨⟨rfl, hreg⟩, rfl⟩
  unfold pumpWindow
  refine Triple.bind (R := fun a s => a = s₀ ∧ s = s₀) (triple_get fun s hs => ⟨hs, hs⟩)
    fun a => triple_of_fact fun ha => ?_
  subst ha
  have hidle : a.captured cfg id = none →
      Triple (· = a) (pure () : Act W E I Unit)
        (fun _ s => match a.captured cfg id with
          | none => OnFeed a.feed s
          | some (st, frame) =>
              ∃ F, PumpStep cfg id st frame a.view a.encoder F ∧ OnFeed F s)
        (TurnStopped cfg id a) := by
    intro hnone
    rw [hnone]
    refine triple_pure ?_
    intro s hs
    subst hs
    exact hfeed
  cases hl : a.streams.lookup id with
  | none => exact hidle (by simp [Session.captured, hl])
  | some st =>
      simp only
      split
      · rename_i hmin
        exact hidle (by simp [Session.captured, hl, hmin])
      rename_i hshown
      refine Triple.bind ((reserveFrameSlot_feed hreg).conseq (fun s hs => hs)
        (fun _ s hs => hs) fun stop s hs => .inl ?_) fun slot => triple_of_fact fun hslot => ?_
      · obtain ⟨hclosed, hat, henc⟩ := hs
        exact ⟨by simp [Session.captured, hl, hclosed], congrArg View.told hat.1, henc⟩
      obtain ⟨hopen, hslot⟩ := hslot
      by_cases hroom : (a.queueNow cfg).queued.length < outboundQueueCapacity
      · have hcaptured : a.captured cfg id =
            (WindowSource.nextFrame a.source st.handle (captureIntent cfg a.encoder st)).1.map
              fun frame => (st, frame) := by
          simp [Session.captured, hl, hshown, hopen, hroom]
        rw [hslot, decide_eq_true hroom, if_pos rfl]
        refine (captureWindow_feed hl).conseq (fun s hs => hs) (fun _ s hs => ?_)
          (fun stop s hs => .inr ?_)
        · rw [hcaptured]
          split at hs
          · rename_i hframe
            rw [hframe]
            exact hs
          · rename_i frame hframe
            rw [hframe]
            exact hs
        · obtain ⟨frame, hframe, hcut⟩ := hs
          exact ⟨st, frame, by rw [hcaptured, hframe]; rfl, hcut⟩
      · have hcaptured : a.captured cfg id = none := by
          simp [Session.captured, hl, Nat.le_of_not_lt hroom]
        rw [hslot, decide_eq_false hroom, hcaptured]
        exact triple_pure fun s hs => hs.1

/-- A pump that succeeds sends one frame of its window or none. -/
theorem PumpStep.frameStep {F : Feed E} (h : PumpStep cfg id st frame v e F)
    (hst : v.streams id = some st) (hshown : st.showState ≠ WindowShow.minimized) :
    F.view = v ∨ FrameStep id v F.view := by
  cases h with
  | waited => exact .inl rfl
  | empty => exact .inl rfl
  | coded _ _ _ hcap => exact .inr ⟨_, st, _, _, rfl, hst, hshown, hcap, rfl⟩
  | raw _ _ hcap => exact .inr ⟨_, st, _, _, rfl, hst, hshown, hcap, rfl⟩

/-- A pump that fails has told the client nothing. -/
theorem PumpCut.told_eq {stop : Stop} {told : List Sent} {e' : E}
    (h : PumpCut cfg id st frame v e stop told e') : told = v.told := by
  cases h with
  | coded => rfl
  | raw => rfl

/-- On the view alone, a turn sends one frame of the window or nothing. -/
theorem pumpWindow_at [WindowSource W] :
    Triple (At v) (pumpWindow cfg id : Act W E I Unit)
      (fun _ s => ∃ v', (v' = v ∨ FrameStep id v v') ∧ At v' s) (Cut v) := by
  intro s hs
  obtain ⟨rfl, hreg⟩ := hs
  refine (pumpWindow_feed hreg).conseq (fun s hs => hs) (fun _ s' hs' => ?_)
    (fun stop s' hs' => ?_) s rfl
  · cases hcaptured : s.captured cfg id with
    | none =>
        rw [hcaptured] at hs'
        exact ⟨s.view, .inl rfl, hs'.1⟩
    | some r =>
        obtain ⟨st, frame⟩ := r
        rw [hcaptured] at hs'
        obtain ⟨F, hstep, hs'⟩ := hs'
        obtain ⟨hst, hshown, -⟩ := captured_inv hcaptured
        exact ⟨F.view, hstep.frameStep hst hshown, hs'.1⟩
  · rcases hs' with ⟨-, htold, -⟩ | ⟨st, frame, -, hcut⟩
    · exact ⟨[], (List.append_nil _).trans htold⟩
    · exact ⟨[], (List.append_nil _).trans hcut.told_eq⟩

/-- A session that stopped while sending frames from `v`. -/
def StoppedFrames (v : View) (_ : Stop) (s : Session W E I) : Prop :=
  ∃ v', FramesStep v v' ∧ s.view.told <+: v'.told

/-- Every window gets its turn once, so no window sends two frames in a tick. -/
theorem pumpFrames_at [WindowSource W] :
    Triple (At v) (pumpFrames cfg : Act W E I Unit)
      (fun _ s => ∃ v', FramesStep v v' ∧ At v' s) (StoppedFrames v) := by
  unfold pumpFrames
  refine get_at.bind fun a => ?_
  have hnodup : (a.streams.keys.insertionSort (· ≤ ·)).Nodup :=
    (List.perm_insertionSort _ _).nodup_iff.mpr a.streams.keys_nodup
  refine (triple_forM (fun done s => ∃ ids v', ids.Sublist done ∧ Chain FrameStep ids v v' ∧
    At v' s) _ ?_).conseq (fun s hs => ⟨[], v, List.Sublist.refl [], .nil, hs.2⟩)
    (fun _ s hs => ?_) (fun e s hs => hs)
  · intro done id rest hkeys s hs
    obtain ⟨ids, v', hsub, hframes, hs⟩ := hs
    have hdone : ids.Nodup := by
      rw [hkeys] at hnodup
      exact hsub.nodup (List.nodup_append.mp hnodup).1
    refine pumpWindow_at.conseq (fun s hs => hs) (fun _ s₁ hs₁ => ?_) (fun e s₁ hs₁ => ?_) s hs
    · obtain ⟨v'', hstep, hs₁⟩ := hs₁
      rcases hstep with rfl | hstep
      · exact ⟨ids, v'', hsub.trans (List.sublist_append_left done [id]), hframes, hs₁⟩
      · exact ⟨ids ++ [id], v'', hsub.append (List.Sublist.refl [id]), hframes.snoc hstep, hs₁⟩
    · exact ⟨v', ⟨ids, hdone, hframes⟩, hs₁⟩
  · obtain ⟨ids, v', hsub, hframes, hs⟩ := hs
    exact ⟨v', ⟨ids, hsub.nodup hnodup, hframes⟩, hs⟩

end Turn

end Frames

end Oxrdp
