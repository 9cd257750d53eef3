import Oxrdp.Agent.FirstForced
import Oxrdp.Agent.Turns

/-!
# Pixels for those who asked

An encoder that converts pixels itself has no use for a frame that stayed on the GPU, and the
driver asks it before each capture.  It asks with the size of the *window*, though, and the
encoder was built for the size of the frames.  Where the two differ, every frame is captured on
the GPU and dropped by the encoder that it fits.

`Session.fitting` is a captured frame and the encoder it finds.  Pixels are asked for exactly
if window and frame have the same padded size (`pixelsAsked_iff`).
-/

namespace Oxrdp

open Effect

/-! ## What an encoder keeps -/

section Keeps

variable {W E I : Type} [WindowSource W] [FrameEncoder E] {cfg : Config}
  {P : E → Prop}

/-- What has to be shown of a property of encoders.  Frames are submitted in H.264 sessions
only. -/
structure EncoderKeeps (cfg : Config) (P : E → Prop) : Prop where
  submit : ∀ {e} (handle frame forceKeyframe), cfg.codec = Codec.h264 → P e →
    P (FrameEncoder.submit e handle frame forceKeyframe)
  poll : ∀ {e} (handle), P e → P (FrameEncoder.poll e handle).2
  forget : ∀ {e} (handle), P e → P (FrameEncoder.forget e handle)

theorem EncoderKeeps.forgetAll (h : EncoderKeeps cfg P) (streams : UInt32 → Option WindowStream)
    {e : E} (he : P e) (gone : List TrackedWindow) : P (forgetAll streams e gone) := by
  induction gone generalizing e with
  | nil => exact he
  | cons t rest ih =>
      refine @ih (forgetOne streams e t) ?_
      unfold forgetOne
      cases streams t.windowId with
      | none => exact he
      | some st => exact h.forget st.handle he

theorem EncoderKeeps.submitted (h : EncoderKeeps cfg P) (st : WindowStream) (frame : SourceFrame)
    {e : E} (he : P e) : P (submitted cfg st frame e) := by
  unfold Oxrdp.submitted
  split
  next hcodec => exact h.submit st.handle frame st.needsKeyframe hcodec he
  next => exact he

theorem EncoderKeeps.feed (h : EncoderKeeps cfg P) :
    FeedInv (W := W) (I := I) cfg (fun _ _ => true) (fun _ e => P e) (fun _ _ e => P e) where
  sync := fun _ _ he => he
  close := fun _ _ he => h.forgetAll _ he _
  pump := by
    intro s id st frame F _ _ _ hstep he
    have hsubmitted := h.submitted st frame he
    cases hstep with
    | waited => exact h.poll _ hsubmitted
    | coded => exact h.poll _ hsubmitted
    | empty => exact hsubmitted
    | raw => exact hsubmitted
  ack := fun _ _ he => he
  pong := fun _ he => he
  aside := fun _ _ _ he => he
  closing := by
    intro live gone v e told e' stop _ _ hstopped he
    obtain ⟨done, t, rest, -, -, rfl⟩ := hstopped
    exact h.forgetAll _ he _
  pumping := by
    intro s id st frame stop told e' _ _ _ hcut he
    have hsubmitted := h.submitted st frame he
    cases hcut with
    | coded => exact h.poll _ hsubmitted
    | raw => exact hsubmitted

/-- The encoder had the property before each of some turns. -/
def AtTurns (P : E → Prop) (turns : List (UInt32 × Session W E I)) : Prop :=
  ∀ turn ∈ turns, P turn.2.encoder

theorem EncoderKeeps.turns [InputSink I] (h : EncoderKeeps cfg P) :
    TurnInv (W := W) (E := E) (I := I) cfg
      (fun turns s => Fed (fun _ e => P e) s ∧ AtTurns P turns) (fun turns _ => AtTurns P turns) where
  sync := traces_silent fun _ => (syncWindows_fed h.feed).with_fact
  message m := traces_silent fun _ => (onMessage_fed h.feed m).with_fact
  stopped hs := hs.2
  turn id := by
    intro before s hs
    obtain ⟨hfed, hbefore⟩ := hs
    have hafter : AtTurns P (before ++ [(id, s)]) := by
      intro turn hturn
      rcases List.mem_append.mp hturn with hturn | hturn
      · exact hbefore turn hturn
      · cases List.mem_singleton.mp hturn
        exact hfed.2.2
    have hpump := pumpWindow_fed h.feed id s ⟨rfl, hfed⟩
    cases hrun : (pumpWindow cfg id).run s with
    | ok u s' =>
        rw [hrun] at hpump
        exact ⟨hpump, hafter⟩
    | error stop s' => exact hafter

/-- **Before every turn** of a run the encoder has what it keeps. -/
theorem EncoderKeeps.atTurns [InputSink I] (h : EncoderKeeps cfg P) {encoder : E}
    (hstart : P encoder) (source : W) (sink : I) (events : List Event) :
    AtTurns P (pumpTurns cfg events (Session.start source encoder sink)) := by
  have hrun := h.turns.drive events [] (Session.start source encoder sink)
    ⟨⟨WindowRegistry.new_wellFormed, .start, hstart⟩, fun _ hturn => by cases hturn⟩
  rw [List.nil_append] at hrun
  cases hdrive : (drive cfg events).run (Session.start source encoder sink) with
  | ok u s =>
      rw [hdrive] at hrun
      exact hrun.2
  | error stop s =>
      rw [hdrive] at hrun
      exact hrun

end Keeps

/-! ## A session with these encoders -/

/-- The encoders of a session, and what the operating system is going to answer, call by
call. -/
structure WinEncoderHost where
  encoder : WinFrameEncoder
  answers : Nat → OsAnswers
  asked : Nat

namespace WinEncoderHost

def new (targetFps : UInt16) (answers : Nat → OsAnswers) : WinEncoderHost :=
  { encoder := .new targetFps, answers, asked := 0 }

/-- One call.  A failed assertion ends the program, so whatever a run does after that is not
the program's; the encoders stay as they were. -/
def call (host : WinEncoderHost) (request : EncoderRequest) : WinEncoderHost :=
  { host with
    encoder :=
      match host.encoder.call (request, host.answers host.asked) with
      | .ok encoder => encoder
      | .error _ => host.encoder
    asked := host.asked + 1 }

end WinEncoderHost

instance : FrameEncoder WinEncoderHost where
  submit host handle frame forceKeyframe := host.call (.submit handle frame forceKeyframe)
  poll host handle :=
    ((host.encoder.poll handle (host.answers host.asked)).1, host.call (.poll handle))
  forget host handle := host.call (.forget handle)
  wantsCpuFrame host := host.encoder.wantsCpuFrame
  failed host := host.encoder.hasFailed

/-- No broken window has an encoder, and a session without H.264 has no encoders at all. -/
def Serves (cfg : Config) (host : WinEncoderHost) : Prop :=
  host.encoder.LiveWorks ∧
    ∀ handle enc, host.encoder.encoders.lookup handle = some enc → cfg.codec = Codec.h264

theorem liveWorks_call {host : WinEncoderHost} (h : host.encoder.LiveWorks)
    (request : EncoderRequest) : (host.call request).encoder.LiveWorks := by
  unfold WinEncoderHost.call
  dsimp only
  split
  next encoder hcall => exact h.call hcall
  next => exact h

theorem serves_keeps (cfg : Config) : EncoderKeeps cfg (Serves cfg) where
  submit := by
    intro host handle frame forceKeyframe hcodec h
    exact ⟨liveWorks_call h.1 _, fun _ _ _ => hcodec⟩
  poll := by
    intro host handle h
    have hevery : host.encoder.Every fun _ => cfg.codec = Codec.h264 := h.2
    exact ⟨liveWorks_call h.1 (.poll handle), hevery.poll fun _ hcodec => hcodec⟩
  forget := by
    intro host handle h
    have hevery : host.encoder.Every fun _ => cfg.codec = Codec.h264 := h.2
    exact ⟨liveWorks_call h.1 (.forget handle), hevery.forget handle⟩

/-! ## Who asks for pixels -/

section Pixels

variable {W I : Type} [WindowSource W] {cfg : Config} {id : UInt32}
  {s : Session W WinEncoderHost I} {st : WindowStream} {frame : SourceFrame}

/-- The frame that a window's turn captures, if it fits the window's encoder and this one
converts pixels itself. -/
def Session.fitting (cfg : Config) (s : Session W WinEncoderHost I) (id : UInt32) :
    Option (WindowStream × SourceFrame) :=
  (s.captured cfg id).filter fun (st, frame) =>
    (s.encoder.encoder.encoders.lookup st.handle).any fun enc =>
      enc.usesCpuInput && enc.matchesFrame frame

/-- Such a frame was captured for its pixels. -/
def Session.PixelsAsked (cfg : Config) (id : UInt32) (s : Session W WinEncoderHost I) : Prop :=
  ∀ st frame, s.fitting cfg id = some (st, frame) → captureIntent cfg s.encoder st = .cpuBgra

/-- The window that such a frame is of has the same padded size. -/
def Session.SizesAgree (cfg : Config) (id : UInt32) (s : Session W WinEncoderHost I) : Prop :=
  ∀ st frame, s.fitting cfg id = some (st, frame) →
    padEven st.geometry.width = padEven frame.width ∧
      padEven st.geometry.height = padEven frame.height

/-- Such a frame came without pixels. -/
def Session.Starves (cfg : Config) (id : UInt32) (s : Session W WinEncoderHost I) : Prop :=
  ∃ st frame, s.fitting cfg id = some (st, frame) ∧ frame.data = []

/-- The window's encoder is as it was after the frame that the turn captures, whatever it is
told with the frame and whatever the operating system answers. -/
def Session.Discards (cfg : Config) (id : UInt32) (s : Session W WinEncoderHost I) : Prop :=
  ∃ st frame enc, s.captured cfg id = some (st, frame) ∧
    s.encoder.encoder.encoders.lookup st.handle = some enc ∧
    ∀ forceKeyframe os, enc.submit frame forceKeyframe os = .ok enc

/-- Of a frame that fits, the encoder is one that matches it and takes pixels. -/
theorem fitting_inv (h : s.fitting cfg id = some (st, frame)) :
    s.captured cfg id = some (st, frame) ∧
      ∃ enc, s.encoder.encoder.encoders.lookup st.handle = some enc ∧
        enc.usesCpuInput = true ∧ enc.matchesFrame frame = true := by
  obtain ⟨hcaptured, hfits⟩ := Option.filter_eq_some_iff.mp h
  obtain ⟨enc, hlive, hfits⟩ := (Option.any_eq_true _ _).mp hfits
  exact ⟨hcaptured, enc, hlive, Bool.and_eq_true_iff.mp hfits⟩

/-- The encoder keeps nothing of a frame without pixels. -/
theorem starved_dropped {enc : WindowEncoder} (hcpu : enc.usesCpuInput = true)
    (hdata : frame.data = []) (forceKeyframe : Bool) (os : OsAnswers) :
    enc.submit frame forceKeyframe os = .ok enc := by
  unfold WindowEncoder.submit
  simp [hcpu, hdata]

/-- A window that starves has its frame discarded. -/
theorem Session.Starves.discards (h : s.Starves cfg id) : s.Discards cfg id := by
  obtain ⟨st, frame, hfits, hdata⟩ := h
  obtain ⟨hcaptured, enc, hlive, hcpu, -⟩ := fitting_inv hfits
  exact ⟨st, frame, enc, hcaptured, hlive, starved_dropped hcpu hdata⟩

/-- **One turn.**  Pixels are asked for exactly if the sizes agree. -/
theorem pixelsAsked_iff (hserves : Serves cfg s.encoder) :
    s.PixelsAsked cfg id ↔ s.SizesAgree cfg id := by
  unfold Session.PixelsAsked Session.SizesAgree
  refine forall_congr' fun st => forall_congr' fun frame => imp_congr_right fun h => ?_
  obtain ⟨-, enc, hlive, hcpu, hmatches⟩ := fitting_inv h
  have hcodec := hserves.2 st.handle enc hlive
  have hworks : FrameEncoder.failed s.encoder st.handle = false := by
    change (s.encoder.encoder.failed.lookup st.handle).isSome = false
    rw [hserves.1 st.handle enc hlive]
    rfl
  have hwants : FrameEncoder.wantsCpuFrame s.encoder st.handle st.geometry.width
      st.geometry.height = true ↔
        padEven st.geometry.width = padEven frame.width ∧
          padEven st.geometry.height = padEven frame.height := by
    change s.encoder.encoder.wantsCpuFrame st.handle st.geometry.width st.geometry.height = true ↔ _
    obtain ⟨hwidth, hheight⟩ := Bool.and_eq_true_iff.mp hmatches
    have hsizes : (enc.width = (padEven st.geometry.width).toUInt32 ↔
          padEven st.geometry.width = padEven frame.width) ∧
        (enc.height = (padEven st.geometry.height).toUInt32 ↔
          padEven st.geometry.height = padEven frame.height) := by
      rw [← beq_iff_eq.mp hwidth, ← beq_iff_eq.mp hheight, UInt16.toUInt32_inj,
        UInt16.toUInt32_inj]
      exact ⟨eq_comm, eq_comm⟩
    unfold WinFrameEncoder.wantsCpuFrame
    rw [hlive]
    simp [hcpu, hsizes]
  unfold captureIntent
  rw [← hwants]
  simp [hcodec, hworks]

/-- What a source has to hand out when it is asked for pixels. -/
def DeliversPixels (W : Type) [WindowSource W] : Prop :=
  ∀ (source : W) handle frame,
    (WindowSource.nextFrame source handle .cpuBgra).1 = some frame → frame.data ≠ []

/-- A source that delivers pixels starves no encoder for which it was asked for them. -/
theorem not_starves (hsource : DeliversPixels W) (h : s.PixelsAsked cfg id) :
    ¬s.Starves cfg id := by
  rintro ⟨st, frame, hfits, hdata⟩
  obtain ⟨-, -, -, hframe⟩ := captured_inv (fitting_inv hfits).1
  rw [h st frame hfits] at hframe
  exact hsource s.source st.handle frame hframe hdata

/-- **Whole runs.**  Pixels are asked for whenever the encoder that a frame fits needs them,
exactly if window and frame then have the same padded size; in such a run no frame comes
without pixels; and a frame that does is discarded. -/
theorem pixels_asked_iff [InputSink I] (cfg : Config) (source : W) (sink : I) (targetFps : UInt16)
    (answers : Nat → OsAnswers) (events : List Event) :
    ((∀ turn ∈ pumpTurns cfg events
          (Session.start source (WinEncoderHost.new targetFps answers) sink),
        turn.2.PixelsAsked cfg turn.1) ↔
      ∀ turn ∈ pumpTurns cfg events
          (Session.start source (WinEncoderHost.new targetFps answers) sink),
        turn.2.SizesAgree cfg turn.1) ∧
    (DeliversPixels W →
      (∀ turn ∈ pumpTurns cfg events
          (Session.start source (WinEncoderHost.new targetFps answers) sink),
        turn.2.SizesAgree cfg turn.1) →
      ∀ turn ∈ pumpTurns cfg events
          (Session.start source (WinEncoderHost.new targetFps answers) sink),
        ¬turn.2.Starves cfg turn.1) ∧
    ∀ turn ∈ pumpTurns cfg events
        (Session.start source (WinEncoderHost.new targetFps answers) sink),
      turn.2.Starves cfg turn.1 → turn.2.Discards cfg turn.1 := by
  have hserves := (serves_keeps cfg).atTurns
    (⟨WinFrameEncoder.liveWorks_new targetFps, fun _ _ h => by cases h⟩ :
      Serves cfg (WinEncoderHost.new targetFps answers)) source sink events
  refine ⟨?_, ?_, fun _ _ hstarves => hstarves.discards⟩
  · exact forall_congr' fun turn => forall_congr' fun hturn => pixelsAsked_iff (hserves turn hturn)
  · intro hsource hsizes turn hturn
    exact not_starves hsource ((pixelsAsked_iff (hserves turn hturn)).mpr (hsizes turn hturn))

/-! ## A window that is narrower than its picture -/

/-- `notepad`, whose pictures have a border that the window does not count. -/
inductive BorderedSource where
  | mk
  deriving DecidableEq, Repr

instance : WindowSource BorderedSource where
  liveWindows source := ([notepad], source)
  nextFrame source _ intent :=
    (some
      (match intent with
      | .gpuNv12Preferred => { width := 6, height := 2, data := [], gpuFrame := some ⟨6, 2⟩ }
      | .cpuBgra => { width := 6, height := 2, data := List.replicate 48 0 }), source)

/-- **A window that starves.**  Its encoder was refused input from the GPU, and gets nothing
else. -/
theorem bordered_starves :
    ¬∀ turn ∈ pumpTurns .coded [.tick, .tick]
        (Session.start BorderedSource.mk (WinEncoderHost.new 30 fun _ => .cpuOnly) NoopSink.mk),
      turn.2.PixelsAsked .coded turn.1 := by
  intro h
  have hstarves : (pumpTurns .coded [.tick, .tick]
      (Session.start BorderedSource.mk (WinEncoderHost.new 30 fun _ => .cpuOnly)
        NoopSink.mk)).any (fun turn => (turn.2.fitting .coded turn.1).any fun captured =>
          captureIntent .coded turn.2.encoder captured.1 == .gpuNv12Preferred) = true := by
    decide +kernel
  obtain ⟨turn, hturn, hstarves⟩ := List.any_eq_true.mp hstarves
  obtain ⟨⟨st, frame⟩, hfits, hintent⟩ := (Option.any_eq_true _ _).mp hstarves
  have hasked := h turn hturn st frame hfits
  simp [hasked] at hintent

end Pixels

end Oxrdp
