import Oxrdp.Agent.Nv12
import Oxrdp.Agent.Platform
import Oxrdp.Agent.Reframe
import Oxrdp.Lib.Checked

/-!
# The encoders of Media Foundation

`win/encode.rs` of the agent: a window's encoder is built with the first frame of its window,
and again whenever the coded size changes.  It takes its input from the GPU if the transform
lets it, and otherwise converts captured pixels itself.

What the operating system does is not known: a call comes with the answers (`OsAnswers`) to
whatever it may ask, and any answers will do.  Properties that are set through `ICodecAPI`
have no answer that anybody waits for, and are left out with the diagnostics.

`WinFrameEncoder.submit_cases` says once what a submission can do, and `submit_ok` what it
leaves behind.
-/

namespace Oxrdp

open Raster

/-! ## Padding -/

/-- Round a dimension up to the next even number.  The sum wraps, as in a release build; a
build that checks it stops instead. -/
def padEven (x : UInt16) : UInt16 := x + x % 2

/-- Pad an image up to another size with copies of its last row and column.  The pixels are
written from the first to the last, so the padded image is a list of its rows. -/
def padBgra (src : List UInt8) (srcW srcH : UInt16) (dstW dstH : UInt32) : List UInt8 :=
  let (srcW, srcH) := (srcW.toNat, srcH.toNat)
  let (dstW, dstH) := (dstW.toNat, dstH.toNat)
  if srcW = dstW ∧ srcH = dstH then src
  else
    (List.range dstH).flatMap fun y =>
      let sy := min y (srcH - 1)
      (List.range dstW).flatMap fun x =>
        let sx := min x (srcW - 1)
        let srcI := (sy * srcW + sx) * 4
        if srcI + 4 ≤ src.length then slice src srcI 4 else List.replicate 4 0

/-! ## One window -/

/-- What the operating system answers to what one call may ask. -/
structure OsAnswers where
  /-- `create_unlocked_transform`, for input from the GPU. -/
  transform : Bool
  setupGpuInput : Bool
  /-- `set_media_types`, for input from the GPU. -/
  gpuMediaTypes : Bool
  /-- `create_unlocked_transform`, for input from the CPU. -/
  cpuTransform : Bool
  /-- `set_media_types`, for input from the CPU. -/
  cpuMediaTypes : Bool
  /-- `GetOutputStreamInfo`: whether the transform provides its output samples. -/
  outputStream : Option Bool
  startOfStream : Bool
  /-- Whether a sample could be made and filled. -/
  sample : Bool
  processInput : Bool
  /-- Whether there was memory for an output sample. -/
  outputSample : Bool
  /-- What `ProcessOutput` has produced, if anything. -/
  processOutput : Option (List UInt8)
  deriving DecidableEq, Repr

/-- Answers that refuse input from the GPU, and nothing else. -/
def OsAnswers.cpuOnly : OsAnswers :=
  { transform := true
    setupGpuInput := false
    gpuMediaTypes := false
    cpuTransform := true
    cpuMediaTypes := true
    outputStream := some false
    startOfStream := true
    sample := true
    processInput := true
    outputSample := true
    processOutput := none }

/-- The video processor that turns BGRA textures into NV12 textures of one size. -/
structure GpuNv12Converter where
  width : UInt32
  height : UInt32
  deriving DecidableEq, Repr

inductive InputPath where
  | cpu
  | gpu (converter : GpuNv12Converter)
  deriving DecidableEq, Repr

/-- What a sample is made of: NV12 planes, or a texture to convert. -/
inductive SampleBuffer where
  | planes (nv12 : List UInt8)
  | texture (frame : GpuFrame)
  deriving DecidableEq, Repr

structure InputSample where
  buffer : SampleBuffer
  time : Int64
  duration : Int64
  deriving DecidableEq, Repr

/-- One submitted frame's bookkeeping, kept until `poll` drains it. -/
structure PendingSubmission where
  forceKeyframe : Bool
  deriving DecidableEq, Repr

/-- One window's live encoder. -/
structure WindowEncoder where
  inputPath : InputPath
  /-- The coded size, which never changes. -/
  width : UInt32
  height : UInt32
  providesOutputSamples : Bool
  params : ParamSets
  nextSampleTimeHns : Int64
  frameDurationHns : Int64
  pending : List PendingSubmission
  /-- All that the transform was handed so far, oldest first. -/
  handed : List (InputSample × PendingSubmission)
  deriving DecidableEq, Repr

/-- The coded size that an encoder is built with. -/
def codedSize (x : UInt16) : UInt32 := max (padEven x).toUInt32 2

/-- Where an encoder takes its input from, if it is to be the GPU. -/
def gpuInput (width height : UInt32) (gpuFrame : Option GpuFrame) (os : OsAnswers) :
    Option InputPath :=
  match gpuFrame with
  | some _ => if os.setupGpuInput ∧ os.gpuMediaTypes then some (.gpu ⟨width, height⟩) else none
  | none => none

namespace WindowEncoder

/-- An encoder for frames of a size, unless the operating system refuses it. -/
def new (width height targetFps : UInt16) (gpuFrame : Option GpuFrame) (os : OsAnswers) :
    Option WindowEncoder :=
  let width := codedSize width
  let height := codedSize height
  let gpuInput := gpuInput width height gpuFrame os
  if ¬os.transform then none
  else if gpuInput.isNone ∧ ¬(os.cpuTransform ∧ os.cpuMediaTypes) then none
  else
    match os.outputStream with
    | none => none
    | some providesOutputSamples =>
        if ¬os.startOfStream then none
        else
          some
            { inputPath := gpuInput.getD .cpu
              width
              height
              providesOutputSamples
              params := {}
              nextSampleTimeHns := 0
              frameDurationHns := 10000000 / Int64.ofNat (max targetFps 1).toNat
              pending := []
              handed := [] }

/-- Whether the encoder can still be used for a frame. -/
def matchesFrame (enc : WindowEncoder) (frame : SourceFrame) : Bool :=
  (padEven frame.width).toUInt32 == enc.width && (padEven frame.height).toUInt32 == enc.height

def usesCpuInput (enc : WindowEncoder) : Bool :=
  match enc.inputPath with
  | .cpu => true
  | .gpu _ => false

/-- A sample at the time of the sample clock. -/
def stamped (enc : WindowEncoder) (buffer : SampleBuffer) : InputSample :=
  { buffer, time := enc.nextSampleTimeHns, duration := enc.frameDurationHns }

/-- The sample for a frame, unless it cannot be made. -/
def buildInputSample (enc : WindowEncoder) (frame : SourceFrame) (os : OsAnswers) :
    Checked (Option InputSample) :=
  match enc.inputPath with
  | .gpu converter =>
      match frame.gpuFrame with
      | none => .ok none
      | some gpuFrame =>
          if converter.width < gpuFrame.width ∨ converter.height < gpuFrame.height then .ok none
          else .ok (if os.sample then some (enc.stamped (.texture gpuFrame)) else none)
  | .cpu =>
      let padded := padBgra frame.data frame.width frame.height enc.width enc.height
      match bgraToNv12 padded enc.width.toNat enc.height.toNat with
      | none => .error .assertion
      | some nv12 => .ok (if os.sample then some (enc.stamped (.planes nv12)) else none)

/-- Whether a frame can be made a sample that the transform then takes. -/
def takes (enc : WindowEncoder) (frame : SourceFrame) (os : OsAnswers) : Bool :=
  (match enc.inputPath with
  | .gpu converter =>
      match frame.gpuFrame with
      | none => false
      | some gpuFrame =>
          decide (gpuFrame.width ≤ converter.width ∧ gpuFrame.height ≤ converter.height)
  | .cpu =>
      !frame.data.isEmpty &&
        (bgraToNv12 (padBgra frame.data frame.width frame.height enc.width enc.height)
          enc.width.toNat enc.height.toNat).isSome) && os.sample && os.processInput

/-- Hand a frame to the transform.  One that the transform does not take is dropped. -/
def submit (enc : WindowEncoder) (frame : SourceFrame) (forceKeyframe : Bool) (os : OsAnswers) :
    Checked WindowEncoder :=
  if enc.usesCpuInput ∧ frame.data.isEmpty then .ok enc
  else
    match enc.buildInputSample frame os with
    | .error why => .error why
    | .ok none => .ok enc
    | .ok (some sample) =>
        let enc :=
          { enc with nextSampleTimeHns := enc.nextSampleTimeHns + enc.frameDurationHns }
        if os.processInput then
          .ok { enc with
            pending := enc.pending ++ [{ forceKeyframe }]
            handed := enc.handed ++ [(sample, { forceKeyframe })] }
        else .ok enc

/-- The next access unit, if the transform has produced one. -/
def poll (enc : WindowEncoder) (os : OsAnswers) : Option EncodedFrame × WindowEncoder :=
  if ¬enc.providesOutputSamples ∧ ¬os.outputSample then (none, enc)
  else
    match os.processOutput with
    | none => (none, enc)
    | some raw =>
        let ((data, isIdr), params) := reframe raw enc.params
        let enc := { enc with pending := enc.pending.tail, params }
        if data.isEmpty then (none, enc)
        else
          (some
            { data
              keyframe := isIdr
              width := (min enc.width 65535).toUInt16
              height := (min enc.height 65535).toUInt16 }, enc)

/-! ### What the calls do -/

variable {enc : WindowEncoder} {frame : SourceFrame} {os : OsAnswers}

/-- A new encoder has the size of the frame it was built for, and nothing behind it. -/
theorem new_fresh {width height targetFps : UInt16} {gpuFrame : Option GpuFrame}
    (h : new width height targetFps gpuFrame os = some enc) :
    enc.width = codedSize width ∧ enc.height = codedSize height ∧ enc.pending = [] ∧
      enc.handed = [] := by
  unfold new at h
  grind

/-- What comes of a submission: a sample that the transform takes, or nothing but a tick of
the sample clock, or a failed assertion. -/
inductive Submission (enc : WindowEncoder) (frame : SourceFrame) (forceKeyframe : Bool)
    (os : OsAnswers) : Checked WindowEncoder → Prop
  | taken (sample : InputSample) (h : enc.takes frame os = true) :
      Submission enc frame forceKeyframe os
        (.ok { enc with
          nextSampleTimeHns := enc.nextSampleTimeHns + enc.frameDurationHns
          pending := enc.pending ++ [{ forceKeyframe }]
          handed := enc.handed ++ [(sample, { forceKeyframe })] })
  | dropped (time : Int64) (h : enc.takes frame os = false) :
      Submission enc frame forceKeyframe os (.ok { enc with nextSampleTimeHns := time })
  | stopped (h : enc.takes frame os = false) (hpixels : frame.data ≠ [])
      (hplanes : bgraToNv12 (padBgra frame.data frame.width frame.height enc.width enc.height)
        enc.width.toNat enc.height.toNat = none) :
      Submission enc frame forceKeyframe os (.error .assertion)

/-- A frame is taken if a sample can be built of it and the transform accepts that. -/
theorem takes_iff_built (hpixels : ¬(enc.usesCpuInput = true ∧ frame.data.isEmpty = true)) :
    enc.takes frame os = true ↔
      ∃ sample, enc.buildInputSample frame os = .ok (some sample) ∧ os.processInput = true := by
  unfold takes buildInputSample
  unfold usesCpuInput at hpixels
  cases hpath : enc.inputPath with
  | gpu converter =>
      cases frame.gpuFrame with
      | none => simp
      | some gpuFrame =>
          by_cases hfits : converter.width < gpuFrame.width ∨ converter.height < gpuFrame.height
          · have hlarge : ¬(gpuFrame.width ≤ converter.width ∧ gpuFrame.height ≤ converter.height) := by
              grind
            simp [hfits, hlarge]
          · have hsmall : gpuFrame.width ≤ converter.width ∧ gpuFrame.height ≤ converter.height := by
              grind
            cases os.sample <;> simp [hfits, hsmall]
  | cpu =>
      have hdata : frame.data.isEmpty = false := by simpa [hpath] using hpixels
      cases hplanes : bgraToNv12 (padBgra frame.data frame.width frame.height enc.width enc.height)
        enc.width.toNat enc.height.toNat with
      | none => simp [hplanes]
      | some nv12 => cases os.sample <;> simp [hdata, hplanes]

/-- Only the conversion of pixels can stop the program. -/
theorem buildInputSample_error {why : Panic} (h : enc.buildInputSample frame os = .error why) :
    why = .assertion ∧ enc.usesCpuInput = true ∧
      bgraToNv12 (padBgra frame.data frame.width frame.height enc.width enc.height)
        enc.width.toNat enc.height.toNat = none := by
  unfold buildInputSample at h
  unfold usesCpuInput
  grind

theorem submit_cases (enc : WindowEncoder) (frame : SourceFrame) (forceKeyframe : Bool)
    (os : OsAnswers) : Submission enc frame forceKeyframe os (enc.submit frame forceKeyframe os) := by
  unfold submit
  by_cases hpixels : enc.usesCpuInput = true ∧ frame.data.isEmpty = true
  · rw [if_pos hpixels]
    refine .dropped enc.nextSampleTimeHns ?_
    unfold takes usesCpuInput at *
    grind
  · rw [if_neg hpixels]
    have htakes := @takes_iff_built enc frame os hpixels
    cases hbuilt : enc.buildInputSample frame os with
    | error why =>
        obtain ⟨rfl, hcpu, hplanes⟩ := buildInputSample_error hbuilt
        have hdata : frame.data ≠ [] := fun hempty => hpixels ⟨hcpu, by rw [hempty]; rfl⟩
        exact .stopped (by grind) hdata hplanes
    | ok built =>
        cases built with
        | none => exact .dropped enc.nextSampleTimeHns (by grind)
        | some sample =>
            by_cases hinput : os.processInput = true
            · simp only [hinput, if_true]
              exact .taken sample (htakes.mpr ⟨sample, hbuilt, hinput⟩)
            · simp only [hinput]
              exact .dropped _ (by grind)

end WindowEncoder

/-! ## All windows -/

/-- The encoders of the windows, and the sizes at which none could be built. -/
structure WinFrameEncoder where
  targetFps : UInt16
  encoders : Table Handle WindowEncoder
  failed : Table Handle (UInt16 × UInt16)

namespace WinFrameEncoder

def new (targetFps : UInt16) : WinFrameEncoder := { targetFps, encoders := ∅, failed := ∅ }

def needsRebuild (e : WinFrameEncoder) (handle : Handle) (frame : SourceFrame) : Bool :=
  match e.encoders.lookup handle with
  | some enc => !enc.matchesFrame frame
  | none => true

/-- Build an encoder for a frame.  The flag tells whether the frame goes on to it: pixels that
the new encoder would have to convert may not have been captured. -/
def rebuild (e : WinFrameEncoder) (handle : Handle) (frame : SourceFrame) (os : OsAnswers) :
    WinFrameEncoder × Bool :=
  match WindowEncoder.new frame.width frame.height e.targetFps frame.gpuFrame os with
  | some enc =>
      ({ e with
          encoders := e.encoders.insert handle enc
          failed := e.failed.erase handle },
        !(enc.usesCpuInput && frame.data.isEmpty))
  | none =>
      ({ e with
          encoders := e.encoders.erase handle
          failed := e.failed.insert handle (frame.width, frame.height) },
        false)

/-- `get_mut` and `WindowEncoder::submit`. -/
def hand (e : WinFrameEncoder) (handle : Handle) (frame : SourceFrame) (forceKeyframe : Bool)
    (os : OsAnswers) : Checked WinFrameEncoder :=
  match e.encoders.lookup handle with
  | none => .ok e
  | some enc =>
      match enc.submit frame forceKeyframe os with
      | .error why => .error why
      | .ok enc => .ok { e with encoders := e.encoders.insert handle enc }

def submit (e : WinFrameEncoder) (handle : Handle) (frame : SourceFrame) (forceKeyframe : Bool)
    (os : OsAnswers) : Checked WinFrameEncoder :=
  if e.failed.lookup handle = some (frame.width, frame.height) then .ok e
  else
    let needsRebuild := e.needsRebuild handle frame
    let (e, goesOn) := if needsRebuild then e.rebuild handle frame os else (e, true)
    if goesOn then e.hand handle frame (forceKeyframe || needsRebuild) os else .ok e

def poll (e : WinFrameEncoder) (handle : Handle) (os : OsAnswers) :
    Option EncodedFrame × WinFrameEncoder :=
  match e.encoders.lookup handle with
  | none => (none, e)
  | some enc =>
      let (encoded, enc) := enc.poll os
      (encoded, { e with encoders := e.encoders.insert handle enc })

def forget (e : WinFrameEncoder) (handle : Handle) : WinFrameEncoder :=
  { e with encoders := e.encoders.erase handle, failed := e.failed.erase handle }

def wantsCpuFrame (e : WinFrameEncoder) (handle : Handle) (width height : UInt16) : Bool :=
  match e.encoders.lookup handle with
  | none => false
  | some enc =>
      enc.usesCpuInput && enc.width == (padEven width).toUInt32 &&
        enc.height == (padEven height).toUInt32

def hasFailed (e : WinFrameEncoder) (handle : Handle) : Bool := (e.failed.lookup handle).isSome

/-! ### What the calls do -/

/-- With another state of one window's encoder. -/
def withEncoder (e : WinFrameEncoder) (handle : Handle) (enc : WindowEncoder) : WinFrameEncoder :=
  { e with encoders := e.encoders.insert handle enc }

/-- What comes of a submission: a size that has failed before is not tried again, and
otherwise the frame goes to the window's encoder, which may have to be built first. -/
inductive Submission (e : WinFrameEncoder) (handle : Handle) (frame : SourceFrame)
    (forceKeyframe : Bool) (os : OsAnswers) : Checked WinFrameEncoder → Prop
  | broken (hfailed : e.failed.lookup handle = some (frame.width, frame.height)) :
      Submission e handle frame forceKeyframe os (.ok e)
  | refused (hrebuild : e.needsRebuild handle frame = true) :
      Submission e handle frame forceKeyframe os
        (.ok { e with
          encoders := e.encoders.erase handle
          failed := e.failed.insert handle (frame.width, frame.height) })
  | rebuilt {enc : WindowEncoder} (hrebuild : e.needsRebuild handle frame = true)
      (hnew : WindowEncoder.new frame.width frame.height e.targetFps frame.gpuFrame os = some enc) :
      Submission e handle frame forceKeyframe os
        ((enc.submit frame true os).map
          ({ e with failed := e.failed.erase handle }.withEncoder handle))
  | kept {enc : WindowEncoder} (hlive : e.encoders.lookup handle = some enc)
      (hmatches : enc.matchesFrame frame = true) :
      Submission e handle frame forceKeyframe os
        ((enc.submit frame forceKeyframe os).map (e.withEncoder handle))

theorem hand_live {e : WinFrameEncoder} {handle : Handle} {enc : WindowEncoder}
    (hlive : e.encoders.lookup handle = some enc) (frame : SourceFrame) (forceKeyframe : Bool)
    (os : OsAnswers) :
    e.hand handle frame forceKeyframe os =
      (enc.submit frame forceKeyframe os).map (e.withEncoder handle) := by
  unfold hand
  rw [hlive]
  dsimp only
  cases enc.submit frame forceKeyframe os with
  | error why => rfl
  | ok enc' => rfl

theorem submit_cases (e : WinFrameEncoder) (handle : Handle) (frame : SourceFrame)
    (forceKeyframe : Bool) (os : OsAnswers) :
    Submission e handle frame forceKeyframe os (e.submit handle frame forceKeyframe os) := by
  unfold submit
  by_cases hfailed : e.failed.lookup handle = some (frame.width, frame.height)
  · rw [if_pos hfailed]
    exact .broken hfailed
  rw [if_neg hfailed]
  cases hrebuild : e.needsRebuild handle frame with
  | true =>
      cases hnew : WindowEncoder.new frame.width frame.height e.targetFps frame.gpuFrame os with
      | none =>
          simp only [rebuild, hnew]
          exact .refused hrebuild
      | some enc =>
          have hrebuilt := @Submission.rebuilt e handle frame forceKeyframe os enc hrebuild hnew
          have hsame : (({ e with
                encoders := e.encoders.insert handle enc
                failed := e.failed.erase handle } : WinFrameEncoder).withEncoder handle) =
              ({ e with failed := e.failed.erase handle } : WinFrameEncoder).withEncoder handle := by
            funext enc'
            simp only [withEncoder, AList.insert_insert]
          by_cases hpixels : enc.usesCpuInput = true ∧ frame.data.isEmpty = true
          · -- the encoder is there, and drops the frame without pixels itself
            rw [WindowEncoder.submit, if_pos hpixels] at hrebuilt
            simpa [rebuild, hnew, hpixels.1, hpixels.2, Except.map, withEncoder] using hrebuilt
          · have hgoes : (!(enc.usesCpuInput && frame.data.isEmpty)) = true := by grind
            simp only [rebuild, hnew, hgoes, Bool.or_true, if_true]
            rw [hand_live (AList.lookup_insert _), hsame]
            exact hrebuilt
  | false =>
      cases hlive : e.encoders.lookup handle with
      | none => simp [needsRebuild, hlive] at hrebuild
      | some enc =>
          have hmatches : enc.matchesFrame frame = true := by
            simpa [needsRebuild, hlive] using hrebuild
          simp only [Bool.or_false]
          have hhand := hand_live hlive frame forceKeyframe os
          simp only [Bool.false_eq_true, if_false, if_true, hhand]
          exact .kept hlive hmatches

/-- What a submission leaves behind that does not stop the program. -/
inductive Submitted (e : WinFrameEncoder) (handle : Handle) (frame : SourceFrame)
    (forceKeyframe : Bool) (os : OsAnswers) : WinFrameEncoder → Prop
  | broken (hfailed : e.failed.lookup handle = some (frame.width, frame.height)) :
      Submitted e handle frame forceKeyframe os e
  | refused (hrebuild : e.needsRebuild handle frame = true) :
      Submitted e handle frame forceKeyframe os
        { e with
          encoders := e.encoders.erase handle
          failed := e.failed.insert handle (frame.width, frame.height) }
  | rebuilt {enc enc' : WindowEncoder} (hrebuild : e.needsRebuild handle frame = true)
      (hnew : WindowEncoder.new frame.width frame.height e.targetFps frame.gpuFrame os = some enc)
      (henc' : enc.submit frame true os = .ok enc') :
      Submitted e handle frame forceKeyframe os
        ({ e with failed := e.failed.erase handle }.withEncoder handle enc')
  | kept {enc enc' : WindowEncoder} (hlive : e.encoders.lookup handle = some enc)
      (hmatches : enc.matchesFrame frame = true)
      (henc' : enc.submit frame forceKeyframe os = .ok enc') :
      Submitted e handle frame forceKeyframe os (e.withEncoder handle enc')

/-- What one encoder's submission leaves behind is put back in its place. -/
theorem of_map_submit {e e' : WinFrameEncoder} {handle : Handle} {enc : WindowEncoder}
    {frame : SourceFrame} {forceKeyframe : Bool} {os : OsAnswers}
    (h : (enc.submit frame forceKeyframe os).map (e.withEncoder handle) = .ok e') :
    ∃ enc', enc.submit frame forceKeyframe os = .ok enc' ∧ e' = e.withEncoder handle enc' := by
  cases hsubmit : enc.submit frame forceKeyframe os with
  | error why =>
      rw [hsubmit] at h
      cases h
  | ok enc' =>
      rw [hsubmit] at h
      cases h
      exact ⟨enc', rfl, rfl⟩

theorem submit_ok {e e' : WinFrameEncoder} {handle : Handle} {frame : SourceFrame}
    {forceKeyframe : Bool} {os : OsAnswers}
    (h : e.submit handle frame forceKeyframe os = .ok e') :
    Submitted e handle frame forceKeyframe os e' := by
  have hcases := e.submit_cases handle frame forceKeyframe os
  generalize e.submit handle frame forceKeyframe os = result at hcases h
  cases hcases with
  | broken hfailed =>
      cases h
      exact .broken hfailed
  | refused hrebuild =>
      cases h
      exact .refused hrebuild
  | rebuilt hrebuild hnew =>
      obtain ⟨enc', henc', rfl⟩ := of_map_submit h
      exact .rebuilt hrebuild hnew henc'
  | kept hlive hmatches =>
      obtain ⟨enc', henc', rfl⟩ := of_map_submit h
      exact .kept hlive hmatches henc'

end WinFrameEncoder

end Oxrdp
