import Oxrdp.Agent.Registry

/-!
# What the session driver needs from the platform

The traits behind which the agent's platform sits (`WindowSource` of
`serve.rs`, `FrameEncoder` of `encode.rs`, `InputSink` of `input.rs`).  An
implementation is a type with its own state; a method with a mutable receiver
returns the new state.
-/

namespace Oxrdp

/-- A window the platform is offering, as the driver needs to see it. -/
structure SourceWindow where
  handle : Handle
  pid : UInt32
  appId : String
  title : String
  x : Int32
  y : Int32
  width : UInt16
  height : UInt16
  dpi : UInt16
  minimized : Bool
  maximized : Bool
  resizable : Bool
  hasFrame : Bool
  topmost : Bool
  deriving DecidableEq, Repr

/-- The size of a texture that was captured on the GPU. -/
structure GpuFrame where
  width : UInt32
  height : UInt32
  deriving DecidableEq, Repr

/-- A captured frame; `data` is empty for a frame that stayed on the GPU.  Only Windows has
such frames. -/
structure SourceFrame where
  width : UInt16
  height : UInt16
  data : List UInt8
  gpuFrame : Option GpuFrame := none
  deriving DecidableEq, Repr

/-- Which representation the driver wants from the platform. -/
inductive CaptureIntent where
  | cpuBgra
  | gpuNv12Preferred
  deriving DecidableEq, Repr

/-- One encoded access unit. -/
structure EncodedFrame where
  data : List UInt8
  keyframe : Bool
  width : UInt16
  height : UInt16
  deriving DecidableEq, Repr

class WindowSource (W : Type) where
  /-- The windows that can be shared right now. -/
  liveWindows : W → List SourceWindow × W
  /-- The next frame of a window, if a new one has been captured. -/
  nextFrame : W → Handle → CaptureIntent → Option SourceFrame × W

class FrameEncoder (E : Type) where
  submit : E → Handle → SourceFrame → Bool → E
  poll : E → Handle → Option EncodedFrame × E
  forget : E → Handle → E
  wantsCpuFrame : E → Handle → UInt16 → UInt16 → Bool
  failed : E → Handle → Bool

class InputSink (I : Type) where
  pointerEvent : I → Handle → Int32 → Int32 → UInt8 → Int16 → Int16 → I
  keyEvent : I → UInt16 → Bool → Bool → I
  textInput : I → String → I
  modifierSync : I → UInt16 → UInt8 → I
  windowControl : I → Handle → UInt8 → Int32 → Int32 → UInt16 → UInt16 → I

/-! ## Platforms that follow a script -/

/-- A source that shows one snapshot after the other, staying with the last, and
has the same frame ready whenever it is asked. -/
structure ScriptedSource where
  shots : List (List SourceWindow)
  frame : Option SourceFrame
  deriving DecidableEq, Repr

instance : WindowSource ScriptedSource where
  liveWindows
    | ⟨[], frame⟩ => ([], ⟨[], frame⟩)
    | ⟨[last], frame⟩ => (last, ⟨[last], frame⟩)
    | ⟨shot :: shots, frame⟩ => (shot, ⟨shots, frame⟩)
  nextFrame source _ _ := (source.frame, source)

/-- The window of the driver's own tests. -/
def notepad : SourceWindow :=
  { handle := 0x1000
    pid := 42
    appId := "notepad.exe"
    title := "Untitled"
    x := 10
    y := 20
    width := 4
    height := 1
    dpi := 96
    minimized := false
    maximized := false
    resizable := true
    hasFrame := true
    topmost := false }

/-- A window that has a new frame at every tick. -/
def busyScript : ScriptedSource :=
  { shots := [[notepad]]
    frame := some { width := 1, height := 1, data := [0xAB, 0xAB, 0xAB, 0xFF] } }

/-- An encoder that never has anything ready. -/
inductive NoopEncoder where
  | mk
  deriving DecidableEq, Repr

instance : FrameEncoder NoopEncoder where
  submit encoder _ _ _ := encoder
  poll encoder _ := (none, encoder)
  forget encoder _ := encoder
  wantsCpuFrame _ _ _ _ := false
  failed _ _ := false

/-- A sink that drops all input. -/
inductive NoopSink where
  | mk
  deriving DecidableEq, Repr

instance : InputSink NoopSink where
  pointerEvent sink _ _ _ _ _ _ := sink
  keyEvent sink _ _ _ := sink
  textInput sink _ := sink
  modifierSync sink _ _ := sink
  windowControl sink _ _ _ _ _ _ := sink

end Oxrdp
