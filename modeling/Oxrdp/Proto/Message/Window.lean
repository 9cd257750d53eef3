import Oxrdp.Proto.Wire

/-!
# Window lifecycle and video messages

`message/window.rs`: the flag bits, the show states, and the bodies the agent
sends about a window, with the client's `FrameAck`.
-/

namespace Oxrdp

open Coder

/-! ## Bits in `WindowOpened.flags` and `WindowState.flags` -/

namespace WindowFlag

def resizable : UInt32 := 0x01
def hasFrame : UInt32 := 0x02
def topmost : UInt32 := 0x04
def minimized : UInt32 := 0x08
def maximized : UInt32 := 0x10

end WindowFlag

/-! ## Values for `WindowState.state` -/

namespace WindowShow

def normal : UInt8 := 0
def minimized : UInt8 := 1
def maximized : UInt8 := 2

end WindowShow

/-- Codec identifiers. -/
def Codec.rawBgra : UInt8 := 1
def Codec.h264 : UInt8 := 2

/-- Bit of `FrameData.flags`: decodable without any earlier frame. -/
def FrameFlag.keyframe : UInt8 := 0x01

/-- A window has been opened on the remote side. -/
structure WindowOpened where
  windowId : UInt32
  videoChannel : UInt16
  pid : UInt32
  appId : String
  title : String
  x : Int32
  y : Int32
  width : UInt16
  height : UInt16
  dpi : UInt16
  flags : UInt32
  ownerId : UInt32
  deriving DecidableEq, Repr

namespace WindowOpened

def size (m : WindowOpened) : Nat :=
  4 + 2 + 4 + stringSize m.appId + stringSize m.title + 4 + 4 + 2 + 2 + 2 + 4 + 4

def encode (m : WindowOpened) : Encoder Unit := do
  writeU32Le m.windowId "WindowOpened.window_id"
  writeU16Le m.videoChannel "WindowOpened.video_channel"
  writeU32Le m.pid "WindowOpened.pid"
  writeString m.appId "WindowOpened.app_id"
  writeString m.title "WindowOpened.title"
  writeI32 m.x "WindowOpened.x"
  writeI32 m.y "WindowOpened.y"
  writeU16Le m.width "WindowOpened.width"
  writeU16Le m.height "WindowOpened.height"
  writeU16Le m.dpi "WindowOpened.dpi"
  writeU32Le m.flags "WindowOpened.flags"
  writeU32Le m.ownerId "WindowOpened.owner_id"
  pure ()

def decode : Decoder WindowOpened := do
  let windowId ← readU32Le "WindowOpened.window_id"
  let videoChannel ← readU16Le "WindowOpened.video_channel"
  let pid ← readU32Le "WindowOpened.pid"
  let appId ← readString "WindowOpened.app_id"
  let title ← readString "WindowOpened.title"
  let x ← readI32 "WindowOpened.x"
  let y ← readI32 "WindowOpened.y"
  let width ← readU16Le "WindowOpened.width"
  let height ← readU16Le "WindowOpened.height"
  let dpi ← readU16Le "WindowOpened.dpi"
  let flags ← readU32Le "WindowOpened.flags"
  let ownerId ← readU32Le "WindowOpened.owner_id"
  pure { windowId, videoChannel, pid, appId, title, x, y, width, height, dpi, flags,
         ownerId }

/-- A window comes back as it was opened, its two names included. -/
theorem roundTrip (m : WindowOpened) : RoundTrip m.encode decode m := by
  refine (writeU32Le_roundTrip m.windowId _ _).bind ?_
  refine (writeU16Le_roundTrip m.videoChannel _ _).bind ?_
  refine (writeU32Le_roundTrip m.pid _ _).bind ?_
  refine (writeString_roundTrip m.appId _ _).bind ?_
  refine (writeString_roundTrip m.title _ _).bind ?_
  refine (writeI32_roundTrip m.x _ _).bind ?_
  refine (writeI32_roundTrip m.y _ _).bind ?_
  refine (writeU16Le_roundTrip m.width _ _).bind ?_
  refine (writeU16Le_roundTrip m.height _ _).bind ?_
  refine (writeU16Le_roundTrip m.dpi _ _).bind ?_
  refine (writeU32Le_roundTrip m.flags _ _).bind ?_
  refine (writeU32Le_roundTrip m.ownerId _ _).bind ?_
  exact RoundTrip.pure m

/-- Its length is that of its two strings and 32 bytes. -/
theorem writes (m : WindowOpened) : Writes m.encode m.size :=
  Writes.of_eq
    ((writeU32Le_writes m.windowId _).bind <|
      (writeU16Le_writes m.videoChannel _).bind <|
      (writeU32Le_writes m.pid _).bind <|
      (writeString_writes m.appId _).bind <|
      (writeString_writes m.title _).bind <|
      (writeI32_writes m.x _).bind <|
      (writeI32_writes m.y _).bind <|
      (writeU16Le_writes m.width _).bind <|
      (writeU16Le_writes m.height _).bind <|
      (writeU16Le_writes m.dpi _).bind <|
      (writeU32Le_writes m.flags _).bind <|
      (writeU32Le_writes m.ownerId _).bind <|
      Writes.pure)
    (by simp only [size]; omega)

/-- The bytes of a window that was read are those of that window. -/
theorem undoes : Undoes encode decode := by
  apply UndoesIn.undoes
  apply (readU32Le_undoes _).field
  intro windowId _
  apply (readU16Le_undoes _).field
  intro videoChannel _
  apply (readU32Le_undoes _).field
  intro pid _
  apply (readString_undoes _).field
  intro appId _
  apply (readString_undoes _).field
  intro title _
  apply (readI32_undoes _).field
  intro x _
  apply (readI32_undoes _).field
  intro y _
  apply (readU16Le_undoes _).field
  intro width _
  apply (readU16Le_undoes _).field
  intro height _
  apply (readU16Le_undoes _).field
  intro dpi _
  apply (readU32Le_undoes _).field
  intro flags _
  apply (readU32Le_undoes _).field
  intro ownerId _
  exact UndoesIn.done rfl

end WindowOpened

/-- A window has been closed. -/
structure WindowClosed where
  windowId : UInt32
  deriving DecidableEq, Repr

namespace WindowClosed

def size (_ : WindowClosed) : Nat := 4

def encode (m : WindowClosed) : Encoder Unit := do
  writeU32Le m.windowId "WindowClosed.window_id"
  pure ()

def decode : Decoder WindowClosed := do
  let windowId ← readU32Le "WindowClosed.window_id"
  pure { windowId }

/-- The window that was closed comes back. -/
theorem roundTrip (m : WindowClosed) : RoundTrip m.encode decode m := by
  refine (writeU32Le_roundTrip m.windowId _ _).bind ?_
  exact RoundTrip.pure m

/-- `encode` writes as many bytes as `size` says. -/
theorem writes (m : WindowClosed) : Writes m.encode m.size :=
  Writes.of_eq
    ((writeU32Le_writes m.windowId _).bind <|
      Writes.pure)
    rfl

/-- The id is all that is read. -/
theorem undoes : Undoes encode decode := by
  apply UndoesIn.undoes
  apply (readU32Le_undoes _).field
  intro windowId _
  exact UndoesIn.done rfl

end WindowClosed

/-- Window geometry update. -/
structure WindowGeometry where
  windowId : UInt32
  x : Int32
  y : Int32
  width : UInt16
  height : UInt16
  deriving DecidableEq, Repr

namespace WindowGeometry

def size (_ : WindowGeometry) : Nat := 16

def encode (m : WindowGeometry) : Encoder Unit := do
  writeU32Le m.windowId "WindowGeometry.window_id"
  writeI32 m.x "WindowGeometry.x"
  writeI32 m.y "WindowGeometry.y"
  writeU16Le m.width "WindowGeometry.width"
  writeU16Le m.height "WindowGeometry.height"
  pure ()

def decode : Decoder WindowGeometry := do
  let windowId ← readU32Le "WindowGeometry.window_id"
  let x ← readI32 "WindowGeometry.x"
  let y ← readI32 "WindowGeometry.y"
  let width ← readU16Le "WindowGeometry.width"
  let height ← readU16Le "WindowGeometry.height"
  pure { windowId, x, y, width, height }

/-- A geometry comes back. -/
theorem roundTrip (m : WindowGeometry) : RoundTrip m.encode decode m := by
  refine (writeU32Le_roundTrip m.windowId _ _).bind ?_
  refine (writeI32_roundTrip m.x _ _).bind ?_
  refine (writeI32_roundTrip m.y _ _).bind ?_
  refine (writeU16Le_roundTrip m.width _ _).bind ?_
  refine (writeU16Le_roundTrip m.height _ _).bind ?_
  exact RoundTrip.pure m

/-- `encode` writes as many bytes as `size` says. -/
theorem writes (m : WindowGeometry) : Writes m.encode m.size :=
  Writes.of_eq
    ((writeU32Le_writes m.windowId _).bind <|
      (writeI32_writes m.x _).bind <|
      (writeI32_writes m.y _).bind <|
      (writeU16Le_writes m.width _).bind <|
      (writeU16Le_writes m.height _).bind <|
      Writes.pure)
    rfl

/-- A geometry that was read has the bytes that it was read from. -/
theorem undoes : Undoes encode decode := by
  apply UndoesIn.undoes
  apply (readU32Le_undoes _).field
  intro windowId _
  apply (readI32_undoes _).field
  intro x _
  apply (readI32_undoes _).field
  intro y _
  apply (readU16Le_undoes _).field
  intro width _
  apply (readU16Le_undoes _).field
  intro height _
  exact UndoesIn.done rfl

end WindowGeometry

/-- Window title update. -/
structure WindowTitle where
  windowId : UInt32
  title : String
  deriving DecidableEq, Repr

namespace WindowTitle

def size (m : WindowTitle) : Nat := 4 + stringSize m.title

def encode (m : WindowTitle) : Encoder Unit := do
  writeU32Le m.windowId "WindowTitle.window_id"
  writeString m.title "WindowTitle.title"
  pure ()

def decode : Decoder WindowTitle := do
  let windowId ← readU32Le "WindowTitle.window_id"
  let title ← readString "WindowTitle.title"
  pure { windowId, title }

/-- A title comes back. -/
theorem roundTrip (m : WindowTitle) : RoundTrip m.encode decode m := by
  refine (writeU32Le_roundTrip m.windowId _ _).bind ?_
  refine (writeString_roundTrip m.title _ _).bind ?_
  exact RoundTrip.pure m

/-- `encode` writes as many bytes as `size` says. -/
theorem writes (m : WindowTitle) : Writes m.encode m.size :=
  Writes.of_eq
    ((writeU32Le_writes m.windowId _).bind <|
      (writeString_writes m.title _).bind <|
      Writes.pure)
    (by simp only [size]; omega)

/-- A title that was read has the bytes that it was read from. -/
theorem undoes : Undoes encode decode := by
  apply UndoesIn.undoes
  apply (readU32Le_undoes _).field
  intro windowId _
  apply (readString_undoes _).field
  intro title _
  exact UndoesIn.done rfl

end WindowTitle

/-- Window state update: the complete show state and flags, never a delta. -/
structure WindowState where
  windowId : UInt32
  state : UInt8
  flags : UInt32
  deriving DecidableEq, Repr

namespace WindowState

def size (_ : WindowState) : Nat := 9

def encode (m : WindowState) : Encoder Unit := do
  writeU32Le m.windowId "WindowState.window_id"
  writeU8 m.state "WindowState.state"
  writeU32Le m.flags "WindowState.flags"
  pure ()

def decode : Decoder WindowState := do
  let windowId ← readU32Le "WindowState.window_id"
  let state ← readU8 "WindowState.state"
  let flags ← readU32Le "WindowState.flags"
  pure { windowId, state, flags }

/-- A state comes back with its flags. -/
theorem roundTrip (m : WindowState) : RoundTrip m.encode decode m := by
  refine (writeU32Le_roundTrip m.windowId _ _).bind ?_
  refine (writeU8_roundTrip m.state _ _).bind ?_
  refine (writeU32Le_roundTrip m.flags _ _).bind ?_
  exact RoundTrip.pure m

/-- `encode` writes as many bytes as `size` says. -/
theorem writes (m : WindowState) : Writes m.encode m.size :=
  Writes.of_eq
    ((writeU32Le_writes m.windowId _).bind <|
      (writeU8_writes m.state _).bind <|
      (writeU32Le_writes m.flags _).bind <|
      Writes.pure)
    rfl

/-- A state that was read has the bytes that it was read from. -/
theorem undoes : Undoes encode decode := by
  apply UndoesIn.undoes
  apply (readU32Le_undoes _).field
  intro windowId _
  apply (readU8_undoes _).field
  intro state _
  apply (readU32Le_undoes _).field
  intro flags _
  exact UndoesIn.done rfl

end WindowState

/-- Window z-order update (0 = bottom). -/
structure WindowZOrder where
  windowId : UInt32
  aboveWindowId : UInt32
  deriving DecidableEq, Repr

namespace WindowZOrder

def size (_ : WindowZOrder) : Nat := 8

def encode (m : WindowZOrder) : Encoder Unit := do
  writeU32Le m.windowId "WindowZOrder.window_id"
  writeU32Le m.aboveWindowId "WindowZOrder.above_window_id"
  pure ()

def decode : Decoder WindowZOrder := do
  let windowId ← readU32Le "WindowZOrder.window_id"
  let aboveWindowId ← readU32Le "WindowZOrder.above_window_id"
  pure { windowId, aboveWindowId }

/-- A place in the stack comes back. -/
theorem roundTrip (m : WindowZOrder) : RoundTrip m.encode decode m := by
  refine (writeU32Le_roundTrip m.windowId _ _).bind ?_
  refine (writeU32Le_roundTrip m.aboveWindowId _ _).bind ?_
  exact RoundTrip.pure m

/-- `encode` writes as many bytes as `size` says. -/
theorem writes (m : WindowZOrder) : Writes m.encode m.size :=
  Writes.of_eq
    ((writeU32Le_writes m.windowId _).bind <|
      (writeU32Le_writes m.aboveWindowId _).bind <|
      Writes.pure)
    rfl

/-- A place that was read has the bytes that it was read from. -/
theorem undoes : Undoes encode decode := by
  apply UndoesIn.undoes
  apply (readU32Le_undoes _).field
  intro windowId _
  apply (readU32Le_undoes _).field
  intro aboveWindowId _
  exact UndoesIn.done rfl

end WindowZOrder

/-- Window icon update. -/
structure WindowIcon where
  windowId : UInt32
  width : UInt16
  height : UInt16
  bgra : List UInt8
  deriving DecidableEq, Repr

namespace WindowIcon

def size (m : WindowIcon) : Nat := 4 + 2 + 2 + 4 + m.bgra.length

def encode (m : WindowIcon) : Encoder Unit := do
  writeU32Le m.windowId "WindowIcon.window_id"
  writeU16Le m.width "WindowIcon.width"
  writeU16Le m.height "WindowIcon.height"
  writeBlob m.bgra "WindowIcon.bgra"
  pure ()

def decode : Decoder WindowIcon := do
  let windowId ← readU32Le "WindowIcon.window_id"
  let width ← readU16Le "WindowIcon.width"
  let height ← readU16Le "WindowIcon.height"
  let bgra ← readBlob "WindowIcon.bgra"
  pure { windowId, width, height, bgra }

/-- An icon comes back with its pixels. -/
theorem roundTrip (m : WindowIcon) : RoundTrip m.encode decode m := by
  refine (writeU32Le_roundTrip m.windowId _ _).bind ?_
  refine (writeU16Le_roundTrip m.width _ _).bind ?_
  refine (writeU16Le_roundTrip m.height _ _).bind ?_
  refine (writeBlob_roundTrip m.bgra _ _).bind ?_
  exact RoundTrip.pure m

/-- `encode` writes as many bytes as `size` says. -/
theorem writes (m : WindowIcon) : Writes m.encode m.size :=
  Writes.of_eq
    ((writeU32Le_writes m.windowId _).bind <|
      (writeU16Le_writes m.width _).bind <|
      (writeU16Le_writes m.height _).bind <|
      (writeBlob_writes m.bgra _).bind <|
      Writes.pure)
    (by simp only [size]; omega)

/-- An icon that was read has the bytes that it was read from. -/
theorem undoes : Undoes encode decode := by
  apply UndoesIn.undoes
  apply (readU32Le_undoes _).field
  intro windowId _
  apply (readU16Le_undoes _).field
  intro width _
  apply (readU16Le_undoes _).field
  intro height _
  apply (readBlob_undoes _).field
  intro bgra _
  exact UndoesIn.done rfl

end WindowIcon

/-- Encoded video frame payload: exactly one access unit. -/
structure FrameData where
  windowId : UInt32
  frameId : UInt64
  codec : UInt8
  flags : UInt8
  width : UInt16
  height : UInt16
  capturedUs : UInt64
  encodedUs : UInt64
  data : List UInt8
  deriving DecidableEq, Repr

namespace FrameData

def size (m : FrameData) : Nat :=
  4 + 8 + 1 + 1 + 2 + 2 + 8 + 8 + 4 + m.data.length

def encode (m : FrameData) : Encoder Unit := do
  writeU32Le m.windowId "FrameData.window_id"
  writeU64 m.frameId "FrameData.frame_id"
  writeU8 m.codec "FrameData.codec"
  writeU8 m.flags "FrameData.flags"
  writeU16Le m.width "FrameData.width"
  writeU16Le m.height "FrameData.height"
  writeU64 m.capturedUs "FrameData.captured_us"
  writeU64 m.encodedUs "FrameData.encoded_us"
  writeBlob m.data "FrameData.data"
  pure ()

def decode : Decoder FrameData := do
  let windowId ← readU32Le "FrameData.window_id"
  let frameId ← readU64 "FrameData.frame_id"
  let codec ← readU8 "FrameData.codec"
  let flags ← readU8 "FrameData.flags"
  let width ← readU16Le "FrameData.width"
  let height ← readU16Le "FrameData.height"
  let capturedUs ← readU64 "FrameData.captured_us"
  let encodedUs ← readU64 "FrameData.encoded_us"
  let data ← readBlob "FrameData.data"
  pure { windowId, frameId, codec, flags, width, height, capturedUs, encodedUs, data }

/-- A frame comes back, header and payload. -/
theorem roundTrip (m : FrameData) : RoundTrip m.encode decode m := by
  refine (writeU32Le_roundTrip m.windowId _ _).bind ?_
  refine (writeU64_roundTrip m.frameId _ _).bind ?_
  refine (writeU8_roundTrip m.codec _ _).bind ?_
  refine (writeU8_roundTrip m.flags _ _).bind ?_
  refine (writeU16Le_roundTrip m.width _ _).bind ?_
  refine (writeU16Le_roundTrip m.height _ _).bind ?_
  refine (writeU64_roundTrip m.capturedUs _ _).bind ?_
  refine (writeU64_roundTrip m.encodedUs _ _).bind ?_
  refine (writeBlob_roundTrip m.data _ _).bind ?_
  exact RoundTrip.pure m

/-- A frame has the length that its `size` says. -/
theorem writes (m : FrameData) : Writes m.encode m.size :=
  Writes.of_eq
    ((writeU32Le_writes m.windowId _).bind <|
      (writeU64_writes m.frameId _).bind <|
      (writeU8_writes m.codec _).bind <|
      (writeU8_writes m.flags _).bind <|
      (writeU16Le_writes m.width _).bind <|
      (writeU16Le_writes m.height _).bind <|
      (writeU64_writes m.capturedUs _).bind <|
      (writeU64_writes m.encodedUs _).bind <|
      (writeBlob_writes m.data _).bind <|
      Writes.pure)
    (by simp only [size]; omega)

/-- A frame that was read has the bytes that it was read from. -/
theorem undoes : Undoes encode decode := by
  apply UndoesIn.undoes
  apply (readU32Le_undoes _).field
  intro windowId _
  apply (readU64_undoes _).field
  intro frameId _
  apply (readU8_undoes _).field
  intro codec _
  apply (readU8_undoes _).field
  intro flags _
  apply (readU16Le_undoes _).field
  intro width _
  apply (readU16Le_undoes _).field
  intro height _
  apply (readU64_undoes _).field
  intro capturedUs _
  apply (readU64_undoes _).field
  intro encodedUs _
  apply (readBlob_undoes _).field
  intro data _
  exact UndoesIn.done rfl

/-- A frame can be written if the length of its payload fits four bytes. -/
theorem fills {m : FrameData} (h : m.data.length < 2 ^ 32) : Fills m.encode m.size := by
  have hall := (writeU32Le_fills m.windowId "FrameData.window_id").bind <|
    (writeU64_fills m.frameId "FrameData.frame_id").bind <|
    (writeU8_fills m.codec "FrameData.codec").bind <|
    (writeU8_fills m.flags "FrameData.flags").bind <|
    (writeU16Le_fills m.width "FrameData.width").bind <|
    (writeU16Le_fills m.height "FrameData.height").bind <|
    (writeU64_fills m.capturedUs "FrameData.captured_us").bind <|
    (writeU64_fills m.encodedUs "FrameData.encoded_us").bind <|
    (writeBlob_fills h "FrameData.data").bind Fills.pure
  have hsize : 4 + (8 + (1 + (1 + (2 + (2 + (8 + (8 + ((4 + m.data.length) + 0)))))))) =
      m.size := by
    simp only [size]
    omega
  rw [← hsize]
  exact hall

/-- A payload of 4 GiB or more cannot be written. -/
theorem encode_fits {m : FrameData} {t t' : WriteCursor} (h : m.encode.run t = .ok ((), t')) :
    m.data.length < 2 ^ 32 := by
  obtain ⟨_, _, -, h⟩ := bind_run_ok.mp h
  obtain ⟨_, _, -, h⟩ := bind_run_ok.mp h
  obtain ⟨_, _, -, h⟩ := bind_run_ok.mp h
  obtain ⟨_, _, -, h⟩ := bind_run_ok.mp h
  obtain ⟨_, _, -, h⟩ := bind_run_ok.mp h
  obtain ⟨_, _, -, h⟩ := bind_run_ok.mp h
  obtain ⟨_, _, -, h⟩ := bind_run_ok.mp h
  obtain ⟨_, _, -, h⟩ := bind_run_ok.mp h
  obtain ⟨_, _, hblob, -⟩ := bind_run_ok.mp h
  by_contra hlarge
  rw [writeBlob, if_neg hlarge] at hblob
  cases hblob

end FrameData

/-- Acknowledgement of a decoded and presented frame. -/
structure FrameAck where
  windowId : UInt32
  frameId : UInt64
  decodedUs : UInt64
  presentedUs : UInt64
  deriving DecidableEq, Repr

namespace FrameAck

def size (_ : FrameAck) : Nat := 28

def encode (m : FrameAck) : Encoder Unit := do
  writeU32Le m.windowId "FrameAck.window_id"
  writeU64 m.frameId "FrameAck.frame_id"
  writeU64 m.decodedUs "FrameAck.decoded_us"
  writeU64 m.presentedUs "FrameAck.presented_us"
  pure ()

def decode : Decoder FrameAck := do
  let windowId ← readU32Le "FrameAck.window_id"
  let frameId ← readU64 "FrameAck.frame_id"
  let decodedUs ← readU64 "FrameAck.decoded_us"
  let presentedUs ← readU64 "FrameAck.presented_us"
  pure { windowId, frameId, decodedUs, presentedUs }

/-- An acknowledgement comes back. -/
theorem roundTrip (m : FrameAck) : RoundTrip m.encode decode m := by
  refine (writeU32Le_roundTrip m.windowId _ _).bind ?_
  refine (writeU64_roundTrip m.frameId _ _).bind ?_
  refine (writeU64_roundTrip m.decodedUs _ _).bind ?_
  refine (writeU64_roundTrip m.presentedUs _ _).bind ?_
  exact RoundTrip.pure m

/-- `encode` writes as many bytes as `size` says. -/
theorem writes (m : FrameAck) : Writes m.encode m.size :=
  Writes.of_eq
    ((writeU32Le_writes m.windowId _).bind <|
      (writeU64_writes m.frameId _).bind <|
      (writeU64_writes m.decodedUs _).bind <|
      (writeU64_writes m.presentedUs _).bind <|
      Writes.pure)
    rfl

/-- An acknowledgement that was read has the bytes that it was read from. -/
theorem undoes : Undoes encode decode := by
  apply UndoesIn.undoes
  apply (readU32Le_undoes _).field
  intro windowId _
  apply (readU64_undoes _).field
  intro frameId _
  apply (readU64_undoes _).field
  intro decodedUs _
  apply (readU64_undoes _).field
  intro presentedUs _
  exact UndoesIn.done rfl

end FrameAck

end Oxrdp
