import Oxrdp.Proto.Wire

/-!
# Input and cursor messages

`message/input.rs`: what the client sends to drive a window, and the cursor
stream the agent sends back.
-/

namespace Oxrdp

open Coder

/-! ## Bits in `PointerEvent.buttons` -/

namespace PointerButton

def left : UInt8 := 0x01
def right : UInt8 := 0x02
def middle : UInt8 := 0x04
def x1 : UInt8 := 0x08
def x2 : UInt8 := 0x10

/-- The buttons that there are. -/
def all : UInt8 := left ||| right ||| middle ||| x1 ||| x2

end PointerButton

/-! ## Values for `WindowControl.action` -/

namespace WindowAction

def close : UInt8 := 1
def activate : UInt8 := 2
def minimize : UInt8 := 3
def maximize : UInt8 := 4
def restore : UInt8 := 5
def move : UInt8 := 6
def resize : UInt8 := 7

end WindowAction

/-! ## Bits in `KeyEvent.flags` -/

namespace KeyFlag

def pressed : UInt8 := 0x01
def extended : UInt8 := 0x02

end KeyFlag

/-! ## Bits in `ModifierSync` -/

namespace Modifier

def shift : UInt16 := 0x0001
def ctrl : UInt16 := 0x0002
def alt : UInt16 := 0x0004
/-- `META`. -/
def metaKey : UInt16 := 0x0008

end Modifier

namespace LockState

def caps : UInt8 := 0x01
def num : UInt8 := 0x02
def scroll : UInt8 := 0x04

end LockState

/-- Pointer motion, button, and wheel event. -/
structure PointerEvent where
  windowId : UInt32
  x : Int32
  y : Int32
  buttons : UInt8
  wheelX : Int16
  wheelY : Int16
  timestamp : UInt64
  deriving DecidableEq, Repr

namespace PointerEvent

def size (_ : PointerEvent) : Nat := 4 + 4 + 4 + 1 + 2 + 2 + 8

def encode (m : PointerEvent) : Encoder Unit := do
  writeU32Le m.windowId "PointerEvent.window_id"
  writeI32 m.x "PointerEvent.x"
  writeI32 m.y "PointerEvent.y"
  writeU8 m.buttons "PointerEvent.buttons"
  writeI16 m.wheelX "PointerEvent.wheel_x"
  writeI16 m.wheelY "PointerEvent.wheel_y"
  writeU64 m.timestamp "PointerEvent.timestamp"
  pure ()

def decode : Decoder PointerEvent := do
  let windowId ← readU32Le "PointerEvent.window_id"
  let x ← readI32 "PointerEvent.x"
  let y ← readI32 "PointerEvent.y"
  let buttons ← readU8 "PointerEvent.buttons"
  let wheelX ← readI16 "PointerEvent.wheel_x"
  let wheelY ← readI16 "PointerEvent.wheel_y"
  let timestamp ← readU64 "PointerEvent.timestamp"
  pure { windowId, x, y, buttons, wheelX, wheelY, timestamp }

/-- A pointer event comes back. -/
theorem roundTrip (m : PointerEvent) : RoundTrip m.encode decode m := by
  refine (writeU32Le_roundTrip m.windowId _ _).bind ?_
  refine (writeI32_roundTrip m.x _ _).bind ?_
  refine (writeI32_roundTrip m.y _ _).bind ?_
  refine (writeU8_roundTrip m.buttons _ _).bind ?_
  refine (writeI16_roundTrip m.wheelX _ _).bind ?_
  refine (writeI16_roundTrip m.wheelY _ _).bind ?_
  refine (writeU64_roundTrip m.timestamp _ _).bind ?_
  exact RoundTrip.pure m

/-- `encode` writes as many bytes as `size` says. -/
theorem writes (m : PointerEvent) : Writes m.encode m.size :=
  Writes.of_eq
    ((writeU32Le_writes m.windowId _).bind <|
      (writeI32_writes m.x _).bind <|
      (writeI32_writes m.y _).bind <|
      (writeU8_writes m.buttons _).bind <|
      (writeI16_writes m.wheelX _).bind <|
      (writeI16_writes m.wheelY _).bind <|
      (writeU64_writes m.timestamp _).bind <|
      Writes.pure)
    rfl

/-- A pointer event that was read has the bytes that it was read from. -/
theorem undoes : Undoes encode decode := by
  apply UndoesIn.undoes
  apply (readU32Le_undoes _).field
  intro windowId _
  apply (readI32_undoes _).field
  intro x _
  apply (readI32_undoes _).field
  intro y _
  apply (readU8_undoes _).field
  intro buttons _
  apply (readI16_undoes _).field
  intro wheelX _
  apply (readI16_undoes _).field
  intro wheelY _
  apply (readU64_undoes _).field
  intro timestamp _
  exact UndoesIn.done rfl

end PointerEvent

/-- Keyboard key press or release. -/
structure KeyEvent where
  scancode : UInt16
  flags : UInt8
  timestamp : UInt64
  deriving DecidableEq, Repr

namespace KeyEvent

def size (_ : KeyEvent) : Nat := 2 + 1 + 8

def encode (m : KeyEvent) : Encoder Unit := do
  writeU16Le m.scancode "KeyEvent.scancode"
  writeU8 m.flags "KeyEvent.flags"
  writeU64 m.timestamp "KeyEvent.timestamp"
  pure ()

def decode : Decoder KeyEvent := do
  let scancode ← readU16Le "KeyEvent.scancode"
  let flags ← readU8 "KeyEvent.flags"
  let timestamp ← readU64 "KeyEvent.timestamp"
  pure { scancode, flags, timestamp }

/-- A key event comes back. -/
theorem roundTrip (m : KeyEvent) : RoundTrip m.encode decode m := by
  refine (writeU16Le_roundTrip m.scancode _ _).bind ?_
  refine (writeU8_roundTrip m.flags _ _).bind ?_
  refine (writeU64_roundTrip m.timestamp _ _).bind ?_
  exact RoundTrip.pure m

/-- `encode` writes as many bytes as `size` says. -/
theorem writes (m : KeyEvent) : Writes m.encode m.size :=
  Writes.of_eq
    ((writeU16Le_writes m.scancode _).bind <|
      (writeU8_writes m.flags _).bind <|
      (writeU64_writes m.timestamp _).bind <|
      Writes.pure)
    rfl

/-- A key event that was read has the bytes that it was read from. -/
theorem undoes : Undoes encode decode := by
  apply UndoesIn.undoes
  apply (readU16Le_undoes _).field
  intro scancode _
  apply (readU8_undoes _).field
  intro flags _
  apply (readU64_undoes _).field
  intro timestamp _
  exact UndoesIn.done rfl

/-- Whether this event is a press (as opposed to a release). -/
def isPressed (m : KeyEvent) : Bool := m.flags &&& KeyFlag.pressed != 0

end KeyEvent

/-- UTF-8 text input from the client. -/
structure TextInput where
  text : String
  deriving DecidableEq, Repr

namespace TextInput

def size (m : TextInput) : Nat := stringSize m.text

def encode (m : TextInput) : Encoder Unit := do
  writeString m.text "TextInput.text"
  pure ()

def decode : Decoder TextInput := do
  let text ← readString "TextInput.text"
  pure { text }

/-- A text comes back. -/
theorem roundTrip (m : TextInput) : RoundTrip m.encode decode m := by
  refine (writeString_roundTrip m.text _ _).bind ?_
  exact RoundTrip.pure m

/-- `encode` writes as many bytes as `size` says. -/
theorem writes (m : TextInput) : Writes m.encode m.size :=
  Writes.of_eq
    ((writeString_writes m.text _).bind <|
      Writes.pure)
    (by simp only [size]; omega)

/-- A text that was read has the bytes that it was read from. -/
theorem undoes : Undoes encode decode := by
  apply UndoesIn.undoes
  apply (readString_undoes _).field
  intro text _
  exact UndoesIn.done rfl

end TextInput

/-- Synchronization of keyboard modifiers and lock states. -/
structure ModifierSync where
  modifiers : UInt16
  locks : UInt8
  deriving DecidableEq, Repr

namespace ModifierSync

def size (_ : ModifierSync) : Nat := 2 + 1

def encode (m : ModifierSync) : Encoder Unit := do
  writeU16Le m.modifiers "ModifierSync.modifiers"
  writeU8 m.locks "ModifierSync.locks"
  pure ()

def decode : Decoder ModifierSync := do
  let modifiers ← readU16Le "ModifierSync.modifiers"
  let locks ← readU8 "ModifierSync.locks"
  pure { modifiers, locks }

/-- A sync comes back. -/
theorem roundTrip (m : ModifierSync) : RoundTrip m.encode decode m := by
  refine (writeU16Le_roundTrip m.modifiers _ _).bind ?_
  refine (writeU8_roundTrip m.locks _ _).bind ?_
  exact RoundTrip.pure m

/-- `encode` writes as many bytes as `size` says. -/
theorem writes (m : ModifierSync) : Writes m.encode m.size :=
  Writes.of_eq
    ((writeU16Le_writes m.modifiers _).bind <|
      (writeU8_writes m.locks _).bind <|
      Writes.pure)
    rfl

/-- A sync that was read has the bytes that it was read from. -/
theorem undoes : Undoes encode decode := by
  apply UndoesIn.undoes
  apply (readU16Le_undoes _).field
  intro modifiers _
  apply (readU8_undoes _).field
  intro locks _
  exact UndoesIn.done rfl

end ModifierSync

/-- Request to manipulate a remote window. -/
structure WindowControl where
  windowId : UInt32
  action : UInt8
  x : Int32
  y : Int32
  width : UInt16
  height : UInt16
  deriving DecidableEq, Repr

namespace WindowControl

def size (_ : WindowControl) : Nat := 4 + 1 + 4 + 4 + 2 + 2

def encode (m : WindowControl) : Encoder Unit := do
  writeU32Le m.windowId "WindowControl.window_id"
  writeU8 m.action "WindowControl.action"
  writeI32 m.x "WindowControl.x"
  writeI32 m.y "WindowControl.y"
  writeU16Le m.width "WindowControl.width"
  writeU16Le m.height "WindowControl.height"
  pure ()

def decode : Decoder WindowControl := do
  let windowId ← readU32Le "WindowControl.window_id"
  let action ← readU8 "WindowControl.action"
  let x ← readI32 "WindowControl.x"
  let y ← readI32 "WindowControl.y"
  let width ← readU16Le "WindowControl.width"
  let height ← readU16Le "WindowControl.height"
  pure { windowId, action, x, y, width, height }

/-- A window control comes back. -/
theorem roundTrip (m : WindowControl) : RoundTrip m.encode decode m := by
  refine (writeU32Le_roundTrip m.windowId _ _).bind ?_
  refine (writeU8_roundTrip m.action _ _).bind ?_
  refine (writeI32_roundTrip m.x _ _).bind ?_
  refine (writeI32_roundTrip m.y _ _).bind ?_
  refine (writeU16Le_roundTrip m.width _ _).bind ?_
  refine (writeU16Le_roundTrip m.height _ _).bind ?_
  exact RoundTrip.pure m

/-- `encode` writes as many bytes as `size` says. -/
theorem writes (m : WindowControl) : Writes m.encode m.size :=
  Writes.of_eq
    ((writeU32Le_writes m.windowId _).bind <|
      (writeU8_writes m.action _).bind <|
      (writeI32_writes m.x _).bind <|
      (writeI32_writes m.y _).bind <|
      (writeU16Le_writes m.width _).bind <|
      (writeU16Le_writes m.height _).bind <|
      Writes.pure)
    rfl

/-- A window control that was read has the bytes that it was read from. -/
theorem undoes : Undoes encode decode := by
  apply UndoesIn.undoes
  apply (readU32Le_undoes _).field
  intro windowId _
  apply (readU8_undoes _).field
  intro action _
  apply (readI32_undoes _).field
  intro x _
  apply (readI32_undoes _).field
  intro y _
  apply (readU16Le_undoes _).field
  intro width _
  apply (readU16Le_undoes _).field
  intro height _
  exact UndoesIn.done rfl

end WindowControl

/-- Cursor shape definition sent to the client. -/
structure CursorShape where
  cursorId : UInt32
  width : UInt16
  height : UInt16
  hotspotX : UInt16
  hotspotY : UInt16
  format : UInt8
  data : List UInt8
  deriving DecidableEq, Repr

namespace CursorShape

def size (m : CursorShape) : Nat := 4 + 2 + 2 + 2 + 2 + 1 + 4 + m.data.length

def encode (m : CursorShape) : Encoder Unit := do
  writeU32Le m.cursorId "CursorShape.cursor_id"
  writeU16Le m.width "CursorShape.width"
  writeU16Le m.height "CursorShape.height"
  writeU16Le m.hotspotX "CursorShape.hotspot_x"
  writeU16Le m.hotspotY "CursorShape.hotspot_y"
  writeU8 m.format "CursorShape.format"
  writeBlob m.data "CursorShape.data"
  pure ()

def decode : Decoder CursorShape := do
  let cursorId ← readU32Le "CursorShape.cursor_id"
  let width ← readU16Le "CursorShape.width"
  let height ← readU16Le "CursorShape.height"
  let hotspotX ← readU16Le "CursorShape.hotspot_x"
  let hotspotY ← readU16Le "CursorShape.hotspot_y"
  let format ← readU8 "CursorShape.format"
  let data ← readBlob "CursorShape.data"
  pure { cursorId, width, height, hotspotX, hotspotY, format, data }

/-- A shape comes back with its pixels. -/
theorem roundTrip (m : CursorShape) : RoundTrip m.encode decode m := by
  refine (writeU32Le_roundTrip m.cursorId _ _).bind ?_
  refine (writeU16Le_roundTrip m.width _ _).bind ?_
  refine (writeU16Le_roundTrip m.height _ _).bind ?_
  refine (writeU16Le_roundTrip m.hotspotX _ _).bind ?_
  refine (writeU16Le_roundTrip m.hotspotY _ _).bind ?_
  refine (writeU8_roundTrip m.format _ _).bind ?_
  refine (writeBlob_roundTrip m.data _ _).bind ?_
  exact RoundTrip.pure m

/-- `encode` writes as many bytes as `size` says. -/
theorem writes (m : CursorShape) : Writes m.encode m.size :=
  Writes.of_eq
    ((writeU32Le_writes m.cursorId _).bind <|
      (writeU16Le_writes m.width _).bind <|
      (writeU16Le_writes m.height _).bind <|
      (writeU16Le_writes m.hotspotX _).bind <|
      (writeU16Le_writes m.hotspotY _).bind <|
      (writeU8_writes m.format _).bind <|
      (writeBlob_writes m.data _).bind <|
      Writes.pure)
    (by simp only [size]; omega)

/-- A shape that was read has the bytes that it was read from. -/
theorem undoes : Undoes encode decode := by
  apply UndoesIn.undoes
  apply (readU32Le_undoes _).field
  intro cursorId _
  apply (readU16Le_undoes _).field
  intro width _
  apply (readU16Le_undoes _).field
  intro height _
  apply (readU16Le_undoes _).field
  intro hotspotX _
  apply (readU16Le_undoes _).field
  intro hotspotY _
  apply (readU8_undoes _).field
  intro format _
  apply (readBlob_undoes _).field
  intro data _
  exact UndoesIn.done rfl

end CursorShape

/-- Cursor position update. -/
structure CursorPosition where
  windowId : UInt32
  x : Int32
  y : Int32
  deriving DecidableEq, Repr

namespace CursorPosition

def size (_ : CursorPosition) : Nat := 4 + 4 + 4

def encode (m : CursorPosition) : Encoder Unit := do
  writeU32Le m.windowId "CursorPosition.window_id"
  writeI32 m.x "CursorPosition.x"
  writeI32 m.y "CursorPosition.y"
  pure ()

def decode : Decoder CursorPosition := do
  let windowId ← readU32Le "CursorPosition.window_id"
  let x ← readI32 "CursorPosition.x"
  let y ← readI32 "CursorPosition.y"
  pure { windowId, x, y }

/-- A position comes back. -/
theorem roundTrip (m : CursorPosition) : RoundTrip m.encode decode m := by
  refine (writeU32Le_roundTrip m.windowId _ _).bind ?_
  refine (writeI32_roundTrip m.x _ _).bind ?_
  refine (writeI32_roundTrip m.y _ _).bind ?_
  exact RoundTrip.pure m

/-- `encode` writes as many bytes as `size` says. -/
theorem writes (m : CursorPosition) : Writes m.encode m.size :=
  Writes.of_eq
    ((writeU32Le_writes m.windowId _).bind <|
      (writeI32_writes m.x _).bind <|
      (writeI32_writes m.y _).bind <|
      Writes.pure)
    rfl

/-- A position that was read has the bytes that it was read from. -/
theorem undoes : Undoes encode decode := by
  apply UndoesIn.undoes
  apply (readU32Le_undoes _).field
  intro windowId _
  apply (readI32_undoes _).field
  intro x _
  apply (readI32_undoes _).field
  intro y _
  exact UndoesIn.done rfl

end CursorPosition

/-- Cursor visibility update. -/
structure CursorVisibility where
  visible : Bool
  deriving DecidableEq, Repr

namespace CursorVisibility

def size (_ : CursorVisibility) : Nat := 1

def encode (m : CursorVisibility) : Encoder Unit := do
  writeBool m.visible "CursorVisibility.visible"
  pure ()

def decode : Decoder CursorVisibility := do
  let visible ← readBool "CursorVisibility.visible"
  pure { visible }

/-- Whether the cursor is shown comes back. -/
theorem roundTrip (m : CursorVisibility) : RoundTrip m.encode decode m := by
  refine (writeBool_roundTrip m.visible _ _).bind ?_
  exact RoundTrip.pure m

/-- `encode` writes as many bytes as `size` says. -/
theorem writes (m : CursorVisibility) : Writes m.encode m.size :=
  Writes.of_eq
    ((writeBool_writes m.visible _).bind <|
      Writes.pure)
    rfl

/-- Any byte but 0 shows the cursor, and is written as 1 again. -/
theorem decode_takes {t t' : ReadCursor} {m : CursorVisibility}
    (h : decode.run t = .ok (m, t')) :
    ∃ v, t.Passes [v] t' ∧ Parses decode [v] m ∧ Emits m.encode [if v = 0 then 0 else 1] := by
  obtain ⟨visible, t₁, hb, hm⟩ := bind_run_ok.mp h
  cases hm
  obtain ⟨v, hpass, hparse, hemit⟩ := readBool_takes hb
  have hall := hparse.bind (k := fun visible => pure (CursorVisibility.mk visible))
    (Parses.pure (CursorVisibility.mk visible))
  exact ⟨v, hpass, hall, hemit.bind Emits.pure⟩

end CursorVisibility

end Oxrdp
