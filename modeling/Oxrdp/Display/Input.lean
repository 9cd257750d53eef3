import Oxrdp.Client.Loop
import Oxrdp.Proto.Scancode

/-!
# Native input

`input.rs` of the display, and the arms of `WinitBackend::handle_window_event`
(`winit_backend.rs`) that report input: winit's physical keys become set 1 scancodes, and mouse
buttons a mask of those that are held, which the backend keeps.  Positions and wheel turns come
as the integers that `clamp_f64_to_i32` and `wheel_delta` make of winit's floats.

A key that has no scancode is warned about, and once (`warned`).
-/

namespace Oxrdp

namespace Scancode

def plain (code : UInt16) : Scancode := ⟨code, false⟩
def prefixed (code : UInt16) : Scancode := ⟨code, true⟩

end Scancode

namespace Winit

/-- The physical key codes of winit; `other` are those that the table does not name. -/
inductive KeyCode where
  | escape | digit1 | digit2 | digit3 | digit4 | digit5 | digit6 | digit7 | digit8
  | digit9 | digit0 | minus | equal | backspace | tab | keyQ | keyW | keyE | keyR | keyT
  | keyY | keyU | keyI | keyO | keyP | bracketLeft | bracketRight | enter | controlLeft
  | keyA | keyS | keyD | keyF | keyG | keyH | keyJ | keyK | keyL | semicolon | quote
  | backquote | shiftLeft | backslash | keyZ | keyX | keyC | keyV | keyB | keyN | keyM
  | comma | period | slash | shiftRight | numpadMultiply | altLeft | space | capsLock | f1
  | f2 | f3 | f4 | f5 | f6 | f7 | f8 | f9 | f10 | numLock | scrollLock | numpad7 | numpad8
  | numpad9 | numpadSubtract | numpad4 | numpad5 | numpad6 | numpadAdd | numpad1 | numpad2
  | numpad3 | numpad0 | numpadDecimal | f11 | f12 | numpadEnter | controlRight
  | numpadDivide | altRight | home | arrowUp | pageUp | arrowLeft | arrowRight | end
  | arrowDown | pageDown | insert | delete | superLeft | superRight | contextMenu
  | other (name : String)
  deriving DecidableEq, Repr

/-- What winit says of a key that was struck. -/
inductive PhysicalKey where
  | code (code : KeyCode)
  | unidentified (native : String)
  deriving DecidableEq, Repr

/-- Translate a winit physical key code to PS/2 set 1. -/
def keycodeToScancode : KeyCode → Option Scancode
  | .escape => some (.plain 0x01)
  | .digit1 => some (.plain 0x02)
  | .digit2 => some (.plain 0x03)
  | .digit3 => some (.plain 0x04)
  | .digit4 => some (.plain 0x05)
  | .digit5 => some (.plain 0x06)
  | .digit6 => some (.plain 0x07)
  | .digit7 => some (.plain 0x08)
  | .digit8 => some (.plain 0x09)
  | .digit9 => some (.plain 0x0a)
  | .digit0 => some (.plain 0x0b)
  | .minus => some (.plain 0x0c)
  | .equal => some (.plain 0x0d)
  | .backspace => some (.plain 0x0e)
  | .tab => some (.plain 0x0f)
  | .keyQ => some (.plain 0x10)
  | .keyW => some (.plain 0x11)
  | .keyE => some (.plain 0x12)
  | .keyR => some (.plain 0x13)
  | .keyT => some (.plain 0x14)
  | .keyY => some (.plain 0x15)
  | .keyU => some (.plain 0x16)
  | .keyI => some (.plain 0x17)
  | .keyO => some (.plain 0x18)
  | .keyP => some (.plain 0x19)
  | .bracketLeft => some (.plain 0x1a)
  | .bracketRight => some (.plain 0x1b)
  | .enter => some (.plain 0x1c)
  | .controlLeft => some (.plain 0x1d)
  | .keyA => some (.plain 0x1e)
  | .keyS => some (.plain 0x1f)
  | .keyD => some (.plain 0x20)
  | .keyF => some (.plain 0x21)
  | .keyG => some (.plain 0x22)
  | .keyH => some (.plain 0x23)
  | .keyJ => some (.plain 0x24)
  | .keyK => some (.plain 0x25)
  | .keyL => some (.plain 0x26)
  | .semicolon => some (.plain 0x27)
  | .quote => some (.plain 0x28)
  | .backquote => some (.plain 0x29)
  | .shiftLeft => some (.plain 0x2a)
  | .backslash => some (.plain 0x2b)
  | .keyZ => some (.plain 0x2c)
  | .keyX => some (.plain 0x2d)
  | .keyC => some (.plain 0x2e)
  | .keyV => some (.plain 0x2f)
  | .keyB => some (.plain 0x30)
  | .keyN => some (.plain 0x31)
  | .keyM => some (.plain 0x32)
  | .comma => some (.plain 0x33)
  | .period => some (.plain 0x34)
  | .slash => some (.plain 0x35)
  | .shiftRight => some (.plain 0x36)
  | .numpadMultiply => some (.plain 0x37)
  | .altLeft => some (.plain 0x38)
  | .space => some (.plain 0x39)
  | .capsLock => some (.plain 0x3a)
  | .f1 => some (.plain 0x3b)
  | .f2 => some (.plain 0x3c)
  | .f3 => some (.plain 0x3d)
  | .f4 => some (.plain 0x3e)
  | .f5 => some (.plain 0x3f)
  | .f6 => some (.plain 0x40)
  | .f7 => some (.plain 0x41)
  | .f8 => some (.plain 0x42)
  | .f9 => some (.plain 0x43)
  | .f10 => some (.plain 0x44)
  | .numLock => some (.plain 0x45)
  | .scrollLock => some (.plain 0x46)
  | .numpad7 => some (.plain 0x47)
  | .numpad8 => some (.plain 0x48)
  | .numpad9 => some (.plain 0x49)
  | .numpadSubtract => some (.plain 0x4a)
  | .numpad4 => some (.plain 0x4b)
  | .numpad5 => some (.plain 0x4c)
  | .numpad6 => some (.plain 0x4d)
  | .numpadAdd => some (.plain 0x4e)
  | .numpad1 => some (.plain 0x4f)
  | .numpad2 => some (.plain 0x50)
  | .numpad3 => some (.plain 0x51)
  | .numpad0 => some (.plain 0x52)
  | .numpadDecimal => some (.plain 0x53)
  | .f11 => some (.plain 0x57)
  | .f12 => some (.plain 0x58)
  | .numpadEnter => some (.prefixed 0x1c)
  | .controlRight => some (.prefixed 0x1d)
  | .numpadDivide => some (.prefixed 0x35)
  | .altRight => some (.prefixed 0x38)
  | .home => some (.prefixed 0x47)
  | .arrowUp => some (.prefixed 0x48)
  | .pageUp => some (.prefixed 0x49)
  | .arrowLeft => some (.prefixed 0x4b)
  | .arrowRight => some (.prefixed 0x4d)
  | .end => some (.prefixed 0x4f)
  | .arrowDown => some (.prefixed 0x50)
  | .pageDown => some (.prefixed 0x51)
  | .insert => some (.prefixed 0x52)
  | .delete => some (.prefixed 0x53)
  | .superLeft | .superRight => some (.prefixed 0x5b)
  | .contextMenu => some (.prefixed 0x5d)
  | .other _ => none

/-- The key of the protocol's table that a key code is sent as. -/
theorem keycodeToScancode_known {code : KeyCode} {sc : Scancode}
    (h : keycodeToScancode code = some sc) :
    (Key.fromScancode sc.code sc.extended).isSome = true := by
  cases code <;> cases h <;> decide +kernel

/-! ## Buttons and modifiers -/

/-- A button of a mouse, as winit names it. -/
inductive MouseButton where
  | left
  | right
  | middle
  | back
  | forward
  | other (button : UInt16)
  deriving DecidableEq, Repr

namespace MouseButton

/-- The bit of a button in the mask. -/
def bit : MouseButton → UInt8
  | left => PointerButton.left
  | right => PointerButton.right
  | middle => PointerButton.middle
  | back => PointerButton.x1
  | forward => PointerButton.x2
  | other _ => 0

end MouseButton

/-- Update the pointer button bitmask from one mouse button event. -/
def updateButtons (current : UInt8) (button : MouseButton) (pressed : Bool) : UInt8 :=
  if pressed then current ||| button.bit else current &&& ~~~button.bit

/-- The modifiers as winit sees them. -/
structure ModifiersState where
  shiftKey : Bool
  controlKey : Bool
  altKey : Bool
  superKey : Bool
  deriving DecidableEq, Repr

def modifiers (state : ModifiersState) : UInt16 :=
  (if state.shiftKey then Modifier.shift else 0) |||
    (if state.controlKey then Modifier.ctrl else 0) |||
    (if state.altKey then Modifier.alt else 0) |||
    (if state.superKey then Modifier.metaKey else 0)

/-- No locks are reported. -/
def locks : UInt8 := 0

/-! ## The backend -/

/-- What the backend keeps for input, with its warnings. -/
structure InputState where
  pointerButtons : UInt8
  pointerPosition : Table UInt32 (Int32 × Int32)
  /-- The keys that were already reported as untranslatable. -/
  unmappedKeys : List String
  warnings : List String

/-- The events of winit that are about input. -/
inductive InputEvent where
  | closeRequested
  | focused (focused : Bool)
  | keyboardInput (physicalKey : PhysicalKey) (pressed : Bool)
  | modifiersChanged (state : ModifiersState)
  | cursorMoved (x y : Int32)
  | mouseInput (pressed : Bool) (button : MouseButton)
  | mouseWheel (wheelX wheelY : Int16)
  | imeCommit (text : String)
  deriving DecidableEq, Repr

namespace InputState

def new : InputState :=
  { pointerButtons := 0, pointerPosition := ∅, unmappedKeys := [], warnings := [] }

/-- Warn about a key, once. -/
def unmapped (s : InputState) (key : String) : InputState :=
  if key ∈ s.unmappedKeys then s
  else { s with unmappedKeys := key :: s.unmappedKeys, warnings := s.warnings ++ [key] }

/-- Where the pointer was last seen in a window. -/
def position (s : InputState) (windowId : UInt32) : Int32 × Int32 :=
  (s.pointerPosition.lookup windowId).getD (0, 0)

/-- What an event in a window reports. -/
def handle (s : InputState) (windowId : UInt32) : InputEvent → List DisplayEvent × InputState
  | .closeRequested => ([.closeRequested windowId], s)
  | .focused focused => ([.focused windowId focused, .modifiers 0 locks], s)
  | .keyboardInput (.code code) pressed =>
      match keycodeToScancode code with
      | some scancode => ([.key scancode.code pressed scancode.extended], s)
      | none => ([], s.unmapped (toString (repr code)))
  | .keyboardInput (.unidentified native) _ => ([], s.unmapped native)
  | .modifiersChanged state => ([.modifiers (modifiers state) locks], s)
  | .cursorMoved x y =>
      ([.pointer windowId x y s.pointerButtons 0 0],
        { s with pointerPosition := s.pointerPosition.insert windowId (x, y) })
  | .mouseInput pressed button =>
      let s := { s with pointerButtons := updateButtons s.pointerButtons button pressed }
      let (x, y) := s.position windowId
      ([.pointer windowId x y s.pointerButtons 0 0], s)
  | .mouseWheel wheelX wheelY =>
      let (x, y) := s.position windowId
      ([.pointer windowId x y s.pointerButtons wheelX wheelY], s)
  | .imeCommit text => ([.text text], s)

/-- What was reported of some events, each in its window. -/
def run (heard : List (UInt32 × InputEvent)) : List DisplayEvent × InputState :=
  heard.foldl (fun r e =>
    let (events, s) := r.2.handle e.1 e.2
    (r.1 ++ events, s)) ([], new)

theorem run_snoc (heard : List (UInt32 × InputEvent)) (e : UInt32 × InputEvent) :
    run (heard ++ [e]) =
      ((run heard).1 ++ ((run heard).2.handle e.1 e.2).1, ((run heard).2.handle e.1 e.2).2) := by
  rw [run, List.foldl_append]
  rfl

/-- The name of a key that cannot be sent. -/
def unsendable : InputEvent → Option String
  | .keyboardInput (.code code) _ =>
      if (keycodeToScancode code).isNone then some (toString (repr code)) else none
  | .keyboardInput (.unidentified native) _ => some native
  | _ => none

/-- What an event does to the warnings. -/
theorem handle_unsendable (s : InputState) (windowId : UInt32) (e : InputEvent) :
    (s.handle windowId e).2.unmappedKeys =
        ((unsendable e).elim s fun key => s.unmapped key).unmappedKeys ∧
      (s.handle windowId e).2.warnings =
        ((unsendable e).elim s fun key => s.unmapped key).warnings := by
  cases e with
  | keyboardInput physicalKey pressed =>
      cases physicalKey with
      | unidentified native => exact ⟨rfl, rfl⟩
      | code code =>
          rw [handle, unsendable]
          cases keycodeToScancode code with
          | none => exact ⟨rfl, rfl⟩
          | some scancode => exact ⟨rfl, rfl⟩
  | _ => exact ⟨rfl, rfl⟩

/-- The keys that cannot be sent were warned about, each of them once. -/
structure Warned (struck : List String) (s : InputState) : Prop where
  unmapped_iff : ∀ key, key ∈ s.unmappedKeys ↔ key ∈ s.warnings
  struck_iff : ∀ key, key ∈ s.warnings ↔ key ∈ struck
  once : s.warnings.Nodup

theorem Warned.unmapped {struck : List String} {s : InputState} (h : Warned struck s)
    (key : String) : Warned (struck ++ [key]) (s.unmapped key) := by
  unfold InputState.unmapped
  split
  next hknown =>
    refine ⟨h.unmapped_iff, fun k => ?_, h.once⟩
    rw [h.struck_iff, List.mem_append, List.mem_singleton]
    refine ⟨.inl, ?_⟩
    rintro (hk | rfl)
    · exact hk
    · exact (h.struck_iff k).mp ((h.unmapped_iff k).mp hknown)
  next hnew =>
    refine ⟨fun k => ?_, fun k => ?_, ?_⟩
    · rw [List.mem_cons, List.mem_append, List.mem_singleton, h.unmapped_iff, or_comm]
    · rw [List.mem_append, List.mem_append, h.struck_iff]
    · rw [List.nodup_append]
      refine ⟨h.once, List.nodup_singleton key, ?_⟩
      rintro k hk k' hk' rfl
      rw [List.mem_singleton] at hk'
      subst hk'
      exact hnew ((h.unmapped_iff k).mpr hk)

theorem warned (heard : List (UInt32 × InputEvent)) :
    Warned (heard.filterMap fun e => unsendable e.2) (run heard).2 := by
  induction heard using List.reverseRecOn with
  | nil => exact ⟨fun _ => Iff.rfl, fun _ => Iff.rfl, List.nodup_nil⟩
  | append_singleton rest e ih =>
      rw [run_snoc, List.filterMap_append]
      obtain ⟨hunmapped, hwarnings⟩ := handle_unsendable (run rest).2 e.1 e.2
      have hsame : ∀ {struck : List String} {s s' : InputState}, Warned struck s →
          s'.unmappedKeys = s.unmappedKeys → s'.warnings = s.warnings → Warned struck s' := by
        intro struck s s' h hk hw
        exact ⟨hk ▸ hw ▸ h.unmapped_iff, hw ▸ h.struck_iff, hw ▸ h.once⟩
      refine hsame ?_ hunmapped hwarnings
      have hone : [e].filterMap (fun e : UInt32 × InputEvent => unsendable e.2) =
          (unsendable e.2).toList := by
        rw [List.filterMap_cons]
        cases unsendable e.2 with
        | none => rfl
        | some key => rfl
      rw [hone]
      cases unsendable e.2 with
      | none =>
          rw [Option.toList_none, List.append_nil]
          exact ih
      | some key => exact ih.unmapped key

/-- Whatever is reported of the pointer has the mask of the buttons that are held then. -/
theorem handle_buttons (s : InputState) (windowId : UInt32) (e : InputEvent) :
    ∀ event ∈ (s.handle windowId e).1, ∀ id x y buttons wheelX wheelY,
      event = .pointer id x y buttons wheelX wheelY →
        buttons = (s.handle windowId e).2.pointerButtons := by
  intro event hevent id x y buttons wheelX wheelY heq
  subst heq
  cases e with
  | keyboardInput physicalKey pressed =>
      cases physicalKey with
      | unidentified native => cases hevent
      | code code =>
          rw [handle] at hevent
          split at hevent
          · cases List.mem_singleton.mp hevent
          · cases hevent
  | focused focused =>
      rcases List.mem_cons.mp hevent with h | h
      · cases h
      · cases List.mem_singleton.mp h
  | cursorMoved x y =>
      cases List.mem_singleton.mp hevent
      rfl
  | mouseInput pressed button =>
      cases List.mem_singleton.mp hevent
      rfl
  | mouseWheel wheelX wheelY =>
      cases List.mem_singleton.mp hevent
      rfl
  | _ => cases List.mem_singleton.mp hevent

end InputState

end Winit

end Oxrdp
