import Mathlib.Data.List.Nodup

/-!
# Scancodes

`scancode.rs`: physical keys, named by their place on a US keyboard, and the PS/2 set 1 codes
that stand for them on the wire.  A code with the E0 prefix is another key than the one
without.
-/

namespace Oxrdp

/-- A set 1 scancode. -/
structure Scancode where
  code : UInt16
  /-- Is the make code prefixed with 0xE0? -/
  extended : Bool
  deriving DecidableEq, Repr

/-- Physical keys. -/
inductive Key where
  | a | b | c | d | e | f | g | h | i | j | k | l | m | n | o | p | q | r | s | t | u | v
  | w | x | y | z | digit1 | digit2 | digit3 | digit4 | digit5 | digit6 | digit7 | digit8
  | digit9 | digit0 | escape | minus | equal | backspace | tab | bracketLeft
  | bracketRight | enter | semicolon | quote | backquote | backslash | comma | period
  | slash | space | capsLock | leftShift | rightShift | leftControl | leftAlt | f1 | f2
  | f3 | f4 | f5 | f6 | f7 | f8 | f9 | f10 | f11 | f12 | numLock | scrollLock | numpad0
  | numpad1 | numpad2 | numpad3 | numpad4 | numpad5 | numpad6 | numpad7 | numpad8
  | numpad9 | numpadMultiply | numpadSubtract | numpadAdd | numpadDecimal | rightControl
  | rightAlt | numpadDivide | numpadEnter | home | end | pageUp | pageDown | insert
  | delete | arrowUp | arrowDown | arrowLeft | arrowRight | leftMeta | rightMeta | menu
  | printScreen
  deriving DecidableEq, Repr

namespace Key

/-- Every key, in the order of their declaration. -/
def all : List Key :=
  [.a, .b, .c, .d, .e, .f, .g, .h, .i, .j, .k, .l, .m, .n, .o, .p, .q, .r, .s, .t, .u, .v, .w,
   .x, .y, .z, .digit1, .digit2, .digit3, .digit4, .digit5, .digit6, .digit7, .digit8,
   .digit9, .digit0, .escape, .minus, .equal, .backspace, .tab, .bracketLeft, .bracketRight,
   .enter, .semicolon, .quote, .backquote, .backslash, .comma, .period, .slash, .space,
   .capsLock, .leftShift, .rightShift, .leftControl, .leftAlt, .f1, .f2, .f3, .f4, .f5, .f6,
   .f7, .f8, .f9, .f10, .f11, .f12, .numLock, .scrollLock, .numpad0, .numpad1, .numpad2,
   .numpad3, .numpad4, .numpad5, .numpad6, .numpad7, .numpad8, .numpad9, .numpadMultiply,
   .numpadSubtract, .numpadAdd, .numpadDecimal, .rightControl, .rightAlt, .numpadDivide,
   .numpadEnter, .home, .end, .pageUp, .pageDown, .insert, .delete, .arrowUp, .arrowDown,
   .arrowLeft, .arrowRight, .leftMeta, .rightMeta, .menu, .printScreen]

/-- The set 1 scancode of a key. -/
def scancode : Key → Scancode
  | .a => ⟨0x1E, false⟩
  | .b => ⟨0x30, false⟩
  | .c => ⟨0x2E, false⟩
  | .d => ⟨0x20, false⟩
  | .e => ⟨0x12, false⟩
  | .f => ⟨0x21, false⟩
  | .g => ⟨0x22, false⟩
  | .h => ⟨0x23, false⟩
  | .i => ⟨0x17, false⟩
  | .j => ⟨0x24, false⟩
  | .k => ⟨0x25, false⟩
  | .l => ⟨0x26, false⟩
  | .m => ⟨0x32, false⟩
  | .n => ⟨0x31, false⟩
  | .o => ⟨0x18, false⟩
  | .p => ⟨0x19, false⟩
  | .q => ⟨0x10, false⟩
  | .r => ⟨0x13, false⟩
  | .s => ⟨0x1F, false⟩
  | .t => ⟨0x14, false⟩
  | .u => ⟨0x16, false⟩
  | .v => ⟨0x2F, false⟩
  | .w => ⟨0x11, false⟩
  | .x => ⟨0x2D, false⟩
  | .y => ⟨0x15, false⟩
  | .z => ⟨0x2C, false⟩
  | .digit1 => ⟨0x02, false⟩
  | .digit2 => ⟨0x03, false⟩
  | .digit3 => ⟨0x04, false⟩
  | .digit4 => ⟨0x05, false⟩
  | .digit5 => ⟨0x06, false⟩
  | .digit6 => ⟨0x07, false⟩
  | .digit7 => ⟨0x08, false⟩
  | .digit8 => ⟨0x09, false⟩
  | .digit9 => ⟨0x0A, false⟩
  | .digit0 => ⟨0x0B, false⟩
  | .escape => ⟨0x01, false⟩
  | .minus => ⟨0x0C, false⟩
  | .equal => ⟨0x0D, false⟩
  | .backspace => ⟨0x0E, false⟩
  | .tab => ⟨0x0F, false⟩
  | .bracketLeft => ⟨0x1A, false⟩
  | .bracketRight => ⟨0x1B, false⟩
  | .enter => ⟨0x1C, false⟩
  | .semicolon => ⟨0x27, false⟩
  | .quote => ⟨0x28, false⟩
  | .backquote => ⟨0x29, false⟩
  | .backslash => ⟨0x2B, false⟩
  | .comma => ⟨0x33, false⟩
  | .period => ⟨0x34, false⟩
  | .slash => ⟨0x35, false⟩
  | .space => ⟨0x39, false⟩
  | .capsLock => ⟨0x3A, false⟩
  | .leftShift => ⟨0x2A, false⟩
  | .rightShift => ⟨0x36, false⟩
  | .leftControl => ⟨0x1D, false⟩
  | .leftAlt => ⟨0x38, false⟩
  | .f1 => ⟨0x3B, false⟩
  | .f2 => ⟨0x3C, false⟩
  | .f3 => ⟨0x3D, false⟩
  | .f4 => ⟨0x3E, false⟩
  | .f5 => ⟨0x3F, false⟩
  | .f6 => ⟨0x40, false⟩
  | .f7 => ⟨0x41, false⟩
  | .f8 => ⟨0x42, false⟩
  | .f9 => ⟨0x43, false⟩
  | .f10 => ⟨0x44, false⟩
  | .f11 => ⟨0x57, false⟩
  | .f12 => ⟨0x58, false⟩
  | .numLock => ⟨0x45, false⟩
  | .scrollLock => ⟨0x46, false⟩
  | .numpad0 => ⟨0x52, false⟩
  | .numpad1 => ⟨0x4F, false⟩
  | .numpad2 => ⟨0x50, false⟩
  | .numpad3 => ⟨0x51, false⟩
  | .numpad4 => ⟨0x4B, false⟩
  | .numpad5 => ⟨0x4C, false⟩
  | .numpad6 => ⟨0x4D, false⟩
  | .numpad7 => ⟨0x47, false⟩
  | .numpad8 => ⟨0x48, false⟩
  | .numpad9 => ⟨0x49, false⟩
  | .numpadMultiply => ⟨0x37, false⟩
  | .numpadSubtract => ⟨0x4A, false⟩
  | .numpadAdd => ⟨0x4E, false⟩
  | .numpadDecimal => ⟨0x53, false⟩
  | .rightControl => ⟨0x1D, true⟩
  | .rightAlt => ⟨0x38, true⟩
  | .numpadDivide => ⟨0x35, true⟩
  | .numpadEnter => ⟨0x1C, true⟩
  | .home => ⟨0x47, true⟩
  | .end => ⟨0x4F, true⟩
  | .pageUp => ⟨0x49, true⟩
  | .pageDown => ⟨0x51, true⟩
  | .insert => ⟨0x52, true⟩
  | .delete => ⟨0x53, true⟩
  | .arrowUp => ⟨0x48, true⟩
  | .arrowDown => ⟨0x50, true⟩
  | .arrowLeft => ⟨0x4B, true⟩
  | .arrowRight => ⟨0x4D, true⟩
  | .leftMeta => ⟨0x5B, true⟩
  | .rightMeta => ⟨0x5C, true⟩
  | .menu => ⟨0x5D, true⟩
  | .printScreen => ⟨0x7C, true⟩

/-- The key a scancode denotes, if it is one of the table. -/
def fromScancode (code : UInt16) (extended : Bool) : Option Key :=
  all.find? fun key => key.scancode.code == code && key.scancode.extended == extended

theorem mem_all (key : Key) : key ∈ all := by
  have hat : all[key.ctorIdx]? = some key := by
    cases key <;> rfl
  exact List.mem_of_getElem? hat

theorem scancodes_nodup : (all.map scancode).Nodup := by
  decide +kernel

/-- No two keys share a code. -/
theorem scancode_injective : Function.Injective scancode := by
  intro key key' h
  exact List.inj_on_of_nodup_map scancodes_nodup (mem_all key) (mem_all key') h

/-- A scancode stands for the key that has it. -/
theorem fromScancode_eq_some_iff {sc : Scancode} {key : Key} :
    fromScancode sc.code sc.extended = some key ↔ key.scancode = sc := by
  have hsame : ∀ key : Key,
      (key.scancode.code == sc.code && key.scancode.extended == sc.extended) = true ↔
        key.scancode = sc := by
    intro key
    rw [Bool.and_eq_true, beq_iff_eq, beq_iff_eq, Scancode.mk.injEq]
  have hfound : ∀ found, fromScancode sc.code sc.extended = some found →
      found.scancode = sc := by
    intro found h
    unfold fromScancode at h
    have hcode := List.find?_some h
    exact (hsame found).mp hcode
  constructor
  · exact hfound key
  · intro h
    cases hfind : fromScancode sc.code sc.extended with
    | none =>
        unfold fromScancode at hfind
        exact absurd ((hsame key).mpr h) (List.find?_eq_none.mp hfind key (mem_all key))
    | some found =>
        rw [scancode_injective ((hfound found hfind).trans h.symm)]

end Key

end Oxrdp
