import Oxrdp.Agent.Platform
import Oxrdp.Lib.Keyboard
import Oxrdp.Pdu.Text
import Oxrdp.Proto.Message.Input
import Oxrdp.Proto.Scancode

/-!
# Keys on the guest

The keyboard half of `WinInputSink` (`win/input.rs`).  Keys are injected by scancode and text as
Unicode characters; `modifier_sync` brings the modifiers and the locks of the guest to a given
state, which it can only do by strokes that depend on what Windows says is held or lit.

The guest is whatever answers `SendInput`, `GetAsyncKeyState` and `GetKeyState`.
`Documented` is what the documentation of these calls promises: events are inserted in order,
each one is a stroke of the key that the layout has at its scancode (or of `VK_PACKET`, for a
character), and the two queries show what the strokes have left.  On such a guest a sync is
`Board.settle` (`modifierSync_settles`).
-/

namespace Oxrdp

open Keyboard

/-! ## Win32 -/

/-- A virtual-key code. -/
abbrev VirtualKey := UInt16

namespace Vk

def capital : VirtualKey := 0x14
def lwin : VirtualKey := 0x5B
def rwin : VirtualKey := 0x5C
def numlock : VirtualKey := 0x90
def scroll : VirtualKey := 0x91
def lshift : VirtualKey := 0xA0
def rshift : VirtualKey := 0xA1
def lcontrol : VirtualKey := 0xA2
def rcontrol : VirtualKey := 0xA3
def lmenu : VirtualKey := 0xA4
def rmenu : VirtualKey := 0xA5
def packet : VirtualKey := 0xE7

/-- The keys with a light. -/
def isLock (vk : VirtualKey) : Bool := vk == capital || vk == numlock || vk == scroll

end Vk

namespace KeyboardEvent

def extendedKey : UInt32 := 0x0001
def keyUp : UInt32 := 0x0002
def unicode : UInt32 := 0x0004
def scancode : UInt32 := 0x0008

end KeyboardEvent

/-- A keyboard `INPUT`. -/
structure KeybdInput where
  wVk : VirtualKey
  wScan : UInt16
  flags : UInt32
  deriving DecidableEq, Repr

/-- The keyboard of the guest, as far as Win32 shows it. -/
class GuestKeyboard (G : Type) where
  sendInput : G → List KeybdInput → G
  getAsyncKeyState : G → VirtualKey → Int16
  getKeyState : G → VirtualKey → Int16

/-! ## The sink -/

/-- The guest, and all that `SendInput` was given. -/
structure KeyboardSink (G : Type) where
  guest : G
  injected : List KeybdInput

def scanInput (scancode : UInt16) (extended pressed : Bool) : KeybdInput where
  wVk := 0
  wScan := scancode
  flags := KeyboardEvent.scancode ||| (if extended then KeyboardEvent.extendedKey else 0) |||
    if pressed then 0 else KeyboardEvent.keyUp

def unicodeInput (utf16Unit : UInt16) (keyUp : Bool) : KeybdInput where
  wVk := 0
  wScan := utf16Unit
  flags := KeyboardEvent.unicode ||| if keyUp then KeyboardEvent.keyUp else 0

namespace KeyboardSink

variable {G : Type} [GuestKeyboard G]

def sendInputs (k : KeyboardSink G) (inputs : List KeybdInput) : KeyboardSink G :=
  if inputs.isEmpty then k
  else
    { guest := GuestKeyboard.sendInput k.guest inputs
      injected := k.injected ++ inputs }

def isKeyDown (k : KeyboardSink G) (vk : VirtualKey) : Bool :=
  (GuestKeyboard.getAsyncKeyState k.guest vk).toUInt16 &&& 0x8000 != 0

def isToggled (k : KeyboardSink G) (vk : VirtualKey) : Bool :=
  GuestKeyboard.getKeyState k.guest vk &&& 0x0001 != 0

/-- Inject a key by its scancode. -/
def injectKey (k : KeyboardSink G) (key : Key) (pressed : Bool) : KeyboardSink G :=
  k.sendInputs [scanInput key.scancode.code key.scancode.extended pressed]

/-- Bring a held modifier to `wantDown`.  Pressing checks both keys, releasing releases
both. -/
def syncHeld (k : KeyboardSink G) (wantDown : Bool) (left right : Key)
    (vkLeft vkRight : VirtualKey) : KeyboardSink G :=
  if wantDown then
    if !k.isKeyDown vkLeft && !k.isKeyDown vkRight then k.injectKey left true else k
  else
    (k.injectKey left false).injectKey right false

/-- Bring a lock to `wantOn` by tapping it once if the guest disagrees. -/
def syncLock (k : KeyboardSink G) (wantOn : Bool) (key : Key) (vk : VirtualKey) :
    KeyboardSink G :=
  if k.isToggled vk != wantOn then (k.injectKey key true).injectKey key false else k

def keyEvent (k : KeyboardSink G) (scancode : UInt16) (extended pressed : Bool) :
    KeyboardSink G :=
  k.sendInputs [scanInput scancode extended pressed]

def textInput (k : KeyboardSink G) (text : String) : KeyboardSink G :=
  k.sendInputs ((encodeUtf16 text.toList).flatMap fun unit =>
    [unicodeInput unit false, unicodeInput unit true])

def modifierSync (k : KeyboardSink G) (modifiers : UInt16) (locks : UInt8) : KeyboardSink G :=
  let k := k.syncHeld (modifiers &&& Modifier.shift != 0) .leftShift .rightShift
    Vk.lshift Vk.rshift
  let k := k.syncHeld (modifiers &&& Modifier.ctrl != 0) .leftControl .rightControl
    Vk.lcontrol Vk.rcontrol
  let k := k.syncHeld (modifiers &&& Modifier.alt != 0) .leftAlt .rightAlt Vk.lmenu Vk.rmenu
  let k := k.syncHeld (modifiers &&& Modifier.metaKey != 0) .leftMeta .rightMeta Vk.lwin Vk.rwin
  let k := k.syncLock (locks &&& LockState.caps != 0) .capsLock Vk.capital
  let k := k.syncLock (locks &&& LockState.num != 0) .numLock Vk.numlock
  k.syncLock (locks &&& LockState.scroll != 0) .scrollLock Vk.scroll

/-- The pointer half of the sink touches no key. -/
instance : InputSink (KeyboardSink G) where
  pointerEvent k _ _ _ _ _ _ := k
  keyEvent := keyEvent
  textInput := textInput
  modifierSync := modifierSync
  windowControl k _ _ _ _ _ _ := k

end KeyboardSink

/-! ## What Windows documents -/

/-- Which key a scancode event strokes, on a keyboard layout; a character strokes
`VK_PACKET`. -/
def KeybdInput.stroke (layout : Scancode → VirtualKey) (input : KeybdInput) :
    Stroke VirtualKey where
  key :=
    if input.flags &&& KeyboardEvent.unicode != 0 then Vk.packet
    else layout ⟨input.wScan, input.flags &&& KeyboardEvent.extendedKey != 0⟩
  press := input.flags &&& KeyboardEvent.keyUp == 0

/-- What the two queries show of a guest. -/
def KeyboardSink.board {G : Type} [GuestKeyboard G] (k : KeyboardSink G) :
    Board VirtualKey where
  held := k.isKeyDown
  lit := k.isToggled

/-- The keys that a layout does not move. -/
def fixedKeys : List (Key × VirtualKey) :=
  [(.leftShift, Vk.lshift), (.rightShift, Vk.rshift), (.leftControl, Vk.lcontrol),
   (.rightControl, Vk.rcontrol), (.leftAlt, Vk.lmenu), (.rightAlt, Vk.rmenu),
   (.leftMeta, Vk.lwin), (.rightMeta, Vk.rwin), (.capsLock, Vk.capital),
   (.numLock, Vk.numlock), (.scrollLock, Vk.scroll)]

/-- A guest that takes all input and answers as Windows documents, with its layout. -/
structure Documented (G : Type) [GuestKeyboard G] (layout : Scancode → VirtualKey) : Prop where
  /-- Events are inserted serially, and the queries show what they left. -/
  strokes : ∀ (guest : G) (log log' : List KeybdInput) (inputs : List KeybdInput),
    KeyboardSink.board ⟨GuestKeyboard.sendInput guest inputs, log⟩ =
      (inputs.map (KeybdInput.stroke layout)).foldl (Board.strike Vk.isLock)
        (KeyboardSink.board ⟨guest, log'⟩)
  /-- Modifiers and locks are where every layout has them. -/
  fixed : ∀ p ∈ fixedKeys, layout p.1.scancode = p.2

/-- The flags of a scancode stroke, by cases. -/
theorem scanInput_flags : ∀ extended pressed : Bool,
    let flags := KeyboardEvent.scancode |||
      (if extended then KeyboardEvent.extendedKey else 0) |||
      if pressed then 0 else KeyboardEvent.keyUp
    (flags &&& KeyboardEvent.unicode != 0) = false ∧
      (flags &&& KeyboardEvent.extendedKey != 0) = extended ∧
      (flags &&& KeyboardEvent.keyUp == 0) = pressed := by
  decide

/-- The flags of a character, by cases. -/
theorem unicodeInput_flags : ∀ keyUp : Bool,
    let flags := KeyboardEvent.unicode ||| if keyUp then KeyboardEvent.keyUp else 0
    (flags &&& KeyboardEvent.unicode != 0) = true ∧
      (flags &&& KeyboardEvent.keyUp == 0) = !keyUp := by
  decide

/-- A scancode strikes the key that the layout has there. -/
theorem scanInput_stroke (layout : Scancode → VirtualKey) (scancode : UInt16)
    (extended pressed : Bool) :
    (scanInput scancode extended pressed).stroke layout =
      ⟨layout ⟨scancode, extended⟩, pressed⟩ := by
  obtain ⟨hunicode, hextended, hup⟩ := scanInput_flags extended pressed
  unfold KeybdInput.stroke scanInput
  dsimp only
  rw [hunicode, hextended, hup]
  rfl

/-- A character strikes `VK_PACKET`. -/
theorem unicodeInput_stroke (layout : Scancode → VirtualKey) (unit : UInt16) (keyUp : Bool) :
    (unicodeInput unit keyUp).stroke layout = ⟨Vk.packet, !keyUp⟩ := by
  obtain ⟨hunicode, hup⟩ := unicodeInput_flags keyUp
  unfold KeybdInput.stroke unicodeInput
  dsimp only
  rw [hunicode, hup]
  rfl

namespace KeyboardSink

variable {G : Type} [GuestKeyboard G] {layout : Scancode → VirtualKey}

/-- What is sent is struck, in its order. -/
theorem board_sendInputs (h : Documented G layout) (k : KeyboardSink G)
    (inputs : List KeybdInput) :
    (k.sendInputs inputs).board =
      (inputs.map (KeybdInput.stroke layout)).foldl (Board.strike Vk.isLock) k.board := by
  unfold sendInputs
  cases inputs with
  | nil => rfl
  | cons i rest => exact h.strokes ..

/-- A key event is one stroke. -/
theorem board_keyEvent (h : Documented G layout) (k : KeyboardSink G) (scancode : UInt16)
    (extended pressed : Bool) :
    (k.keyEvent scancode extended pressed).board =
      k.board.strike Vk.isLock ⟨layout ⟨scancode, extended⟩, pressed⟩ := by
  rw [keyEvent, board_sendInputs h, List.map_singleton, scanInput_stroke]
  rfl

/-- A named key is struck where every layout has it. -/
theorem board_injectKey (h : Documented G layout) (k : KeyboardSink G) {key : Key}
    {vk : VirtualKey} (hfixed : (key, vk) ∈ fixedKeys) (pressed : Bool) :
    (k.injectKey key pressed).board = k.board.strike Vk.isLock ⟨vk, pressed⟩ := by
  have hplace : layout key.scancode = vk := h.fixed (key, vk) hfixed
  rw [← hplace]
  exact board_keyEvent h k _ _ pressed

/-- A modifier is held by either of its keys. -/
theorem board_syncHeld (h : Documented G layout) (k : KeyboardSink G) (wantDown : Bool)
    {left right : Key} {vkLeft vkRight : VirtualKey} (hleft : (left, vkLeft) ∈ fixedKeys)
    (hright : (right, vkRight) ∈ fixedKeys) :
    (k.syncHeld wantDown left right vkLeft vkRight).board =
      k.board.holdEither Vk.isLock vkLeft vkRight wantDown := by
  unfold syncHeld Board.holdEither
  change _ = if wantDown then
      if !k.isKeyDown vkLeft && !k.isKeyDown vkRight then _ else k.board
    else _
  split
  · split
    · exact board_injectKey h k hleft true
    · rfl
  · rw [board_injectKey h _ hright, board_injectKey h _ hleft]

/-- A lock is lit or put out. -/
theorem board_syncLock (h : Documented G layout) (k : KeyboardSink G) (wantOn : Bool)
    {key : Key} {vk : VirtualKey} (hkey : (key, vk) ∈ fixedKeys) :
    (k.syncLock wantOn key vk).board = k.board.light Vk.isLock vk wantOn := by
  unfold syncLock Board.light
  change _ = if k.isToggled vk ≠ wantOn then _ else k.board
  by_cases hsame : k.isToggled vk = wantOn
  · rw [if_neg (by simp [hsame]), if_neg (not_not.mpr hsame)]
  · rw [if_pos (bne_iff_ne.mpr hsame), if_pos hsame, board_injectKey h _ hkey,
      board_injectKey h _ hkey]

/-- The modifiers that a sync asks for. -/
def wishes (modifiers : UInt16) : List (Board.Wish VirtualKey) :=
  [⟨Vk.lshift, Vk.rshift, modifiers &&& Modifier.shift != 0⟩,
   ⟨Vk.lcontrol, Vk.rcontrol, modifiers &&& Modifier.ctrl != 0⟩,
   ⟨Vk.lmenu, Vk.rmenu, modifiers &&& Modifier.alt != 0⟩,
   ⟨Vk.lwin, Vk.rwin, modifiers &&& Modifier.metaKey != 0⟩]

/-- The lights that a sync asks for. -/
def lights (locks : UInt8) : List (VirtualKey × Bool) :=
  [(Vk.capital, locks &&& LockState.caps != 0), (Vk.numlock, locks &&& LockState.num != 0),
   (Vk.scroll, locks &&& LockState.scroll != 0)]

/-- A sync is that of four modifiers and three locks. -/
theorem board_modifierSync (h : Documented G layout) (k : KeyboardSink G) (modifiers : UInt16)
    (locks : UInt8) :
    (k.modifierSync modifiers locks).board =
      k.board.settle Vk.isLock (wishes modifiers) (lights locks) := by
  unfold modifierSync Board.settle wishes lights
  dsimp only [List.foldl_cons, List.foldl_nil]
  rw [board_syncLock h _ _ (by decide), board_syncLock h _ _ (by decide),
    board_syncLock h _ _ (by decide), board_syncHeld h _ _ (by decide) (by decide),
    board_syncHeld h _ _ (by decide) (by decide), board_syncHeld h _ _ (by decide) (by decide),
    board_syncHeld h _ _ (by decide) (by decide)]

/-- Text strokes nothing but `VK_PACKET`. -/
theorem board_textInput (h : Documented G layout) (k : KeyboardSink G) (text : String) :
    (k.textInput text).board =
      ((encodeUtf16 text.toList).flatMap fun _ =>
        [⟨Vk.packet, true⟩, ⟨Vk.packet, false⟩]).foldl (Board.strike Vk.isLock) k.board := by
  rw [textInput, board_sendInputs h, List.map_flatMap]
  congr 1
  apply List.flatMap_congr
  intro unit _
  rw [List.map_cons, List.map_cons, List.map_nil, unicodeInput_stroke, unicodeInput_stroke]
  rfl

/-! ## What a sync comes to -/

/-- A key that a sync is about. -/
def Named (vk : VirtualKey) : Prop := vk ∈ fixedKeys.map Prod.snd

instance (vk : VirtualKey) : Decidable (Named vk) :=
  inferInstanceAs (Decidable (vk ∈ fixedKeys.map Prod.snd))

/-- The keys that a sync names are the fixed ones. -/
theorem named_wishes (modifiers : UInt16) (locks : UInt8) :
    (Board.named (wishes modifiers) (lights locks)).Perm (fixedKeys.map Prod.snd) := by
  rfl

/-- Each key is named once. -/
theorem named_nodup (modifiers : UInt16) (locks : UInt8) :
    (Board.named (wishes modifiers) (lights locks)).Nodup := by
  have hfixed : (fixedKeys.map Prod.snd).Nodup := by decide
  exact (named_wishes modifiers locks).nodup_iff.mpr hfixed

/-- What has a light is a lock. -/
theorem isLock_lights {locks : UInt8} {l : VirtualKey × Bool} (hl : l ∈ lights locks) :
    Vk.isLock l.1 = true := by
  have hall : ∀ m ∈ lights locks, Vk.isLock m.1 = true := by
    simp only [lights, List.forall_mem_cons, List.not_mem_nil, false_implies, implies_true,
      and_true]
    decide
  exact hall l hl

/-- Each lock is named. -/
theorem exists_light {vk : VirtualKey} (hlock : Vk.isLock vk = true) (locks : UInt8) :
    ∃ l ∈ lights locks, l.1 = vk := by
  simp only [Vk.isLock, Bool.or_eq_true, beq_iff_eq] at hlock
  rcases hlock with (rfl | rfl) | rfl
  · exact ⟨_, List.mem_cons_self, rfl⟩
  · exact ⟨_, List.mem_cons_of_mem _ List.mem_cons_self, rfl⟩
  · exact ⟨_, List.mem_cons_of_mem _ (List.mem_cons_of_mem _ List.mem_cons_self), rfl⟩

/-- `VK_PACKET` is no lock. -/
theorem lock_ne_packet {vk : VirtualKey} (hlock : Vk.isLock vk = true) : vk ≠ Vk.packet := by
  rintro rfl
  cases hlock

/-- It is no modifier. -/
theorem wish_ne_packet {modifiers : UInt16} {w : Board.Wish VirtualKey}
    (hw : w ∈ wishes modifiers) : w.left ≠ Vk.packet ∧ w.right ≠ Vk.packet := by
  have hall : ∀ w ∈ wishes modifiers, w.left ≠ Vk.packet ∧ w.right ≠ Vk.packet := by
    simp only [wishes, List.forall_mem_cons, List.not_mem_nil, false_implies, implies_true,
      and_true]
    decide
  exact hall w hw

/-- A keyboard after a sync, compared with what it was before. -/
structure Synced (modifiers : UInt16) (locks : UInt8) (before after : KeyboardSink G) : Prop where
  /-- A modifier is held if and only if the sync says so. -/
  held : ∀ w ∈ wishes modifiers, (after.isKeyDown w.left || after.isKeyDown w.right) = w.want
  /-- It is held by the keys that held it, if there is nothing to change. -/
  kept : ∀ w ∈ wishes modifiers, (before.isKeyDown w.left || before.isKeyDown w.right) = w.want →
    after.isKeyDown w.left = before.isKeyDown w.left ∧
      after.isKeyDown w.right = before.isKeyDown w.right
  /-- A lock that was not held down has its light. -/
  lit : ∀ l ∈ lights locks, before.isKeyDown l.1 = false → after.isToggled l.1 = l.2
  /-- Every other key is as it was. -/
  others : ∀ vk, ¬ Named vk →
    after.isKeyDown vk = before.isKeyDown vk ∧ after.isToggled vk = before.isToggled vk

section Sync

variable (h : Documented G layout) (k : KeyboardSink G) (modifiers : UInt16) (locks : UInt8)

include h

/-- A key that no modifier and no lock is, a sync leaves as it was. -/
theorem modifierSync_other {vk : VirtualKey} (hvk : ¬ Named vk) :
    (k.modifierSync modifiers locks).isKeyDown vk = k.isKeyDown vk ∧
      (k.modifierSync modifiers locks).isToggled vk = k.isToggled vk := by
  have hnot : vk ∉ Board.named (wishes modifiers) (lights locks) := by
    rw [(named_wishes modifiers locks).mem_iff]
    exact hvk
  have hboard := Board.settle_ne Vk.isLock k.board hnot
  rw [← board_modifierSync h] at hboard
  exact hboard

/-- The keys of a modifier after a sync. -/
theorem modifierSync_pair {w : Board.Wish VirtualKey} (hw : w ∈ wishes modifiers) :
    (k.modifierSync modifiers locks).isKeyDown w.left =
        (w.want && (k.isKeyDown w.left || !k.isKeyDown w.right)) ∧
      (k.modifierSync modifiers locks).isKeyDown w.right =
        (w.want && k.isKeyDown w.right) := by
  have hboard := Board.settle_pair Vk.isLock k.board (named_nodup modifiers locks) hw
  rw [← board_modifierSync h] at hboard
  exact hboard

/-- A lock after a sync. -/
theorem modifierSync_lock {l : VirtualKey × Bool} (hl : l ∈ lights locks) :
    (k.modifierSync modifiers locks).isToggled l.1 =
        (if k.isKeyDown l.1 then k.isToggled l.1 else l.2) ∧
      (k.modifierSync modifiers locks).isKeyDown l.1 =
        (k.isKeyDown l.1 && k.isToggled l.1 == l.2) := by
  have hboard :=
    Board.settle_lock Vk.isLock k.board (named_nodup modifiers locks) hl (isLock_lights hl)
  rw [← board_modifierSync h] at hboard
  exact hboard

end Sync

end KeyboardSink

/-! ## A guest that answers as documented -/

/-- Of a US layout, the keys that are needed here. -/
def usLayout (sc : Scancode) : VirtualKey :=
  match fixedKeys.find? fun p => p.1.scancode == sc with
  | some p => p.2
  | none => if sc = Key.a.scancode then 0x41 else 0xFF

/-- A guest that is nothing but its keyboard. -/
structure PlainGuest where
  keys : Board VirtualKey

instance : GuestKeyboard PlainGuest where
  sendInput guest inputs :=
    ⟨(inputs.map (KeybdInput.stroke usLayout)).foldl (Board.strike Vk.isLock) guest.keys⟩
  getAsyncKeyState guest vk := if guest.keys.held vk then -32768 else 0
  getKeyState guest vk := if guest.keys.lit vk then 1 else 0

/-- The plain guest's board is its keys. -/
theorem board_plain (guest : PlainGuest) (log : List KeybdInput) :
    KeyboardSink.board ⟨guest, log⟩ = guest.keys := by
  have hdown : ∀ b : Bool, ((if b then -32768 else 0 : Int16).toUInt16 &&& 0x8000 != 0) = b := by
    decide
  have hlit : ∀ b : Bool, ((if b then 1 else 0 : Int16) &&& 0x0001 != 0) = b := by
    decide
  ext vk
  · exact hdown (guest.keys.held vk)
  · exact hlit (guest.keys.lit vk)

/-- The plain guest does what the documentation promises. -/
theorem documented_plain : Documented PlainGuest usLayout where
  strokes guest log log' inputs := by
    rw [board_plain, board_plain]
    rfl
  fixed := by decide

/-- A guest on which the right shift key and Caps Lock were left on. -/
def stuckGuest : KeyboardSink PlainGuest where
  guest := ⟨⟨fun vk => vk == Vk.rshift, fun vk => vk == Vk.capital⟩⟩
  injected := []

end Oxrdp
