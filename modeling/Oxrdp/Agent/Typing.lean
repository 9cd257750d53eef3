import Oxrdp.Agent.Authorization
import Oxrdp.Agent.Keyboard

/-!
# A session of typing

What a run of the driver does to the keys of the guest.  Frames, acknowledgements, pointer input
and window control pass the keyboard by, so that the sink is what the key messages have made of
it, in their order (`running_keys`).

From there on it is about lists of acts on a documented guest.  A plain key is down exactly if
the last key event that reaches it was a press (`plain_held`); a modifier or a lock is as the
last sync has set it, unless it has been struck since.
-/

namespace Oxrdp

open Effect Keyboard

/-- What the client asks of the keyboard. -/
inductive KeyAct where
  | key (scancode : UInt16) (extended pressed : Bool)
  | text (text : String)
  | sync (modifiers : UInt16) (locks : UInt8)
  deriving DecidableEq, Repr

/-- What a message asks of the keyboard; text only counts where it was negotiated. -/
def Message.keyAct (textInput : Bool) : Message → Option KeyAct
  | .keyEvent k =>
      some (.key k.scancode (k.flags &&& KeyFlag.extended != 0) k.isPressed)
  | .textInput t => if textInput then some (.text t.text) else none
  | .modifierSync m => some (.sync m.modifiers m.locks)
  | _ => none

def Event.keyAct (textInput : Bool) : Event → Option KeyAct
  | .incoming msg => msg.keyAct textInput
  | _ => none

/-- What an act does to the sink. -/
def KeyboardSink.act {G : Type} [GuestKeyboard G] (k : KeyboardSink G) :
    KeyAct → KeyboardSink G
  | .key scancode extended pressed => k.keyEvent scancode extended pressed
  | .text text => k.textInput text
  | .sync modifiers locks => k.modifierSync modifiers locks

/-! ## The driver -/

section Driver

variable {W E G : Type} [WindowSource W] [FrameEncoder E] [GuestKeyboard G] {cfg : Config}

/-- The sink after a turn of the driver loop. -/
theorem step_keys (cfg : Config) (event : Event) (s : Session W E (KeyboardSink G)) :
    (leftBy ((step cfg event).run s)).sink =
      ((event.keyAct cfg.textInputEnabled).map s.sink.act).getD s.sink := by
  cases event with
  | readerStopped => rfl
  | writerStopped failed => rfl
  | tick => exact sink_left tick_sink s
  | incoming msg =>
      cases msg with
      | pointerEvent p =>
          refine sink_left (keeps_get.bind fun a => ?_) s
          cases a.streams.lookup p.windowId with
          | none => exact keeps_pure _
          | some st => exact keeps_modify fun _ => rfl
      | windowControl w =>
          refine sink_left (keeps_ite (keeps_get.bind fun a => ?_) (keeps_pure _)) s
          cases a.streams.lookup w.windowId with
          | none => exact keeps_pure _
          | some st => exact keeps_modify fun _ => rfl
      | textInput t =>
          change (leftBy (EStateM.run
            (if cfg.textInputEnabled then inject fun sink => InputSink.textInput sink t.text
              else pure ()) s)).sink =
            ((if cfg.textInputEnabled then some (KeyAct.text t.text) else none).map
              s.sink.act).getD s.sink
          cases cfg.textInputEnabled with
          | false => rfl
          | true => rfl
      | keyEvent k => rfl
      | modifierSync m => rfl
      | frameAck ack =>
          refine sink_left (keeps_get.bind fun a => ?_) s
          cases a.streams.lookup ack.windowId with
          | none => exact keeps_pure _
          | some st => exact keeps_modify fun _ => rfl
      | ping p =>
          refine sink_left ?_ s
          exact (sink_of_platform elapsedUs_platform).bind fun _ =>
            sink_of_platform (send_platform _ _)
      | _ => rfl

/-- A run leaves the keyboard to the key messages. -/
theorem drive_keys {s s' : Session W E (KeyboardSink G)} {events : List Event}
    (hrun : (drive cfg events).run s = .ok ⟨⟩ s') :
    s'.sink = (events.filterMap (Event.keyAct cfg.textInputEnabled)).foldl
      KeyboardSink.act s.sink := by
  induction events generalizing s with
  | nil =>
      cases hrun
      rfl
  | cons event rest ih =>
      have hstep := step_keys cfg event s
      rw [drive_cons] at hrun
      cases hone : (step cfg event).run s with
      | error e m =>
          rw [hone] at hrun
          cases hrun
      | ok u m =>
          rw [hone] at hrun hstep
          rw [ih hrun, show m.sink = _ from hstep]
          cases hact : event.keyAct cfg.textInputEnabled with
          | none =>
              rw [List.filterMap_cons_none hact]
              rfl
          | some a =>
              rw [List.filterMap_cons_some hact]
              rfl

/-- **The keyboard of a run** is what the acts of its events make of it. -/
theorem running_keys {source : W} {encoder : E} {sink : KeyboardSink G} {events : List Event}
    {s : Session W E (KeyboardSink G)} (hrun : Running cfg source encoder sink events s) :
    s.sink = (events.filterMap (Event.keyAct cfg.textInputEnabled)).foldl
      KeyboardSink.act sink :=
  drive_keys hrun

end Driver

/-! ## Acts on a documented guest -/

namespace KeyAct

/-- The stroke of a key event. -/
def stroke (layout : Scancode → VirtualKey) : KeyAct → Option (Stroke VirtualKey)
  | .key scancode extended pressed => some ⟨layout ⟨scancode, extended⟩, pressed⟩
  | _ => none

/-- An act that is no sync, and strikes another key if any. -/
def Leaves (layout : Scancode → VirtualKey) (vk : VirtualKey) : KeyAct → Prop
  | .key scancode extended _ => layout ⟨scancode, extended⟩ ≠ vk
  | .text _ => True
  | .sync _ _ => False

instance (layout : Scancode → VirtualKey) (vk : VirtualKey) (a : KeyAct) :
    Decidable (a.Leaves layout vk) := by
  cases a <;> unfold Leaves <;> infer_instance

end KeyAct

namespace KeyboardSink

variable {G : Type} [GuestKeyboard G] {layout : Scancode → VirtualKey}
  (h : Documented G layout) (k : KeyboardSink G) {vk : VirtualKey}

include h

/-- Text touches no key. -/
theorem textInput_other (hvk : vk ≠ Vk.packet) (text : String) :
    (k.textInput text).isKeyDown vk = k.isKeyDown vk ∧
      (k.textInput text).isToggled vk = k.isToggled vk := by
  have hboard := board_textInput h k text
  have hframe := Board.foldl_frame (k := vk) (f := Board.strike Vk.isLock)
    (l := (encodeUtf16 text.toList).flatMap fun _ =>
      [(⟨Vk.packet, true⟩ : Stroke VirtualKey), ⟨Vk.packet, false⟩]) ?_ k.board
  · rw [← hboard] at hframe
    exact hframe
  · intro s hs b
    have hkey : s.key = Vk.packet := by
      obtain ⟨unit, -, hmem⟩ := List.mem_flatMap.mp hs
      rw [List.mem_cons, List.mem_singleton] at hmem
      rcases hmem with rfl | rfl <;> rfl
    have hne : vk ≠ s.key := hkey ▸ hvk
    exact ⟨(Board.strike_held ..).trans (if_neg hne), Board.strike_lit_ne _ _ hne⟩

/-- A key event decides over the key that it is for. -/
theorem keyEvent_held (scancode : UInt16) (extended pressed : Bool) :
    (k.keyEvent scancode extended pressed).isKeyDown vk =
      if layout ⟨scancode, extended⟩ = vk then pressed else k.isKeyDown vk := by
  have hheld := Board.strike_held Vk.isLock k.board ⟨layout ⟨scancode, extended⟩, pressed⟩ vk
  rw [← board_keyEvent h] at hheld
  refine hheld.trans ?_
  by_cases heq : vk = layout ⟨scancode, extended⟩
  · rw [if_pos heq, if_pos heq.symm]
  · rw [if_neg heq, if_neg (Ne.symm heq)]
    rfl

/-- A key event lights no other lock. -/
theorem keyEvent_lit_ne {scancode : UInt16} {extended : Bool} (pressed : Bool)
    (hne : layout ⟨scancode, extended⟩ ≠ vk) :
    (k.keyEvent scancode extended pressed).isToggled vk = k.isToggled vk := by
  have hlit := Board.strike_lit_ne Vk.isLock k.board
    (s := ⟨layout ⟨scancode, extended⟩, pressed⟩) hne.symm
  rw [← board_keyEvent h] at hlit
  exact hlit

/-- A plain key is what its last event made of it. -/
theorem plain_held (hpacket : vk ≠ Vk.packet) (hplain : ¬ Named vk) (acts : List KeyAct) :
    (acts.foldl act k).isKeyDown vk =
      (last (acts.filterMap (KeyAct.stroke layout)) vk).getD (k.isKeyDown vk) := by
  induction acts using List.reverseRecOn with
  | nil => rfl
  | append_singleton rest a ih =>
      rw [List.foldl_append, List.filterMap_append]
      cases a with
      | key scancode extended pressed =>
          change ((rest.foldl act k).keyEvent scancode extended pressed).isKeyDown vk =
            (last (_ ++ [⟨layout ⟨scancode, extended⟩, pressed⟩]) vk).getD _
          rw [keyEvent_held h, last_append, ih]
          dsimp only
          split
          · rfl
          · rfl
      | text text =>
          change ((rest.foldl act k).textInput text).isKeyDown vk = (last (_ ++ []) vk).getD _
          rw [(textInput_other h _ hpacket text).1, List.append_nil, ih]
      | sync modifiers locks =>
          change ((rest.foldl act k).modifierSync modifiers locks).isKeyDown vk =
            (last (_ ++ []) vk).getD _
          rw [(modifierSync_other h _ modifiers locks hplain).1, List.append_nil, ih]

/-- Acts that leave a key alone. -/
theorem foldl_leaves (hpacket : vk ≠ Vk.packet) {acts : List KeyAct}
    (hleaves : ∀ a ∈ acts, a.Leaves layout vk) :
    (acts.foldl act k).isKeyDown vk = k.isKeyDown vk ∧
      (acts.foldl act k).isToggled vk = k.isToggled vk := by
  induction acts generalizing k with
  | nil => exact ⟨rfl, rfl⟩
  | cons a rest ih =>
      obtain ⟨hheld, hlit⟩ := ih (k.act a) fun b hb => hleaves b (List.mem_cons_of_mem a hb)
      rw [List.foldl_cons, hheld, hlit]
      have ha := hleaves a List.mem_cons_self
      cases a with
      | key scancode extended pressed =>
          exact ⟨(keyEvent_held h k ..).trans (if_neg ha), keyEvent_lit_ne h k pressed ha⟩
      | text text => exact textInput_other h k hpacket text
      | sync modifiers locks => exact ha.elim

/-- A lock that is found down went down in its last event, or was down before; taps of a sync
leave it up. -/
theorem lock_held (hpacket : vk ≠ Vk.packet) (hlock : Vk.isLock vk = true)
    {acts : List KeyAct} (hdown : (acts.foldl act k).isKeyDown vk = true) :
    (last (acts.filterMap (KeyAct.stroke layout)) vk).getD (k.isKeyDown vk) = true := by
  induction acts using List.reverseRecOn with
  | nil => exact hdown
  | append_singleton rest a ih =>
      rw [List.foldl_append] at hdown
      rw [List.filterMap_append]
      cases a with
      | key scancode extended pressed =>
          change ((rest.foldl act k).keyEvent scancode extended pressed).isKeyDown vk = true
            at hdown
          change (last (_ ++ [⟨layout ⟨scancode, extended⟩, pressed⟩]) vk).getD _ = true
          rw [keyEvent_held h] at hdown
          rw [last_append]
          split at hdown
          next heq => rw [if_pos heq, hdown, Option.getD_some]
          next hne => rw [if_neg hne, ih hdown]
      | text text =>
          change ((rest.foldl act k).textInput text).isKeyDown vk = true at hdown
          change (last (_ ++ []) vk).getD _ = true
          rw [List.append_nil]
          exact ih ((textInput_other h _ hpacket text).1.symm.trans hdown)
      | sync modifiers locks =>
          change ((rest.foldl act k).modifierSync modifiers locks).isKeyDown vk = true at hdown
          change (last (_ ++ []) vk).getD _ = true
          obtain ⟨l, hl, rfl⟩ := exists_light hlock locks
          rw [(modifierSync_lock h _ modifiers locks hl).2, Bool.and_eq_true] at hdown
          rw [List.append_nil]
          exact ih hdown.1

end KeyboardSink

/-! ## A run -/

/-- What a session of typing comes to, for the keys of a guest. -/
structure KeysFollow {G : Type} [GuestKeyboard G] (layout : Scancode → VirtualKey)
    (before : KeyboardSink G) (acts : List KeyAct) (after : KeyboardSink G) : Prop where
  /-- A plain key is down if its last event was a press. -/
  plain : ∀ vk, vk ≠ Vk.packet → ¬ KeyboardSink.Named vk →
    after.isKeyDown vk =
      (last (acts.filterMap (KeyAct.stroke layout)) vk).getD (before.isKeyDown vk)
  /-- A modifier is what the last sync said, if its keys have not been struck since. -/
  modifier : ∀ (first rest : List KeyAct) (modifiers : UInt16) (locks : UInt8),
    acts = first ++ .sync modifiers locks :: rest → ∀ w ∈ KeyboardSink.wishes modifiers,
      (∀ a ∈ rest, a.Leaves layout w.left ∧ a.Leaves layout w.right) →
        (after.isKeyDown w.left || after.isKeyDown w.right) = w.want
  /-- A lock has the light of the last sync, if it was up then and not struck since. -/
  lock : ∀ (first rest : List KeyAct) (modifiers : UInt16) (locks : UInt8),
    acts = first ++ .sync modifiers locks :: rest → ∀ l ∈ KeyboardSink.lights locks,
      (last (first.filterMap (KeyAct.stroke layout)) l.1).getD (before.isKeyDown l.1) = false →
        (∀ a ∈ rest, a.Leaves layout l.1) → after.isToggled l.1 = l.2

/-- **Acts in a row** leave each key as its last act does. -/
theorem keysFollow_acts {G : Type} [GuestKeyboard G] {layout : Scancode → VirtualKey}
    (h : Documented G layout) (k : KeyboardSink G) (acts : List KeyAct) :
    KeysFollow layout k acts (acts.foldl KeyboardSink.act k) where
  plain vk hpacket hplain := KeyboardSink.plain_held h k hpacket hplain acts
  modifier := by
    rintro first rest modifiers locks rfl w hw hrest
    have hpacket : w.left ≠ Vk.packet ∧ w.right ≠ Vk.packet :=
      KeyboardSink.wish_ne_packet hw
    rw [List.foldl_append, List.foldl_cons,
      (KeyboardSink.foldl_leaves h _ hpacket.1 fun a ha => (hrest a ha).1).1,
      (KeyboardSink.foldl_leaves h _ hpacket.2 fun a ha => (hrest a ha).2).1]
    obtain ⟨hleft, hright⟩ :=
      KeyboardSink.modifierSync_pair h (first.foldl KeyboardSink.act k) modifiers locks hw
    change (((first.foldl KeyboardSink.act k).modifierSync modifiers locks).isKeyDown w.left ||
      ((first.foldl KeyboardSink.act k).modifierSync modifiers locks).isKeyDown w.right) = w.want
    rw [hleft, hright]
    cases w.want <;> cases (first.foldl KeyboardSink.act k).isKeyDown w.left <;>
      cases (first.foldl KeyboardSink.act k).isKeyDown w.right <;> decide
  lock := by
    rintro first rest modifiers locks rfl l hl hup hrest
    have hlock := KeyboardSink.isLock_lights hl
    have hpacket := KeyboardSink.lock_ne_packet hlock
    rw [List.foldl_append, List.foldl_cons,
      (KeyboardSink.foldl_leaves h _ hpacket hrest).2]
    have hheld : (first.foldl KeyboardSink.act k).isKeyDown l.1 = false := by
      by_contra hdown
      have hlast := KeyboardSink.lock_held h k hpacket hlock (Bool.eq_true_of_not_eq_false hdown)
      rw [hup] at hlast
      cases hlast
    have hlit :=
      (KeyboardSink.modifierSync_lock h (first.foldl KeyboardSink.act k) modifiers locks hl).1
    rw [hheld] at hlit
    exact hlit

/-- Ctrl and A go down, ticks pass, the client window loses the focus, and A is released. -/
def heldEvents : List Event :=
  [.incoming (.keyEvent { scancode := 0x1D, flags := 1, timestamp := 0 }), .tick,
   .incoming (.keyEvent { scancode := 0x1E, flags := 1, timestamp := 1 }), .tick,
   .incoming (.modifierSync { modifiers := 0, locks := 0 }),
   .incoming (.keyEvent { scancode := 0x1E, flags := 0, timestamp := 2 })]

/-- Is it a character, rather than a key? -/
def KeybdInput.isCharacter (input : KeybdInput) : Bool :=
  input.flags &&& KeyboardEvent.unicode != 0

/-- The events that type some units. -/
def typeUnits (units : List UInt16) : List KeybdInput :=
  units.flatMap fun unit => [unicodeInput unit false, unicodeInput unit true]

/-- The text of an act. -/
def KeyAct.chars : KeyAct → List Char
  | .text t => t.toList
  | _ => []

namespace KeyboardSink

variable {G : Type} [GuestKeyboard G]

/-- What was injected, without the keys. -/
def characters (k : KeyboardSink G) : List KeybdInput := k.injected.filter KeybdInput.isCharacter

/-- What is sent adds its characters. -/
theorem characters_sendInputs (k : KeyboardSink G) (inputs : List KeybdInput) :
    (k.sendInputs inputs).characters =
      k.characters ++ inputs.filter KeybdInput.isCharacter := by
  unfold sendInputs
  cases inputs with
  | nil => exact (List.append_nil _).symm
  | cons i rest => exact List.filter_append ..

/-- A key event is no character. -/
theorem characters_keyEvent (k : KeyboardSink G) (scancode : UInt16) (extended pressed : Bool) :
    (k.keyEvent scancode extended pressed).characters = k.characters := by
  have hkey : (scanInput scancode extended pressed).isCharacter = false :=
    (scanInput_flags extended pressed).1
  rw [keyEvent, characters_sendInputs, List.filter_cons_of_neg (ne_true_of_eq_false hkey),
    List.filter_nil, List.append_nil]

/-- A held modifier is no character. -/
theorem characters_syncHeld (k : KeyboardSink G) (wantDown : Bool) (left right : Key)
    (vkLeft vkRight : VirtualKey) :
    (k.syncHeld wantDown left right vkLeft vkRight).characters = k.characters := by
  unfold syncHeld
  split
  · split
    · exact characters_keyEvent ..
    · rfl
  · exact (characters_keyEvent ..).trans (characters_keyEvent ..)

/-- Synchronising a lock types nothing. -/
theorem characters_syncLock (k : KeyboardSink G) (wantOn : Bool) (key : Key)
    (vk : VirtualKey) : (k.syncLock wantOn key vk).characters = k.characters := by
  unfold syncLock
  split
  · exact (characters_keyEvent ..).trans (characters_keyEvent ..)
  · rfl

/-- So a sync types nothing. -/
theorem characters_modifierSync (k : KeyboardSink G) (modifiers : UInt16) (locks : UInt8) :
    (k.modifierSync modifiers locks).characters = k.characters := by
  unfold modifierSync
  simp only [characters_syncLock, characters_syncHeld]

/-- What types a text is characters only. -/
theorem filter_typeUnits (units : List UInt16) :
    (typeUnits units).filter KeybdInput.isCharacter = typeUnits units := by
  apply List.filter_eq_self.mpr
  intro input hinput
  obtain ⟨unit, -, hmem⟩ := List.mem_flatMap.mp hinput
  rw [List.mem_cons, List.mem_singleton] at hmem
  rcases hmem with rfl | rfl
  · exact (unicodeInput_flags false).1
  · exact (unicodeInput_flags true).1

/-- An act types its text, if it has one. -/
theorem characters_act (k : KeyboardSink G) (a : KeyAct) :
    (k.act a).characters = k.characters ++ typeUnits (encodeUtf16 a.chars) := by
  cases a with
  | key scancode extended pressed =>
      exact (characters_keyEvent ..).trans (List.append_nil _).symm
  | text text =>
      exact (characters_sendInputs ..).trans (congrArg _ (filter_typeUnits _))
  | sync modifiers locks =>
      exact (characters_modifierSync ..).trans (List.append_nil _).symm

/-- **Acts in a row** type their texts in order. -/
theorem characters_acts (k : KeyboardSink G) (acts : List KeyAct) :
    (acts.foldl act k).characters =
      k.characters ++ typeUnits (encodeUtf16 (acts.flatMap KeyAct.chars)) := by
  induction acts generalizing k with
  | nil => exact (List.append_nil _).symm
  | cons a rest ih =>
      rw [List.foldl_cons, ih, characters_act, List.append_assoc, List.flatMap_cons]
      unfold encodeUtf16 typeUnits
      rw [← List.flatMap_append, ← List.flatMap_append]

end KeyboardSink

/-- **Text arrives.**  In any run of a session the characters that are injected are those of
the texts, in their order, unit by unit pressed and released; read as UTF-16 they are the
texts. -/
theorem session_text_arrives {W E G : Type} [WindowSource W] [FrameEncoder E]
    [GuestKeyboard G] {cfg : Config} {source : W} {encoder : E} {guest : G}
    {events : List Event} {s : Session W E (KeyboardSink G)}
    (hrun : Running cfg source encoder ⟨guest, []⟩ events s) :
    ∃ units,
      s.sink.injected.filter KeybdInput.isCharacter = typeUnits units ∧
      decodeUtf16 units =
        some ((events.filterMap (Event.keyAct cfg.textInputEnabled)).flatMap KeyAct.chars) := by
  refine ⟨_, ?_, decodeUtf16_encode _⟩
  rw [running_keys hrun]
  exact KeyboardSink.characters_acts ⟨guest, []⟩ _

/-- A session that negotiated text input. -/
def Config.typing : Config := { Config.stalled with textInputEnabled := true }

def composedEvents : List Event :=
  [.incoming (.textInput { text := String.ofList ['e', '\u0301'] }), .tick,
   .incoming (.keyEvent { scancode := 0x1E, flags := 1, timestamp := 0 }),
   .incoming (.textInput { text := String.ofList [Char.ofNat 0x1F600] })]

/-- The accent that was composed and the character beyond the first plane arrive whole. -/
theorem session_text_arrives_composed :
    ∃ units,
      (sessionAfter .typing busyScript NoopEncoder.mk
        (⟨stuckGuest.guest, []⟩ : KeyboardSink PlainGuest) composedEvents).sink.injected.filter
          KeybdInput.isCharacter = typeUnits units ∧
      decodeUtf16 units = some ['e', '\u0301', Char.ofNat 0x1F600] := by
  obtain ⟨units, hunits, htext⟩ := session_text_arrives
    (running_sessionAfter .typing busyScript NoopEncoder.mk
      (⟨stuckGuest.guest, []⟩ : KeyboardSink PlainGuest) composedEvents (by decide +kernel))
  refine ⟨units, hunits, htext.trans ?_⟩
  change some ((String.ofList ['e', '\u0301']).toList ++
    ([] ++ ((String.ofList [Char.ofNat 0x1F600]).toList ++ []))) = _
  rw [String.toList_ofList, String.toList_ofList]
  rfl

end Oxrdp
