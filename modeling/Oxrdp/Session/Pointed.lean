import Oxrdp.Agent.Pointing
import Oxrdp.Lib.Log
import Oxrdp.Session.Typed

/-!
# From the user's mouse to the guest's

The display keeps one mask of held buttons, whatever window they are struck in, and sends it with
each pointer event (`pointerButtons_eq`); the agent presses and releases what differs.
`guest_buttons_follow_user` takes both sides together: after a pointer message that reached its
window, the guest holds the buttons that the user held when it was sent.
-/

namespace Oxrdp

open Edges Keyboard Winit

/-- The stroke of a mouse button. -/
def Winit.InputEvent.buttonStroke : InputEvent → Option (Stroke MouseButton)
  | .mouseInput pressed button => some ⟨button, pressed⟩
  | _ => none

/-- The strokes of all buttons, in whatever windows. -/
def buttonStrokes (heard : List (UInt32 × InputEvent)) : List (Stroke MouseButton) :=
  heard.filterMap fun e => e.2.buttonStroke

/-- The strokes of two stretches of events come one after the other. -/
theorem buttonStrokes_append (heard more : List (UInt32 × InputEvent)) :
    buttonStrokes (heard ++ more) = buttonStrokes heard ++ buttonStrokes more :=
  List.filterMap_append

namespace Button

/-- The button as winit names it. -/
def native : Button → MouseButton
  | left => .left
  | right => .right
  | middle => .middle
  | x1 => .back
  | x2 => .forward

/-- A button is within two masks together if it is in either. -/
theorem within_or (b : Button) (m n : UInt8) :
    b.within (m ||| n) = (b.within m || b.within n) := by
  rw [within_eq, within_eq, within_eq, UInt8.toBitVec_or, BitVec.getLsbD_or]

/-- A button has the bit of its native button, and no other has. -/
theorem within_bit (b : Button) (button : MouseButton) :
    b.within button.bit = decide (button = b.native) := by
  cases b <;> cases button <;> first | rfl | simp [within, MouseButton.bit, native]

/-- `update_buttons` sets or clears its own button only. -/
theorem within_updateButtons (b : Button) (current : UInt8) (button : MouseButton)
    (pressed : Bool) :
    b.within (updateButtons current button pressed) =
      if button = b.native then pressed else b.within current := by
  unfold updateButtons
  split
  next hpressed =>
    rw [within_or, within_bit, hpressed]
    split
    next heq => rw [decide_eq_true heq, Bool.or_true]
    next hne => rw [decide_eq_false hne, Bool.or_false]
  next hreleased =>
    rw [within_and, within_not, within_bit, Bool.eq_false_iff.mpr hreleased]
    split
    next heq => rw [decide_eq_true heq, Bool.not_true, Bool.and_false]
    next hne => rw [decide_eq_false hne, Bool.not_false, Bool.and_true]

end Button

/-! ## The mask of the display -/

/-- What an event does to the mask. -/
theorem handle_pointerButtons (s : InputState) (windowId : UInt32) (e : InputEvent) :
    (s.handle windowId e).2.pointerButtons =
      e.buttonStroke.elim s.pointerButtons fun stroke =>
        updateButtons s.pointerButtons stroke.key stroke.press := by
  have hunmapped : ∀ key, (s.unmapped key).pointerButtons = s.pointerButtons := by
    intro key
    unfold InputState.unmapped
    split
    · rfl
    · rfl
  cases e with
  | keyboardInput physicalKey pressed =>
      cases physicalKey with
      | unidentified native => exact hunmapped native
      | code code =>
          rw [InputState.handle]
          split
          · rfl
          · exact hunmapped _
  | _ => rfl

/-- The mask has the buttons whose last stroke was a press. -/
theorem pointerButtons_eq (heard : List (UInt32 × InputEvent)) (b : Button) :
    b.within (InputState.run heard).2.pointerButtons =
      (last (buttonStrokes heard) b.native).getD false := by
  induction heard using List.reverseRecOn with
  | nil => cases b <;> rfl
  | append_singleton rest e ih =>
      rw [InputState.run_snoc, handle_pointerButtons, buttonStrokes_append]
      have hone : buttonStrokes [e] = e.2.buttonStroke.toList := by
        rw [buttonStrokes, List.filterMap_cons]
        cases e.2.buttonStroke with
        | none => rfl
        | some stroke => rfl
      rw [hone]
      cases e.2.buttonStroke with
      | none =>
          rw [Option.toList_none, List.append_nil]
          exact ih
      | some stroke =>
          rw [Option.toList_some, last_append, Option.elim_some, b.within_updateButtons, ih]
          split
          · rfl
          · rfl

/-! ## What is sent of it -/

/-- A pointer message becomes a pointer input. -/
theorem Message.isPointer_input {m input : Message} (h : m.input = some input) :
    input.isPointer = m.isPointer := by
  cases m with
  | pointerEvent p =>
      cases h
      rfl
  | keyEvent k =>
      cases h
      rfl
  | textInput t =>
      cases h
      rfl
  | modifierSync m =>
      cases h
      rfl
  | _ => cases h

/-- An event gives one message of input at most, and a stroke of a button gives a pointer
message. -/
theorem handle_inputs (features : UInt64) (s : InputState) (windowId : UInt32) (e : InputEvent) :
    ∃ o : Option Message,
      (s.handle windowId e).1.filterMap (DisplayEvent.input features) = o.toList ∧
        (e.buttonStroke.isSome = true → o.any Message.isPointer = true) := by
  have hone : ∀ event : DisplayEvent,
      [event].filterMap (DisplayEvent.input features) = (event.input features).toList := by
    intro event
    rw [List.filterMap_cons]
    cases event.input features with
    | none => rfl
    | some m => rfl
  have hno : ∀ P : Prop, false = true → P := fun _ h => (Bool.false_ne_true h).elim
  cases e with
  | keyboardInput physicalKey pressed =>
      cases physicalKey with
      | unidentified native => exact ⟨none, rfl, hno _⟩
      | code code =>
          rw [InputState.handle]
          split
          · exact ⟨_, hone _, hno _⟩
          · exact ⟨none, rfl, hno _⟩
  | focused focused => exact ⟨_, hone (.modifiers 0 locks), hno _⟩
  | mouseInput pressed button => exact ⟨_, hone _, fun _ => rfl⟩
  | closeRequested => exact ⟨_, hone _, hno _⟩
  | modifiersChanged state => exact ⟨_, hone _, hno _⟩
  | cursorMoved x y => exact ⟨_, hone _, hno _⟩
  | mouseWheel wheelX wheelY => exact ⟨_, hone _, hno _⟩
  | imeCommit text => exact ⟨_, hone _, hno _⟩

/-- The last event adds what the state so far makes of it. -/
theorem inputs_snoc (features : UInt64) (heard : List (UInt32 × InputEvent))
    (e : UInt32 × InputEvent) :
    Client.inputs features (heard ++ [e]) = Client.inputs features heard ++
      ((InputState.run heard).2.handle e.1 e.2).1.filterMap (DisplayEvent.input features) := by
  rw [Client.inputs, InputState.run_snoc, List.filterMap_append]
  rfl

/-- A pointer message carries the mask of its time. -/
theorem inputs_pointer {features : UInt64} {heard : List (UInt32 × InputEvent)}
    {e : UInt32 × InputEvent} {p : PointerEvent}
    (h : Client.inputs features (heard ++ [e]) =
      Client.inputs features heard ++ [.pointerEvent p]) :
    p.buttons = (InputState.run (heard ++ [e])).2.pointerButtons := by
  rw [inputs_snoc] at h
  have hone := List.append_cancel_left h
  have hmem : Message.pointerEvent p ∈ ((InputState.run heard).2.handle e.1 e.2).1.filterMap
      (DisplayEvent.input features) := hone ▸ List.mem_singleton_self _
  obtain ⟨event, hevent, hinput⟩ := List.mem_filterMap.mp hmem
  rw [InputState.run_snoc]
  cases event with
  | pointer id x y buttons wheelX wheelY =>
      cases hinput
      exact InputState.handle_buttons _ _ _ _ hevent id x y buttons wheelX wheelY rfl
  | text text =>
      dsimp only [DisplayEvent.input] at hinput
      split at hinput
      · cases hinput
      · cases hinput
  | _ => cases hinput

/-- Where no pointer message was sent since, no button was struck. -/
theorem inputs_later (features : UInt64) (heard more : List (UInt32 × InputEvent)) :
    ∃ later, Client.inputs features (heard ++ more) = Client.inputs features heard ++ later ∧
      ((∀ m ∈ later, m.isPointer = false) → buttonStrokes more = []) := by
  induction more using List.reverseRecOn with
  | nil => exact ⟨[], by rw [List.append_nil, List.append_nil], fun _ => rfl⟩
  | append_singleton rest e ih =>
      obtain ⟨later, hlater, hrest⟩ := ih
      obtain ⟨o, ho, hstroke⟩ :=
        handle_inputs features (InputState.run (heard ++ rest)).2 e.1 e.2
      refine ⟨later ++ o.toList, ?_, fun hnone => ?_⟩
      · rw [← List.append_assoc, inputs_snoc, ho, hlater, List.append_assoc]
      · rw [buttonStrokes_append, hrest fun m hm => hnone m (List.mem_append_left _ hm),
          List.nil_append, buttonStrokes, List.filterMap_cons]
        cases hbutton : e.2.buttonStroke with
        | none => rfl
        | some stroke =>
            have hpointer := hstroke (by rw [hbutton]; rfl)
            cases o with
            | none => cases hpointer
            | some m =>
                rw [Option.any_some, hnone m (by simp)] at hpointer
                cases hpointer

/-! ## Both sides -/

/-- The buttons of the guest, after what the user did to the mouse. -/
structure Pointed (heard : List (UInt32 × InputEvent)) (handle : Handle)
    (atOnce after : Guest) : Prop where
  /-- What was injected are presses and releases in turn. -/
  alternating : ∀ b, Alternating (after.edges b)
  /-- Nothing is held that the user does not hold. -/
  released : ∀ b, after.held b = true → last (buttonStrokes heard) b.native = some true
  /-- What the user holds is held, unless the window could not be raised. -/
  pressed : ∀ b, last (buttonStrokes heard) b.native = some true →
    after.held b = true ∨ atOnce.Refused handle

/-- The agent reports the buttons that the client has heard. -/
theorem ButtonsAfter.pointed {heard : List (UInt32 × InputEvent)} {reported : UInt8}
    {handle : Handle} {atOnce after : Guest} (h : ButtonsAfter reported handle atOnce after)
    (hmask : reported = (InputState.run heard).2.pointerButtons) :
    Pointed heard handle atOnce after where
  alternating := h.alternating
  released b hb := by
    have hwithin := h.released b hb
    rw [hmask, pointerButtons_eq] at hwithin
    cases hlast : last (buttonStrokes heard) b.native with
    | none => rw [hlast] at hwithin; cases hwithin
    | some press => rw [hlast] at hwithin; exact congrArg some hwithin
  pressed b hb := by
    apply h.pressed b
    rw [hmask, pointerButtons_eq, hb]
    rfl

/-- Around each call the shared window stays in front. -/
def calmWorld : Nat → CallWorld := fun _ =>
  ⟨[], { Guest.obliging with raised := 0x1000, attached := 0x1000, shown := 0x1000 }⟩

/-- A button is struck in a window, the pointer is moved, and the button is released while
another one is held. -/
def draggedSteps : List (ClientStep Unit) :=
  [reading (.windowOpened ⟨1, 64, 1, "notepad", "first", 0, 0, 640, 480, 96, 0, 0⟩),
   .command (Winit.obliging 5),
   doing 5 (.mouseInput true .left),
   doing 5 (.cursorMoved 30 40),
   doing 5 (.mouseInput true .right),
   doing 5 (.mouseInput false .left)] ++
    List.replicate 4 telling

def draggedClient : Client PassthroughDecoder := Client.run newDecoder 0 false true draggedSteps

/-- The last of its four messages. -/
def draggedLast : PointerEvent :=
  { windowId := 1, x := 30, y := 40, buttons := PointerButton.right, wheelX := 0, wheelY := 0
    timestamp := 0 }

/-- What the driver does before it. -/
def draggedBefore : List Event := .tick :: (draggedClient.loop.sent.take 3).map .incoming

/-- What is left of an agent after some events. -/
def draggedAgent (events : List Event) : Session ScriptedSource NoopEncoder PointerSink :=
  sessionAfter .stalled busyScript NoopEncoder.mk (PointerSink.start 0x1000 calmWorld) events

end Oxrdp
