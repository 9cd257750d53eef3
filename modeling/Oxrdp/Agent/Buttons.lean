import Oxrdp.Agent.Foreground
import Oxrdp.Lib.Edges

/-!
# Held buttons

The wire reports which buttons are held, and `SendInput` wants them pressed and released.
`WinInputSink` takes the difference to what it has last injected, `last_buttons`, from which it
leaves out the presses that it withholds.

`Guest.edges` are the presses and releases of one button that were injected, and
`pointerInputs_edges` says that a pointer event adds the edge between what was recorded and what
is recorded now.  So the guest holds what `last_buttons` records (`run_recorded`), and the rest
is about single calls.
-/

namespace Oxrdp

open Edges

/-- A button of the mouse. -/
inductive Button where
  | left
  | right
  | middle
  | x1
  | x2
  deriving DecidableEq, Repr

namespace Button

/-- Its bit of a button mask. -/
def mask : Button → UInt8
  | left => PointerButton.left
  | right => PointerButton.right
  | middle => PointerButton.middle
  | x1 => PointerButton.x1
  | x2 => PointerButton.x2

/-- The flag that presses it. -/
def down : Button → UInt32
  | left => MouseEvent.leftDown
  | right => MouseEvent.rightDown
  | middle => MouseEvent.middleDown
  | x1 => MouseEvent.xDown
  | x2 => MouseEvent.xDown

/-- The flag that releases it. -/
def up : Button → UInt32
  | left => MouseEvent.leftUp
  | right => MouseEvent.rightUp
  | middle => MouseEvent.middleUp
  | x1 => MouseEvent.xUp
  | x2 => MouseEvent.xUp

/-- The two extra buttons share their flags, and are told apart by `mouseData`. -/
def Concerns (b : Button) (input : MouseInput) : Prop :=
  match b with
  | x1 => input.mouseData = 1
  | x2 => input.mouseData = 2
  | _ => True

instance (b : Button) (input : MouseInput) : Decidable (b.Concerns input) := by
  unfold Concerns
  split <;> infer_instance

/-- Is the button held, by a mask? -/
def within (b : Button) (buttons : UInt8) : Bool := buttons &&& b.mask != 0

/-- The presses (`true`) and releases of the button in an input. -/
def edges (b : Button) (input : MouseInput) : List Bool :=
  if b.Concerns input then
    (if input.flags &&& b.down != 0 then [true] else []) ++
      if input.flags &&& b.up != 0 then [false] else []
  else []

/-- Which bit it is. -/
def place : Button → Nat
  | left => 0
  | right => 1
  | middle => 2
  | x1 => 3
  | x2 => 4

variable (b : Button) (m n : UInt8)

/-- A button is within a mask if the bit at its place is set. -/
theorem within_eq : b.within m = m.toBitVec.getLsbD b.place := by
  apply and_bit
  · cases b <;> decide
  · cases b <;> decide

/-- A button's place is in the byte. -/
theorem place_lt : b.place < 8 := by
  cases b <;> decide

/-- A button is in both masks if it is in each. -/
@[simp] theorem within_and : b.within (m &&& n) = (b.within m && b.within n) := by
  rw [within_eq, within_eq, within_eq, UInt8.toBitVec_and, BitVec.getLsbD_and]

/-- A button has changed if it is in one mask only. -/
@[simp] theorem within_xor : b.within (m ^^^ n) = (b.within m ^^ b.within n) := by
  rw [within_eq, within_eq, within_eq, UInt8.toBitVec_xor, BitVec.getLsbD_xor]

/-- A button is outside a mask if it is in the complement. -/
@[simp] theorem within_not : b.within (~~~m) = !b.within m := by
  rw [within_eq, within_eq, UInt8.toBitVec_not, BitVec.getLsbD_not]
  simp [b.place_lt]

end Button

/-! ## What a pointer event injects -/

/-- The flags of motion: those of the plain buttons that changed. -/
theorem motion_flags : ∀ cl hl cr hr cm hm : Bool,
    let flags := MouseEvent.move ||| MouseEvent.absolute ||| MouseEvent.virtualDesk |||
      (if cl then downUp hl MouseEvent.leftDown MouseEvent.leftUp else 0) |||
      (if cr then downUp hr MouseEvent.rightDown MouseEvent.rightUp else 0) |||
      (if cm then downUp hm MouseEvent.middleDown MouseEvent.middleUp else 0)
    ((flags &&& MouseEvent.leftDown != 0) = (cl && hl) ∧
      (flags &&& MouseEvent.leftUp != 0) = (cl && !hl)) ∧
    ((flags &&& MouseEvent.rightDown != 0) = (cr && hr) ∧
      (flags &&& MouseEvent.rightUp != 0) = (cr && !hr)) ∧
    ((flags &&& MouseEvent.middleDown != 0) = (cm && hm) ∧
      (flags &&& MouseEvent.middleUp != 0) = (cm && !hm)) := by
  decide

/-- The edge of a button that changed, by its two flags. -/
theorem edge_flags : ∀ before after : Bool,
    (if (after ^^ before) && after then [true] else []) ++
      (if (after ^^ before) && !after then [false] else []) = edge before after := by
  decide

namespace Button

variable (b : Button) (buttons lastButtons : UInt8)

/-- An input with neither flag. -/
theorem edges_eq_nil {input : MouseInput} (hdown : input.flags &&& b.down = 0)
    (hup : input.flags &&& b.up = 0) : b.edges input = [] := by
  simp [edges, hdown, hup]

/-- No turn of a wheel is an edge of a button. -/
theorem edges_wheelInput (delta : Int16) {flag : UInt32} (hdown : flag &&& b.down = 0)
    (hup : flag &&& b.up = 0) : (wheelInput delta flag).flatMap b.edges = [] := by
  rw [wheelInput]
  split
  · rw [List.flatMap_singleton]
    exact b.edges_eq_nil hdown hup
  · rfl

/-- An input with the flag of a button that changed. -/
theorem edges_changed {input : MouseInput} (hconcerns : b.Concerns input)
    (hdown : (input.flags &&& b.down != 0) =
      (b.within (buttons ^^^ lastButtons) && b.within buttons))
    (hup : (input.flags &&& b.up != 0) =
      (b.within (buttons ^^^ lastButtons) && !b.within buttons)) :
    b.edges input = edge (b.within lastButtons) (b.within buttons) := by
  rw [edges, if_pos hconcerns, hdown, hup, within_xor, edge_flags]

/-- The input of an extra button, and what it is to any of them. -/
theorem edges_extraButton {changed button : UInt8} {data : UInt32} {found : Bool → List Bool}
    (hfound : ∀ held, b.edges ⟨0, 0, data, downUp held MouseEvent.xDown MouseEvent.xUp⟩ =
      found held) :
    (extraButton buttons changed button data).flatMap b.edges =
      if changed &&& button != 0 then found (buttons &&& button != 0) else [] := by
  rw [extraButton]
  split
  · rw [List.flatMap_singleton]
    exact hfound _
  · rfl

end Button

/-- An extra button has the edge in its own input, where it changed. -/
theorem edge_changed (before after : Bool) :
    (if after ^^ before then [after] else []) = edge before after := by
  cases before <;> cases after <;> rfl

/-- **A pointer event brings each button to the level that is recorded for it.** -/
theorem pointerInputs_edges (desktop : VirtualDesktop) (rect : Rect) (x y : Int32)
    (buttons lastButtons : UInt8) (wheelX wheelY : Int16) (b : Button) :
    (pointerInputs desktop rect x y buttons lastButtons wheelX wheelY).flatMap b.edges =
      edge (b.within lastButtons) (b.within buttons) := by
  have hwheel : (wheelInput wheelY MouseEvent.wheel).flatMap b.edges = [] := by
    apply Button.edges_wheelInput
    · cases b <;> decide
    · cases b <;> decide
  have hhWheel : (wheelInput wheelX MouseEvent.hWheel).flatMap b.edges = [] := by
    apply Button.edges_wheelInput
    · cases b <;> decide
    · cases b <;> decide
  -- the inputs of the extra buttons are edges of these two alone
  have hx1 : ∀ held, b.edges ⟨0, 0, 1, downUp held MouseEvent.xDown MouseEvent.xUp⟩ =
      if b = .x1 then [held] else [] := by
    cases b <;> decide
  have hx2 : ∀ held, b.edges ⟨0, 0, 2, downUp held MouseEvent.xDown MouseEvent.xUp⟩ =
      if b = .x2 then [held] else [] := by
    cases b <;> decide
  obtain ⟨hleft, hright, hmiddle⟩ := motion_flags (Button.left.within (buttons ^^^ lastButtons))
    (Button.left.within buttons) (Button.right.within (buttons ^^^ lastButtons))
    (Button.right.within buttons) (Button.middle.within (buttons ^^^ lastButtons))
    (Button.middle.within buttons)
  rw [pointerInputs]
  simp only [List.flatMap_append, List.flatMap_singleton, hwheel, hhWheel, List.append_nil,
    Button.edges_extraButton _ _ hx1, Button.edges_extraButton _ _ hx2]
  cases b with
  | left =>
      simp only [reduceCtorEq, if_false, ite_self, List.append_nil]
      exact Button.edges_changed _ _ _ trivial hleft.1 hleft.2
  | right =>
      simp only [reduceCtorEq, if_false, ite_self, List.append_nil]
      exact Button.edges_changed _ _ _ trivial hright.1 hright.2
  | middle =>
      simp only [reduceCtorEq, if_false, ite_self, List.append_nil]
      exact Button.edges_changed _ _ _ trivial hmiddle.1 hmiddle.2
  | x1 =>
      simp only [reduceCtorEq, if_false, if_true, ite_self, List.append_nil]
      rw [← edge_changed, ← Button.within_xor]
      rfl
  | x2 =>
      simp only [reduceCtorEq, if_false, if_true, ite_self, List.append_nil]
      rw [← edge_changed, ← Button.within_xor]
      rfl

/-! ## What the guest holds -/

namespace Guest

variable {g g' : Guest} {a : Answers} {rect : Rect} {handle : Handle} {x y : Int32}
  {buttons : UInt8} {wheelX wheelY : Int16}

/-- The presses and releases of a button that were injected. -/
def edges (g : Guest) (b : Button) : List Bool :=
  g.injected.flatMap fun i => i.inputs.flatMap b.edges

/-- Does the guest hold the button? -/
def held (g : Guest) (b : Button) : Bool := level (g.edges b)

/-- The guest holds the buttons that are recorded, and got there by edges that alternate. -/
structure Recorded (g : Guest) : Prop where
  alternating : ∀ b, Alternating (g.edges b)
  held_eq : ∀ b, g.held b = b.within g.sink.lastButtons

/-- If an attempt to raise a window fails, its last look has found another one in front. -/
theorem forceForeground_refused (g : Guest) (a : Answers) (handle : Handle)
    (hfailed : (g.forceForeground a handle).1 = false) :
    ∃ front, (g.forceForeground a handle).2.observed.getLast? = some front ∧ front ≠ handle := by
  unfold forceForeground at hfailed ⊢
  simp only at hfailed ⊢
  split_ifs at hfailed ⊢
  · exact ⟨_, List.getLast?_concat, of_decide_eq_false hfailed⟩
  · exact ⟨_, List.getLast?_concat, of_decide_eq_false hfailed⟩

/-- It leaves the buttons alone. -/
theorem focusOnChange_spec (a : Answers) (handle : Handle) (g : Guest) :
    (g.focusOnChange a handle).2.sink.lastButtons = g.sink.lastButtons ∧
      (g.focusOnChange a handle).2.injected = g.injected ∧
      ((g.focusOnChange a handle).1 = false →
        ∃ front, (g.focusOnChange a handle).2.observed.getLast? = some front ∧
          front ≠ handle) := by
  by_cases hfocused : g.sink.lastFocused = some handle
  · rw [focusOnChange, if_pos hfocused]
    refine ⟨rfl, rfl, fun hfailed => ?_⟩
    cases hfailed
  · have hattempt := focusOnChange_attempted a hfocused
    refine ⟨hattempt.buttons, hattempt.injected, ?_⟩
    have hrefused := g.forceForeground_refused a handle
    rw [focusOnChange, if_neg hfocused]
    cases hconfirmed : (g.forceForeground a handle).1 with
    | true => simp [hconfirmed]
    | false =>
        intro _
        simpa [hconfirmed] using hrefused hconfirmed

/-- What a pointer event does to the buttons, if the bounds of its window can be read: what is
recorded now is what the gate lets through, and each button gets the edge to that level. -/
theorem pointerEvent_buttons (g : Guest) (handle : Handle) (x y : Int32) (buttons : UInt8)
    (wheelX wheelY : Int16) (hframe : a.frameBounds = some rect) :
    ∃ confirmed : Bool,
      (g.pointerEvent a handle x y buttons wheelX wheelY).sink.lastButtons =
        gateUnconfirmedPress buttons g.sink.lastButtons confirmed ∧
      (∀ b, (g.pointerEvent a handle x y buttons wheelX wheelY).edges b = g.edges b ++
        edge (b.within g.sink.lastButtons)
          (b.within (gateUnconfirmedPress buttons g.sink.lastButtons confirmed))) ∧
      (buttons &&& ~~~g.sink.lastButtons ≠ 0 → confirmed = false →
        ∃ front, (g.pointerEvent a handle x y buttons wheelX wheelY).observed.getLast? =
          some front ∧ front ≠ handle) := by
  cases hfocus : (if buttons &&& ~~~g.sink.lastButtons != 0 then g.focusOnChange a handle
      else (true, g)) with
  | mk confirmed seen =>
      obtain ⟨hbuttons, hinjected, hrefused⟩ := focusOnChange_spec a handle g
      have hseen : seen.sink.lastButtons = g.sink.lastButtons ∧ seen.injected = g.injected ∧
          (buttons &&& ~~~g.sink.lastButtons ≠ 0 → confirmed = false →
            ∃ front, seen.observed.getLast? = some front ∧ front ≠ handle) := by
        split at hfocus
        · rw [hfocus] at hbuttons hinjected hrefused
          exact ⟨hbuttons, hinjected, fun _ => hrefused⟩
        next hquiet =>
          cases hfocus
          refine ⟨rfl, rfl, fun hpressed => ?_⟩
          exact absurd (by simpa using hpressed) hquiet
      refine ⟨confirmed, ?_, ?_, ?_⟩
      · simp only [pointerEvent, hframe, hfocus, hseen.1]
      · intro b
        simp only [pointerEvent, hframe, hfocus, hseen.1, hseen.2.1, edges, List.flatMap_append,
          List.flatMap_singleton, pointerInputs_edges]
      · simp only [pointerEvent, hframe, hfocus]
        exact hseen.2.2

/-- What the gate lets through: all that is reported, without the presses if those are
withheld. -/
theorem within_gate (b : Button) (buttons lastButtons : UInt8) (confirmed : Bool) :
    b.within (gateUnconfirmedPress buttons lastButtons confirmed) =
      (b.within buttons && (b.within lastButtons || confirmed)) := by
  cases confirmed with
  | true => rw [gate_confirmed, Bool.or_true, Bool.and_true]
  | false =>
      have hnew : b.within (gateUnconfirmedPress buttons lastButtons false) =
          (b.within buttons && b.within lastButtons) := by
        unfold gateUnconfirmedPress
        dsimp only
        split
        · simp only [Button.within_and, Button.within_not]
          cases b.within buttons <;> cases b.within lastButtons <;> rfl
        next hquiet =>
          have hnone : b.within (buttons &&& ~~~lastButtons) = false := by
            have hzero : buttons &&& ~~~lastButtons = 0 := by simpa using hquiet
            rw [hzero]
            cases b <;> rfl
          rw [Button.within_and, Button.within_not] at hnone
          cases hlast : b.within lastButtons with
          | true => rw [Bool.and_true]
          | false => rw [hlast, Bool.not_false, Bool.and_true] at hnone; rw [hnone]; rfl
      rw [hnew, Bool.or_false]

/-- A pointer event records every edge that it injects. -/
theorem Recorded.pointerEvent (h : g.Recorded) :
    (g.pointerEvent a handle x y buttons wheelX wheelY).Recorded := by
  cases hframe : a.frameBounds with
  | none =>
      rw [Guest.pointerEvent, hframe]
      exact h
  | some rect =>
      obtain ⟨confirmed, hlast, hedges, -⟩ :=
        g.pointerEvent_buttons handle x y buttons wheelX wheelY hframe
      constructor
      case alternating =>
        intro b
        rw [hedges, ← h.held_eq]
        exact (h.alternating b).append_edge _
      case held_eq =>
        intro b
        rw [held, hedges, ← h.held_eq, hlast]
        exact level_append_edge _ _

/-- A window control leaves the last buttons as they were. -/
theorem windowControl_lastButtons (a : Answers) (handle : Handle) (action : UInt8) (x y : Int32)
    (width height : UInt16) (g : Guest) :
    (g.windowControl a handle action x y width height).sink.lastButtons = g.sink.lastButtons := by
  have hforced := (forceForeground_attempted a handle g).buttons
  unfold windowControl
  split_ifs
  · rfl
  · simp only
    split
    · exact hforced
    · exact hforced
  all_goals rfl

/-- Every call keeps it. -/
theorem Recorded.step (h : g.Recorded) (e : GuestEvent) : (g.step e).Recorded := by
  cases e with
  | pointerEvent a handle x y buttons wheelX wheelY =>
      have hcleared : { g with observed := [] }.Recorded := ⟨h.alternating, h.held_eq⟩
      exact hcleared.pointerEvent
  | windowControl a handle action x y width height =>
      have hedges : (g.step (.windowControl a handle action x y width height)).edges = g.edges := by
        funext b
        exact congrArg (·.flatMap fun i => i.inputs.flatMap b.edges)
          (windowControl_injected a handle action x y width height _)
      constructor
      case alternating => rw [hedges]; exact h.alternating
      case held_eq =>
        intro b
        rw [held, hedges, Guest.step, windowControl_lastButtons]
        exact h.held_eq b
  | foregroundChanges hwnd => exact ⟨h.alternating, h.held_eq⟩

/-- In every run the edges that were injected are recorded. -/
theorem run_recorded (foreground : Handle) (events : List GuestEvent) :
    ((start foreground).run events).Recorded := by
  induction events using List.reverseRecOn with
  | nil =>
      refine ⟨fun _ => .nil, fun b => ?_⟩
      change level [] = b.within 0
      cases b <;> decide
  | append_singleton events e ih =>
      rw [run_snoc]
      exact ih.step e

/-- After a call on a window: the press of the button has gone through, or raising the window
was tried in the call and the last look found another one in front. -/
def Tried (g' : Guest) (handle : Handle) (b : Button) : Prop :=
  g'.held b = true ∨ ∃ front ∈ g'.observed.getLast?, front ≠ handle

instance (g' : Guest) (handle : Handle) (b : Button) : Decidable (g'.Tried handle b) :=
  inferInstanceAs (Decidable (_ ∨ _))

/-- **Held buttons.**  In every run, the presses and releases of each button alternate, from a
press on.  After a call on a window whose bounds can be read, the guest holds the buttons that
are recorded, and only such as are reported; a release has gone through, whether or not the
window could be raised; and the press of a reported button that was not held has been tried. -/
theorem button_edges (foreground : Handle) (events : List GuestEvent) :
    (∀ b, Alternating (((start foreground).run events).edges b)) ∧
    ∀ (a : Answers) (handle : Handle) (x y : Int32) (buttons : UInt8) (wheelX wheelY : Int16),
      a.frameBounds.isSome → ∀ b : Button,
        let g := (start foreground).run events
        let g' := g.step (.pointerEvent a handle x y buttons wheelX wheelY)
        g'.held b = b.within g'.sink.lastButtons ∧
        (g'.held b = true → b.within buttons = true) ∧
        (g.held b = true → b.within buttons = false → g'.held b = false) ∧
        (g.held b = false → b.within buttons = true → g'.Tried handle b) := by
  have hrecorded := run_recorded foreground events
  refine ⟨hrecorded.alternating, ?_⟩
  intro a handle x y buttons wheelX wheelY hreadable b
  generalize (start foreground).run events = g at hrecorded
  dsimp only
  obtain ⟨rect, hframe⟩ := Option.isSome_iff_exists.mp hreadable
  have hafter := hrecorded.step (.pointerEvent a handle x y buttons wheelX wheelY)
  obtain ⟨confirmed, hlast, -, hrefused⟩ :=
    { g with observed := [] }.pointerEvent_buttons handle x y buttons wheelX wheelY hframe
  have hlevel : (g.step (.pointerEvent a handle x y buttons wheelX wheelY)).held b =
      (b.within buttons && (b.within g.sink.lastButtons || confirmed)) := by
    rw [hafter.held_eq, ← within_gate]
    exact congrArg b.within hlast
  refine ⟨hafter.held_eq b, ?_, ?_, ?_⟩
  · rw [hlevel]
    exact fun h => (Bool.and_eq_true_iff.mp h).1
  · intro _ hup
    rw [hlevel, hup, Bool.false_and]
  · intro hnot hdown
    rw [hrecorded.held_eq] at hnot
    cases confirmed with
    | true => exact .inl (by rw [hlevel, hdown, Bool.or_true]; rfl)
    | false =>
        have hnew : buttons &&& ~~~g.sink.lastButtons ≠ 0 := by
          intro hzero
          have hwithin : b.within (buttons &&& ~~~g.sink.lastButtons) = true := by
            rw [Button.within_and, Button.within_not, hdown, hnot]
            rfl
          rw [hzero] at hwithin
          cases b <;> cases hwithin
        exact .inr (hrefused hnew rfl)

/-- A guest on which the window 2 stays in front. -/
def refusing : Answers :=
  { obliging with raised := 2, attaches := false, attached := 2, shown := 2 }

/-- A click on the window 1 is withheld, and the next event still reports it; but the bounds of
its window can no longer be read, and nothing is tried.  A bit of the mask that is no button is
recorded without anything being held. -/
theorem unreadable_not_tried :
    let withheld := (start 2).run [.pointerEvent refusing 1 10 10 PointerButton.left 0 0]
    let gone : Answers := { refusing with frameBounds := none }
    withheld.held .left = false ∧ withheld.Tried 1 .left ∧
      ¬ (withheld.step (.pointerEvent gone 1 10 10 PointerButton.left 0 0)).Tried 1 .left ∧
      ((start 1).run [.pointerEvent obliging 1 10 10 0x20 0 0]).sink.lastButtons = 0x20 ∧
      ∀ b, ((start 1).run [.pointerEvent obliging 1 10 10 0x20 0 0]).held b = false := by
  refine ⟨by decide +kernel, by decide +kernel, by decide +kernel, by decide +kernel, ?_⟩
  intro b
  cases b <;> decide +kernel

end Guest

end Oxrdp
