import Oxrdp.Agent.Registry
import Oxrdp.Lib.Log
import Oxrdp.Lib.Saturating
import Oxrdp.Proto.Message.Input

/-!
# Clicks and the foreground window

`WinInputSink` of `win/input.rs` and `gate_unconfirmed_press` of `input.rs`.  Windows has no
way to inject a click into a given window: it goes to what is on top, so the sink raises the
window first, makes sure of it with `GetForegroundWindow`, and withholds the press otherwise.

What the Win32 calls come to is part of each call (`Answers`), and whose window is in front
may change between the calls.  `Guest` records for each batch of injected input what
`GetForegroundWindow` had returned during the call, and which window was in front.  The sink
takes the window that it last raised for the foreground window without looking again
(`Trusted`): those presses are the ones without an observation.
-/

namespace Oxrdp

/-! ## Mouse input, with its `MOUSE_EVENT_FLAGS` -/

namespace MouseEvent

def move : UInt32 := 0x0001
def leftDown : UInt32 := 0x0002
def leftUp : UInt32 := 0x0004
def rightDown : UInt32 := 0x0008
def rightUp : UInt32 := 0x0010
def middleDown : UInt32 := 0x0020
def middleUp : UInt32 := 0x0040
def xDown : UInt32 := 0x0080
def xUp : UInt32 := 0x0100
def wheel : UInt32 := 0x0800
def hWheel : UInt32 := 0x1000
def virtualDesk : UInt32 := 0x4000
def absolute : UInt32 := 0x8000

/-- The flags that press a button. -/
def downs : UInt32 := leftDown ||| rightDown ||| middleDown ||| xDown

end MouseEvent

/-- A mouse `INPUT`. -/
structure MouseInput where
  dx : Int32
  dy : Int32
  mouseData : UInt32
  flags : UInt32
  deriving DecidableEq, Repr

/-- Does the input press a button? -/
def MouseInput.presses (input : MouseInput) : Bool :=
  input.flags &&& MouseEvent.downs != 0

/-- The edges of a rectangle on the screen. -/
structure Rect where
  left : Int32
  top : Int32
  right : Int32
  bottom : Int32
  deriving DecidableEq, Repr

/-- The virtual desktop's origin and extent. -/
structure VirtualDesktop where
  x : Int32
  y : Int32
  width : Int32
  height : Int32
  deriving DecidableEq, Repr

/-! ## The guest -/

/-- What Windows answers during one call. -/
structure Answers where
  frameBounds : Option Rect
  desktop : VirtualDesktop
  /-- What is in front once `SetForegroundWindow` has returned. -/
  raised : Handle
  /-- The thread of a window, 0 if there is no such window. -/
  windowThread : Handle → UInt32
  currentThread : UInt32
  /-- Does `AttachThreadInput` succeed? -/
  attaches : Bool
  /-- What is in front once the attached thread has raised the window. -/
  attached : Handle
  /-- What is in front once `ShowWindow` has returned. -/
  shown : Handle

/-- What a window is asked for. -/
inductive WindowRequest where
  | close
  | minimize
  | maximize
  | restore
  | move (x y : Int32)
  | resize (width height : UInt16)
  deriving DecidableEq, Repr

/-- A batch of input that was injected on behalf of a window: what `GetForegroundWindow`
had returned during the call, and which window was in front. -/
structure Injection where
  handle : Handle
  inputs : List MouseInput
  observed : List Handle
  foreground : Handle
  deriving DecidableEq, Repr

/-- Does the batch press a button? -/
def Injection.presses (i : Injection) : Bool := i.inputs.any MouseInput.presses

/-- Injects input on the Windows guest via `SendInput`. -/
structure WinInputSink where
  lastFocused : Option Handle
  lastButtons : UInt8
  deriving DecidableEq, Repr

/-- A sink with no window focused and no buttons held. -/
def WinInputSink.new : WinInputSink := { lastFocused := none, lastButtons := 0 }

/-- The guest, with its input sink. -/
structure Guest where
  sink : WinInputSink
  foreground : Handle
  /-- What `GetForegroundWindow` has returned during the call. -/
  observed : List Handle
  injected : List Injection
  requests : List (Handle × WindowRequest)

/-- A guest before the first call. -/
def Guest.start (foreground : Handle) : Guest :=
  { sink := .new, foreground, observed := [], injected := [], requests := [] }

/-- Which of the bits a pointer sink should actually inject. -/
def gateUnconfirmedPress (buttons lastButtons : UInt8) (focusConfirmed : Bool) : UInt8 :=
  let newlyPressed := buttons &&& ~~~lastButtons
  if newlyPressed != 0 && !focusConfirmed then
    buttons &&& ~~~newlyPressed
  else
    buttons

/-- Map a screen coordinate onto the range of `MOUSEEVENTF_ABSOLUTE`. -/
def normalize (value origin extent : Int32) : Int32 :=
  if extent ≤ 1 then
    0
  else
    let last := origin.saturatingAdd (extent - 1)
    let clamped := if value < origin then origin else if last < value then last else value
    ((clamped - origin).toInt64 * 65535 / (extent - 1).toInt64).toInt32

def downUp (held : Bool) (down up : UInt32) : UInt32 := if held then down else up

/-- The flag of a button that changed. -/
def buttonFlag (buttons changed button : UInt8) (down up : UInt32) : UInt32 :=
  if changed &&& button != 0 then downUp (buttons &&& button != 0) down up else 0

/-- The input of an extra button that changed. -/
def extraButton (buttons changed button : UInt8) (data : UInt32) : List MouseInput :=
  if changed &&& button != 0 then
    [{ dx := 0
       dy := 0
       mouseData := data
       flags := downUp (buttons &&& button != 0) MouseEvent.xDown MouseEvent.xUp }]
  else
    []

/-- The input of a wheel that turned. -/
def wheelInput (delta : Int16) (flag : UInt32) : List MouseInput :=
  if delta != 0 then
    [{ dx := 0, dy := 0, mouseData := delta.toInt32.toUInt32, flags := flag }]
  else
    []

/-- The inputs of a pointer event: motion with the plain buttons, then the extra buttons
and the wheels. -/
def pointerInputs (desktop : VirtualDesktop) (rect : Rect) (x y : Int32)
    (buttons lastButtons : UInt8) (wheelX wheelY : Int16) : List MouseInput :=
  let changed := buttons ^^^ lastButtons
  let motion : MouseInput :=
    { dx := normalize (rect.left.saturatingAdd x) desktop.x desktop.width
      dy := normalize (rect.top.saturatingAdd y) desktop.y desktop.height
      mouseData := 0
      flags := MouseEvent.move ||| MouseEvent.absolute ||| MouseEvent.virtualDesk |||
        buttonFlag buttons changed PointerButton.left MouseEvent.leftDown MouseEvent.leftUp |||
        buttonFlag buttons changed PointerButton.right MouseEvent.rightDown
          MouseEvent.rightUp |||
        buttonFlag buttons changed PointerButton.middle MouseEvent.middleDown
          MouseEvent.middleUp }
  [motion] ++ extraButton buttons changed PointerButton.x1 1 ++
    extraButton buttons changed PointerButton.x2 2 ++
    wheelInput wheelY MouseEvent.wheel ++ wheelInput wheelX MouseEvent.hWheel

namespace Guest

/-- `GetForegroundWindow`. -/
def look (g : Guest) : Guest := { g with observed := g.observed ++ [g.foreground] }

/-- Bring a window to the foreground, retrying through `AttachThreadInput`; is it there
now? -/
def forceForeground (a : Answers) (hwnd : Handle) (g : Guest) : Bool × Guest :=
  let g := g.look
  if g.foreground = hwnd then
    (true, g)
  else
    let g := { g with foreground := a.raised }.look
    if g.foreground = hwnd then
      (true, g)
    else
      let thread := a.windowThread g.foreground
      let g :=
        if thread ≠ 0 ∧ thread ≠ a.currentThread ∧ a.attaches then
          { g with foreground := a.attached }.look
        else
          g.look
      (decide (g.foreground = hwnd), g)

/-- Bring a window to the foreground if it is not already the tracked focus. -/
def focusOnChange (a : Answers) (handle : Handle) (g : Guest) : Bool × Guest :=
  if g.sink.lastFocused = some handle then
    (true, g)
  else
    let (confirmed, g) := g.forceForeground a handle
    if confirmed then
      (true, { g with sink := { g.sink with lastFocused := some handle } })
    else
      (false, g)

def pointerEvent (a : Answers) (handle : Handle) (x y : Int32) (buttons : UInt8)
    (wheelX wheelY : Int16) (g : Guest) : Guest :=
  match a.frameBounds with
  | none => g
  | some rect =>
      let newlyPressed := buttons &&& ~~~g.sink.lastButtons
      let (focusConfirmed, g) :=
        if newlyPressed != 0 then g.focusOnChange a handle else (true, g)
      let buttons := gateUnconfirmedPress buttons g.sink.lastButtons focusConfirmed
      let inputs := pointerInputs a.desktop rect x y buttons g.sink.lastButtons wheelX wheelY
      { g with
        sink := { g.sink with lastButtons := buttons }
        injected := g.injected ++
          [{ handle, inputs, observed := g.observed, foreground := g.foreground }] }

/-- Ask a window for something. -/
def request (handle : Handle) (r : WindowRequest) (g : Guest) : Guest :=
  { g with requests := g.requests ++ [(handle, r)] }

/-- An action that is not known is ignored. -/
def windowControl (a : Answers) (handle : Handle) (action : UInt8) (x y : Int32)
    (width height : UInt16) (g : Guest) : Guest :=
  if action = WindowAction.close then
    g.request handle .close
  else if action = WindowAction.activate then
    let (confirmed, g) := g.forceForeground a handle
    if confirmed then
      { g with sink := { g.sink with lastFocused := some handle } }
    else
      g
  else if action = WindowAction.minimize then
    { g.request handle .minimize with foreground := a.shown }
  else if action = WindowAction.maximize then
    { g.request handle .maximize with foreground := a.shown }
  else if action = WindowAction.restore then
    { g.request handle .restore with foreground := a.shown }
  else if action = WindowAction.move then
    g.request handle (.move x y)
  else if action = WindowAction.resize then
    g.request handle (.resize width height)
  else
    g

end Guest

/-- A call of the sink, or a change of the foreground window between two calls. -/
inductive GuestEvent where
  | pointerEvent (a : Answers) (handle : Handle) (x y : Int32) (buttons : UInt8)
      (wheelX wheelY : Int16)
  | windowControl (a : Answers) (handle : Handle) (action : UInt8) (x y : Int32)
      (width height : UInt16)
  | foregroundChanges (hwnd : Handle)

namespace Guest

def step (g : Guest) : GuestEvent → Guest
  | .pointerEvent a handle x y buttons wheelX wheelY =>
      { g with observed := [] }.pointerEvent a handle x y buttons wheelX wheelY
  | .windowControl a handle action x y width height =>
      { g with observed := [] }.windowControl a handle action x y width height
  | .foregroundChanges hwnd => { g with foreground := hwnd }

/-- The guest after some calls and changes. -/
def run (g : Guest) (events : List GuestEvent) : Guest := events.foldl step g

/-- The last event of a run comes after the others. -/
theorem run_snoc (g : Guest) (events : List GuestEvent) (e : GuestEvent) :
    g.run (events ++ [e]) = (g.run events).step e := by
  rw [run, List.foldl_append]
  rfl

end Guest

/-! ## Which inputs press a button -/

/-- Whether a button is held, as a bit. -/
theorem and_bit (b : UInt8) {m : UInt8} {k : Nat} (hm : m.toBitVec = BitVec.twoPow 8 k)
    (hk : k < 8) : (b &&& m != 0) = b.toBitVec.getLsbD k := by
  have hbits : (b &&& m).toBitVec =
      if b.toBitVec.getLsbD k then BitVec.twoPow 8 k else 0#8 := by
    rw [UInt8.toBitVec_and, hm, BitVec.and_twoPow]
  cases hb : b.toBitVec.getLsbD k with
  | false =>
      rw [hb, if_neg nofun] at hbits
      simp [← UInt8.toBitVec_inj, hbits]
  | true =>
      rw [hb, if_pos rfl] at hbits
      have hset : BitVec.twoPow 8 k ≠ 0#8 := by
        intro hzero
        have := congrArg (BitVec.getLsbD · k) hzero
        simp [hk] at this
      simp [← UInt8.toBitVec_inj, hbits, hset]

/-- A button that changed and is held is one that was not held before. -/
theorem changed_held (b l : UInt8) {m : UInt8} {k : Nat} (hm : m.toBitVec = BitVec.twoPow 8 k)
    (hk : k < 8) :
    ((b ^^^ l) &&& m != 0 && b &&& m != 0) = (b &&& ~~~l &&& m != 0) := by
  rw [and_bit _ hm hk, and_bit _ hm hk, and_bit _ hm hk]
  rw [UInt8.toBitVec_xor, UInt8.toBitVec_and, UInt8.toBitVec_not]
  simp only [BitVec.getLsbD_xor, BitVec.getLsbD_and, BitVec.getLsbD_not, hk]
  cases b.toBitVec.getLsbD k with
  | false => simp
  | true => simp

/-- Testing the five buttons one by one is testing any of them. -/
theorem any_button (n : UInt8) :
    (n &&& PointerButton.left != 0 || n &&& PointerButton.right != 0 ||
      n &&& PointerButton.middle != 0 || (n &&& PointerButton.x1 != 0 ||
      n &&& PointerButton.x2 != 0)) = (n &&& PointerButton.all != 0) := by
  obtain ⟨n⟩ := n
  revert n
  decide

/-- Motion presses a plain button that changed and is held. -/
theorem motion_presses : ∀ cl hl cr hr cm hm : Bool,
    ((MouseEvent.move ||| MouseEvent.absolute ||| MouseEvent.virtualDesk |||
      (if cl then downUp hl MouseEvent.leftDown MouseEvent.leftUp else 0) |||
      (if cr then downUp hr MouseEvent.rightDown MouseEvent.rightUp else 0) |||
      (if cm then downUp hm MouseEvent.middleDown MouseEvent.middleUp else 0)) &&&
        MouseEvent.downs != 0) = (cl && hl || cr && hr || cm && hm) := by
  decide

/-- An extra button goes down exactly when it is held now. -/
theorem extra_presses : ∀ held : Bool,
    (downUp held MouseEvent.xDown MouseEvent.xUp &&& MouseEvent.downs != 0) = held := by
  decide

/-- An extra button is pressed if it changed and is held now. -/
theorem extraButton_presses (buttons changed button : UInt8) (data : UInt32) :
    (extraButton buttons changed button data).any MouseInput.presses =
      (changed &&& button != 0 && buttons &&& button != 0) := by
  rw [extraButton]
  cases hchanged : changed &&& button != 0 with
  | false => rfl
  | true =>
      rw [if_pos rfl, List.any_cons, List.any_nil, Bool.or_false, Bool.true_and]
      exact extra_presses _

/-- No turn of a wheel presses a button. -/
theorem wheelInput_presses (delta : Int16) {flag : UInt32} (h : flag &&& MouseEvent.downs = 0) :
    (wheelInput delta flag).any MouseInput.presses = false := by
  rw [wheelInput]
  split
  · simp [MouseInput.presses, h]
  · rfl

/-- A pointer event presses the buttons that were not held before. -/
theorem pointerInputs_presses (desktop : VirtualDesktop) (rect : Rect) (x y : Int32)
    (b l : UInt8) (wheelX wheelY : Int16) :
    (pointerInputs desktop rect x y b l wheelX wheelY).any MouseInput.presses =
      (b &&& ~~~l &&& PointerButton.all != 0) := by
  have hleft := changed_held b l (m := PointerButton.left) (k := 0) (by decide) (by decide)
  have hright := changed_held b l (m := PointerButton.right) (k := 1) (by decide) (by decide)
  have hmiddle := changed_held b l (m := PointerButton.middle) (k := 2) (by decide) (by decide)
  have hx1 := changed_held b l (m := PointerButton.x1) (k := 3) (by decide) (by decide)
  have hx2 := changed_held b l (m := PointerButton.x2) (k := 4) (by decide) (by decide)
  rw [← any_button, ← hleft, ← hright, ← hmiddle, ← hx1, ← hx2]
  have hwheel : MouseEvent.wheel &&& MouseEvent.downs = 0 := by decide
  have hhWheel : MouseEvent.hWheel &&& MouseEvent.downs = 0 := by decide
  simp only [pointerInputs, List.any_append, List.any_cons, List.any_nil, Bool.or_false,
    extraButton_presses, wheelInput_presses _ hwheel, wheelInput_presses _ hhWheel,
    MouseInput.presses, buttonFlag, motion_presses, Bool.or_assoc]

/-! ## What a call injects -/

/-- A press that `GetForegroundWindow` vouched for during the call. -/
def Injection.Confirmed (i : Injection) : Prop :=
  i.presses = true → i.handle ∈ i.observed

/-- A press with its window in front. -/
def Injection.OnTop (i : Injection) : Prop :=
  i.presses = true → i.foreground = i.handle

namespace Guest

/-- The call presses a button on the window that the sink last raised. -/
def Trusted (g : Guest) : GuestEvent → Prop
  | .pointerEvent a handle _ _ buttons _ _ =>
      a.frameBounds.isSome ∧ g.sink.lastFocused = some handle ∧
        buttons &&& ~~~g.sink.lastButtons &&& PointerButton.all ≠ 0
  | _ => False

/-- What an attempt to raise a window leaves: a confirmed one has seen the window in
front. -/
structure Attempted (g : Guest) (handle : Handle) (confirmed : Bool) (g' : Guest) : Prop where
  buttons : g'.sink.lastButtons = g.sink.lastButtons
  injected : g'.injected = g.injected
  seen : confirmed = true → handle ∈ g'.observed ∧ g'.foreground = handle

/-- What a look at the foreground answers has been observed. -/
theorem look_observed (g : Guest) : g.look.foreground ∈ g.look.observed :=
  List.mem_append_right _ (List.mem_singleton_self _)

/-- A window that the last look found in front. -/
theorem look_attempted {g g' : Guest} {hwnd : Handle}
    (hbuttons : g'.sink.lastButtons = g.sink.lastButtons) (hinjected : g'.injected = g.injected)
    {confirmed : Bool} (hfront : confirmed = true → g'.look.foreground = hwnd) :
    g.Attempted hwnd confirmed g'.look where
  buttons := hbuttons
  injected := hinjected
  seen := by
    intro hconfirmed
    have hseen := look_observed g'
    rw [hfront hconfirmed] at hseen
    exact ⟨hseen, hfront hconfirmed⟩

/-- `force_foreground` says only what it has looked up or the system has answered. -/
theorem forceForeground_attempted (a : Answers) (hwnd : Handle) (g : Guest) :
    g.Attempted hwnd (g.forceForeground a hwnd).1 (g.forceForeground a hwnd).2 := by
  unfold forceForeground
  simp only
  split_ifs with hfront hraised hattached
  · apply look_attempted
    · rfl
    · rfl
    · exact fun _ => hfront
  · apply look_attempted
    · rfl
    · rfl
    · exact fun _ => hraised
  · apply look_attempted
    · rfl
    · rfl
    · exact of_decide_eq_true
  · apply look_attempted
    · rfl
    · rfl
    · exact of_decide_eq_true

/-- Where another window is remembered, the sink looks. -/
theorem focusOnChange_attempted (a : Answers) {handle : Handle} {g : Guest}
    (hother : g.sink.lastFocused ≠ some handle) :
    g.Attempted handle (g.focusOnChange a handle).1 (g.focusOnChange a handle).2 := by
  have hforced := forceForeground_attempted a handle g
  rw [focusOnChange, if_neg hother]
  cases hconfirmed : (g.forceForeground a handle).1 with
  | true =>
      simp only [hconfirmed, if_true]
      rw [hconfirmed] at hforced
      exact ⟨hforced.buttons, hforced.injected, hforced.seen⟩
  | false =>
      simp only [hconfirmed, Bool.false_eq_true, if_false]
      rw [hconfirmed] at hforced
      exact hforced

/-- A press that could not be confirmed is withheld. -/
theorem gate_unconfirmed (buttons lastButtons : UInt8) :
    gateUnconfirmedPress buttons lastButtons false &&& ~~~lastButtons = 0 := by
  rw [gateUnconfirmedPress]
  simp only [Bool.not_false, Bool.and_true, bne_iff_ne, ne_eq, ite_not]
  split_ifs with hnone
  · exact hnone
  · obtain ⟨b⟩ := buttons
    obtain ⟨l⟩ := lastButtons
    apply UInt8.toBitVec_inj.mp
    ext i hi
    simp
    grind

/-- A confirmed press passes the gate unchanged. -/
theorem gate_confirmed (buttons lastButtons : UInt8) :
    gateUnconfirmedPress buttons lastButtons true = buttons := by
  simp [gateUnconfirmedPress]

/-- A window control injects no input. -/
theorem windowControl_injected (a : Answers) (handle : Handle) (action : UInt8) (x y : Int32)
    (width height : UInt16) (g : Guest) :
    (g.windowControl a handle action x y width height).injected = g.injected := by
  have hforced := (forceForeground_attempted a handle g).injected
  unfold windowControl
  split_ifs
  · rfl
  · simp only
    split
    · exact hforced
    · exact hforced
  all_goals rfl

/-- A pointer event injects one batch, with what the attempt to raise its window left. -/
theorem pointerEvent_injected {a : Answers} {rect : Rect} (hframe : a.frameBounds = some rect)
    (handle : Handle) (x y : Int32) (buttons : UInt8) (wheelX wheelY : Int16) {g g' : Guest}
    {confirmed : Bool}
    (hfocus : (if buttons &&& ~~~g.sink.lastButtons != 0 then g.focusOnChange a handle
      else (true, g)) = (confirmed, g')) :
    ∃ i : Injection, (g.pointerEvent a handle x y buttons wheelX wheelY).injected =
        g'.injected ++ [i] ∧ i.handle = handle ∧ i.observed = g'.observed ∧
      i.foreground = g'.foreground ∧
      i.presses = (gateUnconfirmedPress buttons g'.sink.lastButtons confirmed &&&
        ~~~g'.sink.lastButtons &&& PointerButton.all != 0) := by
  unfold pointerEvent
  simp only [hframe, hfocus]
  exact ⟨_, rfl, rfl, rfl, rfl, pointerInputs_presses _ _ _ _ _ _ _ _⟩

section PointerEvent

variable {a : Answers} {rect : Rect} {buttons : UInt8} {g : Guest}

/-- Without a newly held button nothing is pressed. -/
theorem pointerEvent_quiet (hframe : a.frameBounds = some rect)
    (hquiet : buttons &&& ~~~g.sink.lastButtons = 0) (handle : Handle) (x y : Int32)
    (wheelX wheelY : Int16) :
    ∃ i : Injection, (g.pointerEvent a handle x y buttons wheelX wheelY).injected =
      g.injected ++ [i] ∧ i.presses = false := by
  have hfocused : (if buttons &&& ~~~g.sink.lastButtons != 0 then g.focusOnChange a handle
      else (true, g)) = (true, g) := if_neg (by simpa using hquiet)
  obtain ⟨i, hnew, -, -, -, hpresses⟩ :=
    pointerEvent_injected hframe handle x y buttons wheelX wheelY hfocused
  rw [gate_confirmed, hquiet] at hpresses
  exact ⟨i, hnew, hpresses.trans (by decide)⟩

/-- The remembered window is taken for the foreground window. -/
theorem pointerEvent_trusted (hframe : a.frameBounds = some rect)
    (hpressed : buttons &&& ~~~g.sink.lastButtons ≠ 0) {handle : Handle}
    (hfocus : g.sink.lastFocused = some handle) (x y : Int32) (wheelX wheelY : Int16) :
    ∃ i : Injection, (g.pointerEvent a handle x y buttons wheelX wheelY).injected =
      g.injected ++ [i] ∧ i.handle = handle ∧ i.observed = g.observed ∧
        i.foreground = g.foreground ∧
        i.presses = (buttons &&& ~~~g.sink.lastButtons &&& PointerButton.all != 0) := by
  have hfocused : (if buttons &&& ~~~g.sink.lastButtons != 0 then g.focusOnChange a handle
      else (true, g)) = (true, g) := by
    rw [if_pos (by simpa using hpressed), focusOnChange, if_pos hfocus]
  have hinjected := pointerEvent_injected hframe handle x y buttons wheelX wheelY hfocused
  rw [gate_confirmed] at hinjected
  exact hinjected

/-- Where another window is remembered, a press is confirmed or withheld. -/
theorem pointerEvent_attempted (hframe : a.frameBounds = some rect)
    (hpressed : buttons &&& ~~~g.sink.lastButtons ≠ 0) {handle : Handle}
    (hother : g.sink.lastFocused ≠ some handle) (x y : Int32) (wheelX wheelY : Int16) :
    ∃ i : Injection, (g.pointerEvent a handle x y buttons wheelX wheelY).injected =
      g.injected ++ [i] ∧
        (i.presses = true → i.handle ∈ i.observed ∧ i.foreground = i.handle) := by
  have hattempt := focusOnChange_attempted a hother
  have hfocused : (if buttons &&& ~~~g.sink.lastButtons != 0 then g.focusOnChange a handle
      else (true, g)) = ((g.focusOnChange a handle).1, (g.focusOnChange a handle).2) :=
    if_pos (by simpa using hpressed)
  obtain ⟨i, hnew, hhandle, hobserved, hforeground, hpresses⟩ :=
    pointerEvent_injected hframe handle x y buttons wheelX wheelY hfocused
  rw [hattempt.injected] at hnew
  refine ⟨i, hnew, ?_⟩
  intro h
  rw [hhandle, hobserved, hforeground]
  apply hattempt.seen
  cases hconfirmed : (g.focusOnChange a handle).1 with
  | true => rfl
  | false =>
      rw [hconfirmed, gate_unconfirmed] at hpresses
      rw [hpresses] at h
      exact absurd h (by decide)

end PointerEvent

/-- What a call injects: presses on the remembered window are neither confirmed nor kept from
another window, and all others are confirmed. -/
theorem step_injected (g : Guest) (e : GuestEvent) :
    ∃ new, (g.step e).injected = g.injected ++ new ∧
      ((∀ i ∈ new, i.Confirmed) ↔ ¬ g.Trusted e) ∧
      ((∀ i ∈ new, i.OnTop) ↔
        (g.Trusted e → g.sink.lastFocused = some g.foreground)) := by
  -- a call that injects nothing, or confirms what it presses
  have hgood : ∀ e new, ¬ g.Trusted e → (g.step e).injected = g.injected ++ new →
      (∀ i ∈ new, i.presses = true → i.handle ∈ i.observed ∧ i.foreground = i.handle) →
      ∃ new, (g.step e).injected = g.injected ++ new ∧
        ((∀ i ∈ new, i.Confirmed) ↔ ¬ g.Trusted e) ∧
        ((∀ i ∈ new, i.OnTop) ↔
          (g.Trusted e → g.sink.lastFocused = some g.foreground)) := by
    intro e new htrusted hnew hseen
    refine ⟨new, hnew, iff_of_true ?_ htrusted, iff_of_true ?_ ?_⟩
    · exact fun i hi h => (hseen i hi h).1
    · exact fun i hi h => (hseen i hi h).2
    · exact fun h => absurd h htrusted
  cases e with
  | foregroundChanges hwnd => exact hgood _ [] id (List.append_nil _).symm nofun
  | windowControl a handle action x y width height =>
      apply hgood _ [] id _ nofun
      rw [List.append_nil]
      exact windowControl_injected a handle action x y width height _
  | pointerEvent a handle x y buttons wheelX wheelY =>
      cases hframe : a.frameBounds with
      | none =>
          apply hgood _ [] _ _ nofun
          · simp [Trusted, hframe]
          · simp [step, pointerEvent, hframe]
      | some rect =>
          have htrusted : g.Trusted (.pointerEvent a handle x y buttons wheelX wheelY) ↔
              g.sink.lastFocused = some handle ∧
                buttons &&& ~~~g.sink.lastButtons &&& PointerButton.all ≠ 0 := by
            simp [Trusted, hframe]
          by_cases hpressed : buttons &&& ~~~g.sink.lastButtons = 0
          · obtain ⟨i, hnew, hquiet⟩ := pointerEvent_quiet (g := { g with observed := [] })
              hframe hpressed handle x y wheelX wheelY
            apply hgood (.pointerEvent a handle x y buttons wheelX wheelY) [i] _ hnew
            · rw [List.forall_mem_singleton, hquiet]
              exact nofun
            · rw [htrusted, hpressed]
              exact fun h => absurd h.2 (by decide)
          · by_cases hfocus : g.sink.lastFocused = some handle
            · obtain ⟨i, hnew, hhandle, hobserved, hforeground, hpresses⟩ :=
                pointerEvent_trusted (g := { g with observed := [] }) hframe hpressed hfocus x y
                  wheelX wheelY
              have hfront : g.sink.lastFocused = some g.foreground ↔ g.foreground = handle := by
                rw [hfocus, Option.some_inj]
                exact eq_comm
              refine ⟨[i], hnew, ?_, ?_⟩
              · rw [List.forall_mem_singleton, Injection.Confirmed, hpresses, hobserved,
                  htrusted]
                simp [hfocus]
              · rw [List.forall_mem_singleton, Injection.OnTop, hpresses, hforeground, hhandle,
                  htrusted, hfront, bne_iff_ne]
                exact ⟨fun h ht => h ht.2, fun h hpress => h ⟨hfocus, hpress⟩⟩
            · obtain ⟨i, hnew, hseen⟩ := pointerEvent_attempted (g := { g with observed := [] })
                hframe hpressed hfocus x y wheelX wheelY
              apply hgood (.pointerEvent a handle x y buttons wheelX wheelY) [i] _ hnew
              · exact List.forall_mem_singleton.mpr hseen
              · rw [htrusted]
                exact fun h => hfocus h.1

/-- What holds of every batch of a run, call by call. -/
theorem run_injected {P : Injection → Prop} {Q : Guest → GuestEvent → Prop}
    (hstep : ∀ g e, ∃ new, (step g e).injected = g.injected ++ new ∧
      ((∀ i ∈ new, P i) ↔ Q g e)) (foreground : Handle) (events : List GuestEvent) :
    (∀ i ∈ ((start foreground).run events).injected, P i) ↔
      Log.Lawful (fun before e => Q ((start foreground).run before) e) events := by
  induction events using List.reverseRecOn with
  | nil => exact iff_of_true nofun .nil
  | append_singleton events e ih =>
      obtain ⟨new, hnew, hthis⟩ := hstep ((start foreground).run events) e
      rw [run_snoc, hnew, List.forall_mem_append, ih, hthis]
      exact ⟨fun h => h.1.snoc h.2, Log.Lawful.last⟩

/-- **Clicks and the foreground window.**  In a run, every press was confirmed during its
call exactly if no call presses a button on the window that the sink last raised; and every
press had its window in front exactly if the window last raised was still in front at each
such call. -/
theorem presses_confirmed (foreground : Handle) (events : List GuestEvent) :
    ((∀ i ∈ ((start foreground).run events).injected, i.Confirmed) ↔
      Log.Lawful (fun before e => ¬ ((start foreground).run before).Trusted e) events) ∧
    ((∀ i ∈ ((start foreground).run events).injected, i.OnTop) ↔
      Log.Lawful (fun before e => ((start foreground).run before).Trusted e →
        ((start foreground).run before).sink.lastFocused =
          some ((start foreground).run before).foreground) events) := by
  constructor
  · apply run_injected (Q := fun g e => ¬ g.Trusted e)
    intro g e
    obtain ⟨new, hnew, hconfirmed, -⟩ := g.step_injected e
    exact ⟨new, hnew, hconfirmed⟩
  · apply run_injected (Q := fun g e => g.Trusted e → g.sink.lastFocused = some g.foreground)
    intro g e
    obtain ⟨new, hnew, -, hontop⟩ := g.step_injected e
    exact ⟨new, hnew, hontop⟩

/-- A guest that lets the agent raise the window 1. -/
def obliging : Answers where
  frameBounds := some { left := 0, top := 0, right := 800, bottom := 600 }
  desktop := { x := 0, y := 0, width := 1920, height := 1080 }
  raised := 1
  windowThread := fun _ => 7
  currentThread := 3
  attaches := true
  attached := 1
  shown := 1

/-- A click on the window 1, another window that comes to the front, and a second click. -/
def overtakenClicks : List GuestEvent :=
  [.pointerEvent obliging 1 10 10 PointerButton.left 0 0, .pointerEvent obliging 1 10 10 0 0 0,
    .foregroundChanges 2, .pointerEvent obliging 1 10 10 PointerButton.left 0 0]

instance (i : Injection) : Decidable i.Confirmed :=
  inferInstanceAs (Decidable (i.presses = true → i.handle ∈ i.observed))

/-- The second click goes to the window 2, and nobody has looked. -/
theorem press_overtaken :
    ∃ i ∈ ((start 0).run overtakenClicks).injected,
      ¬ i.Confirmed ∧ i.handle = 1 ∧ i.observed = [] ∧ i.foreground = 2 := by
  decide +kernel

end Guest

end Oxrdp
