import Oxrdp.Agent.Authorization
import Oxrdp.Agent.Buttons

/-!
# A session of pointing

What a run of the driver does to the buttons of the guest's mouse.  The sink is the pointer half
of `WinInputSink`; whatever else the driver is busy with passes it by, and so do pointer messages
about windows that are not shared any more (`step_pointing`).

A pointer message that reaches its window brings the buttons to what it reports, but for presses
that are withheld because the window could not be raised; and they stay so until the next
(`buttons_follow_reports`).
-/

namespace Oxrdp

open Effect Edges

/-- What goes on around a call of the sink: the windows that come to the front before it, and
what Windows answers in it. -/
structure CallWorld where
  fronts : List Handle
  answers : Answers

/-- The pointer half of the sink, with what goes on around each of its calls. -/
structure PointerSink where
  guest : Guest
  world : Nat → CallWorld
  calls : Nat

namespace PointerSink

def start (foreground : Handle) (world : Nat → CallWorld) : PointerSink :=
  { guest := .start foreground, world, calls := 0 }

/-- What Windows answers in the next call. -/
def answers (p : PointerSink) : Answers := (p.world p.calls).answers

def call (p : PointerSink) (e : Answers → GuestEvent) : PointerSink :=
  { p with
    guest :=
      (p.guest.run ((p.world p.calls).fronts.map .foregroundChanges)).step (e p.answers)
    calls := p.calls + 1 }

/-- The keyboard half of the sink touches no button. -/
instance : InputSink PointerSink where
  pointerEvent p handle x y buttons wheelX wheelY :=
    p.call fun a => .pointerEvent a handle x y buttons wheelX wheelY
  keyEvent p _ _ _ := p
  textInput p _ := p
  modifierSync p _ _ := p
  windowControl p handle action x y width height :=
    p.call fun a => .windowControl a handle action x y width height

end PointerSink

/-! ## What a call does to the buttons -/

namespace Guest

/-- Raising the window of the last call was tried, and another one was found in front. -/
def Refused (g : Guest) (handle : Handle) : Prop :=
  ∃ front, g.observed.getLast? = some front ∧ front ≠ handle

variable {g : Guest} {a : Answers}

/-- A window that comes to the front is nothing to the buttons. -/
theorem run_fronts (g : Guest) (fronts : List Handle) :
    (g.run (fronts.map .foregroundChanges)).sink = g.sink ∧
      (g.run (fronts.map .foregroundChanges)).injected = g.injected := by
  induction fronts using List.reverseRecOn with
  | nil => exact ⟨rfl, rfl⟩
  | append_singleton rest front ih =>
      rw [List.map_append, List.map_singleton, run_snoc]
      exact ih

theorem edges_of_injected {g g' : Guest} (h : g'.injected = g.injected) (b : Button) :
    g'.edges b = g.edges b := by
  rw [edges, h, edges]

theorem windowControl_edges (g : Guest) (a : Answers) (handle : Handle) (action : UInt8)
    (x y : Int32) (width height : UInt16) (b : Button) :
    (g.step (.windowControl a handle action x y width height)).edges b = g.edges b :=
  edges_of_injected (windowControl_injected a handle action x y width height _) b

/-- A pointer event in a window whose bounds can be read. -/
theorem Recorded.reported (h : g.Recorded) (handle : Handle) (x y : Int32) (buttons : UInt8)
    (wheelX wheelY : Int16) (hreadable : a.frameBounds.isSome = true) (b : Button) :
    let g' := g.step (.pointerEvent a handle x y buttons wheelX wheelY)
    (g'.held b = true → b.within buttons = true) ∧
      (b.within buttons = true → g'.held b = true ∨ g'.Refused handle) := by
  intro g'
  obtain ⟨rect, hframe⟩ := Option.isSome_iff_exists.mp hreadable
  obtain ⟨confirmed, hlast, -, hrefused⟩ :=
    { g with observed := [] }.pointerEvent_buttons handle x y buttons wheelX wheelY hframe
  have hlevel : g'.held b =
      (b.within buttons && (b.within g.sink.lastButtons || confirmed)) := by
    rw [(h.step _).held_eq, ← within_gate]
    exact congrArg b.within hlast
  constructor
  · rw [hlevel]
    exact fun hheld => (Bool.and_eq_true_iff.mp hheld).1
  · intro hdown
    rw [hlevel, hdown, Bool.true_and]
    cases hbefore : b.within g.sink.lastButtons with
    | true => exact .inl rfl
    | false =>
        cases confirmed with
        | true => exact .inl rfl
        | false =>
            refine .inr (hrefused ?_ rfl)
            intro hzero
            have hnew : b.within (buttons &&& ~~~g.sink.lastButtons) = true := by
              rw [Button.within_and, Button.within_not, hdown, hbefore]
              rfl
            rw [show buttons &&& ~~~g.sink.lastButtons = 0 from hzero] at hnew
            cases b <;> cases hnew

end Guest

namespace PointerSink

variable {p : PointerSink}

/-- The guest when a call begins. -/
def guestNow (p : PointerSink) : Guest :=
  p.guest.run ((p.world p.calls).fronts.map .foregroundChanges)

theorem edges_now (p : PointerSink) (b : Button) : p.guestNow.edges b = p.guest.edges b :=
  Guest.edges_of_injected (p.guest.run_fronts _).2 b

theorem recorded_now (h : p.guest.Recorded) : p.guestNow.Recorded := by
  constructor
  case alternating =>
    intro b
    rw [edges_now]
    exact h.alternating b
  case held_eq =>
    intro b
    rw [Guest.held, edges_now, guestNow, (p.guest.run_fronts _).1]
    exact h.held_eq b

theorem call_recorded (h : p.guest.Recorded) (e : Answers → GuestEvent) :
    (p.call e).guest.Recorded := (recorded_now h).step _

end PointerSink

/-! ## A run -/

section Driver

variable {W E : Type} [WindowSource W] [FrameEncoder E] {cfg : Config}

/-- The call that a message about a shared window comes to. -/
def Event.pointing (cfg : Config) (s : Session W E PointerSink) :
    Event → Option (Answers → GuestEvent)
  | .incoming (.pointerEvent p) =>
      (s.streams.lookup p.windowId).map fun st a =>
        .pointerEvent a st.handle p.x p.y p.buttons p.wheelX p.wheelY
  | .incoming (.windowControl w) =>
      if cfg.windowControlEnabled then
        (s.streams.lookup w.windowId).map fun st a =>
          .windowControl a st.handle w.action w.x w.y w.width w.height
      else none
  | _ => none

omit [WindowSource W] [FrameEncoder E] in
/-- What begins with a look at the session goes on from there. -/
theorem run_get_bind {α : Type} (f : Session W E PointerSink → Act W E PointerSink α)
    (s : Session W E PointerSink) : (get >>= f).run s = (f s).run s := rfl

/-- The sink after a turn of the driver loop. -/
theorem step_pointing (cfg : Config) (event : Event) (s : Session W E PointerSink) :
    (leftBy ((step cfg event).run s)).sink =
      ((event.pointing cfg s).map s.sink.call).getD s.sink := by
  cases event with
  | readerStopped => rfl
  | writerStopped failed => rfl
  | tick => exact sink_left tick_sink s
  | incoming msg =>
      cases msg with
      | pointerEvent p =>
          dsimp only [step, onMessage, Event.pointing]
          rw [run_get_bind]
          cases s.streams.lookup p.windowId with
          | none => rfl
          | some st => rfl
      | windowControl w =>
          dsimp only [step, onMessage, Event.pointing]
          cases cfg.windowControlEnabled with
          | false => rfl
          | true =>
              rw [if_pos rfl, if_pos rfl, run_get_bind]
              cases s.streams.lookup w.windowId with
              | none => rfl
              | some st => rfl
      | keyEvent k => rfl
      | modifierSync m => rfl
      | textInput t =>
          change (leftBy (EStateM.run
            (if cfg.textInputEnabled then inject fun sink => InputSink.textInput sink t.text
              else pure ()) s)).sink = s.sink
          cases cfg.textInputEnabled with
          | false => rfl
          | true => rfl
      | frameAck ack =>
          refine sink_left (keeps_get.bind fun a => ?_) s
          cases a.streams.lookup ack.windowId with
          | none => exact keeps_pure _
          | some st => exact keeps_modify fun _ => rfl
      | ping p =>
          refine sink_left ?_ s
          exact (sink_of_platform elapsedUs_platform).bind fun _ =>
            sink_of_platform (send_platform _ _)
      | _ => rfl

/-- A pointer message. -/
def Message.isPointer : Message → Bool
  | .pointerEvent _ => true
  | _ => false

def Event.isPointer : Event → Bool
  | .incoming msg => msg.isPointer
  | _ => false

variable (cfg) in
/-- A turn without a pointer message leaves the buttons. -/
theorem step_buttons (event : Event) {s : Session W E PointerSink}
    (h : s.sink.guest.Recorded) :
    (leftBy ((step cfg event).run s)).sink.guest.Recorded ∧
      (event.isPointer = false → ∀ b,
        (leftBy ((step cfg event).run s)).sink.guest.edges b = s.sink.guest.edges b) := by
  rw [step_pointing]
  cases hcall : event.pointing cfg s with
  | none => exact ⟨h, fun _ _ => rfl⟩
  | some e =>
      refine ⟨PointerSink.call_recorded h e, fun hother b => ?_⟩
      cases event with
      | incoming msg =>
          cases msg with
          | pointerEvent p => cases hother
          | windowControl w =>
              simp only [Event.pointing] at hcall
              split at hcall
              · obtain ⟨st, -, rfl⟩ := Option.map_eq_some_iff.mp hcall
                exact (Guest.windowControl_edges ..).trans (s.sink.edges_now b)
              · cases hcall
          | _ => cases hcall
      | _ => cases hcall

theorem drive_buttons {s s' : Session W E PointerSink} {events : List Event}
    (hrun : (drive cfg events).run s = .ok ⟨⟩ s') (h : s.sink.guest.Recorded) :
    s'.sink.guest.Recorded ∧
      ((∀ event ∈ events, event.isPointer = false) → ∀ b,
        s'.sink.guest.edges b = s.sink.guest.edges b) := by
  induction events generalizing s with
  | nil =>
      cases hrun
      exact ⟨h, fun _ _ => rfl⟩
  | cons event rest ih =>
      obtain ⟨hstep, hkeep⟩ := step_buttons cfg event h
      rw [drive_cons] at hrun
      cases hone : (step cfg event).run s with
      | error e m =>
          rw [hone] at hrun
          cases hrun
      | ok u m =>
          rw [hone] at hrun hstep hkeep
          obtain ⟨hafter, hrest⟩ := ih hrun hstep
          refine ⟨hafter, fun hnone b => ?_⟩
          rw [hrest (fun e he => hnone e (List.mem_cons_of_mem _ he)) b]
          exact hkeep (hnone event List.mem_cons_self) b

/-- A run in two parts. -/
theorem drive_append {s s₁ s' : Session W E PointerSink} {before after : List Event}
    (hbefore : (drive cfg before).run s = .ok ⟨⟩ s₁)
    (hrun : (drive cfg (before ++ after)).run s = .ok ⟨⟩ s') :
    (drive cfg after).run s₁ = .ok ⟨⟩ s' := by
  induction before generalizing s with
  | nil =>
      cases hbefore
      exact hrun
  | cons event rest ih =>
      rw [List.cons_append, drive_cons] at hrun
      rw [drive_cons] at hbefore
      cases hone : (step cfg event).run s with
      | error e m =>
          rw [hone] at hrun
          cases hrun
      | ok u m =>
          rw [hone] at hrun hbefore
          exact ih hbefore hrun

/-- What the guest's buttons are after a pointer message that reached its window. -/
structure ButtonsAfter (reported : UInt8) (handle : Handle) (atOnce after : Guest) : Prop where
  /-- What was injected are presses and releases in turn. -/
  alternating : ∀ b, Alternating (after.edges b)
  /-- Nothing is held that was not reported. -/
  released : ∀ b, after.held b = true → b.within reported = true
  /-- What was reported is held, unless the window could not be raised. -/
  pressed : ∀ b, b.within reported = true → after.held b = true ∨ atOnce.Refused handle

/-- **No button sticks.**  The buttons of the guest are those of the last pointer message that
reached a window, whatever else the session has been about since. -/
theorem buttons_follow_reports {source : W} {encoder : E} {foreground : Handle}
    {world : Nat → CallWorld} {before after : List Event} {p : PointerEvent}
    {s₁ s : Session W E PointerSink}
    (hbefore : Running cfg source encoder (.start foreground world) before s₁)
    (hrun : Running cfg source encoder (.start foreground world)
      (before ++ .incoming (.pointerEvent p) :: after) s)
    {st : WindowStream} (hshared : s₁.streams.lookup p.windowId = some st)
    (hreadable : s₁.sink.answers.frameBounds.isSome = true)
    (hafter : ∀ event ∈ after, event.isPointer = false) :
    ButtonsAfter p.buttons st.handle
      (s₁.sink.call fun a =>
        .pointerEvent a st.handle p.x p.y p.buttons p.wheelX p.wheelY).guest s.sink.guest := by
  have hstart : (PointerSink.start foreground world).guest.Recorded :=
    Guest.run_recorded foreground []
  have hrecorded := (drive_buttons hbefore hstart).1
  have hrest := drive_append hbefore hrun
  rw [drive_cons] at hrest
  have hstep := step_pointing cfg (.incoming (.pointerEvent p)) s₁
  have hcall : (Event.incoming (.pointerEvent p)).pointing cfg s₁ = some fun a =>
      .pointerEvent a st.handle p.x p.y p.buttons p.wheelX p.wheelY := by
    rw [Event.pointing, hshared, Option.map_some]
  rw [hcall, Option.map_some, Option.getD_some] at hstep
  cases hone : (step cfg (.incoming (.pointerEvent p))).run s₁ with
  | error e m =>
      rw [hone] at hrest
      cases hrest
  | ok u m =>
      rw [hone] at hrest hstep
      have hnow : m.sink = _ := hstep
      have hreported := (PointerSink.recorded_now hrecorded).reported st.handle p.x p.y p.buttons
        p.wheelX p.wheelY hreadable
      obtain ⟨hlast, hkeep⟩ := drive_buttons hrest
        (hnow ▸ PointerSink.call_recorded hrecorded _)
      have hheld : ∀ b, s.sink.guest.held b = m.sink.guest.held b := fun b =>
        congrArg level (hkeep hafter b)
      refine ⟨hlast.alternating, fun b hb => ?_, fun b hb => ?_⟩
      · rw [hheld, hnow] at hb
        exact (hreported b).1 hb
      · rw [hheld, hnow]
        exact (hreported b).2 hb

end Driver

end Oxrdp
