import Oxrdp.Client.Acks
import Oxrdp.Client.InputOrder
import Oxrdp.Display.Backends

/-!
# The client and its screen

The session task and the event loop of the display run side by side and talk over two channels.
A `Client` is both: the loop as it was modelled, with the desktop in the place of its abstract
backend.  A `ClientStep` is a turn of the session task or of a worker, a command that the
display takes, or something that the user does in a native window, so that a list of them is an
interleaving.

`read` are the messages read off the wire, `heard` what winit reported of known windows, and
`refused` the windows that could not be created.  The loop of a client runs as the loop alone
would (`run_refines`), so that what holds of the latter in every run holds here.
-/

namespace Oxrdp

open Winit

/-- Is this a step of the display? -/
def LoopStep.ofDisplay {X : Type} : LoopStep X → Bool
  | .display _ => true
  | .native .. => true
  | _ => false

/-- The session loop with its desktop. -/
structure Client (D : Type) where
  loop : ClientLoop D
  desktop : Desktop
  read : List Message
  heard : List (UInt32 × InputEvent)
  refused : List UInt32

inductive ClientStep (X : Type) where
  | session (a : LoopStep X) (h : a.ofDisplay = false)
  /-- The display takes a command. -/
  | command (answers : CommandAnswers)
  | user (e : DesktopEvent) (h : ∀ c a, e ≠ .command c a)

namespace Client

variable {X D : Type}

/-- A client before its first turn. -/
def start (measuring : Bool) : Client D where
  loop := .start measuring
  desktop := .new
  read := []
  heard := []
  refused := []

/-- The message that a turn of the session task reads. -/
def reads (s : ClientLoop D) : LoopStep X → List Message
  | .message m _ => if s.exit.isSome || s.stalled.isSome then [] else [m]
  | _ => []

/-- The display takes a command; what it reports goes to the session task. -/
def onCommand (isX11 : Bool) (c : Client D) (answers : CommandAnswers) : Client D :=
  if c.loop.decoders.sinkOpen then
    match c.loop.commands with
    | [] => c
    | .shutdown :: rest =>
        { c with
          loop := { c.loop with
            commands := rest
            decoders := { c.loop.decoders with sinkOpen := false } } }
    | command :: rest =>
        let (effects, desktop) := c.desktop.userEvent isX11 command answers
        { c with
          loop := { c.loop with
            commands := rest
            displayEvents := c.loop.displayEvents ++ sends effects
            -- the abstract backend goes along
            backend :=
              (c.loop.backend.apply (answersOf c.desktop isX11 answers command) command).2 }
          desktop
          refused := c.refused ++ refusedBy answers command }
  else
    c

/-- What the event is to the input of a window that is known. -/
def hears (d : Desktop) : DesktopEvent → List (UInt32 × InputEvent)
  | .input id event => ((d.backend.byWinitId.lookup id).map fun w => (w, event)).toList
  | _ => []

/-- The user does something. -/
def onUser (isX11 : Bool) (c : Client D) (e : DesktopEvent) : Client D :=
  if c.loop.decoders.sinkOpen then
    let (effects, desktop) := c.desktop.step isX11 e
    { c with
      loop := { c.loop with displayEvents := c.loop.displayEvents ++ sends effects }
      desktop
      heard := c.heard ++ hears c.desktop e }
  else
    c

variable [FrameDecoder X D]

def step (factory : DecoderFactory X D) (features : UInt64) (isX11 : Bool) (c : Client D) :
    ClientStep X → Client D
  | .session a _ =>
      { c with loop := c.loop.step factory features a, read := c.read ++ reads c.loop a }
  | .command answers => c.onCommand isX11 answers
  | .user e _ => c.onUser isX11 e

/-- The client after some steps. -/
def run (factory : DecoderFactory X D) (features : UInt64) (measuring isX11 : Bool)
    (steps : List (ClientStep X)) : Client D :=
  steps.foldl (step factory features isX11) (start measuring)

/-- The last step of a run comes after the others. -/
theorem run_snoc (factory : DecoderFactory X D) (features : UInt64) (measuring isX11 : Bool)
    (steps : List (ClientStep X)) (a : ClientStep X) :
    run factory features measuring isX11 (steps ++ [a]) =
      (run factory features measuring isX11 steps).step factory features isX11 a := by
  rw [run, List.foldl_append]
  rfl

/-! ## What holds throughout -/

/-- The input that was reported of the user. -/
def inputs (features : UInt64) (heard : List (UInt32 × InputEvent)) : List Message :=
  (InputState.run heard).1.filterMap (DisplayEvent.input features)

structure Sound (factory : DecoderFactory X D) (features : UInt64) (measuring : Bool)
    (c : Client D) : Prop where
  abstracts : Abstracts c.loop.backend c.desktop
  /-- The loop runs as it would alone, with the same input. -/
  runs : ∃ steps, c.loop = ClientLoop.run factory features measuring steps ∧
    steps.filterMap (LoopStep.input features) = inputs features c.heard
  input : c.desktop.input = (InputState.run c.heard).2
  model : c.loop.model = WindowModel.new.receiveAll c.read
  keyed : Keyed c.loop.model
  /-- The commands that are on their way lead from what is seen to the model. -/
  screen : c.loop.exit = none → c.loop.decoders.sinkOpen = true →
    ∃ s, Renders c.refused s c.desktop ∧ Leads s c.loop.commands (sceneOf c.loop.model)

variable {factory : DecoderFactory X D} {features : UInt64} {measuring isX11 : Bool}
  {c : Client D}

/-- A client that has just started is sound. -/
theorem start_sound : Sound factory features measuring (start measuring : Client D) where
  abstracts := fun _ => rfl
  runs := ⟨[], rfl, rfl⟩
  input := rfl
  model := rfl
  keyed := nofun
  screen := fun _ _ => ⟨.empty, Renders.start, rfl⟩

/-- A step that is not the display's takes and gives no input. -/
theorem input_of_session {a : LoopStep X} (ha : a.ofDisplay = false) :
    a.input features = none := by
  cases a with
  | native => cases ha
  | _ => rfl

variable (factory features) in
/-- The model takes what is read. -/
theorem model_of_session (s : ClientLoop D) {a : LoopStep X}
    (ha : (∀ answers, a ≠ .display answers) ∧ ∀ e h, a ≠ .native e h) :
    (s.step factory features a).model = s.model.receiveAll (reads s a) := by
  have hstill := s.step_still_or_event factory features ha
  cases a with
  | message m r =>
      change (if _ then s else s.onMessage r m).model = s.model.receiveAll (if _ then [] else [m])
      split
      · rfl
      · exact s.onMessage_model r m
  | _ =>
      rcases hstill with hstill | ⟨m, r, e, hmessage, -, -⟩
      · exact hstill.model
      · cases hmessage

variable (factory features) in
/-- The commands of a turn lead to the model after it. -/
theorem leads_of_session {s : ClientLoop D} (hkeyed : Keyed s.model) {a : LoopStep X}
    (ha : (∀ answers, a ≠ .display answers) ∧ ∀ e h, a ≠ .native e h) :
    let s' := s.step factory features a
    s.Goes s' ∧ Keyed s'.model ∧
      (s'.exit = none → s'.decoders.sinkOpen = true →
        ∃ cs, s'.commands = s.commands ++ cs ∧
          Leads (sceneOf s.model) cs (sceneOf s'.model)) := by
  intro s'
  rcases s.step_still_or_event factory features ha with hstill | ⟨m, r, e, -, he, heq⟩
  · refine ⟨hstill.toGoes, hstill.model ▸ hkeyed, fun hexit hopen => ?_⟩
    obtain ⟨cs, hcs, hplain⟩ := hstill.commands hexit hopen
    refine ⟨cs, hcs, ?_⟩
    rw [hstill.model]
    exact leads_plain _ hplain
  · obtain ⟨hgoes, hmodel, hcommands⟩ := s.onEvent_told r he
    rw [← heq] at hgoes hmodel hcommands
    have htold := hkeyed.tell e
    refine ⟨hgoes, hmodel ▸ htold.keyed, fun hexit hopen => ⟨_, hcommands hexit, ?_⟩⟩
    rw [hmodel]
    exact htold.leads

/-- A turn of the session task or of a worker. -/
theorem Sound.session (h : Sound factory features measuring c) {a : LoopStep X}
    (ha : a.ofDisplay = false) :
    Sound factory features measuring
      { c with loop := c.loop.step factory features a, read := c.read ++ reads c.loop a } := by
  have hnot : (∀ answers, a ≠ .display answers) ∧ ∀ e he, a ≠ .native e he := by
    constructor
    · rintro answers rfl
      cases ha
    · rintro e he rfl
      cases ha
  have hmodel := model_of_session factory features c.loop hnot
  obtain ⟨hgoes, hkeyed, hcommands⟩ :=
    leads_of_session factory features h.keyed hnot
  obtain ⟨steps, hruns, hinput⟩ := h.runs
  refine ⟨?_, ⟨steps ++ [a], ?_, ?_⟩, h.input, ?_, hkeyed, fun hexit hopen => ?_⟩
  · intro id
    rw [← h.abstracts id, ← hgoes.backend]
  · rw [ClientLoop.run_snoc, ← hruns]
  · rw [List.filterMap_append, List.filterMap_cons_none (input_of_session ha)]
    exact (List.append_nil _).trans hinput
  · rw [hmodel, h.model, ← WindowModel.receiveAll_append]
  · obtain ⟨s, hshows, hleads⟩ := h.screen (hgoes.exit_of hexit) (hgoes.open_of hopen)
    obtain ⟨cs, hcs, hmore⟩ := hcommands hexit hopen
    exact ⟨s, hshows, hcs ▸ hleads.append hmore⟩

/-- The display takes a command. -/
theorem Sound.command (h : Sound factory features measuring c) (answers : CommandAnswers) :
    Sound factory features measuring (c.onCommand isX11 answers) := by
  obtain ⟨steps, hruns, hinput⟩ := h.runs
  have hsteps : ∀ a : DisplayAnswers,
      (steps ++ [(.display a : LoopStep X)]).filterMap (LoopStep.input features) =
        inputs features c.heard := by
    intro a
    rw [List.filterMap_append]
    exact (List.append_nil _).trans hinput
  unfold onCommand
  split
  next hopen =>
    split
    next => exact h
    next rest hcommands =>
      refine ⟨h.abstracts, ⟨steps ++ [.display ⟨none, .ok ⟨0, 0⟩⟩], ?_, hsteps _⟩, h.input, h.model,
        h.keyed, fun _ hclosed => by cases hclosed⟩
      rw [ClientLoop.run_snoc, ← hruns]
      simp only [ClientLoop.step, ClientLoop.onDisplay, hopen, hcommands, if_true]
    next command rest hother hcommands =>
      obtain ⟨hevents, habstracts⟩ := h.abstracts.command isX11 command answers
      refine ⟨habstracts, ⟨steps ++ [.display (answersOf c.desktop isX11 answers command)], ?_,
        hsteps _⟩, (userEvent_input c.desktop isX11 command answers).trans h.input, h.model,
        h.keyed, fun hexit _ => ?_⟩
      · rw [ClientLoop.run_snoc, ← hruns]
        dsimp only [ClientLoop.step, ClientLoop.onDisplay]
        rw [if_pos hopen, hcommands, ← hevents]
        cases command with
        | shutdown => exact absurd rfl hother
        | _ => rfl
      · obtain ⟨s, hshows, hleads⟩ := h.screen hexit hopen
        rw [hcommands] at hleads
        exact ⟨_, hshows.command isX11 hleads.1 answers, hleads.2⟩
  next => exact h

/-! ## What the user does -/

/-- Input is no frame. -/
theorem handle_presents (s : InputState) (windowId : UInt32) (e : InputEvent) :
    ∀ event ∈ (s.handle windowId e).1, event.presents = none := by
  intro event hevent
  cases e with
  | keyboardInput physicalKey pressed =>
      cases physicalKey with
      | unidentified native => cases hevent
      | code code =>
          rw [InputState.handle] at hevent
          split at hevent
          · cases List.mem_singleton.mp hevent
            rfl
          · cases hevent
  | focused focused =>
      rcases List.mem_cons.mp hevent with rfl | hevent
      · rfl
      · cases List.mem_singleton.mp hevent
        rfl
  | _ =>
      cases List.mem_singleton.mp hevent
      rfl

variable (features) in
/-- A native window that was moved or resized. -/
theorem handleWindowEvent_sends (b : WinitBackend) (now id : Nat) (e : NativeEvent) :
    ∀ event ∈ sends (b.handleWindowEvent isX11 now id e).1,
      event.presents = none ∧ event.input features = none := by
  intro event hevent
  cases hlookup : b.byWinitId.lookup id with
  | none =>
      cases e with
      | resized width height =>
          simp only [WinitBackend.handleWindowEvent, hlookup] at hevent
          cases hevent
      | moved x y =>
          simp only [WinitBackend.handleWindowEvent, hlookup] at hevent
          cases hevent
  | some windowId =>
      cases e with
      | resized width height =>
          simp only [WinitBackend.handleWindowEvent, hlookup] at hevent
          cases List.mem_singleton.mp hevent
          exact ⟨rfl, rfl⟩
      | moved x y =>
          simp only [WinitBackend.handleWindowEvent, hlookup] at hevent
          cases isX11 with
          | false => cases hevent
          | true =>
              cases List.mem_singleton.mp hevent
              exact ⟨rfl, rfl⟩

/-- What the user does, as the loop comes to know it. -/
structure Heard (features : UInt64) (isX11 : Bool) (heard : List (UInt32 × InputEvent))
    (d : Desktop) (e : DesktopEvent) : Prop where
  native : ∀ event ∈ sends (d.step isX11 e).1, event.presents = none
  inputs : inputs features (heard ++ hears d e) =
    inputs features heard ++ (sends (d.step isX11 e).1).filterMap (DisplayEvent.input features)
  input : (d.step isX11 e).2.input = (InputState.run (heard ++ hears d e)).2

variable (features isX11) in
/-- Every event of the user is heard. -/
theorem heard_of_user {heard : List (UInt32 × InputEvent)} {d : Desktop}
    (hinput : d.input = (InputState.run heard).2) {e : DesktopEvent}
    (huser : ∀ c a, e ≠ .command c a) : Heard features isX11 heard d e := by
  cases e with
  | command c a => exact absurd rfl (huser c a)
  | input id event =>
      cases hlookup : d.backend.byWinitId.lookup id with
      | none =>
          have hstep : d.step isX11 (.input id event) = ([], d) := by
            simp only [Desktop.step, hlookup]
          have hhears : hears d (.input id event) = [] := by
            simp only [hears, hlookup]
            rfl
          refine ⟨?_, ?_, ?_⟩
          · rw [hstep]
            nofun
          · rw [hstep, hhears, List.append_nil]
            exact (List.append_nil _).symm
          · rw [hstep, hhears, List.append_nil]
            exact hinput
      | some w =>
          have hstep : d.step isX11 (.input id event) =
              ((d.input.handle w event).1.map .send,
                { d with input := (d.input.handle w event).2 }) := by
            simp only [Desktop.step, hlookup]
          have hhears : hears d (.input id event) = [(w, event)] := by
            simp only [hears, hlookup]
            rfl
          refine ⟨?_, ?_, ?_⟩
          · rw [hstep, sends_map_send]
            exact handle_presents _ w event
          · rw [hstep, hhears, sends_map_send, inputs, InputState.run_snoc, List.filterMap_append,
              hinput]
            rfl
          · rw [hstep, hhears, InputState.run_snoc, ← hinput]
  | native now id event =>
      have hnone : (sends (d.step isX11 (.native now id event)).1).filterMap
          (DisplayEvent.input features) = [] := by
        rw [List.filterMap_eq_nil_iff]
        intro event' hevent'
        exact (handleWindowEvent_sends features d.backend now id event event'
          hevent').2
      refine ⟨fun event' hevent' => ?_, ?_, ?_⟩
      · exact (handleWindowEvent_sends features d.backend now id event event'
          hevent').1
      · rw [hnone]
        change inputs features (heard ++ []) = _
        rw [List.append_nil, List.append_nil]
      · change d.input = (InputState.run (heard ++ [])).2
        rw [List.append_nil]
        exact hinput

variable (factory features) in
/-- The loop takes what the window system reports one by one. -/
theorem natives_run (s : ClientLoop D) (hopen : s.decoders.sinkOpen = true)
    (events : List DisplayEvent) (hevents : ∀ e ∈ events, e.presents = none) :
    ∃ steps : List (LoopStep X),
      steps.foldl (ClientLoop.step factory features) s =
        { s with displayEvents := s.displayEvents ++ events } ∧
      steps.filterMap (LoopStep.input features) =
        events.filterMap (DisplayEvent.input features) := by
  induction events generalizing s with
  | nil =>
      refine ⟨[], ?_, rfl⟩
      rw [List.append_nil]
      rfl
  | cons e rest ih =>
      have hnative : ∀ id frameId decodedUs presentedUs,
          e ≠ .presented id frameId decodedUs presentedUs := by
        rintro id frameId decodedUs presentedUs rfl
        cases hevents _ List.mem_cons_self
      obtain ⟨steps, hrun, hinput⟩ :=
        ih { s with displayEvents := s.displayEvents ++ [e] } hopen
          fun e he => hevents e (List.mem_cons_of_mem _ he)
      refine ⟨.native e hnative :: steps, ?_, ?_⟩
      · rw [List.foldl_cons, ClientLoop.step, if_pos hopen, hrun]
        simp only [List.append_assoc, List.singleton_append]
      · rw [List.filterMap_cons, List.filterMap_cons, hinput]
        rfl

/-- The user does something. -/
theorem Sound.user (h : Sound factory features measuring c) {e : DesktopEvent}
    (huser : ∀ c a, e ≠ .command c a) :
    Sound factory features measuring (c.onUser isX11 e) := by
  unfold onUser
  split
  next hopen =>
    obtain ⟨steps, hruns, hinput⟩ := h.runs
    obtain ⟨hnative, hinputs, hstate⟩ :=
      heard_of_user features isX11 h.input huser
    obtain ⟨more, hmore, hinput'⟩ :=
      natives_run factory features c.loop hopen _ hnative
    refine ⟨?_, ⟨steps ++ more, ?_, ?_⟩, hstate, h.model, h.keyed, fun hexit hopen => ?_⟩
    · exact h.abstracts.user isX11 huser
    · rw [ClientLoop.run, List.foldl_append]
      change _ = more.foldl _ (ClientLoop.run factory features measuring steps)
      rw [← hruns, hmore]
    · rw [List.filterMap_append, hinput, hinput', hinputs]
    · obtain ⟨s, hshows, hleads⟩ := h.screen hexit hopen
      exact ⟨s, hshows.user isX11 huser, hleads⟩
  next => exact h

/-- Each step of the client keeps it sound. -/
theorem Sound.step (h : Sound factory features measuring c) (a : ClientStep X) :
    Sound factory features measuring (c.step factory features isX11 a) := by
  cases a with
  | session a ha => exact h.session ha
  | command answers => exact h.command answers
  | user e he => exact h.user he

/-- Every run of the client is sound. -/
theorem run_sound (factory : DecoderFactory X D) (features : UInt64) (measuring isX11 : Bool)
    (steps : List (ClientStep X)) :
    Sound factory features measuring (run factory features measuring isX11 steps) := by
  induction steps using List.reverseRecOn with
  | nil => exact start_sound
  | append_singleton rest a ih =>
      rw [run_snoc]
      exact ih.step a

/-- **Input in order.**  However the session task, the workers, the display and the user take
turns, the input that was written is a beginning of what the user did, in its order, none lost
and none twice.  While the session runs and the display is there, the rest still waits. -/
theorem input_in_order (factory : DecoderFactory X D) (features : UInt64)
    (measuring isX11 : Bool) (steps : List (ClientStep X)) :
    (run factory features measuring isX11 steps).loop.InOrder features
      (inputs features (run factory features measuring isX11 steps).heard) := by
  obtain ⟨alone, hruns, hinput⟩ := (run_sound factory features measuring isX11 steps).runs
  rw [hruns, ← hinput]
  exact ClientLoop.run_inOrder factory features measuring alone

/-- The desktop shows the model, without the windows that were refused. -/
theorem Sound.renders (h : Sound factory features measuring c) (hexit : c.loop.exit = none)
    (hopen : c.loop.decoders.sinkOpen = true)
    (hplain : ∀ command ∈ c.loop.commands, command.isPlain = true) :
    Renders c.refused (sceneOf (WindowModel.new.receiveAll c.read)) c.desktop := by
  obtain ⟨s, hshows, hleads⟩ := h.screen hexit hopen
  rw [← h.model, ← hleads.reached hplain]
  exact hshows

end Client

/-- A turn of the session task that reads a message. -/
def reading (m : Message) : ClientStep Unit := .session (.message m ClientLoop.smoothly) rfl

/-- A turn of the session task that takes an event of the display. -/
def telling : ClientStep Unit := .session (.displayEvent ClientLoop.smoothly) rfl

/-- The user does something in a native window. -/
def doing (id : Nat) (event : InputEvent) : ClientStep Unit :=
  .user (.input id event) (fun _ _ h => by cases h)

/-- The first of two windows is retitled while a key is struck in it; the second is refused. -/
def twoWindows : List (ClientStep Unit) :=
  [reading (.windowOpened ⟨7, 64, 1, "notepad", "first", 0, 0, 640, 480, 96, 0, 0⟩),
   .command (obliging 1),
   reading (.windowOpened ⟨8, 65, 1, "notepad", "second", 0, 0, 640, 480, 96, 0, 0⟩),
   reading (.windowTitle ⟨7, "saved"⟩),
   doing 1 (.keyboardInput (.code .keyS) true),
   .command { obliging 2 with create := ⟨.error "no more windows", .ok ()⟩ },
   telling,
   .command (obliging 3)]

end Oxrdp
