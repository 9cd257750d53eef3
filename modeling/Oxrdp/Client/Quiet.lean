import Oxrdp.Client.Loop
import Oxrdp.Client.Pipeline

/-!
# What goes on besides

Most of what the session loop does has to do neither with the input of the user nor with the
windows of the guest: frames wait for their workers and are acknowledged, pings are answered.
Such a part is `Quiet`.  It is `Mute`, in that it writes no input and takes none from the
channel, and it is `Still`, in that it leaves the model alone and gives the display nothing but
frames.  What follows says of each part of the loop which of the two it is.

A part that ends the loop need not keep anything but what was written.
-/

namespace Oxrdp

/-- The input that a message carries; when it was taken does not matter here. -/
def Message.input : Message → Option Message
  | .pointerEvent p => some (.pointerEvent { p with timestamp := 0 })
  | .keyEvent k => some (.keyEvent { k with timestamp := 0 })
  | .textInput t => some (.textInput t)
  | .modifierSync m => some (.modifierSync m)
  | _ => none

/-- The input that an event of the display asks for.  Text is not sent unless it was
negotiated. -/
def DisplayEvent.input (features : UInt64) : DisplayEvent → Option Message
  | .pointer id x y buttons wheelX wheelY =>
      some (.pointerEvent { windowId := id, x, y, buttons, wheelX, wheelY, timestamp := 0 })
  | .key scancode pressed extended =>
      some (.keyEvent
        { scancode
          flags := (if pressed then KeyFlag.pressed else 0) |||
            (if extended then KeyFlag.extended else 0)
          timestamp := 0 })
  | .text t => if features &&& Feature.textInput != 0 then some (.textInput { text := t }) else none
  | .modifiers m l => some (.modifierSync { modifiers := m, locks := l })
  | _ => none

/-- A command that is not about the windows. -/
def DisplayCommand.isPlain : DisplayCommand → Bool
  | .frame _ => true
  | .shutdown => true
  | _ => false

namespace ClientLoop

variable {X D : Type} {s s' s'' : ClientLoop D} {features : UInt64}

/-- The input that was written to the wire. -/
def written (s : ClientLoop D) : List Message := s.sent.filterMap Message.input

/-- The input that the session task has not taken yet. -/
def waiting (features : UInt64) (s : ClientLoop D) : List Message :=
  s.displayEvents.filterMap (DisplayEvent.input features)

/-- No input is written, and none is taken or dropped while the loop goes on. -/
structure Mute (features : UInt64) (s s' : ClientLoop D) : Prop where
  exit_of : s'.exit = none → s.exit = none
  open_of : s'.decoders.sinkOpen = true → s.decoders.sinkOpen = true
  written : s'.written = s.written
  waiting : s'.exit = none → s'.waiting features = s.waiting features

/-- The loop goes on only if it was going on, and the display is there only if it was. -/
structure Goes (s s' : ClientLoop D) : Prop where
  exit_of : s'.exit = none → s.exit = none
  open_of : s'.decoders.sinkOpen = true → s.decoders.sinkOpen = true
  backend : s'.backend = s.backend

/-- The model stays, and the display is told nothing about the windows. -/
structure Still (s s' : ClientLoop D) : Prop extends Goes s s' where
  model : s'.model = s.model
  commands : s'.exit = none → s'.decoders.sinkOpen = true →
    ∃ cs, s'.commands = s.commands ++ cs ∧ ∀ c ∈ cs, c.isPlain = true

/-- Neither input nor windows. -/
structure Quiet (features : UInt64) (s s' : ClientLoop D) : Prop extends
  Mute features s s', Still s s'

/-- Two turns in a row go on if both do. -/
theorem Goes.trans (h : Goes s s') (h' : Goes s' s'') : Goes s s'' :=
  ⟨h.exit_of ∘ h'.exit_of, h.open_of ∘ h'.open_of, h'.backend.trans h.backend⟩

/-- Two mute turns in a row are mute. -/
theorem Mute.trans (h : Mute features s s') (h' : Mute features s' s'') :
    Mute features s s'' where
  exit_of := h.exit_of ∘ h'.exit_of
  open_of := h.open_of ∘ h'.open_of
  written := h'.written.trans h.written
  waiting hexit := (h'.waiting hexit).trans (h.waiting (h'.exit_of hexit))

/-- Two still turns in a row are still. -/
theorem Still.trans (h : Still s s') (h' : Still s' s'') : Still s s'' where
  toGoes := h.toGoes.trans h'.toGoes
  model := h'.model.trans h.model
  commands := by
    intro hexit hopen
    obtain ⟨cs', hcs', hplain'⟩ := h'.commands hexit hopen
    obtain ⟨cs, hcs, hplain⟩ := h.commands (h'.exit_of hexit) (h'.open_of hopen)
    refine ⟨cs ++ cs', by rw [hcs', hcs, List.append_assoc], fun c hc => ?_⟩
    rcases List.mem_append.mp hc with hc | hc
    · exact hplain c hc
    · exact hplain' c hc

/-- Two quiet turns in a row are quiet. -/
theorem Quiet.trans (h : Quiet features s s') (h' : Quiet features s' s'') :
    Quiet features s s'' where
  toMute := h.toMute.trans h'.toMute
  backend := h'.backend.trans h.backend
  model := h'.model.trans h.model
  commands := (h.toStill.trans h'.toStill).commands

/-- Only what is neither written nor waits is changed. -/
theorem quiet_same (hsent : s'.sent = s.sent) (hevents : s'.displayEvents = s.displayEvents)
    (hexit : s'.exit = s.exit) (hopen : s'.decoders.sinkOpen = s.decoders.sinkOpen)
    (hmodel : s'.model = s.model) (hcommands : s'.commands = s.commands)
    (hbackend : s'.backend = s.backend) : Quiet features s s' where
  exit_of := hexit ▸ id
  open_of := hopen ▸ id
  written := by rw [ClientLoop.written, hsent, ClientLoop.written]
  waiting _ := by rw [ClientLoop.waiting, hevents, ClientLoop.waiting]
  backend := hbackend
  model := hmodel
  commands _ _ := ⟨[], by rw [hcommands, List.append_nil], nofun⟩

/-- Doing nothing is quiet. -/
theorem Quiet.refl (s : ClientLoop D) : Quiet features s s := quiet_same rfl rfl rfl rfl rfl rfl rfl

/-- Stopping writes nothing and tells the display nothing. -/
theorem stop_quiet (s : ClientLoop D) (e : LoopExit) : Quiet features s (s.stop e) where
  exit_of := nofun
  open_of := id
  written := rfl
  waiting := nofun
  backend := rfl
  model := rfl
  commands := nofun

/-- Whatever the display is told, it is no input. -/
theorem command_mute (s : ClientLoop D) (c : DisplayCommand) :
    Mute features s (s.command c) := by
  unfold command
  split
  · exact ⟨id, id, rfl, fun _ => rfl⟩
  · exact (Quiet.refl s).toMute

/-- A command writes no input; if the display is gone, the loop ends. -/
theorem commandOrStop_mute (s : ClientLoop D) (c : DisplayCommand) :
    Mute features s (s.commandOrStop c) := by
  unfold commandOrStop
  split
  · exact s.command_mute c
  · exact (s.stop_quiet _).toMute

/-- The display is told to stop. -/
theorem shutdown_quiet (s : ClientLoop D) (e : LoopExit) :
    Quiet features s ((s.command .shutdown).stop e) where
  toMute := (s.command_mute .shutdown).trans (stop_quiet _ e).toMute
  backend := by
    change (s.command .shutdown).backend = s.backend
    unfold command
    split
    · rfl
    · rfl
  model := by
    change (s.command .shutdown).model = s.model
    unfold command
    split
    · rfl
    · rfl
  commands := nofun

/-- Writing a message. -/
theorem send_still (s : ClientLoop D) (r : Readings) (m : Message) : Still s (s.send r m) := by
  unfold send
  split
  · exact ⟨⟨id, id, rfl⟩, rfl, fun _ _ => ⟨[], (List.append_nil _).symm, nofun⟩⟩
  · exact (shutdown_quiet s .failed : Quiet 0 s _).toStill

/-- A message that is no input is none. -/
theorem send_quiet (s : ClientLoop D) (r : Readings) {m : Message} (hm : m.input = none) :
    Quiet features s (s.send r m) where
  toMute := by
    unfold send
    split
    · refine ⟨id, id, ?_, fun _ => rfl⟩
      rw [written, List.filterMap_append, List.filterMap_cons_none hm, List.filterMap_nil,
        List.append_nil, written]
    · exact (s.shutdown_quiet .failed).toMute
  backend := (s.send_still r m).backend
  model := (s.send_still r m).model
  commands := (s.send_still r m).commands

/-- An acknowledgement is no input. -/
theorem sendFrameAck_quiet (s : ClientLoop D) (r : Readings) (ack : FrameAck) :
    Quiet features s (s.sendFrameAck features r ack) := by
  unfold sendFrameAck
  split
  · exact s.send_quiet r rfl
  · exact .refl s

/-- Only tables of the session task change. -/
theorem noteChange_same (s : ClientLoop D) (r : Readings) (change : ModelChange) :
    ∃ geometry latency decodeTimes decoders,
      s.noteChange r change = { s with geometry, latency, decodeTimes, decoders } ∧
        decoders.sinkOpen = s.decoders.sinkOpen := by
  unfold noteChange
  split
  next =>
    split
    · exact ⟨_, _, _, _, rfl, rfl⟩
    · exact ⟨_, _, _, _, rfl, rfl⟩
  next =>
    split
    · exact ⟨_, _, _, _, rfl, rfl⟩
    · exact ⟨_, _, _, _, rfl, rfl⟩
  next => exact ⟨_, _, _, _, rfl, rfl⟩
  next => exact ⟨_, _, _, _, rfl, rfl⟩

/-- A note is no input, and is in the geometry's and the monitor's books. -/
theorem noteChange_quiet (s : ClientLoop D) (r : Readings) (change : ModelChange) :
    Quiet features s (s.noteChange r change) := by
  obtain ⟨geometry, latency, decodeTimes, decoders, heq, hopen⟩ := s.noteChange_same r change
  rw [heq]
  exact quiet_same rfl rfl rfl hopen rfl rfl rfl

/-- The changes that an event makes to the windows are no input. -/
theorem onEvent_mute (s : ClientLoop D) (r : Readings) {e : ClientEvent}
    (he : ∀ f, e ≠ .frame f) : Mute features s (s.onEvent r e) := by
  have hno : ∀ f, .frame f ∉ (s.model.apply e).1 := by
    rcases s.model.apply_yields e with ⟨f, hf, -⟩ | ⟨id, hchanges, -⟩ | ⟨hno, -⟩
    · exact absurd hf (he f)
    · rw [hchanges]
      simp
    · exact hno
  have hchanged : Mute features s (s.changed r e) := by
    have hmodel : Mute features s { s with model := (s.model.apply e).2 } :=
      ⟨id, id, rfl, fun _ => rfl⟩
    refine hmodel.trans (applyChanges_respects ?_ ?_ ?_ ?_ _ hno _)
    · exact fun s => (Quiet.refl s).toMute
    · exact fun _ _ _ h h' => h.trans h'
    · exact fun s change => (s.noteChange_quiet r change).toMute
    · exact fun s _ c _ => s.commandOrStop_mute c
  rcases s.onEvent_eq r e with h | h
  · rw [h]
    exact hchanged
  · rw [h]
    exact hchanged.trans (stop_quiet _ _).toMute

/-- The display is told of something, or the loop ends because it is gone. -/
theorem told_of_change (s : ClientLoop D) (change : ModelChange) :
    let s' := match displayCommandForChange s.model change with
      | some c => s.commandOrStop c
      | none => s
    Goes s s' ∧ s'.model = s.model ∧
      (s'.exit = none →
        s'.commands = s.commands ++ (displayCommandForChange s.model change).toList) := by
  intro s'
  cases hc : displayCommandForChange s.model change with
  | none =>
      have hs' : s' = s := by simp only [s', hc]
      rw [hs']
      exact ⟨⟨id, id, rfl⟩, rfl, fun _ => (List.append_nil _).symm⟩
  | some c =>
      have hs' : s' = s.commandOrStop c := by simp only [s', hc]
      rw [hs', commandOrStop]
      split
      next hopen =>
        rw [command, if_pos hopen]
        exact ⟨⟨id, id, rfl⟩, rfl, fun _ => rfl⟩
      next => exact ⟨⟨nofun, id, rfl⟩, rfl, nofun⟩

/-- The display is told of changes as the model has them now. -/
theorem applyChanges_told (s : ClientLoop D) (r : Readings) (changes : List ModelChange)
    (hno : ∀ f, .frame f ∉ changes) :
    Goes s (s.applyChanges r changes) ∧ (s.applyChanges r changes).model = s.model ∧
      ((s.applyChanges r changes).exit = none →
        (s.applyChanges r changes).commands =
          s.commands ++ changes.filterMap (displayCommandForChange s.model)) := by
  induction changes generalizing s with
  | nil => exact ⟨⟨id, id, rfl⟩, rfl, fun _ => (List.append_nil _).symm⟩
  | cons change rest ih =>
      have hnoted : Quiet 0 s (s.noteChange r change) := s.noteChange_quiet r change
      have hbefore : (s.noteChange r change).commands = s.commands := by
        obtain ⟨_, _, _, _, heq, -⟩ := s.noteChange_same r change
        rw [heq]
      obtain ⟨hgoes, hmodel, hcommands⟩ := told_of_change (s.noteChange r change) change
      rw [hbefore] at hcommands
      have hdone : ∀ s₂ : ClientLoop D, Goes (s.noteChange r change) s₂ →
          s₂.model = (s.noteChange r change).model →
          (s₂.exit = none → s₂.commands = s.commands ++
            (displayCommandForChange (s.noteChange r change).model change).toList) →
          let s' := if s₂.exit.isSome then s₂ else s₂.applyChanges r rest
          Goes s s' ∧ s'.model = s.model ∧
            (s'.exit = none → s'.commands =
              s.commands ++ (change :: rest).filterMap (displayCommandForChange s.model)) := by
        intro s₂ hgoes hmodel hcommands
        rw [hnoted.model] at hmodel hcommands
        have hfirst := hnoted.toGoes.trans hgoes
        dsimp only
        split
        next hended =>
          refine ⟨hfirst, hmodel, fun hexit => ?_⟩
          rw [hexit] at hended
          cases hended
        next =>
          obtain ⟨hgoes', hmodel', hcommands'⟩ :=
            ih s₂ fun f h => hno f (List.mem_cons_of_mem _ h)
          rw [hmodel] at hmodel' hcommands'
          refine ⟨hfirst.trans hgoes', hmodel', fun hexit => ?_⟩
          rw [hcommands' hexit, hcommands (hgoes'.exit_of hexit), List.append_assoc]
          congr 1
          cases hc : displayCommandForChange s.model change with
          | none => rw [List.filterMap_cons_none hc]; rfl
          | some c => rw [List.filterMap_cons_some hc]; rfl
      cases change with
      | frame f => exact absurd List.mem_cons_self (hno f)
      | _ => exact hdone _ hgoes hmodel hcommands

/-- The model takes an event, and the display is told what changes. -/
theorem onEvent_told (s : ClientLoop D) (r : Readings) {e : ClientEvent}
    (he : ∀ f, e ≠ .frame f) :
    Goes s (s.onEvent r e) ∧ (s.onEvent r e).model = (s.model.apply e).2 ∧
      ((s.onEvent r e).exit = none →
        (s.onEvent r e).commands = s.commands ++
          (s.model.apply e).1.filterMap (displayCommandForChange (s.model.apply e).2)) := by
  have hno : ∀ f, .frame f ∉ (s.model.apply e).1 := by
    rcases s.model.apply_yields e with ⟨f, hf, -⟩ | ⟨id, hchanges, -⟩ | ⟨hno, -⟩
    · exact absurd hf (he f)
    · rw [hchanges]
      simp
    · exact hno
  obtain ⟨hgoes, hmodel, hcommands⟩ :=
    applyChanges_told { s with model := (s.model.apply e).2 } r _ hno
  rcases s.onEvent_eq r e with h | h
  · rw [h]
    exact ⟨⟨hgoes.exit_of, hgoes.open_of, hgoes.backend⟩, hmodel, hcommands⟩
  · rw [h]
    exact ⟨⟨nofun, hgoes.open_of, hgoes.backend⟩, hmodel, nofun⟩

/-- A report does not close the sink of decoded frames. -/
theorem report_sinkOpen (p : DecodePipeline D) (report : FrameReport) :
    (p.report report).sinkOpen = p.sinkOpen := by
  unfold DecodePipeline.report
  split
  · rfl
  · rfl

/-- Submitting a frame does not close the sink of decoded frames. -/
theorem submit_sinkOpen (p : DecodePipeline D) (f : FrameData) (starts : Bool)
    (nowUs : UInt64) : (p.submit f starts nowUs).2.sinkOpen = p.sinkOpen := by
  unfold DecodePipeline.submit
  dsimp only
  split
  · rfl
  · rfl
  · exact report_sinkOpen _ _

/-- A frame is submitted quietly, or held. -/
theorem submitFrame_quiet (s : ClientLoop D) (r : Readings) (f : FrameData) :
    Quiet features s (s.submitFrame r f) := by
  have hopen := submit_sinkOpen s.decoders f r.starts r.nowUs
  unfold submitFrame
  dsimp only
  split
  next decoders h =>
    rw [h] at hopen
    exact quiet_same rfl rfl rfl hopen rfl rfl rfl
  next held decoders h =>
    rw [h] at hopen
    exact quiet_same rfl rfl rfl hopen rfl rfl rfl

/-- A message that is no event of the windows. -/
theorem onMessage_still_or_event (s : ClientLoop D) (r : Readings) (m : Message) :
    Still s (s.onMessage r m) ∨
      ∃ e, (∀ f, e ≠ .frame f) ∧ s.onMessage r m = s.onEvent r e := by
  have h := s.onMessage_received r m
  generalize s.onMessage r m = s' at h ⊢
  cases h with
  | frame f =>
      have hnoted : Quiet 0 s { s with received := s.received ++ [f] } :=
        quiet_same rfl rfl rfl rfl rfl rfl rfl
      exact .inl (hnoted.trans (submitFrame_quiet _ r f)).toStill
  | ping p => exact .inl (s.send_still r _)
  | event m e he hm => exact .inr ⟨e, he, rfl⟩
  | ignored => exact .inl (Quiet.refl s : Quiet 0 s s).toStill

/-- A message that is read changes the model as the model has it. -/
theorem onMessage_model (s : ClientLoop D) (r : Readings) (m : Message) :
    (s.onMessage r m).model = s.model.receive m := by
  have hevent : ∀ {m : Message} (e : ClientEvent), (∀ f, e ≠ .frame f) →
      s.onMessage r m = s.onEvent r e → s.model.receive m = (s.model.apply e).2 →
      (s.onMessage r m).model = s.model.receive m := by
    intro m e he hm hreceive
    rw [hm, hreceive]
    exact (s.onEvent_told r he).2.1
  cases m with
  | frameData f =>
      change (onEvent _ r (.frame f)).model = _
      rw [onEvent_frame]
      exact (submitFrame_quiet _ r f : Quiet 0 _ _).model
  | ping p => exact (s.send_still r _).model
  | windowOpened m => exact hevent (.windowOpened m) nofun rfl rfl
  | windowGeometry m => exact hevent (.windowGeometry m) nofun rfl rfl
  | windowTitle m => exact hevent (.windowTitle m) nofun rfl rfl
  | windowState m => exact hevent (.windowState m) nofun rfl rfl
  | windowZOrder m => exact hevent (.windowZOrder m) nofun rfl rfl
  | windowIcon m => exact hevent (.windowIcon m) nofun rfl rfl
  | windowClosed m => exact hevent (.windowClosed m) nofun rfl rfl
  | cursorShape m => exact hevent (.cursorShape m) nofun rfl rfl
  | cursorPosition m => exact hevent (.cursorPosition m) nofun rfl rfl
  | cursorVisibility m => exact hevent (.cursorVisibility m) nofun rfl rfl
  | error m => exact hevent (.error m) nofun rfl rfl
  | close m => exact hevent (.closed m) nofun rfl rfl
  | _ => rfl

/-- A message of the agent makes the client write no input. -/
theorem onMessage_mute (s : ClientLoop D) (r : Readings) (m : Message) :
    Mute features s (s.onMessage r m) := by
  have h := s.onMessage_received r m
  generalize s.onMessage r m = s' at h ⊢
  cases h with
  | frame f =>
      have hnoted : Quiet features s { s with received := s.received ++ [f] } :=
        quiet_same rfl rfl rfl rfl rfl rfl rfl
      exact (hnoted.trans (submitFrame_quiet _ r f)).toMute
  | ping p => exact (s.send_quiet r rfl).toMute
  | event m e he hm => exact s.onEvent_mute r he
  | ignored => exact (Quiet.refl s).toMute

/-- Room for a held frame is quiet. -/
theorem onRoom_quiet (s : ClientLoop D) (r : Readings) : Quiet features s (s.onRoom r) := by
  unfold onRoom
  split
  next => exact .refl s
  next held since _ =>
    cases (s.decoders.lanes held.frame.windowId).trySend held.queue held.frame with
    | ok lane => exact quiet_same rfl rfl rfl rfl rfl rfl rfl
    | error e =>
        cases e with
        | full => exact .refl s
        | closed => exact quiet_same rfl rfl rfl rfl rfl rfl rfl

/-- A frame that is reported is acknowledged, which is no input. -/
theorem onReport_quiet (s : ClientLoop D) (r : Readings) :
    Quiet features s (s.onReport features r) := by
  unfold onReport
  split
  next => exact .refl s
  next report _ =>
    cases report with
    | decoded => exact quiet_same rfl rfl rfl rfl rfl rfl rfl
    | dropped id frameId finishedUs =>
        have hnoted : Quiet features s
            { s with
              reportsTaken := s.reportsTaken + 1
              latency := s.latency.onDropped id frameId } :=
          quiet_same rfl rfl rfl rfl rfl rfl rfl
        exact hnoted.trans (sendFrameAck_quiet _ r _)

/-- A worker does not close the sink itself. -/
theorem work_sinkOpen [FrameDecoder X D] (factory : DecoderFactory X D) (p : DecodePipeline D)
    (w : UInt32) (n : Nat) (x : X) (nowUs : UInt64) :
    (p.work factory w n x nowUs).sinkOpen = p.sinkOpen := by
  unfold DecodePipeline.work
  split
  next => rfl
  next =>
    split
    next => rfl
    next =>
      split
      next => rfl
      next =>
        split
        · rfl
        · rfl
    next =>
      split
      next => exact report_sinkOpen _ _
      next => exact report_sinkOpen _ _
    next =>
      split
      · rfl
      · rfl

/-- A worker gives its pictures to the display. -/
theorem onWork_quiet [FrameDecoder X D] (factory : DecoderFactory X D) (s : ClientLoop D)
    (w : UInt32) (n : Nat) (x : X) (nowUs : UInt64) :
    Quiet features s (s.onWork factory w n x nowUs) where
  exit_of := id
  open_of := by
    change (s.decoders.work factory w n x nowUs).sinkOpen = true → _
    rw [work_sinkOpen]
    exact id
  written := rfl
  waiting _ := rfl
  backend := rfl
  model := rfl
  commands _ _ := by
    refine ⟨_, rfl, fun c hc => ?_⟩
    obtain ⟨p, -, rfl⟩ := List.mem_map.mp hc
    rfl

/-- The backend reports no input of its own. -/
theorem backend_input (b : Backend) (a : DisplayAnswers) (c : DisplayCommand) :
    (b.apply a c).1.filterMap (DisplayEvent.input features) = [] := by
  cases c with
  | createWindow spec =>
      dsimp only [Backend.apply]
      split <;> rfl
  | moveWindow spec =>
      dsimp only [Backend.apply]
      split <;> rfl
  | frame m =>
      dsimp only [Backend.apply, Backend.frame]
      split <;> rfl
  | _ => rfl

/-- The display takes a command without input being written. -/
theorem onDisplay_mute (s : ClientLoop D) (a : DisplayAnswers) :
    Mute features s (s.onDisplay a) := by
  unfold onDisplay
  split
  · split
    next => exact (Quiet.refl s).toMute
    next => exact ⟨id, nofun, rfl, fun _ => rfl⟩
    next c rest _ _ =>
      refine ⟨id, id, rfl, fun _ => ?_⟩
      change (s.displayEvents ++ (s.backend.apply a c).1).filterMap _ = _
      rw [List.filterMap_append, backend_input, List.append_nil]
      rfl
  · exact (Quiet.refl s).toMute

/-! ## What the session task takes -/

/-- An event with input is written, or the write ends the loop. -/
theorem handleDisplayEvent_input (s : ClientLoop D) (r : Readings) {e : DisplayEvent}
    {input : Message} (h : e.input features = some input) :
    ∃ m, m.input = some input ∧ s.handleDisplayEvent features r e = s.send r m := by
  cases e with
  | pointer id x y buttons wheelX wheelY =>
      cases h
      exact ⟨_, rfl, rfl⟩
  | key scancode pressed extended =>
      cases h
      exact ⟨_, rfl, rfl⟩
  | modifiers modifiers locks =>
      cases h
      exact ⟨_, rfl, rfl⟩
  | text text =>
      dsimp only [DisplayEvent.input] at h
      dsimp only [handleDisplayEvent]
      split at h
      next hon =>
        cases h
        rw [if_pos hon]
        exact ⟨_, rfl, rfl⟩
      next => cases h
  | _ => cases h

/-- An event of the display without input is quiet. -/
theorem handleDisplayEvent_quiet (s : ClientLoop D) (r : Readings) {e : DisplayEvent}
    (h : e.input features = none) :
    Quiet features s (s.handleDisplayEvent features r e) := by
  have hcontrol : ∀ (s : ClientLoop D) id action x y width height,
      Quiet features s (s.sendWindowControl r id action x y width height) :=
    fun s id action x y width height => s.send_quiet r rfl
  cases e with
  | pointer => cases h
  | key => cases h
  | modifiers => cases h
  | backendError => exact .refl s
  | text text =>
      dsimp only [DisplayEvent.input] at h
      dsimp only [handleDisplayEvent]
      split at h
      next => cases h
      next hoff =>
        rw [if_neg hoff]
        exact .refl s
  | focused =>
      dsimp only [handleDisplayEvent]
      split
      · exact hcontrol ..
      · exact .refl s
  | closeRequested =>
      dsimp only [handleDisplayEvent]
      split
      · exact hcontrol ..
      · exact .refl s
  | minimized =>
      dsimp only [handleDisplayEvent]
      split
      · exact hcontrol ..
      · exact .refl s
  | resizeRequested =>
      dsimp only [handleDisplayEvent]
      split
      · split
        next =>
          refine Quiet.trans ?_ (hcontrol ..)
          exact quiet_same rfl rfl rfl rfl rfl rfl rfl
        next => exact quiet_same rfl rfl rfl rfl rfl rfl rfl
      · exact .refl s
  | moveRequested =>
      dsimp only [handleDisplayEvent]
      split
      · split
        next =>
          refine Quiet.trans ?_ (hcontrol ..)
          exact quiet_same rfl rfl rfl rfl rfl rfl rfl
        next => exact quiet_same rfl rfl rfl rfl rfl rfl rfl
      · exact .refl s
  | presented id frameId decodedUs presentedUs =>
      dsimp only [handleDisplayEvent]
      refine Quiet.trans ?_ (sendFrameAck_quiet _ r _)
      exact quiet_same rfl rfl rfl rfl rfl rfl rfl

/-- Whatever the display reports, the windows stay as they are. -/
theorem handleDisplayEvent_still (s : ClientLoop D) (features : UInt64) (r : Readings)
    (e : DisplayEvent) : Still s (s.handleDisplayEvent features r e) := by
  obtain ⟨s₁, hnotes, hdone⟩ := s.handleDisplayEvent_handles features r e
  have hquiet : Quiet 0 s s₁ := by
    rw [hnotes.same]
    exact quiet_same rfl rfl rfl rfl rfl rfl rfl
  have hnoted := hquiet.toStill
  rcases hdone with ⟨hsame, -⟩ | ⟨m, hsent, -⟩
  · rw [hsame]
    exact hnoted
  · rw [hsent]
    exact hnoted.trans (s₁.send_still r m)

/-- What the user does leaves the model alone. -/
theorem onDisplayEvent_still (s : ClientLoop D) (features : UInt64) (r : Readings) :
    Still s (s.onDisplayEvent features r) := by
  unfold onDisplayEvent
  split
  next e rest hevents =>
    have htaken : Still s { s with displayEvents := rest } :=
      ⟨⟨id, id, rfl⟩, rfl, fun _ _ => ⟨[], (List.append_nil _).symm, nofun⟩⟩
    exact htaken.trans (handleDisplayEvent_still _ features r e)
  next =>
    split
    · exact (Quiet.refl s : Quiet 0 s s).toStill
    · exact (stop_quiet s _ : Quiet 0 s _).toStill

/-- What a turn of the session task or of a worker does to the windows. -/
theorem step_still_or_event [FrameDecoder X D] (factory : DecoderFactory X D)
    (features : UInt64) (s : ClientLoop D) {a : LoopStep X}
    (ha : (∀ answers, a ≠ .display answers) ∧ ∀ e h, a ≠ .native e h) :
    Still s (s.step factory features a) ∨
      ∃ m r e, a = .message m r ∧ (∀ f, e ≠ .frame f) ∧
        s.step factory features a = s.onEvent r e := by
  have hgated : ∀ {b : Bool} {s' : ClientLoop D}, Still s s' → Still s (if b then s else s') := by
    intro b s' h
    cases b with
    | true => exact (Quiet.refl s : Quiet 0 s s).toStill
    | false => exact h
  cases a with
  | message m r =>
      dsimp only [step]
      split
      · exact .inl (Quiet.refl s : Quiet 0 s s).toStill
      · rcases s.onMessage_still_or_event r m with hstill | ⟨e, he, heq⟩
        · exact .inl hstill
        · exact .inr ⟨m, r, e, rfl, he, heq⟩
  | streamEnds e => exact .inl (hgated (s.shutdown_quiet e : Quiet 0 s _).toStill)
  | room r => exact .inl (hgated (s.onRoom_quiet r : Quiet 0 s _).toStill)
  | report r => exact .inl (hgated (s.onReport_quiet r).toStill)
  | ping p r => exact .inl (hgated (s.send_still r _))
  | displayEvent r => exact .inl (hgated (s.onDisplayEvent_still features r))
  | work w n x nowUs => exact .inl (s.onWork_quiet factory w n x nowUs : Quiet 0 s _).toStill
  | display answers => exact absurd rfl (ha.1 answers)
  | native e h => exact absurd rfl (ha.2 e h)
  | displayExits => exact .inl ⟨⟨id, nofun, rfl⟩, rfl, nofun⟩

end ClientLoop

end Oxrdp
