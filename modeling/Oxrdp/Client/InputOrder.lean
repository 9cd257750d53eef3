import Mathlib.Data.List.Induction
import Oxrdp.Client.Quiet

/-!
# Input in order

Input reaches the session task as events of the display, through one channel, and leaves it as
messages on one stream.  Whatever else the loop is busy with meanwhile (frames that wait for a
worker, acknowledgements, pings, changes of the windows), it writes no input of its own and
drops none: what was written, and then what waits in the channel, is what the window system
reported (`InOrder`).
-/

namespace Oxrdp

/-- The input that the window system reports in a step. -/
def LoopStep.input {X : Type} (features : UInt64) : LoopStep X → Option Message
  | .native e _ => e.input features
  | _ => none

namespace ClientLoop

variable {X D : Type} {s s' s'' : ClientLoop D} {features : UInt64}

/-- What was written, and then what waits, is what was reported. -/
structure InOrder (features : UInt64) (reported : List Message) (s : ClientLoop D) : Prop where
  written_first : s.written <+: reported
  running : s.exit = none → s.decoders.sinkOpen = true →
    s.written ++ s.waiting features = reported
  /-- Once the display is gone, what it still has to say is not taken into account. -/
  waiting_next : s.exit = none → s.written ++ s.waiting features <+: reported

theorem Mute.inOrder (h : Mute features s s') {reported : List Message}
    (hs : s.InOrder features reported) : s'.InOrder features reported where
  written_first := by
    rw [h.written]
    exact hs.written_first
  running := by
    intro hexit hopen
    rw [h.written, h.waiting hexit]
    exact hs.running (h.exit_of hexit) (h.open_of hopen)
  waiting_next := by
    intro hexit
    rw [h.written, h.waiting hexit]
    exact hs.waiting_next (h.exit_of hexit)

/-- The session task takes the first event. -/
theorem onDisplayEvent_inOrder (r : Readings) {reported : List Message}
    (hexit : s.exit = none) (hs : s.InOrder features reported) :
    (s.onDisplayEvent features r).InOrder features reported := by
  unfold onDisplayEvent
  cases hevents : s.displayEvents with
  | nil =>
      dsimp only
      split
      · exact hs
      · exact (s.stop_quiet _).toMute.inOrder hs
  | cons e rest =>
      dsimp only
      cases hinput : e.input features with
      | none =>
          have htaken : Mute features s { s with displayEvents := rest } := by
            refine ⟨id, id, rfl, fun _ => ?_⟩
            rw [waiting, waiting, hevents, List.filterMap_cons_none hinput]
          exact (htaken.trans (handleDisplayEvent_quiet _ r hinput).toMute).inOrder hs
      | some input =>
          obtain ⟨m, hm, hsend⟩ :=
            handleDisplayEvent_input { s with displayEvents := rest } r hinput
          rw [hsend]
          have hwaiting : s.waiting features =
              input :: rest.filterMap (DisplayEvent.input features) := by
            rw [waiting, hevents, List.filterMap_cons_some hinput]
          have hnext := hs.waiting_next hexit
          rw [hwaiting] at hnext
          unfold send
          split
          · have hwritten : ∀ s' : ClientLoop D, s'.sent = s.sent ++ [m] →
                s'.written = s.written ++ [input] := by
              intro s' h
              rw [written, h, List.filterMap_append, List.filterMap_cons_some hm]
              rfl
            have htaken : (s.written ++ [input]) ++
                rest.filterMap (DisplayEvent.input features) = s.written ++ s.waiting features := by
              rw [hwaiting, List.append_assoc]
              rfl
            refine ⟨?_, ?_, ?_⟩
            · rw [hwritten _ rfl]
              exact (List.prefix_append _ _).trans (htaken ▸ hs.waiting_next hexit)
            · intro _ hopen
              rw [hwritten _ rfl]
              exact htaken.trans (hs.running hexit hopen)
            · intro _
              rw [hwritten _ rfl]
              exact htaken ▸ hs.waiting_next hexit
          · -- the write failed, and the event with it
            have hfailed : Quiet features { s with displayEvents := rest } _ :=
              shutdown_quiet _ .failed
            refine ⟨?_, fun hopen => ?_, fun hopen => ?_⟩
            · rw [hfailed.written]
              exact hs.written_first
            · cases hopen
            · cases hopen

/-- The window system reports something. -/
theorem native_inOrder {reported : List Message} (e : DisplayEvent)
    (hs : s.InOrder features reported) :
    (if s.decoders.sinkOpen then { s with displayEvents := s.displayEvents ++ [e] }
      else s).InOrder features (reported ++ (e.input features).toList) := by
  have hlonger : reported <+: reported ++ (e.input features).toList := List.prefix_append _ _
  split
  next hopen =>
    have hwaiting : ∀ s' : ClientLoop D, s'.displayEvents = s.displayEvents ++ [e] →
        s'.waiting features = s.waiting features ++ (e.input features).toList := by
      intro s' h
      rw [waiting, h, List.filterMap_append]
      cases hinput : e.input features with
      | none => rw [List.filterMap_cons_none hinput]; rfl
      | some input => rw [List.filterMap_cons_some hinput]; rfl
    have hall : s.exit = none →
        s.written ++ (s.waiting features ++ (e.input features).toList) =
          reported ++ (e.input features).toList := by
      intro hexit
      rw [← List.append_assoc, hs.running hexit hopen]
    refine ⟨hs.written_first.trans hlonger, ?_, ?_⟩
    · intro hexit _
      rw [hwaiting _ rfl]
      exact hall hexit
    · intro hexit
      rw [hwaiting _ rfl]
      exact (hall hexit) ▸ List.prefix_rfl
  next hclosed =>
    exact ⟨hs.written_first.trans hlonger, fun _ hopen => absurd hopen hclosed,
      fun hexit => (hs.waiting_next hexit).trans hlonger⟩

theorem step_inOrder [FrameDecoder X D] (factory : DecoderFactory X D) {reported : List Message}
    (hs : s.InOrder features reported) (a : LoopStep X) :
    (s.step factory features a).InOrder features (reported ++ (a.input features).toList) := by
  have hgated : ∀ {b : Bool} {s' : ClientLoop D}, Mute features s s' →
      (if b then s else s').InOrder features (reported ++ []) := by
    intro b s' h
    rw [List.append_nil]
    cases b with
    | true => exact hs
    | false => exact h.inOrder hs
  cases a with
  | message m r => exact hgated (s.onMessage_mute r m)
  | streamEnds e => exact hgated (s.shutdown_quiet e).toMute
  | room r => exact hgated (s.onRoom_quiet r).toMute
  | report r => exact hgated (s.onReport_quiet r).toMute
  | ping p r => exact hgated (s.send_quiet r rfl).toMute
  | displayEvent r =>
      change (if s.exit.isSome then s else _).InOrder features (reported ++ [])
      rw [List.append_nil]
      cases hexit : s.exit with
      | some e => exact hs
      | none => exact onDisplayEvent_inOrder r hexit hs
  | work w n x nowUs =>
      change (s.onWork factory w n x nowUs).InOrder features (reported ++ [])
      rw [List.append_nil]
      exact (s.onWork_quiet factory w n x nowUs).toMute.inOrder hs
  | display a =>
      change (s.onDisplay a).InOrder features (reported ++ [])
      rw [List.append_nil]
      exact (s.onDisplay_mute a).inOrder hs
  | native e h => exact native_inOrder e hs
  | displayExits =>
      change ClientLoop.InOrder features (reported ++ []) _
      rw [List.append_nil]
      exact ⟨hs.written_first, fun _ h => absurd h nofun, hs.waiting_next⟩

/-- In every run of the session loop, whatever it is busy with, the input that was written is a
beginning of the input that the window system reported: in its order, none lost and none twice.
While the loop runs and the display is there, the rest is still to be taken. -/
theorem run_inOrder [FrameDecoder X D] (factory : DecoderFactory X D) (features : UInt64)
    (measuring : Bool) (steps : List (LoopStep X)) :
    (run factory features measuring steps : ClientLoop D).InOrder features
      (steps.filterMap (LoopStep.input features)) := by
  induction steps using List.reverseRecOn with
  | nil => exact ⟨List.prefix_rfl, fun _ _ => rfl, fun _ => List.prefix_rfl⟩
  | append_singleton rest a ih =>
      rw [run_snoc, List.filterMap_append]
      have hstep := step_inOrder factory ih a
      cases hinput : a.input features with
      | none =>
          rw [hinput] at hstep
          rw [List.filterMap_cons_none hinput]
          exact hstep
      | some input =>
          rw [hinput] at hstep
          rw [List.filterMap_cons_some hinput]
          exact hstep

end ClientLoop

end Oxrdp
