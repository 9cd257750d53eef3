import Oxrdp.Client.Loop
import Oxrdp.Client.Pipeline

/-!
# What the client keeps for a window

A decode worker and the accounting of its latency are made when a frame needs them, and
dropped when the model closes the window.  Everything else that the loop does can only drop
them (`Shrinks`).  A frame of a window that the model does not know makes both, and nothing
drops them again: `confined_iff` says that this is the only way for the client to keep
something for a window that is not open.
-/

namespace Oxrdp

/-! ## Senders of the pipeline -/

namespace DecodePipeline

variable {X D : Type} {s : DecodePipeline D} {v : UInt32}

/-- There is a worker for the window in `workers`. -/
def Serves (s : DecodePipeline D) (v : UInt32) : Prop := (s.lanes v).sender.isSome = true

/-- A lane serves its window as long as its sender stays. -/
theorem serves_setLane {w : UInt32} {lane : Lane D}
    (h : lane.sender = (s.lanes w).sender) : (s.setLane w lane).Serves v ↔ s.Serves v := by
  by_cases hv : v = w
  · subst hv
    simp [Serves, setLane, h]
  · simp [Serves, setLane, Function.update_of_ne hv]

/-- A report changes no sender. -/
theorem serves_report (r : FrameReport) : (s.report r).Serves v ↔ s.Serves v := by
  unfold report
  split
  · rfl
  · rfl

/-- A window that is forgotten is not served any more. -/
theorem serves_forget (w : UInt32) : (s.forget w).Serves v ↔ v ≠ w ∧ s.Serves v := by
  by_cases hv : v = w
  · subst hv
    simp [Serves, forget, setLane]
  · simp [Serves, forget, setLane, hv]

/-- Sending keeps the sender. -/
theorem trySend_sender {lane lane' : Lane D} {queue : Nat} {frame : FrameData}
    (h : lane.trySend queue frame = .ok lane') : lane'.sender = lane.sender := by
  unfold Lane.trySend at h
  split at h
  · cases h
  · split at h
    · cases h
    · cases h
      rfl

/-- A step of a worker leaves `workers` alone. -/
theorem serves_work [FrameDecoder X D] (factory : DecoderFactory X D) (w : UInt32) (n : Nat)
    (x : X) (nowUs : UInt64) : (s.work factory w n x nowUs).Serves v ↔ s.Serves v := by
  have hset : ∀ (s : DecodePipeline D) worker, (s.setWorker w n worker).Serves v ↔ s.Serves v :=
    fun s worker => serves_setLane rfl
  unfold work
  split
  next => rfl
  next worker _ =>
    split
    next => rfl
    next =>
      split
      next => exact hset s _
      next =>
        split
        · rfl
        · exact hset s _
    next frame _ =>
      split
      next => exact (serves_report _).trans (hset s _)
      next => exact (serves_report _).trans (hset s _)
    next picture _ =>
      split
      · exact hset _ _
      · exact hset s _

/-- Submitting makes a worker for no window but that of the frame. -/
theorem serves_submit {frame : FrameData} {starts : Bool} {nowUs : UInt64}
    (h : (s.submit frame starts nowUs).2.Serves v) : s.Serves v ∨ v = frame.windowId := by
  by_cases hv : v = frame.windowId
  · exact .inr hv
  · left
    have hlane : ∀ lane, (s.setLane frame.windowId lane).Serves v ↔ s.Serves v := by
      intro lane
      simp [Serves, setLane, Function.update_of_ne hv]
    unfold submit at h
    simp only at h
    split at h
    · exact (hlane _).mp h
    · exact (hlane _).mp h
    · exact (hlane _).mp ((serves_report _).mp h)

/-- The first frame of a window makes a worker exactly if its thread starts. -/
theorem serves_submit_first {frame : FrameData} (hnone : ¬ s.Serves frame.windowId) (starts : Bool)
    (nowUs : UInt64) : (s.submit frame starts nowUs).2.Serves frame.windowId ↔ starts = true := by
  have hsender : (s.lanes frame.windowId).sender = none := by
    simpa [Serves] using hnone
  cases starts with
  | true =>
      simp [submit, Lane.entry_of_none hsender, Lane.trySend, Worker.trySend, spawnWorker,
        queueDepth, Serves, setLane]
  | false =>
      simp only [submit, Lane.entry_of_none hsender, Lane.trySend, Worker.trySend, spawnWorker]
      simp [Serves, setLane, report]
      split <;> simp

end DecodePipeline

namespace ClientLoop

variable {X D : Type} {s s' s'' : ClientLoop D}

/-- The client keeps a decode worker or latency state for the window. -/
def Keeps (s : ClientLoop D) (v : UInt32) : Prop := s.decoders.Serves v ∨ s.latency.Tracks v

/-- The client keeps something only for windows that are open. -/
def Confined (s : ClientLoop D) : Prop := ∀ v, s.Keeps v → v ∈ s.model.windows

/-! ## What can only drop things -/

/-- The windows are the same, and nothing was made. -/
structure Shrinks (s s' : ClientLoop D) : Prop where
  model : s'.model = s.model
  keeps : ∀ v, s'.Keeps v → s.Keeps v

/-- A loop that stays as it is has nothing new. -/
theorem Shrinks.refl (s : ClientLoop D) : Shrinks s s := ⟨rfl, fun _ h => h⟩

/-- What shrinks twice shrinks. -/
theorem Shrinks.trans (h : Shrinks s s') (h' : Shrinks s' s'') : Shrinks s s'' :=
  ⟨h'.model.trans h.model, fun v hv => h.keeps v (h'.keeps v hv)⟩

/-- What shrinks stays confined. -/
theorem Shrinks.confined (h : Shrinks s s') (hs : s.Confined) : s'.Confined := by
  intro v hv
  rw [h.model]
  exact hs v (h.keeps v hv)

/-- Stopping makes no state for a window. -/
theorem stop_shrinks (s : ClientLoop D) (e : LoopExit) : Shrinks s (s.stop e) where
  model := rfl
  keeps := by
    rintro v (hserves | htracks)
    · cases hserves
    · exact .inr htracks

/-- A command creates nothing. -/
theorem command_shrinks (s : ClientLoop D) (c : DisplayCommand) : Shrinks s (s.command c) := by
  unfold command
  split
  · exact ⟨rfl, fun _ h => h⟩
  · exact .refl s

/-- A command that may end the loop creates nothing either. -/
theorem commandOrStop_shrinks (s : ClientLoop D) (c : DisplayCommand) :
    Shrinks s (s.commandOrStop c) := by
  unfold commandOrStop
  split
  · exact s.command_shrinks c
  · exact s.stop_shrinks _

/-- Sending a message creates nothing. -/
theorem send_shrinks (s : ClientLoop D) (r : Readings) (m : Message) : Shrinks s (s.send r m) := by
  unfold send
  split
  · exact ⟨rfl, fun _ h => h⟩
  · exact (s.command_shrinks _).trans (stop_shrinks _ _)

/-- Acknowledging a frame creates nothing. -/
theorem sendFrameAck_shrinks (s : ClientLoop D) (features : UInt64) (r : Readings)
    (ack : FrameAck) : Shrinks s (s.sendFrameAck features r ack) := by
  unfold sendFrameAck
  split
  · exact s.send_shrinks r _
  · exact .refl s

/-- Notes are made only where there is a window. -/
theorem Notes.shrinks (h : Notes s s') : Shrinks s s' := by
  rw [h.same]
  exact ⟨rfl, fun v hv => hv.imp id (h.tracks v).mp⟩

/-- What the user does makes no state for a window. -/
theorem handleDisplayEvent_shrinks (s : ClientLoop D) (features : UInt64) (r : Readings)
    (e : DisplayEvent) : Shrinks s (s.handleDisplayEvent features r e) := by
  obtain ⟨s₁, hnotes, ⟨hs, -⟩ | ⟨m, hs, -⟩⟩ := s.handleDisplayEvent_handles features r e
  · rw [hs]
    exact hnotes.shrinks
  · rw [hs]
    exact hnotes.shrinks.trans (s₁.send_shrinks r m)

/-- A held frame goes to a worker that there is. -/
theorem onRoom_shrinks (s : ClientLoop D) (r : Readings) : Shrinks s (s.onRoom r) := by
  unfold onRoom
  split
  next => exact .refl s
  next held since _ =>
    cases hsent : (s.decoders.lanes held.frame.windowId).trySend held.queue held.frame with
    | ok lane =>
        refine ⟨rfl, fun v h => h.imp ?_ (LatencyMonitor.tracks_onReadStall _).mp⟩
        exact (DecodePipeline.serves_setLane (DecodePipeline.trySend_sender hsent)).mp
    | error e =>
        cases e with
        | full => exact .refl s
        | closed => exact ⟨rfl, fun v h => h.imp id (LatencyMonitor.tracks_onReadStall _).mp⟩

/-- A report settles frames that there are. -/
theorem onReport_shrinks (s : ClientLoop D) (features : UInt64) (r : Readings) :
    Shrinks s (s.onReport features r) := by
  unfold onReport
  split
  next => exact .refl s
  next report _ =>
    cases report with
    | decoded => exact ⟨rfl, fun v h => h.imp id (LatencyMonitor.tracks_onDecoded _ _ _).mp⟩
    | dropped v frameId finishedUs =>
        have hnoted : Shrinks s
            { s with
              reportsTaken := s.reportsTaken + 1
              latency := s.latency.onDropped v frameId } :=
          ⟨rfl, fun v h => h.imp id (LatencyMonitor.tracks_onDropped _ _).mp⟩
        exact hnoted.trans (sendFrameAck_shrinks _ _ _ _)

/-- An event of the display makes none either. -/
theorem onDisplayEvent_shrinks (s : ClientLoop D) (features : UInt64) (r : Readings) :
    Shrinks s (s.onDisplayEvent features r) := by
  unfold onDisplayEvent
  split
  next e rest _ =>
    have htaken : Shrinks s { s with displayEvents := rest } := ⟨rfl, fun _ h => h⟩
    exact htaken.trans (handleDisplayEvent_shrinks _ features r e)
  next =>
    split
    · exact .refl s
    · exact s.stop_shrinks _

/-- A worker that works is one that there is. -/
theorem onWork_shrinks [FrameDecoder X D] (factory : DecoderFactory X D) (s : ClientLoop D)
    (w : UInt32) (n : Nat) (x : X) (nowUs : UInt64) :
    Shrinks s (s.onWork factory w n x nowUs) :=
  ⟨rfl, fun _ h => h.imp (DecodePipeline.serves_work factory w n x nowUs).mp id⟩

/-- A command that the display takes makes none. -/
theorem onDisplay_shrinks (s : ClientLoop D) (a : DisplayAnswers) : Shrinks s (s.onDisplay a) := by
  unfold onDisplay
  split
  · split
    next => exact .refl s
    next => exact ⟨rfl, fun _ h => h⟩
    next => exact ⟨rfl, fun _ h => h⟩
  · exact .refl s

/-- A change is noted of a window of the model. -/
theorem noteChange_shrinks (s : ClientLoop D) (r : Readings) (change : ModelChange) :
    Shrinks s (s.noteChange r change) := by
  unfold noteChange
  split
  next =>
    split
    · exact ⟨rfl, fun _ h => h⟩
    · exact .refl s
  next =>
    split
    · exact ⟨rfl, fun _ h => h⟩
    · exact .refl s
  next id =>
    refine ⟨rfl, fun v h => h.imp ?_ ?_⟩
    · exact fun hserves => ((DecodePipeline.serves_forget id).mp hserves).2
    · exact fun htracks => ((LatencyMonitor.tracks_forget id).mp htracks).2
  next => exact .refl s

/-- Changes without a frame make nothing. -/
theorem applyChanges_shrinks (s : ClientLoop D) (r : Readings) {changes : List ModelChange}
    (hno : ∀ f, .frame f ∉ changes) : Shrinks s (s.applyChanges r changes) := by
  apply applyChanges_respects Shrinks.refl _ _ _ changes hno
  · exact fun _ _ _ h h' => h.trans h'
  · exact fun s change => s.noteChange_shrinks r change
  · exact fun s _ c _ => s.commandOrStop_shrinks c

/-- Nothing is kept for a window that was just destroyed. -/
theorem applyChanges_destroyed (s : ClientLoop D) (r : Readings) (v : UInt32) :
    ¬ (s.applyChanges r [.destroyed v]).Keeps v := by
  have hforgot : ¬ (s.noteChange r (.destroyed v)).Keeps v := by
    rintro (hserves | htracks)
    · exact ((DecodePipeline.serves_forget v).mp hserves).1 rfl
    · exact ((LatencyMonitor.tracks_forget v).mp htracks).1 rfl
  intro hkeeps
  apply hforgot
  apply (commandOrStop_shrinks _ (.destroyWindow v)).keeps
  unfold applyChanges at hkeeps
  dsimp only [displayCommandForChange] at hkeeps
  split at hkeeps
  · exact hkeeps
  · exact hkeeps

/-- An event that is no frame. -/
theorem onEvent_confined (hs : s.Confined) (r : Readings) {e : ClientEvent}
    (he : ∀ f, e ≠ .frame f) : (s.onEvent r e).Confined := by
  have hchanged : (s.changed r e).Confined := by
    intro v hv
    unfold changed at hv ⊢
    rcases s.model.apply_yields e with ⟨f, hf, -⟩ | ⟨id, hchanges, hwindows⟩ | ⟨hno, hwindows⟩
    · exact absurd hf (he f)
    · rw [hchanges] at hv ⊢
      have hne : v ≠ id := by
        rintro rfl
        exact applyChanges_destroyed _ r v hv
      have hshrinks := applyChanges_shrinks { s with model := (s.model.apply e).2 } r
        (by simp : ∀ f, .frame f ∉ [ModelChange.destroyed id])
      rw [hshrinks.model, hwindows, AList.mem_erase]
      exact ⟨hne, hs v (hshrinks.keeps v hv)⟩
    · have hshrinks := applyChanges_shrinks { s with model := (s.model.apply e).2 } r hno
      rw [hshrinks.model]
      exact hwindows v (hs v (hshrinks.keeps v hv))
  rcases s.onEvent_eq r e with h | h
  · rw [h]
    exact hchanged
  · rw [h]
    exact (stop_shrinks _ _).confined hchanged

/-! ## Frames -/

/-- A frame changes nothing in the model. -/
theorem submitFrame_model (s : ClientLoop D) (r : Readings) (f : FrameData) :
    (s.submitFrame r f).model = s.model := by
  unfold submitFrame
  dsimp only
  split
  · rfl
  · rfl

/-- After a frame there is the worker that submitting it left, and its arrival. -/
theorem keeps_submitFrame (s : ClientLoop D) (r : Readings) (f : FrameData) (v : UInt32) :
    (s.submitFrame r f).Keeps v ↔
      (s.decoders.submit f r.starts r.nowUs).2.Serves v ∨
        s.latency.Tracks v ∨ s.latency.enabled = true ∧ v = f.windowId := by
  unfold submitFrame
  dsimp only
  split
  next decoders h =>
    rw [h]
    exact or_congr Iff.rfl (LatencyMonitor.tracks_onArrival _)
  next held decoders h =>
    rw [h]
    exact or_congr Iff.rfl (LatencyMonitor.tracks_onArrival _)

/-- The first frame of a window makes a worker or an entry of the monitor, unless no thread
starts and nothing is recorded. -/
theorem keeps_submitFrame_first (r : Readings) {f : FrameData} (hnone : ¬ s.Keeps f.windowId) :
    (s.submitFrame r f).Keeps f.windowId ↔ s.latency.enabled = true ∨ r.starts = true := by
  obtain ⟨hserves, htracks⟩ := not_or.mp hnone
  rw [keeps_submitFrame, DecodePipeline.serves_submit_first hserves]
  tauto

/-- A frame of an open window keeps things confined. -/
theorem submitFrame_confined (hs : s.Confined) (r : Readings) {f : FrameData}
    (hopen : f.windowId ∈ s.model.windows) : (s.submitFrame r f).Confined := by
  intro v hv
  rw [submitFrame_model]
  rcases (s.keeps_submitFrame r f v).mp hv with hserves | htracks | ⟨-, rfl⟩
  · rcases DecodePipeline.serves_submit hserves with hserves | rfl
    · exact hs v (.inl hserves)
    · exact hopen
  · exact hs v (.inr htracks)
  · exact hopen

/-- A frame of a window that is not open keeps things confined exactly if it makes nothing. -/
theorem submitFrame_confined_iff (hs : s.Confined) (r : Readings) {f : FrameData}
    (hclosed : f.windowId ∉ s.model.windows) :
    (s.submitFrame r f).Confined ↔ ¬ (s.latency.enabled = true ∨ r.starts = true) := by
  have hnone : ¬ s.Keeps f.windowId := fun h => hclosed (hs _ h)
  rw [← keeps_submitFrame_first r hnone]
  constructor
  · intro h hkeeps
    apply hclosed
    rw [← s.submitFrame_model r f]
    exact h _ hkeeps
  · intro hno v hv
    rw [submitFrame_model]
    rcases (s.keeps_submitFrame r f v).mp hv with hserves | htracks | ⟨-, rfl⟩
    · rcases DecodePipeline.serves_submit hserves with hserves | rfl
      · exact hs v (.inl hserves)
      · exact absurd hv hno
    · exact hs v (.inr htracks)
    · exact absurd hv hno

/-! ## Runs -/

/-- A frame of a window that is not open, where it makes a worker or is recorded. -/
def Stray (s : ClientLoop D) : LoopStep X → Prop
  | .message (.frameData f) r =>
      s.exit = none ∧ s.stalled = none ∧ f.windowId ∉ s.model.windows ∧
        (s.latency.enabled = true ∨ r.starts = true)
  | _ => False

/-- What a step is other than a message makes nothing. -/
theorem step_shrinks [FrameDecoder X D] (factory : DecoderFactory X D) (features : UInt64)
    (s : ClientLoop D) {a : LoopStep X} (hmessage : ∀ m r, a ≠ .message m r) :
    Shrinks s (s.step factory features a) := by
  have hrunning : ∀ s', Shrinks s s' → Shrinks s (if s.exit.isSome then s else s') := by
    intro s' h
    split
    · exact .refl s
    · exact h
  cases a with
  | message m r => exact absurd rfl (hmessage m r)
  | streamEnds e =>
      dsimp only [step]
      split
      · exact .refl s
      · exact (s.command_shrinks _).trans (stop_shrinks _ _)
  | room r => exact hrunning _ (s.onRoom_shrinks r)
  | report r => exact hrunning _ (s.onReport_shrinks features r)
  | ping p r => exact hrunning _ (s.send_shrinks r _)
  | displayEvent r => exact hrunning _ (s.onDisplayEvent_shrinks features r)
  | work w n x nowUs => exact s.onWork_shrinks factory w n x nowUs
  | display a => exact s.onDisplay_shrinks a
  | native e h =>
      dsimp only [step]
      split
      · exact ⟨rfl, fun _ h => h⟩
      · exact .refl s
  | displayExits => exact ⟨rfl, fun _ h => h⟩

/-- **A message** makes state for a window that is not in the model exactly if it is a stray frame.
-/
theorem onMessage_confined_iff (hs : s.Confined) (hexit : s.exit = none) (hroom : s.stalled = none)
    (m : Message) (r : Readings) :
    (s.onMessage r m).Confined ↔ ¬ s.Stray (.message m r : LoopStep X) := by
  have hother : ∀ s' : ClientLoop D, s'.Confined → (∀ f, m ≠ .frameData f) →
      (s'.Confined ↔ ¬ s.Stray (.message m r : LoopStep X)) := by
    intro s' hs' hm
    refine iff_of_true hs' fun hstray => ?_
    cases m with
    | frameData f => exact hm f rfl
    | _ => exact hstray
  have hreceived := s.onMessage_received r m
  generalize s.onMessage r m = s' at hreceived
  cases hreceived with
  | frame f =>
      have hread : Confined { s with received := s.received ++ [f] } := hs
      by_cases hopen : f.windowId ∈ s.model.windows
      · exact iff_of_true (submitFrame_confined hread r hopen) fun h => h.2.2.1 hopen
      · rw [submitFrame_confined_iff hread r hopen]
        simp [Stray, hexit, hroom, hopen]
  | ping p => exact hother _ ((s.send_shrinks r _).confined hs) nofun
  | event _ e he hm => exact hother _ (onEvent_confined hs r he) hm
  | ignored _ hm => exact hother _ hs hm

/-- A step keeps things confined exactly if it is not a stray frame. -/
theorem step_confined_iff [FrameDecoder X D] (factory : DecoderFactory X D) (features : UInt64)
    (hs : s.Confined) (a : LoopStep X) :
    (s.step factory features a).Confined ↔ ¬ s.Stray a := by
  cases a with
  | message m r =>
      by_cases hreads : s.exit = none ∧ s.stalled = none
      · rw [← onMessage_confined_iff hs hreads.1 hreads.2 m r]
        simp [step, hreads]
      · have hstep : s.step factory features (.message m r : LoopStep X) = s := by
          unfold step
          cases hexit : s.exit <;> cases hroom : s.stalled <;> simp_all
        rw [hstep]
        refine iff_of_true hs fun hstray => ?_
        cases m with
        | frameData f => exact hreads ⟨hstray.1, hstray.2.1⟩
        | _ => exact hstray
  | _ =>
      refine iff_of_true ((step_shrinks factory features s ?_).confined hs) fun h => h
      intro m r h
      cases h

variable [FrameDecoder X D]

/-- At the start there is no state at all. -/
theorem start_confined (measuring : Bool) : (start measuring : ClientLoop D).Confined := by
  rintro v (hserves | htracks)
  · cases hserves
  · exact absurd htracks (LatencyMonitor.not_tracks_withRecording measuring)

/-- **Resources follow the windows**: what the client keeps is for windows that are open, after
every step of a run, exactly if no frame is read for a window that is not open while a worker
starts or arrivals are recorded. -/
theorem confined_iff (factory : DecoderFactory X D) (features : UInt64) (measuring : Bool)
    (steps : List (LoopStep X)) :
    (∀ before, before <+: steps → (run factory features measuring before).Confined) ↔
      Log.Lawful (fun before a => ¬ (run factory features measuring before).Stray a) steps := by
  constructor
  · intro hconfined before a after heq
    have hbefore := hconfined before ⟨a :: after, heq.symm⟩
    rw [← step_confined_iff factory features hbefore, ← run_snoc]
    exact hconfined _ ⟨after, by rw [heq, List.append_assoc, List.singleton_append]⟩
  · intro hlawful before hbefore
    apply (hlawful.of_start hbefore).rec_snoc
    · exact start_confined measuring
    · intro before a _ hstray hconfined
      rw [run_snoc, step_confined_iff factory features hconfined]
      exact hstray

/-- A frame of a window that was never opened, where a thread starts. -/
def strayFrame : LoopStep ScriptedOutcome :=
  .message
    (.frameData
      { windowId := 7, frameId := 1, codec := 2, flags := 0, width := 2, height := 2
        capturedUs := 0, encodedUs := 0, data := [] })
    { now := 0, nowUs := 0, offsetUs := none, sends := true, starts := true }

/-- It gets a worker, although nothing is measured. -/
theorem stray_frame_served :
    ¬ ∀ before, before <+: [strayFrame] →
      (run scriptedFactory 0 false before : ClientLoop ScriptedDecoder).Confined := by
  intro h
  have hserved := h [strayFrame] List.prefix_rfl
  apply (step_confined_iff scriptedFactory 0 (start_confined false) strayFrame).mp hserved
  exact ⟨rfl, rfl, List.not_mem_nil, .inr rfl⟩

end ClientLoop

end Oxrdp
