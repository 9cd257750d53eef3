import Oxrdp.Client.Conservation
import Oxrdp.Client.Loop
import Oxrdp.Client.Pipeline

/-!
# Every frame that is received is acknowledged

While the loop runs and the display is there, every frame that was read off the wire is in the
pipeline, on its way to the display or back, given up by the display, or acknowledged: `Books`
counts them for every key, and every step keeps the books (`step_books`).  A frame that the
display takes without presenting it is never heard of again, so that once everything has
drained the frames of the open windows have been acknowledged exactly if the display took none
of them so (`acknowledged_iff`).
-/

namespace Oxrdp

open Tally

/-- The frame that a command shows. -/
def DisplayCommand.shows : DisplayCommand → Option (UInt32 × UInt64)
  | .frame f => f.key
  | _ => none

/-- No change but a frame shows one. -/
theorem displayCommandForChange_shows {model : WindowModel} {change : ModelChange}
    {c : DisplayCommand} (h : displayCommandForChange model change = some c) : c.shows = none := by
  cases change with
  | frame f => cases h
  | restacked => cases h; rfl
  | cursorShape shape => cases h; rfl
  | cursorMoved id x y => cases h; rfl
  | cursorVisibility visible => cases h; rfl
  | agentError code message => cases h; rfl
  | destroyed id => cases h; rfl
  | closed => cases h; rfl
  | _ =>
      obtain ⟨w, -, rfl⟩ := Option.map_eq_some_iff.mp h
      rfl

namespace ClientLoop

variable {X D : Type} {s s' s'' : ClientLoop D} {k : UInt32 × UInt64}

/-- The loop has not returned, and the display is there. -/
def Running (s : ClientLoop D) : Prop := s.exit = none ∧ s.decoders.sinkOpen = true

/-- Where a frame can be that left the pipeline as a picture or in a report. -/
def passedOn (s : ClientLoop D) (k : UInt32 × UInt64) : Nat :=
  tally DisplayCommand.shows k s.commands + tally DisplayEvent.presents k s.displayEvents +
    tally FrameData.key k s.backend.discarded + tally Message.acks k s.sent

/-- What was received is in the pipeline or left it, and what left it is on its way to an
acknowledgement. -/
structure Books (s : ClientLoop D) : Prop where
  sound : s.decoders.Sound
  reporting : s.decoders.reportsOpen = true
  held : s.decoders.held = s.stalled.toList.map Prod.fst
  taken : s.reportsTaken ≤ s.decoders.reports.length
  received : ∀ k, tally FrameData.key k s.received = s.decoders.tallied k
  passed : ∀ k, tally FrameReport.drops k (s.decoders.reports.take s.reportsTaken) +
    tally (fun picture : UInt32 × FrameData => picture.2.key) k s.decoders.delivered = s.passedOn k

/-- What keeps the books while the loop runs, without the display. -/
structure Preserves (s s' : ClientLoop D) : Prop where
  running : s'.Running → s.Running
  discarded : s'.backend = s.backend
  books : s'.Running → s.Books → s'.Books

/-- What stays as it is is preserved. -/
theorem Preserves.refl (s : ClientLoop D) : Preserves s s := ⟨id, rfl, fun _ h => h⟩

/-- What two parts preserve is preserved. -/
theorem Preserves.trans (h : Preserves s s') (h' : Preserves s' s'') : Preserves s s'' where
  running := fun hrun => h.running (h'.running hrun)
  discarded := h'.discarded.trans h.discarded
  books := fun hrun hbooks => h'.books hrun (h.books (h'.running hrun) hbooks)

/-- The pipeline is the same, and frames have only moved on from place to place. -/
theorem Books.moved (hbooks : s.Books) (hdecoders : s'.decoders = s.decoders)
    (hstalled : s'.stalled = s.stalled) (htaken : s'.reportsTaken = s.reportsTaken)
    (hreceived : s'.received = s.received) (hpassed : ∀ k, s'.passedOn k = s.passedOn k) :
    s'.Books := by
  constructor
  · rw [hdecoders]
    exact hbooks.sound
  · rw [hdecoders]
    exact hbooks.reporting
  · rw [hdecoders, hstalled]
    exact hbooks.held
  · rw [hdecoders, htaken]
    exact hbooks.taken
  · intro k
    rw [hdecoders, hreceived]
    exact hbooks.received k
  · intro k
    rw [hdecoders, htaken, hpassed]
    exact hbooks.passed k

/-- Nothing that the books count has changed. -/
theorem preserves_same (hexit : s'.exit = s.exit) (hdecoders : s'.decoders = s.decoders)
    (hstalled : s'.stalled = s.stalled) (htaken : s'.reportsTaken = s.reportsTaken)
    (hreceived : s'.received = s.received) (hbackend : s'.backend = s.backend)
    (hpassed : ∀ k, s'.passedOn k = s.passedOn k) : Preserves s s' where
  running := by
    unfold Running
    rw [hexit, hdecoders]
    exact id
  discarded := hbackend
  books := fun _ hbooks => hbooks.moved hdecoders hstalled htaken hreceived hpassed

/-! ## What the session task does without frames -/

/-- A loop that has stopped does not run. -/
theorem not_running_stop (s : ClientLoop D) (e : LoopExit) : ¬ (s.stop e).Running :=
  fun h => nomatch h.1

/-- Stopping sends no acknowledgement. -/
theorem stop_preserves (s : ClientLoop D) (e : LoopExit) : Preserves s (s.stop e) where
  running := fun h => absurd h (s.not_running_stop e)
  discarded := rfl
  books := fun h => absurd h (s.not_running_stop e)

/-- A command that shows no frame is none of the books' business. -/
theorem command_preserves (s : ClientLoop D) {c : DisplayCommand} (hc : c.shows = none) :
    Preserves s (s.command c) := by
  unfold command
  split
  · refine preserves_same rfl rfl rfl rfl rfl rfl fun k => ?_
    have hnone : hit DisplayCommand.shows k c = 0 := hit_of_ne (by simp [hc])
    simp [passedOn, hnone]
  · exact .refl s

/-- If the display is gone, the loop ends. -/
theorem commandOrStop_preserves (s : ClientLoop D) {c : DisplayCommand} (hc : c.shows = none) :
    Preserves s (s.commandOrStop c) := by
  unfold commandOrStop
  split
  · exact s.command_preserves hc
  · exact s.stop_preserves _

/-- A write that failed has ended the loop. -/
theorem send_running {r : Readings} {m : Message} (h : (s.send r m).Running) :
    s.send r m = { s with sent := s.sent ++ [m] } := by
  unfold send at h ⊢
  split
  · rfl
  next hfails =>
    rw [if_neg hfails] at h
    cases h.1

/-- A message does not go to the display. -/
theorem send_backend (s : ClientLoop D) (r : Readings) (m : Message) :
    (s.send r m).backend = s.backend := by
  unfold send command
  split
  · rfl
  · split
    · rfl
    · rfl

/-- A message that is written keeps the books if they count it. -/
theorem preserves_send {r : Readings} {m : Message} (hrunning : s'.Running → s.Running)
    (hbackend : s'.backend = s.backend)
    (hbooks : s.Books → Books { s' with sent := s'.sent ++ [m] }) :
    Preserves s (s'.send r m) where
  running := by
    intro hrun
    rw [send_running hrun] at hrun
    exact hrunning hrun
  discarded := (s'.send_backend r m).trans hbackend
  books := by
    intro hrun hs
    rw [send_running hrun]
    exact hbooks hs

/-- A message that acknowledges nothing is none of the books' business. -/
theorem send_preserves (s : ClientLoop D) (r : Readings) {m : Message} (hm : m.acks = none) :
    Preserves s (s.send r m) := by
  refine preserves_send id rfl fun hbooks => hbooks.moved rfl rfl rfl rfl fun k => ?_
  have hnone : hit Message.acks k m = 0 := hit_of_ne (by simp [hm])
  simp [passedOn, hnone]

/-- A note is for the geometry and the monitor. -/
theorem noteChange_preserves (s : ClientLoop D) (r : Readings) (change : ModelChange) :
    Preserves s (s.noteChange r change) := by
  unfold noteChange
  split
  next =>
    split
    · exact preserves_same rfl rfl rfl rfl rfl rfl fun _ => rfl
    · exact .refl s
  next =>
    split
    · exact preserves_same rfl rfl rfl rfl rfl rfl fun _ => rfl
    · exact .refl s
  next id =>
    refine ⟨fun h => h, rfl, fun _ hbooks => ?_⟩
    obtain ⟨hsound, htallied⟩ := DecodePipeline.forget_tallied hbooks.sound id
    refine ⟨hsound, hbooks.reporting, hbooks.held, hbooks.taken, fun k => ?_, hbooks.passed⟩
    exact (hbooks.received k).trans (htallied k).symm
  next => exact .refl s

/-- An event that is no frame. -/
theorem onEvent_preserves (s : ClientLoop D) (r : Readings) {e : ClientEvent}
    (he : ∀ f, e ≠ .frame f) : Preserves s (s.onEvent r e) := by
  have hno : ∀ f, .frame f ∉ (s.model.apply e).1 := by
    rcases s.model.apply_yields e with ⟨f, hf, -⟩ | ⟨id, hchanges, -⟩ | ⟨hno, -⟩
    · exact absurd hf (he f)
    · simp [hchanges]
    · exact hno
  have hmodel : Preserves s { s with model := (s.model.apply e).2 } :=
    preserves_same rfl rfl rfl rfl rfl rfl fun _ => rfl
  have hchanged : Preserves s (s.changed r e) := by
    apply hmodel.trans
    apply applyChanges_respects Preserves.refl _ _ _ _ hno
    · exact fun _ _ _ h h' => h.trans h'
    · exact fun s change => s.noteChange_preserves r change
    · exact fun s change c hc => s.commandOrStop_preserves (displayCommandForChange_shows hc)
  rcases s.onEvent_eq r e with h | h
  · rw [h]
    exact hchanged
  · rw [h]
    exact hchanged.trans (stop_preserves _ _)

/-! ## Frames in the pipeline -/

/-- The pipeline moves on: its reports grow, what it received is in it, and what it delivered
is passed on. -/
theorem Books.advance (hbooks : s.Books) (hsound : s'.decoders.Sound)
    (hreporting : s'.decoders.reportsOpen = true)
    (hheld : s'.decoders.held = s'.stalled.toList.map Prod.fst)
    (htaken : s'.reportsTaken = s.reportsTaken)
    (hreports : s.decoders.reports <+: s'.decoders.reports)
    (hreceived : ∀ k, tally FrameData.key k s'.received + s.decoders.tallied k =
      tally FrameData.key k s.received + s'.decoders.tallied k)
    (hpassed : ∀ k,
      tally (fun picture : UInt32 × FrameData => picture.2.key) k s'.decoders.delivered +
          s.passedOn k =
        tally (fun picture : UInt32 × FrameData => picture.2.key) k s.decoders.delivered +
          s'.passedOn k) : s'.Books where
  sound := hsound
  reporting := hreporting
  held := hheld
  taken := htaken ▸ hbooks.taken.trans hreports.length_le
  received := by
    intro k
    have := hreceived k
    have := hbooks.received k
    omega
  passed := by
    intro k
    obtain ⟨more, hmore⟩ := hreports
    have htake : s'.decoders.reports.take s'.reportsTaken =
        s.decoders.reports.take s.reportsTaken := by
      rw [htaken, ← hmore, List.take_append_of_le_length hbooks.taken]
    have := hpassed k
    have := hbooks.passed k
    rw [htake]
    omega

/-- A frame that is read, while none is held back. -/
theorem submitFrame_preserves (s : ClientLoop D) (r : Readings) (f : FrameData)
    (hroom : s.stalled = none) :
    Preserves s ({ s with received := s.received ++ [f] }.submitFrame r f) := by
  obtain ⟨hreports, hdelivered, hheld, hsink, hopen⟩ := s.decoders.submit_logs f r.starts r.nowUs
  have hread : ∀ k, tally FrameData.key k (s.received ++ [f]) =
      tally FrameData.key k s.received + hit FrameData.key k f := by
    intro k
    simp
  unfold submitFrame
  dsimp only
  split
  next decoders hsubmit =>
    have hsubmitted : s.decoders.submitOrHold f r.starts r.nowUs = decoders := by
      simp [DecodePipeline.submitOrHold, hsubmit]
    rw [hsubmit] at hreports hdelivered hheld hsink hopen
    refine ⟨fun hrun => ⟨hrun.1, hsink ▸ hrun.2⟩, rfl, fun _ hbooks => ?_⟩
    obtain ⟨hsound, htallied⟩ :=
      DecodePipeline.submit_tallied hbooks.sound hbooks.reporting f r.starts r.nowUs
    rw [hsubmitted] at hsound htallied
    refine hbooks.advance hsound (hopen.trans hbooks.reporting) (hheld.trans hbooks.held) rfl
      hreports (fun k => ?_) fun k => ?_
    · rw [hread, htallied]
      omega
    · rw [hdelivered]
      rfl
  next b decoders hsubmit =>
    have hsubmitted : s.decoders.submitOrHold f r.starts r.nowUs =
        { decoders with held := decoders.held ++ [b] } := by
      simp [DecodePipeline.submitOrHold, hsubmit]
    rw [hsubmit] at hreports hdelivered hheld hsink hopen
    refine ⟨fun hrun => ⟨hrun.1, hsink ▸ hrun.2⟩, rfl, fun _ hbooks => ?_⟩
    obtain ⟨hsound, htallied⟩ :=
      DecodePipeline.submit_tallied hbooks.sound hbooks.reporting f r.starts r.nowUs
    rw [hsubmitted] at hsound htallied
    have hnone : decoders.held = [] := by
      rw [show decoders.held = s.decoders.held from hheld, hbooks.held, hroom]
      rfl
    refine hbooks.advance hsound (hopen.trans hbooks.reporting) ?_ rfl hreports (fun k => ?_)
      fun k => ?_
    · dsimp only
      rw [hnone]
      rfl
    · rw [hread, htallied]
      omega
    · dsimp only
      rw [hdelivered]
      rfl

/-- The frame that is held back goes to its worker, which is still there. -/
theorem onRoom_preserves (s : ClientLoop D) (r : Readings) : Preserves s (s.onRoom r) := by
  unfold onRoom
  split
  next => exact .refl s
  next b since hstalled =>
    have hresend := fun hbooks : s.Books => DecodePipeline.resend_tallied hbooks.sound
      (b := b) (by simp [hbooks.held, hstalled])
    cases hsend : (s.decoders.lanes b.frame.windowId).trySend b.queue b.frame with
    | ok lane =>
        refine ⟨id, rfl, fun _ hbooks => ?_⟩
        obtain ⟨lane', hlane', hsound, htallied⟩ := hresend hbooks (by simp [hsend])
        rw [hsend] at hlane'
        cases hlane'
        refine hbooks.advance hsound hbooks.reporting ?_ rfl List.prefix_rfl (fun k => ?_)
          fun _ => rfl
        · simp [DecodePipeline.setLane, hbooks.held, hstalled]
        · dsimp only
          rw [htallied]
    | error e =>
        cases e with
        | full => exact .refl s
        | closed =>
            refine ⟨id, rfl, fun _ hbooks => ?_⟩
            obtain ⟨lane', hlane', -⟩ := hresend hbooks (by simp [hsend])
            rw [hsend] at hlane'
            cases hlane'

/-! ## What comes back -/

section Features

variable {features : UInt64} (hon : features &&& Feature.frameAck ≠ 0)

include hon

/-- Where acknowledgements were negotiated they are sent. -/
theorem sendFrameAck_on (s : ClientLoop D) (r : Readings) (ack : FrameAck) :
    s.sendFrameAck features r ack = s.send r (.frameAck ack) :=
  if_pos (bne_iff_ne.mpr hon)

/-- A report is taken, and the frame that it drops is acknowledged. -/
theorem onReport_preserves (s : ClientLoop D) (r : Readings) :
    Preserves s (s.onReport features r) := by
  unfold onReport
  split
  next => exact .refl s
  next report hreport =>
    have htaken := (List.getElem?_eq_some_iff.mp hreport).1
    have htake : ∀ k, tally FrameReport.drops k (s.decoders.reports.take (s.reportsTaken + 1)) =
        tally FrameReport.drops k (s.decoders.reports.take s.reportsTaken) +
          hit FrameReport.drops k report := fun k => tally_take_succ hreport
    cases report with
    | decoded w frameId decodedUs =>
        refine ⟨id, rfl, fun _ hbooks => ?_⟩
        refine ⟨hbooks.sound, hbooks.reporting, hbooks.held, htaken, hbooks.received, fun k => ?_⟩
        have hnone : hit FrameReport.drops k (.decoded w frameId decodedUs) = 0 := hit_of_ne nofun
        dsimp only
        rw [htake, hnone]
        exact hbooks.passed k
    | dropped w frameId finishedUs =>
        dsimp only
        rw [sendFrameAck_on hon]
        refine preserves_send id rfl fun hbooks => ?_
        refine ⟨hbooks.sound, hbooks.reporting, hbooks.held, htaken, hbooks.received, fun k => ?_⟩
        have hacked : hit FrameReport.drops k (.dropped w frameId finishedUs) =
            hit Message.acks k (.frameAck ⟨w, frameId, finishedUs, finishedUs⟩) := hit_congr rfl
        have := hbooks.passed k
        dsimp only [passedOn] at this ⊢
        rw [htake, tally_append, tally_cons, tally_nil]
        omega

/-- An event of the display is handled, and a frame that was presented is acknowledged. -/
theorem onDisplayEvent_preserves (s : ClientLoop D) (r : Readings) :
    Preserves s (s.onDisplayEvent features r) := by
  unfold onDisplayEvent
  split
  next e rest hevents =>
    obtain ⟨s₁, hnotes, ⟨hs, hkey⟩ | ⟨m, hs, hm⟩⟩ :=
      handleDisplayEvent_handles { s with displayEvents := rest } features r e
    · rw [hs, hnotes.same]
      refine preserves_same rfl rfl rfl rfl rfl rfl fun k => ?_
      have hnone : hit DisplayEvent.presents k e = 0 := hit_of_ne (by simp [hkey hon])
      simp [passedOn, hevents, hnone]
    · rw [hs, hnotes.same]
      refine preserves_send id rfl fun hbooks => hbooks.moved rfl rfl rfl rfl fun k => ?_
      have hacked : hit Message.acks k m = hit DisplayEvent.presents k e := hit_congr hm
      simp only [passedOn, hevents, tally_append, tally_cons, tally_nil]
      omega
  next =>
    split
    · exact .refl s
    · exact s.stop_preserves _

end Features

/-- What a worker delivers is on its way to the display. -/
theorem onWork_preserves [FrameDecoder X D] (hfaithful : Faithful X D)
    (factory : DecoderFactory X D) (s : ClientLoop D) (v : UInt32) (n : Nat) (x : X)
    (nowUs : UInt64) : Preserves s (s.onWork factory v n x nowUs) := by
  obtain ⟨hsink, hopen, hheld⟩ :=
    @DecodePipeline.work_frame X D _ factory s.decoders v n x nowUs
  obtain ⟨hreports, more, hmore⟩ :=
    @DecodePipeline.work_logs X D _ factory s.decoders v n x nowUs
  have hrunning : (s.onWork factory v n x nowUs).Running → s.Running :=
    fun hrun => ⟨hrun.1, hsink ▸ hrun.2⟩
  refine ⟨hrunning, rfl, fun hrun hbooks => ?_⟩
  obtain ⟨hsound, htallied⟩ := @DecodePipeline.work_tallied X D s.decoders _ factory hfaithful
    hbooks.sound (hrunning hrun).2 hbooks.reporting v n x nowUs
  refine hbooks.advance hsound (hopen.trans hbooks.reporting) (hheld.trans hbooks.held) rfl
    hreports (fun k => ?_) fun k => ?_
  · dsimp only [onWork]
    rw [htallied]
  · dsimp only [onWork, passedOn]
    rw [← hmore, List.drop_left, tally_append, tally_append, tally_map]
    change _ + tally (fun picture : UInt32 × FrameData => picture.2.key) k more + _ =
      _ + (_ + tally (fun picture : UInt32 × FrameData => picture.2.key) k more + _ + _ + _)
    omega

/-! ## The display -/

/-- A frame that the display takes without presenting it: its window is not there, or the
presenter fails. -/
def Discards (s : ClientLoop D) : LoopStep X → FrameData → Prop
  | .display a, f =>
      s.decoders.sinkOpen = true ∧ s.commands.head? = some (.frame f) ∧
        ¬ (f.windowId ∈ s.backend.windows ∧ ∃ times, a.present = .ok times)
  | _, _ => False

/-- What the display makes of a command. -/
inductive Displayed (b : Backend) (a : DisplayAnswers) :
    DisplayCommand → List DisplayEvent × Backend → Prop
  | presented (f : FrameData) (times : PresentTimes) (hopen : f.windowId ∈ b.windows)
      (htimes : a.present = .ok times) :
      Displayed b a (.frame f)
        ([.presented f.windowId f.frameId times.decodedUs times.presentedUs], b)
  | discarded (f : FrameData) (events : List DisplayEvent)
      (hlost : ¬ (f.windowId ∈ b.windows ∧ ∃ times, a.present = .ok times))
      (hevents : ∀ e ∈ events, e.presents = none) :
      Displayed b a (.frame f) (events, { b with discarded := b.discarded ++ [f] })
  | other (c : DisplayCommand) (events : List DisplayEvent) (b' : Backend) (hc : c.shows = none)
      (hevents : ∀ e ∈ events, e.presents = none) (hsame : b'.discarded = b.discarded) :
      Displayed b a c (events, b')

/-- A frame is presented, discarded, or refused by the presenter. -/
theorem frame_displayed (b : Backend) (a : DisplayAnswers) (f : FrameData) :
    Displayed b a (.frame f) (b.frame a f) := by
  unfold Backend.frame
  split
  next w times hlookup htimes => exact .presented f times (Table.mem_of_lookup hlookup) htimes
  next hlookup hfails =>
    refine .discarded f [] (fun hshown => ?_) nofun
    obtain ⟨-, times, htimes⟩ := hshown
    rw [hfails] at htimes
    cases htimes
  next e _ hlookup hfails =>
    refine .discarded f _ (fun hshown => ?_) (List.forall_mem_singleton.mpr rfl)
    obtain ⟨-, times, htimes⟩ := hshown
    rw [hfails] at htimes
    cases htimes
  next hlookup =>
    refine .discarded f [] (fun hshown => ?_) nofun
    obtain ⟨w, hw⟩ := Table.lookup_of_mem hshown.1
    rw [hlookup] at hw
    cases hw

/-- A frame that a command carries is displayed or dropped, with an event for it. -/
theorem apply_displayed (b : Backend) (a : DisplayAnswers) (c : DisplayCommand) :
    Displayed b a c (b.apply a c) := by
  have hfailed : ∀ message, ∀ e ∈ [DisplayEvent.backendError message], e.presents = none :=
    fun _ => List.forall_mem_singleton.mpr rfl
  cases c with
  | frame f => exact frame_displayed b a f
  | createWindow spec =>
      dsimp only [Backend.apply]
      split
      · exact .other _ _ _ rfl nofun rfl
      · exact .other _ _ _ rfl (hfailed _) rfl
      · exact .other _ _ _ rfl nofun rfl
  | moveWindow spec =>
      dsimp only [Backend.apply]
      split
      · exact .other _ _ _ rfl (hfailed _) rfl
      · exact .other _ _ _ rfl nofun rfl
  | agentError code message => exact .other _ _ _ rfl (hfailed _) rfl
  | _ => exact .other _ _ _ rfl nofun rfl

/-- What a command comes to counts for the frame that it shows. -/
theorem Displayed.hits {b : Backend} {a : DisplayAnswers} {c : DisplayCommand}
    {result : List DisplayEvent × Backend} (h : Displayed b a c result) (k : UInt32 × UInt64) :
    tally DisplayEvent.presents k result.1 + tally FrameData.key k result.2.discarded =
      tally FrameData.key k b.discarded + hit DisplayCommand.shows k c := by
  have hshown : ∀ f : FrameData, hit FrameData.key k f =
      hit DisplayCommand.shows k (.frame f) := fun _ => hit_congr rfl
  cases h with
  | presented f times hopen htimes =>
      have hpresented : hit DisplayEvent.presents k
          (.presented f.windowId f.frameId times.decodedUs times.presentedUs) =
            hit DisplayCommand.shows k (.frame f) := hit_congr rfl
      simp only [tally_cons, tally_nil]
      omega
  | discarded f events hlost hevents =>
      have := hshown f
      simp only [tally_of_none hevents, tally_append, tally_cons, tally_nil]
      omega
  | other _ events b' hc hevents hsame =>
      have hnone : hit DisplayCommand.shows k c = 0 := hit_of_ne (by simp [hc])
      simp only [tally_of_none hevents, hsame]
      omega

/-- The display keeps the books: a frame is presented or discarded. -/
theorem onDisplay_books (s : ClientLoop D) (a : DisplayAnswers) :
    (s.onDisplay a).Running → s.Running ∧ (s.Books → (s.onDisplay a).Books) := by
  unfold onDisplay
  split
  · split
    next => exact fun hrun => ⟨hrun, id⟩
    next => exact fun hrun => nomatch hrun.2
    next c rest _ hcommands =>
      refine fun hrun => ⟨hrun, fun hbooks => hbooks.moved rfl rfl rfl rfl fun k => ?_⟩
      have := (apply_displayed s.backend a c).hits k
      simp only [passedOn, hcommands, tally_append, tally_cons]
      omega
  · exact fun hrun => ⟨hrun, id⟩

/-- A frame is discarded exactly where the display takes it without presenting it. -/
theorem Displayed.mem_discarded {b : Backend} {a : DisplayAnswers} {c : DisplayCommand}
    {result : List DisplayEvent × Backend} (h : Displayed b a c result) (f : FrameData) :
    f ∈ result.2.discarded ↔ f ∈ b.discarded ∨ c = .frame f ∧
      ¬ (f.windowId ∈ b.windows ∧ ∃ times, a.present = .ok times) := by
  cases h with
  | presented g times hopen htimes =>
      refine ⟨.inl, fun h => h.resolve_right ?_⟩
      rintro ⟨hg, hlost⟩
      cases hg
      exact hlost ⟨hopen, times, htimes⟩
  | discarded g events hlost hevents =>
      simp only [List.mem_append, List.mem_singleton, DisplayCommand.frame.injEq]
      refine or_congr_right ⟨?_, fun h => h.1.symm⟩
      rintro rfl
      exact ⟨rfl, hlost⟩
  | other _ events b' hc hevents hsame =>
      rw [hsame]
      refine ⟨.inl, fun h => h.resolve_right ?_⟩
      rintro ⟨rfl, -⟩
      cases hc

/-- The display discards the frame that it takes without presenting it, and no other. -/
theorem mem_discarded_onDisplay (s : ClientLoop D) (a : DisplayAnswers) (f : FrameData) :
    f ∈ (s.onDisplay a).backend.discarded ↔
      f ∈ s.backend.discarded ∨ s.Discards (.display a : LoopStep X) f := by
  unfold onDisplay Discards
  by_cases hsink : s.decoders.sinkOpen = true
  · simp only [hsink, if_true, true_and]
    split
    next hcommands => simp [hcommands]
    next rest hcommands => simp [hcommands]
    next c rest _ hcommands =>
      simp only [hcommands, List.head?_cons, Option.some.injEq]
      exact (apply_displayed s.backend a c).mem_discarded f
  · simp [hsink]

/-! ## Runs -/

section Runs

variable [FrameDecoder X D] (hfaithful : Faithful X D) (factory : DecoderFactory X D)
  {features : UInt64} (hon : features &&& Feature.frameAck ≠ 0)

omit [FrameDecoder X D] in
/-- A message puts frames in at the beginning only. -/
theorem onMessage_preserves (s : ClientLoop D) (r : Readings) (m : Message)
    (hroom : s.stalled = none) : Preserves s (s.onMessage r m) := by
  have hreceived := s.onMessage_received r m
  generalize s.onMessage r m = s' at hreceived
  cases hreceived with
  | frame f => exact s.submitFrame_preserves r f hroom
  | ping p => exact s.send_preserves r rfl
  | event _ e he hm => exact s.onEvent_preserves r he
  | ignored _ hm => exact .refl s

include hfaithful hon

/-- Every step but those of the display. -/
theorem step_preserves (s : ClientLoop D) {a : LoopStep X}
    (hdisplay : ∀ answers, a ≠ .display answers) : Preserves s (s.step factory features a) := by
  have hlive : ∀ s', Preserves s s' → Preserves s (if s.exit.isSome then s else s') := by
    intro s' h
    split
    · exact .refl s
    · exact h
  cases a with
  | message m r =>
      dsimp only [step]
      split
      · exact .refl s
      next hreads =>
        have hroom : s.stalled = none := by
          cases hstalled : s.stalled with
          | none => rfl
          | some held => simp [hstalled] at hreads
        exact s.onMessage_preserves r m hroom
  | streamEnds e =>
      dsimp only [step]
      split
      · exact .refl s
      · exact (s.command_preserves rfl).trans (stop_preserves _ _)
  | room r => exact hlive _ (s.onRoom_preserves r)
  | report r => exact hlive _ (onReport_preserves hon s r)
  | ping p r => exact hlive _ (s.send_preserves r rfl)
  | displayEvent r => exact hlive _ (onDisplayEvent_preserves hon s r)
  | work w n x nowUs => exact onWork_preserves hfaithful factory s w n x nowUs
  | display answers => exact absurd rfl (hdisplay answers)
  | native e he =>
      dsimp only [step]
      split
      · refine preserves_same rfl rfl rfl rfl rfl rfl fun k => ?_
        have hnone : hit DisplayEvent.presents k e = 0 := by
          apply hit_of_ne
          cases e with
          | presented id frameId decodedUs presentedUs => exact absurd rfl (he _ _ _ _)
          | _ =>
              intro h
              cases h
        simp [passedOn, hnone]
      · exact .refl s
  | displayExits =>
      have hgone : ¬ (s.step factory features .displayExits).Running := by
        rintro ⟨-, hshut⟩
        cases hshut
      exact ⟨fun h => absurd h hgone, rfl, fun h => absurd h hgone⟩

/-- A step keeps the books while the loop runs, and discards what the display does not
present. -/
theorem step_books (s : ClientLoop D) (a : LoopStep X)
    (hrun : (s.step factory features a).Running) :
    s.Running ∧ (s.Books → (s.step factory features a).Books) ∧
      ∀ f, f ∈ (s.step factory features a).backend.discarded ↔
        f ∈ s.backend.discarded ∨ s.Discards a f := by
  have hother : (∀ answers, a ≠ .display answers) → (∀ f, ¬ s.Discards a f) →
      s.Running ∧ (s.Books → (s.step factory features a).Books) ∧
        ∀ f, f ∈ (s.step factory features a).backend.discarded ↔
          f ∈ s.backend.discarded ∨ s.Discards a f := by
    intro hdisplay hkept
    have hpreserves := step_preserves hfaithful factory hon s hdisplay
    refine ⟨hpreserves.running hrun, hpreserves.books hrun, fun f => ?_⟩
    rw [hpreserves.discarded, or_iff_left (hkept f)]
  cases a with
  | display answers =>
      obtain ⟨hrunning, hbooks⟩ := s.onDisplay_books answers hrun
      exact ⟨hrunning, hbooks, s.mem_discarded_onDisplay answers⟩
  | _ => exact hother (by intro answers h; cases h) fun _ h => h

omit [FrameDecoder X D] hfaithful hon in
/-- At the start the books are empty. -/
theorem start_books (measuring : Bool) : (start measuring : ClientLoop D).Books where
  sound := DecodePipeline.new_sound
  reporting := rfl
  held := rfl
  taken := Nat.le_refl 0
  received := fun _ => rfl
  passed := fun _ => rfl

/-- The books of a run, as long as it goes on, and what its display discarded. -/
theorem run_books (measuring : Bool) (steps : List (LoopStep X))
    (hrun : (run factory features measuring steps).Running) :
    (run factory features measuring steps).Books ∧
      ∀ f, f ∈ (run factory features measuring steps).backend.discarded ↔
        ∃ before a after, steps = before ++ a :: after ∧
          (run factory features measuring before).Discards a f := by
  induction steps using List.reverseRecOn with
  | nil =>
      refine ⟨start_books measuring, fun f => iff_of_false List.not_mem_nil ?_⟩
      rintro ⟨before, a, after, heq, -⟩
      simp at heq
  | append_singleton steps a ih =>
      rw [run_snoc] at hrun ⊢
      obtain ⟨hrunning, hbooks, hdiscarded⟩ := step_books hfaithful factory hon _ a hrun
      obtain ⟨hbefore, hthen⟩ := ih hrunning
      refine ⟨hbooks hbefore, fun f => ?_⟩
      rw [hdiscarded, hthen]
      constructor
      · rintro (⟨before, b, after, rfl, hb⟩ | hlast)
        · exact ⟨before, b, after ++ [a], by simp, hb⟩
        · exact ⟨steps, a, [], rfl, hlast⟩
      · rintro ⟨before, b, after, heq, hb⟩
        rcases List.eq_nil_or_concat after with rfl | ⟨after, last, rfl⟩
        · obtain ⟨rfl, hlast⟩ := List.append_inj' heq rfl
          cases hlast
          exact .inr hb
        · rw [List.concat_eq_append, ← List.cons_append, ← List.append_assoc] at heq
          obtain ⟨rfl, -⟩ := List.append_inj' heq rfl
          exact .inl ⟨before, b, after, rfl, hb⟩

/-- The loop runs and holds nothing back, the workers of the windows that got frames have
nothing left to do, and the channels between the workers, the session task and the display are
empty. -/
structure Drained (s : ClientLoop D) : Prop where
  running : s.Running
  room : s.stalled = none
  workers : ∀ f ∈ s.received, (s.decoders.view f.windowId).Drained
  reports : s.reportsTaken = s.decoders.reports.length
  commands : s.commands = []
  events : s.displayEvents = []

omit [FrameDecoder X D] hfaithful hon in
/-- **A drained loop** has nothing held, queued, in a worker's hands, reported or commanded. -/
theorem drained_iff (s : ClientLoop D) : s.Drained ↔
    (s.exit = none ∧ s.decoders.sinkOpen = true) ∧ s.stalled = none ∧
      (∀ f ∈ s.received, ∀ worker ∈ (s.decoders.lanes f.windowId).threads,
        worker.queue = [] ∧ (worker.phase = .waiting ∨ worker.phase = .stopped)) ∧
      s.reportsTaken = s.decoders.reports.length ∧ s.commands = [] ∧ s.displayEvents = [] :=
  ⟨fun h => ⟨h.running, h.room, h.workers, h.reports, h.commands, h.events⟩,
    fun ⟨hrunning, hroom, hworkers, hreports, hcommands, hevents⟩ =>
      ⟨hrunning, hroom, hworkers, hreports, hcommands, hevents⟩⟩

instance (s : ClientLoop D) : Decidable s.Drained := decidable_of_iff' _ s.drained_iff

omit [FrameDecoder X D] hfaithful hon in
/-- What was received has been acknowledged or discarded, once everything has drained. -/
theorem Books.drained (hbooks : s.Books) (hs : s.Drained) (k : UInt32 × UInt64) :
    tally FrameData.key k s.received =
      tally Message.acks k s.sent + tally FrameData.key k s.backend.discarded := by
  have hload : tally FrameData.key k s.received = 0 ∨ (s.decoders.lanes k.1).load = [] := by
    by_cases hnone : ∀ f ∈ s.received, f.key ≠ some k
    · exact .inl (tally_of_ne hnone)
    · right
      push Not at hnone
      obtain ⟨f, hf, hkey⟩ := hnone
      cases hkey
      apply List.flatMap_eq_nil_iff.mpr
      intro worker hworker
      obtain ⟨hqueue, hphase | hphase⟩ := hs.workers f hf worker hworker
      · simp [Worker.load, hqueue, hphase, WorkerPhase.inHand, WorkerPhase.picture]
      · simp [Worker.load, hqueue, hphase, WorkerPhase.inHand, WorkerPhase.picture]
  have hheld : s.decoders.held = [] := by
    rw [hbooks.held, hs.room]
    rfl
  have hreceived := hbooks.received k
  have hpassed := hbooks.passed k
  rw [hs.reports, List.take_length] at hpassed
  simp only [DecodePipeline.tallied, hheld, tally_nil] at hreceived
  simp only [passedOn, hs.commands, hs.events, tally_nil] at hpassed
  rcases hload with hzero | hload
  · omega
  · rw [hload, tally_nil] at hreceived
    omega

/-- **Frames are acknowledged**: once a run has drained, every frame that was received for a
window that is open has been acknowledged exactly once, if and only if the display took no
frame of such a window without presenting it. -/
theorem acknowledged_iff (measuring : Bool) (steps : List (LoopStep X))
    (hdrained : (run factory features measuring steps).Drained) :
    (∀ v ∈ (run factory features measuring steps).model.windows, ∀ frameId,
      tally FrameData.key (v, frameId) (run factory features measuring steps).received =
        tally Message.acks (v, frameId) (run factory features measuring steps).sent) ↔
      ∀ before a after f, steps = before ++ a :: after →
        (run factory features measuring before).Discards a f →
          f.windowId ∉ (run factory features measuring steps).model.windows := by
  obtain ⟨hbooks, hdiscarded⟩ := run_books hfaithful factory hon measuring steps hdrained.running
  constructor
  · intro hacked before a after f heq hf hopen
    have hlost := (hdiscarded f).mpr ⟨before, a, after, heq, hf⟩
    have hpos : 0 < tally FrameData.key (f.windowId, f.frameId)
        (run factory features measuring steps).backend.discarded := tally_pos hlost rfl
    have := hbooks.drained hdrained (f.windowId, f.frameId)
    have := hacked f.windowId hopen f.frameId
    omega
  · intro hkept v hopen frameId
    have hnone : tally FrameData.key (v, frameId)
        (run factory features measuring steps).backend.discarded = 0 := by
      apply tally_of_ne
      intro f hf hkey
      obtain ⟨before, a, after, heq, hdiscards⟩ := (hdiscarded f).mp hf
      cases hkey
      exact hkept before a after f heq hdiscards hopen
    have := hbooks.drained hdrained (v, frameId)
    omega

end Runs

/-! ## One frame of one window -/

/-- All goes well on the side of the session task. -/
def smoothly : Readings :=
  { now := 0, nowUs := 0, offsetUs := none, sends := true, starts := true }

/-- A window is opened and gets a frame of one pixel, which is decoded and handed to the
display, and everything drains. -/
def frameSteps (present : Except PresentError PresentTimes) : List (LoopStep Unit) :=
  [.message
      (.windowOpened
        { windowId := 1, videoChannel := 1, pid := 1, appId := "a", title := "t", x := 0, y := 0
          width := 1, height := 1, dpi := 96, flags := 0, ownerId := 0 }) smoothly,
    .display { fails := none, present },
    .message
      (.frameData
        { windowId := 1, frameId := 1, codec := Codec.rawBgra, flags := FrameFlag.keyframe
          width := 1, height := 1, capturedUs := 0, encodedUs := 0
          data := [0, 0, 0, 0] }) smoothly,
    .work 1 0 () 0, .work 1 0 () 0, .work 1 0 () 0, .report smoothly,
    .display { fails := none, present }, .displayEvent smoothly]

/-- What the client has when all has drained. -/
def frameRun (present : Except PresentError PresentTimes) : ClientLoop PassthroughDecoder :=
  run newDecoder Feature.frameAck false (frameSteps present)

/-- The presenter shows the frame, and it is acknowledged. -/
theorem acknowledged_shown :
    (frameRun (.ok ⟨5, 6⟩)).Drained ∧
      ∀ v ∈ (frameRun (.ok ⟨5, 6⟩)).model.windows, ∀ frameId,
        tally FrameData.key (v, frameId) (frameRun (.ok ⟨5, 6⟩)).received =
          tally Message.acks (v, frameId) (frameRun (.ok ⟨5, 6⟩)).sent := by
  have hdrained : (frameRun (.ok ⟨5, 6⟩)).Drained := by decide +kernel
  have hnone : (frameRun (.ok ⟨5, 6⟩)).backend.discarded = [] := by decide +kernel
  have hon : Feature.frameAck &&& Feature.frameAck ≠ 0 := by decide
  refine ⟨hdrained, ?_⟩
  apply (acknowledged_iff passthrough_faithful newDecoder hon false _ hdrained).mpr
  intro before a after f heq hf
  have hlost := ((run_books passthrough_faithful newDecoder hon false _ hdrained.running).2 f).mpr
    ⟨before, a, after, heq, hf⟩
  change f ∈ (frameRun (.ok ⟨5, 6⟩)).backend.discarded at hlost
  rw [hnone] at hlost
  cases hlost

/-- The presenter fails on the frame, and no acknowledgement is sent. -/
theorem unpresented_frame_unacknowledged :
    ¬ ∀ steps : List (LoopStep Unit), (run newDecoder Feature.frameAck false steps).Drained →
      ∀ v ∈ (run newDecoder Feature.frameAck false steps).model.windows, ∀ frameId,
        tally FrameData.key (v, frameId) (run newDecoder Feature.frameAck false steps).received =
          tally Message.acks (v, frameId) (run newDecoder Feature.frameAck false steps).sent := by
  intro h
  have hdrained : (frameRun (.error (.platform "surface lost"))).Drained := by decide +kernel
  have hopen : 1 ∈ (frameRun (.error (.platform "surface lost"))).model.windows := by
    decide +kernel
  exact absurd (h _ hdrained 1 hopen 1) (by decide +kernel)

end ClientLoop

end Oxrdp
