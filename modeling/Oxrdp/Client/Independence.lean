import Oxrdp.Client.Decode
import Mathlib.Data.List.Induction

/-!
# Windows share nothing but the channels out

`DecodePipeline.view` is what there is of one window in the pipeline.  A step that does not
concern the window leaves it alone (`view_other`), and a step that does depends on nothing else
(`view_congr`): so what happens to a window is a matter of its own steps and its own decoders
(`views_agree`).
-/

namespace Oxrdp

namespace DecodePipeline

/-- What there is of one window. -/
structure WindowView (D : Type) where
  lane : Lane D
  held : List Backpressure
  reports : List FrameReport
  delivered : List FrameData
  sinkOpen : Bool
  reportsOpen : Bool

section View

variable {X D : Type}

def view (v : UInt32) (s : DecodePipeline D) : WindowView D :=
  { lane := s.lanes v
    held := s.held.filter fun b => b.frame.windowId = v
    reports := s.reports.filter fun r => r.windowId = v
    delivered := (s.delivered.filter fun d => d.1 = v).map Prod.snd
    sinkOpen := s.sinkOpen
    reportsOpen := s.reportsOpen }

def WindowView.report (w : WindowView D) (r : FrameReport) : WindowView D :=
  if w.reportsOpen then { w with reports := w.reports ++ [r] } else w

/-- Whether a step is about a window; the channels out are every window's. -/
def concerns (v : UInt32) : DecodeStep X → Bool
  | .submit frame _ _ => frame.windowId = v
  | .resend b => b.frame.windowId = v
  | .discard b => b.frame.windowId = v
  | .forget windowId => windowId = v
  | .work windowId _ _ _ => windowId = v
  | .sinkCloses => true
  | .reportsClose => true

variable {s : DecodePipeline D} {v w : UInt32}

/-- A window sees its own lane. -/
@[simp] theorem view_setLane_self (lane : Lane D) :
    (s.setLane v lane).view v = { s.view v with lane } := by
  simp [view, setLane]

/-- It does not see another's lane. -/
theorem view_setLane_other (lane : Lane D) (h : w ≠ v) : (s.setLane w lane).view v = s.view v := by
  simp [view, setLane, Function.update_of_ne (Ne.symm h)]

/-- It sees its own worker. -/
@[simp] theorem view_setWorker_self (n : Nat) (worker : Worker D) :
    (s.setWorker v n worker).view v =
      { s.view v with
        lane := { (s.view v).lane with threads := (s.view v).lane.threads.set n worker } } :=
  view_setLane_self _

/-- It does not see another's worker. -/
theorem view_setWorker_other (n : Nat) (worker : Worker D) (h : w ≠ v) :
    (s.setWorker w n worker).view v = s.view v :=
  view_setLane_other _ h

/-- It sees the reports of its own frames. -/
theorem view_report_self {r : FrameReport} (h : r.windowId = v) :
    (s.report r).view v = (s.view v).report r := by
  unfold report WindowView.report
  by_cases hopen : s.reportsOpen = true
  · simp [view, hopen, h, List.filter_append]
  · simp [view, hopen]

/-- A report to an open channel. -/
theorem view_report_open {r : FrameReport} (hr : r.windowId = v) (hopen : s.reportsOpen = true)
    (lane : Lane D) :
    ((s.setLane v lane).report r).view v =
      { s.view v with lane, reports := (s.view v).reports ++ [r] } := by
  rw [view_report_self hr, view_setLane_self]
  exact if_pos hopen

/-- Where two pipelines look alike to it, they do after such a report. -/
theorem view_report_congr {s' : DecodePipeline D} {r : FrameReport} (hr : r.windowId = v)
    (h : s.view v = s'.view v) : (s.report r).view v = (s'.report r).view v := by
  rw [view_report_self hr, view_report_self hr, h]

/-- It does not see the reports of others. -/
theorem view_report_other {r : FrameReport} (h : r.windowId ≠ v) :
    (s.report r).view v = s.view v := by
  unfold report
  by_cases hopen : s.reportsOpen = true
  · simp [view, hopen, h, List.filter_append]
  · simp [hopen]

/-- It sees its own pictures. -/
theorem view_deliver_self (picture : FrameData) :
    (s.deliver v picture).view v =
      { s.view v with delivered := (s.view v).delivered ++ [picture] } := by
  simp [view, deliver, List.filter_append]

/-- It does not see another's pictures. -/
theorem view_deliver_other (picture : FrameData) (h : w ≠ v) :
    (s.deliver w picture).view v = s.view v := by
  simp [view, deliver, List.filter_append, h]

variable [FrameDecoder X D] {factory : DecoderFactory X D}

/-- What a submitted frame leads to. -/
theorem step_submit (frame : FrameData) (starts : Bool) (nowUs : UInt64) :
    step factory s (.submit frame starts nowUs) =
      match ((s.lanes frame.windowId).entry starts).2.trySend
          ((s.lanes frame.windowId).entry starts).1 frame with
      | .ok lane => (some frame, s.setLane frame.windowId lane)
      | .error .full =>
          (none,
            { s.setLane frame.windowId ((s.lanes frame.windowId).entry starts).2 with
              held := s.held ++ [⟨frame, ((s.lanes frame.windowId).entry starts).1⟩] })
      | .error .closed =>
          (some frame,
            (s.setLane frame.windowId
              { ((s.lanes frame.windowId).entry starts).2 with sender := none }).report
                (.dropped frame.windowId frame.frameId nowUs)) := by
  unfold step submit
  cases hsend : ((s.lanes frame.windowId).entry starts).2.trySend
      ((s.lanes frame.windowId).entry starts).1 frame with
  | ok lane => simp [hsend]
  | error e =>
      cases e with
      | full => simp [hsend, setLane]
      | closed => simp [hsend]

/-- Frames held back for another window. -/
theorem view_hold_other {b : Backpressure} (h : b.frame.windowId ≠ v) :
    ({ s with held := s.held ++ [b] } : DecodePipeline D).view v = s.view v := by
  simp [view, h, List.filter_append]

/-- It sees a frame that is held for it. -/
theorem view_hold_self {b : Backpressure} (h : b.frame.windowId = v) :
    ({ s with held := s.held ++ [b] } : DecodePipeline D).view v =
      { s.view v with held := (s.view v).held ++ [b] } := by
  simp [view, h, List.filter_append]

/-- It sees one held frame less if that was its own. -/
theorem filter_erase {b : Backpressure} (held : List Backpressure) :
    (held.erase b).filter (fun b => b.frame.windowId = v) =
      if b.frame.windowId = v then (held.filter fun b => b.frame.windowId = v).erase b
      else held.filter fun b => b.frame.windowId = v := by
  induction held with
  | nil => simp
  | cons c rest ih =>
      by_cases hc : c = b
      · subst hc
        by_cases hw : c.frame.windowId = v
        · simp [hw]
        · simp [hw]
      · rw [List.erase_cons_tail (by simpa using hc)]
        by_cases hw : c.frame.windowId = v
        · rw [List.filter_cons_of_pos (by simpa using hw), ih,
            List.filter_cons_of_pos (by simpa using hw)]
          split
          · rw [List.erase_cons_tail (by simpa using hc)]
          · rfl
        · rw [List.filter_cons_of_neg (by simpa using hw), ih,
            List.filter_cons_of_neg (by simpa using hw)]

/-- Others' held frames are taken without its notice. -/
theorem view_erase_other {b : Backpressure} (h : b.frame.windowId ≠ v) :
    ({ s with held := s.held.erase b } : DecodePipeline D).view v = s.view v := by
  simp [view, filter_erase, h]

/-- Its own are taken from what it sees. -/
theorem view_erase_self {b : Backpressure} (h : b.frame.windowId = v) :
    ({ s with held := s.held.erase b } : DecodePipeline D).view v =
      { s.view v with held := (s.view v).held.erase b } := by
  simp [view, filter_erase, h]

/-- A step about something else leaves a window alone. -/
theorem view_other {a : DecodeStep X} (h : concerns v a = false) :
    (step factory s a).2.view v = s.view v := by
  cases a with
  | submit frame starts nowUs =>
      have hne : frame.windowId ≠ v := of_decide_eq_false h
      rw [step_submit]
      split
      · exact view_setLane_other _ hne
      · exact (view_hold_other hne).trans (view_setLane_other _ hne)
      · refine (view_report_other ?_).trans (view_setLane_other _ hne)
        exact hne
  | resend b =>
      have hne : b.frame.windowId ≠ v := of_decide_eq_false h
      unfold step
      simp only
      split
      · split
        · exact (view_setLane_other _ hne).trans (view_erase_other hne)
        · exact view_erase_other hne
      · rfl
  | discard b => exact view_erase_other (of_decide_eq_false h)
  | forget windowId => exact view_setLane_other _ (of_decide_eq_false h)
  | work windowId n x nowUs =>
      have hne : windowId ≠ v := of_decide_eq_false h
      change (s.work factory windowId n x nowUs).view v = s.view v
      unfold work
      split
      · rfl
      · split
        · rfl
        · split
          · exact view_setWorker_other _ _ hne
          · split
            · rfl
            · exact view_setWorker_other _ _ hne
        · split
          · refine (view_report_other ?_).trans (view_setWorker_other _ _ hne)
            exact hne
          · refine (view_report_other ?_).trans (view_setWorker_other _ _ hne)
            exact hne
        · split
          · exact (view_setWorker_other _ _ hne).trans (view_deliver_other _ hne)
          · exact view_setWorker_other _ _ hne
  | sinkCloses => cases h
  | reportsClose => cases h

section Congr

variable {factory' : DecoderFactory X D} {s' : DecodePipeline D}

/-- Submitting a frame depends on its window alone. -/
theorem submit_congr {frame : FrameData} (starts : Bool) (nowUs : UInt64)
    (h : s.view frame.windowId = s'.view frame.windowId) :
    (step factory s (.submit frame starts nowUs)).2.view frame.windowId =
        (step factory' s' (.submit frame starts nowUs)).2.view frame.windowId ∧
      (step factory s (.submit frame starts nowUs)).1 =
        (step factory' s' (.submit frame starts nowUs)).1 := by
  have hlane : s.lanes frame.windowId = s'.lanes frame.windowId := congrArg WindowView.lane h
  rw [step_submit, step_submit, hlane]
  split
  · exact ⟨by simp [h], rfl⟩
  · refine ⟨?_, rfl⟩
    refine (view_hold_self (s := s.setLane _ _) rfl).trans ?_
    refine Eq.trans ?_ (view_hold_self (s := s'.setLane _ _) rfl).symm
    simp [h]
  · refine ⟨?_, rfl⟩
    refine view_report_congr rfl ?_
    rw [view_setLane_self, view_setLane_self, h]

/-- Sending a held frame again depends on its window alone. -/
theorem resend_congr {b : Backpressure}
    (h : s.view b.frame.windowId = s'.view b.frame.windowId) :
    (step factory s (.resend b)).2.view b.frame.windowId =
        (step factory' s' (.resend b)).2.view b.frame.windowId ∧
      (step factory s (.resend b)).1 = (step factory' s' (.resend b)).1 := by
  have hlane : s.lanes b.frame.windowId = s'.lanes b.frame.windowId := congrArg WindowView.lane h
  have hmem : (b ∈ s.held) = (b ∈ s'.held) := by
    have hin := congrArg (fun view => b ∈ view.held) h
    simpa [view, List.mem_filter] using hin
  have herase : ({ s with held := s.held.erase b } : DecodePipeline D).view b.frame.windowId =
      ({ s' with held := s'.held.erase b } : DecodePipeline D).view b.frame.windowId := by
    rw [view_erase_self rfl, view_erase_self rfl, h]
  unfold step
  simp only [hmem, hlane]
  split
  · split
    · refine ⟨?_, rfl⟩
      refine (view_setLane_self (s := { s with held := _ }) _).trans (Eq.trans ?_
        (view_setLane_self (s := { s' with held := _ }) _).symm)
      rw [herase]
    · exact ⟨herase, rfl⟩
  · exact ⟨h, rfl⟩

/-- A worker depends on its window alone, and on how the decoders of that window are built. -/
theorem work_congr {windowId : UInt32} (n : Nat) (x : X) (nowUs : UInt64)
    (hfactory : factory windowId = factory' windowId) (h : s.view windowId = s'.view windowId) :
    (s.work factory windowId n x nowUs).view windowId =
      (s'.work factory' windowId n x nowUs).view windowId := by
  have hlane : s.lanes windowId = s'.lanes windowId := congrArg WindowView.lane h
  have hsender : s.hasSender windowId n = s'.hasSender windowId n := by
    have hheld : s.held.filter (fun b => b.frame.windowId = windowId) =
        s'.held.filter fun b => b.frame.windowId = windowId := congrArg WindowView.held h
    unfold hasSender
    rw [hlane, hheld]
  have hopen : s.sinkOpen = s'.sinkOpen := congrArg WindowView.sinkOpen h
  have hdecode : ∀ decoder frame, decodeFrame factory windowId x decoder frame =
      decodeFrame factory' windowId x decoder frame := by
    intro decoder frame
    unfold decodeFrame
    rw [hfactory]
  unfold work
  simp only [hlane, hsender, hopen, hdecode]
  split
  · exact h
  · split
    · exact h
    · split
      · rw [view_setWorker_self, view_setWorker_self, h]
      · split
        · exact h
        · rw [view_setWorker_self, view_setWorker_self, h]
    · split
      · refine view_report_congr rfl ?_
        rw [view_setWorker_self, view_setWorker_self, h]
      · refine view_report_congr rfl ?_
        rw [view_setWorker_self, view_setWorker_self, h]
    · split
      · rw [view_setWorker_self, view_setWorker_self, view_deliver_self, view_deliver_self, h]
      · rw [view_setWorker_self, view_setWorker_self, h]

/-- A step about a window depends on that window alone, and on how the decoders of that window
are built. -/
theorem view_congr {a : DecodeStep X} (hfactory : factory v = factory' v)
    (h : s.view v = s'.view v) (ha : concerns v a = true) :
    (step factory s a).2.view v = (step factory' s' a).2.view v ∧
      (step factory s a).1 = (step factory' s' a).1 := by
  cases a with
  | submit frame starts nowUs =>
      obtain rfl : frame.windowId = v := of_decide_eq_true ha
      exact submit_congr starts nowUs h
  | resend b =>
      obtain rfl : b.frame.windowId = v := of_decide_eq_true ha
      exact resend_congr h
  | discard b =>
      have hv : b.frame.windowId = v := of_decide_eq_true ha
      refine ⟨?_, rfl⟩
      change view v { s with held := s.held.erase b } = view v { s' with held := s'.held.erase b }
      rw [view_erase_self hv, view_erase_self hv, h]
  | forget windowId =>
      obtain rfl : windowId = v := of_decide_eq_true ha
      refine ⟨?_, rfl⟩
      change (s.setLane _ _).view _ = (s'.setLane _ _).view _
      have hlane : s.lanes windowId = s'.lanes windowId := congrArg WindowView.lane h
      rw [view_setLane_self, view_setLane_self, hlane, h]
  | work windowId n x nowUs =>
      obtain rfl : windowId = v := of_decide_eq_true ha
      exact ⟨work_congr n x nowUs hfactory h, rfl⟩
  | sinkCloses =>
      refine ⟨?_, rfl⟩
      change { s.view v with sinkOpen := false } = { s'.view v with sinkOpen := false }
      rw [h]
  | reportsClose =>
      refine ⟨?_, rfl⟩
      change { s.view v with reportsOpen := false } = { s'.view v with reportsOpen := false }
      rw [h]

end Congr

/-- The frame that a step makes the pipeline accept is of the window it is about. -/
theorem step_accepts {a : DecodeStep X} {frame : FrameData}
    (h : (step factory s a).1 = some frame) : concerns v a = decide (frame.windowId = v) := by
  cases a with
  | submit frame' starts nowUs =>
      rw [step_submit] at h
      split at h
      · cases h
        rfl
      · cases h
      · cases h
        rfl
  | resend b =>
      unfold step at h
      simp only at h
      split at h
      · split at h
        · cases h
          rfl
        · cases h
      · cases h
  | discard => cases h
  | forget => cases h
  | work => cases h
  | sinkCloses => cases h
  | reportsClose => cases h

/-- What a step of its own accepts is its own. -/
theorem accepted_own {a : DecodeStep X} (h : concerns v a = true) :
    (step factory s a).1.toList.filter (fun frame => frame.windowId = v) =
      (step factory s a).1.toList := by
  rw [List.filter_eq_self]
  intro frame hframe
  rw [← step_accepts (Option.mem_toList.mp hframe)]
  exact h

/-- A step of another's accepts nothing of its own. -/
theorem accepted_other {a : DecodeStep X} (h : concerns v a = false) :
    (step factory s a).1.toList.filter (fun frame => frame.windowId = v) = [] := by
  rw [List.filter_eq_nil_iff]
  intro frame hframe
  rw [← step_accepts (Option.mem_toList.mp hframe), h]
  exact Bool.false_ne_true

/-- The frames accepted for a window, in the order they were submitted in. -/
def acceptedFor (factory : DecoderFactory X D) (steps : List (DecodeStep X)) (v : UInt32) :
    List FrameData :=
  (history factory steps).2.filter fun frame => frame.windowId = v

/-- What was accepted for it, one step later. -/
theorem acceptedFor_snoc (steps : List (DecodeStep X)) (a : DecodeStep X) :
    acceptedFor factory (steps ++ [a]) v =
      acceptedFor factory steps v ++
        (step factory (history factory steps).1 a).1.toList.filter
          fun frame => frame.windowId = v := by
  unfold acceptedFor
  rw [history_snoc, List.filter_append]

/-- Leaving out the steps about other windows changes nothing for a window. -/
theorem own_steps {factory' : DecoderFactory X D} (hfactory : factory v = factory' v)
    (steps : List (DecodeStep X)) :
    (history factory steps).1.view v =
        (history factory' (steps.filter (concerns v))).1.view v ∧
      acceptedFor factory steps v = acceptedFor factory' (steps.filter (concerns v)) v := by
  induction steps using List.reverseRecOn with
  | nil => exact ⟨rfl, rfl⟩
  | append_singleton steps a ih =>
      rw [acceptedFor_snoc, history_snoc, List.filter_append]
      cases ha : concerns v a with
      | true =>
          rw [List.filter_cons_of_pos ha, List.filter_nil, acceptedFor_snoc, history_snoc,
            accepted_own ha, accepted_own ha, ih.2]
          obtain ⟨hview, haccepts⟩ := view_congr hfactory ih.1 ha
          exact ⟨hview, by rw [haccepts]⟩
      | false =>
          rw [List.filter_cons_of_neg (by simp [ha]), List.filter_nil, List.append_nil,
            accepted_other ha, List.append_nil]
          exact ⟨(view_other ha).trans ih.1, ih.2⟩

/-- **What becomes of a window is a matter of its own steps and of how its own decoders are
built**, whatever the frames and decoders of other windows do. -/
theorem views_agree {factory' : DecoderFactory X D} {steps steps' : List (DecodeStep X)}
    (hfactory : factory v = factory' v)
    (hsteps : steps.filter (concerns v) = steps'.filter (concerns v)) :
    (history factory steps).1.view v = (history factory' steps').1.view v ∧
      acceptedFor factory steps v = acceptedFor factory' steps' v := by
  obtain ⟨hview, haccepted⟩ := own_steps hfactory steps
  obtain ⟨hview', haccepted'⟩ := @own_steps X D v _ factory' factory' rfl steps'
  rw [hview, haccepted, hview', haccepted', hsteps]
  exact ⟨rfl, rfl⟩

end View

end DecodePipeline

end Oxrdp
