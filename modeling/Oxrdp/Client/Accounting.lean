import Oxrdp.Client.Independence
import Mathlib.Data.List.Forall2

/-!
# What becomes of every frame

The frames accepted for a window are, in order, those its worker has finished with, the one in
its hands and those on its queue.  Each finished frame has been reported once, and the pictures
among the results are those delivered and the one about to be (`Account`).  With both channels
open and no window submitted to again after it was forgotten, every step keeps it
(`LaneInv.keep`): what a worker can do is listed once, in `Worked`.
-/

namespace Oxrdp

/-- The frame in a worker's hands. -/
def WorkerPhase.inHand : WorkerPhase → List FrameData
  | .working frame => [frame]
  | _ => []

/-- The picture that is about to be delivered. -/
def WorkerPhase.picture : WorkerPhase → List FrameData
  | .delivering picture => [picture]
  | _ => []

/-- A thread that never started. -/
def Worker.NeverStarted {D : Type} (worker : Worker D) : Prop :=
  worker.phase = .stopped ∧ worker.queue = []

namespace DecodePipeline

section Accounting

variable {X D : Type} [FrameDecoder X D] {factory : DecoderFactory X D} {s : DecodePipeline D}
  {v : UInt32}

/-! ## The account of a window -/

/-- The report on a frame of a window that this picture came of, or none. -/
inductive Reported (v : UInt32) : FrameData × Option FrameData → FrameReport → Prop
  | decoded (frame picture : FrameData) (nowUs : UInt64) :
      Reported v (frame, some picture) (.decoded v frame.frameId nowUs)
  | dropped (frame : FrameData) (nowUs : UInt64) :
      Reported v (frame, none) (.dropped v frame.frameId nowUs)

omit [FrameDecoder X D] in
/-- A report is about a frame of its window. -/
theorem Reported.windowId {result : FrameData × Option FrameData} {r : FrameReport}
    (h : Reported v result r) : r.windowId = v := by
  cases h with
  | decoded => rfl
  | dropped => rfl

/-- What came of the frames of a window, one after the other, and the decoder it has now.  Before
a thread starts nothing comes of them. -/
inductive Handled (factory : DecoderFactory X D) (v : UInt32) :
    List (FrameData × Option FrameData) → Option D → Prop
  | start : Handled factory v [] none
  | unserved {results : List (FrameData × Option FrameData)} (h : Handled factory v results none)
      (hnone : ∀ r ∈ results, r.2 = none) (frame : FrameData) :
      Handled factory v (results ++ [(frame, none)]) none
  | decoded {results : List (FrameData × Option FrameData)} {decoder : Option D}
      (h : Handled factory v results decoder) (x : X) (frame : FrameData) :
      Handled factory v (results ++ [(frame, (decodeFrame factory v x decoder frame).1)])
        (decodeFrame factory v x decoder frame).2

/-- The frames accepted for a window are those with a result and those still inside; every
result was reported, and its picture was delivered or is about to be. -/
structure Account (v : UInt32) (w : WindowView D) (accepted : List FrameData)
    (results : List (FrameData × Option FrameData)) (inside pictures : List FrameData) : Prop where
  frames : accepted = results.map Prod.fst ++ inside
  reports : List.Forall₂ (Reported v) results w.reports
  delivered : results.filterMap Prod.snd = w.delivered ++ pictures

/-- The account of a window, which has no thread yet or one that serves it. -/
inductive LaneInv (factory : DecoderFactory X D) (v : UInt32) (past : List (DecodeStep X))
    (w : WindowView D) (accepted : List FrameData) : Prop
  | unserved (results : List (FrameData × Option FrameData))
      (hthreads : ∀ worker ∈ w.lane.threads, worker.NeverStarted) (hsender : w.lane.sender = none)
      (hheld : w.held = []) (hhandled : Handled factory v results none)
      (hnone : ∀ r ∈ results, r.2 = none) (h : Account v w accepted results [] [])
  | served (results : List (FrameData × Option FrameData)) (lost : List (Worker D))
      (worker : Worker D) (hthreads : w.lane.threads = lost ++ [worker])
      (hlost : ∀ worker ∈ lost, worker.NeverStarted)
      (hsender : w.lane.sender = some lost.length ∨
        w.lane.sender = none ∧ DecodeStep.forget v ∈ past)
      (hheld : ∀ b ∈ w.held, b.queue = lost.length)
      (hstopped : worker.phase = .stopped →
        worker.queue = [] ∧ w.lane.sender = none ∧ w.held = [])
      (hhandled : Handled factory v results worker.decoder)
      (h : Account v w accepted results (worker.phase.inHand ++ worker.queue)
        worker.phase.picture)

/-- What the session task promises of a step: both channels stay open, and no window is
submitted to again after it was forgotten. -/
def Orderly (before : List (DecodeStep X)) (a : DecodeStep X) : Prop :=
  a ≠ .sinkCloses ∧ a ≠ .reportsClose ∧
    ∀ frame starts nowUs, a = .submit frame starts nowUs → .forget frame.windowId ∉ before

omit [FrameDecoder X D] in
/-- A frame may be submitted until its window is forgotten. -/
theorem orderly_submit {before : List (DecodeStep X)} {frame : FrameData}
    (hnew : .forget frame.windowId ∉ before) (starts : Bool) (nowUs : UInt64) :
    Orderly before (.submit frame starts nowUs) := by
  refine ⟨nofun, nofun, ?_⟩
  intro frame' starts' nowUs' heq
  cases heq
  exact hnew

omit [FrameDecoder X D] in
/-- Work may be done at any time. -/
theorem orderly_work (before : List (DecodeStep X)) (windowId : UInt32) (n : Nat) (x : X)
    (nowUs : UInt64) : Orderly before (.work windowId n x nowUs) :=
  ⟨nofun, nofun, nofun⟩

section Account

variable {view view' : WindowView D} {accepted inside pictures : List FrameData}
  {results : List (FrameData × Option FrameData)}

omit [FrameDecoder X D] in
/-- A frame that is accepted goes to the end of the queue. -/
theorem Account.accept (h : Account v view accepted results inside pictures) (frame : FrameData)
    (hreports : view'.reports = view.reports) (hdelivered : view'.delivered = view.delivered) :
    Account v view' (accepted ++ [frame]) results (inside ++ [frame]) pictures where
  frames := by rw [h.frames, List.append_assoc]
  reports := hreports ▸ h.reports
  delivered := hdelivered ▸ h.delivered

omit [FrameDecoder X D] in
/-- The first frame inside is reported, and its picture waits for delivery. -/
theorem Account.finish {frame : FrameData} {picture : Option FrameData} {r : FrameReport}
    (h : Account v view accepted results (frame :: inside) [])
    (hreport : Reported v (frame, picture) r) (hreports : view'.reports = view.reports ++ [r])
    (hdelivered : view'.delivered = view.delivered) :
    Account v view' accepted (results ++ [(frame, picture)]) inside picture.toList where
  frames := by
    rw [h.frames, List.map_append, List.append_assoc]
    rfl
  reports := by
    rw [hreports]
    exact List.rel_append h.reports (.cons hreport .nil)
  delivered := by
    rw [List.filterMap_append, h.delivered, hdelivered, List.append_nil]
    cases picture with
    | none => rfl
    | some p => rfl

omit [FrameDecoder X D] in
/-- A picture that is delivered is accounted for. -/
theorem Account.deliver {picture : FrameData}
    (h : Account v view accepted results inside [picture])
    (hreports : view'.reports = view.reports)
    (hdelivered : view'.delivered = view.delivered ++ [picture]) :
    Account v view' accepted results inside [] where
  frames := h.frames
  reports := hreports ▸ h.reports
  delivered := by rw [h.delivered, hdelivered, List.append_nil]

omit [FrameDecoder X D] in
/-- What is known is the same as long as the logs are. -/
theorem Account.same {inside' : List FrameData}
    (h : Account v view accepted results inside pictures) (hinside : inside = inside')
    (hreports : view'.reports = view.reports) (hdelivered : view'.delivered = view.delivered) :
    Account v view' accepted results inside' pictures where
  frames := hinside ▸ h.frames
  reports := hreports ▸ h.reports
  delivered := hdelivered ▸ h.delivered

omit [FrameDecoder X D] in
/-- A frame that is accepted into the queue of a worker. -/
theorem Account.queued {worker : Worker D}
    (h : Account v view accepted results (worker.phase.inHand ++ worker.queue)
      worker.phase.picture) (frame : FrameData) (hreports : view'.reports = view.reports)
    (hdelivered : view'.delivered = view.delivered) :
    Account v view' (accepted ++ [frame]) results
      (worker.phase.inHand ++ (worker.queue ++ [frame])) worker.phase.picture :=
  have hacc : Account v view' (accepted ++ [frame]) results
      (worker.phase.inHand ++ worker.queue ++ [frame]) worker.phase.picture :=
    h.accept frame hreports hdelivered
  hacc.same (List.append_assoc _ _ _) rfl rfl

end Account

/-! ## One step -/

section Steps

variable {past : List (DecodeStep X)} {accepted : List FrameData}

/-- What happens elsewhere keeps the lane. -/
theorem LaneInv.mono {view : WindowView D} (h : LaneInv factory v past view accepted)
    (a : DecodeStep X) : LaneInv factory v (past ++ [a]) view accepted := by
  cases h with
  | unserved results hthreads hsender hheld hhandled hnone h =>
      exact .unserved results hthreads hsender hheld hhandled hnone h
  | served results lost worker hthreads hlost hsender hheld hstopped hhandled h =>
      refine .served results lost worker hthreads hlost ?_ hheld hstopped hhandled h
      exact hsender.imp_right fun hgone => ⟨hgone.1, List.mem_append_left _ hgone.2⟩

section Served

variable {lost : List (Worker D)} {worker : Worker D}

omit [FrameDecoder X D] in
/-- The thread that serves a window is the last one. -/
theorem trySend_last {lane : Lane D} (h : lane.threads = lost ++ [worker]) (frame : FrameData) :
    lane.trySend lost.length frame =
      (worker.trySend frame).map fun worker => { lane with threads := lost ++ [worker] } := by
  have hget : lane.threads[lost.length]? = some worker := by simp [h]
  have hset : ∀ worker', lane.threads.set lost.length worker' = lost ++ [worker'] := by
    intro worker'
    simp [h]
  unfold Lane.trySend
  rw [hget]
  simp only [hset]
  cases worker.trySend frame with
  | error e => rfl
  | ok worker' => rfl

omit [FrameDecoder X D] in
/-- A worker that runs takes a frame if its queue has room. -/
theorem trySend_running (h : worker.phase ≠ .stopped) (frame : FrameData) :
    worker.trySend frame =
      if worker.queue.length < queueDepth then
        .ok { worker with queue := worker.queue ++ [frame] }
      else .error .full :=
  if_neg h

/-- The first frame of a window, or one after threads that did not start. -/
theorem submit_unserved {frame : FrameData} (hsender : (s.lanes frame.windowId).sender = none)
    (starts : Bool) (nowUs : UInt64) :
    step factory s (.submit frame starts nowUs) =
      (some frame,
        if starts then
          s.setLane frame.windowId
            { sender := some (s.lanes frame.windowId).threads.length
              threads := (s.lanes frame.windowId).threads ++
                [{ queue := [frame], decoder := none, phase := .waiting }] }
        else
          (s.setLane frame.windowId
            { sender := none
              threads := (s.lanes frame.windowId).threads ++ [spawnWorker false] }).report
                (.dropped frame.windowId frame.frameId nowUs)) := by
  rw [step_submit, Lane.entry_of_none hsender]
  simp only
  rw [trySend_last rfl]
  cases starts with
  | true => rfl
  | false => rfl

/-- A window with a thread takes the frame, or the session task keeps it. -/
theorem submit_served {frame : FrameData}
    (hthreads : (s.lanes frame.windowId).threads = lost ++ [worker])
    (hsender : (s.lanes frame.windowId).sender = some lost.length)
    (hrunning : worker.phase ≠ .stopped) (starts : Bool) (nowUs : UInt64) :
    step factory s (.submit frame starts nowUs) =
      if worker.queue.length < queueDepth then
        (some frame, s.setLane frame.windowId
          { s.lanes frame.windowId with
            threads := lost ++ [{ worker with queue := worker.queue ++ [frame] }] })
      else (none, { s with held := s.held ++ [⟨frame, lost.length⟩] }) := by
  have hself : s.setLane frame.windowId (s.lanes frame.windowId) = s := by
    simp [setLane]
  rw [step_submit, Lane.entry_of_some hsender]
  simp only
  rw [trySend_last hthreads, trySend_running hrunning]
  by_cases hroom : worker.queue.length < queueDepth
  · rw [if_pos hroom, if_pos hroom]
    rfl
  · rw [if_neg hroom, if_neg hroom]
    simp only [Except.map, hself]

end Served

/-- Submitting to a window that was not forgotten. -/
theorem LaneInv.submit (hinv : LaneInv factory v past (s.view v) accepted)
    (hopen : s.reportsOpen = true) {frame : FrameData} (hv : frame.windowId = v)
    (hnew : DecodeStep.forget v ∉ past) (starts : Bool) (nowUs : UInt64) :
    LaneInv factory v past ((step factory s (.submit frame starts nowUs)).2.view v)
      (accepted ++ (step factory s (.submit frame starts nowUs)).1.toList) := by
  subst hv
  cases hinv with
  | unserved results hthreads hsender hheld hhandled hnone h =>
      rw [submit_unserved hsender]
      cases starts with
      | true =>
          simp only [if_true]
          rw [view_setLane_self]
          refine .served results _ _ rfl hthreads (.inl rfl) ?_ ?_ hhandled
            (h.accept frame rfl rfl)
          · intro b hb
            change b ∈ (s.view frame.windowId).held at hb
            rw [hheld] at hb
            cases hb
          · intro hstopped
            cases hstopped
      | false =>
          simp only [Bool.false_eq_true, if_false]
          have hdropped : (FrameReport.dropped frame.windowId frame.frameId nowUs).windowId =
              frame.windowId := rfl
          rw [view_report_open hdropped hopen]
          have hacc : Account frame.windowId (s.view frame.windowId) (accepted ++ [frame]) results
              [frame] [] := h.accept frame rfl rfl
          refine .unserved (results ++ [(frame, none)]) ?_ rfl hheld (hhandled.unserved hnone frame)
            ?_ (hacc.finish (.dropped frame nowUs) rfl rfl)
          · exact List.forall_mem_append.mpr
              ⟨hthreads, List.forall_mem_singleton.mpr ⟨rfl, rfl⟩⟩
          · exact List.forall_mem_append.mpr ⟨hnone, List.forall_mem_singleton.mpr rfl⟩
  | served results lost worker hthreads hlost hsender hheld hstopped hhandled h =>
      have hsome : (s.lanes frame.windowId).sender = some lost.length :=
        hsender.resolve_right fun hgone => hnew hgone.2
      have hrunning : worker.phase ≠ .stopped := by
        intro hstop
        have hnone := (hstopped hstop).2.1
        rw [show (s.view frame.windowId).lane.sender = some lost.length from hsome] at hnone
        cases hnone
      rw [submit_served hthreads hsome hrunning]
      by_cases hroom : worker.queue.length < queueDepth
      · rw [if_pos hroom, view_setLane_self]
        exact .served results lost { worker with queue := worker.queue ++ [frame] } rfl hlost
          (.inl hsome) hheld (fun hstop => absurd hstop hrunning) hhandled
          (h.queued frame rfl rfl)
      · rw [if_neg hroom]
        have hview := @view_hold_self D s frame.windowId ⟨frame, lost.length⟩ rfl
        simp only [Option.toList_none, List.append_nil]
        rw [hview]
        exact .served results lost worker hthreads hlost (.inl hsome)
          (List.forall_mem_append.mpr ⟨hheld, List.forall_mem_singleton.mpr rfl⟩)
          (fun hstop => absurd hstop hrunning) hhandled (h.same rfl rfl rfl)

/-- A frame that was held back goes to the queue it was refused by. -/
theorem LaneInv.resend (hinv : LaneInv factory v past (s.view v) accepted) {b : Backpressure}
    (hv : b.frame.windowId = v) :
    LaneInv factory v past ((step factory s (.resend b)).2.view v)
      (accepted ++ (step factory s (.resend b)).1.toList) := by
  subst hv
  unfold step
  by_cases hmem : b ∈ s.held
  · simp only [hmem, if_true]
    have hin : b ∈ (s.view b.frame.windowId).held := List.mem_filter.mpr ⟨hmem, by simp⟩
    cases hinv with
    | unserved results hthreads hsender hheld hhandled hnone h =>
        rw [hheld] at hin
        cases hin
    | served results lost worker hthreads hlost hsender hheld hstopped hhandled h =>
        have hrunning : worker.phase ≠ .stopped := by
          intro hstop
          rw [(hstopped hstop).2.2] at hin
          cases hin
        have hstays : ∀ b' ∈ (s.view b.frame.windowId).held.erase b, b'.queue = lost.length :=
          fun b' hb' => hheld b' (List.mem_of_mem_erase hb')
        have hthreads' : (s.lanes b.frame.windowId).threads = lost ++ [worker] := hthreads
        rw [hheld b hin, trySend_last hthreads', trySend_running hrunning]
        have hview := @view_erase_self D s b.frame.windowId b rfl
        by_cases hroom : worker.queue.length < queueDepth
        · rw [if_pos hroom]
          simp only [Except.map, view_setLane_self, hview, Option.toList_some]
          exact .served results lost { worker with queue := worker.queue ++ [b.frame] } rfl hlost
            hsender hstays (fun hstop => absurd hstop hrunning) hhandled
            (h.queued b.frame rfl rfl)
        · rw [if_neg hroom]
          simp only [Except.map, hview, Option.toList_none, List.append_nil]
          exact .served results lost worker hthreads hlost hsender hstays
            (fun hstop => absurd hstop hrunning) hhandled (h.same rfl rfl rfl)
  · simp only [hmem, if_false, Option.toList_none, List.append_nil]
    exact hinv

/-- A frame that was held back is given up. -/
theorem LaneInv.discard (hinv : LaneInv factory v past (s.view v) accepted) {b : Backpressure}
    (hv : b.frame.windowId = v) :
    LaneInv factory v past
      (({ s with held := s.held.erase b } : DecodePipeline D).view v) accepted := by
  rw [view_erase_self hv]
  cases hinv with
  | unserved results hthreads hsender hheld hhandled hnone h =>
      refine .unserved results hthreads hsender ?_ hhandled hnone (h.same rfl rfl rfl)
      change (s.view v).held.erase b = []
      rw [hheld]
      rfl
  | served results lost worker hthreads hlost hsender hheld hstopped hhandled h =>
      refine .served results lost worker hthreads hlost hsender ?_ ?_ hhandled
        (h.same rfl rfl rfl)
      · exact fun b' hb' => hheld b' (List.mem_of_mem_erase hb')
      · intro hstop
        obtain ⟨hqueue, hgone, hnone⟩ := hstopped hstop
        refine ⟨hqueue, hgone, ?_⟩
        change (s.view v).held.erase b = []
        rw [hnone]
        rfl

/-- **A forgotten lane** keeps what its worker has. -/
theorem LaneInv.forget (hinv : LaneInv factory v past (s.view v) accepted) :
    LaneInv factory v (past ++ [.forget v]) ((s.forget v).view v) accepted := by
  have hview : (s.forget v).view v = { s.view v with lane := { s.lanes v with sender := none } } :=
    view_setLane_self _
  rw [hview]
  cases hinv with
  | unserved results hthreads hsender hheld hhandled hnone h =>
      exact .unserved results hthreads rfl hheld hhandled hnone (h.same rfl rfl rfl)
  | served results lost worker hthreads hlost hsender hheld hstopped hhandled h =>
      refine .served results lost worker hthreads hlost (.inr ⟨rfl, by simp⟩) hheld ?_ hhandled
        (h.same rfl rfl rfl)
      intro hstop
      exact ⟨(hstopped hstop).1, rfl, (hstopped hstop).2.2⟩

omit [FrameDecoder X D] in
/-- A window sees its last worker change. -/
theorem view_setWorker_last {lost : List (Worker D)} {worker : Worker D}
    (h : (s.lanes v).threads = lost ++ [worker]) (worker' : Worker D) :
    (s.setWorker v lost.length worker').view v =
      { s.view v with lane := { s.lanes v with threads := lost ++ [worker'] } } := by
  have hset : (s.lanes v).threads.set lost.length worker' = lost ++ [worker'] := by
    simp [h]
  unfold setWorker
  rw [view_setLane_self, hset]

omit [FrameDecoder X D] in
/-- It sees that worker report. -/
theorem view_report_last {lost : List (Worker D)} {worker worker' : Worker D}
    (h : (s.lanes v).threads = lost ++ [worker]) {r : FrameReport} (hr : r.windowId = v)
    (hopen : s.reportsOpen = true) :
    ((s.setWorker v lost.length worker').report r).view v =
      { s.view v with
        lane := { s.lanes v with threads := lost ++ [worker'] }
        reports := (s.view v).reports ++ [r] } := by
  have hview := @view_setWorker_last D s v lost worker h worker'
  rw [view_report_self hr, hview]
  exact if_pos hopen

/-- A thread that does not run takes no step. -/
theorem work_stopped {n : Nat} (h : ∀ worker, (s.lanes v).threads[n]? = some worker →
    worker.phase = .stopped) (x : X) (nowUs : UInt64) : s.work factory v n x nowUs = s := by
  unfold work
  cases hget : (s.lanes v).threads[n]? with
  | none => rfl
  | some worker => simp only [h worker hget]

/-- What a step of the thread that serves a window can do, by where the thread is. -/
inductive Worked (factory : DecoderFactory X D) (v : UInt32) (s : DecodePipeline D)
    (lost : List (Worker D)) (worker : Worker D) : DecodePipeline D → Prop
  | stopped (hphase : worker.phase = .stopped) : Worked factory v s lost worker s
  | idle (hphase : worker.phase = .waiting) (hqueue : worker.queue = []) :
      Worked factory v s lost worker s
  | ended (hphase : worker.phase = .waiting) (hqueue : worker.queue = [])
      (hsender : s.hasSender v lost.length = false) :
      Worked factory v s lost worker
        (s.setWorker v lost.length { worker with phase := .stopped })
  | took (frame : FrameData) (rest : List FrameData) (hphase : worker.phase = .waiting)
      (hqueue : worker.queue = frame :: rest) :
      Worked factory v s lost worker
        (s.setWorker v lost.length { worker with queue := rest, phase := .working frame })
  | finished (x : X) (frame : FrameData) (r : FrameReport) (hphase : worker.phase = .working frame)
      (hreport : Reported v (frame, (decodeFrame factory v x worker.decoder frame).1) r) :
      Worked factory v s lost worker
        ((s.setWorker v lost.length
          { worker with
            decoder := (decodeFrame factory v x worker.decoder frame).2
            phase := (decodeFrame factory v x worker.decoder frame).1.elim .waiting
              .delivering }).report r)
  | delivered (picture : FrameData) (hphase : worker.phase = .delivering picture)
      (hsink : s.sinkOpen = true) :
      Worked factory v s lost worker
        ((s.deliver v picture).setWorker v lost.length { worker with phase := .waiting })
  | refused (picture : FrameData) (hphase : worker.phase = .delivering picture)
      (hsink : s.sinkOpen = false) :
      Worked factory v s lost worker
        (s.setWorker v lost.length { worker with queue := [], phase := .stopped })

/-- A step of any thread of a window is one of these, behind as many others as it has before
it. -/
theorem work_worked_at {lost : List (Worker D)} {worker : Worker D}
    (hget : (s.lanes v).threads[lost.length]? = some worker) (x : X) (nowUs : UInt64) :
    Worked factory v s lost worker (s.work factory v lost.length x nowUs) := by
  unfold DecodePipeline.work
  rw [hget]
  cases hphase : worker.phase with
  | stopped =>
      simp only [hphase]
      exact .stopped hphase
  | waiting =>
      simp only [hphase]
      cases hqueue : worker.queue with
      | cons frame rest => exact .took frame rest hphase hqueue
      | nil =>
          simp only
          split
          next => exact .idle hphase hqueue
          next hsender =>
            rw [← hqueue]
            exact .ended hphase hqueue (Bool.eq_false_iff.mpr hsender)
  | working frame =>
      simp only [hphase]
      rcases hdecode : decodeFrame factory v x worker.decoder frame with ⟨picture, decoder⟩
      have hfinished := fun r => @Worked.finished X D _ factory v s lost worker x frame r hphase
      rw [hdecode] at hfinished
      cases picture with
      | some picture => exact hfinished _ (.decoded frame picture nowUs)
      | none => exact hfinished _ (.dropped frame nowUs)
  | delivering picture =>
      simp only [hphase]
      split
      next hsink => exact .delivered picture hphase hsink
      next hsink => exact .refused picture hphase (Bool.eq_false_iff.mpr hsink)

/-- **A worker's step** is one of those that it can do. -/
theorem work_worked {lost : List (Worker D)} {worker : Worker D}
    (h : (s.lanes v).threads = lost ++ [worker]) (x : X) (nowUs : UInt64) :
    Worked factory v s lost worker (s.work factory v lost.length x nowUs) :=
  work_worked_at (by simp [h]) x nowUs

omit [FrameDecoder X D] in
/-- The window shows the phase that a result leads to. -/
theorem elim_phase (picture : Option FrameData) :
    (picture.elim WorkerPhase.waiting .delivering).inHand = [] ∧
      (picture.elim WorkerPhase.waiting .delivering).picture = picture.toList ∧
        picture.elim WorkerPhase.waiting .delivering ≠ .stopped := by
  cases picture with
  | none => exact ⟨rfl, rfl, nofun⟩
  | some picture => exact ⟨rfl, rfl, nofun⟩

/-- A step of a thread of the window. -/
theorem LaneInv.work (hinv : LaneInv factory v past (s.view v) accepted)
    (hsink : s.sinkOpen = true) (hopen : s.reportsOpen = true) (n : Nat) (x : X)
    (nowUs : UInt64) :
    LaneInv factory v past ((s.work factory v n x nowUs).view v) accepted := by
  cases hinv with
  | unserved results hthreads hsender hheld hhandled hnone h =>
      rw [work_stopped fun worker hworker => (hthreads worker (List.mem_of_getElem? hworker)).1]
      exact .unserved results hthreads hsender hheld hhandled hnone h
  | served results lost worker hthreads hlost hsender hheld hstopped hhandled h =>
      have hsame : LaneInv factory v past (s.view v) accepted :=
        .served results lost worker hthreads hlost hsender hheld hstopped hhandled h
      have hlane : (s.lanes v).threads = lost ++ [worker] := hthreads
      by_cases hn : n = lost.length
      · subst hn
        have hworked := @work_worked X D _ factory s v lost worker hlane x nowUs
        generalize s.work factory v lost.length x nowUs = s' at hworked ⊢
        cases hworked with
        | stopped => exact hsame
        | idle => exact hsame
        | ended hphase hqueue hends =>
            simp only [hasSender, Bool.or_eq_false_iff, beq_eq_false_iff_ne, List.any_eq_false,
              decide_eq_true_eq] at hends
            have hnone : (s.lanes v).sender = none := (hsender.resolve_left hends.1).1
            have hempty : (s.view v).held = [] := by
              rw [List.eq_nil_iff_forall_not_mem]
              exact fun b hb => hends.2 b hb (hheld b hb)
            rw [hphase, hqueue] at h
            rw [view_setWorker_last hlane]
            exact .served results lost _ rfl hlost hsender hheld
              (fun _ => ⟨hqueue, hnone, hempty⟩) hhandled (h.same hqueue.symm rfl rfl)
        | took frame rest hphase hqueue =>
            rw [hphase, hqueue] at h
            rw [view_setWorker_last hlane]
            exact .served results lost _ rfl hlost hsender hheld nofun hhandled
              (h.same rfl rfl rfl)
        | finished x frame r hphase hreport =>
            rw [hphase] at h
            obtain ⟨hhand, hpicture, hruns⟩ :=
              elim_phase (decodeFrame factory v x worker.decoder frame).1
            rw [view_report_last hlane hreport.windowId hopen]
            refine .served _ lost _ rfl hlost hsender hheld (fun hstop => absurd hstop hruns)
              (hhandled.decoded x frame) ?_
            simp only [hhand, hpicture]
            exact h.finish hreport rfl rfl
        | delivered picture hphase =>
            rw [hphase] at h
            have hdelivered : ((s.deliver v picture).lanes v).threads = lost ++ [worker] := hlane
            rw [view_setWorker_last hdelivered, view_deliver_self]
            exact .served results lost _ rfl hlost hsender hheld nofun hhandled
              (h.deliver rfl rfl)
        | refused picture hphase hclosed =>
            rw [hsink] at hclosed
            cases hclosed
      · rw [work_stopped]
        · exact hsame
        · intro worker' hworker'
          rw [hlane] at hworker'
          by_cases hlt : n < lost.length
          · rw [List.getElem?_append_left hlt] at hworker'
            exact (hlost worker' (List.mem_of_getElem? hworker')).1
          · have hlong : (lost ++ [worker]).length ≤ n := by
              simp
              omega
            rw [List.getElem?_eq_none hlong] at hworker'
            cases hworker'

/-- **A step keeps the account of every window.** -/
theorem LaneInv.keep (hinv : LaneInv factory v past (s.view v) accepted)
    (hsink : s.sinkOpen = true) (hopen : s.reportsOpen = true) {a : DecodeStep X}
    (ha : Orderly past a) :
    LaneInv factory v (past ++ [a]) ((step factory s a).2.view v)
      (accepted ++ (step factory s a).1.toList.filter fun frame => frame.windowId = v) := by
  by_cases hv : concerns v a = true
  · rw [accepted_own hv]
    cases a with
    | submit frame starts nowUs =>
        obtain rfl : frame.windowId = v := of_decide_eq_true hv
        exact (hinv.submit hopen rfl (ha.2.2 frame starts nowUs rfl) starts nowUs).mono _
    | resend b => exact (hinv.resend (of_decide_eq_true hv)).mono _
    | discard b =>
        have hkept := hinv.discard (of_decide_eq_true hv)
        rw [← List.append_nil accepted] at hkept
        exact hkept.mono _
    | forget windowId =>
        obtain rfl : windowId = v := of_decide_eq_true hv
        have hkept := hinv.forget
        rw [← List.append_nil accepted] at hkept
        exact hkept
    | work windowId n x nowUs =>
        obtain rfl : windowId = v := of_decide_eq_true hv
        have hkept := hinv.work hsink hopen n x nowUs
        rw [← List.append_nil accepted] at hkept
        exact hkept.mono _
    | sinkCloses => exact absurd rfl ha.1
    | reportsClose => exact absurd rfl ha.2.1
  · have hother : concerns v a = false := by simpa using hv
    rw [accepted_other hother, List.append_nil, view_other hother]
    exact hinv.mono a

omit [FrameDecoder X D] in
/-- A report changes no lane. -/
theorem report_lanes (s : DecodePipeline D) (r : FrameReport) : (s.report r).lanes = s.lanes := by
  unfold report
  split
  · rfl
  · rfl

omit [FrameDecoder X D] in
/-- A report changes the list of reports only. -/
theorem report_frame (r : FrameReport) :
    (s.report r).sinkOpen = s.sinkOpen ∧ (s.report r).reportsOpen = s.reportsOpen ∧
      (s.report r).held = s.held := by
  unfold report
  split
  · exact ⟨rfl, rfl, rfl⟩
  · exact ⟨rfl, rfl, rfl⟩

/-- A thread touches neither what the session task holds back nor the ends of the channels. -/
theorem work_frame (windowId : UInt32) (n : Nat) (x : X) (nowUs : UInt64) :
    (s.work factory windowId n x nowUs).sinkOpen = s.sinkOpen ∧
      (s.work factory windowId n x nowUs).reportsOpen = s.reportsOpen ∧
        (s.work factory windowId n x nowUs).held = s.held := by
  unfold work
  split
  · exact ⟨rfl, rfl, rfl⟩
  · split
    · exact ⟨rfl, rfl, rfl⟩
    · split
      · exact ⟨rfl, rfl, rfl⟩
      · split
        · exact ⟨rfl, rfl, rfl⟩
        · exact ⟨rfl, rfl, rfl⟩
    · split
      · exact report_frame _
      · exact report_frame _
    · split
      · exact ⟨rfl, rfl, rfl⟩
      · exact ⟨rfl, rfl, rfl⟩

/-- The channels out of the pipeline stay as they are but for a step that closes one. -/
theorem step_channels {a : DecodeStep X} (hsink : a ≠ .sinkCloses) (hreports : a ≠ .reportsClose) :
    (step factory s a).2.sinkOpen = s.sinkOpen ∧
      (step factory s a).2.reportsOpen = s.reportsOpen := by
  cases a with
  | submit frame starts nowUs =>
      rw [step_submit]
      split
      · exact ⟨rfl, rfl⟩
      · exact ⟨rfl, rfl⟩
      · exact ⟨(report_frame _).1, (report_frame _).2.1⟩
  | resend b =>
      unfold step
      simp only
      split
      · split
        · exact ⟨rfl, rfl⟩
        · exact ⟨rfl, rfl⟩
      · exact ⟨rfl, rfl⟩
  | discard b => exact ⟨rfl, rfl⟩
  | forget windowId => exact ⟨rfl, rfl⟩
  | work windowId n x nowUs =>
      obtain ⟨hsinks, hreps, -⟩ := @work_frame X D _ factory s windowId n x nowUs
      exact ⟨hsinks, hreps⟩
  | sinkCloses => exact absurd rfl hsink
  | reportsClose => exact absurd rfl hreports

end Steps

end Accounting

end DecodePipeline

end Oxrdp
