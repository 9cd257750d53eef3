import Oxrdp.Client.Accounting
import Oxrdp.Lib.Log

/-!
# Whole interleavings

Every interleaving that keeps the session task's promises leaves every window with its account
(`history_inv`), and enough steps of its thread leave nothing in the account that is not
reported and delivered (`worker_drains`).  A session task that holds one frame back at a time
has its frames accepted in the order of its submits (`accepted_in_order`).
-/

namespace Oxrdp

open Log

/-- Steps that a worker takes at most before it has nothing left to do. -/
def Worker.left {D : Type} (worker : Worker D) : Nat :=
  3 * worker.queue.length +
    match worker.phase with
    | .working _ => 2
    | .delivering _ => 1
    | _ => 0

namespace DecodePipeline

section Pipeline

variable {X D : Type} [FrameDecoder X D] {factory : DecoderFactory X D} {s : DecodePipeline D}
  {v : UInt32} {steps : List (DecodeStep X)}

/-- The channels are open and every window has its account after an orderly interleaving. -/
theorem history_inv (h : Lawful Orderly steps) :
    (history factory steps).1.sinkOpen = true ∧ (history factory steps).1.reportsOpen = true ∧
      ∀ v, LaneInv factory v steps ((history factory steps).1.view v)
        (acceptedFor factory steps v) := by
  apply h.rec_snoc
  · refine ⟨rfl, rfl, fun v => ?_⟩
    refine .unserved [] ?_ rfl rfl .start ?_ ⟨rfl, .nil, rfl⟩
    · intro worker hworker
      cases hworker
    · intro r hr
      cases hr
  · intro steps a hsteps ha ⟨hsink, hopen, hinv⟩
    rw [history_snoc]
    have hchannels := @step_channels X D _ factory (history factory steps).1 a ha.1 ha.2.1
    refine ⟨hchannels.1.trans hsink, hchannels.2.trans hopen, fun v => ?_⟩
    rw [acceptedFor_snoc]
    exact (hinv v).keep hsink hopen ha

/-- The workers of a window have nothing left to do. -/
def WindowView.Drained (w : WindowView D) : Prop :=
  ∀ worker ∈ w.lane.threads,
    worker.queue = [] ∧ (worker.phase = .waiting ∨ worker.phase = .stopped)

/-- The frames accepted for a window and what came of them: the frames finished with are the
first ones accepted, each with one report, and the pictures are delivered in their order.  All
of them are, once the workers of the window have drained their queues. -/
structure Accounted (factory : DecoderFactory X D) (v : UInt32) (w : WindowView D)
    (accepted : List FrameData) (results : List (FrameData × Option FrameData)) : Prop where
  handled : ∃ decoder, Handled factory v results decoder
  frames : results.map Prod.fst <+: accepted
  reports : List.Forall₂ (Reported v) results w.reports
  delivered : w.delivered <+: results.filterMap Prod.snd
  drained : w.Drained →
    results.map Prod.fst = accepted ∧ w.delivered = results.filterMap Prod.snd

theorem LaneInv.accounted {past : List (DecodeStep X)} {w : WindowView D}
    {accepted : List FrameData} (hinv : LaneInv factory v past w accepted) :
    ∃ results, Accounted factory v w accepted results := by
  cases hinv with
  | unserved results hthreads hsender hheld hhandled hnone h =>
      have hframes : results.map Prod.fst = accepted := by
        rw [h.frames, List.append_nil]
      have hdelivered : w.delivered = results.filterMap Prod.snd := by
        rw [h.delivered, List.append_nil]
      exact ⟨results, ⟨none, hhandled⟩, hframes ▸ List.prefix_rfl, h.reports,
        hdelivered ▸ List.prefix_rfl, fun _ => ⟨hframes, hdelivered⟩⟩
  | served results lost worker hthreads hlost hsender hheld hstopped hhandled h =>
      refine ⟨results, ⟨worker.decoder, hhandled⟩, h.frames ▸ List.prefix_append _ _, h.reports,
        h.delivered ▸ List.prefix_append _ _, ?_⟩
      intro hdrained
      obtain ⟨hqueue, hphase⟩ := hdrained worker (by simp [hthreads])
      rw [h.frames, h.delivered, hqueue]
      rcases hphase with hphase | hphase
      · simp [hphase, WorkerPhase.inHand, WorkerPhase.picture]
      · simp [hphase, WorkerPhase.inHand, WorkerPhase.picture]

/-- Every step of the thread that serves a window leaves it less to do. -/
theorem work_left {lost : List (Worker D)} {worker : Worker D}
    (h : (s.lanes v).threads = lost ++ [worker])
    (hstopped : worker.phase = .stopped → worker.queue = []) (x : X) (nowUs : UInt64) :
    ∃ worker', ((s.work factory v lost.length x nowUs).lanes v).threads = lost ++ [worker'] ∧
      (worker'.phase = .stopped → worker'.queue = []) ∧ worker'.left ≤ worker.left - 1 := by
  have hset : ∀ (s' : DecodePipeline D) worker', (s'.lanes v).threads = lost ++ [worker] →
      ((s'.setWorker v lost.length worker').lanes v).threads = lost ++ [worker'] :=
    fun s' worker' h' => congrArg (fun w => w.lane.threads) (view_setWorker_last h' worker')
  have hworked := @work_worked X D _ factory s v lost worker h x nowUs
  generalize s.work factory v lost.length x nowUs = s' at hworked ⊢
  unfold Worker.left
  cases hworked with
  | stopped hphase =>
      refine ⟨worker, h, hstopped, ?_⟩
      simp [hstopped hphase, hphase]
  | idle hphase hqueue =>
      refine ⟨worker, h, hstopped, ?_⟩
      simp [hqueue, hphase]
  | ended hphase hqueue =>
      refine ⟨_, hset s _ h, fun _ => hqueue, ?_⟩
      simp [hqueue]
  | took frame rest hphase hqueue =>
      refine ⟨_, hset s _ h, nofun, ?_⟩
      simp only [hphase, hqueue, List.length_cons]
      omega
  | finished x frame r hphase hreport =>
      have hruns := (elim_phase (decodeFrame factory v x worker.decoder frame).1).2.2
      refine ⟨_, (report_lanes _ r) ▸ hset s _ h, fun hstop => absurd hstop hruns, ?_⟩
      simp only [hphase]
      cases (decodeFrame factory v x worker.decoder frame).1 with
      | none =>
          simp only [Option.elim]
          omega
      | some picture =>
          simp only [Option.elim]
          omega
  | delivered picture hphase =>
      refine ⟨_, hset (s.deliver v picture) _ h, nofun, ?_⟩
      simp only [hphase]
      omega
  | refused picture hphase =>
      refine ⟨_, hset s _ h, fun _ => rfl, ?_⟩
      simp

/-- What a thread does to the queue of its window after an interleaving. -/
theorem thread_runs {lost : List (Worker D)} {worker : Worker D}
    (h : ((history factory steps).1.lanes v).threads = lost ++ [worker])
    (hstopped : worker.phase = .stopped → worker.queue = []) (more : List (X × UInt64)) :
    ∃ worker',
      ((history factory (steps ++ more.map fun m => .work v lost.length m.1 m.2)).1.lanes
        v).threads = lost ++ [worker'] ∧
      (worker'.phase = .stopped → worker'.queue = []) ∧
        worker'.left ≤ worker.left - more.length := by
  induction more using List.reverseRecOn with
  | nil => exact ⟨worker, by simpa using h, hstopped, Nat.le_refl _⟩
  | append_singleton more m ih =>
      obtain ⟨worker', hthreads, hstop, hleft⟩ := ih
      obtain ⟨worker'', hthreads', hstop', hless⟩ :=
        @work_left X D _ factory _ v lost worker' hthreads hstop m.1 m.2
      refine ⟨worker'', ?_, hstop', ?_⟩
      · rw [List.map_append, List.map_cons, List.map_nil, ← List.append_assoc, history_snoc]
        exact hthreads'
      · rw [List.length_append, List.length_singleton]
        omega

/-- **Enough steps of its thread drain a window**, whatever its decoder does. -/
theorem worker_drains (factory : DecoderFactory X D) (h : Lawful Orderly steps) (v : UInt32) :
    ∃ n k, ∀ more : List (X × UInt64), k ≤ more.length →
      ((history factory (steps ++ more.map fun m => .work v n m.1 m.2)).1.view v).Drained := by
  cases (@history_inv X D _ factory steps h).2.2 v with
  | unserved results hthreads hsender hheld hhandled hnone h =>
      refine ⟨0, 0, fun more _ => ?_⟩
      have hsame : (history factory (steps ++ more.map fun m => .work v 0 m.1 m.2)).1 =
          (history factory steps).1 := by
        induction more using List.reverseRecOn with
        | nil => simp
        | append_singleton more m ih =>
            rw [List.map_append, List.map_cons, List.map_nil, ← List.append_assoc, history_snoc]
            simp only [ih (Nat.zero_le _)]
            exact work_stopped
              (fun worker hworker => (hthreads worker (List.mem_of_getElem? hworker)).1) _ _
      rw [hsame]
      intro worker hworker
      exact ⟨(hthreads worker hworker).2, .inr (hthreads worker hworker).1⟩
  | served results lost worker hthreads hlost hsender hheld hstopped hhandled h =>
      refine ⟨lost.length, worker.left, fun more hmore => ?_⟩
      obtain ⟨worker', hthreads', -, hleft⟩ :=
        thread_runs hthreads (fun hstop => (hstopped hstop).1) more
      intro w hw
      have hw' : w ∈ lost ++ [worker'] := hthreads' ▸ hw
      rcases List.mem_append.mp hw' with hw' | hw'
      · exact ⟨(hlost w hw').2, .inr (hlost w hw').1⟩
      · rw [List.mem_singleton.mp hw']
        have hzero : worker'.left = 0 := by omega
        unfold Worker.left at hzero
        have hqueue : worker'.queue.length = 0 := by omega
        refine ⟨List.length_eq_zero_iff.mp hqueue, ?_⟩
        cases hphase : worker'.phase with
        | waiting => exact .inl rfl
        | stopped => exact .inr rfl
        | working frame =>
            rw [hphase] at hzero
            simp at hzero
        | delivering picture =>
            rw [hphase] at hzero
            simp at hzero

/-- A window without a sender gets a queue with room, so that a refusal leaves things as they
are. -/
theorem refused_intact {frame : FrameData} {starts : Bool} {nowUs : UInt64} {b : Backpressure}
    (h : (s.submit frame starts nowUs).1 = .error b) :
    b.frame = frame ∧ (s.lanes frame.windowId).sender = some b.queue ∧
      (s.submit frame starts nowUs).2 = s := by
  cases hsender : (s.lanes frame.windowId).sender with
  | some queue =>
      unfold submit at h ⊢
      rw [Lane.entry_of_some hsender] at h ⊢
      cases hsend : (s.lanes frame.windowId).trySend queue frame with
      | ok lane => simp [hsend] at h
      | error e =>
          cases e with
          | closed => simp [hsend] at h
          | full =>
              simp only [hsend, Except.error.injEq] at h
              subst h
              simp [hsend, setLane]
  | none =>
      unfold submit at h
      rw [Lane.entry_of_none hsender] at h
      simp only at h
      rw [trySend_last rfl] at h
      cases starts with
      | true => cases h
      | false => cases h

/-- The frames of the submits. -/
def submitted (steps : List (DecodeStep X)) : List FrameData :=
  steps.filterMap fun a =>
    match a with
    | .submit frame _ _ => some frame
    | _ => none

/-- The session task submits nothing while it holds a frame back. -/
def Patient (factory : DecoderFactory X D) (before : List (DecodeStep X)) (a : DecodeStep X) :
    Prop :=
  ∀ frame starts nowUs, a = .submit frame starts nowUs → (history factory before).1.held = []

/-- The frames accepted and the one held back are in the order of the submits. -/
theorem step_in_order {a : DecodeStep X} {accepted frames : List FrameData}
    (hsub : (accepted ++ s.held.map Backpressure.frame).Sublist frames)
    (hlength : s.held.length ≤ 1)
    (ha : ∀ frame starts nowUs, a = .submit frame starts nowUs → s.held = []) :
    (accepted ++ (step factory s a).1.toList ++
        (step factory s a).2.held.map Backpressure.frame).Sublist (frames ++ submitted [a]) ∧
      (step factory s a).2.held.length ≤ 1 := by
  cases a with
  | submit frame starts nowUs =>
      have hheld := ha frame starts nowUs rfl
      rw [hheld, List.map_nil, List.append_nil] at hsub
      have hsnoc : (accepted ++ [frame]).Sublist (frames ++ [frame]) :=
        hsub.append (List.Sublist.refl _)
      rw [step_submit]
      split
      · simpa [setLane, hheld, submitted] using hsnoc
      · simpa [hheld, submitted] using hsnoc
      · simpa [(report_frame _).2.2, setLane, hheld, submitted] using hsnoc
  | resend b =>
      have hnone : submitted [(DecodeStep.resend b : DecodeStep X)] = [] := rfl
      rw [hnone, List.append_nil]
      by_cases hmem : b ∈ s.held
      · have hone : s.held = [b] := by
          obtain ⟨c, hc⟩ := List.length_eq_one_iff.mp
            (Nat.le_antisymm hlength (List.length_pos_of_mem hmem))
          rw [hc, List.mem_singleton] at hmem
          rw [hc, hmem]
        rw [hone] at hsub
        unfold step
        simp only [hmem, if_true]
        split
        · simpa [setLane, hone] using hsub
        · have hless := (List.sublist_append_left accepted [b.frame]).trans hsub
          simpa [hone] using hless
      · simpa [step, hmem] using ⟨hsub, hlength⟩
  | discard b =>
      have herase := (List.erase_sublist (a := b) (l := s.held))
      have hless := (List.Sublist.refl accepted).append (herase.map Backpressure.frame)
      refine ⟨?_, herase.length_le.trans hlength⟩
      simpa [step, submitted] using hless.trans hsub
  | forget windowId => simpa [step, forget, setLane, submitted] using ⟨hsub, hlength⟩
  | work windowId n x nowUs =>
      have hheld : (s.work factory windowId n x nowUs).held = s.held :=
        (work_frame windowId n x nowUs).2.2
      simpa [step, submitted, hheld] using ⟨hsub, hlength⟩
  | sinkCloses => simpa [step, submitted] using ⟨hsub, hlength⟩
  | reportsClose => simpa [step, submitted] using ⟨hsub, hlength⟩

/-- A session task that holds one frame back at a time has its frames accepted in the order of
its submits. -/
theorem accepted_in_order (h : Lawful (Patient factory) steps) :
    (history factory steps).2.Sublist (submitted steps) := by
  have hinv : ((history factory steps).2 ++
      (history factory steps).1.held.map Backpressure.frame).Sublist (submitted steps) ∧
        (history factory steps).1.held.length ≤ 1 := by
    apply h.rec_snoc
    · exact ⟨.slnil, Nat.zero_le 1⟩
    · intro steps a _ ha ⟨hsub, hlength⟩
      have hsubmits : submitted (steps ++ [a]) = submitted steps ++ submitted [a] :=
        List.filterMap_append
      rw [history_snoc, hsubmits]
      exact step_in_order hsub hlength ha
  exact (List.sublist_append_left _ _).trans hinv.1

/-- **The account of the pipeline.**  While the channels stay open and no window is submitted to
after it was forgotten, every interleaving leaves every window accounted for, whatever factory
and decoders do: one report for each frame that was finished with, reports and pictures in the
order of the frames, and no frame missing once the queues are drained.  That order is the order
of the submits of a session task that holds one frame back at a time.  A refused frame comes
back as it was, and a window does not notice the frames and decoders of the others. -/
theorem pipeline_accounts (factory : DecoderFactory X D) (h : Lawful Orderly steps)
    (v : UInt32) :
    (∃ results, Accounted factory v ((history factory steps).1.view v)
      (acceptedFor factory steps v) results) ∧
    (Lawful (Patient factory) steps →
      (history factory steps).2.Sublist (submitted steps)) ∧
    (∀ frame starts nowUs b,
      ((history factory steps).1.submit frame starts nowUs).1 = .error b →
        b.frame = frame ∧
          ((history factory steps).1.submit frame starts nowUs).2 = (history factory steps).1) ∧
    ∀ (factory' : DecoderFactory X D) (steps' : List (DecodeStep X)),
      factory v = factory' v → steps.filter (concerns v) = steps'.filter (concerns v) →
        (history factory steps).1.view v = (history factory' steps').1.view v ∧
          acceptedFor factory steps v = acceptedFor factory' steps' v := by
  refine ⟨((history_inv h).2.2 v).accounted, accepted_in_order, ?_, ?_⟩
  · intro frame starts nowUs b hrefused
    obtain ⟨hframe, -, hstate⟩ := refused_intact hrefused
    exact ⟨hframe, hstate⟩
  · intro factory' steps' hfactory hsteps
    exact views_agree hfactory hsteps

end Pipeline

end DecodePipeline

/-- A decoder that does as its input says. -/
structure ScriptedDecoder where
  codec : UInt8

/-- What a scripted decoder makes of a frame; with `none` it panics. -/
abbrev ScriptedOutcome := Option (Except FrameDecodeError (Option FrameData))

instance : FrameDecoder ScriptedOutcome ScriptedDecoder where
  codec := ScriptedDecoder.codec
  decode outcome decoder _ := outcome.map fun result => (result, decoder)

def scriptedFactory : DecoderFactory ScriptedOutcome ScriptedDecoder :=
  fun _ _ codec => .ok { codec }

namespace DecodePipeline

/-- A frame of H.264 for the first window. -/
def codedFrame (frameId : UInt64) : FrameData :=
  { windowId := 1, frameId, codec := 2, flags := 0, width := 2, height := 2, capturedUs := 0
    encodedUs := 0, data := [] }

/-- Two frames; the decoder panics on the first and makes a picture of the second. -/
def panicSteps : List (DecodeStep ScriptedOutcome) :=
  [.submit (codedFrame 1) true 0, .submit (codedFrame 2) true 0, .work 1 0 none 0,
    .work 1 0 none 5, .work 1 0 none 5, .work 1 0 (some (.ok (some (codedFrame 2)))) 9,
    .work 1 0 none 9]

/-- The frame of the panic is reported dropped, and the next one is shown. -/
theorem pipeline_accounts_panic :
    Lawful Orderly panicSteps ∧
      ((history scriptedFactory panicSteps).1.view 1).Drained ∧
      (history scriptedFactory panicSteps).1.reports =
        [.dropped 1 1 5, .decoded 1 2 9] ∧
      ∃ results, Accounted scriptedFactory 1 ((history scriptedFactory panicSteps).1.view 1)
        (acceptedFor scriptedFactory panicSteps 1) results := by
  have hwork : ∀ a ∈ panicSteps.drop 2, ∀ before, Orderly before a := by
    intro a ha before
    simp only [panicSteps, List.drop_succ_cons, List.drop_zero, List.mem_cons, List.not_mem_nil,
      or_false] at ha
    rcases ha with rfl | rfl | rfl | rfl | rfl
    all_goals exact orderly_work _ _ _ _ _
  have horderly : Lawful Orderly panicSteps :=
    ((Lawful.nil.snoc (orderly_submit (by simp) true 0)).snoc
      (orderly_submit (by simp) true 0)).append hwork
  refine ⟨horderly, ?_, by decide +kernel, (pipeline_accounts scriptedFactory horderly 1).1⟩
  intro worker hworker
  have hthreads : ((history scriptedFactory panicSteps).1.view 1).lane.threads =
      [{ queue := [], decoder := some ⟨2⟩, phase := .waiting }] := by
    rfl
  rw [hthreads, List.mem_singleton] at hworker
  rw [hworker]
  exact ⟨rfl, .inl rfl⟩

end DecodePipeline

end Oxrdp
