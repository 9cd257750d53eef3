import Oxrdp.Agent.Keyframes
import Oxrdp.Agent.Lifecycle
import Oxrdp.Agent.Turns

/-!
# The times of a frame

Every frame carries two readings of the agent's clock: when it was captured and when its
picture was ready.  A turn takes the first one before the second, and turns follow each
other.  So with a clock that never goes back no picture is ready before it was captured, and
within a window the frame ids go up and the second reading with them (`sent_in_order`).
-/

namespace Oxrdp

open Effect Log Machine

/-- The agent's clock never goes back. -/
def Env.Monotonic (env : Env) : Prop := ∀ i j, i ≤ j → env.clock i ≤ env.clock j

section Stamps

variable {W E I : Type} {cfg : Config}

/-! ## Looks at the world -/

/-- The writer's moves take one look at most. -/
theorem writerRuns_looks : Rises Session.looks (writerRuns cfg : Act W E I Unit) :=
  rises_modify fun s => Nat.le_succ s.looks

/-- The clock is looked at once. -/
theorem elapsedUs_looks : Rises Session.looks (elapsedUs cfg : Act W E I UInt64) :=
  fun _ _ hs => Nat.le_succ_of_le hs

/-- Queueing looks at most once. -/
theorem queueRaw_looks (k : OutboundChunk) :
    Rises Session.looks (queueRaw cfg k : Act W E I Unit) := by
  refine writerRuns_looks.bind fun _ => rises_looking fun s => ?_
  by_cases hclosed : s.outbound.closed = true
  · rw [if_pos hclosed]
    exact le_rfl
  rw [if_neg hclosed]
  by_cases hfull : s.outbound.queued.length ≥ outboundQueueCapacity
  · rw [if_pos hfull]
    exact le_rfl
  · rw [if_neg hfull]
    exact le_rfl

/-- The looks go on over a message that is sent. -/
theorem send_looks (msg : Message) (ch : UInt16) :
    Rises Session.looks (send cfg msg ch : Act W E I Unit) := by
  unfold send
  cases msg.encodeBody with
  | error e => exact rises_throw _
  | ok body => exact queueRaw_looks _

/-- A handle is tracked without a look. -/
theorem track_looks (handle : Handle) :
    Rises Session.looks (track handle : Act W E I (TrackedWindow × Bool)) := by
  refine rises_looking fun s => ?_
  cases s.registry.track handle with
  | error e => exact le_rfl
  | ok r => exact le_rfl

/-- Looks at the clock go on while a window is told of. -/
theorem updateWindow_looks (id : UInt32) (w : SourceWindow) (st : WindowStream) :
    Rises Session.looks (updateWindow cfg id w st : Act W E I Unit) := by
  have hput : ∀ st, Rises Session.looks (putStream id st : Act W E I Unit) :=
    fun st => (putStream_looks id st).rises
  have htitle : Rises Session.looks (syncTitle cfg id w st : Act W E I WindowStream) :=
    rises_ite ((hput _).bind fun _ => (send_looks _ _).bind fun _ => rises_pure _)
      (rises_pure _)
  have hstate : ∀ st, Rises Session.looks (syncState cfg id w st : Act W E I WindowStream) :=
    fun st => rises_ite ((hput _).bind fun _ => (send_looks _ _).bind fun _ => rises_pure _)
      (rises_pure _)
  have hgeometry : ∀ flip st,
      Rises Session.looks (syncGeometry cfg id w flip st : Act W E I Unit) :=
    fun flip st => rises_ite ((hput _).bind fun _ => send_looks _ _) (rises_pure _)
  exact htitle.bind fun st => (hstate st).bind fun st =>
    rises_ite (rises_pure _) (hgeometry _ st)

/-- They go on over a window of the snapshot. -/
theorem syncWindow_looks (w : SourceWindow) :
    Rises Session.looks (syncWindow cfg w : Act W E I Unit) := by
  refine (track_looks w.handle).bind fun r => rises_ite ?_ ?_
  · exact (send_looks _ _).bind fun _ => (putStream_looks _ _).rises
  · refine keeps_get.rises.bind fun s => ?_
    cases s.streams.lookup r.1.windowId with
    | none => exact rises_pure _
    | some st => exact updateWindow_looks _ w st

/-- They go on over a window that has gone. -/
theorem closeWindow_looks [FrameEncoder E] (gone : TrackedWindow) :
    Rises Session.looks (closeWindow cfg gone : Act W E I Unit) := by
  intro c
  refine Triple.bind (R := fun a s => a = s ∧ c ≤ s.looks) (triple_get fun s hs => ⟨rfl, hs⟩)
    fun a => ?_
  cases a.streams.lookup gone.windowId with
  | none =>
      exact (send_looks _ _ c).conseq (fun s hs => hs.2) (fun _ s hs => hs) fun _ s hs => hs
  | some st =>
      refine Triple.bind (R := fun _ s => c ≤ s.looks) (triple_set fun s hs => ?_) fun _ =>
        send_looks _ _ c
      obtain ⟨rfl, hs⟩ := hs
      exact hs

/-- Window sync only adds to the looks taken. -/
theorem syncWindows_looks [WindowSource W] [FrameEncoder E] :
    Rises Session.looks (syncWindows cfg : Act W E I Unit) := by
  have hlive : Rises Session.looks (liveWindows : Act W E I (List SourceWindow)) :=
    fun _ _ hs => hs
  have hretain : ∀ handles,
      Rises Session.looks (retainLive handles : Act W E I (List TrackedWindow)) :=
    fun _ _ _ hs => hs
  exact hlive.bind fun live => (rises_forM syncWindow_looks).bind fun _ =>
    (hretain _).bind fun gone => rises_forM closeWindow_looks

/-- The looks go on over a message of the client. -/
theorem onMessage_looks [InputSink I] (m : Message) :
    Rises Session.looks (onMessage cfg m : Act W E I Unit) := by
  have hinject : ∀ f : I → I, Rises Session.looks (inject f : Act W E I Unit) :=
    fun f => rises_modify fun s => le_rfl
  have hnone : Rises Session.looks (pure () : Act W E I Unit) := rises_pure _
  cases m with
  | frameAck ack =>
      refine keeps_get.rises.bind fun s => ?_
      cases s.streams.lookup ack.windowId with
      | none => exact hnone
      | some st => exact (putStream_looks _ _).rises
  | close => exact rises_throw _
  | ping p => exact elapsedUs_looks.bind fun _ => send_looks _ _
  | pointerEvent p =>
      refine keeps_get.rises.bind fun s => ?_
      cases s.streams.lookup p.windowId with
      | none => exact hnone
      | some st => exact hinject _
  | keyEvent k =>
      exact hinject fun sink =>
        InputSink.keyEvent sink k.scancode (k.flags &&& KeyFlag.extended != 0) k.isPressed
  | textInput => exact rises_ite (hinject _) (hnone)
  | modifierSync k =>
      exact hinject fun sink => InputSink.modifierSync sink k.modifiers k.locks
  | windowControl w =>
      refine rises_ite (keeps_get.rises.bind fun s => ?_) (hnone)
      cases s.streams.lookup w.windowId with
      | none => exact hnone
      | some st => exact hinject _
  | _ => exact hnone

/-! ## The numbers of frames -/

/-- Frames of a window are numbered upwards, below the number that its budget has next. -/
structure Numbered (v : View) : Prop where
  increasing : (framesOf v.told).Pairwise fun f g => f.windowId = g.windowId → f.frameId < g.frameId
  below : ∀ st f, f ∈ framesOf v.told → v.streams f.windowId = some st →
    f.frameId < st.budget.nextFrameId
  opened : ∀ f ∈ framesOf v.told, f.windowId.toNat < v.nextId

/-- At the start no frame has a number. -/
theorem Numbered.start : Numbered View.start where
  increasing := List.Pairwise.nil
  below := by
    intro st f hf
    cases hf
  opened := by
    intro f hf
    cases hf

/-- Whatever sends no frame and turns no budget back keeps the numbers. -/
theorem Numbered.quiet {v v' : View} (h : Numbered v)
    (htold : framesOf v'.told = framesOf v.told) (hnext : v.nextId ≤ v'.nextId)
    (hback : ∀ id st', id.toNat < v.nextId → v'.streams id = some st' →
      ∃ st, v.streams id = some st ∧ st.budget.nextFrameId = st'.budget.nextFrameId) :
    Numbered v' where
  increasing := by
    rw [htold]
    exact h.increasing
  below := by
    intro st' f hf hst'
    rw [htold] at hf
    obtain ⟨st, hst, hsame⟩ := hback f.windowId st' (h.opened f hf) hst'
    rw [← hsame]
    exact h.below st f hf hst
  opened := by
    intro f hf
    rw [htold] at hf
    exact (h.opened f hf).trans_le hnext

/-- A window of the snapshot sends no frames, and a new one begins to count. -/
theorem Numbered.sync {v v' : View} {w : SourceWindow} (h : Numbered v)
    (hstep : SyncStep cfg w v v') : Numbered v' := by
  have htold : framesOf v'.told = framesOf v.told := by
    obtain ⟨sent, hsent, haside⟩ := hstep.tells
    rw [hsent, framesOf_append, framesOf_asides haside, List.append_nil]
  cases hstep with
  | opened t hnew hid _ _ =>
      refine h.quiet htold (Nat.le_succ _) ?_
      intro id st' hlt hst'
      have hne : id ≠ t.windowId := by
        rintro rfl
        omega
      exact ⟨st', by simpa [Function.update_of_ne hne] using hst', rfl⟩
  | updated t st hw hst =>
      refine h.quiet htold le_rfl ?_
      intro id st' _ hst'
      have hsame : st.budget.nextFrameId = (updatedStream st w).budget.nextFrameId := by
        simp only [updatedStream]
        split
        · rfl
        · rfl
      exact View.setStream_back (R := fun a b => a.budget.nextFrameId = b.budget.nextFrameId)
        (fun _ => rfl) hst hsame hst'
  | skipped => exact h

/-- A frame gets the next number of its window. -/
theorem Numbered.frame {v v' : View} {id : UInt32} (h : Numbered v) (hc : v.Coupled)
    (hstep : FrameStep id v v') : Numbered v' := by
  obtain ⟨f, st, budget, needsKeyframe, rfl, hst, -, hcap, rfl⟩ := hstep
  obtain ⟨hself, hnext⟩ := FrameBudget.onCaptured_next hcap
  have htold : framesOf (v.told ++ [⟨st.videoChannel, .frameData f⟩]) = framesOf v.told ++ [f] :=
    framesOf_append _ _
  refine ⟨?_, ?_, ?_⟩
  · change (framesOf (v.told ++ [_])).Pairwise _
    rw [htold, List.pairwise_append]
    refine ⟨h.increasing, List.pairwise_singleton _ _, ?_⟩
    intro g hg f' hf' hsame
    cases List.mem_singleton.mp hf'
    rw [hself]
    exact h.below st g hg (hsame ▸ hst)
  · intro st' g hg hst'
    change g ∈ framesOf (v.told ++ [_]) at hg
    rw [htold, List.mem_append, List.mem_singleton] at hg
    rw [View.setStream_streams] at hst'
    have hup : ∀ k : UInt64, k ≤ st.budget.nextFrameId → k < budget.nextFrameId := by
      intro k hk
      rw [UInt64.le_iff_toNat_le] at hk
      rw [UInt64.lt_iff_toNat_lt]
      omega
    split at hst'
    · rename_i hid
      cases hst'
      rcases hg with hg | rfl
      · exact hup _ (UInt64.le_of_lt (h.below st g hg (hid ▸ hst)))
      · exact hup _ (hself ▸ UInt64.le_refl _)
    · rename_i hid
      rcases hg with hg | rfl
      · exact h.below st' g hg hst'
      · exact absurd rfl hid
  · intro g hg
    change g ∈ framesOf (v.told ++ [_]) at hg
    rw [htold, List.mem_append, List.mem_singleton] at hg
    rcases hg with hg | rfl
    · exact h.opened g hg
    · by_contra hfresh
      rw [hc.stream_fresh (Nat.le_of_not_lt hfresh)] at hst
      cases hst

/-- **Every move** keeps the numbers of each window in order. -/
theorem Move.numbered {v v' : View} (h : Move cfg v v') (hc : v.Coupled) (hv : Numbered v) :
    Numbered v' := by
  cases h with
  | sync w h => exact hv.sync h
  | close live h =>
      obtain ⟨gone, -, -, rfl⟩ := h
      refine hv.quiet ?_ le_rfl ?_
      · change framesOf (v.told ++ gone.map closedMessage) = _
        rw [framesOf_append, framesOf_closed, List.append_nil]
      · intro id st' _ hst'
        simp only [View.closing] at hst'
        split at hst'
        · cases hst'
        · exact ⟨st', hst', rfl⟩
  | frame id h => exact hv.frame hc h
  | ack id frameId =>
      refine hv.quiet rfl le_rfl ?_
      intro k st' _ hst'
      rw [View.ack, View.setStream_streams] at hst'
      split at hst'
      · rename_i hid
        obtain ⟨st, hst, rfl⟩ := Option.map_eq_some_iff.mp hst'
        exact ⟨st, hid ▸ hst, rfl⟩
      · exact ⟨st', hst', rfl⟩
  | pong p =>
      refine hv.quiet ?_ le_rfl fun id st' _ hst' => ⟨st', hst', rfl⟩
      change framesOf (v.told ++ [_]) = _
      rw [framesOf_append]
      exact List.append_nil _

/-- The frames of a window that a run has sent are numbered upwards. -/
theorem drive_numbered [WindowSource W] [FrameEncoder E] [InputSink I] (source : W)
    (encoder : E) (sink : I) (events : List Event) :
    (framesOf (leftBy ((drive cfg events).run
      (Session.start source encoder sink))).outbound.told).Pairwise
        fun f g => f.windowId = g.windowId → f.frameId < g.frameId := by
  obtain ⟨v, hmoves, htold⟩ : ∃ v, Relation.ReflTransGen (Move cfg) View.start v ∧
      (leftBy ((drive cfg events).run (Session.start source encoder sink))).outbound.told <+:
        v.told := drive_told (start_at source encoder sink).2
  have hnumbered : Numbered v := by
    clear htold
    induction hmoves with
    | refl => exact .start
    | tail hmoves hmove ih => exact hmove.numbered (moves_ledger hmoves).1 ih
  exact hnumbered.increasing.sublist (htold.sublist.filterMap _)

/-! ## The times of encoding -/

section Clocked

variable [WindowSource W] [FrameEncoder E]

/-- The frames shipped so far were ready at earlier looks, one after the other. -/
structure Clocked (cfg : Config) (turns : List (UInt32 × Session W E I))
    (s : Session W E I) : Prop where
  past : ∀ f ∈ shippedBy cfg turns, ∃ k < s.looks, f.encodedUs = cfg.env.clock k
  rising : (shippedBy cfg turns).Pairwise fun f g => f.encodedUs ≤ g.encodedUs

/-- At the start no turn has been taken. -/
theorem Clocked.start (s : Session W E I) : Clocked cfg [] s where
  past := by
    intro f hf
    cases hf
  rising := List.Pairwise.nil

/-- A later state has looked at the clock at least as often. -/
theorem Clocked.later {turns : List (UInt32 × Session W E I)} {s s' : Session W E I}
    (h : Clocked cfg turns s) (hle : s.looks ≤ s'.looks) : Clocked cfg turns s' where
  past := by
    intro f hf
    obtain ⟨k, hk, hus⟩ := h.past f hf
    exact ⟨k, by omega, hus⟩
  rising := h.rising

/-- One turn adds at most one frame, which was not ready before the others. -/
theorem Clocked.turn (hclock : cfg.env.Monotonic) {turns : List (UInt32 × Session W E I)}
    {id : UInt32} {s s' : Session W E I} (h : Clocked cfg turns s)
    (hships : Shipped cfg s.looks s.outbound.told (s.shipped cfg id) s') :
    Clocked cfg (turns ++ [(id, s)]) s' := by
  obtain ⟨-, hlooks, hready⟩ := hships
  refine ⟨?_, ?_⟩
  · intro f hf
    rw [shippedBy_append, shippedBy_single, List.mem_append, Option.mem_toList] at hf
    rcases hf with hf | hf
    · obtain ⟨k, hk, hus⟩ := h.past f hf
      exact ⟨k, by omega, hus⟩
    · obtain ⟨k, -, hk, hus⟩ := hready f hf
      exact ⟨k, hk, hus⟩
  · rw [shippedBy_append, shippedBy_single, List.pairwise_append]
    refine ⟨h.rising, ?_, ?_⟩
    · cases s.shipped cfg id with
      | none => exact List.Pairwise.nil
      | some f => exact List.pairwise_singleton _ _
    · intro f hf g hg
      rw [Option.mem_toList] at hg
      obtain ⟨k, hk, hus⟩ := h.past f hf
      obtain ⟨m, hm, -, hus'⟩ := hready g hg
      rw [hus, hus']
      exact hclock k m (by omega)

/-- **Every turn** looks at the clock after those before it. -/
theorem clocked_inv [InputSink I] (hclock : cfg.env.Monotonic) :
    TurnInv (W := W) (E := E) (I := I) cfg
      (fun turns s => Fed (fun _ _ => True) s ∧ Clocked cfg turns s)
      (fun turns s => Clocked cfg turns s) := by
  have hquiet : ∀ x : Act W E I Unit,
      Triple (Fed fun _ _ => True) x (fun _ => Fed fun _ _ => True)
        (FedCut fun _ _ _ => True) → Rises Session.looks x →
      Traces (fun turns s => Fed (fun _ _ => True) s ∧ Clocked cfg turns s) (fun _ => []) x
        (fun turns s => Clocked cfg turns s) := by
    intro x hfed hlooks
    refine traces_silent fun before s hs => ?_
    have hboth := (hfed.and (hlooks s.looks)) s ⟨hs.1, le_rfl⟩
    cases hrun : x.run s with
    | ok u s' =>
        rw [hrun] at hboth
        exact ⟨hboth.1, hs.2.later hboth.2⟩
    | error stop s' =>
        rw [hrun] at hboth
        exact hs.2.later hboth.2
  refine ⟨hquiet _ (syncWindows_fed (fed_inv cfg)) syncWindows_looks, ?_,
    fun m => hquiet _ (onMessage_fed (fed_inv cfg) m) (onMessage_looks m), fun h => h.2⟩
  intro id before s hs
  obtain ⟨hfed, hclocked⟩ := hs
  have hboth := ((pumpWindow_ships hfed.1 id).and (pumpWindow_fed (fed_inv cfg) id)) s
    ⟨rfl, rfl, hfed⟩
  cases hrun : (pumpWindow cfg id).run s with
  | ok u s' =>
      rw [hrun] at hboth
      exact ⟨hboth.2, hclocked.turn hclock hboth.1⟩
  | error stop s' =>
      rw [hrun] at hboth
      exact hclocked.turn hclock hboth.1

/-- A picture is ready no earlier than it was captured. -/
theorem shipped_times (hclock : cfg.env.Monotonic) {s : Session W E I} {id : UInt32}
    {f : FrameData} (h : s.shipped cfg id = some f) : f.capturedUs ≤ f.encodedUs := by
  obtain ⟨st, frame, picture, frameId, -, hpicture, rfl⟩ := shipped_picture h
  unfold pictureOf at hpicture
  split at hpicture
  · obtain ⟨u, -, rfl⟩ := Option.map_eq_some_iff.mp hpicture
    exact hclock _ _ (Nat.le_succ _)
  · split at hpicture
    · cases hpicture
    · cases hpicture
      exact UInt64.le_refl _

omit [WindowSource W] [FrameEncoder E] in
/-- In a list with rising ids and times the lower id has the earlier time. -/
theorem in_order_of_rising {frames : List FrameData}
    (hids : frames.Pairwise fun f g => f.windowId = g.windowId → f.frameId < g.frameId)
    (htimes : frames.Pairwise fun f g => f.encodedUs ≤ g.encodedUs) {f g : FrameData}
    (hf : f ∈ frames) (hg : g ∈ frames) (hwindow : f.windowId = g.windowId)
    (hid : f.frameId < g.frameId) : f.encodedUs ≤ g.encodedUs := by
  obtain ⟨i, hi, rfl⟩ := List.getElem_of_mem hf
  obtain ⟨j, hj, rfl⟩ := List.getElem_of_mem hg
  rcases Nat.lt_trichotomy i j with hij | rfl | hji
  · exact List.pairwise_iff_getElem.mp htimes i j hi hj hij
  · exact absurd hid (UInt64.lt_irrefl _)
  · have hback := List.pairwise_iff_getElem.mp hids j i hj hi hji hwindow.symm
    exact absurd hback (UInt64.lt_asymm hid)

/-- **Ids and times agree.**  Of two frames of one window that a run has sent, the one with
the lower id was ready no later. -/
theorem sent_in_order [InputSink I] (hclock : cfg.env.Monotonic) (source : W) (encoder : E)
    (sink : I) (events : List Event) {f g : FrameData}
    (hf : f ∈ framesOf (leftBy ((drive cfg events).run
      (Session.start source encoder sink))).outbound.told)
    (hg : g ∈ framesOf (leftBy ((drive cfg events).run
      (Session.start source encoder sink))).outbound.told)
    (hwindow : f.windowId = g.windowId) (hid : f.frameId < g.frameId) :
    f.encodedUs ≤ g.encodedUs := by
  refine in_order_of_rising (drive_numbered source encoder sink events) ?_ hf hg hwindow hid
  rw [drive_shipped]
  have hrun := (clocked_inv hclock).drive events [] (Session.start source encoder sink)
    ⟨⟨WindowRegistry.new_wellFormed, .start, trivial⟩, .start _⟩
  cases hdrive : (drive cfg events).run (Session.start source encoder sink) with
  | ok u s =>
      rw [hdrive] at hrun
      exact hrun.2.rising
  | error stop s =>
      rw [hdrive] at hrun
      exact hrun.rising

end Clocked

end Stamps

end Oxrdp
