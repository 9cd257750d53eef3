import Oxrdp.Agent.View

/-!
# The driver refines the moves on views

One lemma for each function of the driver says which move it makes.  `At v` is
a session whose view is `v`; a function that fails leaves a session behind that
has told the client a prefix of what the move would have told it.
-/

namespace Oxrdp

open Effect Machine

section Refinement

variable {W E I : Type}

/-- What matters of a session to its client. -/
def Session.view (s : Session W E I) : View :=
  { told := s.outbound.told
    windows := fun h => s.registry.handleToWindow.lookup h
    nextId := s.registry.nextWindowId.toNat
    streams := fun id => s.streams.lookup id }

/-- A session with view `v` and a registry in order. -/
def At (v : View) (s : Session W E I) : Prop := s.view = v ∧ s.registry.WellFormed

/-- A session that stopped after telling a part of what `v` tells. -/
def Cut (v : View) (_ : Stop) (s : Session W E I) : Prop := s.view.told <+: v.told

variable {cfg : Config} {v : View} {X : Stop → Session W E I → Prop}

/-- A session at a view has told what any earlier view had. -/
theorem At.cut {s : Session W E I} (h : At v s) {v' : View} (hpre : v.told <+: v'.told) :
    s.view.told <+: v'.told := by
  rw [h.1]
  exact hpre

/-! ## The queue and the clock -/

/-- The writer's moves are nothing that a view shows. -/
theorem writerRuns_at :
    Triple (At v) (writerRuns cfg : Act W E I Unit) (fun _ => At v) X := by
  apply triple_modify
  intro s hs
  obtain ⟨rfl, hreg⟩ := hs
  refine ⟨?_, hreg⟩
  simp [Session.view, Outbound.told_move]

theorem get_at :
    Triple (At v) (get : Act W E I (Session W E I)) (fun a s => a = s ∧ At v s) X :=
  triple_get fun _ hs => ⟨rfl, hs⟩

/-- Reading the time changes nothing in the view. -/
theorem elapsedUs_at :
    Triple (At v) (elapsedUs cfg : Act W E I UInt64) (fun _ => At v) X := by
  refine get_at.bind fun a => ?_
  refine Triple.bind (R := fun _ => At v) (triple_set ?_) fun _ => triple_pure fun s hs => hs
  intro s hs
  obtain ⟨rfl, hs⟩ := hs
  exact hs

/-- A chunk on the queue is a message told; a refused one leaves no trace. -/
theorem queueRaw_at {k : OutboundChunk} {sent : Sent} (hk : k.carried = some sent) :
    Triple (At v) (queueRaw cfg k : Act W E I Unit) (fun _ => At (v.tell [sent]))
      (fun _ => At v) := by
  refine writerRuns_at.bind fun _ => get_at.bind fun a => ?_
  split
  · exact triple_throw fun s hs => hs.2
  split
  · exact triple_throw fun s hs => hs.2
  · apply triple_set
    intro s hs
    obtain ⟨rfl, rfl, hreg⟩ := hs
    refine ⟨?_, hreg⟩
    simp [Session.view, View.tell, Outbound.told_push hk]

/-- **Sending** tells one message more, or stops with nothing told. -/
theorem send_at {m : Message} (hfit : m.CountsFit) (ch : UInt16) :
    Triple (At v) (send cfg m ch : Act W E I Unit) (fun _ => At (v.tell [⟨ch, m⟩]))
      (fun _ => At v) := by
  unfold send
  cases hbody : m.encodeBody with
  | error e => exact triple_throw fun s hs => hs
  | ok body => exact queueRaw_at (carried_of_encodeBody hfit hbody)

/-- A table entry is one change of the view. -/
theorem putStream_at (id : UInt32) (st : WindowStream) :
    Triple (At v) (putStream id st : Act W E I Unit)
      (fun _ => At (v.setStream id (some st))) X := by
  apply triple_modify
  intro s hs
  obtain ⟨rfl, hreg⟩ := hs
  refine ⟨?_, hreg⟩
  apply View.ext
  · rfl
  · rfl
  · rfl
  · funext k
    rw [View.setStream_streams]
    exact Table.lookup_insert_ite s.streams id k st

/-! ## Looking at the queue -/

/-- The queue as the next message or frame finds it. -/
def Session.queueNow (cfg : Config) (s : Session W E I) : Outbound :=
  s.outbound.move (cfg.env.writer s.looks)

/-- A session that has looked at its queue. -/
def Session.looked (cfg : Config) (s : Session W E I) : Session W E I :=
  { s with outbound := s.queueNow cfg, looks := s.looks + 1 }

/-- Queueing by cases: the queue is closed, it is full, or it takes the chunk. -/
theorem queueRaw_run (s : Session W E I) (k : OutboundChunk) :
    (queueRaw cfg k).run s =
      if (s.queueNow cfg).closed then .error (.fault .brokenPipe) (s.looked cfg)
      else if (s.queueNow cfg).queued.length ≥ outboundQueueCapacity then
        .error (.fault .wouldBlock) (s.looked cfg)
      else .ok ⟨⟩ { s.looked cfg with outbound := (s.queueNow cfg).push k } := by
  change (if (s.queueNow cfg).closed then throw (.fault .brokenPipe)
    else if (s.queueNow cfg).queued.length ≥ outboundQueueCapacity then
      throw (.fault .wouldBlock)
    else set { s.looked cfg with outbound := (s.queueNow cfg).push k } : Act W E I Unit)
      (s.looked cfg) = _
  by_cases hclosed : (s.queueNow cfg).closed = true
  · rw [if_pos hclosed, if_pos hclosed]
    rfl
  rw [if_neg hclosed, if_neg hclosed]
  by_cases hfull : (s.queueNow cfg).queued.length ≥ outboundQueueCapacity
  · rw [if_pos hfull, if_pos hfull]
    rfl
  · rw [if_neg hfull, if_neg hfull]
    rfl

/-- Reserving by cases: the queue is closed, or the answer is whether there is room. -/
theorem reserveFrameSlot_run (s : Session W E I) :
    (reserveFrameSlot cfg).run s =
      if (s.queueNow cfg).closed then .error (.fault .brokenPipe) (s.looked cfg)
      else
        .ok (decide ((s.queueNow cfg).queued.length < outboundQueueCapacity))
          (s.looked cfg) := by
  change (if (s.queueNow cfg).closed then throw (.fault .brokenPipe)
    else pure (decide ((s.queueNow cfg).queued.length < outboundQueueCapacity)) :
      Act W E I Bool) (s.looked cfg) = _
  by_cases hclosed : (s.queueNow cfg).closed = true
  · rw [if_pos hclosed, if_pos hclosed]
    rfl
  · rw [if_neg hclosed, if_neg hclosed]
    rfl

/-! ## What the queue, the clock and the streams leave alone -/

/-- The parts of the platform. -/
def Session.platform (s : Session W E I) : W × E × I := (s.source, s.encoder, s.sink)

/-- The writer's moves are none of source, encoder and sink. -/
theorem writerRuns_platform :
    Keeps Session.platform (writerRuns cfg : Act W E I Unit) :=
  keeps_modify fun _ => rfl

theorem elapsedUs_platform : Keeps Session.platform (elapsedUs cfg : Act W E I UInt64) :=
  fun _ _ hs => hs

/-- The driver's tables are not the platform. -/
theorem putStream_platform (id : UInt32) (st : WindowStream) :
    Keeps Session.platform (putStream id st : Act W E I Unit) :=
  keeps_modify fun _ => rfl

/-- A slot is asked of the queue only. -/
theorem reserveFrameSlot_platform :
    Keeps Session.platform (reserveFrameSlot cfg : Act W E I Bool) :=
  writerRuns_platform.bind fun _ => keeps_get.bind fun _ =>
    keeps_ite (keeps_throw _) (keeps_pure _)

/-- A chunk goes into the queue only. -/
theorem queueRaw_platform (k : OutboundChunk) :
    Keeps Session.platform (queueRaw cfg k : Act W E I Unit) := by
  intro c s hs
  rw [queueRaw_run]
  by_cases hclosed : (s.queueNow cfg).closed = true
  · rw [if_pos hclosed]
    exact hs
  rw [if_neg hclosed]
  by_cases hfull : (s.queueNow cfg).queued.length ≥ outboundQueueCapacity
  · rw [if_pos hfull]
    exact hs
  · rw [if_neg hfull]
    exact hs

/-- A message goes into the queue only. -/
theorem send_platform (msg : Message) (ch : UInt16) :
    Keeps Session.platform (send cfg msg ch : Act W E I Unit) := by
  unfold send
  cases msg.encodeBody with
  | error e => exact keeps_throw _
  | ok body => exact queueRaw_platform _

/-- A handle is tracked by the registry only. -/
theorem track_platform (handle : Handle) :
    Keeps Session.platform (track handle : Act W E I (TrackedWindow × Bool)) := by
  refine keeps_looking fun s => ?_
  cases s.registry.track handle with
  | error e => rfl
  | ok r => rfl

/-- What is told of a window asks nothing of the platform. -/
theorem updateWindow_platform (id : UInt32) (w : SourceWindow) (st : WindowStream) :
    Keeps Session.platform (updateWindow cfg id w st : Act W E I Unit) := by
  have htitle : Keeps Session.platform (syncTitle cfg id w st : Act W E I WindowStream) :=
    keeps_ite ((putStream_platform _ _).bind fun _ => (send_platform _ _).bind fun _ =>
      keeps_pure _) (keeps_pure _)
  have hstate : ∀ st, Keeps Session.platform (syncState cfg id w st : Act W E I WindowStream) :=
    fun st => keeps_ite ((putStream_platform _ _).bind fun _ => (send_platform _ _).bind fun _ =>
      keeps_pure _) (keeps_pure _)
  have hgeometry : ∀ flip st,
      Keeps Session.platform (syncGeometry cfg id w flip st : Act W E I Unit) :=
    fun flip st => keeps_ite ((putStream_platform _ _).bind fun _ => send_platform _ _)
      (keeps_pure _)
  exact htitle.bind fun st => (hstate st).bind fun st =>
    keeps_ite (keeps_pure _) (hgeometry _ st)

/-- Bringing the client up to date asks nothing of the platform. -/
theorem syncWindow_platform (w : SourceWindow) :
    Keeps Session.platform (syncWindow cfg w : Act W E I Unit) := by
  refine (track_platform w.handle).bind fun r => keeps_ite ?_ ?_
  · exact (send_platform _ _).bind fun _ => putStream_platform _ _
  · refine keeps_get.bind fun s => ?_
    cases s.streams.lookup r.1.windowId with
    | none => exact keeps_pure _
    | some st => exact updateWindow_platform _ w st

/-- Putting a message on the queue does not touch the encoder. -/
theorem send_encoder (msg : Message) (ch : UInt16) :
    Keeps Session.encoder (send cfg msg ch : Act W E I Unit) :=
  (send_platform msg ch).part fun p => p.2.1

/-! ## Window sync -/

/-- A title is told and kept where it has changed. -/
theorem syncTitle_at {id : UInt32} {w : SourceWindow} {st : WindowStream}
    (hst : v.streams id = some st) :
    Triple (At v) (syncTitle cfg id w st : Act W E I WindowStream)
      (fun st' s => st' = { st with title := w.title } ∧
        At ((v.tell (titleMessages id st w)).setStream id (some { st with title := w.title })) s)
      (Cut v) := by
  unfold syncTitle titleMessages
  split
  · refine (putStream_at id _).bind fun _ => Triple.bind
      (R := fun _ => At ((v.tell [onWindow (.windowTitle ⟨id, w.title⟩)]).setStream id
        (some { st with title := w.title }))) ?_ fun _ => triple_pure fun s hs => ⟨rfl, hs⟩
    refine (send_at (m := .windowTitle ⟨id, w.title⟩) trivial Channel.window).conseq
      (fun s hs => hs) (fun _ s hs => ?_) (fun e s hs => ?_)
    · rw [View.setStream_tell] at hs
      exact hs
    · exact hs.cut List.prefix_rfl
  · rename_i hsame
    refine triple_pure fun s hs => ?_
    have heq : ({ st with title := w.title } : WindowStream) = st := by
      rw [← not_not.mp hsame]
    rw [heq, View.tell_nil, View.setStream_self hst]
    exact ⟨rfl, hs⟩

/-- A show state and its flags are told and kept where they have changed. -/
theorem syncState_at {id : UInt32} {w : SourceWindow} {st : WindowStream}
    (hst : v.streams id = some st) :
    Triple (At v) (syncState cfg id w st : Act W E I WindowStream)
      (fun st' s => st' = { st with showState := showState w, flags := windowFlags w } ∧
        At ((v.tell (stateMessages id st w)).setStream id
          (some { st with showState := showState w, flags := windowFlags w })) s)
      (Cut v) := by
  unfold syncState stateMessages
  split
  · refine (putStream_at id _).bind fun _ => Triple.bind
      (R := fun _ => At ((v.tell
        [onWindow (.windowState ⟨id, showState w, windowFlags w⟩)]).setStream id
        (some { st with showState := showState w, flags := windowFlags w })))
      ?_ fun _ => triple_pure fun s hs => ⟨rfl, hs⟩
    refine (send_at (m := .windowState ⟨id, showState w, windowFlags w⟩) trivial
      Channel.window).conseq (fun s hs => hs) (fun _ s hs => ?_) (fun e s hs => ?_)
    · rw [View.setStream_tell] at hs
      exact hs
    · exact hs.cut List.prefix_rfl
  · rename_i hsame
    refine triple_pure fun s hs => ?_
    rw [not_or, not_not, not_not] at hsame
    have heq : ({ st with showState := showState w, flags := windowFlags w } : WindowStream) =
        st := by
      rw [← hsame.1, ← hsame.2]
    rw [heq, View.tell_nil, View.setStream_self hst]
    exact ⟨rfl, hs⟩

/-- What is remembered after the bounds have been reported. -/
def movedStream (st : WindowStream) (w : SourceWindow) : WindowStream :=
  { st with
    geometry := w.geometry
    budget := st.budget.restart
    needsKeyframe := st.needsKeyframe ||
      decide ((st.geometry.width, st.geometry.height) ≠ (w.width, w.height)) }

/-- A geometry is told where it has changed, or where the frame of the window has. -/
theorem syncGeometry_at {id : UInt32} {w : SourceWindow} {flip : Bool}
    {st : WindowStream} :
    Triple (At v) (syncGeometry cfg id w flip st : Act W E I Unit)
      (fun _ => At (if st.geometry ≠ w.geometry ∨ flip = true then
        (v.tell [onWindow (.windowGeometry ⟨id, w.x, w.y, w.width, w.height⟩)]).setStream id
          (some (movedStream st w)) else v))
      (Cut v) := by
  unfold syncGeometry
  split
  · refine (putStream_at id (movedStream st w)).bind fun _ => ?_
    refine (send_at (m := .windowGeometry ⟨id, w.x, w.y, w.width, w.height⟩) trivial
      Channel.window).conseq (fun s hs => hs) (fun _ s hs => ?_) (fun e s hs => ?_)
    · rw [View.setStream_tell] at hs
      exact hs
    · exact hs.cut List.prefix_rfl
  · exact triple_pure fun s hs => hs

/-- What is remembered once title, show state and flags have been reported. -/
def stateStream (st : WindowStream) (w : SourceWindow) : WindowStream :=
  { st with title := w.title, showState := showState w, flags := windowFlags w }

/-- Where no geometry is told, only title and state may change. -/
theorem updatedStream_kept {st : WindowStream} {w : SourceWindow}
    (h : movesGeometry st w = false) : updatedStream st w = stateStream st w := by
  have hgeom : (if w.minimized = true then st.geometry else w.geometry) = st.geometry := by
    by_cases hmin : w.minimized = true
    · rw [if_pos hmin]
    · simp only [movesGeometry, hmin, Bool.not_false, Bool.true_and, Bool.or_eq_false_iff,
        decide_eq_false_iff_not, not_not] at h
      rw [if_neg hmin, h.1]
  simp [updatedStream, stateStream, h, hgeom]

/-- Where it is told, the stream's geometry is that of the window. -/
theorem updatedStream_moved {st : WindowStream} {w : SourceWindow}
    (h : movesGeometry st w = true) :
    updatedStream st w = movedStream (stateStream st w) w := by
  have hmin : w.minimized = false := by
    cases hw : w.minimized with
    | false => rfl
    | true => simp [movesGeometry, hw] at h
  simp [updatedStream, movedStream, stateStream, h, hmin]

/-- The view once title, show state and flags of a window have been reported. -/
def View.stated (v : View) (id : UInt32) (st : WindowStream) (w : SourceWindow) : View :=
  (v.tell (titleMessages id st w ++ stateMessages id st w)).setStream id
    (some (stateStream st w))

/-- What a window has been told of by its state is a beginning of all that it is told. -/
theorem stated_told (v : View) (id : UInt32) (st : WindowStream) (w : SourceWindow) :
    (v.stated id st w).told <+: (v.tell (updateMessages id st w)).told :=
  ⟨geometryMessages id st w, by simp [View.stated, updateMessages]⟩

/-- Bounds that are not reported leave it at that. -/
theorem stated_kept {id : UInt32} {st : WindowStream} {w : SourceWindow}
    (h : movesGeometry st w = false) :
    (v.tell (updateMessages id st w)).setStream id (some (updatedStream st w)) =
      v.stated id st w := by
  simp [View.stated, updatedStream_kept h, updateMessages, geometryMessages, h]

/-- Bounds that are reported come last. -/
theorem stated_moved {id : UInt32} {st : WindowStream} {w : SourceWindow}
    (h : movesGeometry st w = true) :
    (v.tell (updateMessages id st w)).setStream id (some (updatedStream st w)) =
      ((v.stated id st w).tell
        [onWindow (.windowGeometry ⟨id, w.x, w.y, w.width, w.height⟩)]).setStream id
          (some (movedStream (stateStream st w) w)) := by
  rw [updatedStream_moved h]
  simp only [View.stated, View.setStream_tell, View.setStream_setStream, View.tell_tell]
  simp [updateMessages, geometryMessages, h]

/-- The bounds of a window that is not minimized come last. -/
theorem updateBounds_at {id : UInt32} {w : SourceWindow} {st : WindowStream} :
    Triple (At (v.stated id st w))
      (if w.minimized then pure ()
        else syncGeometry cfg id w (hasFrameChanged st w) (stateStream st w) : Act W E I Unit)
      (fun _ => At ((v.tell (updateMessages id st w)).setStream id
        (some (updatedStream st w))))
      (Cut (v.tell (updateMessages id st w))) := by
  have hgeometry : Triple (At (v.stated id st w))
      (syncGeometry cfg id w (hasFrameChanged st w) (stateStream st w) : Act W E I Unit) _
      (Cut (v.tell (updateMessages id st w))) :=
    syncGeometry_at.conseq (fun s hs => hs) (fun _ s hs => hs)
      fun e s hs => hs.trans (stated_told v id st w)
  cases hmin : w.minimized with
  | true =>
      have hkept : movesGeometry st w = false := by simp [movesGeometry, hmin]
      rw [if_pos rfl, stated_kept hkept]
      exact triple_pure fun s hs => hs
  | false =>
      have hmoves : movesGeometry st w = true ↔
          (stateStream st w).geometry ≠ w.geometry ∨ hasFrameChanged st w = true := by
        simp [movesGeometry, hmin, stateStream]
      rw [if_neg Bool.false_ne_true]
      refine hgeometry.conseq (fun s hs => hs) (fun _ s hs => ?_) (fun e s hs => hs)
      by_cases hm : movesGeometry st w = true
      · rw [if_pos (hmoves.mp hm)] at hs
        rw [stated_moved hm]
        exact hs
      · rw [if_neg (hmoves.not.mp hm)] at hs
        rw [stated_kept (Bool.eq_false_iff.mpr hm)]
        exact hs

/-- **A known window** is told what has changed, and its stream remembers that. -/
theorem updateWindow_at {id : UInt32} {w : SourceWindow} {st : WindowStream}
    (hst : v.streams id = some st) :
    Triple (At v) (updateWindow cfg id w st : Act W E I Unit)
      (fun _ => At ((v.tell (updateMessages id st w)).setStream id
        (some (updatedStream st w))))
      (Cut (v.tell (updateMessages id st w))) := by
  unfold updateWindow
  refine Triple.bind ((syncTitle_at hst).conseq (fun s hs => hs) (fun _ s hs => hs)
    (fun e s hs => hs.trans (by simp))) fun st₁ => triple_of_fact fun hst₁ => ?_
  subst hst₁
  have hput : ((v.tell (titleMessages id st w)).setStream id
      (some { st with title := w.title })).streams id = some { st with title := w.title } := by
    rw [View.setStream_streams, if_pos rfl]
  have htitle : (v.tell (titleMessages id st w)).told <+:
      (v.tell (updateMessages id st w)).told :=
    ⟨stateMessages id st w ++ geometryMessages id st w, by simp [updateMessages]⟩
  refine Triple.bind ((syncState_at hput).conseq (fun s hs => hs) (fun _ s hs => hs)
    (fun e s hs => hs.trans htitle)) fun st₂ => triple_of_fact fun hst₂ => ?_
  subst hst₂
  have hstated : (((v.tell (titleMessages id st w)).setStream id
      (some { st with title := w.title })).tell
        (stateMessages id { st with title := w.title } w)).setStream id
          (some (stateStream st w)) = v.stated id st w := by
    rw [View.setStream_tell, View.setStream_setStream, View.tell_tell]
    rfl
  change Triple (At ((((v.tell (titleMessages id st w)).setStream id
      (some { st with title := w.title })).tell
        (stateMessages id { st with title := w.title } w)).setStream id
          (some (stateStream st w)))) _ _ _
  rw [hstated]
  exact updateBounds_at

/-- Registering a handle: it was known, or it is entered under the next id and a
channel of its own. -/
theorem track_at {handle : Handle} :
    Triple (At v) (track handle : Act W E I (TrackedWindow × Bool))
      (fun r s =>
        (r.2 = false ∧ v.windows handle = some r.1 ∧ At v s) ∨
        (r.2 = true ∧ v.windows handle = none ∧ r.1.windowId.toNat = v.nextId ∧
          videoBase ≤ r.1.videoChannel ∧
          (∀ h t', v.windows h = some t' → t'.videoChannel ≠ r.1.videoChannel) ∧
          At { v with
            windows := Function.update v.windows handle (some r.1)
            nextId := v.nextId + 1 } s))
      (Cut v) := by
  refine get_at.bind fun a => ?_
  cases htrack : a.registry.track handle with
  | error e => exact triple_throw fun s hs => hs.2.cut List.prefix_rfl
  | ok r =>
      obtain ⟨⟨t, isNew⟩, registry⟩ := r
      refine Triple.bind (R := fun _ s => (isNew = false ∧ v.windows handle = some t ∧ At v s) ∨
        (isNew = true ∧ v.windows handle = none ∧ t.windowId.toNat = v.nextId ∧
          videoBase ≤ t.videoChannel ∧
          (∀ h t', v.windows h = some t' → t'.videoChannel ≠ t.videoChannel) ∧
          At { v with
            windows := Function.update v.windows handle (some t)
            nextId := v.nextId + 1 } s)) (triple_set ?_) fun _ => triple_pure fun s hs => hs
      intro s hs
      obtain ⟨rfl, rfl, hreg⟩ := hs
      rcases WindowRegistry.track_spec hreg htrack with ⟨hnew, hlook, rfl⟩ | ⟨hnew, hr⟩
      · exact .inl ⟨hnew, hlook, rfl, hreg⟩
      · refine .inr ⟨hnew, hr.fresh, by rw [hr.id_eq]; rfl, hr.channel_ge, hr.channel_new, ?_, hr.wf⟩
        apply View.ext
        · rfl
        · funext h
          simp only [Session.view, Function.update_apply]
          exact hr.lookup_eq h
        · exact hr.next_eq
        · rfl

/-- **A new window** is opened with a stream of its own. -/
theorem openWindow_at {t : TrackedWindow} {w : SourceWindow} :
    Triple (At v) (openWindow cfg t w : Act W E I Unit)
      (fun _ => At ((v.tell [onWindow (.windowOpened (openedMessage t w))]).setStream
        t.windowId (some (openedStream cfg t w))))
      (Cut v) := by
  refine Triple.bind ((send_at (m := .windowOpened (openedMessage t w)) trivial
    Channel.window).conseq (fun s hs => hs) (fun _ s hs => hs)
      (fun e s hs => hs.cut List.prefix_rfl)) fun _ => putStream_at _ _

/-- A session that stopped while bringing the client up to date with `live`. -/
def StoppedSync (cfg : Config) (live : List SourceWindow) (v : View) (_ : Stop)
    (s : Session W E I) : Prop :=
  ∃ before v', before <+: live ∧ Chain (SyncStep cfg) before v v' ∧ s.view.told <+: v'.told

/-- A stop in the middle of a window is a stop of the snapshot. -/
theorem Cut.stoppedSync {s : Session W E I} {e : Stop} {live : List SourceWindow}
    (h : Cut v e s) : StoppedSync cfg live v e s :=
  ⟨[], v, List.nil_prefix, .nil, h⟩

/-- One window of the snapshot. -/
theorem syncWindow_at {w : SourceWindow} :
    Triple (At v) (syncWindow cfg w : Act W E I Unit)
      (fun _ s => ∃ v', SyncStep cfg w v v' ∧ At v' s) (StoppedSync cfg [w] v) := by
  refine Triple.bind (track_at.conseq (fun s hs => hs) (fun _ s hs => hs)
    (fun e s hs => hs.stoppedSync)) fun r => ?_
  obtain ⟨t, isNew⟩ := r
  cases isNew with
  | true =>
      let v₁ : View := { v with
        windows := Function.update v.windows w.handle (some t)
        nextId := v.nextId + 1 }
      have hopen : Triple
          (fun s => (v.windows w.handle = none ∧ t.windowId.toNat = v.nextId ∧
            videoBase ≤ t.videoChannel ∧
            ∀ h t', v.windows h = some t' → t'.videoChannel ≠ t.videoChannel) ∧ At v₁ s)
          (openWindow cfg t w : Act W E I Unit)
          (fun _ s => ∃ v', SyncStep cfg w v v' ∧ At v' s) (StoppedSync cfg [w] v) := by
        refine triple_of_fact fun hfacts => openWindow_at.conseq (fun s hs => hs)
          (fun _ s hs => ⟨_, .opened t hfacts.1 hfacts.2.1 hfacts.2.2.1 hfacts.2.2.2, hs⟩)
          (fun e s hs => Cut.stoppedSync hs)
      refine hopen.conseq (fun s hs => ?_) (fun _ s hs => hs) (fun e s hs => hs)
      rcases hs with ⟨hfalse, -⟩ | ⟨-, hnew, hid, hge, hchan, hs⟩
      · cases hfalse
      · exact ⟨⟨hnew, hid, hge, hchan⟩, hs⟩
  | false =>
      refine Triple.conseq
        (?_ : Triple (fun s => v.windows w.handle = some t ∧ At v s) _ _ _)
        (fun s hs => ?_) (fun _ s hs => hs) (fun e s hs => hs)
      · refine triple_of_fact fun hw => get_at.bind fun a => ?_
        cases hl : a.streams.lookup t.windowId with
        | none =>
            refine triple_pure ?_
            intro s hs
            obtain ⟨rfl, hs⟩ := hs
            have hst : v.streams t.windowId = none := by rw [← hs.1]; exact hl
            exact ⟨v, .skipped t hw hst, hs⟩
        | some st =>
            have hst : ∀ s : Session W E I, a = s ∧ At v s → v.streams t.windowId = some st := by
              intro s hs
              obtain ⟨rfl, hs⟩ := hs
              rw [← hs.1]
              exact hl
            intro s hs
            have hstep : SyncStep cfg w v _ := .updated t st hw (hst s hs)
            refine (updateWindow_at (hst s hs)).conseq (fun s' hs' => hs')
              (fun _ s' hs' => ⟨_, hstep, hs'⟩) (fun e s' hs' => ?_) s hs.2
            exact ⟨[w], _, List.prefix_rfl, .cons hstep .nil, hs'⟩
      · rcases hs with ⟨-, hw, hs⟩ | ⟨hfalse, -⟩
        · exact ⟨hw, hs⟩
        · cases hfalse

/-- All windows of the snapshot. -/
theorem syncAll_at (live : List SourceWindow) :
    Triple (At v) (live.forM (syncWindow cfg) : Act W E I Unit)
      (fun _ s => ∃ v', Chain (SyncStep cfg) live v v' ∧ At v' s)
      (StoppedSync cfg live v) := by
  refine (triple_forM (fun done s => ∃ v', Chain (SyncStep cfg) done v v' ∧ At v' s) live
    ?_).conseq (fun s hs => ⟨v, .nil, hs⟩) (fun _ s hs => hs) (fun e s hs => hs)
  intro done w rest hlive s hs
  obtain ⟨v', hchain, hs⟩ := hs
  refine syncWindow_at.conseq (fun s hs => hs) (fun _ s hs => ?_) (fun e s hs => ?_) s hs
  · obtain ⟨v'', hstep, hs⟩ := hs
    exact ⟨v'', hchain.snoc hstep, hs⟩
  · obtain ⟨before, v'', hpre, hmore, htold⟩ := hs
    refine ⟨done ++ before, v'', ?_, hchain.append hmore, htold⟩
    rw [hlive]
    exact (List.prefix_append_right_inj done).mpr (hpre.trans ⟨rest, rfl⟩)

/-! ## Closing what has gone -/

def Session.feed (s : Session W E I) : Feed E := { view := s.view, encoder := s.encoder }

/-- The session shows the feed. -/
def OnFeed (F : Feed E) (s : Session W E I) : Prop := At F.view s ∧ s.encoder = F.encoder

/-- The encoder told to forget a window, if the driver remembers it. -/
def forgetOne [FrameEncoder E] (streams : UInt32 → Option WindowStream) (e : E)
    (t : TrackedWindow) : E :=
  match streams t.windowId with
  | none => e
  | some st => FrameEncoder.forget e st.handle

/-- The encoder told to forget some windows. -/
def forgetAll [FrameEncoder E] (streams : UInt32 → Option WindowStream) (e : E)
    (gone : List TrackedWindow) : E :=
  gone.foldl (forgetOne streams) e

/-- **A window that has gone** is told to be closed, its stream dropped and its encoder forgotten.
-/
theorem closeWindow_feed [FrameEncoder E] {e : E} {t : TrackedWindow} :
    Triple (OnFeed ⟨v, e⟩) (closeWindow cfg t : Act W E I Unit)
      (fun _ => OnFeed ⟨(v.tell [closedMessage t]).setStream t.windowId none,
        forgetOne v.streams e t⟩)
      (fun _ s => s.outbound.told = v.told ∧ s.encoder = forgetOne v.streams e t) := by
  have hsend : Triple (OnFeed ⟨v.setStream t.windowId none, forgetOne v.streams e t⟩)
      (send cfg (.windowClosed { windowId := t.windowId }) Channel.window : Act W E I Unit)
      (fun _ => OnFeed ⟨(v.tell [closedMessage t]).setStream t.windowId none,
        forgetOne v.streams e t⟩)
      (fun _ s => s.outbound.told = v.told ∧ s.encoder = forgetOne v.streams e t) := by
    refine ((send_at (m := .windowClosed ⟨t.windowId⟩) trivial Channel.window).and
      (send_encoder _ _ _)).conseq (fun s hs => hs) (fun _ s hs => hs) fun _ s hs => ?_
    exact ⟨congrArg View.told hs.1.1, hs.2⟩
  refine Triple.bind (R := fun a s => a = s ∧ OnFeed ⟨v, e⟩ s) (triple_get fun s hs => ⟨rfl, hs⟩)
    fun a => ?_
  cases hl : a.streams.lookup t.windowId with
  | none =>
      refine hsend.conseq ?_ (fun _ s hs => hs) (fun _ s hs => hs)
      intro s hs
      obtain ⟨rfl, hat, henc⟩ := hs
      have hst : v.streams t.windowId = none := by
        rw [← show a.view = v from hat.1]
        exact hl
      rw [View.setStream_self hst, forgetOne, hst]
      exact ⟨hat, henc⟩
  | some st =>
      refine Triple.bind (triple_set ?_) fun _ => hsend
      intro s hs
      obtain ⟨rfl, ⟨rfl, hreg⟩, rfl⟩ := hs
      have hst : a.view.streams t.windowId = some st := hl
      rw [forgetOne, hst]
      refine ⟨⟨?_, hreg⟩, rfl⟩
      apply View.ext
      · rfl
      · rfl
      · rfl
      · funext k
        rw [View.setStream_streams]
        exact Table.lookup_erase_ite a.streams t.windowId k

/-- The view while `done` of the windows that have gone are closed. -/
def View.closed (v : View) (done : List TrackedWindow) : View :=
  { v with
    told := v.told ++ done.map closedMessage
    streams := fun id =>
      if id ∈ done.map TrackedWindow.windowId then none else v.streams id }

/-- Windows are closed one by one. -/
theorem View.closed_snoc (v : View) (done : List TrackedWindow) (t : TrackedWindow) :
    ((v.closed done).tell [closedMessage t]).setStream t.windowId none =
      v.closed (done ++ [t]) := by
  apply View.ext
  · simp [View.closed]
  · rfl
  · rfl
  · funext k
    rw [View.setStream_streams]
    by_cases hk : k = t.windowId
    · simp [View.closed, hk]
    · simp [View.closed, hk]

/-- A window that is still to be closed is remembered as before. -/
theorem forgetAll_snoc [FrameEncoder E] {e : E} {done : List TrackedWindow} {t : TrackedWindow}
    (hnew : t.windowId ∉ done.map TrackedWindow.windowId) :
    forgetOne (v.closed done).streams (forgetAll v.streams e done) t =
      forgetAll v.streams e (done ++ [t]) := by
  have hsame : (v.closed done).streams t.windowId = v.streams t.windowId := if_neg hnew
  unfold forgetAll
  rw [List.foldl_append, List.foldl_cons, List.foldl_nil, forgetOne, forgetOne, hsame]

/-- Where closing the windows of `gone` may stop: the client has not been told of the last
one that the encoder forgot. -/
def StoppedClosing [FrameEncoder E] (gone : List TrackedWindow) (v : View) (e : E)
    (told : List Sent) (e' : E) : Prop :=
  ∃ done t rest, gone = done ++ t :: rest ∧ told = v.told ++ done.map closedMessage ∧
    e' = forgetAll v.streams e (done ++ [t])

/-- All windows that have gone, by induction on their list. -/
theorem closeAll_feed [FrameEncoder E] {e : E} {gone : List TrackedWindow}
    (hnodup : (gone.map TrackedWindow.windowId).Nodup) :
    Triple (OnFeed ⟨v, e⟩) (gone.forM (closeWindow cfg) : Act W E I Unit)
      (fun _ => OnFeed ⟨v.closed gone, forgetAll v.streams e gone⟩)
      (fun _ s => StoppedClosing gone v e s.outbound.told s.encoder) := by
  refine (triple_forM (fun done => OnFeed ⟨v.closed done, forgetAll v.streams e done⟩) gone
    ?_).conseq ?_ (fun _ s hs => hs) (fun _ s hs => hs)
  · intro done t rest hgone
    have hnew : t.windowId ∉ done.map TrackedWindow.windowId := by
      rw [hgone, List.map_append, List.map_cons] at hnodup
      intro hmem
      exact (List.nodup_append.mp hnodup).2.2 _ hmem _ List.mem_cons_self rfl
    refine closeWindow_feed.conseq (fun s hs => hs) (fun _ s hs => ?_) (fun _ s hs => ?_)
    · rw [View.closed_snoc, forgetAll_snoc hnew] at hs
      exact hs
    · rw [forgetAll_snoc hnew] at hs
      exact ⟨done, t, rest, hgone, hs.1, hs.2⟩
  · intro s hs
    have hnil : v.closed [] = v := by
      apply View.ext <;> simp [View.closed]
    rw [hnil]
    exact hs

/-- The snapshot comes from the source and changes nothing that was told. -/
theorem liveWindows_at [WindowSource W] {s₀ : Session W E I} (hs₀ : At v s₀) :
    Triple (· = s₀) (liveWindows : Act W E I (List SourceWindow))
      (fun live s => live = (WindowSource.liveWindows s₀.source).1 ∧ At v s) X := by
  intro s hs
  subst hs
  exact ⟨rfl, hs₀⟩

/-- The windows that have gone, in some order. -/
def Gone (live : List Handle) (v : View) (gone : List TrackedWindow) : Prop :=
  (gone.map TrackedWindow.windowId).Nodup ∧
    ∀ t, t ∈ gone ↔ ∃ h, h ∉ live ∧ v.windows h = some t

/-- What the registry forgets are the windows that have gone. -/
theorem retainLive_at {handles : List Handle} :
    Triple (At v) (retainLive handles : Act W E I (List TrackedWindow))
      (fun gone s => Gone handles v gone ∧
        At { v with windows := fun h => if h ∈ handles then v.windows h else none } s) X := by
  intro s hs
  obtain ⟨rfl, hreg⟩ := hs
  obtain ⟨hwf, hnext, hlook, hnodup, hmem⟩ := WindowRegistry.retainLive_spec hreg handles
  refine ⟨⟨hnodup, hmem⟩, ?_, hwf⟩
  apply View.ext
  · rfl
  · funext h
    exact hlook h
  · exact congrArg UInt32.toNat hnext
  · rfl

/-- Closing everything that is not live. -/
theorem closeGone_feed [FrameEncoder E] {e : E} {handles : List Handle} :
    Triple (OnFeed ⟨v, e⟩)
      (do
        let gone ← retainLive handles
        gone.forM (closeWindow cfg) : Act W E I Unit)
      (fun _ s => ∃ gone, Gone handles v gone ∧
        OnFeed ⟨v.closing handles gone, forgetAll v.streams e gone⟩ s)
      (fun _ s => ∃ gone, Gone handles v gone ∧
        StoppedClosing gone v e s.outbound.told s.encoder) := by
  have hretain : Triple (OnFeed ⟨v, e⟩) (retainLive handles : Act W E I (List TrackedWindow))
      (fun gone s => Gone handles v gone ∧
        OnFeed ⟨{ v with windows := fun h => if h ∈ handles then v.windows h else none }, e⟩ s)
      (fun _ s => ∃ gone, Gone handles v gone ∧
        StoppedClosing gone v e s.outbound.told s.encoder) := by
    intro s hs
    have h := @retainLive_at W E I v (Cut v) handles s hs.1
    exact ⟨h.1, h.2, hs.2⟩
  refine hretain.bind fun gone => triple_of_fact fun hgone => ?_
  exact (closeAll_feed hgone.1).conseq (fun s hs => hs) (fun _ s hs => ⟨gone, hgone, hs⟩)
    (fun _ s hs => ⟨gone, hgone, hs⟩)

/-- Reconciling and then closing is a step of the view. -/
theorem closeGone_at [FrameEncoder E] {handles : List Handle} :
    Triple (At v)
      (do
        let gone ← retainLive handles
        gone.forM (closeWindow cfg) : Act W E I Unit)
      (fun _ s => ∃ v', CloseStep handles v v' ∧ At v' s)
      (fun _ s => ∃ v', CloseStep handles v v' ∧ s.view.told <+: v'.told) := by
  intro s hs
  refine closeGone_feed.conseq (fun s hs => hs) (fun _ s' hs' => ?_) (fun _ s' hs' => ?_) s
    ⟨hs, rfl⟩
  · obtain ⟨gone, hgone, hs'⟩ := hs'
    exact ⟨_, ⟨gone, hgone.1, hgone.2, rfl⟩, hs'.1⟩
  · obtain ⟨gone, hgone, done, t, rest, heq, htold, -⟩ := hs'
    refine ⟨v.closing handles gone, ⟨gone, hgone.1, hgone.2, rfl⟩,
      (t :: rest).map closedMessage, ?_⟩
    change s'.outbound.told ++ _ = v.told ++ gone.map closedMessage
    rw [htold, heq, List.append_assoc, List.map_append]

/-- A session that stopped in the middle of a turn from `v`. -/
def Stopped (cfg : Config) (turn : Turn) (v : View) (_ : Stop) (s : Session W E I) : Prop :=
  ∃ v', TurnCut cfg turn v v' ∧ s.view.told <+: v'.told

/-- A stop in the middle of a turn is a stop of the run. -/
theorem Cut.stopped {s : Session W E I} {e : Stop} {turn : Turn} (h : Cut v e s) :
    Stopped cfg turn v e s :=
  ⟨v, .quiet, h⟩

/-- **Window sync** is the snapshot's windows one after the other, and then the
windows that have gone. -/
theorem syncWindows_at [WindowSource W] [FrameEncoder E] {s₀ : Session W E I}
    (hs₀ : At v s₀) :
    Triple (· = s₀) (syncWindows cfg : Act W E I Unit)
      (fun _ s => ∃ v₁ v₂, Chain (SyncStep cfg) (WindowSource.liveWindows s₀.source).1 v v₁ ∧
        CloseStep ((WindowSource.liveWindows s₀.source).1.map SourceWindow.handle) v₁ v₂ ∧
        At v₂ s)
      (Stopped cfg (.tick (WindowSource.liveWindows s₀.source).1) v) := by
  unfold syncWindows
  refine (liveWindows_at hs₀).bind fun live => triple_of_fact fun hlive => ?_
  subst hlive
  refine Triple.bind ((syncAll_at _).conseq (fun s hs => hs) (fun _ s hs => hs) ?_) fun _ => ?_
  · intro e s hs
    obtain ⟨before, v', hpre, hsync, htold⟩ := hs
    exact ⟨v', .syncing hpre hsync, htold⟩
  intro s hs
  obtain ⟨v₁, hchain, hs⟩ := hs
  refine closeGone_at.conseq (fun s hs => hs) (fun _ s hs => ?_) (fun e s hs => ?_) s hs
  · obtain ⟨v₂, hclose, hs⟩ := hs
    exact ⟨v₁, v₂, hchain, hclose, hs⟩
  · obtain ⟨v₂, hclose, htold⟩ := hs
    exact ⟨v₂, .closing hchain hclose, htold⟩

end Refinement

end Oxrdp
