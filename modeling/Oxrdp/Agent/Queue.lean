import Oxrdp.Agent.Runs

/-!
# The queue under the driver

Frames and everything else share one queue of `outboundQueueCapacity` slots.  A
message that finds it full ends the session (`WouldBlock`); a frame does not, since
it is only produced once a slot has been reserved for it.

`QueueInv` is a property of the queue that survives the writer and any message put
on a free slot.  `drive_queue` says that the driver keeps every such property, and
what the queue looks like where a session ended with `WouldBlock`.
-/

namespace Oxrdp

open Effect

/-- A property of the queue that the writer keeps, and that a message put on a free
slot keeps. -/
structure QueueInv (P : Outbound → Prop) : Prop where
  move : ∀ o w, P o → P (o.move w)
  push : ∀ o k, P o → o.queued.length < outboundQueueCapacity → k.carried ≠ none →
    P (o.push k)

section Queue

variable {W E I : Type} {P Q : Outbound → Prop} {cfg : Config}
  {X : Stop → Session W E I → Prop}

/-- The queue of a session. -/
def OnQueue (P : Outbound → Prop) (s : Session W E I) : Prop := P s.outbound

/-- A session that ended, and not for want of a slot. -/
def EndsFree (P : Outbound → Prop) (e : Stop) (s : Session W E I) : Prop :=
  P s.outbound ∧ e ≠ .fault .wouldBlock

/-- A session that ended; if for want of a slot, the queue is open and full. -/
def Ends (P : Outbound → Prop) (e : Stop) (s : Session W E I) : Prop :=
  P s.outbound ∧ (e = .fault .wouldBlock →
    s.outbound.closed = false ∧ outboundQueueCapacity ≤ s.outbound.queued.length)

/-- A stop with a free queue is a stop. -/
theorem EndsFree.ends {e : Stop} {s : Session W E I} (h : EndsFree P e s) : Ends P e s :=
  ⟨h.1, fun he => absurd he h.2⟩

/-- Weaken how a computation may end. -/
theorem triple_endsFree {α : Type} {x : Act W E I α} {R : Session W E I → Prop}
    {S : α → Session W E I → Prop} (h : Triple R x S (EndsFree P)) : Triple R x S (Ends P) :=
  h.conseq (fun _ hs => hs) (fun _ _ hs => hs) fun _ _ hs => hs.ends

/-- A computation that returns with the queue as it was. -/
def Untouched {α : Type} (x : Act W E I α) : Prop :=
  ∀ s, match x.run s with
    | .ok _ s' => s'.outbound = s.outbound
    | .error _ _ => False

/-- What leaves the queue untouched keeps whatever is known of it. -/
theorem Untouched.triple {α : Type} {x : Act W E I α} (h : Untouched x) :
    Triple (OnQueue Q) x (fun _ => OnQueue Q) X := by
  intro s hs
  have hx := h s
  cases hrun : x.run s with
  | ok a s' =>
      rw [hrun] at hx
      exact (congrArg Q hx).mpr hs
  | error e s' =>
      rw [hrun] at hx
      exact hx.elim

/-- Two such actions, one after the other. -/
theorem Untouched.bind {α β : Type} {x : Act W E I α} {f : α → Act W E I β}
    (hx : Untouched x) (hf : ∀ a, Untouched (f a)) : Untouched (x >>= f) := by
  intro s
  have hone := hx s
  change match EStateM.bind x f s with
    | .ok _ s' => s'.outbound = s.outbound
    | .error _ _ => False
  unfold EStateM.bind
  cases hrun : x s with
  | ok a s' =>
      rw [EStateM.run, hrun] at hone
      have htwo := hf a s'
      rw [← hone]
      exact htwo
  | error e s' =>
      rw [EStateM.run, hrun] at hone
      exact hone.elim

theorem untouched_pure {α : Type} (a : α) : Untouched (pure a : Act W E I α) :=
  fun _ => rfl

/-- Reading the session shows its queue. -/
theorem get_queue :
    Triple (OnQueue Q) (get : Act W E I (Session W E I)) (fun a s => a = s ∧ OnQueue Q s) X :=
  triple_get fun _ hs => ⟨rfl, hs⟩

/-! ## Functions that leave the queue alone -/

/-- Neither the clock nor the tables of the driver are the queue. -/
theorem elapsedUs_untouched : Untouched (elapsedUs cfg : Act W E I UInt64) :=
  fun _ => rfl

theorem putStream_untouched (id : UInt32) (st : WindowStream) :
    Untouched (putStream id st : Act W E I Unit) :=
  fun _ => rfl

theorem liveWindows_untouched [WindowSource W] :
    Untouched (liveWindows : Act W E I (List SourceWindow)) :=
  fun _ => rfl

/-- Reconciling the registry takes and frees channels, not slots. -/
theorem retainLive_untouched (handles : List Handle) :
    Untouched (retainLive handles : Act W E I (List TrackedWindow)) :=
  fun _ => rfl

/-- Capturing a frame asks the source only. -/
theorem nextFrame_untouched [WindowSource W] (handle : Handle) (intent : CaptureIntent) :
    Untouched (nextFrame handle intent : Act W E I (Option SourceFrame)) :=
  fun _ => rfl

/-- Submitting a frame asks the encoder only. -/
theorem submitFrame_untouched [FrameEncoder E] (st : WindowStream) (frame : SourceFrame) :
    Untouched (submitFrame cfg st frame : Act W E I Unit) := by
  unfold submitFrame
  split
  · exact fun _ => rfl
  · exact untouched_pure _

/-- Injecting input asks the sink only. -/
theorem inject_untouched (f : I → I) : Untouched (inject f : Act W E I Unit) :=
  fun _ => rfl

theorem poll_untouched [FrameEncoder E] (handle : Handle) :
    Untouched (poll handle : Act W E I (Option EncodedFrame)) :=
  fun _ => rfl

theorem get_untouched : Untouched (get : Act W E I (Session W E I)) :=
  fun _ => rfl

/-- A picture is taken from the encoder's output, before a slot is used. -/
theorem pollPicture_untouched [FrameEncoder E] (id : UInt32) (st : WindowStream) :
    Untouched (pollPicture cfg id st : Act W E I (Option (Picture × WindowStream))) := by
  unfold pollPicture
  apply (poll_untouched _).bind
  intro encoded
  cases encoded with
  | none => exact untouched_pure _
  | some encoded =>
      exact (putStream_untouched _ _).bind fun _ =>
        elapsedUs_untouched.bind fun _ => untouched_pure _

/-- Encoding a frame leaves the queue alone; a raw one is encoded on the spot. -/
theorem encodeFrame_untouched [FrameEncoder E] (id : UInt32) (st : WindowStream)
    (frame : SourceFrame) (capturedUs : UInt64) :
    Untouched
      (encodeFrame cfg id st frame capturedUs : Act W E I (Option (Picture × WindowStream))) := by
  unfold encodeFrame
  apply get_untouched.bind
  intro s
  split
  · exact pollPicture_untouched id st
  split
  · exact untouched_pure _
  · exact untouched_pure _

/-! ## Messages -/

/-- An id or a channel that cannot be taken stops the driver, and the queue is as it was. -/
theorem track_queue (handle : Handle) :
    Triple (OnQueue P) (track handle : Act W E I (TrackedWindow × Bool))
      (fun _ => OnQueue P) (Ends P) := by
  unfold track
  refine get_queue.bind fun a => ?_
  cases a.registry.track handle with
  | error e => exact triple_throw fun s hs => ⟨hs.2, fun he => by cases he⟩
  | ok r =>
      refine Triple.bind (R := fun _ => OnQueue P) (triple_set ?_) fun _ =>
        triple_pure fun s hs => hs
      intro s hs
      obtain ⟨rfl, hs⟩ := hs
      exact hs

section Keep

variable (hP : QueueInv P)
include hP

/-- The writer may take chunks or close at any look, which the property has to allow. -/
theorem writerRuns_queue :
    Triple (OnQueue P) (writerRuns cfg : Act W E I Unit) (fun _ => OnQueue P) X :=
  triple_modify fun _ hs => hP.move _ _ hs

/-- **Sending.** A message is put into a queue with room, or the session stops with the reason. -/
theorem send_queue {m : Message} (hfit : m.CountsFit) (ch : UInt16) :
    Triple (OnQueue P) (send cfg m ch : Act W E I Unit) (fun _ => OnQueue P) (Ends P) := by
  unfold send
  cases hbody : m.encodeBody with
  | error e => exact triple_throw fun s hs => ⟨hs, fun he => by cases he⟩
  | ok body =>
      have hcarried : OutboundChunk.carried ⟨m.msgType, ch, body⟩ ≠ none := by
        rw [carried_of_encodeBody hfit hbody]
        exact Option.some_ne_none _
      refine (writerRuns_queue hP).bind fun _ => get_queue.bind fun a => ?_
      split
      · exact triple_throw fun s hs => ⟨hs.2, fun he => by cases he⟩
      split
      · rename_i hopen hfull
        apply triple_throw
        intro s hs
        obtain ⟨rfl, hs⟩ := hs
        exact ⟨hs, fun _ => ⟨Bool.eq_false_iff.mpr hopen, hfull⟩⟩
      · rename_i hroom
        apply triple_set
        intro s hs
        obtain ⟨rfl, hs⟩ := hs
        exact hP.push _ _ hs (Nat.lt_of_not_ge hroom) hcarried

/-! ## Window sync -/

/-- A changed title is one message. -/
theorem syncTitle_queue (id : UInt32) (w : SourceWindow) (st : WindowStream) :
    Triple (OnQueue P) (syncTitle cfg id w st : Act W E I WindowStream)
      (fun _ => OnQueue P) (Ends P) := by
  unfold syncTitle
  split
  · exact (putStream_untouched _ _).triple.bind fun _ =>
      (send_queue hP (by exact trivial) _).bind fun _ => triple_pure fun s hs => hs
  · exact triple_pure fun s hs => hs

/-- A changed state is one message. -/
theorem syncState_queue (id : UInt32) (w : SourceWindow) (st : WindowStream) :
    Triple (OnQueue P) (syncState cfg id w st : Act W E I WindowStream)
      (fun _ => OnQueue P) (Ends P) := by
  unfold syncState
  split
  · exact (putStream_untouched _ _).triple.bind fun _ =>
      (send_queue hP (by exact trivial) _).bind fun _ => triple_pure fun s hs => hs
  · exact triple_pure fun s hs => hs

/-- A changed geometry is one message. -/
theorem syncGeometry_queue (id : UInt32) (w : SourceWindow) (flip : Bool) (st : WindowStream) :
    Triple (OnQueue P) (syncGeometry cfg id w flip st : Act W E I Unit)
      (fun _ => OnQueue P) (Ends P) := by
  unfold syncGeometry
  split
  · exact (putStream_untouched _ _).triple.bind fun _ => send_queue hP (by exact trivial) _
  · exact triple_pure fun s hs => hs

/-- What is told of a known window, in the source's order. -/
theorem updateWindow_queue (id : UInt32) (w : SourceWindow) (st : WindowStream) :
    Triple (OnQueue P) (updateWindow cfg id w st : Act W E I Unit)
      (fun _ => OnQueue P) (Ends P) := by
  unfold updateWindow
  refine (syncTitle_queue hP _ _ _).bind fun _ => (syncState_queue hP _ _ _).bind fun _ => ?_
  split
  · exact triple_pure fun s hs => hs
  · exact syncGeometry_queue hP _ _ _ _

/-- A window of the snapshot is opened, or told to have changed. -/
theorem syncWindow_queue (w : SourceWindow) :
    Triple (OnQueue P) (syncWindow cfg w : Act W E I Unit) (fun _ => OnQueue P) (Ends P) := by
  unfold syncWindow
  refine (track_queue _).bind fun r => ?_
  obtain ⟨t, isNew⟩ := r
  simp only
  split
  · unfold openWindow
    exact (send_queue hP (by exact trivial) _).bind fun _ => (putStream_untouched _ _).triple
  · refine get_queue.bind fun a => ?_
    split
    · exact triple_pure fun s hs => hs.2
    · exact (updateWindow_queue hP _ _ _).conseq (fun s hs => hs.2) (fun _ s hs => hs)
        fun e s hs => hs

/-- A window that has gone is told to be closed. -/
theorem closeWindow_queue [FrameEncoder E] (gone : TrackedWindow) :
    Triple (OnQueue P) (closeWindow cfg gone : Act W E I Unit)
      (fun _ => OnQueue P) (Ends P) := by
  unfold closeWindow
  refine get_queue.bind fun a => ?_
  cases a.streams.lookup gone.windowId with
  | none =>
      exact (send_queue hP (by exact trivial) _).conseq (fun s hs => hs.2) (fun _ s hs => hs)
        fun e s hs => hs
  | some st =>
      refine Triple.bind (R := fun _ => OnQueue P) (triple_set ?_) fun _ =>
        send_queue hP (by exact trivial) _
      intro s hs
      obtain ⟨rfl, hs⟩ := hs
      exact hs

/-- A snapshot is told window by window, after those that have gone. -/
theorem syncWindows_queue [WindowSource W] [FrameEncoder E] :
    Triple (OnQueue P) (syncWindows cfg : Act W E I Unit) (fun _ => OnQueue P) (Ends P) := by
  unfold syncWindows
  refine liveWindows_untouched.triple.bind fun live => ?_
  refine (triple_forM_keep fun w _ => syncWindow_queue hP w).bind fun _ => ?_
  refine (retainLive_untouched _).triple.bind fun gone => ?_
  exact triple_forM_keep fun t _ => closeWindow_queue hP t

/-! ## Frames -/

/-- The queue has a free slot. -/
def Roomy (P : Outbound → Prop) (o : Outbound) : Prop :=
  P o ∧ o.queued.length < outboundQueueCapacity

/-- **A slot is reserved** without using it: while it is held, the queue has room for one more. -/
theorem reserveFrameSlot_queue :
    Triple (OnQueue P) (reserveFrameSlot cfg : Act W E I Bool)
      (fun slot s => OnQueue P s ∧ (slot = true → OnQueue (Roomy P) s)) (EndsFree P) := by
  unfold reserveFrameSlot
  refine (writerRuns_queue hP).bind fun _ => get_queue.bind fun a => ?_
  split
  · exact triple_throw fun s hs => ⟨hs.2, by simp⟩
  · apply triple_pure
    intro s hs
    obtain ⟨rfl, hs⟩ := hs
    exact ⟨hs, fun hslot => ⟨hs, of_decide_eq_true hslot⟩⟩

/-- The reserved slot takes the frame. -/
theorem sendFrame_queue (id : UInt32) (st : WindowStream) (picture : Picture)
    (capturedUs : UInt64) :
    Triple (OnQueue (Roomy P)) (sendFrame id st picture capturedUs : Act W E I Unit)
      (fun _ => OnQueue P) (EndsFree P) := by
  unfold sendFrame
  cases st.budget.onCaptured with
  | none => exact triple_throw fun s hs => ⟨hs.1, by simp⟩
  | some r =>
      obtain ⟨frameId, budget⟩ := r
      refine (putStream_untouched _ _).triple.bind fun _ => ?_
      let f : FrameData :=
        { windowId := id
          frameId := frameId
          codec := picture.codec
          flags := picture.flags
          width := picture.width
          height := picture.height
          capturedUs := capturedUs
          encodedUs := picture.encodedUs
          data := picture.data }
      dsimp only
      cases hbody : (Message.frameData f).encodeBody with
      | error e => exact triple_throw fun s hs => ⟨hs.1, by simp⟩
      | ok body =>
          apply triple_modify
          intro s hs
          apply hP.push _ _ hs.1 hs.2
          have hcarried : OutboundChunk.carried
              ⟨MsgType.frameData, st.videoChannel, body⟩ = some ⟨st.videoChannel, .frameData f⟩ :=
            carried_of_encodeBody (m := .frameData f) trivial hbody
          rw [hcarried]
          exact Option.some_ne_none _

/-- One capture uses at most the reserved slot. -/
theorem captureWindow_queue [WindowSource W] [FrameEncoder E] (id : UInt32)
    (st : WindowStream) :
    Triple (OnQueue (Roomy P)) (captureWindow cfg id st : Act W E I Unit)
      (fun _ => OnQueue P) (EndsFree P) := by
  unfold captureWindow
  refine get_untouched.triple.bind fun a => ?_
  refine (nextFrame_untouched _ _).triple.bind fun frame => ?_
  cases frame with
  | none => exact triple_pure fun s hs => hs.1
  | some frame =>
      refine elapsedUs_untouched.triple.bind fun capturedUs => ?_
      refine (submitFrame_untouched _ _).triple.bind fun _ => ?_
      refine (encodeFrame_untouched _ _ _ _).triple.bind fun r => ?_
      cases r with
      | none => exact triple_pure fun s hs => hs.1
      | some r => exact sendFrame_queue hP _ _ _ _

/-- A window whose slot cannot be had is passed over. -/
theorem pumpWindow_queue [WindowSource W] [FrameEncoder E] (id : UInt32) :
    Triple (OnQueue P) (pumpWindow cfg id : Act W E I Unit) (fun _ => OnQueue P)
      (EndsFree P) := by
  unfold pumpWindow
  refine get_untouched.triple.bind fun a => ?_
  split
  · exact triple_pure fun s hs => hs
  split
  · exact triple_pure fun s hs => hs
  · refine (reserveFrameSlot_queue hP).bind fun slot => ?_
    split
    · rename_i hslot
      exact (captureWindow_queue hP _ _).conseq (fun s hs => hs.2 hslot) (fun _ s hs => hs)
        fun e s hs => hs
    · exact triple_pure fun s hs => hs.1

/-- Pumping all windows of a tick keeps what holds of the queue. -/
theorem pumpFrames_queue [WindowSource W] [FrameEncoder E] :
    Triple (OnQueue P) (pumpFrames cfg : Act W E I Unit) (fun _ => OnQueue P)
      (EndsFree P) := by
  unfold pumpFrames
  refine get_untouched.triple.bind fun a => ?_
  exact triple_forM_keep fun id _ => pumpWindow_queue hP id

/-! ## The loop -/

/-- A message from the client is answered by one message at most. -/
theorem onMessage_queue [InputSink I] (m : Message) :
    Triple (OnQueue P) (onMessage cfg m : Act W E I Unit) (fun _ => OnQueue P) (Ends P) := by
  cases m with
  | frameAck ack =>
      refine get_untouched.triple.bind fun a => ?_
      split
      · exact triple_pure fun s hs => hs
      · exact (putStream_untouched _ _).triple
  | close c => exact triple_throw fun s hs => ⟨hs, fun he => by cases he⟩
  | ping p =>
      exact elapsedUs_untouched.triple.bind fun _ => send_queue hP (by exact trivial) _
  | pointerEvent p =>
      refine get_untouched.triple.bind fun a => ?_
      split
      · exact triple_pure fun s hs => hs
      · exact (inject_untouched _).triple
  | keyEvent k => exact triple_modify fun s hs => hs
  | textInput t =>
      simp only [onMessage]
      split
      · exact (inject_untouched _).triple
      · exact triple_pure fun s hs => hs
  | modifierSync m => exact triple_modify fun s hs => hs
  | windowControl w =>
      simp only [onMessage]
      split
      · refine get_untouched.triple.bind fun a => ?_
        split
        · exact triple_pure fun s hs => hs
        · exact (inject_untouched _).triple
      · exact triple_pure fun s hs => hs
  | _ => exact triple_pure fun s hs => hs

/-- Each event of the driver keeps it. -/
theorem step_queue [WindowSource W] [FrameEncoder E] [InputSink I] (event : Event) :
    Triple (OnQueue P) (step cfg event : Act W E I Unit) (fun _ => OnQueue P) (Ends P) := by
  cases event with
  | incoming msg => exact onMessage_queue hP msg
  | tick => exact (syncWindows_queue hP).bind fun _ => triple_endsFree (pumpFrames_queue hP)
  | readerStopped => exact triple_throw fun s hs => ⟨hs, fun he => by cases he⟩
  | writerStopped failed =>
      apply triple_throw
      intro s hs
      refine ⟨hs, fun he => ?_⟩
      cases failed <;> cases he

/-- **The queue along a run.**  The driver keeps every property that the writer and
messages on free slots keep, and it ends for want of a slot only with an open queue
that is full. -/
theorem drive_queue [WindowSource W] [FrameEncoder E] [InputSink I] (cfg : Config)
    (events : List Event) :
    Triple (OnQueue P) (drive cfg events : Act W E I Unit) (fun _ => OnQueue P) (Ends P) :=
  triple_forM_keep fun event _ => step_queue hP event

/-- **Whole runs** keep what an empty queue has. -/
theorem sessionAfter_queue [WindowSource W] [FrameEncoder E] [InputSink I] (cfg : Config)
    (source : W) (encoder : E) (sink : I) (events : List Event) (hempty : P .empty) :
    P (sessionAfter cfg source encoder sink events).outbound := by
  have hdrive := drive_queue hP cfg events (Session.start source encoder sink) hempty
  unfold sessionAfter
  cases hrun : (drive cfg events).run (Session.start source encoder sink) with
  | ok u s =>
      rw [hrun] at hdrive
      exact hdrive
  | error e s =>
      rw [hrun] at hdrive
      exact hdrive.1

end Keep

/-! ## What the queue keeps -/

/-- The queue never holds more than its capacity. -/
theorem bounded_inv : QueueInv fun o => o.queued.length ≤ outboundQueueCapacity where
  move := by
    intro o w h
    cases w with
    | take n =>
        simp only [Outbound.move]
        split
        · exact h
        · simp only [List.length_drop]
          omega
    | close => exact h
  push := by
    intro o k _ hroom _
    simp only [Outbound.push, List.length_append, List.length_singleton]
    omega

/-- Everything put on the queue can be read by the client. -/
theorem carried_inv : QueueInv fun o => ∀ k ∈ o.accepted, k.carried ≠ none where
  move := by
    intro o w h
    rw [Outbound.accepted_move]
    exact h
  push := by
    intro o k h _ hk k' hmem
    rw [Outbound.accepted_push, List.mem_append, List.mem_singleton] at hmem
    rcases hmem with hmem | rfl
    · exact h k' hmem
    · exact hk

/-- `told` leaves nothing out: there is one message in it for every chunk that was
put on the queue. -/
theorem told_complete [WindowSource W] [FrameEncoder E] [InputSink I] (cfg : Config)
    (source : W) (encoder : E) (sink : I) (events : List Event) :
    (sessionAfter cfg source encoder sink events).outbound.told.map some =
      (sessionAfter cfg source encoder sink events).outbound.accepted.map
        OutboundChunk.carried := by
  have hall := sessionAfter_queue carried_inv cfg source encoder sink events
    (by intro k hk; cases hk)
  unfold Outbound.told
  generalize (sessionAfter cfg source encoder sink events).outbound.accepted = chunks at hall
  induction chunks with
  | nil => rfl
  | cons k rest ih =>
      cases hk : k.carried with
      | none => exact absurd hk (hall k List.mem_cons_self)
      | some sent =>
          have hrest := ih fun k' hk' => hall k' (List.mem_cons_of_mem _ hk')
          rw [List.filterMap_cons_some hk, List.map_cons, List.map_cons, hk, hrest]

end Queue

end Oxrdp
