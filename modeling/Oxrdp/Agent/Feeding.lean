import Oxrdp.Agent.Queue
import Oxrdp.Agent.Tracking

/-!
# What the driver keeps of view and encoder

A run moves the feed, the view with the encoder behind it, by the steps of window sync, of
closing and of the frame pump, and a session that stops leaves one of these steps half done.
`FeedInv` lists what has to be shown of a property of feeds, one case for each step and each
way to stop; `drive_fed` then gives it for all runs.  The frame pump's case may assume a
condition on the session before a window's turn, if the run is one whose turns all meet it.
-/

namespace Oxrdp

open Effect Machine

/-! ## Messages beside the frames -/

/-- Whether a message is neither a frame nor the end of a window. -/
def Sent.aside (sent : Sent) : Bool :=
  match sent.message with
  | .frameData _ => false
  | .windowClosed _ => false
  | _ => true

/-- What is told of a known window is no frame data and opens no stream. -/
theorem updateMessages_aside {id : UInt32} {st : WindowStream} {w : SourceWindow} {sent : Sent}
    (h : sent ∈ updateMessages id st w) : sent.aside = true := by
  unfold updateMessages titleMessages stateMessages geometryMessages at h
  simp only [List.mem_append, List.mem_ite_nil_right, List.mem_singleton] at h
  rcases h with (⟨-, rfl⟩ | ⟨-, rfl⟩) | ⟨-, rfl⟩
  · rfl
  · rfl
  · rfl

/-- A window of the snapshot tells nothing but that. -/
theorem SyncStep.tells {cfg : Config} {w : SourceWindow} {v v' : View}
    (h : SyncStep cfg w v v') :
    ∃ sent : List Sent, v'.told = v.told ++ sent ∧ ∀ m ∈ sent, m.aside = true := by
  cases h with
  | opened t =>
      refine ⟨_, rfl, ?_⟩
      intro m hm
      cases List.mem_singleton.mp hm
      rfl
  | updated t st => exact ⟨_, rfl, fun m hm => updateMessages_aside hm⟩
  | skipped => exact ⟨[], (List.append_nil _).symm, fun m hm => by cases hm⟩

/-- The windows of a snapshot tell of no frame. -/
theorem syncs_tell {cfg : Config} {ws : List SourceWindow} {v v' : View}
    (h : Chain (SyncStep cfg) ws v v') :
    ∃ sent : List Sent, v'.told = v.told ++ sent ∧ ∀ m ∈ sent, m.aside = true := by
  induction h with
  | nil => exact ⟨[], (List.append_nil _).symm, fun m hm => by cases hm⟩
  | cons hstep _ ih =>
      obtain ⟨sent, hsent, haside⟩ := hstep.tells
      obtain ⟨more, hmore, haside'⟩ := ih
      refine ⟨sent ++ more, by rw [hmore, hsent, List.append_assoc], ?_⟩
      intro m hm
      rcases List.mem_append.mp hm with hm | hm
      · exact haside m hm
      · exact haside' m hm

/-- What has been told only grows. -/
theorem told_inv (told : List Sent) : QueueInv fun o => told <+: o.told where
  move := by
    intro o w h
    rw [Outbound.told_move]
    exact h
  push := by
    intro o k h _ hcarried
    obtain ⟨sent, hsent⟩ := Option.ne_none_iff_exists'.mp hcarried
    rw [Outbound.told_push hsent]
    exact h.trans (List.prefix_append _ _)

section Feeding

variable {W E I : Type} {cfg : Config} {v : View} {e : E}

/-- A session that stopped with nothing but asides told since `v`. -/
def StoppedAside (v : View) (e : E) (_ : Stop) (s : Session W E I) : Prop :=
  s.encoder = e ∧ ∃ sent, s.outbound.told = v.told ++ sent ∧ ∀ m ∈ sent, Sent.aside m = true

/-- **A window of the snapshot** is a step of the view, and its encoder is left alone. -/
theorem syncWindow_feed {w : SourceWindow} :
    Triple (OnFeed ⟨v, e⟩) (syncWindow cfg w : Act W E I Unit)
      (fun _ s => ∃ v', SyncStep cfg w v v' ∧ OnFeed ⟨v', e⟩ s) (StoppedAside v e) := by
  have hkeep : Keeps Session.encoder (syncWindow cfg w : Act W E I Unit) :=
    (syncWindow_platform w).part fun p => p.2.1
  refine (((syncWindow_at (v := v)).and (syncWindow_queue (told_inv v.told) w)).and
    (hkeep e)).conseq ?_ ?_ ?_
  · intro s hs
    refine ⟨⟨hs.1, ?_⟩, hs.2⟩
    exact ⟨[], (List.append_nil _).trans (congrArg View.told hs.1.1).symm⟩
  · intro _ s hs
    obtain ⟨⟨⟨v', hstep, hat⟩, -⟩, henc⟩ := hs
    exact ⟨v', hstep, hat, henc⟩
  · intro stop s hs
    obtain ⟨⟨⟨before, v', -, hchain, htold⟩, hgrown, -⟩, henc⟩ := hs
    obtain ⟨sent, hsent, haside⟩ := syncs_tell hchain
    obtain ⟨part, hpart⟩ := hgrown
    have hpre : part <+: sent := by
      rw [hsent, show s.view.told = v.told ++ part from hpart.symm] at htold
      exact (List.prefix_append_right_inj _).mp htold
    exact ⟨henc, part, hpart.symm, fun m hm => haside m (hpre.subset hm)⟩

/-- Messages from the client ask nothing of the source or the encoder. -/
theorem onMessage_source [InputSink I] (m : Message) :
    Keeps (fun s => (s.source, s.encoder)) (onMessage cfg m : Act W E I Unit) := by
  have hinject : ∀ f : I → I,
      Keeps (fun s => (s.source, s.encoder)) (inject f : Act W E I Unit) :=
    fun f => keeps_modify fun _ => rfl
  cases m with
  | frameAck ack =>
      refine keeps_get.bind fun a => ?_
      cases a.streams.lookup ack.windowId with
      | none => exact keeps_pure _
      | some st => exact keeps_modify fun _ => rfl
  | close => exact keeps_throw _
  | ping p =>
      exact (elapsedUs_platform.part fun p => (p.1, p.2.1)).bind fun _ =>
        (send_platform _ _).part fun p => (p.1, p.2.1)
  | pointerEvent p =>
      refine keeps_get.bind fun a => ?_
      cases a.streams.lookup p.windowId with
      | none => exact keeps_pure _
      | some st => exact hinject _
  | keyEvent => exact keeps_modify fun _ => rfl
  | textInput => exact keeps_ite (hinject _) (keeps_pure _)
  | modifierSync => exact keeps_modify fun _ => rfl
  | windowControl w =>
      refine keeps_ite (keeps_get.bind fun a => ?_) (keeps_pure _)
      cases a.streams.lookup w.windowId with
      | none => exact keeps_pure _
      | some st => exact hinject _
  | _ => exact keeps_pure _

/-! ## The rule -/

/-- The property holds of the session. -/
def Fed (J : View → E → Prop) (s : Session W E I) : Prop :=
  s.registry.WellFormed ∧ s.view.Coupled ∧ J s.view s.encoder

/-- What holds of a session that stopped. -/
def FedCut (X : Stop → List Sent → E → Prop) (stop : Stop) (s : Session W E I) : Prop :=
  X stop s.outbound.told s.encoder

/-- A feed with the property is fed. -/
theorem fed_of_feed {J : View → E → Prop} {F : Feed E} {s : Session W E I} (h : OnFeed F s)
    (hc : F.view.Coupled) (hJ : J F.view F.encoder) : Fed J s := by
  obtain ⟨⟨hview, hreg⟩, henc⟩ := h
  refine ⟨hreg, ?_, ?_⟩
  · rw [hview]
    exact hc
  · rw [hview, henc]
    exact hJ

/-- Whether `p` holds before every window's turn in the frame pump of a tick. -/
def everyTurn [WindowSource W] [FrameEncoder E] (p : UInt32 → Session W E I → Bool)
    (cfg : Config) (s : Session W E I) : Bool :=
  match (syncWindows cfg).run s with
  | .ok _ s' => along p (pumpWindow cfg) (s'.streams.keys.insertionSort (· ≤ ·)) s'
  | .error _ _ => true

section Rule

variable [WindowSource W] [FrameEncoder E]

/-- What has to be shown of a property `J` of feeds: every step keeps it, and wherever a
session stops, `X` holds of what was told and of the encoder. -/
structure FeedInv (cfg : Config) (p : UInt32 → Session W E I → Bool) (J : View → E → Prop)
    (X : Stop → List Sent → E → Prop) : Prop where
  sync : ∀ {w v v' e}, v.Coupled → SyncStep cfg w v v' → J v e → J v' e
  close : ∀ {live gone v e}, v.Coupled → Gone live v gone → J v e →
    J (v.closing live gone) (forgetAll v.streams e gone)
  pump : ∀ {s : Session W E I} {id st frame F}, s.view.Coupled → p id s = true →
    s.captured cfg id = some (st, frame) → PumpStep cfg id st frame s.view s.encoder F →
      J s.view s.encoder → J F.view F.encoder
  ack : ∀ {v e} (id frameId), J v e → J (v.ack id frameId) e
  pong : ∀ {v e} (pong), J v e → J (v.tell [⟨Channel.control, .pong pong⟩]) e
  aside : ∀ {v e} {sent : List Sent} (stop), v.Coupled → (∀ m ∈ sent, m.aside = true) → J v e →
    X stop (v.told ++ sent) e
  closing : ∀ {live gone v e told e'} (stop), v.Coupled → Gone live v gone →
    StoppedClosing gone v e told e' → J v e → X stop told e'
  pumping : ∀ {s : Session W E I} {id st frame stop told e'}, s.view.Coupled → p id s = true →
    s.captured cfg id = some (st, frame) →
      PumpCut cfg id st frame s.view s.encoder stop told e' → J s.view s.encoder → X stop told e'

variable {p : UInt32 → Session W E I → Bool} {J : View → E → Prop}
  {X : Stop → List Sent → E → Prop} (hinv : FeedInv cfg p J X)

include hinv

/-- A session that stops before it did anything. -/
theorem fedCut_here {s s' : Session W E I} (hs : Fed J s) (stop : Stop)
    (htold : s'.outbound.told = s.outbound.told) (henc : s'.encoder = s.encoder) :
    FedCut X stop s' := by
  have hnone : X stop (s.view.told ++ []) s.encoder :=
    hinv.aside stop hs.2.1 (fun m hm => by cases hm) hs.2.2
  rw [List.append_nil] at hnone
  unfold FedCut
  rw [htold, henc]
  exact hnone

/-- A session that is fed stays so with a window of the snapshot. -/
theorem syncWindow_fed (w : SourceWindow) :
    Triple (Fed J) (syncWindow cfg w : Act W E I Unit) (fun _ => Fed J) (FedCut X) := by
  intro s hs
  obtain ⟨hreg, hc, hJ⟩ := hs
  refine syncWindow_feed.conseq (fun s hs => hs) (fun _ s' hs' => ?_) (fun stop s' hs' => ?_) s
    ⟨⟨rfl, hreg⟩, rfl⟩
  · obtain ⟨v', hstep, hs'⟩ := hs'
    exact fed_of_feed hs' (hc.sync hstep) (hinv.sync hc hstep hJ)
  · obtain ⟨henc, sent, htold, haside⟩ := hs'
    unfold FedCut
    rw [htold, henc]
    exact hinv.aside stop hc haside hJ

/-- It stays so with a whole snapshot. -/
theorem syncWindows_fed :
    Triple (Fed J) (syncWindows cfg : Act W E I Unit) (fun _ => Fed J) (FedCut X) := by
  unfold syncWindows
  refine Triple.bind (R := fun _ => Fed J) (fun s hs => hs) fun live => ?_
  refine (triple_forM_keep fun w _ => syncWindow_fed hinv w).bind fun _ => ?_
  intro s hs
  obtain ⟨hreg, hc, hJ⟩ := hs
  refine closeGone_feed.conseq (fun s hs => hs) (fun _ s' hs' => ?_) (fun stop s' hs' => ?_) s
    ⟨⟨rfl, hreg⟩, rfl⟩
  · obtain ⟨gone, hgone, hs'⟩ := hs'
    exact fed_of_feed hs' (hc.close ⟨gone, hgone.1, hgone.2, rfl⟩) (hinv.close hc hgone hJ)
  · obtain ⟨gone, hgone, hstopped⟩ := hs'
    exact hinv.closing stop hc hgone hstopped hJ

/-- The turn of a window is fed, if its turn is one to be taken. -/
theorem pumpWindow_fed (id : UInt32) :
    Triple (fun s => p id s = true ∧ Fed J s) (pumpWindow cfg id : Act W E I Unit)
      (fun _ => Fed J) (FedCut X) := by
  intro s hs
  obtain ⟨hp, hreg, hc, hJ⟩ := hs
  refine (pumpWindow_feed hreg).conseq (fun s hs => hs) (fun _ s' hs' => ?_)
    (fun stop s' hs' => ?_) s rfl
  · cases hcaptured : s.captured cfg id with
    | none =>
        rw [hcaptured] at hs'
        exact fed_of_feed hs' hc hJ
    | some r =>
        obtain ⟨st, frame⟩ := r
        rw [hcaptured] at hs'
        obtain ⟨F, hstep, hs'⟩ := hs'
        obtain ⟨hst, hshown, -⟩ := captured_inv hcaptured
        have hc' : F.view.Coupled := by
          rcases hstep.frameStep hst hshown with hsame | hframe
          · rw [hsame]
            exact hc
          · exact hc.idle hframe.idle
        exact fed_of_feed hs' hc' (hinv.pump hc hp hcaptured hstep hJ)
  · rcases hs' with ⟨-, htold, henc⟩ | ⟨st, frame, hcaptured, hcut⟩
    · exact fedCut_here hinv ⟨hreg, hc, hJ⟩ stop htold henc
    · exact hinv.pumping hc hp hcaptured hcut hJ

/-- A tick is fed, if all its turns are. -/
theorem tick_fed :
    Triple (fun s => everyTurn p cfg s = true ∧ Fed J s) (tick cfg : Act W E I Unit)
      (fun _ => Fed J) (FedCut X) := by
  intro s₀ hs₀
  obtain ⟨hturns, hs₀⟩ := hs₀
  have hsync := syncWindows_fed hinv s₀ hs₀
  unfold everyTurn at hturns
  have hboth : Triple (· = s₀) (syncWindows cfg : Act W E I Unit)
      (fun _ s => along p (pumpWindow cfg) (s.streams.keys.insertionSort (· ≤ ·)) s = true ∧
        Fed J s) (FedCut X) := by
    intro s hs
    subst hs
    cases hrun : (syncWindows cfg).run s with
    | ok u s' =>
        rw [hrun] at hsync hturns
        exact ⟨hturns, hsync⟩
    | error stop s' =>
        rw [hrun] at hsync
        exact hsync
  refine (hboth.bind fun _ => ?_) s₀ rfl
  unfold pumpFrames
  refine Triple.bind (R := fun a s => along p (pumpWindow cfg)
    (a.streams.keys.insertionSort (· ≤ ·)) s = true ∧ Fed J s) (triple_get fun s hs => hs)
    fun a => triple_forM_along (pumpWindow_fed hinv)

/-- A message of the client is fed. -/
theorem onMessage_fed [InputSink I] (m : Message) :
    Triple (Fed J) (onMessage cfg m : Act W E I Unit) (fun _ => Fed J) (FedCut X) := by
  intro s hs
  obtain ⟨hreg, hc, hJ⟩ := hs
  have hkeep : Keeps Session.encoder (onMessage cfg m : Act W E I Unit) :=
    (onMessage_source m).part fun p => p.2
  refine (((onMessage_at (v := s.view)).and (onMessage_queue (told_inv s.view.told) m)).and
    (hkeep s.encoder)).conseq (fun s hs => hs) (fun _ s' hs' => ?_) (fun stop s' hs' => ?_) s
    ⟨⟨⟨rfl, hreg⟩, List.prefix_rfl⟩, rfl⟩
  · obtain ⟨⟨⟨v', hturn, hat⟩, -⟩, henc⟩ := hs'
    have hfeed : OnFeed ⟨v', s.encoder⟩ s' := ⟨hat, henc⟩
    cases hm : Turn.ofMessage m with
    | tick live => cases m <;> cases hm
    | acked id frameId =>
        rw [hm] at hturn
        cases hturn
        exact fed_of_feed hfeed (hc.idle (View.idle_ack s.view id frameId)) (hinv.ack _ _ hJ)
    | pinged =>
        rw [hm] at hturn
        obtain ⟨pong, rfl⟩ := hturn
        exact fed_of_feed hfeed (hc.idle (View.idle_tell s.view _)) (hinv.pong _ hJ)
    | quiet =>
        rw [hm] at hturn
        cases hturn
        exact fed_of_feed hfeed hc hJ
  · obtain ⟨⟨hcut, hgrown, -⟩, henc⟩ := hs'
    have htold : s'.outbound.told = s.view.told := hcut.eq_of_length_le hgrown.length_le
    exact fedCut_here hinv ⟨hreg, hc, hJ⟩ stop htold henc

/-- **Every event** keeps a fed session fed. -/
theorem step_fed [InputSink I] (event : Event) :
    Triple (fun s => (event != .tick || everyTurn p cfg s) = true ∧ Fed J s)
      (step cfg event : Act W E I Unit) (fun _ => Fed J) (FedCut X) := by
  intro s hs
  obtain ⟨hcond, hs⟩ := hs
  cases event with
  | incoming msg => exact onMessage_fed hinv msg s hs
  | tick => exact tick_fed hinv s ⟨by simpa using hcond, hs⟩
  | readerStopped => exact fedCut_here hinv hs _ rfl rfl
  | writerStopped failed => exact fedCut_here hinv hs _ rfl rfl

/-- **Whole runs.**  A run whose turns all meet the condition keeps the property, or stops as
the cases say. -/
theorem drive_fed [InputSink I] (events : List Event) :
    Triple (fun s => everyTick (everyTurn p cfg) cfg events s = true ∧ Fed J s)
      (drive cfg events : Act W E I Unit) (fun _ => Fed J) (FedCut X) :=
  triple_forM_along (step_fed hinv)

/-- Runs from the start of a session. -/
theorem started_fed [InputSink I] {source : W} {encoder : E} {sink : I}
    (hstart : J View.start encoder) {events : List Event}
    (hturns : everyTick (everyTurn p cfg) cfg events (Session.start source encoder sink) = true) :
    Triple (· = Session.start source encoder sink) (drive cfg events) (fun _ => Fed J)
      (FedCut X) := by
  intro s hs
  subst hs
  exact drive_fed hinv events _ ⟨hturns, WindowRegistry.new_wellFormed, .start, hstart⟩

end Rule

/-- Every turn meets the condition that always holds. -/
theorem everyTurn_free [WindowSource W] [FrameEncoder E] (s : Session W E I) :
    everyTurn (fun _ _ => true) cfg s = true := by
  unfold everyTurn
  cases (syncWindows cfg).run s with
  | ok u s' => exact along_true _ _ s'
  | error stop s' => rfl

/-- Where every turn may be taken, every tick may be. -/
theorem everyTick_free [WindowSource W] [FrameEncoder E] [InputSink I] (events : List Event)
    (s : Session W E I) : everyTick (everyTurn (fun _ _ => true) cfg) cfg events s = true := by
  have hsame : (fun event s => event != .tick || everyTurn (fun _ _ => true) cfg s) =
      fun (_ : Event) (_ : Session W E I) => true := by
    funext event s
    rw [everyTurn_free, Bool.or_true]
  unfold everyTick
  rw [hsame]
  exact along_true _ _ s

end Feeding

end Oxrdp
