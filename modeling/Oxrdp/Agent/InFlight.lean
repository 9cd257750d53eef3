import Oxrdp.Agent.Queue
import Oxrdp.Agent.Tracking

/-!
# Frames on their way

What the client has yet to acknowledge is not what the budget of a window counts.
`outstanding` are the frames of a window that were put on the queue and that no ack
has retired; the budget forgets some of them, when a capture finds it full and when
new bounds are reported.

As long as it forgets none (`forgetsNone`) the two are the same list (`Flow`), and the
bound of the budget is a bound on the frames outstanding.
-/

namespace Oxrdp

open Effect Machine

/-! ## Frames outstanding -/

/-- The ids of the frames of a window among some messages. -/
def frameIds (id : UInt32) (sent : List Sent) : List UInt64 :=
  sent.filterMap fun k =>
    match k.message with
    | .frameData f => if f.windowId = id then some f.frameId else none
    | _ => none

/-- Frame ids of two parts. -/
theorem frameIds_append (id : UInt32) (a b : List Sent) :
    frameIds id (a ++ b) = frameIds id a ++ frameIds id b :=
  List.filterMap_append

/-- What an ack leaves of the frames outstanding: it retires the frame it names and
every older one of that window. -/
def retired (id : UInt32) : Turn → List UInt64 → List UInt64
  | .acked k frameId, out => if k = id then out.filter fun f => frameId < f else out
  | _, out => out

/-- What is acknowledged is not in flight any more. -/
theorem retired_length_le (id : UInt32) (turn : Turn) (out : List UInt64) :
    (retired id turn out).length ≤ out.length := by
  cases turn with
  | acked k frameId =>
      simp only [retired]
      split
      · exact List.length_filter_le _ _
      · exact le_rfl
  | _ => exact le_rfl

section Outstanding

variable {W E I : Type}

/-- The frames of a window that a run has put on the queue and no ack has retired,
after those in `out`. -/
def outstanding [WindowSource W] [FrameEncoder E] [InputSink I] (cfg : Config) (id : UInt32) :
    List UInt64 → Session W E I → List Event → List UInt64
  | out, _, [] => out
  | out, s, event :: rest =>
      let result := (step cfg event).run s
      let new := (leftBy result).outbound.told.drop s.outbound.told.length
      let out' := retired id (turnOf s event) out ++ frameIds id new
      match result with
      | .ok _ s' => outstanding cfg id out' s' rest
      | .error _ _ => out'

/-! ## Ticks that forget nothing -/

/-- No new bounds are to be reported of a window with frames in flight. -/
def Session.keepsBounds (s : Session W E I) (w : SourceWindow) : Bool :=
  match s.registry.handleToWindow.lookup w.handle with
  | none => true
  | some tracked =>
      match s.streams.lookup tracked.windowId with
      | none => true
      | some st => !movesGeometry st w || st.budget.inFlight.isEmpty

/-- Whether the platform has a frame of a window and, if it goes through the encoder, the
encoder a picture for it. -/
def offersPicture [WindowSource W] [FrameEncoder E] (cfg : Config) (source : W) (encoder : E)
    (st : WindowStream) : Bool :=
  match (WindowSource.nextFrame source st.handle (captureIntent cfg encoder st)).1 with
  | none => false
  | some frame =>
      let encoder :=
        if cfg.codec = Codec.h264 then
          FrameEncoder.submit encoder st.handle frame st.needsKeyframe
        else encoder
      if cfg.codec = Codec.h264 ∧ FrameEncoder.failed encoder st.handle = false then
        (FrameEncoder.poll encoder st.handle).1.isSome
      else
        !frame.data.isEmpty

/-- Whether there is a free slot and something to put on it. -/
def Session.offers [WindowSource W] [FrameEncoder E] (cfg : Config) (s : Session W E I)
    (st : WindowStream) : Bool :=
  decide ((s.queueNow cfg).queued.length < outboundQueueCapacity) &&
    offersPicture cfg s.source s.encoder st

/-- A window that has something to send has headroom. -/
def Session.keepsRoom [WindowSource W] [FrameEncoder E] (cfg : Config) (s : Session W E I)
    (id : UInt32) : Bool :=
  match s.streams.lookup id with
  | none => true
  | some st =>
      decide (st.showState = WindowShow.minimized) || st.budget.hasHeadroom || !s.offers cfg st

/-- `keepsBounds` before each window of the snapshot is looked at, and `keepsRoom` before
each window has its turn in the frame pump. -/
def Session.forgetsNone [WindowSource W] [FrameEncoder E] (cfg : Config)
    (s : Session W E I) : Bool :=
  let (live, source) := WindowSource.liveWindows s.source
  along (fun w s => s.keepsBounds w) (syncWindow cfg) live { s with source } &&
    match (syncWindows cfg).run s with
    | .ok _ s' =>
        along (fun id s => s.keepsRoom cfg id) (pumpWindow cfg)
          (s'.streams.keys.insertionSort (· ≤ ·)) s'
    | .error _ _ => true

end Outstanding

/-! ## The budget and the wire -/

namespace View

/-- The frames outstanding of a window are those its budget has in flight; a window that
was not opened yet has none. -/
structure Flow (cap : Nat) (id : UInt32) (out : List UInt64) (v : View) : Prop where
  bounded : out.length ≤ cap
  counted : ∀ st, v.streams id = some st →
    st.budget.inFlight = out ∧ st.budget.maxInFlight = cap ∧ st.budget.Ordered
  unopened : v.nextId ≤ id.toNat → out = []

/-- From `v` to `v'` the client was sent the frames `ids` of a window. -/
def Adds (id : UInt32) (v v' : View) (ids : List UInt64) : Prop :=
  ∃ new, v'.told = v.told ++ new ∧ frameIds id new = ids

/-- Where nothing happens no frame is added. -/
theorem Adds.refl (id : UInt32) (v : View) : v.Adds id v [] :=
  ⟨[], (List.append_nil _).symm, rfl⟩

/-- What is added by two parts stands one after the other. -/
theorem Adds.trans {id : UInt32} {v₁ v₂ v₃ : View} {a b : List UInt64} (h₁ : v₁.Adds id v₂ a)
    (h₂ : v₂.Adds id v₃ b) : v₁.Adds id v₃ (a ++ b) := by
  obtain ⟨new₁, htold₁, rfl⟩ := h₁
  obtain ⟨new₂, htold₂, rfl⟩ := h₂
  refine ⟨new₁ ++ new₂, ?_, frameIds_append id new₁ new₂⟩
  rw [htold₂, htold₁, List.append_assoc]

/-- Whoever has told a part of what `v'` tells has sent some of the frames. -/
theorem Adds.cut {id : UInt32} {v v' : View} {ids : List UInt64} (h : v.Adds id v' ids)
    {told : List Sent} (hpre : told <+: v'.told) :
    frameIds id (told.drop v.told.length) <+: ids := by
  obtain ⟨new, htold, rfl⟩ := h
  have hdrop : told.drop v.told.length <+: new := by
    have hle := hpre.drop v.told.length
    rwa [htold, List.drop_left] at hle
  exact hdrop.filterMap _

/-- At the start nothing is in flight. -/
theorem Flow.start (cap : Nat) (id : UInt32) : Flow cap id [] View.start where
  bounded := Nat.zero_le _
  counted := by
    intro st hst
    cases hst
  unopened := fun _ => rfl

/-- Telling the client something else changes nothing. -/
theorem Flow.tell {cap : Nat} {id : UInt32} {out : List UInt64} {v : View}
    (hv : Flow cap id out v) (sent : List Sent) : Flow cap id out (v.tell sent) :=
  ⟨hv.bounded, hv.counted, hv.unopened⟩

/-- Nor does changing what is remembered of another window, or all of a window but its
budget. -/
theorem Flow.setStream {cap : Nat} {id : UInt32} {out : List UInt64} {v : View}
    (hv : Flow cap id out v) {k : UInt32} {st st' : WindowStream} (hst : v.streams k = some st)
    (hsame : k = id → st'.budget = st.budget) :
    Flow cap id out (v.setStream k (some st')) where
  bounded := hv.bounded
  counted := by
    intro st₀ hst₀
    rw [setStream_streams] at hst₀
    split at hst₀
    · rename_i hid
      cases hst₀
      rw [hsame hid.symm]
      exact hv.counted st (hid ▸ hst)
    · exact hv.counted st₀ hst₀
  unopened := hv.unopened

/-- A window is entered with an empty budget, and bounds are only reported with nothing in
flight. -/
theorem Flow.sync {cfg : Config} {w : SourceWindow} {v v' : View} {id : UInt32}
    {out : List UInt64} (hv : v.Flow (max cfg.maxFramesInFlight.toNat 1) id out) (hc : v.Coupled)
    (h : SyncStep cfg w v v')
    (hkeeps : ∀ t st, v.windows w.handle = some t → v.streams t.windowId = some st →
      movesGeometry st w = true → st.budget.inFlight = []) :
    v'.Flow (max cfg.maxFramesInFlight.toNat 1) id out := by
  cases h with
  | opened t hnew hid _ _ =>
      refine ⟨hv.bounded, ?_, ?_⟩
      · intro st hst
        simp only [Function.update_apply] at hst
        split at hst
        · rename_i hself
          cases hst
          have hout : out = [] := hv.unopened (by rw [hself, hid])
          rw [hout]
          exact ⟨rfl, rfl, .new _⟩
        · exact hv.counted st hst
      · intro hle
        exact hv.unopened (Nat.le_of_succ_le hle)
  | updated t st hw hst =>
      apply (hv.tell _).setStream hst
      intro _
      simp only [updatedStream]
      split
      · rename_i hmoves
        have hempty := hkeeps t st hw hst hmoves
        simp only [FrameBudget.restart]
        rw [← hempty]
      · rfl
  | skipped t hw hst => exact absurd hst (hc.not_skipped hw)

/-- A closed window has nothing in flight. -/
theorem Flow.close {cap : Nat} {id : UInt32} {out : List UInt64} {live : List Handle}
    {v v' : View} (hv : v.Flow cap id out) (h : CloseStep live v v') : v'.Flow cap id out := by
  obtain ⟨gone, -, -, rfl⟩ := h
  refine ⟨hv.bounded, ?_, hv.unopened⟩
  intro st hst
  simp only [closing] at hst
  split at hst
  · cases hst
  · exact hv.counted st hst

/-- A frame of a window with headroom is counted. -/
theorem Flow.frame {cap : Nat} {id : UInt32} {out : List UInt64} {v : View} {f : FrameData}
    {st : WindowStream} {budget : FrameBudget} (hv : v.Flow cap id out) (hc : v.Coupled)
    (hst : v.streams id = some st) (hroom : st.budget.hasHeadroom = true)
    (hcaptured : st.budget.onCaptured = some (f.frameId, budget)) (needsKeyframe : Bool) :
    ((v.tell [⟨st.videoChannel, .frameData f⟩]).setStream id
      (some { st with budget, needsKeyframe })).Flow cap id (out ++ [f.frameId]) := by
  obtain ⟨hin, hmax, hord⟩ := hv.counted st hst
  obtain ⟨hin', hmax', hord'⟩ := FrameBudget.onCaptured_headroom hcaptured hroom
  have hlt : st.budget.inFlight.length < st.budget.maxInFlight := of_decide_eq_true hroom
  refine ⟨?_, ?_, ?_⟩
  · rw [← hin, List.length_append, List.length_singleton]
    omega
  · intro st' hst'
    rw [setStream_streams, if_pos rfl] at hst'
    cases hst'
    exact ⟨hin ▸ hin', hmax'.trans hmax, hord' hord⟩
  · intro hle
    have hnone := hc.stream_fresh hle
    rw [hst] at hnone
    cases hnone

/-- An ack retires in the budget what it retires on the wire. -/
theorem Flow.ack {cap : Nat} {id : UInt32} {out : List UInt64} {v : View}
    (hv : v.Flow cap id out) (k : UInt32) (frameId : UInt64) :
    (v.ack k frameId).Flow cap id (retired id (.acked k frameId) out) where
  bounded := (retired_length_le id _ out).trans hv.bounded
  counted := by
    intro st hst
    rw [View.ack, setStream_streams] at hst
    split at hst
    · rename_i hid
      obtain ⟨st₀, hst₀, rfl⟩ := Option.map_eq_some_iff.mp hst
      obtain ⟨hin, hmax, hord⟩ := hv.counted st₀ (hid ▸ hst₀)
      simp only [retired, if_pos hid.symm]
      rw [← hin]
      exact ⟨FrameBudget.onAck_inFlight hord frameId, hmax, hord.onAck frameId⟩
    · rename_i hid
      simp only [retired, if_neg (Ne.symm hid)]
      exact hv.counted st hst
  unopened := by
    intro hle
    have hout := hv.unopened hle
    have hshort := retired_length_le id (.acked k frameId) out
    rw [hout] at hshort ⊢
    exact List.eq_nil_of_length_eq_zero (Nat.le_zero.mp hshort)

end View

/-- A snapshot's window sends no frames. -/
theorem SyncStep.adds {cfg : Config} {w : SourceWindow} {v v' : View} (h : SyncStep cfg w v v')
    (id : UInt32) : v.Adds id v' [] := by
  cases h with
  | opened t _ _ _ _ => exact ⟨_, rfl, rfl⟩
  | updated t st _ _ =>
      refine ⟨updateMessages t.windowId st w, rfl, ?_⟩
      have htitle : frameIds id (titleMessages t.windowId st w) = [] := by
        unfold titleMessages
        split <;> rfl
      have hstate : frameIds id (stateMessages t.windowId st w) = [] := by
        unfold stateMessages
        split <;> rfl
      have hgeometry : frameIds id (geometryMessages t.windowId st w) = [] := by
        unfold geometryMessages
        split <;> rfl
      rw [updateMessages, frameIds_append, frameIds_append, htitle, hstate, hgeometry]
      rfl
  | skipped => exact .refl id v

/-- The windows of a snapshot add nothing to the flow. -/
theorem syncs_add {cfg : Config} {live : List SourceWindow} {v v' : View}
    (h : Chain (SyncStep cfg) live v v') (id : UInt32) : v.Adds id v' [] := by
  apply h.keep (.refl id v)
  intro w _ a b hstep ha
  exact ha.trans (hstep.adds id)

/-- Closing windows adds nothing to the flow. -/
theorem CloseStep.adds {live : List Handle} {v v' : View} (h : CloseStep live v v')
    (id : UInt32) : v.Adds id v' [] := by
  obtain ⟨gone, -, -, rfl⟩ := h
  refine ⟨gone.map closedMessage, rfl, ?_⟩
  induction gone with
  | nil => rfl
  | cons t gone ih => exact ih

/-! ## Sessions that keep count -/

section Counted

variable {W E I : Type} {cfg : Config} {v v₀ : View} {cap : Nat} {id : UInt32}
  {out : List UInt64}

/-- A session that has sent some more frames since `v₀`, all of them counted. -/
def Counted (cap : Nat) (id : UInt32) (out : List UInt64) (v₀ : View) (s : Session W E I) :
    Prop :=
  ∃ v ids, At v s ∧ v.Coupled ∧ v₀.Adds id v ids ∧ v.Flow cap id (out ++ ids)

/-- A session that stopped, and has not sent too many frames since `v₀`. -/
def Within (cap : Nat) (id : UInt32) (out : List UInt64) (v₀ : View) (_ : Stop)
    (s : Session W E I) : Prop :=
  (out ++ frameIds id (s.outbound.told.drop v₀.told.length)).length ≤ cap

/-- A session that stopped on its way to a view which does not exceed the bound. -/
theorem within_of_cut {ids : List UInt64} (hadds : v₀.Adds id v ids)
    (hbound : (out ++ ids).length ≤ cap) {e : Stop} {s : Session W E I}
    (htold : s.view.told <+: v.told) : Within cap id out v₀ e s := by
  have hpre := (hadds.cut htold).length_le
  rw [List.length_append] at hbound
  unfold Within
  rw [List.length_append]
  exact (Nat.add_le_add_left hpre _).trans hbound

/-- A step without frames adds nothing to those before it. -/
theorem View.Adds.snoc_nil {ids : List UInt64} {v' : View} (hadds : v₀.Adds id v ids)
    (h : v.Adds id v' []) : v₀.Adds id v' ids := by
  have hall := hadds.trans h
  rwa [List.append_nil] at hall

/-- What is told of a window keeps the count, unless its budget is begun anew. -/
theorem syncWindow_counted (w : SourceWindow) :
    Triple
      (fun s => s.keepsBounds w = true ∧
        Counted (max cfg.maxFramesInFlight.toNat 1) id out v₀ s)
      (syncWindow cfg w : Act W E I Unit)
      (fun _ => Counted (max cfg.maxFramesInFlight.toNat 1) id out v₀)
      (Within (max cfg.maxFramesInFlight.toNat 1) id out v₀) := by
  intro s hs
  obtain ⟨hkeeps, v, ids, hat, hc, hadds, hflow⟩ := hs
  have hempty : ∀ t st, v.windows w.handle = some t → v.streams t.windowId = some st →
      movesGeometry st w = true → st.budget.inFlight = [] := by
    intro t st ht hst hmoves
    rw [← hat.1] at ht hst
    have ht' : s.registry.handleToWindow.lookup w.handle = some t := ht
    have hst' : s.streams.lookup t.windowId = some st := hst
    simpa [Session.keepsBounds, ht', hst', hmoves] using hkeeps
  refine syncWindow_at.conseq (fun s hs => hs) (fun _ s hs => ?_) (fun e s hs => ?_) s hat
  · obtain ⟨v', hstep, hat⟩ := hs
    exact ⟨v', ids, hat, hc.sync hstep, hadds.snoc_nil (hstep.adds id),
      hflow.sync hc hstep hempty⟩
  · obtain ⟨before, v', -, hchain, htold⟩ := hs
    exact within_of_cut (hadds.snoc_nil (syncs_add hchain id)) hflow.bounded htold

/-- Closing windows keeps the count. -/
theorem closeGone_counted [FrameEncoder E] (handles : List Handle) :
    Triple (Counted cap id out v₀)
      (do
        let gone ← retainLive handles
        gone.forM (closeWindow cfg) : Act W E I Unit)
      (fun _ => Counted cap id out v₀) (Within cap id out v₀) := by
  intro s hs
  obtain ⟨v, ids, hat, hc, hadds, hflow⟩ := hs
  refine closeGone_at.conseq (fun s hs => hs) (fun _ s hs => ?_) (fun e s hs => ?_) s hat
  · obtain ⟨v', hclose, hat⟩ := hs
    exact ⟨v', ids, hat, hc.close hclose, hadds.snoc_nil (hclose.adds id), hflow.close hclose⟩
  · obtain ⟨v', hclose, htold⟩ := hs
    exact within_of_cut (hadds.snoc_nil (hclose.adds id)) hflow.bounded htold

/-- **A snapshot** keeps the count along its windows. -/
theorem syncWindows_counted [WindowSource W] [FrameEncoder E] {s₀ : Session W E I}
    (hkeeps : along (fun w s => s.keepsBounds w) (syncWindow cfg)
      (WindowSource.liveWindows s₀.source).1
      { s₀ with source := (WindowSource.liveWindows s₀.source).2 } = true)
    (hs₀ : Counted (max cfg.maxFramesInFlight.toNat 1) id out v₀ s₀) :
    Triple (· = s₀) (syncWindows cfg : Act W E I Unit)
      (fun _ => Counted (max cfg.maxFramesInFlight.toNat 1) id out v₀)
      (Within (max cfg.maxFramesInFlight.toNat 1) id out v₀) := by
  unfold syncWindows
  refine Triple.bind (R := fun live s => along (fun w s => s.keepsBounds w) (syncWindow cfg)
    live s = true ∧ Counted _ id out v₀ s) ?_ fun live =>
      (triple_forM_along syncWindow_counted).bind fun _ => closeGone_counted _
  intro s hs
  subst hs
  exact ⟨hkeeps, hs₀⟩

/-! ## The frame pump -/

/-- Without a picture nothing is sent. -/
theorem unoffered_view [WindowSource W] [FrameEncoder E] {s : Session W E I} {k : UInt32}
    {st st' : WindowStream} {frame : SourceFrame} {F : Feed E}
    (hst : s.streams.lookup k = some st) (hnone : s.offers cfg st = false)
    (hcaptured : s.captured cfg k = some (st', frame))
    (hstep : PumpStep cfg k st' frame s.view s.encoder F) : F.view = s.view := by
  obtain ⟨hst', -, hroom, hframe⟩ := captured_inv hcaptured
  cases hst.symm.trans hst'
  unfold Session.offers offersPicture at hnone
  rw [decide_eq_true hroom, Bool.true_and, hframe] at hnone
  cases hstep with
  | waited => rfl
  | empty => rfl
  | coded hcoding hpoll hfits hcap =>
      unfold Coding submitted at hcoding
      unfold submitted at hpoll
      dsimp only at hnone
      rw [if_pos hcoding, hpoll] at hnone
      cases hnone
  | raw hraw hdata hcap =>
      unfold Coding submitted at hraw
      dsimp only at hnone
      rw [if_neg hraw, hdata] at hnone
      cases hnone

/-- A window that has nothing to send, or no slot to send it on. -/
theorem pumpWindow_unoffered [WindowSource W] [FrameEncoder E] {s₀ : Session W E I}
    {k : UInt32} {st : WindowStream} (hs₀ : At v s₀) (hst : s₀.streams.lookup k = some st)
    (hnone : s₀.offers cfg st = false) :
    Triple (· = s₀) (pumpWindow cfg k : Act W E I Unit) (fun _ => At v) (Cut v) := by
  obtain ⟨rfl, hreg⟩ := hs₀
  refine (pumpWindow_feed hreg).conseq (fun s hs => hs) (fun _ s hs => ?_) (fun stop s hs => ?_)
  · cases hcaptured : s₀.captured cfg k with
    | none =>
        rw [hcaptured] at hs
        exact hs.1
    | some r =>
        obtain ⟨st', frame⟩ := r
        rw [hcaptured] at hs
        obtain ⟨F, hstep, hs⟩ := hs
        have hview : F.view = s₀.view := unoffered_view hst hnone hcaptured hstep
        rw [← hview]
        exact hs.1
  · rcases hs with ⟨-, htold, -⟩ | ⟨st', frame, -, hcut⟩
    · exact ⟨[], (List.append_nil _).trans htold⟩
    · exact ⟨[], (List.append_nil _).trans hcut.told_eq⟩

/-- A frame is counted, whichever window it is of. -/
theorem counted_frame {k : UInt32} {v' : View} {ids : List UInt64} (h : FrameStep k v v')
    (hroom : ∀ st, v.streams k = some st → st.showState ≠ WindowShow.minimized →
      st.budget.hasHeadroom = true) (hc : v.Coupled) (hadds : v₀.Adds id v ids)
    (hflow : v.Flow cap id (out ++ ids)) :
    ∃ ids', v₀.Adds id v' ids' ∧ v'.Flow cap id (out ++ ids') := by
  obtain ⟨f, st, budget, needsKeyframe, hid, hst, hshown, hcaptured, rfl⟩ := h
  by_cases hk : k = id
  · subst hk
    have hsent : frameIds k [⟨st.videoChannel, .frameData f⟩] = [f.frameId] := by
      simp [frameIds, hid]
    refine ⟨ids ++ [f.frameId], hadds.trans ⟨_, rfl, hsent⟩, ?_⟩
    rw [← List.append_assoc]
    exact hflow.frame hc hst (hroom st hst hshown) hcaptured needsKeyframe
  · have hsent : frameIds id [⟨st.videoChannel, .frameData f⟩] = [] := by
      simp [frameIds, hid, hk]
    refine ⟨ids, hadds.snoc_nil ⟨_, rfl, hsent⟩, ?_⟩
    exact (hflow.tell _).setStream hst fun heq => absurd heq hk

/-- **The turn of a window** keeps the count where the budget forgets nothing. -/
theorem pumpWindow_counted [WindowSource W] [FrameEncoder E] (k : UInt32) :
    Triple (fun s => s.keepsRoom cfg k = true ∧ Counted cap id out v₀ s)
      (pumpWindow cfg k : Act W E I Unit) (fun _ => Counted cap id out v₀)
      (Within cap id out v₀) := by
  intro s hs
  obtain ⟨hkeeps, v, ids, hat, hc, hadds, hflow⟩ := hs
  have hstream : ∀ st, v.streams k = some st → s.streams.lookup k = some st := by
    intro st hst
    rw [← hat.1] at hst
    exact hst
  by_cases hoffer : ∃ st, s.streams.lookup k = some st ∧ s.offers cfg st = false
  · obtain ⟨st, hst, hnone⟩ := hoffer
    refine (pumpWindow_unoffered hat hst hnone).conseq (fun s hs => hs) (fun _ s hs => ?_)
      (fun e s hs => ?_) s rfl
    · exact ⟨v, ids, hs, hc, hadds, hflow⟩
    · exact within_of_cut hadds hflow.bounded hs
  · have hroom : ∀ st, v.streams k = some st → st.showState ≠ WindowShow.minimized →
        st.budget.hasHeadroom = true := by
      intro st hst hshown
      have hlook := hstream st hst
      have hoffers : s.offers cfg st = true := by
        by_contra hnone
        exact hoffer ⟨st, hlook, Bool.eq_false_iff.mpr hnone⟩
      simpa [Session.keepsRoom, hlook, hshown, hoffers] using hkeeps
    refine pumpWindow_at.conseq (fun s hs => hs) (fun _ s hs => ?_) (fun e s hs => ?_) s hat
    · obtain ⟨v', hstep, hat'⟩ := hs
      rcases hstep with hsame | hstep
      · rw [hsame] at hat'
        exact ⟨v, ids, hat', hc, hadds, hflow⟩
      · obtain ⟨ids', hadds', hflow'⟩ := counted_frame hstep hroom hc hadds hflow
        exact ⟨v', ids', hat', hc.idle hstep.idle, hadds', hflow'⟩
    · exact within_of_cut hadds hflow.bounded hs

/-- The turns of all windows keep it where none does. -/
theorem pumpFrames_counted [WindowSource W] [FrameEncoder E] :
    Triple
      (fun s => along (fun id s => s.keepsRoom cfg id) (pumpWindow cfg)
        (s.streams.keys.insertionSort (· ≤ ·)) s = true ∧ Counted cap id out v₀ s)
      (pumpFrames cfg : Act W E I Unit) (fun _ => Counted cap id out v₀)
      (Within cap id out v₀) := by
  unfold pumpFrames
  refine Triple.bind
    (R := fun a s => along (fun id s => s.keepsRoom cfg id) (pumpWindow cfg)
      (a.streams.keys.insertionSort (· ≤ ·)) s = true ∧ Counted cap id out v₀ s)
    (triple_get fun s hs => hs) fun a => ?_
  exact triple_forM_along pumpWindow_counted

/-! ## One turn -/

/-- **One tick** that forgets nothing adds the frames it sends, and no others. -/
theorem tick_counted [WindowSource W] [FrameEncoder E] :
    Triple
      (fun s => s.forgetsNone cfg = true ∧
        Counted (max cfg.maxFramesInFlight.toNat 1) id out v₀ s)
      (tick cfg : Act W E I Unit)
      (fun _ => Counted (max cfg.maxFramesInFlight.toNat 1) id out v₀)
      (Within (max cfg.maxFramesInFlight.toNat 1) id out v₀) := by
  intro s₀ hs₀
  obtain ⟨hkeeps, hs₀⟩ := hs₀
  simp only [Session.forgetsNone, Bool.and_eq_true] at hkeeps
  obtain ⟨hbounds, hroom⟩ := hkeeps
  have hsync := syncWindows_counted hbounds hs₀ s₀ rfl
  have hboth : Triple (· = s₀) (syncWindows cfg : Act W E I Unit)
      (fun _ s => along (fun id s => s.keepsRoom cfg id) (pumpWindow cfg)
        (s.streams.keys.insertionSort (· ≤ ·)) s = true ∧
          Counted (max cfg.maxFramesInFlight.toNat 1) id out v₀ s)
      (Within (max cfg.maxFramesInFlight.toNat 1) id out v₀) := by
    intro s hs
    subst hs
    cases hrun : (syncWindows cfg).run s with
    | ok u s' =>
        rw [hrun] at hsync hroom
        exact ⟨hroom, hsync⟩
    | error e s' =>
        rw [hrun] at hsync
        exact hsync
  exact (hboth.bind fun _ => pumpFrames_counted) s₀ rfl

/-- A turn that is no tick sends no frames, and retires those that were acknowledged. -/
theorem TurnStep.flow {turn : Turn} {v v' : View} (h : TurnStep cfg turn v v')
    (hno : turn.snapshot = none) (hc : v.Coupled) (hv : v.Flow cap id out) :
    v'.Coupled ∧ v.Adds id v' [] ∧ v'.Flow cap id (retired id turn out) := by
  cases turn with
  | tick live => cases hno
  | acked k frameId =>
      cases h
      exact ⟨hc.idle (View.idle_ack v k frameId), ⟨[], (List.append_nil _).symm, rfl⟩,
        hv.ack k frameId⟩
  | pinged =>
      obtain ⟨p, rfl⟩ := h
      exact ⟨hc.idle (View.idle_tell v _), ⟨_, rfl, rfl⟩, hv.tell _⟩
  | quiet =>
      cases h
      exact ⟨hc, .refl id v, hv⟩

/-- A message is no snapshot. -/
theorem Turn.snapshot_ofMessage (m : Message) : (Turn.ofMessage m).snapshot = none := by
  cases m <;> rfl

/-- **One turn.**  After a turn that forgets nothing the frames outstanding are those it did
not retire and those it sent. -/
theorem step_counted [WindowSource W] [FrameEncoder E] [InputSink I] {s₀ : Session W E I}
    {event : Event} (hkeeps : (event != .tick || s₀.forgetsNone cfg) = true)
    (hreg : s₀.registry.WellFormed) (hc : s₀.view.Coupled)
    (hv : s₀.view.Flow (max cfg.maxFramesInFlight.toNat 1) id out) :
    Triple (· = s₀) (step cfg event : Act W E I Unit)
      (fun _ => Counted (max cfg.maxFramesInFlight.toNat 1) id
        (retired id (turnOf s₀ event) out) s₀.view)
      (Within (max cfg.maxFramesInFlight.toNat 1) id (retired id (turnOf s₀ event) out)
        s₀.view) := by
  have hat : At s₀.view s₀ := ⟨rfl, hreg⟩
  have hbound : (retired id (turnOf s₀ event) out ++ []).length ≤
      max cfg.maxFramesInFlight.toNat 1 := by
    rw [List.append_nil]
    exact (retired_length_le id _ out).trans hv.bounded
  intro s hs
  subst hs
  cases event with
  | incoming msg =>
      refine onMessage_at.conseq (fun s hs => hs) (fun _ s' hs' => ?_) (fun e s' hs' => ?_) s hat
      · obtain ⟨v', hturn, hat'⟩ := hs'
        obtain ⟨hc', hadds, hflow⟩ := hturn.flow (Turn.snapshot_ofMessage msg) hc hv
        refine ⟨v', [], hat', hc', hadds, ?_⟩
        rw [List.append_nil]
        exact hflow
      · exact within_of_cut (.refl id s.view) hbound hs'
  | tick =>
      have hkeeps' : s.forgetsNone cfg = true := by simpa using hkeeps
      refine tick_counted s ⟨hkeeps', s.view, [], hat, hc, .refl id s.view, ?_⟩
      rw [List.append_nil]
      exact hv
  | readerStopped => exact within_of_cut (.refl id s.view) hbound List.prefix_rfl
  | writerStopped failed => exact within_of_cut (.refl id s.view) hbound List.prefix_rfl

/-! ## A run -/

/-- The induction over the events, from any session whose budgets count the frames in
`out`. -/
theorem outstanding_le [WindowSource W] [FrameEncoder E] [InputSink I] {s : Session W E I}
    {events : List Event} (hall : everyTick (Session.forgetsNone cfg) cfg events s = true)
    (hreg : s.registry.WellFormed) (hc : s.view.Coupled)
    (hv : s.view.Flow (max cfg.maxFramesInFlight.toNat 1) id out) :
    (outstanding cfg id out s events).length ≤ max cfg.maxFramesInFlight.toNat 1 := by
  induction events generalizing s out with
  | nil => exact hv.bounded
  | cons event rest ih =>
      unfold everyTick at hall
      rw [along, Bool.and_eq_true] at hall
      obtain ⟨htick, hrest⟩ := hall
      have hstep := step_counted htick hreg hc hv s rfl
      rw [outstanding]
      cases hrun : (step cfg event).run s with
      | error e m =>
          rw [hrun] at hstep
          exact hstep
      | ok u m =>
          rw [hrun] at hstep hrest
          obtain ⟨v', ids, ⟨rfl, hm⟩, hc', ⟨new, htold, hids⟩, hflow⟩ := hstep
          have hnew : m.outbound.told.drop s.outbound.told.length = new := by
            have hdrop : (s.view.told ++ new).drop s.view.told.length = new := List.drop_left
            rwa [← htold] at hdrop
          apply ih hrest hm hc'
          simp only [leftBy]
          rw [hnew, hids]
          exact hflow

/-- **The bound on frames in flight.**  In every run whose ticks forget nothing, at most as
many frames of a window as negotiated are on the queue or on their way without an ack. -/
theorem outstanding_bounded_of_forgetsNone [WindowSource W] [FrameEncoder E] [InputSink I]
    (cfg : Config) (hmax : 1 ≤ cfg.maxFramesInFlight.toNat) (source : W) (encoder : E) (sink : I)
    (events : List Event)
    (hall : everyTick (Session.forgetsNone cfg) cfg events
      (Session.start source encoder sink) = true)
    (id : UInt32) :
    (outstanding cfg id [] (Session.start source encoder sink) events).length ≤
      cfg.maxFramesInFlight.toNat := by
  obtain ⟨hview, hreg⟩ := start_at source encoder sink
  have hcoupled : (Session.start source encoder sink).view.Coupled := hview ▸ .start
  have hflow : (Session.start source encoder sink).view.Flow
      (max cfg.maxFramesInFlight.toNat 1) id [] := hview ▸ .start _ id
  have hle := outstanding_le hall hreg hcoupled hflow
  rwa [max_eq_left hmax] at hle

end Counted

/-- Two frames, an ack for both, and another frame. -/
def ackedEvents : List Event :=
  [.tick, .tick,
    .incoming (.frameAck { windowId := 1, frameId := 2, decodedUs := 0, presentedUs := 0 }), .tick]

/-- A run with acknowledgements: the frames in flight stay within the budget. -/
theorem outstanding_bounded_acked :
    everyTick (Session.forgetsNone .stalled) .stalled ackedEvents
      (Session.start busyScript NoopEncoder.mk NoopSink.mk) = true ∧
    (outstanding .stalled 1 [] (Session.start busyScript NoopEncoder.mk NoopSink.mk)
      ackedEvents).length ≤ Config.stalled.maxFramesInFlight.toNat := by
  have hall : everyTick (Session.forgetsNone .stalled) .stalled ackedEvents
      (Session.start busyScript NoopEncoder.mk NoopSink.mk) = true := by
    decide +kernel
  exact ⟨hall, outstanding_bounded_of_forgetsNone .stalled (by decide) busyScript NoopEncoder.mk
    NoopSink.mk ackedEvents hall 1⟩

/-- **The budget forgets frames.**  A window with a new frame at every tick and a client
that acknowledges none: the third frame is put on the queue behind the two of the
budget. -/
theorem busy_window_exceeds_budget :
    Running .stalled busyScript NoopEncoder.mk NoopSink.mk (List.replicate 3 .tick)
      (sessionAfter .stalled busyScript NoopEncoder.mk NoopSink.mk (List.replicate 3 .tick)) ∧
    Config.stalled.acksEnabled = true ∧
    ¬(outstanding .stalled 1 [] (Session.start busyScript NoopEncoder.mk NoopSink.mk)
      (List.replicate 3 .tick)).length ≤ Config.stalled.maxFramesInFlight.toNat :=
  ⟨running_sessionAfter _ _ _ _ _ (by decide +kernel), rfl, by decide +kernel⟩

end Oxrdp
