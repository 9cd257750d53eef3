import Oxrdp.Agent.Feeding
import Oxrdp.Lib.Trace

/-!
# Turn by turn

The trace of a run are the turns its windows had in the frame pump, each with the session
before it (`pumpTurns`).  `TurnInv` lists what has to be shown of an invariant that speaks of
these turns: window sync, messages and one window's turn.

What a turn sends can be told from the session before it, with both timestamps
(`Session.shipped`): the turn looks at the clock once when it captures and once more when an
access unit was polled.  So the frames a run has sent are those that its turns shipped, in
order (`shipping_inv`).
-/

namespace Oxrdp

open Effect Machine

section Turns

variable {W E I : Type} [WindowSource W] [FrameEncoder E] {cfg : Config}

/-- The turns that the windows have in the frame pump of a tick, each with the session
before it. -/
def tickTurns (cfg : Config) (s : Session W E I) : List (UInt32 × Session W E I) :=
  match (syncWindows cfg).run s with
  | .ok _ s' =>
      traced (fun id s => [(id, s)]) (pumpWindow cfg) (s'.streams.keys.insertionSort (· ≤ ·)) s'
  | .error _ _ => []

def stepTurns (cfg : Config) : Event → Session W E I → List (UInt32 × Session W E I)
  | .tick, s => tickTurns cfg s
  | _, _ => []

/-- The turns of a run. -/
def pumpTurns [InputSink I] (cfg : Config) (events : List Event) (s : Session W E I) :
    List (UInt32 × Session W E I) :=
  traced (stepTurns cfg) (step cfg) events s

/-- What has to be shown of an invariant `K` of the turns so far and the session. -/
structure TurnInv [InputSink I] (cfg : Config)
    (K X : List (UInt32 × Session W E I) → Session W E I → Prop) : Prop where
  sync : Traces K (fun _ => []) (syncWindows cfg) X
  turn : ∀ id, Traces K (fun s => [(id, s)]) (pumpWindow cfg id) X
  message : ∀ m, Traces K (fun _ => []) (onMessage cfg m) X
  stopped : ∀ {turns s}, K turns s → X turns s

section Rule

variable [InputSink I] {K X : List (UInt32 × Session W E I) → Session W E I → Prop}

/-- The turns of a tick, by those of its windows. -/
theorem TurnInv.tick (hinv : TurnInv cfg K X) : Traces K (tickTurns cfg) (tick cfg) X := by
  intro before s hs
  have hsync := hinv.sync before s hs
  have htick : (Oxrdp.tick cfg).run s =
      EStateM.bind (syncWindows cfg) (fun _ => pumpFrames cfg) s := rfl
  rw [htick, tickTurns, EStateM.run]
  rw [EStateM.run, List.append_nil] at hsync
  unfold EStateM.bind
  cases hrun : syncWindows cfg s with
  | ok u s' =>
      rw [hrun] at hsync
      exact traces_forM hinv.turn (s'.streams.keys.insertionSort (· ≤ ·)) before s' hsync
  | error e s' =>
      rw [hrun] at hsync
      rw [List.append_nil]
      exact hsync

/-- The turns of an event are those of a tick, or none. -/
theorem TurnInv.step (hinv : TurnInv cfg K X) (event : Event) :
    Traces K (stepTurns cfg event) (step cfg event) X := by
  have hstop : ∀ stop : Stop,
      Traces K (fun _ => []) (throw stop : Act W E I Unit) X :=
    fun stop => traces_silent fun before => triple_throw fun s hs => hinv.stopped hs
  cases event with
  | incoming m => exact hinv.message m
  | readerStopped => exact hstop _
  | writerStopped failed => exact hstop _
  | tick => exact hinv.tick

/-- **Whole runs** keep an invariant of turns and session. -/
theorem TurnInv.drive (hinv : TurnInv cfg K X) (events : List Event) :
    Traces K (pumpTurns cfg events) (drive cfg events) X :=
  traces_forM hinv.step events

end Rule

/-! ## What a turn sends -/

/-- The frame that a message carries. -/
def Sent.frame (sent : Sent) : Option FrameData :=
  match sent.message with
  | .frameData f => some f
  | _ => none

/-- The frames among some messages. -/
def framesOf (told : List Sent) : List FrameData := told.filterMap Sent.frame

/-- Frames of two parts. -/
theorem framesOf_append (a b : List Sent) : framesOf (a ++ b) = framesOf a ++ framesOf b :=
  List.filterMap_append

/-- What stands aside is no frame. -/
theorem frame_aside {sent : Sent} (h : sent.aside = true) : sent.frame = none := by
  obtain ⟨ch, m⟩ := sent
  cases m <;> first | rfl | cases h

/-- What stands aside has no frames. -/
theorem framesOf_asides {told : List Sent} (h : ∀ m ∈ told, m.aside = true) :
    framesOf told = [] :=
  List.filterMap_eq_nil_iff.mpr fun m hm => frame_aside (h m hm)

/-- Closing sends no frames. -/
theorem framesOf_closed (gone : List TrackedWindow) : framesOf (gone.map closedMessage) = [] := by
  apply List.filterMap_eq_nil_iff.mpr
  intro m hm
  obtain ⟨t, -, rfl⟩ := List.mem_map.mp hm
  rfl

instance (cfg : Config) (st : WindowStream) (e : E) : Decidable (Coding cfg st e) :=
  inferInstanceAs (Decidable (_ ∧ _))

/-- What the encoder and the pixels make of a captured frame, at these times. -/
def pictureOf (cfg : Config) (st : WindowStream) (frame : SourceFrame)
    (capturedUs encodedUs : UInt64) (e : E) : Option Picture :=
  if Coding cfg st e then (FrameEncoder.poll e st.handle).1.map fun u => u.picture encodedUs
  else if frame.data.isEmpty then none
  else some (rawPicture frame capturedUs)

/-- The message for a picture, if there is a number for it and it fits. -/
def Picture.numbered (picture : Picture) (id : UInt32) (budget : FrameBudget)
    (capturedUs : UInt64) : Option FrameData :=
  match budget.onCaptured with
  | none => none
  | some (frameId, _) =>
      if picture.data.length < 2 ^ 32 then some (picture.frame id frameId capturedUs) else none

/-- What a window's turn makes of the frame it captures. -/
def Session.made (cfg : Config) (s : Session W E I) (id : UInt32) (st : WindowStream)
    (frame : SourceFrame) : Option FrameData :=
  (pictureOf cfg st frame (cfg.env.clock (s.looks + 1)) (cfg.env.clock (s.looks + 2))
    (submitted cfg st frame s.encoder)).bind
      fun picture => picture.numbered id st.budget (cfg.env.clock (s.looks + 1))

/-- The frame that a window's turn puts on the queue. -/
def Session.shipped (cfg : Config) (s : Session W E I) (id : UInt32) : Option FrameData :=
  (s.captured cfg id).bind fun (st, frame) => s.made cfg id st frame

/-- What is behind a frame that a turn puts on the queue. -/
theorem shipped_picture {s : Session W E I} {id : UInt32} {f : FrameData}
    (h : s.shipped cfg id = some f) :
    ∃ st frame picture frameId, s.captured cfg id = some (st, frame) ∧
      pictureOf cfg st frame (cfg.env.clock (s.looks + 1)) (cfg.env.clock (s.looks + 2))
        (submitted cfg st frame s.encoder) = some picture ∧
      f = picture.frame id frameId (cfg.env.clock (s.looks + 1)) := by
  unfold Session.shipped at h
  obtain ⟨⟨st, frame⟩, hcaptured, hmade⟩ := Option.bind_eq_some_iff.mp h
  obtain ⟨picture, hpicture, hnumbered⟩ := Option.bind_eq_some_iff.mp hmade
  unfold Picture.numbered at hnumbered
  split at hnumbered
  · cases hnumbered
  · split at hnumbered
    · cases hnumbered
      exact ⟨st, frame, picture, _, hcaptured, hpicture, rfl⟩
    · cases hnumbered

/-! ## What a turn was seen to send -/

section Shipping

variable {v : View} {e : E} {id : UInt32} {st : WindowStream} {frame : SourceFrame}
  {n : Nat} {told : List Sent}

omit [WindowSource W] [FrameEncoder E]

/-- A session with this view and encoder, about to take its look `n`. -/
def OnLook (F : Feed E) (n : Nat) (s : Session W E I) : Prop := OnFeed F s ∧ s.looks = n

/-- Since `told` the frame `f?` was put on the queue, and nothing else; its picture was ready
at one of the looks from `n` on. -/
def Shipped (cfg : Config) (n : Nat) (told : List Sent) (f? : Option FrameData)
    (s : Session W E I) : Prop :=
  framesOf s.outbound.told = framesOf told ++ f?.toList ∧ n ≤ s.looks ∧
    ∀ f ∈ f?, ∃ k, n ≤ k ∧ k < s.looks ∧ f.encodedUs = cfg.env.clock k

/-- Nothing was shipped, after at least as many looks at the clock. -/
theorem Shipped.none {s : Session W E I} (htold : s.outbound.told = told) (hn : n ≤ s.looks) :
    Shipped cfg n told none s :=
  ⟨by rw [htold]; exact (List.append_nil _).symm, hn, fun f hf => by cases hf⟩

/-- What was sent since a look was sent since any earlier one. -/
theorem Shipped.since {s : Session W E I} {f? : Option FrameData}
    (h : Shipped cfg (n + 1) told f? s) : Shipped cfg n told f? s := by
  obtain ⟨htold, hlooks, hready⟩ := h
  refine ⟨htold, by omega, ?_⟩
  intro f hf
  obtain ⟨k, hk, hlt, hus⟩ := hready f hf
  exact ⟨k, by omega, hlt, hus⟩

/-- A look at the clock is counted. -/
theorem elapsedUs_look {X : Stop → Session W E I → Prop} :
    Triple (OnLook ⟨v, e⟩ n) (elapsedUs cfg : Act W E I UInt64)
      (fun t s => t = cfg.env.clock n ∧ OnLook ⟨v, e⟩ (n + 1) s) X := by
  intro s hs
  obtain ⟨hfeed, rfl⟩ := hs
  exact ⟨rfl, hfeed, rfl⟩

/-- The tables are no look at the clock. -/
theorem putStream_looks (id : UInt32) (st : WindowStream) :
    Keeps Session.looks (putStream id st : Act W E I Unit) :=
  keeps_modify fun _ => rfl

/-- A frame is stamped before it is sent. -/
theorem sendFrame_looks (picture : Picture) (capturedUs : UInt64) :
    Keeps Session.looks (sendFrame id st picture capturedUs : Act W E I Unit) := by
  unfold sendFrame
  cases st.budget.onCaptured with
  | none => exact keeps_throw _
  | some r =>
      refine (putStream_looks id _).bind fun _ => ?_
      simp only
      split
      · exact keeps_throw _
      · exact keeps_modify fun _ => rfl

/-- A picture that is numbered goes out, and nothing else does. -/
theorem sendFrame_ships {picture : Picture} (capturedUs : UInt64) {k m : Nat}
    (hready : picture.encodedUs = cfg.env.clock k) (hk : n ≤ k) (hm : k < m) :
    Triple (OnLook ⟨v.setStream id (some st), e⟩ m)
      (sendFrame id st picture capturedUs : Act W E I Unit)
      (fun _ => Shipped cfg n v.told (picture.numbered id st.budget capturedUs))
      (fun _ => Shipped cfg n v.told (picture.numbered id st.budget capturedUs)) := by
  refine (sendFrame_feed.and (sendFrame_looks picture capturedUs m)).conseq (fun s hs => hs)
    (fun _ s hs => ?_) fun stop s hs => ?_
  · obtain ⟨⟨frameId, budget, hcap, hfits, ⟨hview, -⟩, -⟩, hlooks⟩ := hs
    have hnumbered : picture.numbered id st.budget capturedUs =
        some (picture.frame id frameId capturedUs) := by
      rw [Picture.numbered, hcap]
      exact if_pos hfits
    rw [hnumbered]
    refine ⟨?_, by omega, ?_⟩
    · have htold : s.outbound.told = v.told ++
          [⟨st.videoChannel, .frameData (picture.frame id frameId capturedUs)⟩] :=
        congrArg View.told hview
      rw [htold, framesOf_append]
      rfl
    · intro f hf
      cases hf
      exact ⟨k, hk, by omega, hready⟩
  · obtain ⟨⟨htold, -, hunsent⟩, hlooks⟩ := hs
    have hnumbered : picture.numbered id st.budget capturedUs = none := by
      unfold Picture.numbered
      cases hunsent with
      | numbered h => rw [h]
      | encoded _ h =>
          cases st.budget.onCaptured with
          | none => rfl
          | some r => exact if_neg (Nat.not_lt.mpr h)
    rw [hnumbered]
    exact .none htold (by omega)

/-- A picture is ready to be sent at one of the looks from `n` on, or there is none. -/
def Ready (cfg : Config) (id : UInt32) (n : Nat) (v : View) (budget : FrameBudget) :
    Option (Picture × WindowStream) → Session W E I → Prop
  | none, s => s.outbound.told = v.told ∧ n ≤ s.looks
  | some (picture, st), s => st.budget = budget ∧ ∃ k m e, n ≤ k ∧ k < m ∧
      picture.encodedUs = cfg.env.clock k ∧ OnLook ⟨v.setStream id (some st), e⟩ m s

/-- The look at the queue. -/
theorem reserveFrameSlot_look {s₀ : Session W E I} (hreg : s₀.registry.WellFormed) :
    Triple (· = s₀) (reserveFrameSlot cfg : Act W E I Bool)
      (fun slot s => ((s₀.queueNow cfg).closed = false ∧
        slot = decide ((s₀.queueNow cfg).queued.length < outboundQueueCapacity)) ∧
        OnLook s₀.feed (s₀.looks + 1) s ∧ s.source = s₀.source)
      (fun _ s => (s₀.queueNow cfg).closed = true ∧ OnLook s₀.feed (s₀.looks + 1) s) := by
  intro s hs
  have hfeed := @reserveFrameSlot_feed W E I cfg s₀ hreg s hs
  subst hs
  rw [reserveFrameSlot_run] at hfeed ⊢
  by_cases hclosed : (s.queueNow cfg).closed = true
  · rw [if_pos hclosed] at hfeed ⊢
    exact ⟨hfeed.1, hfeed.2, rfl⟩
  · rw [if_neg hclosed] at hfeed ⊢
    exact ⟨hfeed.1, ⟨hfeed.2.1, rfl⟩, hfeed.2.2⟩

variable [FrameEncoder E]

/-- A unit that is ready is taken with the time at which it is. -/
theorem pollPicture_ready {m : Nat} (hm : n ≤ m) {X : Stop → Session W E I → Prop} :
    Triple (OnLook ⟨v, e⟩ m)
      (pollPicture cfg id st : Act W E I (Option (Picture × WindowStream)))
      (fun r s => r.map Prod.fst =
          (FrameEncoder.poll e st.handle).1.map (fun u => u.picture (cfg.env.clock m)) ∧
        Ready cfg id n v st.budget r s) X := by
  unfold pollPicture
  refine Triple.bind (R := fun encoded s => (FrameEncoder.poll e st.handle).1 = encoded ∧
    OnLook ⟨v, (FrameEncoder.poll e st.handle).2⟩ m s) ?_ fun encoded =>
      triple_of_fact fun hencoded => ?_
  · intro s hs
    obtain ⟨⟨hat, rfl⟩, rfl⟩ := hs
    exact ⟨rfl, ⟨hat, rfl⟩, rfl⟩
  · rw [hencoded]
    cases encoded with
    | none =>
        refine triple_pure fun s hs => ⟨rfl, ?_⟩
        obtain ⟨⟨⟨hview, -⟩, -⟩, rfl⟩ := hs
        exact ⟨congrArg View.told hview, hm⟩
    | some u =>
        refine Triple.bind (R := fun _ => OnLook ⟨v.setStream id (some (st.polled u)),
          (FrameEncoder.poll e st.handle).2⟩ m) ?_ fun _ => elapsedUs_look.bind fun t =>
            triple_of_fact fun ht => triple_pure fun s hs => ⟨?_, rfl, ?_⟩
        · exact ((putStream_feed id _).and (putStream_looks id _ m)).conseq (fun s hs => hs)
            (fun _ s hs => hs) fun stop s hs => hs.1
        · rw [ht]
          rfl
        · exact ⟨m, m + 1, _, hm, Nat.lt_succ_self m, ht, hs⟩

/-- A frame is encoded on the spot, or its unit is taken if it is ready. -/
theorem encodeFrame_ready (hst : v.streams id = some st) {k m : Nat} (hk : n ≤ k) (hm : k < m)
    {X : Stop → Session W E I → Prop} :
    Triple (OnLook ⟨v, e⟩ m)
      (encodeFrame cfg id st frame (cfg.env.clock k) :
        Act W E I (Option (Picture × WindowStream)))
      (fun r s => r.map Prod.fst =
          pictureOf cfg st frame (cfg.env.clock k) (cfg.env.clock m) e ∧
        Ready cfg id n v st.budget r s) X := by
  unfold encodeFrame pictureOf
  refine Triple.bind (R := fun a s => a.encoder = e ∧ OnLook ⟨v, e⟩ m s)
    (triple_get fun s hs => ⟨hs.1.2, hs⟩) fun a => triple_of_fact fun ha => ?_
  rw [ha]
  by_cases hcoding : cfg.codec = Codec.h264 ∧ FrameEncoder.failed e st.handle = false
  · rw [if_pos hcoding, if_pos (show Coding cfg st e from hcoding)]
    exact pollPicture_ready (by omega)
  · rw [if_neg hcoding, if_neg (show ¬Coding cfg st e from hcoding)]
    by_cases hdata : frame.data.isEmpty = true
    · rw [if_pos hdata, if_pos hdata]
      refine triple_pure fun s hs => ⟨rfl, ?_⟩
      obtain ⟨⟨⟨hview, -⟩, -⟩, rfl⟩ := hs
      exact ⟨congrArg View.told hview, by omega⟩
    · rw [if_neg hdata, if_neg hdata]
      refine triple_pure fun s hs => ⟨rfl, rfl, k, m, e, hk, hm, rfl, ?_⟩
      rw [View.setStream_self hst]
      exact hs

/-- What comes of a captured frame goes out. -/
theorem captureFrame_ships (hst : v.streams id = some st) {k m : Nat} (hk : n ≤ k)
    (hm : k < m) :
    Triple (OnLook ⟨v, e⟩ m)
      (do
        match ← encodeFrame cfg id st frame (cfg.env.clock k) with
        | none => pure ()
        | some (picture, stream) => sendFrame id stream picture (cfg.env.clock k) : Act W E I Unit)
      (fun _ => Shipped cfg n v.told
        ((pictureOf cfg st frame (cfg.env.clock k) (cfg.env.clock m) e).bind
          fun picture => picture.numbered id st.budget (cfg.env.clock k)))
      (fun _ => Shipped cfg n v.told
        ((pictureOf cfg st frame (cfg.env.clock k) (cfg.env.clock m) e).bind
          fun picture => picture.numbered id st.budget (cfg.env.clock k))) := by
  refine (encodeFrame_ready (n := n) hst hk hm).bind fun r => triple_of_fact fun hr => ?_
  rw [← hr]
  cases r with
  | none => exact triple_pure fun s hs => .none hs.1 hs.2
  | some r =>
      obtain ⟨picture, st'⟩ := r
      intro s hs
      obtain ⟨hbudget, j, m', e', hj, hm', hready, hs⟩ := hs
      have hships := sendFrame_ships (cfg.env.clock k) hready hj hm' s hs
      rw [hbudget] at hships
      exact hships

/-- A frame is submitted without a look at the clock. -/
theorem submitFrame_look {X : Stop → Session W E I → Prop} :
    Triple (OnLook ⟨v, e⟩ n) (submitFrame cfg st frame : Act W E I Unit)
      (fun _ => OnLook ⟨v, submitted cfg st frame e⟩ n) X := by
  unfold submitFrame submitted
  split
  · intro s hs
    obtain ⟨⟨hat, rfl⟩, hlooks⟩ := hs
    exact ⟨⟨hat, rfl⟩, hlooks⟩
  · exact triple_pure fun s hs => hs

variable [WindowSource W]

/-- The frame that is captured, if any, is what is sent. -/
theorem captureWindow_ships {source : W} (hst : v.streams id = some st) :
    Triple (fun s => OnLook ⟨v, e⟩ n s ∧ s.source = source)
      (captureWindow cfg id st : Act W E I Unit)
      (fun _ => Shipped cfg n v.told
        ((WindowSource.nextFrame source st.handle (captureIntent cfg e st)).1.bind fun frame =>
          (pictureOf cfg st frame (cfg.env.clock n) (cfg.env.clock (n + 1))
            (submitted cfg st frame e)).bind
              fun picture => picture.numbered id st.budget (cfg.env.clock n)))
      (fun _ => Shipped cfg n v.told
        ((WindowSource.nextFrame source st.handle (captureIntent cfg e st)).1.bind fun frame =>
          (pictureOf cfg st frame (cfg.env.clock n) (cfg.env.clock (n + 1))
            (submitted cfg st frame e)).bind
              fun picture => picture.numbered id st.budget (cfg.env.clock n))) := by
  unfold captureWindow
  refine Triple.bind (R := fun a s => a.encoder = e ∧ OnLook ⟨v, e⟩ n s ∧ s.source = source)
    (triple_get fun s hs => ⟨hs.1.1.2, hs⟩) fun a => triple_of_fact fun ha => ?_
  rw [ha]
  refine Triple.bind (R := fun frame s =>
    (WindowSource.nextFrame source st.handle (captureIntent cfg e st)).1 = frame ∧
      OnLook ⟨v, e⟩ n s) ?_ fun frame => triple_of_fact fun hframe => ?_
  · intro s hs
    obtain ⟨hlook, rfl⟩ := hs
    exact ⟨rfl, hlook⟩
  rw [hframe]
  cases frame with
  | none =>
      refine triple_pure fun s hs => ?_
      obtain ⟨⟨⟨hview, -⟩, -⟩, rfl⟩ := hs
      exact .none (congrArg View.told hview) le_rfl
  | some frame =>
      refine elapsedUs_look.bind fun t => triple_of_fact fun ht => ?_
      rw [ht]
      exact submitFrame_look.bind fun _ =>
        captureFrame_ships hst le_rfl (Nat.lt_succ_self n)

/-- **One window's turn** puts what it ships on the queue, and nothing else. -/
theorem pumpWindow_ships {s₀ : Session W E I} (hreg : s₀.registry.WellFormed) (id : UInt32) :
    Triple (· = s₀) (pumpWindow cfg id : Act W E I Unit)
      (fun _ => Shipped cfg s₀.looks s₀.outbound.told (s₀.shipped cfg id))
      (fun _ => Shipped cfg s₀.looks s₀.outbound.told (s₀.shipped cfg id)) := by
  unfold pumpWindow
  refine Triple.bind (R := fun a s => a = s₀ ∧ s = s₀) (triple_get fun s hs => ⟨hs, hs⟩)
    fun a => triple_of_fact fun ha => ?_
  subst ha
  have hidle : a.captured cfg id = none →
      Triple (· = a) (pure () : Act W E I Unit)
        (fun _ => Shipped cfg a.looks a.outbound.told (a.shipped cfg id))
        (fun _ => Shipped cfg a.looks a.outbound.told (a.shipped cfg id)) := by
    intro hnone
    refine triple_pure fun s hs => ?_
    rw [hs, Session.shipped, hnone]
    exact .none rfl le_rfl
  cases hl : a.streams.lookup id with
  | none => exact hidle (by simp [Session.captured, hl])
  | some st =>
      simp only
      split
      · rename_i hmin
        exact hidle (by simp [Session.captured, hl, hmin])
      rename_i hshown
      refine Triple.bind ((reserveFrameSlot_look hreg).conseq (fun s hs => hs)
        (fun _ s hs => hs) fun stop s hs => ?_) fun slot => triple_of_fact fun hslot => ?_
      · obtain ⟨hclosed, ⟨⟨hview, -⟩, -⟩, hlooks⟩ := hs
        have hnone : a.captured cfg id = none := by simp [Session.captured, hl, hclosed]
        rw [Session.shipped, hnone]
        exact .none (congrArg View.told hview) (by omega)
      obtain ⟨hopen, hslot⟩ := hslot
      by_cases hroom : (a.queueNow cfg).queued.length < outboundQueueCapacity
      · have hcaptured : a.captured cfg id =
            (WindowSource.nextFrame a.source st.handle (captureIntent cfg a.encoder st)).1.map
              fun frame => (st, frame) := by
          simp [Session.captured, hl, hshown, hopen, hroom]
        rw [hslot, decide_eq_true hroom, if_pos rfl, Session.shipped, hcaptured, Option.bind_map]
        refine (captureWindow_ships hl).conseq (fun s hs => hs) (fun _ s hs => ?_)
          (fun stop s hs => ?_)
        · exact hs.since
        · exact hs.since
      · have hnone : a.captured cfg id = none := by
          simp [Session.captured, hl, Nat.le_of_not_lt hroom]
        rw [hslot, decide_eq_false hroom, Session.shipped, hnone]
        refine triple_pure fun s hs => ?_
        obtain ⟨⟨⟨⟨hview, -⟩, -⟩, hlooks⟩, -⟩ := hs
        exact .none (congrArg View.told hview) (by omega)

end Shipping

/-! ## What a run sends -/

section Shipped

/-- The frames that some turns put on the queue. -/
def shippedBy (cfg : Config) (turns : List (UInt32 × Session W E I)) : List FrameData :=
  turns.filterMap fun turn => turn.2.shipped cfg turn.1

/-- What the turns of two parts ship. -/
theorem shippedBy_append (before after : List (UInt32 × Session W E I)) :
    shippedBy cfg (before ++ after) = shippedBy cfg before ++ shippedBy cfg after :=
  List.filterMap_append

/-- What one turn ships. -/
theorem shippedBy_single (id : UInt32) (s : Session W E I) :
    shippedBy cfg [(id, s)] = (s.shipped cfg id).toList := by
  unfold shippedBy
  cases hshipped : s.shipped cfg id with
  | none => simp [hshipped]
  | some f => simp [hshipped]

/-- Only the frame pump sends frames. -/
theorem framesOf_inv (cfg : Config) (frames : List FrameData) :
    FeedInv (W := W) (E := E) (I := I) cfg (fun _ _ => false)
      (fun v _ => framesOf v.told = frames) (fun _ told _ => framesOf told = frames) where
  sync := by
    intro w v v' e _ hstep h
    obtain ⟨sent, htold, haside⟩ := hstep.tells
    rw [htold, framesOf_append, framesOf_asides haside, List.append_nil]
    exact h
  close := by
    intro live gone v e _ _ h
    change framesOf (v.told ++ gone.map closedMessage) = frames
    rw [framesOf_append, framesOf_closed, List.append_nil]
    exact h
  pump := by
    intro s id st frame F _ hp
    cases hp
  ack := fun _ _ h => h
  pong := by
    intro v e pong h
    change framesOf (v.told ++ [_]) = frames
    rw [framesOf_append, h]
    exact List.append_nil _
  aside := by
    intro v e sent stop _ haside h
    rw [framesOf_append, framesOf_asides haside, List.append_nil]
    exact h
  closing := by
    intro live gone v e told e' stop _ _ hstopped h
    obtain ⟨done, t, rest, -, rfl, -⟩ := hstopped
    rw [framesOf_append, framesOf_closed, List.append_nil]
    exact h
  pumping := by
    intro s id st frame stop told e' _ hp
    cases hp

/-- Every step of the driver keeps what is fed in order. -/
theorem fed_inv (cfg : Config) :
    FeedInv (W := W) (E := E) (I := I) cfg (fun _ _ => true) (fun _ _ => True)
      (fun _ _ _ => True) where
  sync _ _ _ := trivial
  close _ _ _ := trivial
  pump _ _ _ _ _ := trivial
  ack _ _ _ := trivial
  pong _ _ := trivial
  aside _ _ _ _ := trivial
  closing _ _ _ _ _ := trivial
  pumping _ _ _ _ _ := trivial

/-- **The frames of a run** are those its turns shipped, after the frames there were. -/
theorem shipping_inv [InputSink I] (cfg : Config) (frames : List FrameData) :
    TurnInv (W := W) (E := E) (I := I) cfg
      (fun turns => Fed fun v _ => framesOf v.told = frames ++ shippedBy cfg turns)
      (fun turns s => framesOf s.outbound.told = frames ++ shippedBy cfg turns) where
  sync := traces_silent fun before => syncWindows_fed (framesOf_inv cfg _)
  message m := traces_silent fun before => onMessage_fed (framesOf_inv cfg _) m
  turn id := by
    intro before s hs
    obtain ⟨hreg, hc, hframes⟩ := hs
    have hboth := ((pumpWindow_ships hreg id).and
      (pumpWindow_fed (fed_inv cfg) id)) s ⟨rfl, rfl, hreg, hc, trivial⟩
    have hsent : ∀ s' : Session W E I,
        Shipped cfg s.looks s.outbound.told (s.shipped cfg id) s' →
          framesOf s'.outbound.told = frames ++ shippedBy cfg (before ++ [(id, s)]) := by
      intro s' h
      rw [h.1, shippedBy_append, shippedBy_single, ← List.append_assoc, ← hframes]
      rfl
    cases hrun : (pumpWindow cfg id).run s with
    | ok u s' =>
        rw [hrun] at hboth
        obtain ⟨hships, hreg', hc', -⟩ := hboth
        exact ⟨hreg', hc', hsent s' hships⟩
    | error stop s' =>
        rw [hrun] at hboth
        exact hsent s' hboth.1
  stopped h := h.2.2

/-- The frames that a run has put on the queue. -/
theorem drive_shipped [InputSink I] (cfg : Config) (source : W) (encoder : E) (sink : I)
    (events : List Event) :
    framesOf (leftBy ((drive cfg events).run (Session.start source encoder sink))).outbound.told =
      shippedBy cfg (pumpTurns cfg events (Session.start source encoder sink)) := by
  have hrun := (shipping_inv cfg []).drive events [] (Session.start source encoder sink)
    ⟨WindowRegistry.new_wellFormed, .start, rfl⟩
  cases hdrive : (drive cfg events).run (Session.start source encoder sink) with
  | ok u s =>
      rw [hdrive] at hrun
      exact hrun.2.2
  | error stop s =>
      rw [hdrive] at hrun
      exact hrun

end Shipped

end Turns

end Oxrdp
