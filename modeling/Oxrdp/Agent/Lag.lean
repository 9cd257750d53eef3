import Oxrdp.Agent.Delivery
import Oxrdp.Agent.Stamps

/-!
# Frames from an encoder that is behind

A turn stamps what it sends with the time of its own capture.  An encoder that is behind gives
away, in that turn, the access unit of an earlier submission.  Which one is up to the encoder:
`origin` says how many frames were submitted for the window before the one whose access unit
comes next.  The captures of a window are counted along with its submissions
(`captures_counted`), so `captureTimes` at `origin` is when the picture inside the access unit
was captured.

Where every access unit is that of the frame just submitted (`promptTurn`), each one travels
with its own capture time (`times_true_of_prompt`).
-/

namespace Oxrdp

open Effect Log Machine

/-- How many frames were submitted for a window, ever. -/
def submissions (handle : Handle) (calls : List EncoderCall) : Nat :=
  calls.countP fun
    | .submit h _ _ => decide (h = handle)
    | _ => false

section Lag

variable {W E I : Type} [WindowSource W] [FrameEncoder E] {cfg : Config}

/-- When the frames of a window were captured, turn by turn. -/
def captureTimes (cfg : Config) (handle : Handle) (turns : List (UInt32 × Session W E I)) :
    List UInt64 :=
  turns.filterMap fun (id, s) =>
    match s.captured cfg id with
    | none => none
    | some (st, _) => if st.handle = handle then some (cfg.env.clock (s.looks + 1)) else none

/-! ## An encoder that keeps the order -/

/-- The access units of a window are made of frames that were submitted for it, one after the
other in the order of the submissions, with any delay. -/
structure OutputsInOrder (encoder : E) (origin : Logged EncoderCall E → Handle → Nat) : Prop where
  submitted : ∀ e, Used (.fresh encoder) e → ∀ h u, (FrameEncoder.poll e h).1 = some u →
    origin e h < submissions h e.calls
  advancing : ∀ e, Used (.fresh encoder) e → ∀ h u, (FrameEncoder.poll e h).1 = some u →
    ∀ e', Used (FrameEncoder.poll e h).2 e' → ∀ u', (FrameEncoder.poll e' h).1 = some u' →
      origin e h < origin e' h

/-! ## Captures and submissions -/

section Counting

variable {id : UInt32} {st : WindowStream} {frame : SourceFrame}

theorem captureTimes_append (handle : Handle) (before after : List (UInt32 × Session W E I)) :
    captureTimes cfg handle (before ++ after) =
      captureTimes cfg handle before ++ captureTimes cfg handle after :=
  List.filterMap_append

/-- A turn that captures nothing leaves the list alone. -/
theorem captureTimes_idle {s : Session W E I} (hnone : s.captured cfg id = none)
    (handle : Handle) : captureTimes cfg handle [(id, s)] = [] := by
  simp [captureTimes, hnone]

theorem captureTimes_captured {s : Session W E I} (hcaptured : s.captured cfg id = some (st, frame))
    (handle : Handle) :
    captureTimes cfg handle [(id, s)] =
      if st.handle = handle then [cfg.env.clock (s.looks + 1)] else [] := by
  by_cases hhandle : st.handle = handle
  · simp [captureTimes, hcaptured, hhandle]
  · simp [captureTimes, hcaptured, hhandle]

theorem submissions_submit (handle h : Handle) (calls : List EncoderCall) (forced : Bool) :
    submissions handle (calls ++ [.submit h frame forced]) =
      submissions handle calls + if h = handle then 1 else 0 := by
  rw [submissions, List.countP_append, List.countP_singleton]
  by_cases hh : h = handle
  · simp [submissions, hh]
  · simp [submissions, hh]

omit [WindowSource W] in
/-- In a session that uses the encoder a captured frame is one more submission. -/
theorem submissions_submitted {e : Logged EncoderCall E} (hcodec : cfg.codec = Codec.h264)
    (handle : Handle) :
    submissions handle (submitted cfg st frame e).calls =
      submissions handle e.calls + if st.handle = handle then 1 else 0 := by
  rw [submitted_calls, if_pos hcodec]
  exact submissions_submit handle st.handle e.calls st.needsKeyframe

omit [WindowSource W] in
theorem submissions_polled {e : Logged EncoderCall E} (h handle : Handle) :
    submissions handle (FrameEncoder.poll e h).2.calls = submissions handle e.calls := by
  rw [poll_calls, submissions, List.countP_append]
  rfl

theorem submissions_forgets (handle : Handle) (streams : UInt32 → Option WindowStream)
    (gone : List TrackedWindow) : submissions handle (forgets streams gone) = 0 := by
  apply List.countP_eq_zero.mpr
  intro call hcall
  obtain ⟨t, -, hsome⟩ := List.mem_filterMap.mp hcall
  obtain ⟨st, -, rfl⟩ := Option.map_eq_some_iff.mp hsome
  exact Bool.false_ne_true

/-- The submissions for a window are the captures of some turns, in a session that uses the
encoder. -/
def Counts (cfg : Config) (turns : List (UInt32 × Session W (Logged EncoderCall E) I))
    (e : Logged EncoderCall E) : Prop :=
  cfg.codec = Codec.h264 →
    ∀ handle, submissions handle e.calls = (captureTimes cfg handle turns).length

variable {turns : List (UInt32 × Session W (Logged EncoderCall E) I)}

/-- What comes of a captured frame has it counted. -/
theorem Counts.pump {s : Session W (Logged EncoderCall E) I} {v : View}
    {F : Feed (Logged EncoderCall E)} (h : Counts cfg turns s.encoder)
    (hcaptured : s.captured cfg id = some (st, frame))
    (hstep : PumpStep cfg id st frame v s.encoder F) :
    Counts cfg (turns ++ [(id, s)]) F.encoder := by
  intro hcodec handle
  have hone : submissions handle F.encoder.calls =
      submissions handle s.encoder.calls + if st.handle = handle then 1 else 0 := by
    cases hstep with
    | waited => rw [submissions_polled, submissions_submitted hcodec]
    | coded => rw [submissions_polled, submissions_submitted hcodec]
    | empty => exact submissions_submitted hcodec handle
    | raw => exact submissions_submitted hcodec handle
  rw [hone, h hcodec, captureTimes_append, captureTimes_captured hcaptured, List.length_append]
  split
  · rfl
  · rfl

/-- Only the frame pump submits frames. -/
theorem counts_inv (cfg : Config) (turns : List (UInt32 × Session W (Logged EncoderCall E) I)) :
    FeedInv (W := W) (I := I) cfg (fun _ _ => false) (fun _ e => Counts cfg turns e)
      (fun _ _ _ => True) where
  sync _ _ h := h
  close := by
    intro live gone v e _ _ h hcodec handle
    rw [forgetAll_calls, submissions, List.countP_append]
    have hnone := submissions_forgets handle v.streams gone
    rw [submissions] at hnone
    rw [hnone]
    exact h hcodec handle
  pump := by
    intro s id st frame F _ hp
    cases hp
  ack _ _ h := h
  pong _ h := h
  aside _ _ _ _ := trivial
  closing _ _ _ _ _ := trivial
  pumping _ _ _ _ _ := trivial

/-- **Captures are submissions.**  Before every turn of a run the frames submitted for a window
are those that its turns captured. -/
theorem captures_counted [InputSink I] (cfg : Config) :
    TurnInv cfg
      (fun turns (s : Session W (Logged EncoderCall E) I) =>
        Fed (fun _ e => Counts cfg turns e) s ∧
          Lawful (fun before turn => Counts cfg before turn.2.encoder) turns)
      (fun turns _ => Lawful (fun before turn => Counts cfg before turn.2.encoder) turns) where
  sync := traces_silent fun before =>
    (syncWindows_fed (counts_inv cfg before)).with_fact
  message m := traces_silent fun before =>
    (onMessage_fed (counts_inv cfg before) m).with_fact
  turn id := by
    intro before s hs
    obtain ⟨⟨hreg, hc, hcounts⟩, hlawful⟩ := hs
    have hnow : Lawful (fun before turn => Counts cfg before turn.2.encoder)
        (before ++ [(id, s)]) := hlawful.snoc hcounts
    have hboth := ((pumpWindow_feed hreg).and (pumpWindow_fed (fed_inv cfg) id)) s
      ⟨rfl, rfl, hreg, hc, trivial⟩
    cases hrun : (pumpWindow cfg id).run s with
    | ok u s' =>
        rw [hrun] at hboth
        obtain ⟨hfeed, hreg', hc', -⟩ := hboth
        refine ⟨⟨hreg', hc', ?_⟩, hnow⟩
        cases hcaptured : s.captured cfg id with
        | none =>
            rw [hcaptured] at hfeed
            intro hcodec handle
            rw [captureTimes_append, captureTimes_idle hcaptured, List.append_nil, hfeed.2]
            exact hcounts hcodec handle
        | some r =>
            obtain ⟨st, frame⟩ := r
            rw [hcaptured] at hfeed
            obtain ⟨F, hstep, hF⟩ := hfeed
            rw [hF.2]
            exact hcounts.pump hcaptured hstep
    | error stop s' => exact hnow
  stopped h := h.2

end Counting

/-! ## Times that are true -/

section TimesTrue

variable (cfg : Config) (origin : Logged EncoderCall E → Handle → Nat)

/-- Whether the access unit that a turn polls is that of the frame it has just submitted. -/
def promptTurn (turn : UInt32 × Session W (Logged EncoderCall E) I) : Bool :=
  match turn.2.captured cfg turn.1 with
  | none => true
  | some (st, frame) =>
      let e := submitted cfg st frame turn.2.encoder
      !decide (Coding cfg st e) || (FrameEncoder.poll e st.handle).1.isNone ||
        decide (origin e st.handle + 1 = submissions st.handle e.calls)

/-- Whether the H.264 frame that a turn sends says when the picture inside was captured. -/
def stampRight (before : List (UInt32 × Session W (Logged EncoderCall E) I))
    (turn : UInt32 × Session W (Logged EncoderCall E) I) : Bool :=
  match turn.2.captured cfg turn.1, turn.2.shipped cfg turn.1 with
  | some (st, frame), some f =>
      !decide (f.codec = Codec.h264) ||
        decide ((captureTimes cfg st.handle (before ++ [turn]))[
          origin (submitted cfg st frame turn.2.encoder) st.handle]? = some f.capturedUs)
  | _, _ => true

/-- The times of all frames are true: every frame told was sent by one of the turns, the time
of capture is that of the picture inside, no picture is ready before it was captured, and within
a window later frames were ready later. -/
structure TimesTrue (turns : List (UInt32 × Session W (Logged EncoderCall E) I))
    (told : List Sent) : Prop where
  sent : framesOf told = shippedBy cfg turns
  captured : Lawful (fun before turn => stampRight cfg origin before turn = true) turns
  encoded : ∀ f ∈ framesOf told, f.capturedUs ≤ f.encodedUs
  ordered : ∀ f ∈ framesOf told, ∀ g ∈ framesOf told, f.windowId = g.windowId →
    f.frameId < g.frameId → f.encodedUs ≤ g.encodedUs

variable {cfg} {origin} {st : WindowStream} {frame : SourceFrame}

/-- A turn stamps the time of its own capture, and an H.264 frame was polled. -/
theorem shipped_captured {s : Session W E I} {id : UInt32} {f : FrameData}
    (hcaptured : s.captured cfg id = some (st, frame)) (h : s.shipped cfg id = some f) :
    f.capturedUs = cfg.env.clock (s.looks + 1) ∧
      (f.codec = Codec.h264 → Coding cfg st (submitted cfg st frame s.encoder) ∧
        (FrameEncoder.poll (submitted cfg st frame s.encoder) st.handle).1.isSome = true) := by
  obtain ⟨st', frame', picture, frameId, hcaptured', hpicture, rfl⟩ := shipped_picture h
  rw [hcaptured] at hcaptured'
  cases hcaptured'
  refine ⟨rfl, ?_⟩
  intro hcodec
  unfold pictureOf at hpicture
  split at hpicture
  · rename_i hcoding
    obtain ⟨u, hu, -⟩ := Option.map_eq_some_iff.mp hpicture
    exact ⟨hcoding, by rw [hu]; rfl⟩
  · split at hpicture
    · cases hpicture
    · cases hpicture
      cases hcodec

/-- After the captures before it, a prompt turn stamps what it sends with the right time. -/
theorem stampRight_of_prompt {before : List (UInt32 × Session W (Logged EncoderCall E) I)}
    {turn : UInt32 × Session W (Logged EncoderCall E) I}
    (hcounts : Counts cfg before turn.2.encoder) (hprompt : promptTurn cfg origin turn = true) :
    stampRight cfg origin before turn = true := by
  obtain ⟨id, s⟩ := turn
  unfold stampRight
  unfold promptTurn at hprompt
  cases hcaptured : s.captured cfg id with
  | none => rfl
  | some r =>
      obtain ⟨st, frame⟩ := r
      cases hshipped : s.shipped cfg id with
      | none => rfl
      | some f =>
          obtain ⟨hus, hpolled⟩ := shipped_captured hcaptured hshipped
          by_cases hcodec : f.codec = Codec.h264
          · obtain ⟨hcoding, hunit⟩ := hpolled hcodec
            have hlast : origin (submitted cfg st frame s.encoder) st.handle =
                (captureTimes cfg st.handle before).length := by
              have hone := @submissions_submitted E _ cfg st frame s.encoder hcoding.1 st.handle
              rw [if_pos rfl, hcounts hcoding.1 st.handle] at hone
              simp only [hcaptured, hcoding, Option.isNone_eq_false_iff.mpr hunit, decide_true,
                Bool.not_true, Bool.false_or, decide_eq_true_eq] at hprompt
              omega
            simp only [hcodec, decide_true, Bool.not_true, Bool.false_or, decide_eq_true_eq]
            rw [hlast, captureTimes_append, captureTimes_captured hcaptured, if_pos rfl, hus]
            exact List.getElem?_concat_length
          · simp [hcodec]

end TimesTrue

/-- **True times.**  In every run of a driver whose clock never goes back, with an encoder that
answers every submission at once or not at all, the times of all frames are true. -/
theorem times_true_of_prompt [InputSink I] (cfg : Config) (hclock : cfg.env.Monotonic)
    (source : W) (encoder : E) (origin : Logged EncoderCall E → Handle → Nat) (sink : I)
    (events : List Event)
    (hprompt : ∀ turn ∈ pumpTurns cfg events (Session.watched source encoder sink),
      promptTurn cfg origin turn = true) :
    TimesTrue cfg origin (pumpTurns cfg events (Session.watched source encoder sink))
      (watchedAfter cfg source encoder sink events).outbound.told where
  sent := drive_shipped cfg _ _ _ events
  captured := by
    have hcounts : Lawful (fun before turn => Counts cfg before turn.2.encoder)
        (pumpTurns cfg events (Session.watched source encoder sink)) := by
      have hrun := (captures_counted cfg).drive events [] (Session.watched source encoder sink)
        ⟨⟨WindowRegistry.new_wellFormed, .start, fun _ _ => rfl⟩, .nil⟩
      cases hdrive : (drive cfg events).run (Session.watched source encoder sink) with
      | ok u s =>
          rw [hdrive] at hrun
          exact hrun.2
      | error stop s =>
          rw [hdrive] at hrun
          exact hrun
    intro before turn after heq
    have hturn : turn ∈ pumpTurns cfg events (Session.watched source encoder sink) := by
      rw [heq]
      exact List.mem_append_right _ List.mem_cons_self
    exact stampRight_of_prompt (hcounts before turn after heq) (hprompt turn hturn)
  encoded := by
    intro f hf
    rw [show framesOf (watchedAfter cfg source encoder sink events).outbound.told = _ from
      drive_shipped cfg _ _ _ events] at hf
    obtain ⟨turn, -, hshipped⟩ := List.mem_filterMap.mp hf
    exact shipped_times hclock hshipped
  ordered f hf g hg hwindow hid := sent_in_order hclock _ _ _ events hf hg hwindow hid

end Lag

/-! ## The encoder that is one frame behind -/

/-- The access unit that comes next is of the oldest frame that is still waiting. -/
def LateEncoder.origin (e : Logged EncoderCall LateEncoder) (handle : Handle) : Nat :=
  submissions handle e.calls - (e.inner.waiting handle).length

theorem LateEncoder.waiting_poll (e : Logged EncoderCall LateEncoder) (h handle : Handle) :
    ((FrameEncoder.poll e h).2.inner.waiting handle).length ≤
      (e.inner.waiting handle).length := by
  change ((FrameEncoder.poll e.inner h).2.waiting handle).length ≤ _
  cases hw : e.inner.waiting h with
  | nil => simp [FrameEncoder.poll, hw]
  | cons u rest =>
      cases rest with
      | nil => simp [FrameEncoder.poll, hw]
      | cons next rest =>
          by_cases hh : handle = h
          · simp [FrameEncoder.poll, hw, hh]
          · simp [FrameEncoder.poll, hw, hh]

/-- No more frames wait than were submitted, and the next access unit is never of an older
frame than before. -/
theorem LateEncoder.origin_rises {e₀ e : Logged EncoderCall LateEncoder} (hused : Used e₀ e)
    (hbehind : ∀ handle, (e₀.inner.waiting handle).length ≤ submissions handle e₀.calls)
    (handle : Handle) :
    (e.inner.waiting handle).length ≤ submissions handle e.calls ∧
      LateEncoder.origin e₀ handle ≤ LateEncoder.origin e handle := by
  induction hused with
  | new => exact ⟨hbehind handle, le_rfl⟩
  | @submit e _ h frame forced ih =>
      unfold LateEncoder.origin at ih ⊢
      change ((Function.update e.inner.waiting h _) handle).length ≤
          submissions handle (e.calls ++ [.submit h frame forced]) ∧ _ ≤
        submissions handle (e.calls ++ [.submit h frame forced]) -
          ((Function.update e.inner.waiting h _) handle).length
      rw [submissions_submit]
      by_cases hh : h = handle
      · subst hh
        rw [Function.update_self, List.length_append, List.length_singleton, if_pos rfl]
        omega
      · rw [Function.update_of_ne (Ne.symm hh), if_neg hh, Nat.add_zero]
        exact ih
  | @poll e _ h ih =>
      have hless := LateEncoder.waiting_poll e h handle
      unfold LateEncoder.origin at ih ⊢
      rw [submissions_polled]
      omega
  | @forget e _ h ih =>
      unfold LateEncoder.origin at ih ⊢
      change ((Function.update e.inner.waiting h []) handle).length ≤
          submissions handle (e.calls ++ [.forget h]) ∧ _ ≤
        submissions handle (e.calls ++ [.forget h]) -
          ((Function.update e.inner.waiting h []) handle).length
      have hsame : submissions handle (e.calls ++ [.forget h]) = submissions handle e.calls := by
        rw [submissions, List.countP_append]
        rfl
      rw [hsame]
      by_cases hh : handle = h
      · subst hh
        simp only [Function.update_self, List.length_nil]
        omega
      · rw [Function.update_of_ne hh]
        exact ih

/-- Being one frame behind keeps the order. -/
theorem LateEncoder.outputsInOrder : OutputsInOrder LateEncoder.new LateEncoder.origin := by
  have hstart : ∀ handle, ((Logged.fresh LateEncoder.new :
      Logged EncoderCall LateEncoder).inner.waiting handle).length ≤
        submissions handle (Logged.fresh LateEncoder.new : Logged EncoderCall LateEncoder).calls :=
    fun _ => le_rfl
  have hpoll : ∀ (e : Logged EncoderCall LateEncoder) h u, (FrameEncoder.poll e h).1 = some u →
      1 < (e.inner.waiting h).length ∧ (e.inner.waiting h).length =
        ((FrameEncoder.poll e h).2.inner.waiting h).length + 1 := by
    intro e h u hu
    change (FrameEncoder.poll e.inner h).1 = some u at hu
    change _ ∧ _ = ((FrameEncoder.poll e.inner h).2.waiting h).length + 1
    cases hw : e.inner.waiting h with
    | nil => simp [FrameEncoder.poll, hw] at hu
    | cons u' rest =>
        cases rest with
        | nil => simp [FrameEncoder.poll, hw] at hu
        | cons next rest => simp [FrameEncoder.poll, hw]
  constructor
  · intro e hused h u hu
    have hbehind := (LateEncoder.origin_rises hused hstart h).1
    have hsome := (hpoll e h u hu).1
    unfold LateEncoder.origin
    omega
  · intro e hused h u hu e' hused' u' _
    have hbehind := fun handle => (LateEncoder.origin_rises (hused.poll h) hstart handle).1
    have hrises := (LateEncoder.origin_rises hused' hbehind h).2
    have hone := (hpoll e h u hu).2
    have hnow := (LateEncoder.origin_rises hused hstart h).1
    have hsame := submissions_polled (e := e) h h
    unfold LateEncoder.origin at hrises ⊢
    have hafter := hbehind h
    omega

/-- H.264 under a clock that shows more at every look, up to a limit. -/
def Config.ticking : Config :=
  { Config.coded with
    env := { Config.coded.env with clock := fun n => UInt64.ofNat (10 * min n 1000) } }

theorem Config.ticking_monotonic : Config.ticking.env.Monotonic := by
  intro i j hij
  rw [UInt64.le_iff_toNat_le]
  change (UInt64.ofNat (10 * min i 1000)).toNat ≤ (UInt64.ofNat (10 * min j 1000)).toNat
  have hsize : UInt64.size = 2 ^ 64 := rfl
  rw [UInt64.toNat_ofNat_of_lt' (by omega), UInt64.toNat_ofNat_of_lt' (by omega)]
  omega

/-- An encoder that answers every submission at once. -/
def UnitEncoder.origin (e : Logged EncoderCall UnitEncoder) (handle : Handle) : Nat :=
  submissions handle e.calls - 1

/-- Two ticks with an encoder that answers at once. -/
theorem times_true_of_prompt_unit :
    (shippedBy .ticking (pumpTurns .ticking [.tick, .tick]
      (Session.watched busyScript { unit := unitOfSize 3 : UnitEncoder } NoopSink.mk))).length =
        2 ∧
    TimesTrue .ticking UnitEncoder.origin
      (pumpTurns .ticking [.tick, .tick]
        (Session.watched busyScript { unit := unitOfSize 3 : UnitEncoder } NoopSink.mk))
      (watchedAfter .ticking busyScript { unit := unitOfSize 3 : UnitEncoder } NoopSink.mk
        [.tick, .tick]).outbound.told := by
  have hprompt : (pumpTurns .ticking [.tick, .tick] (Session.watched busyScript
      { unit := unitOfSize 3 : UnitEncoder } NoopSink.mk)).all
        (promptTurn .ticking UnitEncoder.origin) = true := by
    decide +kernel
  exact ⟨by decide +kernel, times_true_of_prompt .ticking Config.ticking_monotonic busyScript _
    UnitEncoder.origin NoopSink.mk _ (List.all_eq_true.mp hprompt)⟩

/-- **The wrong time.**  An encoder that is one frame behind keeps the order, but the second
tick sends the picture of the first with the time of the second capture. -/
theorem late_stamped_wrong :
    OutputsInOrder LateEncoder.new LateEncoder.origin ∧ Config.ticking.env.Monotonic ∧
      ¬TimesTrue .ticking LateEncoder.origin
        (pumpTurns .ticking [.tick, .tick]
          (Session.watched busyScript LateEncoder.new NoopSink.mk))
        (watchedAfter .ticking busyScript LateEncoder.new NoopSink.mk
          [.tick, .tick]).outbound.told := by
  refine ⟨LateEncoder.outputsInOrder, Config.ticking_monotonic, ?_⟩
  intro htrue
  have hsecond : ((pumpTurns .ticking [.tick, .tick] (Session.watched busyScript LateEncoder.new
      NoopSink.mk)).drop 1).head?.any (fun turn => !stampRight .ticking LateEncoder.origin
        ((pumpTurns .ticking [.tick, .tick] (Session.watched busyScript LateEncoder.new
          NoopSink.mk)).take 1) turn) = true := by
    decide +kernel
  obtain ⟨turn, hturn, hwrong⟩ := (Option.any_eq_true _ _).mp hsecond
  obtain ⟨after, hafter⟩ := List.head?_eq_some_iff.mp hturn
  have hright := htrue.captured _ turn after
    ((List.take_append_drop 1 _).symm.trans (congrArg _ hafter))
  rw [hright] at hwrong
  cases hwrong

end Oxrdp
