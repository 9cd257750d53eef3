import Oxrdp.Agent.Feeding
import Oxrdp.Agent.Journal
import Oxrdp.Lib.Log

/-!
# The first frame of a window

A decoder has nothing to refer to when it gets the first access unit of a window, so this one
has to be a keyframe.  The driver asks for keyframes until one has come back: whatever is
inside the encoder by then was forced (`ForcedFirst`).  An encoder whose output follows its
input (`InOrder`), with whatever delay and however many frames it skips, therefore starts
with a keyframe, and starts again with one when a window is closed and another is opened for
the same handle.
-/

namespace Oxrdp

open Effect Log

/-! ## What the encoder was asked since it forgot a window -/

/-- The window that a call is about. -/
def EncoderCall.handle : EncoderCall → Handle
  | .submit handle _ _ => handle
  | .poll handle _ => handle
  | .forget handle => handle

/-- One more call, for a window with the calls `life` so far. -/
def lifeStep (handle : Handle) (life : List EncoderCall) : EncoderCall → List EncoderCall
  | .submit h frame forced => if h = handle then life ++ [.submit h frame forced] else life
  | .poll h encoded => if h = handle then life ++ [.poll h encoded] else life
  | .forget h => if h = handle then [] else life

/-- The calls for a window since the encoder was last told to forget it. -/
def lifeOf (handle : Handle) (calls : List EncoderCall) : List EncoderCall :=
  calls.foldl (lifeStep handle) []

/-- The frames that were submitted for a window since it was last forgotten, each with
whether a keyframe was forced. -/
def submittedSince (handle : Handle) (calls : List EncoderCall) : List (SourceFrame × Bool) :=
  (lifeOf handle calls).filterMap fun
    | .submit _ frame forced => some (frame, forced)
    | _ => none

/-- The access units that were polled for a window since it was last forgotten. -/
def unitsSince (handle : Handle) (calls : List EncoderCall) : List EncodedFrame :=
  (lifeOf handle calls).filterMap fun
    | .poll _ encoded => encoded
    | _ => none

section Lives

variable {h h' : Handle} {calls : List EncoderCall}

/-- The life of a window's encoder, one call later. -/
theorem lifeOf_snoc (call : EncoderCall) :
    lifeOf h (calls ++ [call]) = lifeStep h (lifeOf h calls) call := by
  simp [lifeOf]

/-- Calls for other windows do not matter. -/
theorem lifeOf_other {c : EncoderCall} (hne : c.handle ≠ h) :
    lifeOf h (calls ++ [c]) = lifeOf h calls := by
  rw [lifeOf_snoc]
  cases c with
  | submit => exact if_neg hne
  | poll => exact if_neg hne
  | forget => exact if_neg hne

/-- Calls for other windows submit nothing here. -/
theorem submittedSince_other {c : EncoderCall} (hne : c.handle ≠ h) :
    submittedSince h (calls ++ [c]) = submittedSince h calls := by
  unfold submittedSince
  rw [lifeOf_other hne]

/-- Calls for other windows make no unit here. -/
theorem unitsSince_other {c : EncoderCall} (hne : c.handle ≠ h) :
    unitsSince h (calls ++ [c]) = unitsSince h calls := by
  unfold unitsSince
  rw [lifeOf_other hne]

/-- A submitted frame stands last. -/
theorem submittedSince_submit (frame : SourceFrame) (forced : Bool) :
    submittedSince h (calls ++ [.submit h frame forced]) =
      submittedSince h calls ++ [(frame, forced)] := by
  simp [submittedSince, lifeOf_snoc, lifeStep]

/-- Polling submits nothing. -/
theorem submittedSince_poll (encoded : Option EncodedFrame) :
    submittedSince h (calls ++ [.poll h' encoded]) = submittedSince h calls := by
  by_cases hh : h' = h
  · simp [submittedSince, lifeOf_snoc, lifeStep, hh]
  · exact submittedSince_other hh

theorem submittedSince_forget : submittedSince h (calls ++ [.forget h]) = [] := by
  simp [submittedSince, lifeOf_snoc, lifeStep]

theorem unitsSince_submit (frame : SourceFrame) (forced : Bool) :
    unitsSince h (calls ++ [.submit h' frame forced]) = unitsSince h calls := by
  by_cases hh : h' = h
  · simp [unitsSince, lifeOf_snoc, lifeStep, hh]
  · exact unitsSince_other hh

/-- What a poll returns stands last. -/
theorem unitsSince_poll (encoded : Option EncodedFrame) :
    unitsSince h (calls ++ [.poll h encoded]) = unitsSince h calls ++ encoded.toList := by
  cases encoded with
  | none => simp [unitsSince, lifeOf_snoc, lifeStep]
  | some u => simp [unitsSince, lifeOf_snoc, lifeStep]

theorem unitsSince_forget : unitsSince h (calls ++ [.forget h]) = [] := by
  simp [unitsSince, lifeOf_snoc, lifeStep]

/-- What was polled stays polled until the window is forgotten. -/
theorem unitsSince_grows (encoded : Option EncodedFrame) :
    unitsSince h calls <+: unitsSince h (calls ++ [.poll h' encoded]) := by
  by_cases hh : h' = h
  · subst hh
    rw [unitsSince_poll]
    exact List.prefix_append _ _
  · have hsame : unitsSince h (calls ++ [.poll h' encoded]) = unitsSince h calls :=
      unitsSince_other hh
    rw [hsame]

/-- Forgetting some windows leaves the others alone. -/
theorem lifeOf_forgets (hs : List Handle) :
    lifeOf h (calls ++ hs.map .forget) = if h ∈ hs then [] else lifeOf h calls := by
  induction hs generalizing calls with
  | nil => simp
  | cons first rest ih =>
      rw [List.map_cons, List.append_cons, ih, lifeOf_snoc]
      by_cases hrest : h ∈ rest
      · simp [hrest]
      · by_cases hfirst : first = h
        · simp [lifeStep, hfirst]
        · simp [lifeStep, hfirst, hrest, Ne.symm hfirst]

/-- A window that has gone is forgotten, and only such a window is. -/
theorem lifeOf_closed {v : View} (hc : v.Coupled) {live : List Handle}
    {gone : List TrackedWindow} (hgone : Gone live v gone) :
    lifeOf h (calls ++ forgets v.streams gone) =
      if h ∈ live ∨ v.windows h = none then lifeOf h calls else [] := by
  have hforgets : forgets v.streams gone =
      (gone.filterMap fun t => (v.streams t.windowId).map WindowStream.handle).map .forget := by
    unfold forgets
    rw [List.map_filterMap]
    refine List.filterMap_congr fun t _ => ?_
    cases v.streams t.windowId with
    | none => rfl
    | some st => rfl
  have hmem : h ∈ gone.filterMap (fun t => (v.streams t.windowId).map WindowStream.handle) ↔
      ¬(h ∈ live ∨ v.windows h = none) := by
    rw [List.mem_filterMap]
    constructor
    · rintro ⟨t, ht, hsome⟩ hkept
      obtain ⟨handle, hdead, hw⟩ := (hgone.2 t).mp ht
      obtain ⟨st, hst, -, rfl⟩ := hc.stream handle t hw
      rw [hst] at hsome
      cases hsome
      rcases hkept with hlive | hnone
      · exact hdead hlive
      · rw [hw] at hnone
        cases hnone
    · intro hlost
      obtain ⟨hdead, hsome⟩ := not_or.mp hlost
      obtain ⟨t, hw⟩ := Option.ne_none_iff_exists'.mp hsome
      obtain ⟨st, hst, -, hhandle⟩ := hc.stream h t hw
      exact ⟨t, (hgone.2 t).mpr ⟨h, hdead, hw⟩, by rw [hst]; exact congrArg some hhandle⟩
  rw [hforgets, lifeOf_forgets]
  by_cases hkept : h ∈ live ∨ v.windows h = none
  · rw [if_pos hkept, if_neg fun hin => hmem.mp hin hkept]
  · rw [if_neg hkept, if_pos (hmem.mpr hkept)]

end Lives

/-! ## Forced until a keyframe came -/

/-- A frame that is submitted before any keyframe came back is forced to be one. -/
def ForcedFirst (before : List EncoderCall) (call : EncoderCall) : Prop :=
  ∀ h frame forced, call = .submit h frame forced →
    (∀ u ∈ unitsSince h before, u.keyframe = false) → forced = true

/-- So while no keyframe came back, everything that was submitted was forced. -/
theorem forced_since {calls : List EncoderCall} (hlawful : Lawful ForcedFirst calls) :
    ∀ h, (∀ u ∈ unitsSince h calls, u.keyframe = false) →
      ∀ sub ∈ submittedSince h calls, sub.2 = true := by
  apply hlawful.rec_snoc
  · intro h _ sub hsub
    cases hsub
  · intro calls call _ hallowed ih h hnone
    by_cases hh : call.handle = h
    · cases call with
      | submit h' frame forced =>
          obtain rfl : h' = h := hh
          rw [unitsSince_submit] at hnone
          rw [submittedSince_submit]
          intro sub hsub
          rcases List.mem_append.mp hsub with hsub | hsub
          · exact ih _ hnone sub hsub
          · cases List.mem_singleton.mp hsub
            exact hallowed _ frame forced rfl hnone
      | poll h' encoded =>
          rw [submittedSince_poll]
          exact ih h fun u hu => hnone u ((unitsSince_grows encoded).subset hu)
      | forget h' =>
          obtain rfl : h' = h := hh
          rw [submittedSince_forget]
          intro sub hsub
          cases hsub
    · rw [submittedSince_other hh]
      rw [unitsSince_other hh] at hnone
      exact ih h hnone

/-! ## An encoder whose output follows its input -/

section Order

variable {E : Type} [FrameEncoder E]

/-- The encoder `e` can be made of `e₀` by using it. -/
inductive Used (e₀ : E) : E → Prop
  | new : Used e₀ e₀
  | submit {e : E} (h : Used e₀ e) (handle : Handle) (frame : SourceFrame) (forced : Bool) :
      Used e₀ (FrameEncoder.submit e handle frame forced)
  | poll {e : E} (h : Used e₀ e) (handle : Handle) : Used e₀ (FrameEncoder.poll e handle).2
  | forget {e : E} (h : Used e₀ e) (handle : Handle) : Used e₀ (FrameEncoder.forget e handle)

/-- The access units of a window are made of frames that were submitted for it since it was
last forgotten, in the order of the submissions, and of a forced one comes a keyframe. -/
def Ordered (calls : List EncoderCall) : Prop :=
  ∀ h, List.SublistForall₂
    (fun (u : EncodedFrame) (sub : SourceFrame × Bool) => sub.2 = true → u.keyframe = true)
    (unitsSince h calls) (submittedSince h calls)

/-- However the encoder is used, its access units are in order. -/
def InOrder (encoder : E) : Prop :=
  ∀ e : Logged EncoderCall E, Used (.fresh encoder) e → Ordered e.calls

/-- Submitting a frame is a use of the encoder. -/
theorem Used.submitted {e₀ e : E} (h : Used e₀ e) (cfg : Config) (st : WindowStream)
    (frame : SourceFrame) : Used e₀ (submitted cfg st frame e) := by
  unfold Oxrdp.submitted
  split
  · exact h.submit st.handle frame st.needsKeyframe
  · exact h

/-- Forgetting windows is a use of the encoder. -/
theorem Used.forgetAll {e₀ e : E} (h : Used e₀ e) (streams : UInt32 → Option WindowStream)
    (gone : List TrackedWindow) : Used e₀ (forgetAll streams e gone) := by
  induction gone generalizing e with
  | nil => exact h
  | cons t rest ih =>
      refine ih ?_
      unfold forgetOne
      cases streams t.windowId with
      | none => exact h
      | some st => exact h.forget st.handle

/-- The first access unit of a window is made of a forced frame. -/
theorem Ordered.first {calls : List EncoderCall} (horder : Ordered calls)
    (hlawful : Lawful ForcedFirst calls) {h : Handle} {u : EncodedFrame}
    (hunits : unitsSince h calls = [u]) : u.keyframe = true := by
  by_contra hdelta
  have hnone : ∀ u' ∈ unitsSince h calls, u'.keyframe = false := by
    intro u' hu'
    rw [hunits] at hu'
    cases List.mem_singleton.mp hu'
    exact Bool.eq_false_iff.mpr hdelta
  obtain ⟨matched, hforall, hsub⟩ := List.sublistForall₂_iff.mp (horder h)
  rw [hunits] at hforall
  cases hforall with
  | @cons _ sub _ _ hkey _ =>
      have hmem : sub ∈ submittedSince h calls := hsub.subset List.mem_cons_self
      exact hdelta (hkey (forced_since hlawful h hnone sub hmem))

end Order

/-! ## What the client is sent first -/

/-- The H.264 frame that a message carries. -/
def Sent.coded (sent : Sent) : Option FrameData :=
  match sent.message with
  | .frameData f => if f.codec = Codec.h264 then some f else none
  | _ => none

/-- A window's first H.264 frame is a keyframe. -/
def FirstKeyframe (before : List Sent) (sent : Sent) : Prop :=
  ∀ f, sent.coded = some f →
    (∀ m ∈ before, ∀ g, m.coded = some g → g.windowId ≠ f.windowId) →
      f.flags &&& FrameFlag.keyframe = FrameFlag.keyframe

/-- Only frame data is coded. -/
theorem coded_aside {sent : Sent} (h : sent.aside = true) : sent.coded = none := by
  obtain ⟨ch, m⟩ := sent
  cases m <;> first | rfl | cases h

/-- Messages that carry no H.264 frame are never in the way. -/
theorem firstKeyframe_uncoded {m : Sent} (h : m.coded = none) (before : List Sent) :
    FirstKeyframe before m := by
  intro f hf
  rw [h] at hf
  cases hf

/-- A call that submits nothing. -/
def EncoderCall.silent : EncoderCall → Prop
  | .submit _ _ _ => False
  | _ => True

/-- A poll forces nothing and ends no life. -/
theorem silent_poll (handle : Handle) (encoded : Option EncodedFrame) :
    (EncoderCall.poll handle encoded).silent := trivial

/-- What is silent needs no keyframe. -/
theorem forcedFirst_silent {call : EncoderCall} (h : call.silent) (before : List EncoderCall) :
    ForcedFirst before call := by
  intro handle frame forced hcall
  subst hcall
  exact h.elim

/-- Forgetting an encoder is silent. -/
theorem forgets_silent {streams : UInt32 → Option WindowStream} {gone : List TrackedWindow}
    {call : EncoderCall} (h : call ∈ forgets streams gone) : call.silent := by
  unfold forgets at h
  obtain ⟨t, -, hcall⟩ := List.mem_filterMap.mp h
  obtain ⟨st, -, rfl⟩ := Option.map_eq_some_iff.mp hcall
  trivial

section Keyframes

variable {W E I : Type} [FrameEncoder E] {cfg : Config} {encoder : E} {v : View}
  {e : Logged EncoderCall E}

/-- A window's stream before and after a step that settles no keyframe. -/
def StillOwed (st st' : WindowStream) : Prop :=
  st.handle = st'.handle ∧ (st'.needsKeyframe = false → st.needsKeyframe = false)

/-- Nothing has been sent: what was owed is owed still. -/
theorem StillOwed.refl (st : WindowStream) : StillOwed st st := ⟨rfl, fun hneeds => hneeds⟩

/-- What is known of the keyframes, between the steps of a run. -/
structure KeyInv (encoder : E) (v : View) (e : Logged EncoderCall E) : Prop where
  used : Used (.fresh encoder) e
  forced : Lawful ForcedFirst e.calls
  first : Lawful FirstKeyframe v.told
  /-- A keyframe is not asked for any more once one was polled. -/
  settled : ∀ id st, v.streams id = some st → st.needsKeyframe = false →
    ∃ u ∈ unitsSince st.handle e.calls, u.keyframe = true
  /-- What was polled for a window was sent to it. -/
  sent : ∀ id st, v.streams id = some st → unitsSince st.handle e.calls ≠ [] →
    ∃ m ∈ v.told, ∃ f, m.coded = some f ∧ f.windowId = id
  unknown : ∀ h, v.windows h = none → unitsSince h e.calls = []

/-- What a session that stopped leaves behind. -/
def KeyCut (_ : Stop) (told : List Sent) (e : Logged EncoderCall E) : Prop :=
  Lawful ForcedFirst e.calls ∧ Lawful FirstKeyframe told

/-- At the start nothing is owed. -/
theorem KeyInv.start (encoder : E) : KeyInv encoder View.start (.fresh encoder) where
  used := .new
  forced := .nil
  first := .nil
  settled := by
    intro id st hst
    cases hst
  sent := by
    intro id st hst
    cases hst
  unknown := fun _ _ => rfl

/-- A step that leaves the encoder alone and sends no H.264 frame. -/
theorem KeyInv.told (h : KeyInv encoder v e) {v' : View} {sent : List Sent}
    (htold : v'.told = v.told ++ sent) (hsent : ∀ m ∈ sent, m.coded = none)
    (hwindows : v'.windows = v.windows)
    (hstream : ∀ id st', v'.streams id = some st' →
      ∃ st, v.streams id = some st ∧ StillOwed st st') :
    KeyInv encoder v' e where
  used := h.used
  forced := h.forced
  first := by
    rw [htold]
    exact h.first.append fun m hm => firstKeyframe_uncoded (hsent m hm)
  settled := by
    intro id st' hst' hneeds
    obtain ⟨st, hst, hhandle, hkeep⟩ := hstream id st' hst'
    rw [← hhandle]
    exact h.settled id st hst (hkeep hneeds)
  sent := by
    intro id st' hst' hunits
    obtain ⟨st, hst, hhandle, -⟩ := hstream id st' hst'
    rw [← hhandle] at hunits
    obtain ⟨m, hm, hcoded⟩ := h.sent id st hst hunits
    refine ⟨m, ?_, hcoded⟩
    rw [htold]
    exact List.mem_append_left _ hm
  unknown := by
    rw [hwindows]
    exact h.unknown

/-- A window of the snapshot, opened or changed, owes what it did: a new one a keyframe. -/
theorem KeyInv.sync (h : KeyInv encoder v e) {w : SourceWindow} {v' : View}
    (hstep : SyncStep cfg w v v') : KeyInv encoder v' e := by
  obtain ⟨sent, htold, haside⟩ := hstep.tells
  have hcoded : ∀ m ∈ sent, m.coded = none := fun m hm => coded_aside (haside m hm)
  cases hstep with
  | opened t hnew =>
      -- the encoder has forgotten what it knew of the handle
      have hnone : unitsSince w.handle e.calls = [] := h.unknown w.handle hnew
      refine ⟨h.used, h.forced, ?_, ?_, ?_, ?_⟩
      · rw [htold]
        exact h.first.append fun m hm => firstKeyframe_uncoded (hcoded m hm)
      · intro id st hst hneeds
        simp only [Function.update_apply] at hst
        split at hst
        · cases hst
          cases hneeds
        · exact h.settled id st hst hneeds
      · intro id st hst hunits
        simp only [Function.update_apply] at hst
        split at hst
        · cases hst
          exact absurd hnone hunits
        · obtain ⟨m, hm, hf⟩ := h.sent id st hst hunits
          exact ⟨m, List.mem_append_left _ hm, hf⟩
      · intro handle hnone'
        simp only [Function.update_apply] at hnone'
        split at hnone'
        · cases hnone'
        · exact h.unknown handle hnone'
  | updated t st hw hst =>
      refine h.told htold hcoded rfl fun id st' hst' => ?_
      refine View.setStream_back StillOwed.refl hst ?_ hst'
      exact ⟨rfl, fun hneeds => (Bool.or_eq_false_iff.mp hneeds).1⟩
  | skipped => exact h

/-- Telling that a window has closed sends no unit. -/
theorem coded_closed {gone : List TrackedWindow} {m : Sent} (h : m ∈ gone.map closedMessage) :
    m.coded = none := by
  obtain ⟨t, -, rfl⟩ := List.mem_map.mp h
  rfl

/-- Forgetting encoders keeps the law of forced first frames. -/
theorem forced_forgotten (h : Lawful ForcedFirst e.calls)
    (streams : UInt32 → Option WindowStream) (gone : List TrackedWindow) :
    Lawful ForcedFirst (forgetAll streams e gone).calls := by
  rw [forgetAll_calls]
  exact h.append fun call hcall => forcedFirst_silent (forgets_silent hcall)

/-- A window that has closed owes nothing, and its encoder starts a new life. -/
theorem KeyInv.close (h : KeyInv encoder v e) (hc : v.Coupled) {live : List Handle}
    {gone : List TrackedWindow} (hgone : Gone live v gone) :
    KeyInv encoder (v.closing live gone) (forgetAll v.streams e gone) := by
  -- a window that is still remembered is live, so it was not forgotten
  have hkept : ∀ id st, (v.closing live gone).streams id = some st →
      v.streams id = some st ∧
        unitsSince st.handle (forgetAll v.streams e gone).calls =
          unitsSince st.handle e.calls := by
    intro id st hst
    simp only [View.closing] at hst
    split at hst
    · cases hst
    · rename_i hid
      refine ⟨hst, ?_⟩
      obtain ⟨t, ht, rfl⟩ := hc.registered hst
      have hlive : st.handle ∈ live := by
        by_contra hdead
        exact hid (List.mem_map.mpr ⟨t, (hgone.2 t).mpr ⟨_, hdead, ht⟩, rfl⟩)
      unfold unitsSince
      rw [forgetAll_calls, lifeOf_closed hc hgone, if_pos (Or.inl hlive)]
  refine ⟨h.used.forgetAll _ _, forced_forgotten h.forced _ _, ?_, ?_, ?_, ?_⟩
  · exact h.first.append fun m hm => firstKeyframe_uncoded (coded_closed hm)
  · intro id st hst hneeds
    obtain ⟨hst, hunits⟩ := hkept id st hst
    rw [hunits]
    exact h.settled id st hst hneeds
  · intro id st hst hsome
    obtain ⟨hst, hunits⟩ := hkept id st hst
    rw [hunits] at hsome
    obtain ⟨m, hm, hf⟩ := h.sent id st hst hsome
    exact ⟨m, List.mem_append_left _ hm, hf⟩
  · intro handle hnone
    unfold unitsSince
    rw [forgetAll_calls, lifeOf_closed hc hgone]
    split
    · rename_i hor
      refine h.unknown handle ?_
      rcases hor with hlive | hnone'
      · simp only [View.closing, if_pos hlive] at hnone
        exact hnone
      · exact hnone'
    · rfl

/-- A step of the encoder that gives nothing away. -/
theorem KeyInv.encoded (h : KeyInv encoder v e) {e' : Logged EncoderCall E}
    (hused : Used (.fresh encoder) e') (hforced : Lawful ForcedFirst e'.calls)
    (hunits : ∀ handle, unitsSince handle e'.calls = unitsSince handle e.calls) :
    KeyInv encoder v e' where
  used := hused
  forced := hforced
  first := h.first
  settled := by
    intro id st hst
    rw [hunits]
    exact h.settled id st hst
  sent := by
    intro id st hst
    rw [hunits]
    exact h.sent id st hst
  unknown := by
    intro handle
    rw [hunits]
    exact h.unknown handle

/-- Until a keyframe was polled, one is asked for. -/
theorem KeyInv.submitted (h : KeyInv encoder v e) (cfg : Config) {id : UInt32}
    {st : WindowStream} (hst : v.streams id = some st) (frame : SourceFrame) :
    KeyInv encoder v (submitted cfg st frame e) := by
  refine h.encoded (h.used.submitted cfg st frame) ?_ ?_
  · rw [submitted_calls]
    split
    · refine h.forced.snoc ?_
      intro handle frame' forced hcall hnone
      cases hcall
      by_contra hneeds
      obtain ⟨u, hu, hkey⟩ := h.settled id st hst (Bool.eq_false_iff.mpr hneeds)
      rw [hnone u hu] at hkey
      cases hkey
    · rw [List.append_nil]
      exact h.forced
  · intro handle
    rw [submitted_calls]
    split
    · exact unitsSince_submit frame st.needsKeyframe
    · rw [List.append_nil]

/-- Polling keeps the law of forced first frames. -/
theorem forced_polled (h : Lawful ForcedFirst e.calls) (handle : Handle) :
    Lawful ForcedFirst (FrameEncoder.poll e handle).2.calls := by
  rw [poll_calls]
  exact h.snoc (forcedFirst_silent (silent_poll _ _) _)

/-- A poll adds its unit to the window that it was for. -/
theorem unitsSince_polled (handle h' : Handle) :
    unitsSince h' (FrameEncoder.poll e handle).2.calls =
      unitsSince h' e.calls ++
        if handle = h' then (FrameEncoder.poll e handle).1.toList else [] := by
  rw [poll_calls]
  split
  · rename_i hsame
    subst hsame
    exact unitsSince_poll _
  · rename_i hother
    rw [List.append_nil]
    exact unitsSince_other hother

/-- A poll that has nothing to give changes nothing. -/
theorem KeyInv.waited (h : KeyInv encoder v e) {handle : Handle}
    (hpoll : (FrameEncoder.poll e handle).1 = none) :
    KeyInv encoder v (FrameEncoder.poll e handle).2 := by
  refine h.encoded (h.used.poll handle) (forced_polled h.forced handle) ?_
  intro h'
  rw [unitsSince_polled, hpoll]
  split
  · exact List.append_nil _
  · exact List.append_nil _

/-- A unit is sent as the frame data of its picture. -/
theorem coded_unit (ch : UInt16) (u : EncodedFrame) (id : UInt32)
    (frameId capturedUs encodedUs : UInt64) :
    Sent.coded ⟨ch, .frameData ((u.picture encodedUs).frame id frameId capturedUs)⟩ =
      some ((u.picture encodedUs).frame id frameId capturedUs) := rfl

/-- **An access unit is sent**, and the first of a window is a keyframe. -/
theorem KeyInv.coded (horder : InOrder encoder) (h : KeyInv encoder v e) (hc : v.Coupled)
    {id : UInt32} {st : WindowStream} (hst : v.streams id = some st) {u : EncodedFrame}
    (hpoll : (FrameEncoder.poll e st.handle).1 = some u) (budget : FrameBudget)
    (frameId capturedUs encodedUs : UInt64) :
    KeyInv encoder
      (v.pictured id (st.polled u) budget ((u.picture encodedUs).frame id frameId capturedUs))
      (FrameEncoder.poll e st.handle).2 := by
  have hused := h.used.poll st.handle
  have hforced := forced_polled h.forced st.handle
  have hunits : unitsSince st.handle (FrameEncoder.poll e st.handle).2.calls =
      unitsSince st.handle e.calls ++ [u] := by
    rw [unitsSince_polled, if_pos rfl, hpoll]
    rfl
  have hother : ∀ h', st.handle ≠ h' →
      unitsSince h' (FrameEncoder.poll e st.handle).2.calls = unitsSince h' e.calls := by
    intro h' hne
    rw [unitsSince_polled, if_neg hne, List.append_nil]
  have hsame : ∀ k sk, v.streams k = some sk → k ≠ id → st.handle ≠ sk.handle := by
    intro k sk hk hne hhandle
    exact hne (hc.handle_inj hk hst hhandle.symm)
  refine ⟨hused, hforced, ?_, ?_, ?_, ?_⟩
  · refine h.first.snoc ?_
    intro f hf hfirst
    cases hf
    have hnone : unitsSince st.handle e.calls = [] := by
      by_contra hsome
      obtain ⟨m, hm, g, hg, hid⟩ := h.sent id st hst hsome
      exact hfirst m hm g hg hid
    rw [hnone] at hunits
    have hkey : u.keyframe = true := (horder _ hused).first hforced hunits
    change (if u.keyframe then FrameFlag.keyframe else 0) &&& FrameFlag.keyframe = _
    rw [hkey]
    rfl
  · intro k sk hk hneeds
    unfold View.pictured at hk
    rw [View.setStream_streams] at hk
    split at hk
    · cases hk
      change ∃ u' ∈ unitsSince st.handle _, _
      rw [hunits]
      rcases Bool.and_eq_false_iff.mp hneeds with hsettled | hkey
      · obtain ⟨u', hu', hkey⟩ := h.settled id st hst hsettled
        exact ⟨u', List.mem_append_left _ hu', hkey⟩
      · exact ⟨u, List.mem_append_right _ List.mem_cons_self, by simpa using hkey⟩
    · rename_i hne
      rw [hother _ (hsame k sk hk hne)]
      exact h.settled k sk hk hneeds
  · intro k sk hk hsome
    unfold View.pictured at hk
    rw [View.setStream_streams] at hk
    split at hk
    · rename_i hid
      subst hid
      exact ⟨_, List.mem_append_right _ List.mem_cons_self, _, coded_unit _ _ _ _ _ _, rfl⟩
    · rename_i hne
      rw [hother _ (hsame k sk hk hne)] at hsome
      obtain ⟨m, hm, hf⟩ := h.sent k sk hk hsome
      exact ⟨m, List.mem_append_left _ hm, hf⟩
  · intro h' hnone
    obtain ⟨t, ht, -⟩ := hc.registered hst
    have hne : st.handle ≠ h' := by
      rintro rfl
      rw [View.pictured, View.setStream_windows, View.tell_windows, ht] at hnone
      cases hnone
    rw [hother h' hne]
    exact h.unknown h' hnone

/-- **The turn of a window** keeps it, by the ways that the turn can go. -/
theorem KeyInv.pump (horder : InOrder encoder) (h : KeyInv encoder v e) (hc : v.Coupled)
    {id : UInt32} {st : WindowStream} {frame : SourceFrame} {F : Feed (Logged EncoderCall E)}
    (hst : v.streams id = some st) (hstep : PumpStep cfg id st frame v e F) :
    KeyInv encoder F.view F.encoder := by
  have hsubmitted := h.submitted cfg hst frame
  cases hstep with
  | waited hcoding hpoll => exact hsubmitted.waited hpoll
  | empty hraw hdata => exact hsubmitted
  | coded hcoding hpoll hfits hcap => exact hsubmitted.coded horder hc hst hpoll _ _ _ _
  | raw hraw hdata hcap =>
      refine hsubmitted.told rfl ?_ rfl fun k st' hst' => ?_
      · intro m hm
        cases List.mem_singleton.mp hm
        rfl
      · refine View.setStream_back StillOwed.refl hst ?_ hst'
        exact .refl st

/-- A turn that is cut short has sent at most what the law allows. -/
theorem KeyInv.pumping (h : KeyInv encoder v e) {id : UInt32} {st : WindowStream}
    {frame : SourceFrame} {stop : Stop} {told : List Sent} {e' : Logged EncoderCall E}
    (hst : v.streams id = some st) (hcut : PumpCut cfg id st frame v e stop told e') :
    KeyCut stop told e' := by
  have hsubmitted := h.submitted cfg hst frame
  cases hcut with
  | coded => exact ⟨forced_polled hsubmitted.forced st.handle, h.first⟩
  | raw => exact ⟨hsubmitted.forced, h.first⟩

/-- What a closing that is cut short leaves is a `KeyCut`. -/
theorem KeyInv.closing (h : KeyInv encoder v e) {gone : List TrackedWindow} (stop : Stop)
    {told : List Sent} {e' : Logged EncoderCall E} (hstopped : StoppedClosing gone v e told e') :
    KeyCut stop told e' := by
  obtain ⟨done, t, rest, -, rfl, rfl⟩ := hstopped
  refine ⟨forced_forgotten h.forced _ _, ?_⟩
  exact h.first.append fun m hm => firstKeyframe_uncoded (coded_closed hm)

/-- **Keyframes first**, step by step. -/
theorem keyframes_inv [WindowSource W] (cfg : Config) (horder : InOrder encoder) :
    FeedInv (W := W) (I := I) cfg (fun _ _ => true) (KeyInv encoder) KeyCut where
  sync := fun _ hstep h => h.sync hstep
  close := fun hc hgone h => h.close hc hgone
  pump := fun hc _ hcaptured hstep h => h.pump horder hc (captured_inv hcaptured).1 hstep
  ack := by
    intro v e id frameId h
    refine h.told (List.append_nil _).symm (fun m hm => by cases hm) rfl fun k st' hst' => ?_
    unfold View.ack at hst'
    cases hst : v.streams id with
    | none =>
        rw [hst, Option.map_none, View.setStream_self hst] at hst'
        exact ⟨st', hst', .refl st'⟩
    | some st =>
        rw [hst, Option.map_some] at hst'
        refine View.setStream_back StillOwed.refl hst ?_ hst'
        exact .refl st
  pong := by
    intro v e pong h
    refine h.told rfl ?_ rfl fun id st hst => ⟨st, hst, .refl st⟩
    intro m hm
    cases List.mem_singleton.mp hm
    rfl
  aside := fun _ _ haside h =>
    ⟨h.forced, h.first.append fun m hm => firstKeyframe_uncoded (coded_aside (haside m hm))⟩
  closing := fun stop _ _ hstopped h => h.closing stop hstopped
  pumping := fun _ _ hcaptured hcut h => h.pumping (captured_inv hcaptured).1 hcut

/-- **The first frame of a window is a keyframe.**  In every run, with every encoder whose
output follows its input, each submission for a window is forced until a keyframe was polled
for it, and the first H.264 frame that is sent for a window is a keyframe. -/
theorem first_frame_keyframe [WindowSource W] [InputSink I] (cfg : Config) (source : W)
    (encoder : E) (horder : InOrder encoder) (sink : I) (events : List Event) :
    Lawful ForcedFirst (watchedAfter cfg source encoder sink events).encoder.calls ∧
      Lawful FirstKeyframe (watchedAfter cfg source encoder sink events).outbound.told := by
  have hrun := started_fed (W := Logged SourceCall W) (I := Logged SinkCall I)
    (keyframes_inv cfg horder) (.start encoder) (everyTick_free events _)
    (Session.watched source encoder sink) rfl
  unfold watchedAfter
  cases hdrive : (drive cfg events).run (Session.watched source encoder sink) with
  | ok u s =>
      rw [hdrive] at hrun
      obtain ⟨-, -, hinv⟩ := hrun
      exact ⟨hinv.forced, hinv.first⟩
  | error stop s =>
      rw [hdrive] at hrun
      exact hrun

end Keyframes

/-! ## An encoder that is one frame behind -/

/-- An encoder that gives an access unit away once the next frame was submitted. -/
structure LateEncoder where
  waiting : Handle → List EncodedFrame

instance : FrameEncoder LateEncoder where
  submit encoder handle frame forced :=
    { waiting := Function.update encoder.waiting handle (encoder.waiting handle ++
        [{ data := frame.data, keyframe := forced, width := frame.width,
           height := frame.height }]) }
  poll encoder handle :=
    match encoder.waiting handle with
    | u :: next :: rest =>
        (some u, { waiting := Function.update encoder.waiting handle (next :: rest) })
    | _ => (none, encoder)
  forget encoder handle := { waiting := Function.update encoder.waiting handle [] }
  wantsCpuFrame _ _ _ _ := false
  failed _ _ := false

def LateEncoder.new : LateEncoder := { waiting := fun _ => [] }

/-- What was submitted was polled or is still waiting. -/
theorem LateEncoder.waiting_rest {e : Logged EncoderCall LateEncoder}
    (h : Used (.fresh LateEncoder.new) e) (handle : Handle) :
    (unitsSince handle e.calls).map EncodedFrame.keyframe ++
        (e.inner.waiting handle).map EncodedFrame.keyframe =
      (submittedSince handle e.calls).map Prod.snd := by
  induction h with
  | new => rfl
  | @submit e _ h' frame forced ih =>
      change (unitsSince handle (e.calls ++ [_])).map _ ++
        ((Function.update e.inner.waiting h' _) handle).map _ =
          (submittedSince handle (e.calls ++ [_])).map _
      rw [unitsSince_submit]
      by_cases hh : h' = handle
      · subst hh
        rw [submittedSince_submit, Function.update_self, List.map_append, List.map_append, ← ih,
          List.append_assoc]
        rfl
      · rw [Function.update_of_ne (Ne.symm hh),
          submittedSince_other (c := .submit h' frame forced) hh]
        exact ih
  | @poll e _ h' ih =>
      rw [poll_calls, submittedSince_poll, ← ih]
      change (unitsSince handle (e.calls ++ [.poll h' (FrameEncoder.poll e.inner h').1])).map _ ++
        ((FrameEncoder.poll e.inner h').2.waiting handle).map _ = _
      by_cases hh : h' = handle
      · subst hh
        rw [unitsSince_poll]
        cases hw : e.inner.waiting h' with
        | nil => simp [FrameEncoder.poll, hw]
        | cons u rest =>
            cases rest with
            | nil => simp [FrameEncoder.poll, hw]
            | cons next rest => simp [FrameEncoder.poll, hw]
      · have hwaiting : (FrameEncoder.poll e.inner h').2.waiting handle =
            e.inner.waiting handle := by
          cases hw : e.inner.waiting h' with
          | nil => simp [FrameEncoder.poll, hw]
          | cons u rest =>
              cases rest with
              | nil => simp [FrameEncoder.poll, hw]
              | cons next rest => simp [FrameEncoder.poll, hw, Ne.symm hh]
        rw [unitsSince_other (c := .poll h' _) hh, hwaiting]
  | @forget e _ h' ih =>
      change (unitsSince handle (e.calls ++ [.forget h'])).map _ ++
        ((Function.update e.inner.waiting h' []) handle).map _ =
          (submittedSince handle (e.calls ++ [.forget h'])).map _
      by_cases hh : h' = handle
      · subst hh
        rw [unitsSince_forget, submittedSince_forget, Function.update_self]
        rfl
      · rw [unitsSince_other (c := .forget h') hh, submittedSince_other (c := .forget h') hh,
          Function.update_of_ne (Ne.symm hh)]
        exact ih

/-- The late encoder hands out units in the order of its frames. -/
theorem LateEncoder.inOrder : InOrder LateEncoder.new := by
  intro e hused handle
  have hsub : ((unitsSince handle e.calls).map EncodedFrame.keyframe).Sublist
      ((submittedSince handle e.calls).map Prod.snd) := by
    rw [← LateEncoder.waiting_rest hused handle]
    exact List.sublist_append_left _ _
  have hrefl : Std.Refl fun (keyframe forced : Bool) => forced = true → keyframe = true :=
    ⟨fun _ hforced => hforced⟩
  have hmatch : List.SublistForall₂ (fun (keyframe forced : Bool) =>
      forced = true → keyframe = true) ((unitsSince handle e.calls).map EncodedFrame.keyframe)
      ((submittedSince handle e.calls).map Prod.snd) := hsub.sublistForall₂
  rw [List.sublistForall₂_map_left_iff, List.sublistForall₂_map_right_iff] at hmatch
  exact hmatch

/-- The second tick of a window that is captured at each one sends its first frame. -/
theorem first_frame_keyframe_late :
    InOrder LateEncoder.new ∧
      (watchedAfter .coded busyScript LateEncoder.new NoopSink.mk
        [.tick, .tick]).outbound.told.countP (fun m => m.coded.isSome) = 1 ∧
      Lawful ForcedFirst (watchedAfter .coded busyScript LateEncoder.new NoopSink.mk
        [.tick, .tick]).encoder.calls ∧
      Lawful FirstKeyframe (watchedAfter .coded busyScript LateEncoder.new NoopSink.mk
        [.tick, .tick]).outbound.told := by
  refine ⟨LateEncoder.inOrder, by decide +kernel, ?_⟩
  exact first_frame_keyframe .coded busyScript LateEncoder.new LateEncoder.inOrder NoopSink.mk _

end Oxrdp
