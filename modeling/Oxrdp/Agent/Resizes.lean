import Oxrdp.Agent.Keyframes

/-!
# Frames of another size

A decoder cannot go on when the pictures of a window change their size, so the first frame of
another size should be submitted as a keyframe.  The driver asks for keyframes when the
*window* has another size, though, and stops asking with the first keyframe it polls, whatever
size that one has.  So a captured frame of another size is forced only if it comes while the
client is owed a keyframe (`keyframeOwed`): it has been told a new size and was not sent one
since.
-/

namespace Oxrdp

open Effect Log

/-! ## What the client was told of a size -/

/-- The size of a window as the client knows it, and whether it is to get a keyframe. -/
structure SizeTold where
  size : Option (UInt16 × UInt16)
  owed : Bool
  deriving DecidableEq, Repr

/-- One more message, for one window. -/
def SizeTold.step (id : UInt32) (a : SizeTold) (sent : Sent) : SizeTold :=
  match sent.message with
  | .windowOpened w =>
      if w.windowId = id then { size := some (w.width, w.height), owed := true } else a
  | .windowGeometry g =>
      if g.windowId = id then
        { size := some (g.width, g.height)
          owed := a.owed || decide (a.size ≠ some (g.width, g.height)) }
      else a
  | .frameData f =>
      if f.windowId = id ∧ f.codec = Codec.h264 ∧ f.flags &&& FrameFlag.keyframe ≠ 0 then
        { a with owed := false }
      else a
  | _ => a

/-- What the client knows of a window's size after all that it was told. -/
def sizeTold (id : UInt32) (told : List Sent) : SizeTold :=
  told.foldl (SizeTold.step id) { size := none, owed := false }

/-- Whether the client was told a new size of the window, and no keyframe was sent since. -/
def keyframeOwed (id : UInt32) (told : List Sent) : Bool := (sizeTold id told).owed

/-- The size told of a window after more messages. -/
theorem sizeTold_append (id : UInt32) (told sent : List Sent) :
    sizeTold id (told ++ sent) = sent.foldl (SizeTold.step id) (sizeTold id told) :=
  List.foldl_append

/-- The window whose size, or whose keyframe, a message is about. -/
def Sent.sizeId (sent : Sent) : Option UInt32 :=
  match sent.message with
  | .windowOpened w => some w.windowId
  | .windowGeometry g => some g.windowId
  | .frameData f => if f.codec = Codec.h264 then some f.windowId else none
  | _ => none

/-- A message about another window tells no size of this one. -/
theorem SizeTold.step_other {id : UInt32} {sent : Sent} (h : sent.sizeId ≠ some id)
    (a : SizeTold) : a.step id sent = a := by
  obtain ⟨ch, m⟩ := sent
  cases m with
  | windowOpened w => exact if_neg fun heq => h (congrArg some heq)
  | windowGeometry g => exact if_neg fun heq => h (congrArg some heq)
  | frameData f =>
      refine if_neg fun hthis => h ?_
      exact (if_pos hthis.2.1).trans (congrArg some hthis.1)
  | _ => rfl

/-- Messages about other windows, or about other things, do not matter. -/
theorem sizeTold_other {id : UInt32} {sent : List Sent} (h : ∀ m ∈ sent, m.sizeId ≠ some id)
    (told : List Sent) : sizeTold id (told ++ sent) = sizeTold id told := by
  rw [sizeTold_append]
  induction sent with
  | nil => rfl
  | cons m rest ih =>
      rw [List.foldl_cons, SizeTold.step_other (h m List.mem_cons_self)]
      exact ih fun m' hm' => h m' (List.mem_cons_of_mem m hm')

/-! ## The driver knows what it told -/

/-- The driver remembers the size that it told, and whether a keyframe is owed. -/
def SizesKnown (v : View) : Prop :=
  ∀ id st, v.streams id = some st → sizeTold id v.told =
    { size := some (st.geometry.width, st.geometry.height), owed := st.needsKeyframe }

section Sizes

variable {cfg : Config} {v : View}

/-- A known window has been told its size. -/
theorem sizeTold_updated {id : UInt32} {st : WindowStream} {w : SourceWindow} {told : List Sent}
    (h : sizeTold id told =
      { size := some (st.geometry.width, st.geometry.height), owed := st.needsKeyframe }) :
    sizeTold id (told ++ updateMessages id st w) =
      { size := some ((updatedStream st w).geometry.width, (updatedStream st w).geometry.height)
        owed := (updatedStream st w).needsKeyframe } := by
  have htitle : ∀ m ∈ titleMessages id st w ++ stateMessages id st w, m.sizeId ≠ some id := by
    intro m hm
    unfold titleMessages stateMessages at hm
    simp only [List.mem_append, List.mem_ite_nil_right, List.mem_singleton] at hm
    rcases hm with ⟨-, rfl⟩ | ⟨-, rfl⟩
    · exact Option.some_ne_none id |>.symm
    · exact Option.some_ne_none id |>.symm
  unfold updateMessages
  rw [← List.append_assoc, sizeTold_append]
  rw [sizeTold_other htitle, h]
  unfold geometryMessages updatedStream
  cases hmoves : movesGeometry st w with
  | true =>
      have hshown : w.minimized = false := by
        unfold movesGeometry at hmoves
        simpa using (Bool.and_eq_true_iff.mp hmoves).1
      simp [hshown, SizeTold.step, onWindow, SourceWindow.geometry]
  | false =>
      have hsame : (if w.minimized then st.geometry else w.geometry) = st.geometry := by
        unfold movesGeometry at hmoves
        cases hmin : w.minimized with
        | true => rfl
        | false =>
            rw [hmin] at hmoves
            simp at hmoves
            exact hmoves.1.symm
      simp [hsame]

/-- A step that says nothing of a size and settles no keyframe. -/
theorem SizesKnown.told (h : SizesKnown v) {v' : View} {sent : List Sent}
    (htold : v'.told = v.told ++ sent) (hsent : ∀ m ∈ sent, m.sizeId = none)
    (hstream : ∀ id st', v'.streams id = some st' → ∃ st, v.streams id = some st ∧
      st.geometry = st'.geometry ∧ st.needsKeyframe = st'.needsKeyframe) : SizesKnown v' := by
  intro id st' hst'
  obtain ⟨st, hst, hgeometry, hneeds⟩ := hstream id st' hst'
  have hother : ∀ m ∈ sent, m.sizeId ≠ some id := by
    intro m hm
    rw [hsent m hm]
    exact Option.some_ne_none id |>.symm
  rw [htold, sizeTold_other hother, h id st hst, hgeometry, hneeds]

/-- A step that is about one window. -/
theorem SizesKnown.setStream (h : SizesKnown v) {id : UInt32} {sent : List Sent}
    (hsent : ∀ m ∈ sent, m.sizeId = none ∨ m.sizeId = some id) {st' : WindowStream}
    (hthis : sizeTold id (v.told ++ sent) =
      { size := some (st'.geometry.width, st'.geometry.height), owed := st'.needsKeyframe }) :
    SizesKnown ((v.tell sent).setStream id (some st')) := by
  intro k sk hk
  rw [View.setStream_streams] at hk
  split at hk
  · rename_i hid
    subst hid
    cases hk
    exact hthis
  · rename_i hne
    have hother : ∀ m ∈ sent, m.sizeId ≠ some k := by
      intro m hm hsame
      rcases hsent m hm with hnone | hsome
      · rw [hnone] at hsame
        cases hsame
      · rw [hsome] at hsame
        cases hsame
        exact hne rfl
    change sizeTold k (v.told ++ sent) = _
    rw [sizeTold_other hother]
    exact h k sk hk

/-- What is told of a known window is of its size or of none. -/
theorem updateMessages_size {id : UInt32} {st : WindowStream} {w : SourceWindow} {m : Sent}
    (h : m ∈ updateMessages id st w) : m.sizeId = none ∨ m.sizeId = some id := by
  unfold updateMessages titleMessages stateMessages geometryMessages at h
  simp only [List.mem_append, List.mem_ite_nil_right, List.mem_singleton] at h
  rcases h with (⟨-, rfl⟩ | ⟨-, rfl⟩) | ⟨-, rfl⟩
  · exact .inl rfl
  · exact .inl rfl
  · exact .inr rfl

/-- **A window of the snapshot** keeps the sizes known: it is told its own. -/
theorem SizesKnown.sync (h : SizesKnown v) {w : SourceWindow} {v' : View}
    (hstep : SyncStep cfg w v v') : SizesKnown v' := by
  cases hstep with
  | opened t =>
      refine @SizesKnown.setStream v h t.windowId _ ?_ (openedStream cfg t w) ?_
      · intro m hm
        cases List.mem_singleton.mp hm
        exact .inr rfl
      · rw [sizeTold_append]
        exact if_pos rfl
  | updated t st hw hst =>
      exact h.setStream (fun m hm => updateMessages_size hm) (sizeTold_updated (h _ st hst))
  | skipped => exact h

/-- Closing tells no sizes. -/
theorem SizesKnown.close (h : SizesKnown v) (live : List Handle) (gone : List TrackedWindow) :
    SizesKnown (v.closing live gone) := by
  refine h.told rfl ?_ ?_
  · intro m hm
    obtain ⟨t, -, rfl⟩ := List.mem_map.mp hm
    rfl
  · intro id st hst
    simp only [View.closing] at hst
    split at hst
    · cases hst
    · exact ⟨st, hst, rfl, rfl⟩

/-- An access unit settles the keyframe that is owed exactly if it is one. -/
theorem SizeTold.step_unit (a : SizeTold) (ch : UInt16) (u : EncodedFrame) (id : UInt32)
    (frameId capturedUs encodedUs : UInt64) :
    a.step id ⟨ch, .frameData ((u.picture encodedUs).frame id frameId capturedUs)⟩ =
      { a with owed := a.owed && !u.keyframe } := by
  obtain ⟨data, keyframe, width, height⟩ := u
  cases keyframe with
  | true => simp [SizeTold.step, Picture.frame, EncodedFrame.picture, FrameFlag.keyframe]
  | false => simp [SizeTold.step, Picture.frame, EncodedFrame.picture]

/-- A unit tells no size but its own. -/
theorem SizesKnown.coded (h : SizesKnown v) {id : UInt32} {st : WindowStream}
    (hst : v.streams id = some st) (u : EncodedFrame) (budget : FrameBudget)
    (frameId capturedUs encodedUs : UInt64) :
    SizesKnown (v.pictured id (st.polled u) budget
      ((u.picture encodedUs).frame id frameId capturedUs)) := by
  refine h.setStream ?_ ?_
  · intro m hm
    cases List.mem_singleton.mp hm
    exact .inr rfl
  · rw [sizeTold_append, h id st hst]
    exact SizeTold.step_unit _ st.videoChannel u id frameId capturedUs encodedUs

/-- **A turn** keeps the sizes known. -/
theorem SizesKnown.pump {E : Type} [FrameEncoder E] {e : E} (h : SizesKnown v) {id : UInt32}
    {st : WindowStream} {frame : SourceFrame} {F : Feed E} (hst : v.streams id = some st)
    (hstep : PumpStep cfg id st frame v e F) : SizesKnown F.view := by
  cases hstep with
  | waited => exact h
  | empty => exact h
  | coded => exact h.coded hst _ _ _ _ _
  | raw =>
      refine h.setStream ?_ ?_
      · intro m hm
        cases List.mem_singleton.mp hm
        exact .inl rfl
      · rw [← h id st hst]
        refine sizeTold_other ?_ _
        intro m hm
        cases List.mem_singleton.mp hm
        exact Option.some_ne_none id |>.symm

end Sizes

/-! ## Frames of another size are forced -/

/-- Whether a frame is not of the size of the frame submitted last for its window. -/
def resizes (before : List EncoderCall) (h : Handle) (frame : SourceFrame) : Bool :=
  match (submittedSince h before).getLast? with
  | some (last, _) => decide ((last.width, last.height) ≠ (frame.width, frame.height))
  | none => false

/-- A frame of another size is forced to be a keyframe. -/
def ResizeForced (before : List EncoderCall) (call : EncoderCall) : Prop :=
  ∀ h frame forced, call = .submit h frame forced → resizes before h frame = true →
    forced = true

section Resizes

variable {W E I : Type} [WindowSource W] [FrameEncoder E]

/-- A frame of another size is captured for the window only while the client is owed a
keyframe. -/
def Session.resizeOwed (cfg : Config) (id : UInt32) (s : Session W (Logged EncoderCall E) I) :
    Bool :=
  match s.captured cfg id with
  | some (st, frame) =>
      !resizes s.encoder.calls st.handle frame || keyframeOwed id s.outbound.told
  | none => true

/-- What is silent needs no forced frame. -/
theorem resizeForced_silent {call : EncoderCall} (h : call.silent) (before : List EncoderCall) :
    ResizeForced before call := by
  intro handle frame forced hcall
  subst hcall
  exact h.elim

/-- What is known of the sizes, between the steps of a run. -/
def ResizeInv (v : View) (e : Logged EncoderCall E) : Prop :=
  SizesKnown v ∧ Lawful ResizeForced e.calls

/-- What a session that stopped leaves behind. -/
def ResizeCut (_ : Stop) (_ : List Sent) (e : Logged EncoderCall E) : Prop :=
  Lawful ResizeForced e.calls

/-- A frame that is captured while a keyframe is owed is forced. -/
theorem resizeForced_submitted {cfg : Config} {s : Session W (Logged EncoderCall E) I}
    {id : UInt32} {st : WindowStream} {frame : SourceFrame} (howed : s.resizeOwed cfg id = true)
    (hcaptured : s.captured cfg id = some (st, frame)) (h : ResizeInv s.view s.encoder) :
    Lawful ResizeForced (submitted cfg st frame s.encoder).calls := by
  obtain ⟨hknown, hlawful⟩ := h
  rw [submitted_calls]
  split
  · refine hlawful.snoc ?_
    intro handle frame' forced hcall hresizes
    cases hcall
    unfold Session.resizeOwed at howed
    rw [hcaptured] at howed
    simp only [hresizes, Bool.not_true, Bool.false_or] at howed
    have hsize := hknown id st (captured_inv hcaptured).1
    exact (congrArg SizeTold.owed hsize).symm.trans howed
  · rw [List.append_nil]
    exact hlawful

/-- **Every run** keeps them known. -/
theorem resizes_inv (cfg : Config) :
    FeedInv (W := W) (E := Logged EncoderCall E) (I := I) cfg (Session.resizeOwed cfg) ResizeInv
      ResizeCut where
  sync := fun _ hstep h => ⟨h.1.sync hstep, h.2⟩
  close := by
    intro live gone v e _ _ h
    refine ⟨h.1.close live gone, ?_⟩
    rw [forgetAll_calls]
    exact h.2.append fun call hcall => resizeForced_silent (forgets_silent hcall)
  pump := by
    intro s id st frame F _ howed hcaptured hstep h
    have hsubmitted := resizeForced_submitted howed hcaptured h
    refine ⟨h.1.pump (captured_inv hcaptured).1 hstep, ?_⟩
    cases hstep with
    | waited => exact hsubmitted.snoc (resizeForced_silent (silent_poll _ _) _)
    | coded => exact hsubmitted.snoc (resizeForced_silent (silent_poll _ _) _)
    | empty => exact hsubmitted
    | raw => exact hsubmitted
  ack := by
    intro v e id frameId h
    refine ⟨h.1.told (List.append_nil _).symm (fun m hm => by cases hm) fun k st' hst' => ?_, h.2⟩
    unfold View.ack at hst'
    cases hst : v.streams id with
    | none =>
        rw [hst, Option.map_none, View.setStream_self hst] at hst'
        exact ⟨st', hst', rfl, rfl⟩
    | some st =>
        rw [hst, Option.map_some] at hst'
        refine View.setStream_back (R := fun st st' => st.geometry = st'.geometry ∧
          st.needsKeyframe = st'.needsKeyframe) (fun _ => ⟨rfl, rfl⟩) hst ?_ hst'
        exact ⟨rfl, rfl⟩
  pong := by
    intro v e pong h
    refine ⟨h.1.told rfl ?_ fun id st hst => ⟨st, hst, rfl, rfl⟩, h.2⟩
    intro m hm
    cases List.mem_singleton.mp hm
    rfl
  aside := fun _ _ _ h => h.2
  closing := by
    intro live gone v e told e' stop _ _ hstopped h
    obtain ⟨done, t, rest, -, -, rfl⟩ := hstopped
    unfold ResizeCut
    rw [forgetAll_calls]
    exact h.2.append fun call hcall => resizeForced_silent (forgets_silent hcall)
  pumping := by
    intro s id st frame stop told e' _ howed hcaptured hcut h
    have hsubmitted := resizeForced_submitted howed hcaptured h
    cases hcut with
    | coded => exact hsubmitted.snoc (resizeForced_silent (silent_poll _ _) _)
    | raw => exact hsubmitted

/-- **Frames of another size are forced** in every run in which such a frame is captured only
while the client is owed a keyframe. -/
theorem resize_forced_of_owed [InputSink I] (cfg : Config) (source : W) (encoder : E) (sink : I)
    (events : List Event)
    (howed : everyTick (everyTurn (Session.resizeOwed cfg) cfg) cfg events
      (Session.watched source encoder sink) = true) :
    Lawful ResizeForced (watchedAfter cfg source encoder sink events).encoder.calls := by
  have hstart : ResizeInv View.start (.fresh encoder : Logged EncoderCall E) := by
    refine ⟨?_, .nil⟩
    intro id st hst
    cases hst
  have hrun := started_fed (resizes_inv cfg) hstart howed (Session.watched source encoder sink) rfl
  unfold watchedAfter
  cases hdrive : (drive cfg events).run (Session.watched source encoder sink) with
  | ok u s =>
      rw [hdrive] at hrun
      exact hrun.2.2.2
  | error stop s =>
      rw [hdrive] at hrun
      exact hrun

end Resizes

/-! ## A capture that lags behind the window -/

/-- A source with a script of snapshots and of captured frames. -/
structure FilmSource where
  shots : List (List SourceWindow)
  frames : List SourceFrame
  deriving DecidableEq, Repr

instance : WindowSource FilmSource where
  liveWindows
    | ⟨[], frames⟩ => ([], ⟨[], frames⟩)
    | ⟨shot :: shots, frames⟩ => (shot, ⟨shots, frames⟩)
  nextFrame source _ _ := (source.frames.head?, { source with frames := source.frames.tail })

/-- `notepad` with another width. -/
def wideNotepad : SourceWindow := { notepad with width := 8 }

/-- A picture of `notepad` at a width. -/
def notepadFrame (width : UInt16) : SourceFrame :=
  { width, height := 1, data := List.replicate (4 * width.toNat) 0xAB }

/-- `notepad` is made wider before its third frame. -/
def widened (frames : List SourceFrame) : FilmSource :=
  { shots := [[notepad], [notepad], [wideNotepad], [wideNotepad]], frames }

/-- The third frame has the new size. -/
theorem resize_forced_of_owed_prompt :
    everyTick (everyTurn (Session.resizeOwed .coded) .coded) .coded (List.replicate 4 .tick)
      (Session.watched (widened ([4, 4, 8, 8].map notepadFrame)) LateEncoder.new NoopSink.mk) =
        true ∧
    Lawful ResizeForced (watchedAfter .coded (widened ([4, 4, 8, 8].map notepadFrame))
      LateEncoder.new NoopSink.mk (List.replicate 4 .tick)).encoder.calls := by
  have howed : everyTick (everyTurn (Session.resizeOwed .coded) .coded) .coded
      (List.replicate 4 .tick) (Session.watched (widened ([4, 4, 8, 8].map notepadFrame))
        LateEncoder.new NoopSink.mk) = true := by
    decide +kernel
  exact ⟨howed, resize_forced_of_owed .coded _ LateEncoder.new NoopSink.mk _ howed⟩

/-- **A resize that is not forced.**  The picture follows the window one tick later, and the
encoder is one frame behind: by the time the picture has the new size, a keyframe of the old
size has come back, and the driver does not ask for another. -/
theorem late_resize_not_forced :
    ¬Lawful ResizeForced (watchedAfter .coded (widened ([4, 4, 4, 8].map notepadFrame))
      LateEncoder.new NoopSink.mk (List.replicate 4 .tick)).encoder.calls := by
  intro hlawful
  -- the fourth tick submits the first wide frame
  have hcalls : (watchedAfter .coded (widened ([4, 4, 4, 8].map notepadFrame))
      LateEncoder.new NoopSink.mk (List.replicate 4 .tick)).encoder.calls =
        (watchedAfter .coded (widened ([4, 4, 4, 8].map notepadFrame))
          LateEncoder.new NoopSink.mk (List.replicate 3 .tick)).encoder.calls ++
            .submit notepad.handle (notepadFrame 8) false ::
              [.poll notepad.handle
                (some { data := List.replicate 16 0xAB, keyframe := true, width := 4,
                        height := 1 })] := by
    decide +kernel
  have hresizes : resizes (watchedAfter .coded (widened ([4, 4, 4, 8].map notepadFrame))
      LateEncoder.new NoopSink.mk (List.replicate 3 .tick)).encoder.calls notepad.handle
        (notepadFrame 8) = true := by
    decide +kernel
  cases hlawful _ _ _ hcalls notepad.handle (notepadFrame 8) false rfl hresizes

end Oxrdp
