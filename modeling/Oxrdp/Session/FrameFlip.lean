import Oxrdp.Agent.Tracking

/-!
# A new frame calls for new bounds

Whether a window has a frame decides which coordinate space its bounds are in, so
a `WindowState` that flips the bit has to be followed by a `WindowGeometry`, even
if the numbers are the same.  What the client is owed can be read off what it was
told: a flip with no bounds after it (`Owes`).

The driver remembers a flip only within one tick, and a minimized window's bounds
are skipped.  A flip that is seen while the window is minimized is therefore
forgotten; every other one is paid for in the same tick.
-/

namespace Oxrdp

/-! ## Reading flips off the log -/

/-- The flags a message tells of a window. -/
def flagsTold (id : UInt32) (sent : Sent) : Option UInt32 :=
  match sent.message with
  | .windowOpened m => if m.windowId = id then some m.flags else none
  | .windowState m => if m.windowId = id then some m.flags else none
  | _ => none

/-- The flags the client was told last of a window. -/
def lastFlags (id : UInt32) (told : List Sent) : Option UInt32 :=
  (told.filterMap (flagsTold id)).getLast?

/-- Whether a message, coming after others, flips the frame bit of a window. -/
def flipsFrame (id : UInt32) (before : List Sent) (sent : Sent) : Bool :=
  match sent.message with
  | .windowState m =>
      m.windowId == id &&
        (lastFlags id before).any fun flags => (m.flags ^^^ flags) &&& WindowFlag.hasFrame != 0
  | _ => false

/-- Whether a message tells the bounds of a window. -/
def tellsBounds (id : UInt32) (sent : Sent) : Bool :=
  match sent.message with
  | .windowGeometry m => m.windowId == id
  | _ => false

/-- The client is owed the bounds of a window: its frame was flipped, and no
bounds came after. -/
def Owes (id : UInt32) (told : List Sent) : Prop :=
  ∃ before sent after, told = before ++ sent :: after ∧ flipsFrame id before sent = true ∧
    ∀ later ∈ after, tellsBounds id later = false

/-- The flags last told of a window, one message later. -/
theorem lastFlags_snoc (id : UInt32) (told : List Sent) (sent : Sent) :
    lastFlags id (told ++ [sent]) = (flagsTold id sent).or (lastFlags id told) := by
  unfold lastFlags
  rw [List.filterMap_append, List.getLast?_append]
  cases h : flagsTold id sent with
  | none => simp [h]
  | some flags => simp [h]

/-- One more message: it may flip the frame, or pay for an earlier flip. -/
theorem owes_snoc {id : UInt32} {told : List Sent} {sent : Sent}
    (h : Owes id (told ++ [sent])) :
    flipsFrame id told sent = true ∨ (Owes id told ∧ tellsBounds id sent = false) := by
  obtain ⟨before, flip, after, heq, hflip, hlater⟩ := h
  rcases List.eq_nil_or_concat after with rfl | ⟨after, last, rfl⟩
  · obtain ⟨rfl, hsent⟩ := List.append_inj' heq rfl
    cases hsent
    exact .inl hflip
  · rw [List.concat_eq_append] at heq hlater
    rw [← List.cons_append, ← List.append_assoc] at heq
    obtain ⟨rfl, hsent⟩ := List.append_inj' heq rfl
    cases hsent
    refine .inr ⟨⟨before, flip, after, rfl, hflip, ?_⟩, hlater _ (by simp)⟩
    intro later hmem
    exact hlater later (by simp [hmem])

/-- A message that flips nothing adds no debt. -/
theorem not_owes_snoc {id : UInt32} {told : List Sent} {sent : Sent} (h : ¬Owes id told)
    (hflip : flipsFrame id told sent = false) : ¬Owes id (told ++ [sent]) := by
  intro howes
  rcases owes_snoc howes with hyes | ⟨hold, -⟩
  · rw [hflip] at hyes
    cases hyes
  · exact h hold

/-- A message that tells no flags of a window flips nothing of it. -/
theorem flipsFrame_of_flagsTold {id : UInt32} {sent : Sent} (h : flagsTold id sent = none)
    (before : List Sent) : flipsFrame id before sent = false := by
  unfold flagsTold at h
  unfold flipsFrame
  split
  · rename_i m hmsg
    rw [hmsg] at h
    have hne : m.windowId ≠ id := by
      intro heq
      simp [heq] at h
    simp [hne]
  · rfl

/-- What tells no flags owes nothing new. -/
theorem not_owes_append {id : UInt32} {told sent : List Sent} (h : ¬Owes id told)
    (hflags : ∀ m ∈ sent, flagsTold id m = none) : ¬Owes id (told ++ sent) := by
  induction sent using List.reverseRecOn with
  | nil => rwa [List.append_nil]
  | append_singleton sent m ih =>
      rw [← List.append_assoc]
      apply not_owes_snoc
      · exact ih fun m' hm' => hflags m' (by simp [hm'])
      · exact flipsFrame_of_flagsTold (hflags m (by simp)) _

/-- What tells no flags leaves the last ones. -/
theorem lastFlags_append {id : UInt32} {told sent : List Sent}
    (hflags : ∀ m ∈ sent, flagsTold id m = none) :
    lastFlags id (told ++ sent) = lastFlags id told := by
  have hnone : sent.filterMap (flagsTold id) = [] := List.filterMap_eq_nil_iff.mpr hflags
  rw [lastFlags, List.filterMap_append, hnone, List.append_nil]
  rfl

/-! ## The frame bit -/

/-- The flag of a framed window. -/
theorem windowFlags_hasFrame (w : SourceWindow) :
    windowFlags w &&& WindowFlag.hasFrame = if w.hasFrame then WindowFlag.hasFrame else 0 := by
  unfold windowFlags
  cases w.resizable <;> cases w.hasFrame <;> cases w.topmost <;> cases w.minimized <;>
    cases w.maximized <;> rfl

/-- The driver's test for a flip compares the frames of two sightings. -/
theorem hasFrameChanged_eq {w₀ w : SourceWindow} {st : WindowStream} (hag : Agrees w₀ st) :
    hasFrameChanged st w = (w₀.hasFrame != w.hasFrame) := by
  have hxor : (windowFlags w ^^^ windowFlags w₀) &&& WindowFlag.hasFrame =
      (windowFlags w &&& WindowFlag.hasFrame) ^^^ (windowFlags w₀ &&& WindowFlag.hasFrame) := by
    apply UInt32.toBitVec_inj.mp
    ext i hi
    simp [Bool.and_xor_distrib_right]
  rw [hasFrameChanged, hag.flags_eq, hxor, windowFlags_hasFrame, windowFlags_hasFrame]
  cases w.hasFrame <;> cases w₀.hasFrame <;> rfl

/-- Whether a window keeps its frame where it is shown minimized. -/
def keepsFrame (w₀ w : SourceWindow) : Bool := !w.minimized || w₀.hasFrame == w.hasFrame

/-! ## What the messages of an update tell -/

/-- A title tells no flags. -/
theorem flagsTold_title {id k : UInt32} {st : WindowStream} {w : SourceWindow} :
    ∀ m ∈ titleMessages id st w, flagsTold k m = none := by
  intro m hm
  unfold titleMessages at hm
  split at hm
  · rw [List.mem_singleton.mp hm]
    rfl
  · cases hm

/-- A geometry tells no flags. -/
theorem flagsTold_geometry {id k : UInt32} {st : WindowStream} {w : SourceWindow} :
    ∀ m ∈ geometryMessages id st w, flagsTold k m = none := by
  intro m hm
  unfold geometryMessages at hm
  split at hm
  · rw [List.mem_singleton.mp hm]
    rfl
  · cases hm

/-- A state tells the flags of its own window only. -/
theorem flagsTold_state {id k : UInt32} {st : WindowStream} {w : SourceWindow} (hk : id ≠ k) :
    ∀ m ∈ stateMessages id st w, flagsTold k m = none := by
  intro m hm
  unfold stateMessages at hm
  split at hm
  · rw [List.mem_singleton.mp hm]
    exact if_neg hk
  · cases hm

/-- An update tells the flags of its own window only. -/
theorem flagsTold_update {id k : UInt32} {st : WindowStream} {w : SourceWindow} (hk : id ≠ k) :
    ∀ m ∈ updateMessages id st w, flagsTold k m = none := by
  intro m hm
  unfold updateMessages at hm
  rcases List.mem_append.mp hm with hm | hm
  · rcases List.mem_append.mp hm with hm | hm
    · exact flagsTold_title m hm
    · exact flagsTold_state hk m hm
  · exact flagsTold_geometry m hm

/-- After an update the client was told the flags of the window as it is. -/
theorem lastFlags_update {id : UInt32} {st : WindowStream} {w : SourceWindow} {told : List Sent}
    (hold : lastFlags id told = some st.flags) :
    lastFlags id (told ++ updateMessages id st w) = some (windowFlags w) := by
  have htitle : lastFlags id (told ++ titleMessages id st w) = some st.flags := by
    rw [lastFlags_append flagsTold_title, hold]
  have hstate : lastFlags id (told ++ titleMessages id st w ++ stateMessages id st w) =
      some (windowFlags w) := by
    unfold stateMessages
    split
    · rw [lastFlags_snoc]
      have hflags : flagsTold id (onWindow
          (.windowState { windowId := id, state := showState w, flags := windowFlags w })) =
          some (windowFlags w) := if_pos rfl
      rw [hflags, Option.some_or]
    · rename_i hsame
      rw [not_or, not_not, not_not] at hsame
      rw [List.append_nil, htitle, hsame.2]
  rw [updateMessages, ← List.append_assoc, ← List.append_assoc,
    lastFlags_append flagsTold_geometry, hstate]

/-- An update pays for the flip it makes, unless the window is minimized. -/
theorem not_owes_update {id : UInt32} {st : WindowStream} {w w₀ : SourceWindow}
    {told : List Sent} (hold : lastFlags id told = some st.flags) (howes : ¬Owes id told)
    (hag : Agrees w₀ st) (hkeeps : keepsFrame w₀ w = true) :
    ¬Owes id (told ++ updateMessages id st w) := by
  have htitle : lastFlags id (told ++ titleMessages id st w) = some st.flags := by
    rw [lastFlags_append flagsTold_title, hold]
  have howes₁ : ¬Owes id (told ++ titleMessages id st w) :=
    not_owes_append howes flagsTold_title
  rw [updateMessages, ← List.append_assoc, ← List.append_assoc]
  cases hflip : hasFrameChanged st w with
  | true =>
      have hmoves : movesGeometry st w = true := by
        rw [hasFrameChanged_eq hag, bne_iff_ne] at hflip
        have hmin : w.minimized = false := by
          cases hw : w.minimized with
          | false => rfl
          | true => simp [keepsFrame, hw, hflip] at hkeeps
        simp [movesGeometry, hmin, hasFrameChanged_eq hag, hflip]
      unfold geometryMessages
      rw [if_pos hmoves]
      intro hyes
      rcases owes_snoc hyes with hflips | ⟨-, hbounds⟩
      · cases hflips
      · simp [tellsBounds, onWindow] at hbounds
  | false =>
      apply not_owes_append _ flagsTold_geometry
      unfold stateMessages
      split
      · apply not_owes_snoc howes₁
        simp only [flipsFrame, onWindow, htitle, Option.any_some]
        unfold hasFrameChanged at hflip
        rw [hflip, Bool.and_false]
      · rw [List.append_nil]
        exact howes₁

/-! ## The invariant -/

/-- The driver knows which flags the client was told last, and owes it nothing. -/
structure View.Paid (v : View) : Prop where
  flags_eq : ∀ id st, v.streams id = some st → lastFlags id v.told = some st.flags
  paid : ∀ id, ¬Owes id v.told

namespace View

variable {v v' : View}

/-- At the start nothing is owed. -/
theorem Paid.start : View.start.Paid where
  flags_eq := by
    intro id st hst
    cases hst
  paid := by
    intro id h
    obtain ⟨before, sent, after, heq, -⟩ := h
    simp [View.start] at heq

/-- Messages that tell no flags, of windows remembered as before. -/
theorem Paid.silent (hv : v.Paid) {sent : List Sent} (htold : v'.told = v.told ++ sent)
    (hsilent : ∀ m ∈ sent, ∀ id, flagsTold id m = none)
    (hstreams : ∀ id st', v'.streams id = some st' →
      ∃ st, v.streams id = some st ∧ st.flags = st'.flags) : v'.Paid where
  flags_eq := by
    intro id st' hst'
    obtain ⟨st, hst, heq⟩ := hstreams id st' hst'
    rw [htold, lastFlags_append fun m hm => hsilent m hm id, hv.flags_eq id st hst, heq]
  paid := by
    intro id
    rw [htold]
    exact not_owes_append (hv.paid id) fun m hm => hsilent m hm id

/-- What changes no window keeps the flags of its stream. -/
theorem Idle.flags (hi : v.Idle v') :
    ∀ id st', v'.streams id = some st' → ∃ st, v.streams id = some st ∧ st.flags = st'.flags := by
  intro id st' hst'
  obtain ⟨st, hst, heq⟩ := hi.stream_back hst'
  exact ⟨st, hst, congrArg Announced.flags heq⟩

/-- A frame owes nothing. -/
theorem Paid.frame {id : UInt32} (hv : v.Paid) (h : FrameStep id v v') : v'.Paid := by
  have hflags := h.idle.flags
  obtain ⟨f, st, budget, needsKeyframe, -, -, -, -, rfl⟩ := h
  apply hv.silent rfl _ hflags
  intro m hm id
  rw [List.mem_singleton.mp hm]
  rfl

/-- An acknowledgement owes nothing. -/
theorem Paid.ack (hv : v.Paid) (id : UInt32) (frameId : UInt64) : (v.ack id frameId).Paid := by
  have htold : (v.ack id frameId).told = v.told ++ [] := (List.append_nil _).symm
  apply hv.silent htold _ (idle_ack v id frameId).flags
  intro m hm
  cases hm

/-- A pong owes nothing. -/
theorem Paid.pong (hv : v.Paid) (p : Pong) : (v.tell [⟨Channel.control, .pong p⟩]).Paid := by
  apply hv.silent rfl _ (idle_tell v _).flags
  intro m hm id
  rw [List.mem_singleton.mp hm]
  rfl

/-- A closed window owes nothing. -/
theorem Paid.close {live : List Handle} (hv : v.Paid) (h : CloseStep live v v') : v'.Paid := by
  obtain ⟨gone, -, -, rfl⟩ := h
  apply hv.silent rfl
  · intro m hm id
    obtain ⟨t, -, rfl⟩ := List.mem_map.mp hm
    rfl
  · intro id st hst
    simp only [closing] at hst
    split at hst
    · cases hst
    · exact ⟨st, hst, rfl⟩

/-- **A window of the snapshot** owes nothing afterwards, if its frame did not change while it was
minimized. -/
theorem Paid.sync {cfg : Config} {w : SourceWindow} {seen : List SourceWindow} (hv : v.Paid)
    (ht : v.Tracks seen) (h : SyncStep cfg w v v')
    (hkeeps : ∀ w₀, lastSeen seen w.handle = some w₀ → keepsFrame w₀ w = true) : v'.Paid := by
  cases h with
  | skipped => exact hv
  | opened t hnew hid _ _ =>
      refine ⟨?_, ?_⟩
      · intro id st hst
        simp only [Function.update_apply] at hst
        rw [lastFlags_snoc]
        split at hst
        · rename_i heq
          cases hst
          have hflags : flagsTold id (onWindow (.windowOpened (openedMessage t w))) =
              some (windowFlags w) := if_pos heq.symm
          rw [hflags, Option.some_or]
          rfl
        · rename_i hne
          have hflags : flagsTold id (onWindow (.windowOpened (openedMessage t w))) = none :=
            if_neg (Ne.symm hne)
          rw [hflags, Option.none_or, hv.flags_eq id st hst]
      · intro id
        exact not_owes_snoc (hv.paid id) rfl
  | updated t st hw hst =>
      obtain ⟨w₀, hseen, hag⟩ := ht.known hw hst
      have hold := hv.flags_eq t.windowId st hst
      refine ⟨?_, ?_⟩
      · intro id st' hst'
        rw [setStream_streams] at hst'
        rw [setStream_told, tell_told]
        split at hst'
        · rename_i heq
          cases hst'
          subst heq
          exact lastFlags_update hold
        · rename_i hne
          rw [lastFlags_append (flagsTold_update (Ne.symm hne)), hv.flags_eq id st' hst']
      · intro id
        rw [setStream_told, tell_told]
        by_cases hid : id = t.windowId
        · rw [hid]
          exact not_owes_update hold (hv.paid t.windowId) hag (hkeeps w₀ hseen)
        · exact not_owes_append (hv.paid id) (flagsTold_update (Ne.symm hid))

end View

section FrameFlip

variable {W E I : Type} [WindowSource W] [FrameEncoder E] [InputSink I]

/-- Every window of a snapshot that is not minimized has had its bounds told after
the last flip of its frame. -/
def BoundsFollow (s : Session W E I) (live : List SourceWindow) : Prop :=
  ∀ w ∈ live, w.minimized = false →
    ∀ t, s.registry.handleToWindow.lookup w.handle = some t →
      ¬Owes t.windowId s.outbound.told

/-- **A flip is followed by bounds** in every run in which no window is seen to lose or
gain its frame while it is minimized. -/
theorem bounds_follow_of_steady {cfg : Config} {source : W} {encoder : E} {sink : I}
    {events : List Event} {s : Session W E I}
    (hrun : Running cfg source encoder sink events s)
    (hsteady : steadily keepsFrame []
      (snapshots cfg (Session.start source encoder sink) events) = true) :
    ∀ live, (snapshots cfg (Session.start source encoder sink) events).getLast? = some live →
      BoundsFollow s live := by
  have hkeep := hrun.keep (J := View.Paid) .start
    (fun before snap after seen w rest a b hsnaps hsnap _ ht hstep ha => by
      apply ha.sync ht hstep
      intro w₀ hseen
      rw [hsnaps] at hsteady
      have hone := steadily_apply hsteady
      rw [hsnap] at hone
      exact steady_apply hone hseen)
    (fun _ a b _ hclose ha => ha.close hclose)
    (fun _ a b hframe ha => ha.frame hframe)
    (fun a id frameId ha => ha.ack id frameId)
    (fun a p ha => ha.pong p)
  intro live _ w _ _ t _
  exact hkeep.2.2.paid t.windowId

end FrameFlip

/-- A window that loses its frame on the screen. -/
def flippedScript : ScriptedSource :=
  { shots := [[notepad], [{ notepad with hasFrame := false }]]
    frame := none }

/-- A frame that is taken away and given back while the window is shown. -/
theorem bounds_follow_flipped :
    steadily keepsFrame [] flippedScript.shots = true ∧
    BoundsFollow
      (sessionAfter .stalled flippedScript NoopEncoder.mk NoopSink.mk [.tick, .tick])
      [{ notepad with hasFrame := false }] := by
  have hsnaps : snapshots .stalled (Session.start flippedScript NoopEncoder.mk NoopSink.mk)
      [.tick, .tick] = flippedScript.shots := by decide +kernel
  have hsteady : steadily keepsFrame [] flippedScript.shots = true := by decide
  refine ⟨hsteady, ?_⟩
  apply bounds_follow_of_steady
    (running_sessionAfter .stalled flippedScript NoopEncoder.mk NoopSink.mk [.tick, .tick]
      (by decide +kernel))
  · rw [hsnaps]
    exact hsteady
  · rw [hsnaps]
    rfl

/-- A window that loses its frame while it is minimized, and comes back where it
was. -/
def minimizedFlipScript : ScriptedSource :=
  { shots :=
      [[notepad], [{ notepad with minimized := true, hasFrame := false }],
        [{ notepad with hasFrame := false }]]
    frame := none }

/-- The flip is reported and its bounds never are. -/
theorem minimized_flip_owes_bounds :
    Running .stalled minimizedFlipScript NoopEncoder.mk NoopSink.mk [.tick, .tick, .tick]
      (sessionAfter .stalled minimizedFlipScript NoopEncoder.mk NoopSink.mk
        [.tick, .tick, .tick]) ∧
    (snapshots .stalled (Session.start minimizedFlipScript NoopEncoder.mk NoopSink.mk)
      [.tick, .tick, .tick]).getLast? = some [{ notepad with hasFrame := false }] ∧
    ¬BoundsFollow
      (sessionAfter .stalled minimizedFlipScript NoopEncoder.mk NoopSink.mk
        [.tick, .tick, .tick])
      [{ notepad with hasFrame := false }] := by
  refine ⟨running_sessionAfter _ _ _ _ _ (by decide +kernel), by decide +kernel, ?_⟩
  intro hfollow
  have hid : (sessionAfter .stalled minimizedFlipScript NoopEncoder.mk NoopSink.mk
      [.tick, .tick, .tick]).registry.handleToWindow.lookup notepad.handle =
        some { windowId := 1, videoChannel := videoBase } := by decide +kernel
  have htold : (sessionAfter .stalled minimizedFlipScript NoopEncoder.mk NoopSink.mk
      [.tick, .tick, .tick]).outbound.told =
        [onWindow (.windowOpened (openedMessage ⟨1, videoBase⟩ notepad)),
          onWindow (.windowState ⟨1, WindowShow.minimized, 9⟩),
          onWindow (.windowState ⟨1, WindowShow.normal, 1⟩)] := by decide +kernel
  apply hfollow _ (List.mem_singleton_self _) rfl _ hid
  rw [htold]
  exact ⟨[_], _, [_], rfl, by decide, by decide⟩

end Oxrdp
