import Oxrdp.Agent.Tracking
import Oxrdp.Client.Model

/-!
# The client mirrors the agent's windows

The agent tells the client only what changed, against its own memory of what the
client was told; the client applies each message to its model.  The two meet in
`MirroredBy`: for every window the driver remembers, and for no other, the model
holds what the driver remembers.  And what the driver remembers is what the last
snapshot said (`Tracks`).
-/

namespace Oxrdp

/-- The client's model after everything it was told. -/
def clientModel (told : List Sent) : WindowModel :=
  WindowModel.new.receiveAll (told.map Sent.message)

/-- The client's model after more messages. -/
theorem clientModel_append (told sent : List Sent) :
    clientModel (told ++ sent) = (clientModel told).receiveAll (sent.map Sent.message) := by
  rw [clientModel, List.map_append, WindowModel.receiveAll_append]
  rfl

/-! ## Flags and show states on the wire -/

/-- The flag of a minimized window. -/
theorem windowFlags_minimized (w : SourceWindow) :
    (windowFlags w &&& WindowFlag.minimized != 0) = w.minimized := by
  unfold windowFlags
  cases w.resizable <;> cases w.hasFrame <;> cases w.topmost <;> cases w.minimized <;>
    cases w.maximized <;> rfl

/-- The flag of a maximized window. -/
theorem windowFlags_maximized (w : SourceWindow) :
    (windowFlags w &&& WindowFlag.maximized != 0) = w.maximized := by
  unfold windowFlags
  cases w.resizable <;> cases w.hasFrame <;> cases w.topmost <;> cases w.minimized <;>
    cases w.maximized <;> rfl

/-- The show state of a minimized window. -/
theorem showState_minimized (w : SourceWindow) :
    (showState w == WindowShow.minimized) = w.minimized := by
  unfold showState
  cases w.minimized <;> cases w.maximized <;> rfl

/-- A show state carries both booleans, unless a window is both at once. -/
theorem showState_maximized {w : SourceWindow}
    (h : ¬(w.minimized = true ∧ w.maximized = true)) :
    (showState w == WindowShow.maximized) = w.maximized := by
  unfold showState
  cases hmin : w.minimized <;> cases hmax : w.maximized
  · rfl
  · rfl
  · rfl
  · exact absurd ⟨hmin, hmax⟩ h

/-! ## What the messages about one window do -/

/-- The model changes at `id` by `f`, and nowhere else. -/
def Amends (id : UInt32) (f : RemoteWindow → RemoteWindow) (model model' : WindowModel) : Prop :=
  ∀ k, model'.windows.lookup k =
    if k = id then (model.windows.lookup k).map f else model.windows.lookup k

/-- Nothing is amended by no message. -/
theorem Amends.refl (id : UInt32) (model : WindowModel) :
    Amends id (fun known => known) model model := by
  intro k
  simp

/-- Amendments are made one after the other. -/
theorem Amends.trans {id : UInt32} {f g : RemoteWindow → RemoteWindow}
    {a b c : WindowModel} (hab : Amends id f a b) (hbc : Amends id g b c) :
    Amends id (fun known => g (f known)) a c := by
  intro k
  rw [hbc k, hab k]
  by_cases hk : k = id
  · simp only [if_pos hk, Option.map_map]
    rfl
  · simp only [if_neg hk]

/-- The title messages of an update, applied to what is known. -/
def RemoteWindow.retitled (st : WindowStream) (w : SourceWindow) (known : RemoteWindow) :
    RemoteWindow :=
  if st.title ≠ w.title then { known with title := w.title } else known

/-- The show state messages of an update, applied to what is known. -/
def RemoteWindow.restated (st : WindowStream) (w : SourceWindow) (known : RemoteWindow) :
    RemoteWindow :=
  if st.showState ≠ showState w ∨ st.flags ≠ windowFlags w then
    { known with
      minimized := showState w == WindowShow.minimized
      maximized := showState w == WindowShow.maximized }
  else known

/-- The bounds messages of an update, applied to what is known. -/
def RemoteWindow.moved (st : WindowStream) (w : SourceWindow) (known : RemoteWindow) :
    RemoteWindow :=
  if movesGeometry st w then
    { known with x := w.x, y := w.y, width := w.width, height := w.height }
  else known

/-- A whole update, applied to what is known. -/
def RemoteWindow.updated (st : WindowStream) (w : SourceWindow) (known : RemoteWindow) :
    RemoteWindow :=
  ((known.retitled st w).restated st w).moved st w

/-- A title message amends the title. -/
theorem amends_title (id : UInt32) (st : WindowStream) (w : SourceWindow) (model : WindowModel) :
    Amends id (RemoteWindow.retitled st w) model
      (model.receiveAll ((titleMessages id st w).map Sent.message)) := by
  unfold titleMessages RemoteWindow.retitled
  split
  · exact model.lookup_windowTitle ⟨id, w.title⟩
  · exact Amends.refl id model

/-- A state message amends the show state. -/
theorem amends_state (id : UInt32) (st : WindowStream) (w : SourceWindow) (model : WindowModel) :
    Amends id (RemoteWindow.restated st w) model
      (model.receiveAll ((stateMessages id st w).map Sent.message)) := by
  unfold stateMessages RemoteWindow.restated
  split
  · exact model.lookup_windowState ⟨id, showState w, windowFlags w⟩
  · exact Amends.refl id model

/-- A geometry message amends the bounds. -/
theorem amends_geometry (id : UInt32) (st : WindowStream) (w : SourceWindow)
    (model : WindowModel) :
    Amends id (RemoteWindow.moved st w) model
      (model.receiveAll ((geometryMessages id st w).map Sent.message)) := by
  unfold geometryMessages RemoteWindow.moved
  split
  · exact model.lookup_windowGeometry ⟨id, w.x, w.y, w.width, w.height⟩
  · exact Amends.refl id model

/-- The messages of an update change the model at their window only. -/
theorem amends_update (id : UInt32) (st : WindowStream) (w : SourceWindow)
    (model : WindowModel) :
    Amends id (RemoteWindow.updated st w) model
      (model.receiveAll ((updateMessages id st w).map Sent.message)) := by
  rw [updateMessages, List.map_append, List.map_append, WindowModel.receiveAll_append,
    WindowModel.receiveAll_append]
  exact ((amends_title id st w model).trans (amends_state id st w _)).trans
    (amends_geometry id st w _)

/-- What the model shows of a window is what the driver remembers of it. -/
structure Shows (st : WindowStream) (known : RemoteWindow) : Prop where
  title_eq : known.title = st.title
  minimized_eq : known.minimized = (st.showState == WindowShow.minimized)
  maximized_eq : known.maximized = (st.showState == WindowShow.maximized)
  geometry_eq : (⟨known.x, known.y, known.width, known.height⟩ : Geometry) = st.geometry

/-- What shows a stream shows any that announces the same. -/
theorem Shows.of_announced {st st' : WindowStream} {known : RemoteWindow}
    (h : Shows st known) (heq : st'.announced = st.announced) : Shows st' known := by
  have hstate : st'.showState = st.showState := congrArg Announced.showState heq
  refine ⟨?_, ?_, ?_, ?_⟩
  · exact h.title_eq.trans (congrArg Announced.title heq).symm
  · rw [hstate]
    exact h.minimized_eq
  · rw [hstate]
    exact h.maximized_eq
  · exact h.geometry_eq.trans (congrArg Announced.geometry heq).symm

/-- An update brings the model up to date with the driver. -/
theorem Shows.updated {st : WindowStream} {known : RemoteWindow} (h : Shows st known)
    (w : SourceWindow) : Shows (updatedStream st w) (known.updated st w) := by
  have htitle : Shows { st with title := w.title } (known.retitled st w) := by
    unfold RemoteWindow.retitled
    split
    · exact ⟨rfl, h.minimized_eq, h.maximized_eq, h.geometry_eq⟩
    · rename_i hsame
      rw [← not_not.mp hsame]
      exact h
  have hstate : Shows (stateStream st w) ((known.retitled st w).restated st w) := by
    unfold RemoteWindow.restated
    split
    · exact ⟨htitle.title_eq, rfl, rfl, htitle.geometry_eq⟩
    · rename_i hsame
      rw [not_or, not_not, not_not] at hsame
      rw [stateStream, ← hsame.1, ← hsame.2]
      exact htitle
  unfold RemoteWindow.updated RemoteWindow.moved
  split
  · rename_i hmoves
    rw [updatedStream_moved hmoves]
    exact ⟨hstate.title_eq, hstate.minimized_eq, hstate.maximized_eq, rfl⟩
  · rename_i hkept
    rw [updatedStream_kept (Bool.eq_false_iff.mpr hkept)]
    exact hstate

/-- A window that has just been announced is shown as the driver remembers it. -/
theorem Shows.opened {cfg : Config} {t : TrackedWindow} {w : SourceWindow}
    (hshow : ¬(w.minimized = true ∧ w.maximized = true)) :
    Shows (openedStream cfg t w) (.fromOpened (openedMessage t w)) where
  title_eq := rfl
  minimized_eq := (windowFlags_minimized w).trans (showState_minimized w).symm
  maximized_eq := (windowFlags_maximized w).trans (showState_maximized hshow).symm
  geometry_eq := rfl

/-! ## The simulation -/

/-- The client knows the windows the driver remembers, and each of them in the way
`R` says. -/
structure View.MirroredBy (R : WindowStream → RemoteWindow → Prop) (v : View) : Prop where
  unknown : ∀ id, v.streams id = none → (clientModel v.told).windows.lookup id = none
  known : ∀ id st, v.streams id = some st →
    ∃ known, (clientModel v.told).windows.lookup id = some known ∧ R st known

namespace View

variable {R : WindowStream → RemoteWindow → Prop} {v v' : View}

/-- At the start nothing is to be mirrored. -/
theorem MirroredBy.start : View.start.MirroredBy R where
  unknown := fun _ _ => rfl
  known := by
    intro id st hst
    cases hst

/-- Messages the model does not look at. -/
theorem MirroredBy.idle (hv : v.MirroredBy R) (hi : v.Idle v')
    (htold : (clientModel v'.told).windows = (clientModel v.told).windows)
    (hR : ∀ st st' known, R st known → st'.announced = st.announced → R st' known) :
    v'.MirroredBy R where
  unknown := by
    intro id hid
    rw [htold]
    apply hv.unknown
    have heq := hi.announced_eq id
    rw [hid, Option.map_none] at heq
    exact Option.map_eq_none_iff.mp heq.symm
  known := by
    intro id st' hst'
    obtain ⟨st, hst, heq⟩ := hi.stream_back hst'
    obtain ⟨known, hknown, hshows⟩ := hv.known id st hst
    rw [htold]
    exact ⟨known, hknown, hR st st' known hshows heq.symm⟩

/-- A frame announces nothing. -/
theorem MirroredBy.frame {id : UInt32} (hv : v.MirroredBy R) (h : FrameStep id v v')
    (hR : ∀ st st' known, R st known → st'.announced = st.announced → R st' known) :
    v'.MirroredBy R := by
  apply hv.idle h.idle _ hR
  obtain ⟨f, st, budget, needsKeyframe, -, -, -, -, rfl⟩ := h
  rw [setStream_told, tell_told, clientModel_append]
  rfl

/-- Neither does a pong. -/
theorem MirroredBy.pong (hv : v.MirroredBy R) (p : Pong)
    (hR : ∀ st st' known, R st known → st'.announced = st.announced → R st' known) :
    (v.tell [⟨Channel.control, .pong p⟩]).MirroredBy R := by
  apply hv.idle (idle_tell v _) _ hR
  rw [tell_told, clientModel_append]
  rfl

/-- A fresh window is shown as it was announced. -/
theorem lookup_opened {told : List Sent} {t : TrackedWindow} {w : SourceWindow}
    (hfresh : (clientModel told).windows.lookup t.windowId = none) (k : UInt32) :
    (clientModel (told ++
        [onWindow (.windowOpened (openedMessage t w))])).windows.lookup k =
      if k = t.windowId then some (.fromOpened (openedMessage t w))
      else (clientModel told).windows.lookup k := by
  have hopened := (clientModel told).lookup_windowOpened (openedMessage t w) k
  rw [clientModel_append]
  refine hopened.trans ?_
  by_cases hk : k = t.windowId
  · subst hk
    rw [hfresh]
    rfl
  · rw [if_neg hk, if_neg (show ¬k = (openedMessage t w).windowId from hk)]

/-- **A window of the snapshot** is mirrored: a new one as it is opened, a known one as it is
updated. -/
theorem MirroredBy.sync {cfg : Config} {w : SourceWindow} (hv : v.MirroredBy R)
    (hc : v.Coupled) (h : SyncStep cfg w v v')
    (hopened : ∀ t, R (openedStream cfg t w) (.fromOpened (openedMessage t w)))
    (hupdated : ∀ t st known, v.windows w.handle = some t →
      v.streams t.windowId = some st → R st known →
      R (updatedStream st w) (known.updated st w)) :
    v'.MirroredBy R := by
  cases h with
  | skipped => exact hv
  | opened t hnew hid _ _ =>
      have hfresh := hv.unknown t.windowId (hc.stream_fresh (Nat.le_of_eq hid.symm))
      have hlook := lookup_opened (w := w) hfresh
      refine ⟨?_, ?_⟩
      · intro id hst
        simp only [Function.update_apply] at hst
        rw [hlook]
        split at hst
        · cases hst
        · rename_i hne
          rw [if_neg hne]
          exact hv.unknown id hst
      · intro id st hst
        simp only [Function.update_apply] at hst
        rw [hlook]
        split at hst
        · rename_i heq
          cases hst
          exact ⟨_, if_pos heq, hopened t⟩
        · rename_i hne
          rw [if_neg hne]
          exact hv.known id st hst
  | updated t st hw hst =>
      have hlook := amends_update t.windowId st w (clientModel v.told)
      rw [← clientModel_append] at hlook
      refine ⟨?_, ?_⟩
      · intro id hid
        rw [setStream_streams] at hid
        rw [setStream_told, tell_told, hlook id]
        split at hid
        · cases hid
        · rename_i hne
          rw [if_neg hne]
          exact hv.unknown id hid
      · intro id st' hst'
        rw [setStream_streams] at hst'
        rw [setStream_told, tell_told, hlook id]
        split at hst'
        · rename_i heq
          cases hst'
          obtain ⟨known, hknown, hR⟩ := hv.known t.windowId st hst
          rw [if_pos heq, heq, hknown]
          exact ⟨_, rfl, hupdated t st known hw hst hR⟩
        · rename_i hne
          rw [if_neg hne]
          exact hv.known id st' hst'

/-- Closing messages take their windows out of the model. -/
theorem lookup_closing (gone : List TrackedWindow) (model : WindowModel) (k : UInt32) :
    (model.receiveAll ((gone.map closedMessage).map Sent.message)).windows.lookup k =
      if k ∈ gone.map TrackedWindow.windowId then none else model.windows.lookup k := by
  induction gone generalizing model with
  | nil => simp [WindowModel.receiveAll]
  | cons t gone ih =>
      have hone := model.lookup_windowClosed ⟨t.windowId⟩ k
      have hrest := ih (model.receive (.windowClosed ⟨t.windowId⟩))
      refine hrest.trans ?_
      rw [hone]
      by_cases hk : k ∈ gone.map TrackedWindow.windowId
      · rw [if_pos hk, if_pos (by rw [List.map_cons]; exact List.mem_cons_of_mem _ hk)]
      · by_cases heq : k = t.windowId
        · simp [heq]
        · rw [if_neg hk, if_neg heq, if_neg]
          rw [List.map_cons, List.mem_cons, not_or]
          exact ⟨heq, hk⟩

/-- A closed window is in neither. -/
theorem MirroredBy.close {live : List Handle} (hv : v.MirroredBy R) (h : CloseStep live v v') :
    v'.MirroredBy R := by
  obtain ⟨gone, -, -, rfl⟩ := h
  have hlook : ∀ k, (clientModel (v.closing live gone).told).windows.lookup k =
      if k ∈ gone.map TrackedWindow.windowId then none
      else (clientModel v.told).windows.lookup k := by
    intro k
    rw [closing, clientModel_append]
    exact lookup_closing gone (clientModel v.told) k
  refine ⟨?_, ?_⟩
  · intro id hid
    simp only [closing] at hid
    rw [hlook]
    split at hid
    · rw [if_pos (by assumption)]
    · rw [if_neg (by assumption)]
      exact hv.unknown id hid
  · intro id st hst
    simp only [closing] at hst
    rw [hlook]
    split at hst
    · cases hst
    · rw [if_neg (by assumption)]
      exact hv.known id st hst

end View

/-- A run keeps the client's copy in step with the driver's memory, as far as the
announcements and updates of single windows do. -/
theorem Running.mirroredBy {W E I : Type} [WindowSource W] [FrameEncoder E] [InputSink I]
    {R : WindowStream → RemoteWindow → Prop} {cfg : Config} {source : W} {encoder : E}
    {sink : I} {events : List Event} {s : Session W E I}
    (hrun : Running cfg source encoder sink events s)
    (hR : ∀ st st' known, R st known → st'.announced = st.announced → R st' known)
    (hopened : ∀ snap ∈ snapshots cfg (Session.start source encoder sink) events,
      ∀ w ∈ snap, ∀ t, R (openedStream cfg t w) (.fromOpened (openedMessage t w)))
    (hupdated : ∀ before live after seen w rest w₀ st known,
      snapshots cfg (Session.start source encoder sink) events = before ++ live :: after →
      live = seen ++ w :: rest →
      lastSeen (lastSnapshot before ++ seen) w.handle = some w₀ → Agrees w₀ st →
      R st known → R (updatedStream st w) (known.updated st w)) :
    s.view.Coupled ∧
      s.view.Tracks
        (lastSnapshot (snapshots cfg (Session.start source encoder sink) events)) ∧
      s.view.MirroredBy R := by
  apply hrun.keep
  · exact .start
  · intro before live after seen w rest a b hsnaps hlive hc ht hstep ha
    apply ha.sync hc hstep
    · apply hopened live
      · rw [hsnaps]
        simp
      · rw [hlive]
        simp
    · intro t st known hw hst hknown
      obtain ⟨w₀, hseen, hag⟩ := ht.known hw hst
      exact hupdated before live after seen w rest w₀ st known hsnaps hlive hseen hag hknown
  · intro _ a b _ hclose ha
    exact ha.close hclose
  · intro _ a b hframe ha
    exact ha.frame hframe hR
  · intro a id frameId ha
    exact ha.idle (View.idle_ack a id frameId) rfl hR
  · intro a p ha
    exact ha.pong p hR

section Mirror

variable {W E I : Type} [WindowSource W] [FrameEncoder E] [InputSink I]

/-- What a window of a snapshot looks like in the client's model. -/
structure Pictured (w : SourceWindow) (known : RemoteWindow) : Prop where
  title_eq : known.title = w.title
  minimized_eq : known.minimized = w.minimized
  maximized_eq : known.maximized = w.maximized
  bounds_eq : w.minimized = false →
    known.x = w.x ∧ known.y = w.y ∧ known.width = w.width ∧ known.height = w.height

/-- A window that shows a stream pictures the window that the stream agrees with. -/
theorem Shows.pictured {st : WindowStream} {known : RemoteWindow} {w : SourceWindow}
    (h : Shows st known) (hag : Agrees w st)
    (hshow : ¬(w.minimized = true ∧ w.maximized = true)) : Pictured w known where
  title_eq := h.title_eq.trans hag.title_eq
  minimized_eq := by
    rw [h.minimized_eq, hag.state_eq, showState_minimized]
  maximized_eq := by
    rw [h.maximized_eq, hag.state_eq, showState_maximized hshow]
  bounds_eq := by
    intro hmin
    have hgeom := h.geometry_eq.trans (hag.geometry_eq hmin)
    injection hgeom with hx hy hwidth hheight
    exact ⟨hx, hy, hwidth, hheight⟩

/-- **Window mirror.**  After any run whose sends all succeeded, the windows in the
client's model are exactly those registered for the last snapshot, and each one
looks as that snapshot says. -/
theorem clientModel_mirrors_snapshot {cfg : Config} {source : W} {encoder : E} {sink : I}
    {events : List Event} {s : Session W E I} {live : List SourceWindow}
    (hrun : Running cfg source encoder sink events s)
    (hdistinct : ∀ snap ∈ snapshots cfg (Session.start source encoder sink) events,
      (snap.map SourceWindow.handle).Nodup)
    (hshow : ∀ snap ∈ snapshots cfg (Session.start source encoder sink) events,
      ∀ w ∈ snap, ¬(w.minimized = true ∧ w.maximized = true))
    (hlast : (snapshots cfg (Session.start source encoder sink) events).getLast? = some live) :
    (∀ id, id ∈ (clientModel s.outbound.told).windows ↔
      ∃ w ∈ live, ∃ t, s.registry.handleToWindow.lookup w.handle = some t ∧
        t.windowId = id) ∧
    ∀ w ∈ live, ∃ t known, s.registry.handleToWindow.lookup w.handle = some t ∧
      (clientModel s.outbound.told).windows.lookup t.windowId = some known ∧
      Pictured w known := by
  have hkeep := hrun.mirroredBy (R := Shows) (fun st st' known h heq => h.of_announced heq)
    (fun snap hsnap w hw t => Shows.opened (hshow snap hsnap w hw))
    (fun before live after seen w rest w₀ st known _ _ _ _ h => h.updated w)
  obtain ⟨hc, htracks, hmirror⟩ := hkeep
  have hsnap : live ∈ snapshots cfg (Session.start source encoder sink) events :=
    List.mem_of_getLast? hlast
  rw [lastSnapshot, hlast, Option.getD_some] at htracks
  have hfound : ∀ w ∈ live, ∃ t known, s.registry.handleToWindow.lookup w.handle = some t ∧
      (clientModel s.outbound.told).windows.lookup t.windowId = some known ∧
      Pictured w known := by
    intro w hw
    obtain ⟨t, st, ht, hst, hag⟩ :=
      htracks.agrees w.handle w (lastSeen_of_nodup (hdistinct live hsnap) hw)
    obtain ⟨known, hknown, hshows⟩ := hmirror.known t.windowId st hst
    exact ⟨t, known, ht, hknown, hshows.pictured hag (hshow live hsnap w hw)⟩
  refine ⟨?_, hfound⟩
  intro id
  constructor
  · intro hmem
    obtain ⟨known, hknown⟩ := Table.lookup_of_mem hmem
    cases hst : s.view.streams id with
    | none =>
        have hunknown := hmirror.unknown id hst
        rw [show s.view.told = s.outbound.told from rfl, hknown] at hunknown
        cases hunknown
    | some st =>
        obtain ⟨h, t, ht, hid⟩ := hc.window id st hst
        cases hseen : lastSeen live h with
        | none =>
            rw [htracks.unseen h hseen] at ht
            cases ht
        | some w =>
            obtain ⟨hw, rfl⟩ := lastSeen_some hseen
            exact ⟨w, hw, t, ht, hid⟩
  · intro h
    obtain ⟨w, hw, t, ht, rfl⟩ := h
    obtain ⟨t', known, ht', hknown, -⟩ := hfound w hw
    rw [ht] at ht'
    cases ht'
    exact Table.mem_of_lookup hknown

end Mirror

/-- A window that is retitled and maximized between two ticks. -/
def retitledScript : ScriptedSource :=
  { shots := [[notepad], [{ notepad with title := "Saved", maximized := true }]]
    frame := none }

/-- A window that is retitled and maximized in a second snapshot is mirrored. -/
theorem clientModel_mirrors_retitled :
    (∀ snap ∈ snapshots .stalled (Session.start retitledScript NoopEncoder.mk NoopSink.mk)
      [.tick, .tick], (snap.map SourceWindow.handle).Nodup) ∧
    ∃ t known, Pictured { notepad with title := "Saved", maximized := true } known ∧
      (clientModel (sessionAfter .stalled retitledScript NoopEncoder.mk NoopSink.mk
        [.tick, .tick]).outbound.told).windows.lookup t = some known := by
  have hsnaps : snapshots .stalled (Session.start retitledScript NoopEncoder.mk NoopSink.mk)
      [.tick, .tick] = retitledScript.shots := by decide +kernel
  have hdistinct : ∀ snap ∈ snapshots .stalled
      (Session.start retitledScript NoopEncoder.mk NoopSink.mk) [.tick, .tick],
      (snap.map SourceWindow.handle).Nodup := by
    rw [hsnaps]
    decide
  have hmirror := clientModel_mirrors_snapshot
    (running_sessionAfter .stalled retitledScript NoopEncoder.mk NoopSink.mk [.tick, .tick]
      (by decide +kernel))
    hdistinct (by rw [hsnaps]; decide) (by rw [hsnaps]; rfl)
  obtain ⟨t, known, -, hknown, hpictured⟩ := hmirror.2 _ (List.mem_singleton_self _)
  exact ⟨hdistinct, t.windowId, known, hpictured, hknown⟩

end Oxrdp
