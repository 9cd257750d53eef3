import Oxrdp.Display.Scene

/-!
# One display, three backends

The session loop is modelled with a `Backend` that knows nothing but which windows there are.
It is an abstraction of the desktop (`Abstracts.command`): whatever the window system answers,
there are answers to the abstract backend by which it reports the same.

The tests of the client use a headless backend.  Where nothing is refused, it has the windows of
the desktop and is shown the same frames (`headless_agrees`).

The window system knows windows by ids of its own.  As long as it gives no two live windows the
same, what it reports is reported of the window that has the id (`events_routed`).
-/

namespace Oxrdp

namespace Winit

/-- The events that the session is told. -/
def sends (effects : List Effect) : List DisplayEvent :=
  effects.filterMap fun
    | .send e => some e
    | _ => none

/-- Effects one after the other send one after the other. -/
theorem sends_append (effects effects' : List Effect) :
    sends (effects ++ effects') = sends effects ++ sends effects' := List.filterMap_append

/-- Events that are sent are all that is sent. -/
theorem sends_map_send (events : List DisplayEvent) : sends (events.map .send) = events := by
  rw [sends, List.filterMap_map]
  exact List.filterMap_some

/-! ## The session's view of the desktop -/

/-- The message of an error. -/
def failure {α : Type} : Except String α → Option String
  | .error message => some message
  | .ok _ => none

/-- A result that is changed fails as before. -/
theorem failure_map {α β : Type} (f : α → β) (r : Except String α) :
    failure (r.map f) = failure r := by
  cases r with
  | error message => rfl
  | ok a => rfl

/-- What the session's backend is answered where the desktop is answered `a`. -/
def answersOf (d : Desktop) (isX11 : Bool) (a : CommandAnswers) (c : DisplayCommand) :
    DisplayAnswers where
  fails := failure (applyDisplayCommand (WinitBackendAdapter.mk d isX11 a []) c).1
  present := a.present

/-- Both know the same windows. -/
def Abstracts (b : Backend) (d : Desktop) : Prop :=
  ∀ id, (b.windows.lookup id).isSome = (d.backend.windows.lookup id).isSome

/-- The effects of a command that only asks things of the window system. -/
theorem sends_moveWindow (b : WinitBackend) (isX11 : Bool) (now : Nat)
    (resized : Except String Unit) (remote : WindowSpec) :
    sends (b.moveWindow isX11 now resized remote).2.1 = [] ∧
      (b.windows.lookup remote.windowId = none →
        (b.moveWindow isX11 now resized remote).1 = .ok ()) := by
  unfold WinitBackend.moveWindow
  dsimp only
  split
  · exact ⟨rfl, fun _ => rfl⟩
  · cases b.windows.lookup remote.windowId with
    | none => exact ⟨rfl, fun _ => rfl⟩
    | some entry =>
        cases resized with
        | error e => exact ⟨rfl, nofun⟩
        | ok u =>
            cases isX11 with
            | true => exact ⟨rfl, nofun⟩
            | false => exact ⟨rfl, nofun⟩

/-- A new window is reported by nothing, and a known one is no failure. -/
theorem sends_createWindow (b : WinitBackend) (answers : CreateAnswers) (remote : WindowSpec) :
    sends (b.createWindow answers remote).2.1 = [] ∧
      ((b.windows.lookup remote.windowId).isSome = true →
        (b.createWindow answers remote).1 = .ok ()) := by
  unfold WinitBackend.createWindow
  cases b.windows.lookup remote.windowId with
  | some entry => exact ⟨rfl, fun _ => rfl⟩
  | none =>
      rcases answers.created with e | ⟨winitId, width, height⟩
      · exact ⟨rfl, nofun⟩
      · rcases answers.attached with e | _
        · exact ⟨rfl, nofun⟩
        · exact ⟨rfl, nofun⟩

/-- A window that is destroyed is not reported. -/
theorem sends_destroyWindow (b : WinitBackend) (windowId : UInt32) :
    sends (b.destroyWindow windowId).1 = [] := by
  unfold WinitBackend.destroyWindow
  split
  · rfl
  · rfl

/-- An owner is set in the window system, not in the backend. -/
theorem applyTransientFor_backend (d : Desktop) (set : Bool) (id : UInt32) :
    (d.applyTransientFor set id).backend = d.backend ∧
      (d.applyTransientFor set id).input = d.input := by
  unfold Desktop.applyTransientFor
  split
  · exact ⟨rfl, rfl⟩
  · split
    · exact ⟨rfl, rfl⟩
    · split
      · split
        · exact ⟨(d.ask_backend id _).1, (d.ask_backend id _).2.1⟩
        · exact ⟨rfl, rfl⟩
      · exact ⟨rfl, rfl⟩

/-- What a command changes besides the windows. -/
theorem createWindow_backend (b : WinitBackendAdapter) (remote : WindowSpec) :
    (b.createWindow remote).1 = (b.inner.backend.createWindow b.answers.create remote).1 ∧
      (b.createWindow remote).2.effects =
        b.effects ++ (b.inner.backend.createWindow b.answers.create remote).2.1 ∧
      (b.createWindow remote).2.inner.backend =
        (b.inner.backend.createWindow b.answers.create remote).2.2 ∧
      (b.createWindow remote).2.inner.input = b.inner.input := by
  unfold WinitBackendAdapter.createWindow WinitBackendAdapter.withBackend
  dsimp only
  split
  · exact ⟨rfl, rfl, applyTransientFor_backend ..⟩
  · exact ⟨rfl, rfl, rfl, rfl⟩

/-- An error is reported after everything else. -/
theorem sends_userEvent (d : Desktop) (isX11 : Bool) (c : DisplayCommand) (a : CommandAnswers) :
    sends (d.userEvent isX11 c a).1 =
      sends (applyDisplayCommand (WinitBackendAdapter.mk d isX11 a []) c).2.effects ++
        (answersOf d isX11 a c).fails.toList.map .backendError := by
  unfold Desktop.userEvent answersOf
  dsimp only
  split
  next h =>
    rw [h]
    exact (List.append_nil _).symm
  next message h =>
    rw [h, sends_append]
    rfl

/-- A command that cannot fail and concerns no native window. -/
theorem Abstracts.quiet {b : Backend} {d d' : Desktop} (h : Abstracts b d)
    (hbackend : d'.backend = d.backend) : Abstracts b d' := by
  intro id
  rw [hbackend]
  exact h id

/-- An icon changes a window at most. -/
theorem changeIcon_quiet (d : Desktop) (isX11 : Bool) (a : CommandAnswers) (spec : WindowSpec) :
    ∃ inner : Desktop, inner.backend = d.backend ∧ inner.input = d.input ∧
      applyDisplayCommand (WinitBackendAdapter.mk d isX11 a []) (.changeIcon spec) =
        (.ok (), ⟨inner, isX11, a, []⟩) := by
  change ∃ inner : Desktop, _ ∧ _ ∧ WinitBackendAdapter.changeIcon ⟨d, isX11, a, []⟩ spec = _
  unfold WinitBackendAdapter.changeIcon
  split
  · exact ⟨d, rfl, rfl, rfl⟩
  · split
    · exact ⟨d, rfl, rfl, rfl⟩
    · split
      · exact ⟨d, rfl, rfl, rfl⟩
      · split
        · refine ⟨_, ?_, ?_, rfl⟩
          · exact (d.ask_backend _ _).1
          · exact (d.ask_backend _ _).2.1
        · exact ⟨d, rfl, rfl, rfl⟩

/-- A cursor changes the windows and the cache at most. -/
theorem cursorShape_quiet (d : Desktop) (isX11 : Bool) (a : CommandAnswers) (m : CursorShape) :
    ∃ inner : Desktop, inner.backend = d.backend ∧ inner.input = d.input ∧
      applyDisplayCommand (WinitBackendAdapter.mk d isX11 a []) (.cursorShape m) =
        (.ok (), ⟨inner, isX11, a, []⟩) := by
  change ∃ inner : Desktop, _ ∧ _ ∧ WinitBackendAdapter.cursorShape ⟨d, isX11, a, []⟩ m = _
  unfold WinitBackendAdapter.cursorShape
  split
  · refine ⟨_, ?_, ?_, rfl⟩
    · rfl
    · rfl
  · split
    · exact ⟨d, rfl, rfl, rfl⟩
    · split
      · exact ⟨d, rfl, rfl, rfl⟩
      · split
        · refine ⟨_, ?_, ?_, rfl⟩
          · rfl
          · rfl
        · exact ⟨d, rfl, rfl, rfl⟩

/-- What a command comes to in the backend. -/
theorem userEvent_backend (d : Desktop) (isX11 : Bool) (c : DisplayCommand)
    (a : CommandAnswers) :
    (d.userEvent isX11 c a).2.backend =
      match c with
      | .createWindow spec => (d.backend.createWindow a.create spec).2.2
      | .destroyWindow id => (d.backend.destroyWindow id).2
      | .moveWindow spec => (d.backend.moveWindow isX11 a.now a.resized spec).2.2
      | _ => d.backend := by
  rw [Desktop.userEvent_desktop]
  cases c with
  | createWindow spec => exact (createWindow_backend _ spec).2.2.1
  | retitleWindow spec => exact (d.ask_backend _ _).1
  | changeState spec => exact (d.ask_backend _ _).1
  | changeIcon spec =>
      obtain ⟨inner, hbackend, -, heq⟩ := changeIcon_quiet d isX11 a spec
      rw [heq]
      exact hbackend
  | frame m =>
      change (WinitBackendAdapter.frame ⟨d, isX11, a, []⟩ m).2.inner.backend = _
      unfold WinitBackendAdapter.frame
      split
      · rfl
      · rfl
      · rfl
      · rfl
  | cursorShape m =>
      obtain ⟨inner, hbackend, -, heq⟩ := cursorShape_quiet d isX11 a m
      rw [heq]
      exact hbackend
  | _ => rfl

/-- A command is no input. -/
theorem userEvent_input (d : Desktop) (isX11 : Bool) (c : DisplayCommand)
    (a : CommandAnswers) : (d.userEvent isX11 c a).2.input = d.input := by
  rw [Desktop.userEvent_desktop]
  cases c with
  | createWindow spec => exact (createWindow_backend _ spec).2.2.2
  | retitleWindow spec => exact (d.ask_backend _ _).2.1
  | changeState spec => exact (d.ask_backend _ _).2.1
  | changeIcon spec =>
      obtain ⟨inner, -, hinput, heq⟩ := changeIcon_quiet d isX11 a spec
      rw [heq]
      exact hinput
  | frame m =>
      change (WinitBackendAdapter.frame ⟨d, isX11, a, []⟩ m).2.inner.input = _
      unfold WinitBackendAdapter.frame
      split
      · rfl
      · rfl
      · rfl
      · rfl
  | cursorShape m =>
      obtain ⟨inner, -, hinput, heq⟩ := cursorShape_quiet d isX11 a m
      rw [heq]
      exact hinput
  | _ => rfl

/-- The abstract backend reports what the desktop reports of a command, and both go on knowing
the same windows. -/
def Agree (b : Backend) (d : Desktop) (isX11 : Bool) (c : DisplayCommand) (a : CommandAnswers) :
    Prop :=
  (b.apply (answersOf d isX11 a c) c).1 =
      sends (applyDisplayCommand (WinitBackendAdapter.mk d isX11 a []) c).2.effects ++
        (answersOf d isX11 a c).fails.toList.map .backendError ∧
    Abstracts (b.apply (answersOf d isX11 a c) c).2
      (applyDisplayCommand (WinitBackendAdapter.mk d isX11 a []) c).2.inner

namespace Abstracts

variable {b : Backend} {d : Desktop}

/-- A command that does not fail and reports nothing. -/
theorem silent (h : Abstracts b d) {isX11 : Bool} {c : DisplayCommand} {a : CommandAnswers}
    (hb : ∀ answers, b.apply answers c = ([], b))
    (hquiet : ∃ inner : Desktop, inner.backend = d.backend ∧ inner.input = d.input ∧
      applyDisplayCommand (WinitBackendAdapter.mk d isX11 a []) c =
        (.ok (), ⟨inner, isX11, a, []⟩)) : Agree b d isX11 c a := by
  obtain ⟨inner, hbackend, -, heq⟩ := hquiet
  have hfails : (answersOf d isX11 a c).fails = none := by
    change failure _ = _
    rw [heq]
    rfl
  unfold Agree
  rw [hb, hfails, heq]
  exact ⟨rfl, h.quiet hbackend⟩

/-- What the abstract backend reports of a window to be created, where there is one already or
creating it fails. -/
theorem uncreated (h : Abstracts b d) {a : CommandAnswers} {spec : WindowSpec}
    (hwhy : (d.backend.windows.lookup spec.windowId).isSome = true ∨
      a.refuse = true ∧ (d.backend.createWindow a.create spec).1 ≠ .ok ())
    {answers : DisplayAnswers}
    (hfails : answers.fails = failure (d.backend.createWindow a.create spec).1) :
    b.apply answers (.createWindow spec) = (answers.fails.toList.map .backendError, b) := by
  obtain ⟨-, hfine⟩ := sends_createWindow d.backend a.create spec
  have hid := h spec.windowId
  rw [hfails]
  dsimp only [Backend.apply]
  rcases hwhy with hold | ⟨-, hfailed⟩
  · rw [hold] at hid
    obtain ⟨spec', hspec'⟩ := Option.isSome_iff_exists.mp hid
    rw [hspec', hfails, hfine hold]
    rfl
  · cases hcreated : (d.backend.createWindow a.create spec).1 with
    | ok u => exact absurd hcreated hfailed
    | error message =>
        rw [hfails, hcreated]
        cases hspec' : b.windows.lookup spec.windowId with
        | none => rfl
        | some spec' =>
            -- a window that is there is not created, which does not fail
            rw [hspec'] at hid
            rw [hfine hid.symm] at hcreated
            cases hcreated

/-- A window is created by both, known to both, or refused to both. -/
theorem createWindow (h : Abstracts b d) (isX11 : Bool) (spec : WindowSpec)
    (a : CommandAnswers) : Agree b d isX11 (.createWindow spec) a := by
  obtain ⟨hresult, heffects, hbackend, -⟩ :=
    createWindow_backend (WinitBackendAdapter.mk d isX11 a []) spec
  have hsends : sends (applyDisplayCommand (WinitBackendAdapter.mk d isX11 a [])
      (.createWindow spec)).2.effects = [] := by
    rw [← (sends_createWindow d.backend a.create spec).1]
    exact congrArg sends heffects
  have hfails : (answersOf d isX11 a (.createWindow spec)).fails =
      failure (d.backend.createWindow a.create spec).1 := by
    rw [← hresult]
    rfl
  have hknown : ∀ id, ((applyDisplayCommand (WinitBackendAdapter.mk d isX11 a [])
      (.createWindow spec)).2.inner.backend.windows.lookup id).isSome =
        ((d.backend.createWindow a.create spec).2.2.windows.lookup id).isSome := by
    intro id
    exact congrArg (fun b : WinitBackend => (b.windows.lookup id).isSome) hbackend
  unfold Agree
  rw [hsends, List.nil_append]
  rcases createWindow_known d.backend a spec with ⟨hold, -, hok, hnew⟩ | ⟨hwhy, hsame⟩
  · have hid := h spec.windowId
    rw [hold, Option.isSome_none, Option.isSome_eq_false_iff, Option.isNone_iff_eq_none] at hid
    rw [hok] at hfails
    dsimp only [Backend.apply]
    rw [hid, hfails]
    refine ⟨rfl, fun id => ?_⟩
    rw [hknown, hnew, ← h id]
    change ((b.windows.insert spec.windowId spec).lookup id).isSome = _
    rw [Table.lookup_insert_ite]
    split
    · rfl
    · rfl
  · rw [h.uncreated hwhy hfails]
    rw [hsame] at hknown
    exact ⟨rfl, fun id => (h id).trans (hknown id).symm⟩

/-- A window is destroyed in both. -/
theorem destroyWindow (h : Abstracts b d) (isX11 : Bool) (id : UInt32) (a : CommandAnswers) :
    Agree b d isX11 (.destroyWindow id) a := by
  refine ⟨?_, fun k => ?_⟩
  · change [] = sends ([] ++ (d.backend.destroyWindow id).1) ++ []
    rw [List.nil_append, sends_destroyWindow]
    rfl
  · change ((b.windows.erase id).lookup k).isSome =
      ((d.backend.destroyWindow id).2.windows.lookup k).isSome
    rw [Table.lookup_erase_ite, lookup_destroyWindow]
    split
    · rfl
    · exact h k

/-- A window is moved in both; whether that fails is up to the window system. -/
theorem moveWindow (h : Abstracts b d) (isX11 : Bool) (spec : WindowSpec) (a : CommandAnswers) :
    Agree b d isX11 (.moveWindow spec) a := by
  obtain ⟨hsilent, hfine⟩ := sends_moveWindow d.backend isX11 a.now a.resized spec
  have hsends : sends (applyDisplayCommand (WinitBackendAdapter.mk d isX11 a [])
      (.moveWindow spec)).2.effects = [] := by
    change sends ([] ++ (d.backend.moveWindow isX11 a.now a.resized spec).2.1) = []
    rw [List.nil_append, hsilent]
  have habstracts : Abstracts b (applyDisplayCommand (WinitBackendAdapter.mk d isX11 a [])
      (.moveWindow spec)).2.inner :=
    fun k => (h k).trans (moveWindow_known d.backend isX11 a.now a.resized spec k).symm
  have hfails : (answersOf d isX11 a (.moveWindow spec)).fails =
      failure (d.backend.moveWindow isX11 a.now a.resized spec).1 := rfl
  have hid := h spec.windowId
  unfold Agree
  rw [hsends, List.nil_append, hfails]
  dsimp only [Backend.apply]
  cases hmoved : (d.backend.moveWindow isX11 a.now a.resized spec).1 with
  | ok u =>
      rw [hfails, hmoved]
      split
      next h => cases h
      next => exact ⟨rfl, habstracts⟩
  | error message =>
      rw [hfails, hmoved]
      cases hspec : b.windows.lookup spec.windowId with
      | some spec' => exact ⟨rfl, habstracts⟩
      | none =>
          -- nothing is asked of a window that is not there
          rw [hspec, Option.isSome_none] at hid
          have hok := hfine (Option.not_isSome_iff_eq_none.mp (by rw [← hid]; decide))
          rw [hmoved] at hok
          cases hok

/-- A frame, by what the two backends make of it. -/
theorem presents (h : Abstracts b d) (b' : Backend) {isX11 : Bool} {m : FrameData}
    {a : CommandAnswers} {r : Except String (Option PresentTimes)} {effects : List Effect}
    (heq : WinitBackendAdapter.frame ⟨d, isX11, a, []⟩ m = (r, ⟨d, isX11, a, effects⟩))
    (hwindows : b'.windows = b.windows)
    (hb : b.frame (answersOf d isX11 a (.frame m)) m =
      (sends effects ++ (failure r).toList.map .backendError, b')) :
    Agree b d isX11 (.frame m) a := by
  have happly : applyDisplayCommand (WinitBackendAdapter.mk d isX11 a []) (.frame m) =
      (r.map fun _ => (), ⟨d, isX11, a, effects⟩) := by
    change ((WinitBackendAdapter.frame _ m).1.map _, (WinitBackendAdapter.frame _ m).2) = _
    rw [heq]
  have hfails : (answersOf d isX11 a (.frame m)).fails = failure r := by
    change failure _ = _
    rw [happly, failure_map]
  change (b.frame _ m).1 = _ ∧ Abstracts (b.frame _ m).2 _
  rw [happly, hfails, hb]
  refine ⟨rfl, fun id => ?_⟩
  dsimp only
  rw [hwindows]
  exact h id

/-- A frame that the presenter refuses: it is dropped, or the error is reported. -/
theorem refuses (h : Abstracts b d) {isX11 : Bool} {m : FrameData} {a : CommandAnswers}
    {entry : WinitWindow} (hd : d.backend.windows.lookup m.windowId = some entry)
    {e : PresentError} (hp : a.present = .error e) : Agree b d isX11 (.frame m) a := by
  have hid := h m.windowId
  rw [hd] at hid
  obtain ⟨spec, hspec⟩ := Option.isSome_iff_exists.mp hid
  by_cases hdropped : ∃ id expected actual, e = .droppedFrame id expected actual
  · obtain ⟨id, expected, actual, rfl⟩ := hdropped
    have heq : WinitBackendAdapter.frame ⟨d, isX11, a, []⟩ m = (.ok none, ⟨d, isX11, a, []⟩) := by
      simp only [WinitBackendAdapter.frame, hd, hp]
    refine h.presents { b with discarded := b.discarded ++ [m] } heq rfl ?_
    simp only [Backend.frame, hspec, answersOf, hp]
    rfl
  · have heq : WinitBackendAdapter.frame ⟨d, isX11, a, []⟩ m =
        (.error e.text, ⟨d, isX11, a, []⟩) := by
      simp only [WinitBackendAdapter.frame, hd, hp]
      cases e with
      | droppedFrame id expected actual => exact absurd ⟨id, expected, actual, rfl⟩ hdropped
      | _ => rfl
    refine h.presents { b with discarded := b.discarded ++ [m] } heq rfl ?_
    simp only [Backend.frame, hspec, answersOf, hp]
    cases e with
    | droppedFrame id expected actual => exact absurd ⟨id, expected, actual, rfl⟩ hdropped
    | _ => rfl

/-- A frame of an unknown window is discarded by both; the presenter answers for the others. -/
theorem frame (h : Abstracts b d) (isX11 : Bool) (m : FrameData) (a : CommandAnswers) :
    Agree b d isX11 (.frame m) a := by
  have hid := h m.windowId
  cases hd : d.backend.windows.lookup m.windowId with
  | none =>
      rw [hd, Option.isSome_none, Option.isSome_eq_false_iff, Option.isNone_iff_eq_none] at hid
      have heq : WinitBackendAdapter.frame ⟨d, isX11, a, []⟩ m = (.ok none, ⟨d, isX11, a, []⟩) := by
        simp only [WinitBackendAdapter.frame, hd]
      refine h.presents { b with discarded := b.discarded ++ [m] } heq rfl ?_
      simp only [Backend.frame, hid]
      rfl
  | some entry =>
      cases hp : a.present with
      | error e => exact h.refuses hd hp
      | ok times =>
          rw [hd] at hid
          obtain ⟨spec, hspec⟩ := Option.isSome_iff_exists.mp hid
          have heq : WinitBackendAdapter.frame ⟨d, isX11, a, []⟩ m =
              (.ok (some times), ⟨d, isX11, a, [] ++
                [.send (.presented m.windowId m.frameId times.decodedUs times.presentedUs)]⟩) := by
            simp only [WinitBackendAdapter.frame, hd, hp]
          refine h.presents b heq rfl ?_
          simp only [Backend.frame, hspec, answersOf, hp]
          rfl

/-- **The abstract backend.**  Whatever is answered to a command, the abstract backend reports
the same where it is answered accordingly, and goes on knowing the same windows. -/
theorem command (h : Abstracts b d) (isX11 : Bool) (c : DisplayCommand) (a : CommandAnswers) :
    (b.apply (answersOf d isX11 a c) c).1 = sends (d.userEvent isX11 c a).1 ∧
      Abstracts (b.apply (answersOf d isX11 a c) c).2 (d.userEvent isX11 c a).2 := by
  rw [sends_userEvent, Desktop.userEvent_desktop]
  cases c with
  | createWindow spec => exact h.createWindow isX11 spec a
  | destroyWindow id => exact h.destroyWindow isX11 id a
  | moveWindow spec => exact h.moveWindow isX11 spec a
  | retitleWindow spec => exact ⟨rfl, h.quiet (d.ask_backend _ _).1⟩
  | changeState spec => exact ⟨rfl, h.quiet (d.ask_backend _ _).1⟩
  | changeIcon spec => exact h.silent (fun _ => rfl) (changeIcon_quiet d isX11 a spec)
  | restack stack => exact ⟨rfl, h⟩
  | frame m => exact h.frame isX11 m a
  | cursorShape m => exact h.silent (fun _ => rfl) (cursorShape_quiet d isX11 a m)
  | cursorPosition id x y => exact ⟨rfl, h⟩
  | cursorVisibility visible => exact ⟨rfl, h⟩
  | agentError code message => exact ⟨rfl, h⟩
  | shutdown => exact ⟨rfl, h⟩

/-- Whatever the user does, the windows stay. -/
theorem user (h : Abstracts b d) (isX11 : Bool) {e : DesktopEvent}
    (huser : ∀ c a, e ≠ .command c a) : Abstracts b (d.step isX11 e).2 := by
  cases e with
  | command c a => exact absurd rfl (huser c a)
  | input id e =>
      unfold Desktop.step
      dsimp only
      split
      · exact h
      · exact h
  | native now id e =>
      intro k
      exact (h k).trans (handleWindowEvent_known d.backend isX11 now id e k).symm

end Abstracts

end Winit

/-! ## The headless backend -/

/-- The frame that a call shows. -/
def HeadlessCall.shows : HeadlessCall → Option (UInt32 × UInt64)
  | .frame windowId frameId _ => some (windowId, frameId)
  | _ => none

/-- The headless backend has the windows of the abstract one, and was shown the frames that
the session was told of. -/
structure HeadlessBackend.Agrees (headless : HeadlessBackend) (b : Backend)
    (events : List DisplayEvent) : Prop where
  windows : ∀ id, id ∈ headless.windows ↔ (b.windows.lookup id).isSome = true
  frames : headless.calls.filterMap HeadlessCall.shows = events.filterMap DisplayEvent.presents

namespace HeadlessBackend

namespace Agrees

variable {headless : HeadlessBackend} {b : Backend} {events : List DisplayEvent}

/-- A call that shows nothing, where nothing is presented. -/
theorem idle (h : Agrees headless b events) {call : HeadlessCall} {more : List DisplayEvent}
    (hcall : call.shows = none) (hnone : more.filterMap DisplayEvent.presents = []) :
    (headless.calls ++ [call]).filterMap HeadlessCall.shows =
      (events ++ more).filterMap DisplayEvent.presents := by
  rw [List.filterMap_append, List.filterMap_append, h.frames, hnone,
    List.filterMap_cons_none hcall, List.filterMap_nil]

/-- A window that is created is known to both afterwards. -/
theorem createWindow (h : Agrees headless b events) {answers : DisplayAnswers}
    (hfails : answers.fails = none) (spec : WindowSpec) :
    Agrees (applyDisplayCommand headless (.createWindow spec)).2
      (b.apply answers (.createWindow spec)).2
      (events ++ (b.apply answers (.createWindow spec)).1) := by
  dsimp only [Backend.apply]
  rw [hfails]
  cases hold : b.windows.lookup spec.windowId with
  | some spec' =>
      refine ⟨fun id => ?_, h.idle rfl rfl⟩
      change id ∈ headless.windows.insert spec.windowId ↔ _
      rw [List.mem_insert_iff, h.windows id, or_iff_right_iff_imp]
      rintro rfl
      rw [hold]
      rfl
  | none =>
      refine ⟨fun id => ?_, h.idle rfl rfl⟩
      change id ∈ headless.windows.insert spec.windowId ↔
        ((b.windows.insert spec.windowId spec).lookup id).isSome = true
      rw [List.mem_insert_iff, h.windows id, Table.lookup_insert_ite]
      split
      next hid => exact iff_of_true (.inl hid) rfl
      next hid => exact or_iff_right hid

/-- A window that is destroyed is known to neither. -/
theorem destroyWindow (h : Agrees headless b events) (answers : DisplayAnswers)
    (target : UInt32) :
    Agrees (applyDisplayCommand headless (.destroyWindow target)).2
      (b.apply answers (.destroyWindow target)).2
      (events ++ (b.apply answers (.destroyWindow target)).1) := by
  refine ⟨fun id => ?_, h.idle rfl rfl⟩
  change id ∈ headless.windows.filter (· != target) ↔
    ((b.windows.erase target).lookup id).isSome = true
  rw [List.mem_filter, h.windows id, Table.lookup_erase_ite]
  split
  next hid => simp [hid]
  next hid => simp [hid]

/-- A frame of a known window is shown by both, and one of no window by neither. -/
theorem frame (h : Agrees headless b events) {answers : DisplayAnswers} {times : PresentTimes}
    (hpresent : answers.present = .ok times) (m : FrameData) :
    Agrees (headless.frame m).2 (b.frame answers m).2 (events ++ (b.frame answers m).1) := by
  dsimp only [Backend.frame]
  rw [hpresent]
  have hid := h.windows m.windowId
  rw [HeadlessBackend.frame]
  cases hold : b.windows.lookup m.windowId with
  | some spec =>
      rw [hold] at hid
      rw [if_pos (hid.mpr rfl)]
      refine ⟨h.windows, ?_⟩
      change (headless.calls ++ [_]).filterMap _ = _
      rw [List.filterMap_append, List.filterMap_append, h.frames]
      rfl
  | none =>
      rw [hold] at hid
      have habsent : m.windowId ∉ headless.windows := by
        intro hmem
        cases hid.mp hmem
      rw [if_neg habsent]
      refine ⟨h.windows, ?_⟩
      change _ = (events ++ []).filterMap _
      rw [List.append_nil]
      exact h.frames

/-- Where nothing is refused, a command does the same to both. -/
theorem command (h : Agrees headless b events) {answers : DisplayAnswers} {times : PresentTimes}
    (hfails : answers.fails = none) (hpresent : answers.present = .ok times)
    (c : DisplayCommand) :
    Agrees (applyDisplayCommand headless c).2 (b.apply answers c).2
      (events ++ (b.apply answers c).1) := by
  cases c with
  | createWindow spec => exact h.createWindow hfails spec
  | destroyWindow target => exact h.destroyWindow answers target
  | moveWindow spec =>
      dsimp only [Backend.apply]
      rw [hfails]
      cases b.windows.lookup spec.windowId with
      | some spec' => exact ⟨h.windows, h.idle rfl rfl⟩
      | none => exact ⟨h.windows, h.idle rfl rfl⟩
  | frame m => exact h.frame hpresent m
  | agentError code message => exact ⟨h.windows, h.idle rfl rfl⟩
  | _ => exact ⟨h.windows, h.idle rfl rfl⟩

end Agrees

end HeadlessBackend

namespace Winit

/-- A command with answers that refuse nothing. -/
structure Granted where
  command : DisplayCommand
  answers : CommandAnswers
  created : answers.refuse = false
  resized : answers.resized = .ok ()
  times : PresentTimes
  presented : answers.present = .ok times

/-- What is granted does not fail. -/
theorem Granted.succeeds (g : Granted) (d : Desktop) (isX11 : Bool) :
    (answersOf d isX11 g.answers g.command).fails = none := by
  obtain ⟨c, a, hcreated, hresized, times, hpresented⟩ := g
  change failure (applyDisplayCommand (WinitBackendAdapter.mk d isX11 a []) c).1 = none
  cases c with
  | createWindow spec =>
      change failure (WinitBackendAdapter.createWindow _ spec).1 = none
      rw [(createWindow_backend _ spec).1]
      change failure (d.backend.createWindow a.create spec).1 = none
      rcases createWindow_known d.backend a spec with ⟨-, -, hok, -⟩ | ⟨hold | ⟨hrefuse, -⟩, -⟩
      · rw [hok]
        rfl
      · rw [(sends_createWindow d.backend a.create spec).2 hold]
        rfl
      · rw [hcreated] at hrefuse
        cases hrefuse
  | moveWindow spec =>
      change failure (d.backend.moveWindow isX11 a.now a.resized spec).1 = none
      rw [hresized]
      unfold WinitBackend.moveWindow
      dsimp only
      split
      · rfl
      · split
        · rfl
        · rfl
  | changeIcon spec =>
      obtain ⟨inner, -, -, heq⟩ := changeIcon_quiet d isX11 a spec
      rw [heq]
      rfl
  | frame m =>
      change failure ((WinitBackendAdapter.frame _ m).1.map fun _ => ()) = none
      rw [failure_map, WinitBackendAdapter.frame, hpresented]
      split
      · rfl
      · rfl
      next h => cases h
      next h => cases h
  | cursorShape m =>
      obtain ⟨inner, -, -, heq⟩ := cursorShape_quiet d isX11 a m
      rw [heq]
      rfl
  | _ => rfl

/-- The headless backend after some commands. -/
def headlessRun (commands : List DisplayCommand) : HeadlessBackend :=
  commands.foldl (fun b c => (applyDisplayCommand b c).2) .new

/-- What the session was told, and the desktop after some commands. -/
def grantedRun (isX11 : Bool) (granted : List Granted) : List DisplayEvent × Desktop :=
  granted.foldl (fun r g =>
    let (effects, d) := r.2.userEvent isX11 g.command g.answers
    (r.1 ++ sends effects, d)) ([], .new)

/-- The window that an event is about, if it is about one. -/
def windowOf : DisplayEvent → Option UInt32
  | .pointer id .. => some id
  | .focused id _ => some id
  | .closeRequested id => some id
  | .resizeRequested id .. => some id
  | .moveRequested id .. => some id
  | .minimized id _ => some id
  | .presented id .. => some id
  | _ => none

/-- The ids of the window system lead to the windows that have them. -/
def Routed (b : WinitBackend) : Prop :=
  ∀ id windowId, b.byWinitId.lookup id = some windowId ↔
    ∃ entry, b.windows.lookup windowId = some entry ∧ entry.winitId = id

namespace Routed

variable {b : WinitBackend}

/-- A window is known by the same id. -/
theorem replace (h : Routed b) {target : UInt32} {entry entry' : WinitWindow}
    (hold : b.windows.lookup target = some entry) (hsame : entry'.winitId = entry.winitId)
    (echoes : GeometryEchoLedger) :
    Routed { b with windows := b.windows.insert target entry', geometryEchoes := echoes } := by
  intro id windowId
  dsimp only
  rw [h id windowId, Table.lookup_insert_ite]
  by_cases htarget : windowId = target
  · subst htarget
    rw [if_pos rfl, hold]
    constructor
    · rintro ⟨found, hfound, hid⟩
      cases hfound
      exact ⟨entry', rfl, hsame.trans hid⟩
    · rintro ⟨found, hfound, hid⟩
      cases hfound
      exact ⟨entry, rfl, hsame.symm.trans hid⟩
  · rw [if_neg htarget]

/-- A geometry that is noted changes no id. -/
theorem noteGeometry (h : Routed b) (now : Nat) (target : UInt32)
    (change : Geometry → Geometry) : Routed (b.noteGeometry now target change) := by
  unfold WinitBackend.noteGeometry
  cases hold : b.windows.lookup target with
  | none => exact h
  | some entry =>
      apply h.replace hold
      rfl

/-- What winit reports changes no route. -/
theorem handleWindowEvent (h : Routed b) (isX11 : Bool) (now id : Nat) (e : NativeEvent) :
    Routed (b.handleWindowEvent isX11 now id e).2 := by
  unfold WinitBackend.handleWindowEvent
  cases e with
  | resized width height =>
      cases b.byWinitId.lookup id with
      | none => exact h
      | some windowId => exact h.noteGeometry now windowId _
  | moved x y =>
      cases b.byWinitId.lookup id with
      | none => exact h
      | some windowId =>
          cases isX11 with
          | false => exact h
          | true => exact h.noteGeometry now windowId _

/-- A move changes no route. -/
theorem moveWindow (h : Routed b) (isX11 : Bool) (now : Nat) (resized : Except String Unit)
    (remote : WindowSpec) : Routed (b.moveWindow isX11 now resized remote).2.2 := by
  unfold WinitBackend.moveWindow
  dsimp only
  split
  · exact h
  · cases hold : b.windows.lookup remote.windowId with
    | none => exact h
    | some entry =>
        cases resized with
        | error e => exact h
        | ok u =>
            apply h.replace hold
            rfl

/-- Destroying a window frees its id. -/
theorem destroyWindow (h : Routed b) (target : UInt32) : Routed (b.destroyWindow target).2 := by
  unfold WinitBackend.destroyWindow
  cases hold : b.windows.lookup target with
  | none => exact h
  | some entry =>
      intro id windowId
      dsimp only
      rw [Table.lookup_erase_ite, Table.lookup_erase_ite]
      have hown := (h entry.winitId target).mpr ⟨entry, hold, rfl⟩
      by_cases hid : id = entry.winitId
      · rw [if_pos hid]
        refine iff_of_false nofun ?_
        rintro ⟨entry', hentry, hsame⟩
        split at hentry
        · cases hentry
        next hother =>
          -- two windows with one id
          have hfound := (h entry.winitId windowId).mpr ⟨entry', hentry, hsame.trans hid⟩
          rw [hown] at hfound
          exact hother (Option.some.inj hfound).symm
      · rw [if_neg hid, h id windowId]
        by_cases htarget : windowId = target
        · rw [if_pos htarget]
          refine iff_of_false ?_ nofun
          rintro ⟨entry', hentry, hsame⟩
          rw [htarget, hold] at hentry
          cases hentry
          exact hid hsame.symm
        · rw [if_neg htarget]

/-- A new id that no live window has. -/
theorem createWindow (h : Routed b) {answers : CreateAnswers} (remote : WindowSpec)
    (hfresh : ∀ winitId size, answers.created = .ok (winitId, size) →
      b.byWinitId.lookup winitId = none) :
    Routed (b.createWindow answers remote).2.2 := by
  unfold WinitBackend.createWindow
  cases hold : b.windows.lookup remote.windowId with
  | some entry => exact h
  | none =>
      rcases hcreated : answers.created with e | ⟨winitId, width, height⟩
      · exact h
      · rcases answers.attached with e | _
        · exact h
        · have hnew := hfresh winitId _ hcreated
          intro id windowId
          dsimp only
          rw [Table.lookup_insert_ite, Table.lookup_insert_ite]
          by_cases hid : id = winitId
          · subst hid
            rw [if_pos rfl]
            by_cases htarget : windowId = remote.windowId
            · rw [if_pos htarget, htarget]
              exact iff_of_true rfl ⟨_, rfl, rfl⟩
            · rw [if_neg htarget, ← h id windowId, hnew]
              exact iff_of_false (fun hsame => htarget (Option.some.inj hsame).symm) nofun
          · rw [if_neg hid, h id windowId]
            by_cases htarget : windowId = remote.windowId
            · rw [if_pos htarget, htarget, hold]
              refine iff_of_false nofun ?_
              rintro ⟨entry, hentry, hsame⟩
              cases hentry
              exact hid hsame.symm
            · rw [if_neg htarget]

end Routed

/-- The window system gives a new window an id that no live one has. -/
def DesktopEvent.Fresh (d : Desktop) : DesktopEvent → Prop
  | .command (.createWindow _) a =>
      ∀ winitId size, a.create.created = .ok (winitId, size) →
        d.backend.byWinitId.lookup winitId = none
  | _ => True

/-- It does so at every command of a run. -/
def FreshIds (isX11 : Bool) : Desktop → List DesktopEvent → Prop
  | _, [] => True
  | d, e :: rest => e.Fresh d ∧ FreshIds isX11 (d.step isX11 e).2 rest

/-- **A step** keeps the ids apart, as long as new ones are fresh. -/
theorem Routed.step {d : Desktop} (h : Routed d.backend) (isX11 : Bool) {e : DesktopEvent}
    (hfresh : e.Fresh d) : Routed (d.step isX11 e).2.backend := by
  cases e with
  | command c a =>
      change Routed (d.userEvent isX11 c a).2.backend
      rw [userEvent_backend]
      cases c with
      | createWindow spec => exact h.createWindow spec hfresh
      | destroyWindow target => exact h.destroyWindow target
      | moveWindow spec => exact h.moveWindow isX11 a.now a.resized spec
      | _ => exact h
  | input id e =>
      unfold Desktop.step
      dsimp only
      split
      · exact h
      · exact h
  | native now id e => exact h.handleWindowEvent isX11 now id e

/-- The id that the window system gives with an event. -/
def DesktopEvent.winitId : DesktopEvent → Option Nat
  | .command .. => none
  | .input id _ => some id
  | .native _ id _ => some id

/-- Input is reported of the window that it was made in. -/
theorem windowOf_handle (s : InputState) (windowId : UInt32) (e : InputEvent) :
    ∀ event ∈ (s.handle windowId e).1, ∀ w ∈ windowOf event, w = windowId := by
  intro event hevent w hw
  cases e with
  | keyboardInput physicalKey pressed =>
      cases physicalKey with
      | unidentified native => cases hevent
      | code code =>
          rw [InputState.handle] at hevent
          split at hevent
          · cases List.mem_singleton.mp hevent
            cases hw
          · cases hevent
  | focused focused =>
      rcases List.mem_cons.mp hevent with rfl | hevent
      · exact (Option.some.inj hw).symm
      · cases List.mem_singleton.mp hevent
        cases hw
  | modifiersChanged state =>
      cases List.mem_singleton.mp hevent
      cases hw
  | imeCommit text =>
      cases List.mem_singleton.mp hevent
      cases hw
  | _ =>
      cases List.mem_singleton.mp hevent
      exact (Option.some.inj hw).symm

/-- What is reported of an event is about the window that the id leads to. -/
theorem reported_of_lookup {d : Desktop} {isX11 : Bool} {e : DesktopEvent} {id : Nat}
    (hid : e.winitId = some id) {event : DisplayEvent}
    (hevent : event ∈ sends (d.step isX11 e).1) :
    ∃ windowId, d.backend.byWinitId.lookup id = some windowId ∧
      ∀ w ∈ windowOf event, w = windowId := by
  cases e with
  | command c a => cases hid
  | input id' e =>
      cases hid
      unfold Desktop.step at hevent
      dsimp only at hevent
      split at hevent
      · cases hevent
      next windowId hlookup =>
        rw [sends_map_send] at hevent
        exact ⟨windowId, hlookup, windowOf_handle d.input windowId e event hevent⟩
  | native now id' e =>
      cases hid
      change event ∈ sends (d.backend.handleWindowEvent isX11 now id e).1 at hevent
      cases hlookup : d.backend.byWinitId.lookup id with
      | none =>
          cases e with
          | resized width height =>
              simp only [WinitBackend.handleWindowEvent, hlookup] at hevent
              cases hevent
          | moved x y =>
              simp only [WinitBackend.handleWindowEvent, hlookup] at hevent
              cases hevent
      | some windowId =>
          refine ⟨windowId, rfl, fun w hw => ?_⟩
          cases e with
          | resized width height =>
              simp only [WinitBackend.handleWindowEvent, hlookup] at hevent
              cases List.mem_singleton.mp hevent
              exact (Option.some.inj hw).symm
          | moved x y =>
              simp only [WinitBackend.handleWindowEvent, hlookup] at hevent
              cases isX11 with
              | false => cases hevent
              | true =>
                  cases List.mem_singleton.mp hevent
                  exact (Option.some.inj hw).symm

/-- Every run with fresh ids is routed. -/
theorem FreshIds.routed {isX11 : Bool} {turns : List DesktopEvent} {d : Desktop}
    (h : FreshIds isX11 d turns) (hd : Routed d.backend) :
    Routed (turns.foldl (fun d e => (d.step isX11 e).2) d).backend := by
  induction turns generalizing d with
  | nil => exact hd
  | cons e rest ih => exact ih h.2 (hd.step isX11 h.1)

/-- **Whose events they are.**  In every run in which no live window gets the id of another,
whatever is reported of a native event is reported of the one live window that has its id. -/
theorem events_routed {isX11 : Bool} {turns : List DesktopEvent} (h : FreshIds isX11 .new turns)
    {e : DesktopEvent} {id : Nat} (hid : e.winitId = some id) {event : DisplayEvent}
    (hevent : event ∈ sends ((Desktop.run isX11 turns).step isX11 e).1) :
    ∃ windowId entry, (Desktop.run isX11 turns).backend.windows.lookup windowId = some entry ∧
      entry.winitId = id ∧ (∀ w ∈ windowOf event, w = windowId) ∧
      ∀ other entry', (Desktop.run isX11 turns).backend.windows.lookup other = some entry' →
        entry'.winitId = id → other = windowId := by
  have hstart : Routed Desktop.new.backend := by
    intro id windowId
    refine iff_of_false nofun ?_
    rintro ⟨entry, hentry, -⟩
    cases hentry
  have hrouted : Routed (Desktop.run isX11 turns).backend := h.routed hstart
  obtain ⟨windowId, hlookup, hwindow⟩ := reported_of_lookup hid hevent
  obtain ⟨entry, hentry, hsame⟩ := (hrouted id windowId).mp hlookup
  refine ⟨windowId, entry, hentry, hsame, hwindow, fun other entry' hother hid' => ?_⟩
  have hfound := (hrouted id other).mpr ⟨entry', hother, hid'⟩
  rw [hlookup] at hfound
  exact (Option.some.inj hfound).symm

/-- A window system that grants everything, and gives new windows this id. -/
def obliging (winitId : Nat) : CommandAnswers where
  now := 0
  create := ⟨.ok (winitId, 640, 480), .ok ()⟩
  xid := none
  transient := false
  resized := .ok ()
  image := true
  present := .ok ⟨0, 0⟩

/-- A plain window. -/
def plainSpec (windowId : UInt32) (title : String) : WindowSpec :=
  ⟨windowId, "notepad", title, 0, 0, 640, 480, 0, false, false, true, true, false, none⟩

/-- Two windows, of which the first is closed. -/
def closedFirst : List DesktopEvent :=
  [.command (.createWindow (plainSpec 7 "first")) (obliging 1),
   .command (.createWindow (plainSpec 8 "second")) (obliging 2),
   .command (.destroyWindow 7) (obliging 0)]

/-- The second window is still reported to, and the first is gone. -/
theorem events_routed_closedFirst :
    ∃ windowId entry,
      (Desktop.run true closedFirst).backend.windows.lookup windowId = some entry ∧
      entry.winitId = 2 ∧ windowId = 8 := by
  have hfresh : FreshIds true .new closedFirst := by
    refine ⟨?_, ?_, trivial, trivial⟩
    · rintro winitId size h
      rfl
    · rintro winitId size h
      cases h
      rfl
  have hevent : DisplayEvent.closeRequested 8 ∈
      sends ((Desktop.run true closedFirst).step true (.input 2 .closeRequested)).1 := by
    decide +kernel
  obtain ⟨windowId, entry, hentry, hid, hwindow, -⟩ := events_routed hfresh rfl hevent
  exact ⟨windowId, entry, hentry, hid, (hwindow 8 rfl).symm⟩

end Winit

end Oxrdp
