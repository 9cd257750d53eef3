import Oxrdp.Session.Mirror

/-!
# The decoration of a window

Whether a window can be resized, has a frame and stays on top travels in the
flags of `WindowOpened` and of every `WindowState`.  The client takes them from
the first and not from the second (`on_state` looks at the show state only), so
what it shows is what the window was announced with.  That is right for as long
as a window's decoration does not change while it is open.
-/

namespace Oxrdp

/-- The decoration of a window as the platform has it. -/
def SourceWindow.decoration (w : SourceWindow) : Bool × Bool × Bool :=
  (w.resizable, w.hasFrame, w.topmost)

/-- The decoration of a window as the client shows it. -/
def RemoteWindow.decoration (known : RemoteWindow) : Bool × Bool × Bool :=
  (known.resizable, known.hasFrame, known.topmost)

/-- The decoration in a flags word. -/
def flagsDecoration (flags : UInt32) : Bool × Bool × Bool :=
  (flags &&& WindowFlag.resizable != 0, flags &&& WindowFlag.hasFrame != 0,
    flags &&& WindowFlag.topmost != 0)

/-- Whether two sightings of a window show the same decoration. -/
def sameDecoration (w₀ w : SourceWindow) : Bool := w₀.decoration == w.decoration

theorem flagsDecoration_windowFlags (w : SourceWindow) :
    flagsDecoration (windowFlags w) = w.decoration := by
  unfold windowFlags SourceWindow.decoration
  cases w.resizable <;> cases w.hasFrame <;> cases w.topmost <;> cases w.minimized <;>
    cases w.maximized <;> rfl

/-- No message of an update reaches the decoration. -/
theorem RemoteWindow.updated_decoration (known : RemoteWindow) (st : WindowStream)
    (w : SourceWindow) : (known.updated st w).decoration = known.decoration := by
  have htitle : (known.retitled st w).decoration = known.decoration := by
    unfold RemoteWindow.retitled
    split <;> rfl
  have hstate : ((known.retitled st w).restated st w).decoration =
      (known.retitled st w).decoration := by
    unfold RemoteWindow.restated
    split <;> rfl
  have hmoved : (known.updated st w).decoration =
      ((known.retitled st w).restated st w).decoration := by
    unfold RemoteWindow.updated RemoteWindow.moved
    split <;> rfl
  rw [hmoved, hstate, htitle]

/-- The client shows the decoration the driver remembers. -/
def Decorates (st : WindowStream) (known : RemoteWindow) : Prop :=
  known.decoration = flagsDecoration st.flags

theorem Decorates.of_announced {st st' : WindowStream} {known : RemoteWindow}
    (h : Decorates st known) (heq : st'.announced = st.announced) : Decorates st' known := by
  have hflags : st'.flags = st.flags := congrArg Announced.flags heq
  rw [Decorates, hflags]
  exact h

/-- An update that changes no decoration leaves the client with the right one. -/
theorem Decorates.updated {st : WindowStream} {known : RemoteWindow} {w₀ w : SourceWindow}
    (h : Decorates st known) (hag : Agrees w₀ st) (hsame : sameDecoration w₀ w = true) :
    Decorates (updatedStream st w) (known.updated st w) := by
  have hflags : (updatedStream st w).flags = windowFlags w := rfl
  calc (known.updated st w).decoration
      = known.decoration := known.updated_decoration st w
    _ = flagsDecoration st.flags := h
    _ = w₀.decoration := by rw [hag.flags_eq, flagsDecoration_windowFlags]
    _ = w.decoration := eq_of_beq hsame
    _ = flagsDecoration (updatedStream st w).flags := by
        rw [hflags, flagsDecoration_windowFlags]

/-- In a steady snapshot a window has one decoration, however often it is listed. -/
theorem steady_decoration {before live : List SourceWindow}
    (h : steady sameDecoration before live = true) {w w' : SourceWindow} (hw : w ∈ live)
    (hseen : lastSeen live w.handle = some w') : w'.decoration = w.decoration := by
  obtain ⟨seen, rest, rfl⟩ := List.append_of_mem hw
  -- the induction is on what is listed after `w`, from the back
  have hgen : ∀ rest after, steady sameDecoration before (seen ++ w :: rest ++ after) = true →
      ∀ w', lastSeen (seen ++ w :: rest) w.handle = some w' → w'.decoration = w.decoration := by
    intro rest
    induction rest using List.reverseRecOn with
    | nil =>
        intro after _ w' hw'
        rw [lastSeen_snoc, if_pos rfl] at hw'
        cases hw'
        rfl
    | append_singleton rest x ih =>
        intro after hsteady w' hw'
        have hsplit : seen ++ w :: (rest ++ [x]) = seen ++ w :: rest ++ [x] := by simp
        rw [hsplit] at hsteady hw'
        rw [lastSeen_snoc] at hw'
        rw [List.append_assoc] at hsteady
        split at hw'
        · rename_i hx
          cases hw'
          cases hbefore : lastSeen (seen ++ w :: rest) w.handle with
          | none =>
              have hmem := lastSeen_eq_none.mp hbefore
              exact absurd (by simp) hmem
          | some w₀ =>
              have hseen : lastSeen (before ++ (seen ++ w :: rest)) x.handle = some w₀ := by
                rw [lastSeen_append, hx, hbefore, Option.some_or]
              have hsame := steady_apply hsteady hseen
              rw [← ih ([x] ++ after) hsteady w₀ hbefore]
              exact (eq_of_beq hsame).symm
        · exact ih ([x] ++ after) hsteady w' hw'
  exact hgen rest [] (by rw [List.append_nil]; exact h) w' hseen

section Decorations

variable {W E I : Type} [WindowSource W] [FrameEncoder E] [InputSink I]

/-- Every window of a snapshot has its decoration in the client's model. -/
def DecorationMirrored (s : Session W E I) (live : List SourceWindow) : Prop :=
  ∀ w ∈ live, ∃ t known, s.registry.handleToWindow.lookup w.handle = some t ∧
    (clientModel s.outbound.told).windows.lookup t.windowId = some known ∧
    known.resizable = w.resizable ∧ known.hasFrame = w.hasFrame ∧ known.topmost = w.topmost

/-- **Decoration mirror.**  A run in which no window changes its decoration while it
is open leaves the client with the decorations of the last snapshot. -/
theorem decoration_mirrored_of_steady {cfg : Config} {source : W} {encoder : E} {sink : I}
    {events : List Event} {s : Session W E I} {live : List SourceWindow}
    (hrun : Running cfg source encoder sink events s)
    (hsteady : steadily sameDecoration []
      (snapshots cfg (Session.start source encoder sink) events) = true)
    (hlast : (snapshots cfg (Session.start source encoder sink) events).getLast? = some live) :
    DecorationMirrored s live := by
  have hkeep := hrun.mirroredBy (R := Decorates) (fun st st' known h heq => h.of_announced heq)
    (fun snap _ w _ t => by
      have hopened : (RemoteWindow.fromOpened (openedMessage t w)).decoration =
          flagsDecoration (openedStream cfg t w).flags := rfl
      exact hopened)
    (fun before snap after seen w rest w₀ st known hsnaps hsnap hseen hag h => by
      rw [hsnaps] at hsteady
      have hone := steadily_apply hsteady
      rw [hsnap] at hone
      exact h.updated hag (steady_apply hone hseen))
  obtain ⟨-, htracks, hmirror⟩ := hkeep
  rw [lastSnapshot, hlast, Option.getD_some] at htracks
  intro w hw
  cases hseen : lastSeen live w.handle with
  | none => exact absurd (List.mem_map_of_mem hw) (lastSeen_eq_none.mp hseen)
  | some w' =>
      obtain ⟨t, st, ht, hst, hag⟩ := htracks.agrees w.handle w' hseen
      obtain ⟨known, hknown, hdec⟩ := hmirror.known t.windowId st hst
      have hone : steady sameDecoration
          ((snapshots cfg (Session.start source encoder sink) events).dropLast.getLast?.getD [])
          live = true := by
        rw [← List.dropLast_append_getLast? live hlast] at hsteady
        exact steadily_apply hsteady
      have heq : known.decoration = w.decoration := by
        rw [hdec, hag.flags_eq, flagsDecoration_windowFlags, steady_decoration hone hw hseen]
      simp only [RemoteWindow.decoration, SourceWindow.decoration, Prod.mk.injEq] at heq
      exact ⟨t, known, ht, hknown, heq⟩

end Decorations

theorem decoration_mirrored_retitled :
    steadily sameDecoration [] retitledScript.shots = true ∧
    DecorationMirrored
      (sessionAfter .stalled retitledScript NoopEncoder.mk NoopSink.mk [.tick, .tick])
      [{ notepad with title := "Saved", maximized := true }] := by
  have hsnaps : snapshots .stalled (Session.start retitledScript NoopEncoder.mk NoopSink.mk)
      [.tick, .tick] = retitledScript.shots := by decide +kernel
  have hsteady : steadily sameDecoration [] retitledScript.shots = true := by decide
  refine ⟨hsteady, ?_⟩
  apply decoration_mirrored_of_steady
    (running_sessionAfter .stalled retitledScript NoopEncoder.mk NoopSink.mk [.tick, .tick]
      (by decide +kernel))
  · rw [hsnaps]
    exact hsteady
  · rw [hsnaps]
    rfl

/-- A window that is put on top between two ticks. -/
def topmostScript : ScriptedSource :=
  { shots := [[notepad], [{ notepad with topmost := true }]]
    frame := none }

/-- The client goes on showing a window as it was announced: a `WindowState` with
new flags does not reach them. -/
theorem topmost_not_mirrored :
    Running .stalled topmostScript NoopEncoder.mk NoopSink.mk [.tick, .tick]
      (sessionAfter .stalled topmostScript NoopEncoder.mk NoopSink.mk [.tick, .tick]) ∧
    (snapshots .stalled (Session.start topmostScript NoopEncoder.mk NoopSink.mk)
      [.tick, .tick]).getLast? = some [{ notepad with topmost := true }] ∧
    ¬DecorationMirrored
      (sessionAfter .stalled topmostScript NoopEncoder.mk NoopSink.mk [.tick, .tick])
      [{ notepad with topmost := true }] := by
  refine ⟨running_sessionAfter _ _ _ _ _ (by decide +kernel), by decide +kernel, ?_⟩
  intro hmirrored
  obtain ⟨t, known, ht, hknown, -, -, htopmost⟩ := hmirrored _ (List.mem_singleton_self _)
  have hid : (sessionAfter .stalled topmostScript NoopEncoder.mk NoopSink.mk
      [.tick, .tick]).registry.handleToWindow.lookup notepad.handle =
        some { windowId := 1, videoChannel := videoBase } := by decide +kernel
  have hstale : ((clientModel (sessionAfter .stalled topmostScript NoopEncoder.mk NoopSink.mk
      [.tick, .tick]).outbound.told).windows.lookup 1).map RemoteWindow.topmost =
        some false := by decide +kernel
  rw [hid] at ht
  cases ht
  rw [hknown, Option.map_some, htopmost] at hstale
  cases hstale

end Oxrdp
