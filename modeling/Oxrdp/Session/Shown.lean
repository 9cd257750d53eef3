import Oxrdp.Session.Decorations
import Oxrdp.Session.Screen
import Oxrdp.Transport.Carried

/-!
# The guest's windows on the client's desktop

The agent sends what changed between two snapshots, over a stream; the client reads it, keeps a
model and commands its display.  Put together, and once the stream is drained and the client has
taken its own commands, each window of the guest's last snapshot is a native window that looks
like it, and there are no others (`desktop_mirrors_guest`).
-/

namespace Oxrdp

open Winit

/-- A native window looks like a window of the guest. -/
structure Depicts (w : SourceWindow) (looks : WindowAttributes) : Prop where
  title_eq : looks.title = w.title
  minimized_eq : looks.minimized = w.minimized
  maximized_eq : looks.maximized = w.maximized
  decorations_eq : looks.decorations = w.hasFrame
  resizable_eq : looks.resizable = w.resizable
  alwaysOnTop_eq : looks.alwaysOnTop = w.topmost

/-- What the model has of a window, if the driver remembers it and its flags. -/
theorem Depicts.of_known {st : WindowStream} {known : RemoteWindow} {w : SourceWindow}
    (hshows : Shows st known) (hdecorates : Decorates st known) (hag : Agrees w st)
    (hshow : ¬(w.minimized = true ∧ w.maximized = true)) :
    Depicts w (.of (windowSpec known)) := by
  have hpictured := hshows.pictured hag hshow
  have hsame : known.decoration = w.decoration := by
    rw [hdecorates, hag.flags_eq, flagsDecoration_windowFlags]
  simp only [RemoteWindow.decoration, SourceWindow.decoration, Prod.mk.injEq] at hsame
  exact ⟨hpictured.title_eq, hpictured.minimized_eq, hpictured.maximized_eq, hsame.2.1, hsame.1,
    hsame.2.2⟩

/-! ## The stream -/

/-- The writer task has queued all that the driver gave it. -/
def Wire.Serves (w : Wire) (o : Outbound) : Prop :=
  w.ops.filterMap WriterOp.queued = o.accepted.map fun k => (k.channel, ⟨k.msgType, k.body⟩)

/-- A drained stream has told what the driver accepted to tell. -/
theorem Wire.Serves.read {w : Wire} {o : Outbound} (h : w.Serves o)
    (hlimit : ∀ k ∈ o.accepted, k.body.length ≤ maxMessageLen k.msgType) (hdrained : w.Drained) :
    w.read = o.told.map Sent.message := by
  have hbodies : ∀ m ∈ w.ops.filterMap WriterOp.queued,
      m.2.payload.length ≤ maxMessageLen m.2.msgType := by
    rw [show w.ops.filterMap WriterOp.queued = _ from h]
    intro m hm
    obtain ⟨k, hk, rfl⟩ := List.mem_map.mp hm
    exact hlimit k hk
  obtain ⟨-, hall⟩ := carries_run w.ending w.ops hbodies w.events
  have hdelivered : w.reader.delivered = (w.ops.filterMap WriterOp.queued).map Prod.snd :=
    hall hdrained.1 hdrained.2
  rw [Wire.read, hdelivered, show w.ops.filterMap WriterOp.queued = _ from h, List.map_map,
    List.filterMap_map, Outbound.told, List.map_filterMap]
  congr 1
  funext k
  change RawMessage.known ⟨k.msgType, k.body⟩ = k.carried.map Sent.message
  unfold RawMessage.known OutboundChunk.carried
  rcases Message.decodeKnown k.msgType k.body with e | _ | m
  · rfl
  · rfl
  · rfl

/-! ## The agent -/

section Agent

variable {W E I : Type}

/-- The model of a client that was told everything, window by window. -/
structure Modelled (s : Session W E I) (live : List SourceWindow) (model : WindowModel) :
    Prop where
  /-- A window of the guest is in the model under its id. -/
  shown : ∀ w ∈ live, ∃ t known, s.registry.handleToWindow.lookup w.handle = some t ∧
    model.windows.lookup t.windowId = some known ∧ Depicts w (.of (windowSpec known))
  /-- There are no others. -/
  known : ∀ id, (model.windows.lookup id).isSome = true →
    ∃ w ∈ live, ∃ t, s.registry.handleToWindow.lookup w.handle = some t ∧ t.windowId = id

/-- What the user sees of the guest. -/
structure OnDesktop {D : Type} (s : Session W E I) (live : List SourceWindow) (c : Client D) :
    Prop where
  /-- A window of the guest is a native window that looks like it, if it could be created. -/
  shown : ∀ w ∈ live, ∃ t, s.registry.handleToWindow.lookup w.handle = some t ∧
    (t.windowId ∈ c.refused ∨ ∃ native, c.desktop.native.lookup t.windowId = some native ∧
      Depicts w native.toWindowAttributes)
  /-- A native window is a window of the guest. -/
  live_of_native : ∀ id, (c.desktop.native.lookup id).isSome = true →
    ∃ w ∈ live, ∃ t, s.registry.handleToWindow.lookup w.handle = some t ∧ t.windowId = id

/-- A desktop that renders what the guest was modelled as. -/
theorem Modelled.onDesktop {D : Type} {s : Session W E I} {live : List SourceWindow}
    {model : WindowModel} {c : Client D} (h : Modelled s live model)
    (hrenders : Renders c.refused (sceneOf model) c.desktop) : OnDesktop s live c where
  shown w hw := by
    obtain ⟨t, known, ht, hknown, hdepicts⟩ := h.shown w hw
    refine ⟨t, ht, ?_⟩
    rcases hrenders.window t.windowId with hsame | ⟨-, hrefused⟩
    · right
      simp only [Desktop.scene, sceneOf, hknown, Option.map_some] at hsame
      obtain ⟨native, hnative, hview⟩ := Option.map_eq_some_iff.mp hsame
      refine ⟨native, hnative, ?_⟩
      rw [show native.toWindowAttributes = _ from congrArg View.attributes hview]
      exact hdepicts
    · exact .inl hrefused
  live_of_native id hid := by
    have hview : (c.desktop.scene.windows id).isSome = true := by
      rw [Desktop.scene, Option.isSome_map]
      exact hid
    apply h.known id
    cases hknown : model.windows.lookup id with
    | some known => rfl
    | none =>
        have hnone : (sceneOf model).windows id = none := by
          simp only [sceneOf, hknown, Option.map_none]
        rw [hrenders.absent hnone] at hview
        cases hview

variable [WindowSource W] [FrameEncoder E] [InputSink I]

theorem Running.modelled {cfg : Config} {source : W} {encoder : E} {sink : I}
    {events : List Event} {s : Session W E I} {live : List SourceWindow}
    (hrun : Running cfg source encoder sink events s)
    (hdistinct : ∀ snap ∈ snapshots cfg (Session.start source encoder sink) events,
      (snap.map SourceWindow.handle).Nodup)
    (hshow : ∀ snap ∈ snapshots cfg (Session.start source encoder sink) events,
      ∀ w ∈ snap, ¬(w.minimized = true ∧ w.maximized = true))
    (hsteady : steadily sameDecoration []
      (snapshots cfg (Session.start source encoder sink) events) = true)
    (hlast : (snapshots cfg (Session.start source encoder sink) events).getLast? = some live) :
    Modelled s live (clientModel s.outbound.told) := by
  have hkeep := hrun.mirroredBy (R := fun st known => Shows st known ∧ Decorates st known)
    (fun st st' known h heq => ⟨h.1.of_announced heq, h.2.of_announced heq⟩)
    (fun snap hsnap w hw t => ⟨Shows.opened (hshow snap hsnap w hw), rfl⟩)
    (fun before snap after seen w rest w₀ st known hsnaps hsnap hseen hag h => by
      rw [hsnaps] at hsteady
      have hone := steadily_apply hsteady
      rw [hsnap] at hone
      exact ⟨h.1.updated w, h.2.updated hag (steady_apply hone hseen)⟩)
  obtain ⟨hc, htracks, hmirror⟩ := hkeep
  have hsnap : live ∈ snapshots cfg (Session.start source encoder sink) events :=
    List.mem_of_getLast? hlast
  rw [lastSnapshot, hlast, Option.getD_some] at htracks
  refine ⟨fun w hw => ?_, fun id hid => ?_⟩
  · obtain ⟨t, st, ht, hst, hag⟩ :=
      htracks.agrees w.handle w (lastSeen_of_nodup (hdistinct live hsnap) hw)
    obtain ⟨known, hknown, hshows, hdecorates⟩ := hmirror.known t.windowId st hst
    exact ⟨t, known, ht, hknown, .of_known hshows hdecorates hag (hshow live hsnap w hw)⟩
  · cases hst : s.view.streams id with
    | none =>
        rw [show s.outbound.told = s.view.told from rfl, hmirror.unknown id hst] at hid
        cases hid
    | some st =>
        obtain ⟨h, t, ht, hwindow⟩ := hc.window id st hst
        cases hseen : lastSeen live h with
        | none =>
            rw [htracks.unseen h hseen] at ht
            cases ht
        | some w =>
            obtain ⟨hw, rfl⟩ := lastSeen_some hseen
            exact ⟨w, hw, t, ht, hwindow⟩

end Agent

/-- The agent of a window that is retitled and maximized. -/
def retitledAgent : Session ScriptedSource NoopEncoder NoopSink :=
  sessionAfter .stalled retitledScript NoopEncoder.mk NoopSink.mk [.tick, .tick]

/-- Its writer flushes everything at once, and the client reads it byte by byte. -/
def retitledWire : Wire where
  ops :=
    retitledAgent.outbound.accepted.map (fun k => .queueRaw k.msgType k.channel k.body) ++
      [.flush [.wrote 1000] (some (.ok ()))]
  ending := .eof
  events := List.replicate 1000 (.poll (some 1))

/-- The client reads everything before the display takes the first command. -/
def retitledClient : List (ClientStep Unit) :=
  retitledWire.read.map reading ++ List.replicate 4 (.command (obliging 1))

end Oxrdp
