import Oxrdp.Client.Quiet
import Oxrdp.Display.Desktop

/-!
# What is to be seen

A `Scene` says of each window how it looks and of the cursor whether it is shown; it is what the
client's model of the guest's windows, the display commands and the native windows have in
common.  A command changes a scene (`Scene.perform`).  Each event of the session changes the
scene of the model by the commands that it gives the display (`Keyed.tell`), and each command
changes that of the desktop, unless the window system refuses a new window (`Kept.performed`).
So the desktop renders the scene that the commands lead to, without the windows that were
refused (`Renders`), whatever the user does and whichever frames are presented meanwhile.

Where a window is, its icon and the shape of the cursor are no part of a scene.
-/

namespace Oxrdp

namespace Winit

/-- How a window looks, whom it belongs to, and whether the cursor is shown over it. -/
structure View where
  attributes : WindowAttributes
  ownerId : UInt32
  cursorVisible : Bool
  deriving DecidableEq, Repr

def WindowAttributes.retitle (spec : WindowSpec) (looks : WindowAttributes) : WindowAttributes :=
  { looks with title := spec.title }

def WindowAttributes.changeState (spec : WindowSpec) (looks : WindowAttributes) :
    WindowAttributes :=
  { looks with
    minimized := spec.minimized
    maximized := spec.maximized
    alwaysOnTop := spec.topmost }

@[ext] structure Scene where
  windows : UInt32 → Option View
  cursorVisible : Bool

namespace Scene

def empty : Scene := ⟨fun _ => none, true⟩

/-- Change the looks of a window, if it is there. -/
def ask (s : Scene) (id : UInt32) (change : WindowAttributes → WindowAttributes) : Scene where
  windows k :=
    if k = id then (s.windows k).map fun v => { v with attributes := change v.attributes }
    else s.windows k
  cursorVisible := s.cursorVisible

/-- What a command is meant to change. -/
def perform (s : Scene) : DisplayCommand → Scene
  | .createWindow spec =>
      { s with
        windows := fun k =>
          if k = spec.windowId then some ⟨.of spec, spec.ownerId, s.cursorVisible⟩
          else s.windows k }
  | .destroyWindow id => { s with windows := fun k => if k = id then none else s.windows k }
  | .retitleWindow spec => s.ask spec.windowId (.retitle spec)
  | .changeState spec => s.ask spec.windowId (.changeState spec)
  | .cursorVisibility visible =>
      ⟨fun k => (s.windows k).map fun v => { v with cursorVisible := visible }, visible⟩
  | _ => s

/-- No window is created that is there. -/
def Admits (s : Scene) : DisplayCommand → Prop
  | .createWindow spec => s.windows spec.windowId = none
  | _ => True

end Scene

/-! ## The model -/

/-- The scene that the model describes. -/
def sceneOf (model : WindowModel) : Scene where
  windows k := (model.windows.lookup k).map fun w =>
    ⟨.of (windowSpec w), w.ownerId, model.cursorVisible⟩
  cursorVisible := model.cursorVisible

/-- A window is kept under its own id. -/
def Keyed (model : WindowModel) : Prop :=
  ∀ id w, model.windows.lookup id = some w → w.windowId = id

/-- What an event does to the scene: nothing, or what its one command is meant to. -/
structure Told (model : WindowModel) (result : List ModelChange × WindowModel) : Prop where
  keyed : Keyed result.2
  scene : sceneOf result.2 =
    (result.1.filterMap (displayCommandForChange result.2)).foldl Scene.perform (sceneOf model)
  admits : ∀ c ∈ result.1.filterMap (displayCommandForChange result.2), (sceneOf model).Admits c
  one : (result.1.filterMap (displayCommandForChange result.2)).length ≤ 1

variable {model : WindowModel}

/-- An event that changes nothing tells the display nothing. -/
theorem told_same (hk : Keyed model) : Told model ([], model) :=
  ⟨hk, rfl, nofun, Nat.zero_le 1⟩

/-- A change with its command. -/
theorem told_change {model' : WindowModel} {change : ModelChange} {c : DisplayCommand}
    (hk : Keyed model') (hc : displayCommandForChange model' change = some c)
    (hscene : sceneOf model' = (sceneOf model).perform c) (hadmits : (sceneOf model).Admits c) :
    Told model ([change], model') := by
  have hone : [change].filterMap (displayCommandForChange model') = [c] := by
    rw [List.filterMap_cons_some hc, List.filterMap_nil]
  refine ⟨hk, ?_, ?_, ?_⟩
  · rw [hone]
    exact hscene
  · rw [hone]
    intro c' hc'
    rw [List.mem_singleton.mp hc']
    exact hadmits
  · rw [hone]
    rfl

/-- A known window is changed, and the display told so. -/
theorem told_put (hk : Keyed model) {id : UInt32} {w w' : RemoteWindow} {change : ModelChange}
    {c : DisplayCommand} (hold : model.windows.lookup id = some w) (hid : w'.windowId = w.windowId)
    (howner : w'.ownerId = w.ownerId)
    (hc : displayCommandForChange (model.put id w') change = some c)
    (hscene : (sceneOf model).perform c = (sceneOf model).ask id fun _ => .of (windowSpec w'))
    (hadmits : (sceneOf model).Admits c) : Told model ([change], model.put id w') := by
  apply told_change (c := c) _ hc _ hadmits
  · intro k v hv
    rw [WindowModel.lookup_put] at hv
    split at hv
    next h =>
      cases hv
      rw [hid, hk id w hold, h]
    next => exact hk k v hv
  · rw [hscene]
    apply Scene.ext
    · funext k
      change ((model.put id w').windows.lookup k).map _ = if k = id then _ else _
      rw [WindowModel.lookup_put]
      split
      next h =>
        subst h
        simp only [sceneOf, hold, Option.map_some, howner]
        rfl
      next => rfl
    · rfl

/-- Asking a window to look as it does changes nothing. -/
theorem ask_same {id : UInt32} {w : RemoteWindow} (hold : model.windows.lookup id = some w)
    {a : WindowAttributes} (ha : a = .of (windowSpec w)) :
    sceneOf model = (sceneOf model).ask id fun _ => a := by
  apply Scene.ext
  · funext k
    simp only [Scene.ask, sceneOf]
    split
    next h => rw [h, hold, ha]; rfl
    next => rfl
  · rfl

/-- Only how the window looks now matters to what it is asked. -/
theorem ask_at {id id' : UInt32} {w : RemoteWindow} (hold : model.windows.lookup id = some w)
    (hid : id' = id) {change : WindowAttributes → WindowAttributes} {a : WindowAttributes}
    (ha : change (.of (windowSpec w)) = a) :
    (sceneOf model).ask id' change = (sceneOf model).ask id fun _ => a := by
  subst hid
  apply Scene.ext
  · funext k
    simp only [Scene.ask, sceneOf]
    split
    next h => rw [h, hold, ← ha]; rfl
    next => rfl
  · rfl

/-! What each event does to the scene. -/

/-- A window that is new comes into the scene as it was opened. -/
theorem Keyed.opened (hk : Keyed model) (m : WindowOpened) : Told model (model.onOpened m) := by
  unfold WindowModel.onOpened
  cases hold : model.windows.lookup m.windowId with
  | some w => exact told_same hk
  | none =>
      apply told_change (c := .createWindow (windowSpec (.fromOpened m)))
      · intro k v hv
        rcases Table.of_lookup_insert hv with ⟨rfl, rfl⟩ | ⟨-, hv⟩
        · rfl
        · exact hk k v hv
      · simp only [displayCommandForChange, AList.lookup_insert, Option.map_some]
      · apply Scene.ext
        · funext k
          simp only [sceneOf, Scene.perform, Table.lookup_insert_ite]
          change _ = if k = m.windowId then _ else _
          split
          · rfl
          · rfl
        · rfl
      · simp only [Scene.Admits, sceneOf]
        change (model.windows.lookup m.windowId).map _ = none
        rw [hold, Option.map_none]

/-- A known window goes out of the scene. -/
theorem Keyed.closed (hk : Keyed model) (id : UInt32) : Told model (model.onClosed id) := by
  unfold WindowModel.onClosed
  cases hold : model.windows.lookup id with
  | none => exact told_same hk
  | some w =>
      apply told_change (c := .destroyWindow id)
      · intro k v hv
        exact hk k v (Table.of_lookup_erase hv).2
      · rfl
      · apply Scene.ext
        · funext k
          simp only [sceneOf, Scene.perform, Table.lookup_erase_ite]
          split
          · rfl
          · rfl
        · rfl
      · trivial

/-- A window that moves looks the same. -/
theorem Keyed.geometry (hk : Keyed model) (m : WindowGeometry) :
    Told model (model.onGeometry m) := by
  unfold WindowModel.onGeometry
  cases hold : model.windows.lookup m.windowId with
  | none => exact told_same hk
  | some w =>
      dsimp only
      split
      · exact told_same hk
      · apply told_put hk hold
        · rfl
        · rfl
        · simp only [displayCommandForChange, WindowModel.lookup_put, if_true, Option.map_some]
          rfl
        · exact ask_same hold rfl
        · trivial

/-- A new title is asked for. -/
theorem Keyed.title (hk : Keyed model) (m : WindowTitle) : Told model (model.onTitle m) := by
  unfold WindowModel.onTitle
  cases hold : model.windows.lookup m.windowId with
  | none => exact told_same hk
  | some w =>
      dsimp only
      split
      · exact told_same hk
      · apply told_put hk hold
        · rfl
        · rfl
        · simp only [displayCommandForChange, WindowModel.lookup_put, if_true, Option.map_some]
          rfl
        · exact ask_at hold (hk _ _ hold) rfl
        · trivial

/-- A new show state is asked for. -/
theorem Keyed.state (hk : Keyed model) (m : WindowState) : Told model (model.onState m) := by
  unfold WindowModel.onState
  cases hold : model.windows.lookup m.windowId with
  | none => exact told_same hk
  | some w =>
      dsimp only
      split
      · exact told_same hk
      · apply told_put hk hold
        · rfl
        · rfl
        · simp only [displayCommandForChange, WindowModel.lookup_put, if_true, Option.map_some]
          rfl
        · exact ask_at hold (hk _ _ hold) rfl
        · trivial

/-- An icon is no part of the scene. -/
theorem Keyed.icon (hk : Keyed model) (m : WindowIcon) : Told model (model.onIcon m) := by
  unfold WindowModel.onIcon
  cases hold : model.windows.lookup m.windowId with
  | none => exact told_same hk
  | some w =>
      apply told_put hk hold
      · rfl
      · rfl
      · simp only [displayCommandForChange, WindowModel.lookup_put, if_true, Option.map_some]
        rfl
      · exact ask_same hold rfl
      · trivial

/-- The stack is no part of the scene. -/
theorem Keyed.zorder (hk : Keyed model) (id above : UInt32) :
    Told model (model.onZorder id above) := by
  unfold WindowModel.onZorder
  split
  next =>
    split
    next => exact told_same hk
    next =>
      split
      · exact told_same hk
      · exact told_change (c := .restack _) hk rfl rfl trivial
  next => exact told_same hk

/-- The cursor is shown or hidden over every window. -/
theorem Keyed.cursor (hk : Keyed model) (visible : Bool) :
    Told model ([.cursorVisibility visible], { model with cursorVisible := visible }) := by
  refine told_change (c := .cursorVisibility visible) hk rfl ?_ trivial
  apply Scene.ext
  · funext k
    simp only [sceneOf, Scene.perform, Option.map_map]
    rfl
  · rfl

/-- What is passed on to the display and changes nothing. -/
theorem Keyed.passed (hk : Keyed model) {change : ModelChange} {c : DisplayCommand}
    (hc : displayCommandForChange model change = some c)
    (hscene : (sceneOf model).perform c = sceneOf model) (hadmits : (sceneOf model).Admits c) :
    Told model ([change], model) :=
  told_change hk hc hscene.symm hadmits

/-- **What the display is told.**  Each event changes the scene of the model as its command is
meant to. -/
theorem Keyed.tell (hk : Keyed model) (e : ClientEvent) : Told model (model.apply e) := by
  cases e with
  | windowOpened m => exact hk.opened m
  | windowClosed m => exact hk.closed m.windowId
  | windowGeometry m => exact hk.geometry m
  | windowTitle m => exact hk.title m
  | windowState m => exact hk.state m
  | windowIcon m => exact hk.icon m
  | windowZOrder m => exact hk.zorder m.windowId m.aboveWindowId
  | frame f => exact ⟨hk, rfl, nofun, Nat.zero_le 1⟩
  | cursorShape m => exact hk.passed rfl rfl trivial
  | cursorPosition m => exact hk.passed rfl rfl trivial
  | cursorVisibility m => exact hk.cursor m.visible
  | error m => exact hk.passed rfl rfl trivial
  | closed m => exact hk.passed rfl rfl trivial

/-! ## The desktop -/

def NativeWindow.view (w : NativeWindow) : View :=
  ⟨w.toWindowAttributes, w.ownerId, w.cursorVisible⟩

/-- Was a new window refused, by the window system or by the presenter? -/
def CommandAnswers.refuse (a : CommandAnswers) : Bool :=
  match a.create.created, a.create.attached with
  | .ok _, .ok _ => false
  | _, _ => true

namespace Desktop

/-- The scene that the native windows show. -/
def scene (d : Desktop) : Scene where
  windows k := (d.native.lookup k).map NativeWindow.view
  cursorVisible := d.cursorVisible

/-- The backend knows its native windows. -/
def Kept (d : Desktop) : Prop :=
  ∀ id, (d.native.lookup id).isSome = (d.backend.windows.lookup id).isSome

variable {d : Desktop}

/-- What is asked of a window changes that window. -/
theorem lookup_ask (d : Desktop) (id k : UInt32) (change : NativeWindow → NativeWindow) :
    (d.ask id change).native.lookup k =
      if k = id then (d.native.lookup k).map change else d.native.lookup k := by
  unfold ask
  split
  next w hold =>
    rw [Table.lookup_insert_ite]
    split
    next h => rw [h, hold, Option.map_some]
    next => rfl
  next hold =>
    split
    next h => rw [h, hold, Option.map_none]
    next => rfl

/-- The window system is asked, not the backend. -/
theorem ask_backend (d : Desktop) (id : UInt32) (change : NativeWindow → NativeWindow) :
    (d.ask id change).backend = d.backend ∧ (d.ask id change).input = d.input ∧
      (d.ask id change).cursorVisible = d.cursorVisible := by
  unfold ask
  split
  · exact ⟨rfl, rfl, rfl⟩
  · exact ⟨rfl, rfl, rfl⟩

/-- Asking creates and destroys no window. -/
theorem Kept.ask (h : d.Kept) (id : UInt32) (change : NativeWindow → NativeWindow) :
    (d.ask id change).Kept := by
  intro k
  rw [lookup_ask, (ask_backend d id change).1, ← h k]
  split
  · exact Option.isSome_map
  · rfl

/-- Neither does asking all of them. -/
theorem Kept.askAll (h : d.Kept) (change : NativeWindow → NativeWindow) :
    (d.askAll change).Kept := by
  intro k
  rw [Desktop.askAll, Table.lookup_mapValues, Option.isSome_map]
  exact h k

/-- A window that is asked looks as asked. -/
theorem scene_ask (d : Desktop) (id : UInt32) {change : NativeWindow → NativeWindow}
    (looks : WindowAttributes → WindowAttributes)
    (h : ∀ w, (change w).view = { w.view with attributes := looks w.view.attributes }) :
    (d.ask id change).scene = d.scene.ask id looks := by
  apply Scene.ext
  · funext k
    simp only [scene, Scene.ask, lookup_ask]
    split
    · rw [Option.map_map, Option.map_map]
      exact congrArg (Option.map · _) (funext h)
    · rfl
  · exact (ask_backend d id change).2.2

/-- What is no part of a scene. -/
theorem scene_ask_same (d : Desktop) (id : UInt32) {change : NativeWindow → NativeWindow}
    (h : ∀ w, (change w).view = w.view) : (d.ask id change).scene = d.scene := by
  rw [scene_ask d id (fun a => a) h]
  apply Scene.ext
  · funext k
    simp only [Scene.ask]
    split
    · exact Option.map_id'
    · rfl
  · rfl

/-- If all are asked, all look so. -/
theorem scene_askAll (d : Desktop) {change : NativeWindow → NativeWindow} (looks : View → View)
    (h : ∀ w, (change w).view = looks w.view) :
    (d.askAll change).scene =
      { d.scene with windows := fun k => (d.scene.windows k).map looks } := by
  apply Scene.ext
  · funext k
    simp only [scene, askAll, Table.lookup_mapValues, Option.map_map]
    exact congrArg (Option.map · _) (funext h)
  · rfl

/-- An owner that is set for the window system is not seen. -/
theorem applyTransientFor_same (d : Desktop) (set : Bool) (id : UInt32) :
    (d.applyTransientFor set id).scene = d.scene ∧
      (d.Kept → (d.applyTransientFor set id).Kept) := by
  have hdone : ∀ owner : UInt32,
      (d.ask id fun w => { w with transientFor := some owner }).scene = d.scene ∧
        (d.Kept → (d.ask id fun w => { w with transientFor := some owner }).Kept) :=
    fun owner => ⟨scene_ask_same d id fun _ => rfl, fun h => h.ask id _⟩
  unfold applyTransientFor
  split
  · exact ⟨rfl, fun h => h⟩
  · split
    · exact ⟨rfl, fun h => h⟩
    · split
      · split
        · exact hdone _
        · exact ⟨rfl, fun h => h⟩
      · exact ⟨rfl, fun h => h⟩

end Desktop

/-! ## The windows of the backend -/

/-- A geometry that is noted is noted of a known window. -/
theorem noteGeometry_known (b : WinitBackend) (now : Nat) (windowId : UInt32)
    (change : Geometry → Geometry) (k : UInt32) :
    ((b.noteGeometry now windowId change).windows.lookup k).isSome =
      (b.windows.lookup k).isSome := by
  unfold WinitBackend.noteGeometry
  cases hold : b.windows.lookup windowId with
  | none => rfl
  | some entry =>
      dsimp only
      rw [Table.lookup_insert_ite]
      split
      next h => rw [h, hold]; rfl
      next => rfl

/-- What winit reports neither opens nor closes a window. -/
theorem handleWindowEvent_known (b : WinitBackend) (isX11 : Bool) (now id : Nat)
    (e : NativeEvent) (k : UInt32) :
    ((b.handleWindowEvent isX11 now id e).2.windows.lookup k).isSome =
      (b.windows.lookup k).isSome := by
  unfold WinitBackend.handleWindowEvent
  cases e with
  | resized width height =>
      cases b.byWinitId.lookup id with
      | none => rfl
      | some windowId => exact noteGeometry_known ..
  | moved x y =>
      cases b.byWinitId.lookup id with
      | none => rfl
      | some windowId =>
          cases isX11 with
          | false => rfl
          | true => exact noteGeometry_known ..

/-- A window that is moved was there and stays. -/
theorem moveWindow_known (b : WinitBackend) (isX11 : Bool) (now : Nat)
    (resized : Except String Unit) (remote : WindowSpec) (k : UInt32) :
    ((b.moveWindow isX11 now resized remote).2.2.windows.lookup k).isSome =
      (b.windows.lookup k).isSome := by
  unfold WinitBackend.moveWindow
  dsimp only
  split
  · rfl
  · cases hold : b.windows.lookup remote.windowId with
    | none => rfl
    | some entry =>
        cases resized with
        | error e => rfl
        | ok u =>
            dsimp only
            rw [Table.lookup_insert_ite]
            split
            next h => rw [h, hold]; rfl
            next => rfl

/-- After its destruction a window is not known. -/
theorem lookup_destroyWindow (b : WinitBackend) (windowId k : UInt32) :
    (b.destroyWindow windowId).2.windows.lookup k =
      if k = windowId then none else b.windows.lookup k := by
  unfold WinitBackend.destroyWindow
  cases hold : b.windows.lookup windowId with
  | none =>
      dsimp only
      split
      next h => rw [h, hold]
      next => rfl
  | some entry => exact Table.lookup_erase_ite ..

/-- A window is created if there is none yet and nothing is refused. -/
theorem createWindow_known (b : WinitBackend) (a : CommandAnswers) (remote : WindowSpec) :
    (b.windows.lookup remote.windowId = none ∧ a.refuse = false ∧
        (b.createWindow a.create remote).1 = .ok () ∧
        ∀ k, ((b.createWindow a.create remote).2.2.windows.lookup k).isSome =
          if k = remote.windowId then true else (b.windows.lookup k).isSome) ∨
      (((b.windows.lookup remote.windowId).isSome = true ∨
          a.refuse = true ∧ (b.createWindow a.create remote).1 ≠ .ok ()) ∧
        (b.createWindow a.create remote).2.2 = b) := by
  unfold WinitBackend.createWindow CommandAnswers.refuse
  cases hold : b.windows.lookup remote.windowId with
  | some entry => exact .inr ⟨.inl rfl, rfl⟩
  | none =>
      rcases a.create.created with e | ⟨winitId, width, height⟩
      · exact .inr ⟨.inr ⟨rfl, nofun⟩, rfl⟩
      · rcases a.create.attached with e | _
        · exact .inr ⟨.inr ⟨rfl, nofun⟩, rfl⟩
        · refine .inl ⟨rfl, rfl, rfl, fun k => ?_⟩
          dsimp only
          rw [Table.lookup_insert_ite]
          split
          · rfl
          · rfl

/-! ## What a command does -/

namespace Desktop

variable {d d' : Desktop}

/-- A command has done what it is meant to, or a new window was refused. -/
structure Performed (a : CommandAnswers) (c : DisplayCommand) (d d' : Desktop) : Prop where
  kept : d'.Kept
  scene : d'.scene = d.scene.perform c ∨
    ∃ spec, c = .createWindow spec ∧ d'.scene = d.scene ∧
      (a.refuse = true ∨ (d.scene.windows spec.windowId).isSome = true)

/-- An error of a command is reported; the desktop is what the command has left. -/
theorem userEvent_desktop (d : Desktop) (isX11 : Bool) (c : DisplayCommand)
    (a : CommandAnswers) :
    (d.userEvent isX11 c a).2 =
      (applyDisplayCommand (WinitBackendAdapter.mk d isX11 a []) c).2.inner := by
  unfold userEvent
  dsimp only
  split
  · rfl
  · rfl

/-! What each command does. -/

/-- A command that leaves the desktop. -/
theorem Kept.unmoved (h : d.Kept) {a : CommandAnswers} {c : DisplayCommand}
    (hscene : d.scene = d.scene.perform c) : Performed a c d d :=
  ⟨h, .inl hscene⟩

/-- A new window is created as it was asked for. -/
theorem Kept.created (h : d.Kept) (a : CommandAnswers) {spec : WindowSpec}
    (hknown : ∀ k, ((d.backend.createWindow a.create spec).2.2.windows.lookup k).isSome =
      if k = spec.windowId then true else (d.backend.windows.lookup k).isSome) :
    Performed a (.createWindow spec) d
      (({ d with
          backend := (d.backend.createWindow a.create spec).2.2
          native := d.native.insert spec.windowId (.of spec d.cursorVisible a.xid) } :
        Desktop).applyTransientFor a.transient spec.windowId) := by
  obtain ⟨hscene, hkept⟩ := applyTransientFor_same
    { d with
      backend := (d.backend.createWindow a.create spec).2.2
      native := d.native.insert spec.windowId (.of spec d.cursorVisible a.xid) }
    a.transient spec.windowId
  refine ⟨hkept fun k => ?_, .inl (hscene.trans ?_)⟩
  · rw [hknown, Table.lookup_insert_ite]
    split
    · rfl
    · exact h k
  · apply Scene.ext
    · funext k
      simp only [scene, Scene.perform, Table.lookup_insert_ite]
      split
      · rfl
      · rfl
    · rfl

/-- A window that is there already, or is refused, leaves the desktop as it was. -/
theorem Kept.uncreated (h : d.Kept) {a : CommandAnswers} {spec : WindowSpec}
    (hwhy : (d.backend.windows.lookup spec.windowId).isSome = true ∨ a.refuse = true)
    (hbackend : (d.backend.createWindow a.create spec).2.2 = d.backend) :
    Performed a (.createWindow spec) d
      { d with backend := (d.backend.createWindow a.create spec).2.2 } := by
  rw [hbackend]
  refine ⟨h, .inr ⟨spec, rfl, rfl, ?_⟩⟩
  rcases hwhy with hold | hrefuse
  · exact .inr (by rw [scene, Option.isSome_map, h, hold])
  · exact .inl hrefuse

/-- A new window is created, is there already, or is refused. -/
theorem Kept.createWindow (h : d.Kept) (isX11 : Bool) (a : CommandAnswers) (spec : WindowSpec) :
    Performed a (.createWindow spec) d
      (WinitBackendAdapter.createWindow ⟨d, isX11, a, []⟩ spec).2.inner := by
  unfold WinitBackendAdapter.createWindow WinitBackendAdapter.withBackend
  dsimp only
  rcases createWindow_known d.backend a spec with
    ⟨hold, -, hresult, hknown⟩ | ⟨hold | ⟨hrefuse, hresult⟩, hbackend⟩
  · rw [hold, hresult]
    exact h.created a hknown
  · obtain ⟨entry, hentry⟩ := Option.isSome_iff_exists.mp hold
    rw [hentry]
    exact h.uncreated (.inl hold) hbackend
  · cases hcreated : (d.backend.createWindow a.create spec).1 with
    | ok u => exact absurd hcreated hresult
    | error e =>
        cases d.backend.windows.lookup spec.windowId with
        | none => exact h.uncreated (.inr hrefuse) hbackend
        | some entry => exact h.uncreated (.inr hrefuse) hbackend

/-- A window that is destroyed is gone, known or not. -/
theorem Kept.destroyWindow (h : d.Kept) (isX11 : Bool) (a : CommandAnswers) (id : UInt32) :
    Performed a (.destroyWindow id) d
      (WinitBackendAdapter.destroyWindow ⟨d, isX11, a, []⟩ id).2.inner := by
  refine ⟨fun k => ?_, .inl ?_⟩
  · change ((d.native.erase id).lookup k).isSome =
      ((d.backend.destroyWindow id).2.windows.lookup k).isSome
    rw [Table.lookup_erase_ite, lookup_destroyWindow]
    split
    · rfl
    · exact h k
  · apply Scene.ext
    · funext k
      change ((d.native.erase id).lookup k).map _ = if k = id then _ else _
      rw [Table.lookup_erase_ite]
      split
      · rfl
      · rfl
    · rfl

/-- An icon that can be decoded is asked for, and is no part of the scene. -/
theorem Kept.changeIcon (h : d.Kept) (isX11 : Bool) (a : CommandAnswers) (spec : WindowSpec) :
    Performed a (.changeIcon spec) d
      (WinitBackendAdapter.changeIcon ⟨d, isX11, a, []⟩ spec).2.inner := by
  unfold WinitBackendAdapter.changeIcon
  split
  · exact h.unmoved rfl
  · split
    · exact h.unmoved rfl
    · split
      · exact h.unmoved rfl
      · split
        · exact ⟨h.ask _ _, .inl (scene_ask_same d _ fun _ => rfl)⟩
        · exact h.unmoved rfl

/-- A frame is in the presenter's hands and is no part of the scene. -/
theorem Kept.frame (h : d.Kept) (isX11 : Bool) (a : CommandAnswers) (m : FrameData) :
    Performed a (.frame m) d (WinitBackendAdapter.frame ⟨d, isX11, a, []⟩ m).2.inner := by
  unfold WinitBackendAdapter.frame
  split
  · exact h.unmoved rfl
  · exact h.unmoved rfl
  · exact h.unmoved rfl
  · exact h.unmoved rfl

/-- The shape of the cursor is no part of the scene. -/
theorem scene_shaped (d : Desktop) (cursor : CustomCursor) :
    (d.askAll fun w => { w with cursor := some cursor }).scene = d.scene := by
  refine (scene_askAll d (fun v => v) ?_).trans ?_
  · exact fun _ => rfl
  · apply Scene.ext
    · funext k
      exact Option.map_id'
    · rfl

/-- A shape is kept for all windows, and is no part of the scene. -/
theorem Kept.cursorShape (h : d.Kept) (isX11 : Bool) (a : CommandAnswers) (m : CursorShape) :
    Performed a (.cursorShape m) d
      (WinitBackendAdapter.cursorShape ⟨d, isX11, a, []⟩ m).2.inner := by
  unfold WinitBackendAdapter.cursorShape
  split
  · exact ⟨h.askAll _, .inl (scene_shaped d _)⟩
  · split
    · exact h.unmoved rfl
    · split
      · exact h.unmoved rfl
      · split
        · exact ⟨h.askAll _, .inl (scene_shaped d _)⟩
        · exact h.unmoved rfl

/-- **What a command does.**  It does to the desktop what it is meant to do to the scene, unless
a new window is refused. -/
theorem Kept.performed (h : d.Kept) (isX11 : Bool) (c : DisplayCommand) (a : CommandAnswers) :
    Performed a c d (d.userEvent isX11 c a).2 := by
  rw [userEvent_desktop]
  cases c with
  | createWindow spec => exact h.createWindow isX11 a spec
  | destroyWindow id => exact h.destroyWindow isX11 a id
  | moveWindow spec =>
      refine ⟨fun k => (h k).trans ?_, .inl rfl⟩
      exact (moveWindow_known d.backend isX11 a.now a.resized spec k).symm
  | retitleWindow spec =>
      exact ⟨h.ask spec.windowId _, .inl (scene_ask d spec.windowId (.retitle spec) fun _ => rfl)⟩
  | changeState spec =>
      exact ⟨h.ask spec.windowId _,
        .inl (scene_ask d spec.windowId (.changeState spec) fun _ => rfl)⟩
  | changeIcon spec => exact h.changeIcon isX11 a spec
  | restack stack => exact h.unmoved rfl
  | frame m => exact h.frame isX11 a m
  | cursorShape m => exact h.cursorShape isX11 a m
  | cursorPosition id x y => exact h.unmoved rfl
  | cursorVisibility visible =>
      have hkept : { d with cursorVisible := visible }.Kept := h
      refine ⟨hkept.askAll _, .inl ?_⟩
      exact scene_askAll { d with cursorVisible := visible }
        (fun v => { v with cursorVisible := visible }) fun _ => rfl
  | agentError code message => exact h.unmoved rfl
  | shutdown => exact h.unmoved rfl

end Desktop

/-! ## Showing the model -/

/-- The desktop shows a scene, without windows that were refused. -/
structure Renders (refused : List UInt32) (s : Scene) (d : Desktop) : Prop where
  kept : d.Kept
  cursorVisible : d.cursorVisible = s.cursorVisible
  window : ∀ id, d.scene.windows id = s.windows id ∨ d.scene.windows id = none ∧ id ∈ refused

namespace Renders

variable {refused : List UInt32} {s : Scene} {d d' : Desktop} {c : DisplayCommand}

/-- At the start there is nothing to be seen. -/
theorem start : Renders [] .empty .new := ⟨fun _ => rfl, rfl, fun _ => .inl rfl⟩

/-- A window that is not in the scene is not shown. -/
theorem absent (h : Renders refused s d) {id : UInt32} (hnone : s.windows id = none) :
    d.scene.windows id = none := by
  rcases h.window id with hsame | ⟨hgone, -⟩
  · rw [hsame, hnone]
  · exact hgone

/-- A command that was performed leaves the desktop showing what it is meant to. -/
theorem perform (h : Renders refused s d) (hkept : d'.Kept)
    (hscene : d'.scene = d.scene.perform c) : Renders refused (s.perform c) d' := by
  have hcursor : d.scene.cursorVisible = s.cursorVisible := h.cursorVisible
  refine ⟨hkept, ?_, fun id => ?_⟩
  · change d'.scene.cursorVisible = _
    rw [hscene]
    cases c with
    | cursorVisibility visible => rfl
    | _ => exact hcursor
  · rw [hscene]
    have hasked : ∀ (target : UInt32) (looks : WindowAttributes → WindowAttributes),
        (d.scene.ask target looks).windows id = (s.ask target looks).windows id ∨
          (d.scene.ask target looks).windows id = none ∧ id ∈ refused := by
      intro target looks
      simp only [Scene.ask]
      rcases h.window id with hsame | ⟨hgone, hmem⟩
      · rw [hsame]
        exact .inl rfl
      · rw [hgone]
        exact .inr ⟨ite_self _, hmem⟩
    cases c with
    | createWindow spec =>
        simp only [Scene.perform, hcursor]
        split
        · exact .inl rfl
        · exact h.window id
    | destroyWindow target =>
        simp only [Scene.perform]
        split
        · exact .inl rfl
        · exact h.window id
    | retitleWindow spec => exact hasked spec.windowId (.retitle spec)
    | changeState spec => exact hasked spec.windowId (.changeState spec)
    | cursorVisibility visible =>
        simp only [Scene.perform]
        rcases h.window id with hsame | ⟨hgone, hmem⟩
        · rw [hsame]
          exact .inl rfl
        · rw [hgone]
          exact .inr ⟨rfl, hmem⟩
    | _ => exact h.window id

/-- A new window that is refused is missing. -/
theorem refuse (h : Renders refused s d) (hkept : d'.Kept) {spec : WindowSpec}
    (hadmits : s.windows spec.windowId = none) (hscene : d'.scene = d.scene) :
    Renders (refused ++ [spec.windowId]) (s.perform (.createWindow spec)) d' := by
  refine ⟨hkept, ?_, fun id => ?_⟩
  · change d'.scene.cursorVisible = _
    rw [hscene]
    exact h.cursorVisible
  · rw [hscene]
    simp only [Scene.perform]
    split
    next hid => exact .inr ⟨hid ▸ h.absent hadmits, by simp [hid]⟩
    next =>
      rcases h.window id with hsame | ⟨hgone, hmem⟩
      · exact .inl hsame
      · exact .inr ⟨hgone, List.mem_append_left _ hmem⟩

end Renders

/-- The window that a command fails to create. -/
def refusedBy (a : CommandAnswers) : DisplayCommand → List UInt32
  | .createWindow spec => if a.refuse then [spec.windowId] else []
  | _ => []

/-- A command that the scene admits. -/
theorem Renders.command {refused : List UInt32} {s : Scene} {d : Desktop}
    (h : Renders refused s d) (isX11 : Bool) {c : DisplayCommand} (hadmits : s.Admits c)
    (a : CommandAnswers) :
    Renders (refused ++ refusedBy a c) (s.perform c) (d.userEvent isX11 c a).2 := by
  have hperformed := h.kept.performed isX11 c a
  have hmore : ∀ {r : List UInt32}, Renders refused (s.perform c) (d.userEvent isX11 c a).2 →
      Renders (refused ++ r) (s.perform c) (d.userEvent isX11 c a).2 := by
    intro r hshows
    refine ⟨hshows.kept, hshows.cursorVisible, fun id => ?_⟩
    rcases hshows.window id with hsame | ⟨hgone, hmem⟩
    · exact .inl hsame
    · exact .inr ⟨hgone, List.mem_append_left _ hmem⟩
  rcases hperformed.scene with hscene | ⟨spec, rfl, hscene, hwhy⟩
  · exact hmore (h.perform hperformed.kept hscene)
  · have hrefuse : a.refuse = true := by
      rcases hwhy with hrefuse | hshown
      · exact hrefuse
      · rw [h.absent hadmits] at hshown
        cases hshown
    rw [refusedBy, if_pos hrefuse]
    exact h.refuse hperformed.kept hadmits hscene

/-- What the user does is no part of a scene. -/
theorem Renders.user {refused : List UInt32} {s : Scene} {d : Desktop} (h : Renders refused s d)
    (isX11 : Bool) {e : DesktopEvent} (huser : ∀ c a, e ≠ .command c a) :
    Renders refused s (d.step isX11 e).2 := by
  cases e with
  | command c a => exact absurd rfl (huser c a)
  | input id e =>
      unfold Desktop.step
      dsimp only
      split
      · exact h
      · exact ⟨h.kept, h.cursorVisible, h.window⟩
  | native now id e =>
      refine ⟨fun k => (h.kept k).trans ?_, h.cursorVisible, h.window⟩
      exact (handleWindowEvent_known d.backend isX11 now id e k).symm

/-! ## What is on its way -/

/-- The commands lead from one scene to another, each of them admitted. -/
def Leads : Scene → List DisplayCommand → Scene → Prop
  | s, [], s' => s = s'
  | s, c :: rest, s' => s.Admits c ∧ Leads (s.perform c) rest s'

/-- Commands that lead on lead there. -/
theorem Leads.append {s s' s'' : Scene} {cs cs' : List DisplayCommand} (h : Leads s cs s')
    (h' : Leads s' cs' s'') : Leads s (cs ++ cs') s'' := by
  induction cs generalizing s with
  | nil => exact h ▸ h'
  | cons c rest ih => exact ⟨h.1, ih h.2⟩

/-- Frames and the end are no part of a scene. -/
theorem perform_plain (s : Scene) {c : DisplayCommand} (hc : c.isPlain = true) :
    s.perform c = s ∧ s.Admits c := by
  cases c with
  | frame m => exact ⟨rfl, trivial⟩
  | shutdown => exact ⟨rfl, trivial⟩
  | _ => cases hc

/-- Commands without an effect on the scene lead nowhere. -/
theorem leads_plain (s : Scene) {cs : List DisplayCommand} (hcs : ∀ c ∈ cs, c.isPlain = true) :
    Leads s cs s := by
  induction cs with
  | nil => rfl
  | cons c rest ih =>
      obtain ⟨hsame, hadmits⟩ := perform_plain s (hcs c List.mem_cons_self)
      refine ⟨hadmits, ?_⟩
      rw [hsame]
      exact ih fun c hc => hcs c (List.mem_cons_of_mem _ hc)

/-- Where only frames are on their way, the scene is reached. -/
theorem Leads.reached {s s' : Scene} {cs : List DisplayCommand} (h : Leads s cs s')
    (hcs : ∀ c ∈ cs, c.isPlain = true) : s = s' := by
  induction cs with
  | nil => exact h
  | cons c rest ih =>
      have hrest := h.2
      rw [(perform_plain s (hcs c List.mem_cons_self)).1] at hrest
      exact ih hrest fun c hc => hcs c (List.mem_cons_of_mem _ hc)

/-- What the display is told of an event leads to the scene of the model. -/
theorem Told.leads {result : List ModelChange × WindowModel} (h : Told model result) :
    Leads (sceneOf model) (result.1.filterMap (displayCommandForChange result.2))
      (sceneOf result.2) := by
  have hone := h.one
  have hscene := h.scene
  have hadmits := h.admits
  revert hone hscene hadmits
  generalize result.1.filterMap (displayCommandForChange result.2) = cs
  intro hone hscene hadmits
  cases cs with
  | nil => exact hscene.symm
  | cons c rest =>
      have hrest : rest = [] := List.length_eq_zero_iff.mp (by simpa using hone)
      subst hrest
      exact ⟨hadmits c List.mem_cons_self, hscene.symm⟩

end Winit

end Oxrdp
