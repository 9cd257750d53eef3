import Oxrdp.Lib.Table
import Oxrdp.Proto.Message

/-!
# The client's window model

`model.rs` of the client: the remote windows and their stacking order, as the
events of the session change them.  `clientEvent` is the match of
`ClientSession::next_event` that turns a received message into an event, with
nothing for the messages the session consumes itself or ignores.
-/

namespace Oxrdp

/-- What the display layer reacts to. -/
inductive ClientEvent where
  | windowOpened (m : WindowOpened)
  | windowGeometry (m : WindowGeometry)
  | windowTitle (m : WindowTitle)
  | windowState (m : WindowState)
  | windowZOrder (m : WindowZOrder)
  | windowIcon (m : WindowIcon)
  | windowClosed (m : WindowClosed)
  | frame (m : FrameData)
  | cursorShape (m : CursorShape)
  | cursorPosition (m : CursorPosition)
  | cursorVisibility (m : CursorVisibility)
  | error (m : Error)
  | closed (m : Close)
  deriving DecidableEq, Repr

/-- The event a received message gives rise to. -/
def clientEvent : Message → Option ClientEvent
  | .windowOpened m => some (.windowOpened m)
  | .windowGeometry m => some (.windowGeometry m)
  | .windowTitle m => some (.windowTitle m)
  | .windowState m => some (.windowState m)
  | .windowZOrder m => some (.windowZOrder m)
  | .windowIcon m => some (.windowIcon m)
  | .windowClosed m => some (.windowClosed m)
  | .frameData m => some (.frame m)
  | .cursorShape m => some (.cursorShape m)
  | .cursorPosition m => some (.cursorPosition m)
  | .cursorVisibility m => some (.cursorVisibility m)
  | .error m => some (.error m)
  | .close m => some (.closed m)
  -- pings and pongs are consumed by the session, the rest flows the other way
  | _ => none

/-- Everything the display layer knows about one remote window. -/
structure RemoteWindow where
  windowId : UInt32
  videoChannel : UInt16
  appId : String
  title : String
  x : Int32
  y : Int32
  width : UInt16
  height : UInt16
  dpi : UInt16
  ownerId : UInt32
  minimized : Bool
  maximized : Bool
  resizable : Bool
  hasFrame : Bool
  topmost : Bool
  icon : Option WindowIcon
  deriving DecidableEq, Repr

def RemoteWindow.fromOpened (m : WindowOpened) : RemoteWindow :=
  { windowId := m.windowId
    videoChannel := m.videoChannel
    appId := m.appId
    title := m.title
    x := m.x
    y := m.y
    width := m.width
    height := m.height
    dpi := m.dpi
    ownerId := m.ownerId
    minimized := m.flags &&& WindowFlag.minimized != 0
    maximized := m.flags &&& WindowFlag.maximized != 0
    resizable := m.flags &&& WindowFlag.resizable != 0
    hasFrame := m.flags &&& WindowFlag.hasFrame != 0
    topmost := m.flags &&& WindowFlag.topmost != 0
    icon := none }

/-- An instruction for the display backend. -/
inductive ModelChange where
  | created (id : UInt32)
  | destroyed (id : UInt32)
  | moved (id : UInt32)
  | retitled (id : UInt32)
  | stateChanged (id : UInt32)
  | iconChanged (id : UInt32)
  | restacked
  | frame (m : FrameData)
  | cursorShape (m : CursorShape)
  | cursorMoved (id : UInt32) (x y : Int32)
  | cursorVisibility (visible : Bool)
  | agentError (code : UInt16) (message : String)
  | closed
  deriving DecidableEq, Repr

/-- The client's view of the guest's windows; `stack` is bottom to top. -/
structure WindowModel where
  windows : Table UInt32 RemoteWindow
  stack : List UInt32
  cursorVisible : Bool

namespace WindowModel

/-- An empty model. -/
def new : WindowModel := { windows := ∅, stack := [], cursorVisible := true }

/-- A repeated id is a protocol violation: the first window is kept. -/
def onOpened (model : WindowModel) (m : WindowOpened) : List ModelChange × WindowModel :=
  match model.windows.lookup m.windowId with
  | some _ => ([], model)
  | none =>
      ([.created m.windowId],
        { model with
          windows := model.windows.insert m.windowId (RemoteWindow.fromOpened m)
          stack := model.stack ++ [m.windowId] })

def onClosed (model : WindowModel) (id : UInt32) : List ModelChange × WindowModel :=
  match model.windows.lookup id with
  | none => ([], model)
  | some _ =>
      ([.destroyed id],
        { model with
          windows := model.windows.erase id
          stack := model.stack.filter fun s => s != id })

/-- Replace what is known of a window. -/
def put (model : WindowModel) (id : UInt32) (w : RemoteWindow) : WindowModel :=
  { model with windows := model.windows.insert id w }

def onGeometry (model : WindowModel) (m : WindowGeometry) :
    List ModelChange × WindowModel :=
  match model.windows.lookup m.windowId with
  | none => ([], model)
  | some w =>
      if (w.x, w.y, w.width, w.height) = (m.x, m.y, m.width, m.height) then ([], model)
      else
        ([.moved m.windowId],
          model.put m.windowId { w with x := m.x, y := m.y, width := m.width, height := m.height })

def onTitle (model : WindowModel) (m : WindowTitle) : List ModelChange × WindowModel :=
  match model.windows.lookup m.windowId with
  | none => ([], model)
  | some w =>
      if w.title = m.title then ([], model)
      else ([.retitled m.windowId], model.put m.windowId { w with title := m.title })

/-- Only the show state is taken from the message; the flags it carries are not
looked at. -/
def onState (model : WindowModel) (m : WindowState) : List ModelChange × WindowModel :=
  match model.windows.lookup m.windowId with
  | none => ([], model)
  | some w =>
      let minimized := m.state == WindowShow.minimized
      let maximized := m.state == WindowShow.maximized
      if (w.minimized, w.maximized) = (minimized, maximized) then ([], model)
      else ([.stateChanged m.windowId], model.put m.windowId { w with minimized, maximized })

def onIcon (model : WindowModel) (m : WindowIcon) : List ModelChange × WindowModel :=
  match model.windows.lookup m.windowId with
  | none => ([], model)
  | some w => ([.iconChanged m.windowId], model.put m.windowId { w with icon := some m })

/-- Where `window_id` goes: the bottom for 0, right above the reference window
otherwise, and nowhere if that is unknown. -/
def zorderTarget (stack : List UInt32) (current : Nat) (above : UInt32) : Option Nat :=
  if above = 0 then some 0
  else
    match stack.idxOf? above with
    | some i => if i > current then some i else some (i + 1)
    | none => none

def onZorder (model : WindowModel) (id above : UInt32) : List ModelChange × WindowModel :=
  match model.windows.lookup id, model.stack.idxOf? id with
  | some _, some current =>
      match zorderTarget model.stack current above with
      | none => ([], model)
      | some target =>
          if target = current then ([], model)
          else
            let rest := model.stack.eraseIdx current
            ([.restacked], { model with stack := rest.insertIdx (min target rest.length) id })
  | _, _ => ([], model)

/-- Apply one event: the changes a backend must perform, and the new model. -/
def apply (model : WindowModel) : ClientEvent → List ModelChange × WindowModel
  | .windowOpened m => model.onOpened m
  | .windowClosed m => model.onClosed m.windowId
  | .windowGeometry m => model.onGeometry m
  | .windowTitle m => model.onTitle m
  | .windowState m => model.onState m
  | .windowZOrder m => model.onZorder m.windowId m.aboveWindowId
  | .windowIcon m => model.onIcon m
  | .frame f => ([.frame f], model)
  | .cursorShape c => ([.cursorShape c], model)
  | .cursorPosition p => ([.cursorMoved p.windowId p.x p.y], model)
  | .cursorVisibility v =>
      ([.cursorVisibility v.visible], { model with cursorVisible := v.visible })
  | .error e => ([.agentError e.code e.message], model)
  | .closed _ => ([.closed], model)

/-- The model after one received message. -/
def receive (model : WindowModel) (m : Message) : WindowModel :=
  (clientEvent m).elim model fun event => (model.apply event).2

/-- The model after a sequence of received messages. -/
def receiveAll (model : WindowModel) (ms : List Message) : WindowModel :=
  ms.foldl receive model

/-! ## What a message does to the windows -/

/-- Receiving two lists of messages is receiving one after the other. -/
theorem receiveAll_append (model : WindowModel) (ms ms' : List Message) :
    model.receiveAll (ms ++ ms') = (model.receiveAll ms).receiveAll ms' :=
  List.foldl_append

/-- `put` is seen at its own id only. -/
theorem lookup_put (model : WindowModel) (id k : UInt32) (w : RemoteWindow) :
    (model.put id w).windows.lookup k = if k = id then some w else model.windows.lookup k :=
  Table.lookup_insert_ite model.windows id k w

/-- A message that changes a known window by `f`, and no other. -/
theorem lookup_amended {model model' : WindowModel} {id : UInt32}
    {f : RemoteWindow → RemoteWindow}
    (hnone : model.windows.lookup id = none → model' = model)
    (hsome : ∀ w, model.windows.lookup id = some w →
      (model' = model ∧ f w = w) ∨ model' = model.put id (f w)) (k : UInt32) :
    model'.windows.lookup k =
      if k = id then (model.windows.lookup k).map f else model.windows.lookup k := by
  by_cases hk : k = id
  · subst hk
    rw [if_pos rfl]
    cases hl : model.windows.lookup k with
    | none => rw [hnone hl, hl, Option.map_none]
    | some w =>
        rcases hsome w hl with ⟨hsame, hf⟩ | hput
        · rw [hsame, hl, Option.map_some, hf]
        · rw [hput, lookup_put, if_pos rfl, Option.map_some]
  · rw [if_neg hk]
    cases hl : model.windows.lookup id with
    | none => rw [hnone hl]
    | some w =>
        rcases hsome w hl with ⟨hsame, -⟩ | hput
        · rw [hsame]
        · rw [hput, lookup_put, if_neg hk]

/-- An open adds the window, or keeps the one that it repeats. -/
theorem lookup_windowOpened (model : WindowModel) (m : WindowOpened) (k : UInt32) :
    (model.receive (.windowOpened m)).windows.lookup k =
      if k = m.windowId then some ((model.windows.lookup k).getD (.fromOpened m))
      else model.windows.lookup k := by
  change (model.onOpened m).2.windows.lookup k = _
  unfold onOpened
  cases hl : model.windows.lookup m.windowId with
  | none =>
      change (model.windows.insert _ _).lookup k = _
      rw [Table.lookup_insert_ite]
      by_cases hk : k = m.windowId
      · rw [if_pos hk, if_pos hk, hk, hl, Option.getD_none]
      · rw [if_neg hk, if_neg hk]
  | some w =>
      by_cases hk : k = m.windowId
      · rw [if_pos hk, hk, hl, Option.getD_some]
      · rw [if_neg hk]

/-- A close removes its own window only. -/
theorem lookup_windowClosed (model : WindowModel) (m : WindowClosed) (k : UInt32) :
    (model.receive (.windowClosed m)).windows.lookup k =
      if k = m.windowId then none else model.windows.lookup k := by
  change (model.onClosed m.windowId).2.windows.lookup k = _
  unfold onClosed
  cases hl : model.windows.lookup m.windowId with
  | none =>
      by_cases hk : k = m.windowId
      · rw [if_pos hk, hk, hl]
      · rw [if_neg hk]
  | some w => exact Table.lookup_erase_ite model.windows m.windowId k

/-- A title is seen by its own window only. -/
theorem lookup_windowTitle (model : WindowModel) (m : WindowTitle) (k : UInt32) :
    (model.receive (.windowTitle m)).windows.lookup k =
      if k = m.windowId then (model.windows.lookup k).map fun w => { w with title := m.title }
      else model.windows.lookup k := by
  apply lookup_amended
  · intro hl
    change (model.onTitle m).2 = _
    rw [onTitle, hl]
  · intro w hl
    change (model.onTitle m).2 = _ ∧ _ ∨ (model.onTitle m).2 = _
    simp only [onTitle, hl]
    split
    · rename_i hsame
      exact .inl ⟨rfl, by rw [← hsame]⟩
    · exact .inr rfl

/-- A state is seen by its own window only. -/
theorem lookup_windowState (model : WindowModel) (m : WindowState) (k : UInt32) :
    (model.receive (.windowState m)).windows.lookup k =
      if k = m.windowId then
        (model.windows.lookup k).map fun w =>
          { w with
            minimized := m.state == WindowShow.minimized
            maximized := m.state == WindowShow.maximized }
      else model.windows.lookup k := by
  apply lookup_amended
  · intro hl
    change (model.onState m).2 = _
    rw [onState, hl]
  · intro w hl
    change (model.onState m).2 = _ ∧ _ ∨ (model.onState m).2 = _
    simp only [onState, hl]
    split
    · rename_i hsame
      obtain ⟨hmin, hmax⟩ := Prod.mk.inj hsame
      exact .inl ⟨rfl, by rw [← hmin, ← hmax]⟩
    · exact .inr rfl

/-- A geometry is seen by its own window only. -/
theorem lookup_windowGeometry (model : WindowModel) (m : WindowGeometry) (k : UInt32) :
    (model.receive (.windowGeometry m)).windows.lookup k =
      if k = m.windowId then
        (model.windows.lookup k).map fun w =>
          { w with x := m.x, y := m.y, width := m.width, height := m.height }
      else model.windows.lookup k := by
  apply lookup_amended
  · intro hl
    change (model.onGeometry m).2 = _
    rw [onGeometry, hl]
  · intro w hl
    change (model.onGeometry m).2 = _ ∧ _ ∨ (model.onGeometry m).2 = _
    simp only [onGeometry, hl]
    split
    · rename_i hsame
      simp only [Prod.mk.injEq] at hsame
      obtain ⟨hx, hy, hwidth, hheight⟩ := hsame
      exact .inl ⟨rfl, by rw [← hx, ← hy, ← hwidth, ← hheight]⟩
    · exact .inr rfl

/-! ## What an event comes to -/

/-- The changes show no frame, and no window is closed. -/
def Keeping (model : WindowModel) (result : List ModelChange × WindowModel) : Prop :=
  (∀ f, .frame f ∉ result.1) ∧ ∀ v ∈ model.windows, v ∈ result.2.windows

/-- A message that changes nothing keeps every window. -/
theorem keeping_same (model : WindowModel) : Keeping model ([], model) :=
  ⟨nofun, fun _ h => h⟩

/-- Replacing a window yields no frame. -/
theorem keeping_put (model : WindowModel) (id : UInt32) (w : RemoteWindow) {change : ModelChange}
    (hno : ∀ f, change ≠ .frame f) : Keeping model ([change], model.put id w) := by
  constructor
  · intro f hmem
    exact hno f (List.mem_singleton.mp hmem).symm
  · intro v hv
    exact AList.mem_insert _ |>.mpr (.inr hv)

/-- An open keeps every window. -/
theorem onOpened_keeping (model : WindowModel) (m : WindowOpened) :
    Keeping model (model.onOpened m) := by
  unfold onOpened
  split
  next => exact keeping_same model
  next =>
    refine ⟨?_, fun v hv => (AList.mem_insert _).mpr (.inr hv)⟩
    intro f hmem
    cases List.mem_singleton.mp hmem

/-- A geometry keeps every window. -/
theorem onGeometry_keeping (model : WindowModel) (m : WindowGeometry) :
    Keeping model (model.onGeometry m) := by
  unfold onGeometry
  split
  next => exact keeping_same model
  next =>
    split
    · exact keeping_same model
    · exact model.keeping_put _ _ nofun

/-- A title keeps every window. -/
theorem onTitle_keeping (model : WindowModel) (m : WindowTitle) :
    Keeping model (model.onTitle m) := by
  unfold onTitle
  split
  next => exact keeping_same model
  next =>
    split
    · exact keeping_same model
    · exact model.keeping_put _ _ nofun

/-- A state keeps every window. -/
theorem onState_keeping (model : WindowModel) (m : WindowState) :
    Keeping model (model.onState m) := by
  unfold onState
  split
  next => exact keeping_same model
  next =>
    dsimp only
    split
    · exact keeping_same model
    · exact model.keeping_put _ _ nofun

/-- An icon keeps every window. -/
theorem onIcon_keeping (model : WindowModel) (m : WindowIcon) :
    Keeping model (model.onIcon m) := by
  unfold onIcon
  split
  next => exact keeping_same model
  next => exact model.keeping_put _ _ nofun

/-- A change of the stack keeps every window. -/
theorem onZorder_keeping (model : WindowModel) (id above : UInt32) :
    Keeping model (model.onZorder id above) := by
  unfold onZorder
  split
  next =>
    split
    next => exact keeping_same model
    next =>
      dsimp only
      split
      · exact keeping_same model
      · refine ⟨?_, fun _ h => h⟩
        intro f hmem
        cases List.mem_singleton.mp hmem
  next => exact keeping_same model

/-- A frame is passed on, a window that is closed is dropped, and every other event keeps the
windows and shows no frame. -/
theorem apply_yields (model : WindowModel) (e : ClientEvent) :
    (∃ f, e = .frame f ∧ model.apply e = ([.frame f], model)) ∨
      (∃ id, (model.apply e).1 = [.destroyed id] ∧
        (model.apply e).2.windows = model.windows.erase id) ∨
      Keeping model (model.apply e) := by
  cases e with
  | frame f => exact .inl ⟨f, rfl, rfl⟩
  | windowClosed m =>
      right
      dsimp only [apply, onClosed]
      split
      next => exact .inr (keeping_same model)
      next => exact .inl ⟨m.windowId, rfl, rfl⟩
  | windowOpened m => exact .inr (.inr (model.onOpened_keeping m))
  | windowGeometry m => exact .inr (.inr (model.onGeometry_keeping m))
  | windowTitle m => exact .inr (.inr (model.onTitle_keeping m))
  | windowState m => exact .inr (.inr (model.onState_keeping m))
  | windowIcon m => exact .inr (.inr (model.onIcon_keeping m))
  | windowZOrder m => exact .inr (.inr (model.onZorder_keeping m.windowId m.aboveWindowId))
  | cursorShape => exact .inr (.inr ⟨by simp [apply], fun _ h => h⟩)
  | cursorPosition => exact .inr (.inr ⟨by simp [apply], fun _ h => h⟩)
  | cursorVisibility => exact .inr (.inr ⟨by simp [apply], fun _ h => h⟩)
  | error => exact .inr (.inr ⟨by simp [apply], fun _ h => h⟩)
  | closed => exact .inr (.inr ⟨by simp [apply], fun _ h => h⟩)

end WindowModel

end Oxrdp
