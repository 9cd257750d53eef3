import Oxrdp.Display.Echoes
import Oxrdp.Display.Images
import Oxrdp.Display.Input

/-!
# The native windows

`apply_display_command` (`lib.rs`) and the backends that it drives: `WinitBackendAdapter` of
`winit_backend.rs`, with what it has asked winit for, and `HeadlessBackend`, which records the
calls that it gets.

`WinitBackend` with its ledger and `InputState` are parts of a `Desktop`; the rest of it are the
native windows (`NativeWindow`), which show what winit was last asked for.  What the window
system and the presenter answer to a command is part of it.
-/

namespace Oxrdp

/-- A backend that executes display commands which are already in order. -/
class DisplayBackend (B : Type) where
  createWindow : B → WindowSpec → Except String Unit × B
  destroyWindow : B → UInt32 → Except String Unit × B
  moveWindow : B → WindowSpec → Except String Unit × B
  retitleWindow : B → WindowSpec → Except String Unit × B
  changeState : B → WindowSpec → Except String Unit × B
  changeIcon : B → WindowSpec → Except String Unit × B
  restack : B → List UInt32 → Except String Unit × B
  frame : B → FrameData → Except String (Option PresentTimes) × B
  cursorShape : B → CursorShape → Except String Unit × B
  cursorMoved : B → UInt32 → Int32 → Int32 → Except String Unit × B
  cursorVisibility : B → Bool → Except String Unit × B
  agentError : B → UInt16 → String → Except String Unit × B
  closed : B → Except String Unit × B

open DisplayBackend in
/-- Apply one display command to a backend. -/
def applyDisplayCommand {B : Type} [DisplayBackend B] (backend : B) :
    DisplayCommand → Except String Unit × B
  | .createWindow window => createWindow backend window
  | .destroyWindow id => destroyWindow backend id
  | .moveWindow window => moveWindow backend window
  | .retitleWindow window => retitleWindow backend window
  | .changeState window => changeState backend window
  | .changeIcon window => changeIcon backend window
  | .restack stack => restack backend stack
  | .frame m =>
      let (presented, backend) := frame backend m
      (presented.map fun _ => (), backend)
  | .cursorShape m => cursorShape backend m
  | .cursorPosition id x y => cursorMoved backend id x y
  | .cursorVisibility visible => cursorVisibility backend visible
  | .agentError code message => agentError backend code message
  | .shutdown => closed backend

/-! ## The headless backend -/

/-- A call that a headless backend has recorded. -/
inductive HeadlessCall where
  | created (windowId : UInt32) (appId title : String) (x y : Int32) (width height : UInt16)
      (ownerId : UInt32)
  | destroyed (id : UInt32)
  | moved (windowId : UInt32) (x y : Int32) (width height : UInt16)
  | retitled (windowId : UInt32) (title : String)
  | stateChanged (windowId : UInt32) (minimized maximized : Bool)
  | iconChanged (id : UInt32)
  | restacked (stack : List UInt32)
  | frame (windowId : UInt32) (frameId : UInt64) (bytes : Nat)
  | cursorShape (cursorId : UInt32) (width height : UInt16)
  | cursorMoved (windowId : UInt32) (x y : Int32)
  | cursorVisibility (visible : Bool)
  | agentError (code : UInt16) (message : String)
  | closed
  deriving DecidableEq, Repr

/-- A backend that opens no windows. -/
structure HeadlessBackend where
  calls : List HeadlessCall
  windows : List UInt32

namespace HeadlessBackend

def new : HeadlessBackend := ⟨[], []⟩

def push (b : HeadlessBackend) (call : HeadlessCall) : HeadlessBackend :=
  { b with calls := b.calls ++ [call] }

/-- Only a frame for a window that is there is recorded. -/
def frame (b : HeadlessBackend) (m : FrameData) :
    Except String (Option PresentTimes) × HeadlessBackend :=
  if m.windowId ∈ b.windows then
    (.ok (some ⟨0, 0⟩), b.push (.frame m.windowId m.frameId m.data.length))
  else (.ok none, b)

instance : DisplayBackend HeadlessBackend where
  createWindow b w :=
    (.ok (), { b with windows := b.windows.insert w.windowId }.push
      (.created w.windowId w.appId w.title w.x w.y w.width w.height w.ownerId))
  destroyWindow b id :=
    (.ok (), { b with windows := b.windows.filter (· != id) }.push (.destroyed id))
  moveWindow b w := (.ok (), b.push (.moved w.windowId w.x w.y w.width w.height))
  retitleWindow b w := (.ok (), b.push (.retitled w.windowId w.title))
  changeState b w := (.ok (), b.push (.stateChanged w.windowId w.minimized w.maximized))
  changeIcon b w := (.ok (), b.push (.iconChanged w.windowId))
  restack b stack := (.ok (), b.push (.restacked stack))
  frame := frame
  cursorShape b m := (.ok (), b.push (.cursorShape m.cursorId m.width m.height))
  cursorMoved b id x y := (.ok (), b.push (.cursorMoved id x y))
  cursorVisibility b visible := (.ok (), b.push (.cursorVisibility visible))
  agentError b code message := (.ok (), b.push (.agentError code message))
  closed b := (.ok (), b.push .closed)

end HeadlessBackend

namespace Winit

/-! ## The native windows -/

/-- A cursor that winit was given. -/
structure CustomCursor where
  rgba : List UInt8
  width : UInt16
  height : UInt16
  hotspotX : UInt16
  hotspotY : UInt16
  deriving DecidableEq, Repr

/-- How a native window looks, besides its content. -/
structure WindowAttributes where
  title : String
  name : String
  decorations : Bool
  resizable : Bool
  minimized : Bool
  maximized : Bool
  alwaysOnTop : Bool
  deriving DecidableEq, Repr

/-- The attributes that `create_window` asks for. -/
def WindowAttributes.of (remote : WindowSpec) : WindowAttributes where
  title := remote.title
  name := remote.appId
  decorations := remote.hasFrame
  resizable := remote.resizable
  minimized := remote.minimized
  maximized := remote.maximized
  alwaysOnTop := remote.topmost

/-- What winit was last asked for a native window, with its X11 window and its owner. -/
structure NativeWindow extends WindowAttributes where
  icon : Option (List UInt8)
  cursor : Option CustomCursor
  cursorVisible : Bool
  xid : Option UInt32
  ownerId : UInt32
  /-- `WM_TRANSIENT_FOR`, set by the X11 sidecar. -/
  transientFor : Option UInt32
  deriving DecidableEq, Repr

/-- A new window. -/
def NativeWindow.of (remote : WindowSpec) (cursorVisible : Bool) (xid : Option UInt32) :
    NativeWindow :=
  { WindowAttributes.of remote with
    icon := none
    cursor := none
    cursorVisible
    xid
    ownerId := remote.ownerId
    transientFor := none }

/-- The backend, with the windows that it has asked for. -/
structure Desktop where
  backend : WinitBackend
  native : Table UInt32 NativeWindow
  cursorCache : Table UInt32 CustomCursor
  cursorVisible : Bool
  input : InputState

namespace Desktop

def new : Desktop :=
  { backend := .new, native := ∅, cursorCache := ∅, cursorVisible := true, input := .new }

/-- Change a window, if it is there. -/
def ask (d : Desktop) (id : UInt32) (change : NativeWindow → NativeWindow) : Desktop :=
  match d.native.lookup id with
  | some w => { d with native := d.native.insert id (change w) }
  | none => d

/-- Change all windows. -/
def askAll (d : Desktop) (change : NativeWindow → NativeWindow) : Desktop :=
  { d with native := d.native.mapValues change }

/-- `WM_TRANSIENT_FOR` of a new window, where its owner and both their X11 windows are known. -/
def applyTransientFor (d : Desktop) (set : Bool) (id : UInt32) : Desktop :=
  match d.native.lookup id with
  | none => d
  | some w =>
      if w.ownerId = 0 then d
      else
        match w.xid, (d.native.lookup w.ownerId).bind NativeWindow.xid with
        | some _, some owner =>
            if set then d.ask id fun w => { w with transientFor := some owner } else d
        | _, _ => d

end Desktop

/-- What the window system and the presenter answer to a command. -/
structure CommandAnswers where
  now : Nat
  create : CreateAnswers
  /-- The X11 window of the new window. -/
  xid : Option UInt32
  /-- Does the X11 sidecar set the property? -/
  transient : Bool
  resized : Except String Unit
  /-- Does winit take the image? -/
  image : Bool
  present : Except PresentError PresentTimes

/-- The backend while it executes a command, and what it has told others. -/
structure WinitBackendAdapter where
  inner : Desktop
  isX11 : Bool
  answers : CommandAnswers
  effects : List Effect

namespace WinitBackendAdapter

variable (b : WinitBackendAdapter)

/-- The result of a part of the backend. -/
def withBackend (r : Except String Unit × List Effect × WinitBackend) :
    Except String Unit × WinitBackendAdapter :=
  (r.1, { b with
    inner := { b.inner with backend := r.2.2 }
    effects := b.effects ++ r.2.1 })

def createWindow (remote : WindowSpec) : Except String Unit × WinitBackendAdapter :=
  let created := b.inner.backend.createWindow b.answers.create remote
  let (result, after) := b.withBackend created
  match b.inner.backend.windows.lookup remote.windowId, result with
  | none, .ok () =>
      let window := NativeWindow.of remote b.inner.cursorVisible b.answers.xid
      let inner := { after.inner with native := after.inner.native.insert remote.windowId window }
      (result, { after with
        inner := inner.applyTransientFor b.answers.transient remote.windowId })
  | _, _ => (result, after)

def destroyWindow (id : UInt32) : Except String Unit × WinitBackendAdapter :=
  let (result, after) := b.withBackend (.ok (), b.inner.backend.destroyWindow id)
  (result, { after with inner := { after.inner with native := after.inner.native.erase id } })

def moveWindow (remote : WindowSpec) : Except String Unit × WinitBackendAdapter :=
  b.withBackend (b.inner.backend.moveWindow b.isX11 b.answers.now b.answers.resized remote)

def retitleWindow (remote : WindowSpec) : Except String Unit × WinitBackendAdapter :=
  (.ok (), { b with
    inner := b.inner.ask remote.windowId fun w => { w with title := remote.title } })

def changeState (remote : WindowSpec) : Except String Unit × WinitBackendAdapter :=
  (.ok (), { b with
    inner := b.inner.ask remote.windowId fun w =>
      { w with
        minimized := remote.minimized
        maximized := remote.maximized
        alwaysOnTop := remote.topmost } })

/-- Only X11 has icons. -/
def changeIcon (remote : WindowSpec) : Except String Unit × WinitBackendAdapter :=
  if !b.isX11 then (.ok (), b)
  else
    match remote.icon with
    | none => (.ok (), b)
    | some icon =>
        match bgraToRgba icon.bgra icon.width icon.height with
        | none => (.ok (), b)
        | some rgba =>
            if b.answers.image then
              (.ok (), { b with
                inner := b.inner.ask remote.windowId fun w => { w with icon := some rgba } })
            else (.ok (), b)

def frame (m : FrameData) : Except String (Option PresentTimes) × WinitBackendAdapter :=
  match b.inner.backend.windows.lookup m.windowId, b.answers.present with
  | none, _ => (.ok none, b)
  | some _, .ok times =>
      (.ok (some times), { b with
        effects := b.effects ++
          [.send (.presented m.windowId m.frameId times.decodedUs times.presentedUs)] })
  | some _, .error (.droppedFrame ..) => (.ok none, b)
  | some _, .error e => (.error e.text, b)

/-- `BGRA_PREMUL`, the only format there is. -/
def bgraPremul : UInt8 := 1

/-- A cursor is made once, and then known by its id. -/
def cursorShape (shape : CursorShape) : Except String Unit × WinitBackendAdapter :=
  match b.inner.cursorCache.lookup shape.cursorId with
  | some cursor =>
      (.ok (), { b with inner := b.inner.askAll fun w => { w with cursor := some cursor } })
  | none =>
      if shape.format ≠ bgraPremul then (.ok (), b)
      else
        match bgraPremulToRgba shape.data shape.width shape.height with
        | none => (.ok (), b)
        | some rgba =>
            if b.answers.image then
              let cursor : CustomCursor :=
                ⟨rgba, shape.width, shape.height, shape.hotspotX, shape.hotspotY⟩
              let inner := b.inner.askAll fun w => { w with cursor := some cursor }
              (.ok (), { b with
                inner := { inner with
                  cursorCache := inner.cursorCache.insert shape.cursorId cursor } })
            else (.ok (), b)

def cursorVisibility (visible : Bool) : Except String Unit × WinitBackendAdapter :=
  let inner := { b.inner with cursorVisible := visible }
  (.ok (), { b with inner := inner.askAll fun w => { w with cursorVisible := visible } })

def agentError (code : UInt16) (message : String) : Except String Unit × WinitBackendAdapter :=
  (.ok (), { b with
    effects := b.effects ++
      [.send (.backendError ("agent error " ++ toString code ++ ": " ++ message))] })

/-- Stacking and the position of the guest's cursor are not shown. -/
instance : DisplayBackend WinitBackendAdapter where
  createWindow := createWindow
  destroyWindow := destroyWindow
  moveWindow := moveWindow
  retitleWindow := retitleWindow
  changeState := changeState
  changeIcon := changeIcon
  restack b _ := (.ok (), b)
  frame := frame
  cursorShape := cursorShape
  cursorMoved b _ _ _ := (.ok (), b)
  cursorVisibility := cursorVisibility
  agentError := agentError
  closed b := (.ok (), b)

end WinitBackendAdapter

/-! ## The event loop -/

/-- What reaches the event loop. -/
inductive DesktopEvent where
  /-- A command of the session, with what is answered to it. -/
  | command (c : DisplayCommand) (answers : CommandAnswers)
  | input (id : Nat) (event : InputEvent)
  | native (now : Nat) (id : Nat) (event : NativeEvent)

namespace Desktop

/-- `user_event`: an error is reported. -/
def userEvent (isX11 : Bool) (d : Desktop) (c : DisplayCommand) (answers : CommandAnswers) :
    List Effect × Desktop :=
  let (result, adapter) :=
    applyDisplayCommand (WinitBackendAdapter.mk d isX11 answers []) c
  match result with
  | .ok () => (adapter.effects, adapter.inner)
  | .error message => (adapter.effects ++ [.send (.backendError message)], adapter.inner)

/-- One turn of the event loop, until `Shutdown` ends it. -/
def step (isX11 : Bool) (d : Desktop) : DesktopEvent → List Effect × Desktop
  | .command c answers => d.userEvent isX11 c answers
  | .input id event =>
      match d.backend.byWinitId.lookup id with
      | none => ([], d)
      | some windowId =>
          let (events, input) := d.input.handle windowId event
          (events.map .send, { d with input })
  | .native now id event =>
      let (effects, backend) := d.backend.handleWindowEvent isX11 now id event
      (effects, { d with backend })

/-- The desktop after some turns. -/
def run (isX11 : Bool) (events : List DesktopEvent) : Desktop :=
  events.foldl (fun d e => (d.step isX11 e).2) new

end Desktop

end Winit

end Oxrdp
