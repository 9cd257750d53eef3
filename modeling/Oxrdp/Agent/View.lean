import Mathlib.Logic.Function.Basic
import Mathlib.Logic.Relation
import Oxrdp.Agent.Driver
import Oxrdp.Lib.Effect
import Oxrdp.Lib.Run

/-!
# The driver, seen from the wire

What matters of a session to its client is what it has been told, which windows
are registered, and what the driver remembers of each: a `View`.  Everything
else (the platform, the writer, the clock) only decides which way the driver
goes.

The driver moves a view in a handful of ways: it brings the client up to date
with one window (`SyncStep`), closes what has gone (`CloseStep`), sends a frame
(`FrameStep`), takes an ack, or answers a ping.  `step_at` says that one turn of
the driver loop is one of these moves, or a tick made of them (`TurnStep`), and
that a turn that fails has told the client a part of what it was on its way to
(`TurnCut`).  All properties of the driver are proved on views from there.
-/

namespace Oxrdp

open Effect Machine

/-- What the client was told, the registered windows, and the driver's memory of
each window. -/
@[ext] structure View where
  told : List Sent
  windows : Handle → Option TrackedWindow
  nextId : Nat
  streams : UInt32 → Option WindowStream

/-- A view, and the encoder behind it. -/
structure Feed (E : Type) where
  view : View
  encoder : E

namespace View

/-- Tell the client something more. -/
def tell (v : View) (sent : List Sent) : View := { v with told := v.told ++ sent }

/-- Change what is remembered of a window. -/
def setStream (v : View) (id : UInt32) (stream : Option WindowStream) : View :=
  { v with streams := Function.update v.streams id stream }

@[simp] theorem tell_told (v : View) (sent : List Sent) :
    (v.tell sent).told = v.told ++ sent := rfl

@[simp] theorem tell_windows (v : View) (sent : List Sent) :
    (v.tell sent).windows = v.windows := rfl

@[simp] theorem tell_nextId (v : View) (sent : List Sent) :
    (v.tell sent).nextId = v.nextId := rfl

@[simp] theorem tell_streams (v : View) (sent : List Sent) :
    (v.tell sent).streams = v.streams := rfl

@[simp] theorem setStream_told (v : View) (id : UInt32) (o : Option WindowStream) :
    (v.setStream id o).told = v.told := rfl

@[simp] theorem setStream_windows (v : View) (id : UInt32) (o : Option WindowStream) :
    (v.setStream id o).windows = v.windows := rfl

@[simp] theorem setStream_nextId (v : View) (id : UInt32) (o : Option WindowStream) :
    (v.setStream id o).nextId = v.nextId := rfl

theorem setStream_streams (v : View) (id : UInt32) (o : Option WindowStream) (k : UInt32) :
    (v.setStream id o).streams k = if k = id then o else v.streams k := by
  simp [setStream, Function.update_apply]

/-- What is remembered of a window once one of them has changed, was `R`-related before. -/
theorem setStream_back {v : View} {id k : UInt32} {st st' sk : WindowStream}
    {R : WindowStream → WindowStream → Prop} (hrefl : ∀ st, R st st)
    (hst : v.streams id = some st) (hR : R st st')
    (hk : (v.setStream id (some st')).streams k = some sk) :
    ∃ st₀, v.streams k = some st₀ ∧ R st₀ sk := by
  rw [setStream_streams] at hk
  split at hk
  · rename_i hid
    cases hk
    exact ⟨st, hid ▸ hst, hR⟩
  · exact ⟨sk, hk, hrefl sk⟩

/-- Remembering what is remembered already changes nothing. -/
theorem setStream_self {v : View} {id : UInt32} {o : Option WindowStream}
    (h : v.streams id = o) : v.setStream id o = v := by
  subst h
  simp [setStream]

/-- A stream that is set twice is set as it was last. -/
theorem setStream_setStream (v : View) (id : UInt32) (o o' : Option WindowStream) :
    (v.setStream id o).setStream id o' = v.setStream id o' := by
  simp [setStream]

/-- What is told in two parts is told. -/
theorem tell_tell (v : View) (a b : List Sent) : (v.tell a).tell b = v.tell (a ++ b) := by
  simp [tell]

/-- Telling nothing is nothing. -/
theorem tell_nil (v : View) : v.tell [] = v := by
  simp [tell]

/-- Telling and setting a stream are independent. -/
theorem setStream_tell (v : View) (id : UInt32) (o : Option WindowStream) (a : List Sent) :
    (v.setStream id o).tell a = (v.tell a).setStream id o := rfl

end View

/-! ## The moves -/

/-- A message on the window channel. -/
def onWindow (m : Message) : Sent := ⟨Channel.window, m⟩

/-- What the client is told of a changed title. -/
def titleMessages (id : UInt32) (st : WindowStream) (w : SourceWindow) : List Sent :=
  if st.title ≠ w.title then [onWindow (.windowTitle { windowId := id, title := w.title })]
  else []

/-- What the client is told of a changed show state or changed flags. -/
def stateMessages (id : UInt32) (st : WindowStream) (w : SourceWindow) : List Sent :=
  if st.showState ≠ showState w ∨ st.flags ≠ windowFlags w then
    [onWindow
      (.windowState { windowId := id, state := showState w, flags := windowFlags w })]
  else []

/-- Whether the client is to be told the bounds of a window it knows. -/
def movesGeometry (st : WindowStream) (w : SourceWindow) : Bool :=
  !w.minimized && (decide (st.geometry ≠ w.geometry) || hasFrameChanged st w)

/-- What the client is told of changed bounds. -/
def geometryMessages (id : UInt32) (st : WindowStream) (w : SourceWindow) : List Sent :=
  if movesGeometry st w then
    [onWindow (.windowGeometry
      { windowId := id, x := w.x, y := w.y, width := w.width, height := w.height })]
  else []

/-- Everything the client is told of a window it knows. -/
def updateMessages (id : UInt32) (st : WindowStream) (w : SourceWindow) : List Sent :=
  titleMessages id st w ++ stateMessages id st w ++ geometryMessages id st w

/-- What the driver remembers of a window once the client is up to date. -/
def updatedStream (st : WindowStream) (w : SourceWindow) : WindowStream :=
  { st with
    title := w.title
    showState := showState w
    flags := windowFlags w
    geometry := if w.minimized then st.geometry else w.geometry
    budget := if movesGeometry st w then st.budget.restart else st.budget
    needsKeyframe := st.needsKeyframe ||
      (movesGeometry st w &&
        decide ((st.geometry.width, st.geometry.height) ≠ (w.width, w.height))) }

/-- Bring the client up to date with one window of the snapshot. -/
inductive SyncStep (cfg : Config) (w : SourceWindow) (v : View) : View → Prop
  | opened (t : TrackedWindow) (hnew : v.windows w.handle = none)
      (hid : t.windowId.toNat = v.nextId) (hge : videoBase ≤ t.videoChannel)
      (hchan : ∀ h t', v.windows h = some t' → t'.videoChannel ≠ t.videoChannel) :
      SyncStep cfg w v
        { told := v.told ++ [onWindow (.windowOpened (openedMessage t w))]
          windows := Function.update v.windows w.handle (some t)
          nextId := v.nextId + 1
          streams := Function.update v.streams t.windowId (some (openedStream cfg t w)) }
  | updated (t : TrackedWindow) (st : WindowStream) (hw : v.windows w.handle = some t)
      (hst : v.streams t.windowId = some st) :
      SyncStep cfg w v
        ((v.tell (updateMessages t.windowId st w)).setStream t.windowId
          (some (updatedStream st w)))
  | skipped (t : TrackedWindow) (hw : v.windows w.handle = some t)
      (hst : v.streams t.windowId = none) : SyncStep cfg w v v

/-- The announcement that a window has gone. -/
def closedMessage (t : TrackedWindow) : Sent :=
  onWindow (.windowClosed { windowId := t.windowId })

/-- The view after the windows `gone` have been closed, the live ones staying
registered. -/
def View.closing (v : View) (live : List Handle) (gone : List TrackedWindow) : View :=
  { v with
    told := v.told ++ gone.map closedMessage
    windows := fun h => if h ∈ live then v.windows h else none
    streams := fun id => if id ∈ gone.map TrackedWindow.windowId then none else v.streams id }

/-- Close every registered window that is not live. -/
def CloseStep (live : List Handle) (v v' : View) : Prop :=
  ∃ gone : List TrackedWindow, (gone.map TrackedWindow.windowId).Nodup ∧
    (∀ t, t ∈ gone ↔ ∃ h, h ∉ live ∧ v.windows h = some t) ∧ v' = v.closing live gone

/-- Send a frame of a window that is not minimized. -/
def FrameStep (id : UInt32) (v v' : View) : Prop :=
  ∃ (f : FrameData) (st : WindowStream) (budget : FrameBudget) (needsKeyframe : Bool),
    f.windowId = id ∧ v.streams id = some st ∧ st.showState ≠ WindowShow.minimized ∧
    st.budget.onCaptured = some (f.frameId, budget) ∧
    v' = (v.tell [⟨st.videoChannel, .frameData f⟩]).setStream id
      (some { st with budget, needsKeyframe })

/-- Send frames of some windows, at most one of each. -/
def FramesStep (v v' : View) : Prop :=
  ∃ ids : List UInt32, ids.Nodup ∧ Chain FrameStep ids v v'

/-- One capture tick: the windows of the snapshot one after the other, then what
has gone, then frames. -/
def TickStep (cfg : Config) (live : List SourceWindow) (v v' : View) : Prop :=
  ∃ v₁ v₂, Chain (SyncStep cfg) live v v₁ ∧
    CloseStep (live.map SourceWindow.handle) v₁ v₂ ∧ FramesStep v₂ v'

/-- Retire acknowledged frames. -/
def View.ack (v : View) (id : UInt32) (frameId : UInt64) : View :=
  v.setStream id ((v.streams id).map fun st =>
    { st with budget := st.budget.onAck frameId })

/-- One turn of the driver loop, as the client can tell it. -/
inductive Turn where
  | tick (live : List SourceWindow)
  | acked (id : UInt32) (frameId : UInt64)
  | pinged
  | quiet
  deriving DecidableEq, Repr

/-- What one turn does to a view. -/
def TurnStep (cfg : Config) : Turn → View → View → Prop
  | .tick live, v, v' => TickStep cfg live v v'
  | .acked id frameId, v, v' => v' = v.ack id frameId
  | .pinged, v, v' => ∃ p, v' = v.tell [⟨Channel.control, .pong p⟩]
  | .quiet, v, v' => v' = v

/-- How far a turn may have come when it fails: the views it was on its way to. -/
inductive TurnCut (cfg : Config) : Turn → View → View → Prop
  | quiet {turn : Turn} {v : View} : TurnCut cfg turn v v
  | syncing {live before : List SourceWindow} {v v' : View} (hpre : before <+: live)
      (hsync : Chain (SyncStep cfg) before v v') : TurnCut cfg (.tick live) v v'
  | closing {live : List SourceWindow} {v v₁ v' : View}
      (hsync : Chain (SyncStep cfg) live v v₁)
      (hclose : CloseStep (live.map SourceWindow.handle) v₁ v') : TurnCut cfg (.tick live) v v'
  | whole {turn : Turn} {v v' : View} (h : TurnStep cfg turn v v') : TurnCut cfg turn v v'

/-- Any single move. -/
inductive Move (cfg : Config) (v : View) : View → Prop
  | sync {v' : View} (w : SourceWindow) (h : SyncStep cfg w v v') : Move cfg v v'
  | close {v' : View} (live : List Handle) (h : CloseStep live v v') : Move cfg v v'
  | frame {v' : View} (id : UInt32) (h : FrameStep id v v') : Move cfg v v'
  | ack (id : UInt32) (frameId : UInt64) : Move cfg v (v.ack id frameId)
  | pong (p : Pong) : Move cfg v (v.tell [⟨Channel.control, .pong p⟩])

end Oxrdp
