import Oxrdp.Client.Loop

/-!
# Echoes of native moves

`winit_backend.rs`: a native resize or move is reported to the agent, which answers with the
geometry that the window then has.  That answer is an echo and must not move the native
window, so the backend remembers the geometry it has reported, for a short time, and swallows
one `MoveWindow` that carries it.

A remembered geometry must not swallow anything else.  Of a live window it is always the
geometry that the backend holds for the window, because whatever changes the one either
replaces or consumes the other.  Of a destroyed window it stays behind.
-/

namespace Oxrdp

namespace Winit

structure Geometry where
  x : Int32
  y : Int32
  width : UInt16
  height : UInt16
  deriving DecidableEq, Repr

/-- `Geometry::from(&WindowSpec)`. -/
def Geometry.of (spec : WindowSpec) : Geometry := ⟨spec.x, spec.y, spec.width, spec.height⟩

/-! ## The ledger -/

structure PendingGeometry where
  geometry : Geometry
  expiresAt : Nat
  deriving DecidableEq, Repr

structure GeometryEchoLedger where
  entries : Table UInt32 PendingGeometry
  ttl : Nat

/-- `GEOMETRY_ECHO_DEADLINE`, in microseconds. -/
def geometryEchoDeadline : Nat := 750000

namespace GeometryEchoLedger

def record (l : GeometryEchoLedger) (now : Nat) (windowId : UInt32) (geometry : Geometry) :
    GeometryEchoLedger :=
  { l with entries := l.entries.insert windowId ⟨geometry, now + l.ttl⟩ }

/-- Whether this is the geometry that is waited for; it is waited for once. -/
def takeIfEcho (l : GeometryEchoLedger) (now : Nat) (windowId : UInt32) (geometry : Geometry) :
    Bool × GeometryEchoLedger :=
  match l.entries.lookup windowId with
  | none => (false, l)
  | some pending =>
      if pending.expiresAt < now then
        (false, { l with entries := l.entries.erase windowId })
      else
        (pending.geometry = geometry, { l with entries := l.entries.erase windowId })

/-- Whatever the answer is, nothing is waited for any more. -/
theorem takeIfEcho_entries (l : GeometryEchoLedger) (now : Nat) (windowId : UInt32)
    (geometry : Geometry) :
    (l.takeIfEcho now windowId geometry).2.entries = l.entries.erase windowId := by
  unfold takeIfEcho
  cases h : l.entries.lookup windowId with
  | none => exact (Table.erase_of_lookup_none h).symm
  | some pending =>
      dsimp only
      split_ifs
      · rfl
      · rfl

/-- An echo has the geometry that was recorded. -/
theorem of_takeIfEcho {l : GeometryEchoLedger} {now : Nat} {windowId : UInt32}
    {geometry : Geometry} (h : (l.takeIfEcho now windowId geometry).1 = true) :
    ∃ pending, l.entries.lookup windowId = some pending ∧ pending.geometry = geometry := by
  unfold takeIfEcho at h
  cases hl : l.entries.lookup windowId with
  | none =>
      rw [hl] at h
      cases h
  | some pending =>
      rw [hl] at h
      dsimp only at h
      split_ifs at h
      exact ⟨pending, rfl, by simpa using h⟩

end GeometryEchoLedger

/-! ## The backend -/

/-- Of a native window only its identity and what the backend holds as its geometry matter
here. -/
structure WinitWindow where
  winitId : Nat
  geometry : Geometry
  deriving DecidableEq, Repr

structure WinitBackend where
  windows : Table UInt32 WinitWindow
  byWinitId : Table Nat UInt32
  geometryEchoes : GeometryEchoLedger

/-- What the backend tells the session, the presenter and the window system. -/
inductive Effect where
  | send (event : DisplayEvent)
  | attach (windowId width height : UInt32)
  | resizeSurface (windowId width height : UInt32)
  | detach (windowId : UInt32)
  | requestInnerSize (windowId width height : UInt32)
  | setOuterPosition (windowId : UInt32) (x y : Int32)
  deriving DecidableEq, Repr

inductive NativeEvent where
  | resized (width height : UInt32)
  | moved (x y : Int32)
  deriving DecidableEq, Repr

/-- What the window system and the presenter answer while a window is created. -/
structure CreateAnswers where
  /-- The new window and its inner size. -/
  created : Except String (Nat × UInt32 × UInt32)
  attached : Except String Unit

namespace WinitBackend

def new : WinitBackend where
  windows := ∅
  byWinitId := ∅
  geometryEchoes := ⟨∅, geometryEchoDeadline⟩

/-- `u16::try_from(n).unwrap_or(u16::MAX)`. -/
def clampU16 (n : UInt32) : UInt16 := UInt16.ofNat (min n.toNat 65535)

/-- The new geometry of a window, if it is there, and the geometry to wait for. -/
def noteGeometry (b : WinitBackend) (now : Nat) (windowId : UInt32)
    (change : Geometry → Geometry) : WinitBackend :=
  match b.windows.lookup windowId with
  | none => b
  | some entry =>
      { b with
        windows := b.windows.insert windowId { entry with geometry := change entry.geometry }
        geometryEchoes := b.geometryEchoes.record now windowId (change entry.geometry) }

/-- Positions are only known on X11. -/
def handleWindowEvent (b : WinitBackend) (isX11 : Bool) (now : Nat) (id : Nat) :
    NativeEvent → List Effect × WinitBackend
  | .resized width height =>
      match b.byWinitId.lookup id with
      | none => ([], b)
      | some windowId =>
          ([.resizeSurface windowId (clampU16 width).toUInt32 (clampU16 height).toUInt32,
            .send (.resizeRequested windowId (clampU16 width) (clampU16 height))],
            b.noteGeometry now windowId fun g =>
              { g with width := clampU16 width, height := clampU16 height })
  | .moved x y =>
      match b.byWinitId.lookup id with
      | none => ([], b)
      | some windowId =>
          if isX11 then
            ([.send (.moveRequested windowId x y)],
              b.noteGeometry now windowId fun g => { g with x := x, y := y })
          else ([], b)

def createWindow (b : WinitBackend) (answers : CreateAnswers) (remote : WindowSpec) :
    Except String Unit × List Effect × WinitBackend :=
  match b.windows.lookup remote.windowId, answers.created, answers.attached with
  | some _, _, _ => (.ok (), [], b)
  | none, .error e, _ => (.error e, [], b)
  | none, .ok (_, width, height), .error e =>
      (.error e, [.attach remote.windowId width height], b)
  | none, .ok (winitId, width, height), .ok () =>
      (.ok (), [.attach remote.windowId width height],
        { b with
          byWinitId := b.byWinitId.insert winitId remote.windowId
          windows := b.windows.insert remote.windowId ⟨winitId, .of remote⟩ })

/-- The ledger is left as it is. -/
def destroyWindow (b : WinitBackend) (windowId : UInt32) : List Effect × WinitBackend :=
  match b.windows.lookup windowId with
  | none => ([.detach windowId], b)
  | some entry =>
      ([.detach windowId],
        { b with
          windows := b.windows.erase windowId
          byWinitId := b.byWinitId.erase entry.winitId })

/-- Whether a `MoveWindow` is taken for an echo. -/
def swallows (b : WinitBackend) (now : Nat) (remote : WindowSpec) : Bool :=
  (b.geometryEchoes.takeIfEcho now remote.windowId (.of remote)).1

/-- Where the surface cannot be resized, the window keeps the geometry that it had. -/
def moveWindow (b : WinitBackend) (isX11 : Bool) (now : Nat) (resized : Except String Unit)
    (remote : WindowSpec) : Except String Unit × List Effect × WinitBackend :=
  let taken := { b with
    geometryEchoes := (b.geometryEchoes.takeIfEcho now remote.windowId (.of remote)).2 }
  if b.swallows now remote then
    (.ok (), [], taken)
  else
    match b.windows.lookup remote.windowId with
    | none => (.ok (), [], taken)
    | some entry =>
        let resizing : List Effect :=
          [.requestInnerSize remote.windowId remote.width.toUInt32 remote.height.toUInt32,
            .resizeSurface remote.windowId remote.width.toUInt32 remote.height.toUInt32]
        match resized with
        | .error e => (.error e, resizing, taken)
        | .ok () =>
            (.ok (),
              resizing ++
                (if isX11 then [.setOuterPosition remote.windowId remote.x remote.y] else []),
              { taken with
                windows := b.windows.insert remote.windowId
                  { entry with geometry := .of remote } })

end WinitBackend

/-! ## Runs -/

/-- What reaches the event loop, with what the outside answers to it. -/
inductive Event where
  | native (id : Nat) (event : NativeEvent)
  | create (remote : WindowSpec) (answers : CreateAnswers)
  | destroy (windowId : UInt32)
  | move (remote : WindowSpec) (resized : Except String Unit)

/-- An event, and the clock when it is handled. -/
structure Timed where
  now : Nat
  event : Event

namespace WinitBackend

def handle (isX11 : Bool) (b : WinitBackend) (e : Timed) : WinitBackend :=
  match e.event with
  | .native id event => (b.handleWindowEvent isX11 e.now id event).2
  | .create remote answers => (b.createWindow answers remote).2.2
  | .destroy windowId => (b.destroyWindow windowId).2
  | .move remote resized => (b.moveWindow isX11 e.now resized remote).2.2

def run (isX11 : Bool) (events : List Timed) : WinitBackend :=
  events.foldl (handle isX11) new

end WinitBackend

/-- The window that an event destroys. -/
def Timed.destroys (e : Timed) : Option UInt32 :=
  match e.event with
  | .destroy windowId => some windowId
  | _ => none

/-- The window that an event creates. -/
def Timed.creates (e : Timed) : Option UInt32 :=
  match e.event with
  | .create remote _ => some remote.windowId
  | _ => none

/-- No window is created under an id that was destroyed before. -/
def IdsNotReused (events : List Timed) : Prop :=
  events.Pairwise fun e e' => e.destroys = none ∨ e.destroys ≠ e'.creates

instance (events : List Timed) : Decidable (IdsNotReused events) :=
  inferInstanceAs (Decidable (events.Pairwise _))

/-- The window ids of the destroy commands. -/
def destroyed (events : List Timed) : List UInt32 := events.filterMap Timed.destroys

/-! ## What the ledger waits for -/

/-- A geometry that is waited for is that of the window, or of a window that is gone. -/
def Tracked (gone : List UInt32) (b : WinitBackend) : Prop :=
  ∀ id pending, b.geometryEchoes.entries.lookup id = some pending →
    (∃ entry, b.windows.lookup id = some entry ∧ entry.geometry = pending.geometry) ∨
      (b.windows.lookup id = none ∧ id ∈ gone)

namespace Tracked

variable {gone : List UInt32} {b : WinitBackend}

theorem noteGeometry (h : Tracked gone b) (now : Nat) (windowId : UInt32)
    (change : Geometry → Geometry) : Tracked gone (b.noteGeometry now windowId change) := by
  unfold WinitBackend.noteGeometry
  cases hwindow : b.windows.lookup windowId with
  | none => exact h
  | some entry =>
      intro id pending hpending
      rcases Table.of_lookup_insert hpending with ⟨rfl, rfl⟩ | ⟨hne, hold⟩
      · exact .inl ⟨_, AList.lookup_insert _, rfl⟩
      · have hother : (b.windows.insert windowId
            { entry with geometry := change entry.geometry }).lookup id = b.windows.lookup id :=
          AList.lookup_insert_ne hne
        dsimp only
        rw [hother]
        exact h id pending hold

theorem handleWindowEvent (h : Tracked gone b) (isX11 : Bool) (now id : Nat)
    (event : NativeEvent) : Tracked gone (b.handleWindowEvent isX11 now id event).2 := by
  unfold WinitBackend.handleWindowEvent
  cases event with
  | resized width height =>
      cases b.byWinitId.lookup id with
      | none => exact h
      | some windowId => exact h.noteGeometry now windowId _
  | moved x y =>
      cases b.byWinitId.lookup id with
      | none => exact h
      | some windowId =>
          cases isX11 with
          | false => exact h
          | true => exact h.noteGeometry now windowId _

/-- Nothing is waited for under an id that has not been used. -/
theorem createWindow (h : Tracked gone b) (answers : CreateAnswers) {remote : WindowSpec}
    (hfresh : remote.windowId ∉ gone) : Tracked gone (b.createWindow answers remote).2.2 := by
  unfold WinitBackend.createWindow
  cases hwindow : b.windows.lookup remote.windowId with
  | some entry => exact h
  | none =>
      rcases answers.created with e | ⟨winitId, width, height⟩
      · exact h
      · rcases answers.attached with e | _
        · exact h
        · intro id pending hpending
          have hold := h id pending hpending
          by_cases hid : id = remote.windowId
          · subst hid
            rw [hwindow] at hold
            rcases hold with ⟨entry, hnone, -⟩ | ⟨-, hgone⟩
            · cases hnone
            · exact absurd hgone hfresh
          · have hother : (b.windows.insert remote.windowId ⟨winitId, .of remote⟩).lookup id =
                b.windows.lookup id := AList.lookup_insert_ne hid
            dsimp only
            rw [hother]
            exact hold

theorem destroyWindow (h : Tracked gone b) (windowId : UInt32) :
    Tracked (gone ++ [windowId]) (b.destroyWindow windowId).2 := by
  have hkept : Tracked (gone ++ [windowId]) b := by
    intro id pending hpending
    rcases h id pending hpending with hlive | ⟨hnone, hgone⟩
    · exact .inl hlive
    · exact .inr ⟨hnone, List.mem_append_left _ hgone⟩
  unfold WinitBackend.destroyWindow
  cases hwindow : b.windows.lookup windowId with
  | none => exact hkept
  | some entry =>
      intro id pending hpending
      dsimp only at hpending ⊢
      rw [Table.lookup_erase_ite]
      by_cases hid : id = windowId
      · rw [if_pos hid, hid]
        exact .inr ⟨rfl, List.mem_append_right _ (List.mem_singleton_self windowId)⟩
      · rw [if_neg hid]
        exact hkept id pending hpending

/-- What is waited for is consumed before the geometry changes. -/
theorem moveWindow (h : Tracked gone b) (isX11 : Bool) (now : Nat)
    (resized : Except String Unit) (remote : WindowSpec) :
    Tracked gone (b.moveWindow isX11 now resized remote).2.2 := by
  have hentries := b.geometryEchoes.takeIfEcho_entries now remote.windowId (.of remote)
  have htaken : Tracked gone { b with
      geometryEchoes := (b.geometryEchoes.takeIfEcho now remote.windowId (.of remote)).2 } := by
    intro id pending hpending
    dsimp only at hpending ⊢
    rw [hentries] at hpending
    exact h id pending (Table.of_lookup_erase hpending).2
  unfold WinitBackend.moveWindow
  dsimp only
  by_cases hswallow : b.swallows now remote = true
  · rw [if_pos hswallow]
    exact htaken
  · rw [if_neg hswallow]
    cases hwindow : b.windows.lookup remote.windowId with
    | none => exact htaken
    | some entry =>
        rcases resized with e | _
        · exact htaken
        · intro id pending hpending
          dsimp only at hpending ⊢
          have hold := htaken id pending hpending
          rw [hentries] at hpending
          have hne := (Table.of_lookup_erase hpending).1
          rw [AList.lookup_insert_ne hne]
          exact hold

end Tracked

theorem IdsNotReused.fresh {events : List Timed} {e : Timed} (h : IdsNotReused (events ++ [e]))
    {windowId : UInt32} (hcreate : e.creates = some windowId) :
    windowId ∉ destroyed events := by
  intro hmem
  obtain ⟨e', he', hdestroy⟩ := List.mem_filterMap.mp hmem
  have hpair := (List.pairwise_append.mp h).2.2 e' he' e (List.mem_singleton_self e)
  rw [hcreate, hdestroy] at hpair
  simp at hpair

/-- One event keeps the ledger in line with the windows. -/
theorem Tracked.handle {events : List Timed} {e : Timed} {b : WinitBackend} (isX11 : Bool)
    (h : Tracked (destroyed events) b) (hids : IdsNotReused (events ++ [e])) :
    Tracked (destroyed (events ++ [e])) (WinitBackend.handle isX11 b e) := by
  have hsnoc : destroyed (events ++ [e]) = destroyed events ++ destroyed [e] :=
    List.filterMap_append
  have hfresh : ∀ windowId, e.creates = some windowId → windowId ∉ destroyed events :=
    fun _ => hids.fresh
  rw [hsnoc]
  obtain ⟨now, event⟩ := e
  cases event with
  | native id event =>
      rw [show destroyed [⟨now, .native id event⟩] = [] from rfl, List.append_nil]
      exact h.handleWindowEvent isX11 now id event
  | create remote answers =>
      rw [show destroyed [⟨now, .create remote answers⟩] = [] from rfl, List.append_nil]
      exact h.createWindow answers (hfresh remote.windowId rfl)
  | destroy windowId => exact h.destroyWindow windowId
  | move remote resized =>
      rw [show destroyed [⟨now, .move remote resized⟩] = [] from rfl, List.append_nil]
      exact h.moveWindow isX11 now resized remote

theorem run_tracked (isX11 : Bool) (events : List Timed) :
    IdsNotReused events → Tracked (destroyed events) (WinitBackend.run isX11 events) := by
  induction events using List.reverseRecOn with
  | nil =>
      intro _ id pending hpending
      cases hpending
  | append_singleton events e ih =>
      intro hids
      unfold WinitBackend.run
      rw [List.foldl_append]
      exact (ih (List.pairwise_append.mp hids).1).handle isX11 hids

/-- In every state of every run in which no window id is created again after it was
destroyed: a `MoveWindow` that is swallowed for a live window asks for the geometry that the
backend holds for it, and a geometry that is waited for on behalf of a live window is the
one that the backend holds for it. -/
theorem echo_suppression {isX11 : Bool} {events : List Timed} (h : IdsNotReused events) :
    (∀ now remote entry,
      (WinitBackend.run isX11 events).windows.lookup remote.windowId = some entry →
      (WinitBackend.run isX11 events).swallows now remote = true →
      entry.geometry = .of remote) ∧
    (∀ id entry pending, (WinitBackend.run isX11 events).windows.lookup id = some entry →
      (WinitBackend.run isX11 events).geometryEchoes.entries.lookup id = some pending →
      pending.geometry = entry.geometry) := by
  have hlive : ∀ id entry pending,
      (WinitBackend.run isX11 events).windows.lookup id = some entry →
      (WinitBackend.run isX11 events).geometryEchoes.entries.lookup id = some pending →
      pending.geometry = entry.geometry := by
    intro id entry pending hwindow hpending
    rcases run_tracked isX11 events h id pending hpending with ⟨entry', hwindow', hsame⟩ | hgone
    · rw [hwindow] at hwindow'
      cases hwindow'
      exact hsame.symm
    · rw [hwindow] at hgone
      cases hgone.1
  refine ⟨fun now remote entry hwindow hswallow => ?_, hlive⟩
  obtain ⟨pending, hpending, hsame⟩ := GeometryEchoLedger.of_takeIfEcho hswallow
  rw [← hlive remote.windowId entry pending hwindow hpending, hsame]

/-- A window that is made wider by the user, and the echo of that. -/
def widened : List Timed :=
  [⟨0, .create ⟨7, "", "", 0, 0, 640, 480, 0, false, false, true, true, false, none⟩
      ⟨.ok (1, 640, 480), .ok ()⟩⟩,
    ⟨10, .native 1 (.resized 800 480)⟩]

def echoOfWidened : WindowSpec :=
  ⟨7, "", "", 0, 0, 800, 480, 0, false, false, true, true, false, none⟩

theorem echo_suppression_widened :
    (WinitBackend.run true widened).swallows 20 echoOfWidened = true ∧
      ((WinitBackend.run true widened).windows.lookup 7).map WinitWindow.geometry =
        some (.of echoOfWidened) ∧
      (∀ id entry pending, (WinitBackend.run true widened).windows.lookup id = some entry →
        (WinitBackend.run true widened).geometryEchoes.entries.lookup id = some pending →
        pending.geometry = entry.geometry) := by
  exact ⟨by decide, by decide, (echo_suppression (by decide)).2⟩

/-- The window is destroyed while the echo is on its way: the echo is swallowed, and there is
no geometry that it could equal. -/
theorem destroyed_window_swallows :
    IdsNotReused (widened ++ [⟨15, .destroy 7⟩]) ∧
      (WinitBackend.run true (widened ++ [⟨15, .destroy 7⟩])).swallows 20 echoOfWidened = true ∧
      ((WinitBackend.run true (widened ++ [⟨15, .destroy 7⟩])).windows.lookup 7).map
        WinitWindow.geometry ≠ some (.of echoOfWidened) := by
  refine ⟨by decide, by decide, by decide⟩

end Winit

end Oxrdp
