import Oxrdp.Lib.Saturating
import Oxrdp.Client.Model

/-!
# Which host geometry is the user's intent

`geometry.rs` of the client.  The host's window manager reports where a native window is and
how large; the guest is told only what the user did.  Reports within a settling time after the
client itself placed the window are dropped, the first report after it is an anchor, and from
then on the guest's position is moved by as much as the host's was.

An operation concerns one window.  `WindowSync.step` is what it does to that window's state,
and `step_window` says that this is all it does.
-/

namespace Oxrdp

/-- How long after a client-caused change local reports are ignored, in nanoseconds. -/
def settle : Nat := 750000000

/-- Per-window geometry state.  The local position and size are the last ones observed after
settling. -/
structure WindowSync where
  settlingUntil : Nat
  guestAnchor : Int32 × Int32
  localAnchor : Option (Int32 × Int32)
  localSize : Option (UInt16 × UInt16)
  deriving DecidableEq, Repr

/-- Decides what a local geometry change should tell the guest. -/
structure GeometrySync where
  windows : Table UInt32 WindowSync

namespace GeometrySync

def new : GeometrySync := { windows := ∅ }

/-- A native window was just created at the guest's position. -/
def created (s : GeometrySync) (now : Nat) (id : UInt32) (x y : Int32) : GeometrySync :=
  { windows := s.windows.insert id
      { settlingUntil := now + settle, guestAnchor := (x, y), localAnchor := none,
        localSize := none } }

/-- The guest moved or resized a window and the client is applying it locally. -/
def guestMoved (s : GeometrySync) (now : Nat) (id : UInt32) (x y : Int32) : GeometrySync :=
  match s.windows.lookup id with
  | none => s
  | some state =>
      { windows := s.windows.insert id
          { state with
            settlingUntil := now + settle, guestAnchor := (x, y), localAnchor := none,
            localSize := none } }

/-- Drops a window's state. -/
def forget (s : GeometrySync) (id : UInt32) : GeometrySync := { windows := s.windows.erase id }

/-- A native window reports a new position: the guest-space position to send, if any. -/
def moved (s : GeometrySync) (now : Nat) (id : UInt32) (x y : Int32) :
    Option (Int32 × Int32) × GeometrySync :=
  match s.windows.lookup id with
  | none => (none, s)
  | some state =>
      if now < state.settlingUntil then
        (none, s)
      else
        let observed := { state with localAnchor := some (x, y) }
        match state.localAnchor with
        | none => (none, { windows := s.windows.insert id observed })
        | some (previousX, previousY) =>
            let dx := x.saturatingSub previousX
            let dy := y.saturatingSub previousY
            if dx = 0 ∧ dy = 0 then
              (none, { windows := s.windows.insert id observed })
            else
              let target :=
                (state.guestAnchor.1.saturatingAdd dx, state.guestAnchor.2.saturatingAdd dy)
              (some target, { windows := s.windows.insert id { observed with guestAnchor := target } })

/-- The model knows the window and the guest lets it be resized. -/
def resizable (model : WindowModel) (id : UInt32) : Bool :=
  (model.windows.lookup id).any (·.resizable)

/-- A native window reports a new size: the size to ask the guest for, if any. -/
def resized (s : GeometrySync) (now : Nat) (model : WindowModel) (id : UInt32)
    (width height : UInt16) : Option (UInt16 × UInt16) × GeometrySync :=
  if ¬ resizable model id then
    (none, s)
  else if width = 0 ∨ height = 0 then
    (none, s)
  else
    match s.windows.lookup id with
    | none => (none, s)
    | some state =>
        if now < state.settlingUntil then
          (none, s)
        else
          let s' : GeometrySync :=
            { windows := s.windows.insert id { state with localSize := some (width, height) } }
          match state.localSize with
          | none => (none, s')
          | some previous =>
              if previous = (width, height) then (none, s') else (some (width, height), s')

end GeometrySync

/-! ## Runs -/

/-- What the tracker is told. -/
inductive GeometryOp where
  | created (now : Nat) (id : UInt32) (x y : Int32)
  | guestMoved (now : Nat) (id : UInt32) (x y : Int32)
  | forget (id : UInt32)
  | moved (now : Nat) (id : UInt32) (x y : Int32)
  | resized (now : Nat) (model : WindowModel) (id : UInt32) (width height : UInt16)

def GeometryOp.windowId : GeometryOp → UInt32
  | .created _ id _ _ => id
  | .guestMoved _ id _ _ => id
  | .forget id => id
  | .moved _ id _ _ => id
  | .resized _ _ id _ _ => id

/-- What the guest is asked for. -/
inductive GeometryRequest where
  | move (id : UInt32) (x y : Int32)
  | resize (id : UInt32) (width height : UInt16)
  deriving DecidableEq, Repr

namespace GeometrySync

def step (s : GeometrySync) : GeometryOp → Option GeometryRequest × GeometrySync
  | .created now id x y => (none, s.created now id x y)
  | .guestMoved now id x y => (none, s.guestMoved now id x y)
  | .forget id => (none, s.forget id)
  | .moved now id x y =>
      let (target, s') := s.moved now id x y
      (target.map fun p => .move id p.1 p.2, s')
  | .resized now model id width height =>
      let (size, s') := s.resized now model id width height
      (size.map fun p => .resize id p.1 p.2, s')

/-- The output for each thing the tracker is told. -/
def outputs (s : GeometrySync) : List GeometryOp → List (Option GeometryRequest)
  | [] => []
  | op :: rest => (s.step op).1 :: outputs (s.step op).2 rest

/-- The requests that are made, in order. -/
def sent (s : GeometrySync) (ops : List GeometryOp) : List GeometryRequest :=
  (s.outputs ops).filterMap id

def run (s : GeometrySync) (ops : List GeometryOp) : GeometrySync :=
  ops.foldl (fun s op => (s.step op).2) s

end GeometrySync

/-! ## One window at a time -/

/-- What an operation does to the state of its own window. -/
def WindowSync.step (w : Option WindowSync) : GeometryOp → Option GeometryRequest × Option WindowSync
  | .created now _ x y => (none, some ⟨now + settle, (x, y), none, none⟩)
  | .guestMoved now _ x y => (none, w.map fun _ => ⟨now + settle, (x, y), none, none⟩)
  | .forget _ => (none, none)
  | .moved now id x y =>
      match w with
      | none => (none, none)
      | some state =>
          if now < state.settlingUntil then (none, some state)
          else
            match state.localAnchor with
            | none => (none, some { state with localAnchor := some (x, y) })
            | some (previousX, previousY) =>
                if x.saturatingSub previousX = 0 ∧ y.saturatingSub previousY = 0 then
                  (none, some { state with localAnchor := some (x, y) })
                else
                  let target := (state.guestAnchor.1.saturatingAdd (x.saturatingSub previousX),
                    state.guestAnchor.2.saturatingAdd (y.saturatingSub previousY))
                  (some (.move id target.1 target.2),
                    some { state with guestAnchor := target, localAnchor := some (x, y) })
  | .resized now model id width height =>
      match w with
      | none => (none, none)
      | some state =>
          if ¬ GeometrySync.resizable model id ∨ width = 0 ∨ height = 0 ∨
              now < state.settlingUntil then
            (none, some state)
          else
            (if state.localSize.all (· = (width, height)) then none
              else some (.resize id width height),
              some { state with localSize := some (width, height) })

/-- Writing one window's state, as far as lookups see it. -/
theorem GeometrySync.lookup_put (s : GeometrySync) (id k : UInt32) (w : WindowSync) :
    (s.windows.insert id w).lookup k = if k = id then some w else s.windows.lookup k :=
  Table.lookup_insert_ite s.windows id k w

/-- A state in which nothing was written. -/
theorem GeometrySync.lookup_same {s : GeometrySync} {id : UInt32} {w : Option WindowSync}
    (h : s.windows.lookup id = w) (k : UInt32) :
    s.windows.lookup k = if k = id then w else s.windows.lookup k := by
  by_cases hk : k = id
  · rw [if_pos hk, hk, h]
  · rw [if_neg hk]

theorem GeometrySync.moved_window (s : GeometrySync) (now : Nat) (id : UInt32) (x y : Int32) :
    (s.step (.moved now id x y)).1 = (WindowSync.step (s.windows.lookup id) (.moved now id x y)).1 ∧
      ∀ k, (s.step (.moved now id x y)).2.windows.lookup k =
        if k = id then (WindowSync.step (s.windows.lookup id) (.moved now id x y)).2
        else s.windows.lookup k := by
  simp only [step, moved, WindowSync.step]
  cases hl : s.windows.lookup id with
  | none => exact ⟨rfl, lookup_same hl⟩
  | some state =>
      dsimp only
      by_cases hsettling : now < state.settlingUntil
      · rw [if_pos hsettling, if_pos hsettling]
        exact ⟨rfl, lookup_same hl⟩
      · rw [if_neg hsettling, if_neg hsettling]
        cases state.localAnchor with
        | none => exact ⟨rfl, fun k => lookup_put s id k _⟩
        | some previous =>
            dsimp only
            split
            · exact ⟨rfl, fun k => lookup_put s id k _⟩
            · exact ⟨rfl, fun k => lookup_put s id k _⟩

theorem GeometrySync.resized_window (s : GeometrySync) (now : Nat) (model : WindowModel)
    (id : UInt32) (width height : UInt16) :
    (s.step (.resized now model id width height)).1 =
        (WindowSync.step (s.windows.lookup id) (.resized now model id width height)).1 ∧
      ∀ k, (s.step (.resized now model id width height)).2.windows.lookup k =
        if k = id then (WindowSync.step (s.windows.lookup id) (.resized now model id width height)).2
        else s.windows.lookup k := by
  simp only [step, resized, WindowSync.step]
  by_cases hfixed : ¬ resizable model id
  · rw [if_pos hfixed]
    cases hl : s.windows.lookup id with
    | none => exact ⟨rfl, lookup_same hl⟩
    | some state =>
        dsimp only
        rw [if_pos (.inl hfixed)]
        exact ⟨rfl, lookup_same hl⟩
  · rw [if_neg hfixed]
    by_cases hzero : width = 0 ∨ height = 0
    · rw [if_pos hzero]
      cases hl : s.windows.lookup id with
      | none => exact ⟨rfl, lookup_same hl⟩
      | some state =>
          dsimp only
          rw [if_pos (by tauto)]
          exact ⟨rfl, lookup_same hl⟩
    · rw [if_neg hzero]
      cases hl : s.windows.lookup id with
      | none => exact ⟨rfl, lookup_same hl⟩
      | some state =>
          dsimp only
          by_cases hsettling : now < state.settlingUntil
          · rw [if_pos hsettling, if_pos (by tauto)]
            exact ⟨rfl, lookup_same hl⟩
          · rw [if_neg hsettling, if_neg (by tauto)]
            cases state.localSize with
            | none => exact ⟨rfl, fun k => lookup_put s id k _⟩
            | some previous =>
                by_cases hsame : previous = (width, height)
                · simp only [hsame, if_true, Option.all_some, decide_true]
                  exact ⟨rfl, fun k => lookup_put s id k _⟩
                · simp only [hsame, if_false, Option.all_some, decide_false]
                  exact ⟨rfl, fun k => lookup_put s id k _⟩

/-- An operation gives its own window's output, and changes nothing else. -/
theorem GeometrySync.step_window (s : GeometrySync) (op : GeometryOp) :
    (s.step op).1 = (WindowSync.step (s.windows.lookup op.windowId) op).1 ∧
      ∀ k, (s.step op).2.windows.lookup k =
        if k = op.windowId then (WindowSync.step (s.windows.lookup op.windowId) op).2
        else s.windows.lookup k := by
  cases op with
  | created now id x y => exact ⟨rfl, fun k => lookup_put s id k _⟩
  | guestMoved now id x y =>
      refine ⟨rfl, ?_⟩
      intro k
      simp only [step, guestMoved, WindowSync.step, GeometryOp.windowId]
      cases hl : s.windows.lookup id with
      | none => exact lookup_same hl k
      | some state => exact lookup_put s id k _
  | forget id => exact ⟨rfl, fun k => Table.lookup_erase_ite s.windows id k⟩
  | moved now id x y => exact moved_window s now id x y
  | resized now model id width height => exact resized_window s now model id width height

end Oxrdp
