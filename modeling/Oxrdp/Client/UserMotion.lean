import Mathlib.Data.List.Chain
import Mathlib.Data.List.Forall2
import Mathlib.Data.List.Induction
import Mathlib.Data.Option.Basic
import Oxrdp.Client.Geometry

/-!
# The guest hears of user motion only

`since` reads off a history what matters for one window: where the guest last put it, when
settling ends, and the positions and sizes observed after that.  The tracker's state is
described by it, and three laws follow.  The origin of the host's coordinates does not matter;
what was reported before the settling deadline does not matter; and a position that is sent is
the guest's own, moved by as much as the host window moved since the first observation.

Coordinates saturate at the ends of their type, and a displacement that was cut off there is
not made up for later, so the last law is about histories in which nothing saturates.
-/

namespace Oxrdp

/-! ## What a history says of a window -/

/-- Where the guest last put a window, when settling ends, and what was observed after that. -/
structure Since where
  guest : Int32 × Int32
  deadline : Nat
  seen : List (Int32 × Int32)
  sizes : List (UInt16 × UInt16)
  deriving DecidableEq, Repr

def Since.start (now : Nat) (x y : Int32) : Since :=
  { guest := (x, y), deadline := now + settle, seen := [], sizes := [] }

/-- One more operation on the window. -/
def sinceStep (h : Option Since) : GeometryOp → Option Since
  | .created now _ x y => some (.start now x y)
  | .guestMoved now _ x y => h.map fun _ => .start now x y
  | .forget _ => none
  | .moved now _ x y =>
      h.map fun h => if now < h.deadline then h else { h with seen := h.seen ++ [(x, y)] }
  | .resized now model id width height =>
      h.map fun h =>
        if ¬ GeometrySync.resizable model id ∨ width = 0 ∨ height = 0 ∨ now < h.deadline then h
        else { h with sizes := h.sizes ++ [(width, height)] }

/-- What the history says of a window. -/
def since (ops : List GeometryOp) (id : UInt32) : Option Since :=
  (ops.filter (·.windowId = id)).foldl sinceStep none

/-- What is known of a window since it was created, one call later. -/
theorem since_snoc (ops : List GeometryOp) (op : GeometryOp) (id : UInt32) :
    since (ops ++ [op]) id =
      if id = op.windowId then sinceStep (since ops op.windowId) op else since ops id := by
  unfold since
  by_cases h : id = op.windowId
  · rw [if_pos h, List.filter_append, List.filter_cons_of_pos (by simpa using h.symm),
      List.foldl_append, h]
    rfl
  · rw [if_neg h, List.filter_append, List.filter_cons_of_neg (by simpa using fun h' => h h'.symm),
      List.filter_nil, List.append_nil]

/-! ## Displacements that do not saturate -/

/-- The integer is an `i32`. -/
def InI32 (n : Int) : Prop := -2 ^ 31 ≤ n ∧ n < 2 ^ 31

instance (n : Int) : Decidable (InI32 n) := inferInstanceAs (Decidable (_ ∧ _))

/-- How far a coordinate went from the first observation to the last. -/
def travelled (f : Int32 × Int32 → Int32) (seen : List (Int32 × Int32)) : Int :=
  match seen.head?, seen.getLast? with
  | some first, some last => (f last).toInt - (f first).toInt
  | _, _ => 0

/-- No displacement between two observations saturates, nor does any position sent for one. -/
def Exact (f : Int32 × Int32 → Int32) (guest : Int32 × Int32) (seen : List (Int32 × Int32)) :
    Prop :=
  seen.IsChain (fun p q => InI32 ((f q).toInt - (f p).toInt)) ∧
    ∀ before, before <+: seen → InI32 ((f guest).toInt + travelled f before)

/-- One more observation adds its displacement. -/
theorem travelled_snoc {f : Int32 × Int32 → Int32} {seen : List (Int32 × Int32)}
    {last : Int32 × Int32} (hlast : seen.getLast? = some last) (p : Int32 × Int32) :
    travelled f (seen ++ [p]) = travelled f seen + ((f p).toInt - (f last).toInt) := by
  cases seen with
  | nil => cases hlast
  | cons first rest =>
      simp only [travelled, hlast, List.cons_append, List.head?_cons]
      rw [← List.cons_append, List.getLast?_concat]
      dsimp only
      omega

/-- The first observation of all is no displacement. -/
theorem travelled_first {f : Int32 × Int32 → Int32} {seen : List (Int32 × Int32)}
    (hnone : seen.getLast? = none) (p : Int32 × Int32) :
    travelled f (seen ++ [p]) = travelled f seen := by
  rw [List.getLast?_eq_none_iff.mp hnone]
  exact Int.sub_self _

/-- What is exact stays so without its last position. -/
theorem Exact.init {f : Int32 × Int32 → Int32} {guest p : Int32 × Int32}
    {seen : List (Int32 × Int32)} (h : Exact f guest (seen ++ [p])) : Exact f guest seen := by
  refine ⟨h.1.left_of_append, ?_⟩
  intro before hpre
  exact h.2 before (hpre.trans (List.prefix_append seen [p]))

/-- Unless something saturated, the coordinate is the guest's own, moved as far as the host
window was. -/
def Anchored (f : Int32 × Int32 → Int32) (coordinate : Int32) (guest : Int32 × Int32)
    (seen : List (Int32 × Int32)) : Prop :=
  Exact f guest seen → coordinate.toInt = (f guest).toInt + travelled f seen

section Anchored

variable {f : Int32 × Int32 → Int32} {guest last : Int32 × Int32} {coordinate : Int32}
  {seen : List (Int32 × Int32)}

/-- The first position is the anchor. -/
theorem Anchored.first (h : Anchored f coordinate guest seen) (p : Int32 × Int32)
    (hnone : seen.getLast? = none) : Anchored f coordinate guest (seen ++ [p]) := by
  intro hexact
  rw [travelled_first hnone]
  exact h hexact.init

/-- A position without a difference is no motion. -/
theorem Anchored.still (h : Anchored f coordinate guest seen) (p : Int32 × Int32)
    (hlast : seen.getLast? = some last) (hstill : (f p).saturatingSub (f last) = 0) :
    Anchored f coordinate guest (seen ++ [p]) := by
  intro hexact
  rw [travelled_snoc hlast, Int32.saturatingSub_eq_zero hstill, Int.sub_self, Int.add_zero]
  exact h hexact.init

/-- An observation that does not saturate moves the coordinate by its displacement. -/
theorem Anchored.move (h : Anchored f coordinate guest seen) (p : Int32 × Int32)
    (hlast : seen.getLast? = some last) :
    Anchored f (coordinate.saturatingAdd ((f p).saturatingSub (f last))) guest (seen ++ [p]) := by
  intro hexact
  have hstep : InI32 ((f p).toInt - (f last).toInt) := by
    obtain ⟨-, -, hjoin⟩ := List.isChain_append.mp hexact.1
    exact hjoin last hlast p rfl
  have hdx : ((f p).saturatingSub (f last)).toInt = (f p).toInt - (f last).toInt :=
    Int32.toInt_clamp hstep.1 hstep.2
  have hall := hexact.2 _ (List.prefix_refl _)
  rw [travelled_snoc hlast] at hall ⊢
  rw [Int32.saturatingAdd, hdx, h hexact.init, Int.add_assoc]
  exact Int32.toInt_clamp hall.1 hall.2

end Anchored

/-! ## The state is described by the history -/

/-- The state of a window, from what the history says of it. -/
structure WindowSync.Describes (w : WindowSync) (h : Since) : Prop where
  deadline : w.settlingUntil = h.deadline
  anchor : w.localAnchor = h.seen.getLast?
  size : w.localSize = h.sizes.getLast?
  guestX : Anchored Prod.fst w.guestAnchor.1 h.guest h.seen
  guestY : Anchored Prod.snd w.guestAnchor.2 h.guest h.seen

/-- Both know the window and agree on it, or neither does. -/
def Described : Option WindowSync → Option Since → Prop
  | none, none => True
  | some w, some h => w.Describes h
  | _, _ => False

/-- A window of which something is known is kept. -/
theorem Described.known {w : Option WindowSync} {h : Since} (hd : Described w (some h)) :
    ∃ state, w = some state ∧ state.Describes h := by
  match w, hd with
  | some state, hd => exact ⟨state, rfl, hd⟩

/-- A new window is kept as it was created. -/
theorem WindowSync.describes_start (now : Nat) (x y : Int32) :
    WindowSync.Describes ⟨now + settle, (x, y), none, none⟩ (.start now x y) where
  deadline := rfl
  anchor := rfl
  size := rfl
  guestX := fun _ => (Int.add_zero _).symm
  guestY := fun _ => (Int.add_zero _).symm

/-- A position reported after settling. -/
theorem WindowSync.describes_moved {w : WindowSync} {h : Since} (hd : w.Describes h) {now : Nat}
    (id : UInt32) (x y : Int32) (hnow : ¬ now < w.settlingUntil) :
    ∃ w', (WindowSync.step (some w) (.moved now id x y)).2 = some w' ∧
      w'.Describes { h with seen := h.seen ++ [(x, y)] } := by
  simp only [WindowSync.step, if_neg hnow]
  cases hlast : h.seen.getLast? with
  | none =>
      rw [hd.anchor, hlast]
      exact ⟨_, rfl, hd.deadline, List.getLast?_concat.symm, hd.size, hd.guestX.first (x, y) hlast,
        hd.guestY.first (x, y) hlast⟩
  | some last =>
      obtain ⟨previousX, previousY⟩ := last
      rw [hd.anchor, hlast]
      dsimp only
      split
      · rename_i hstill
        exact ⟨_, rfl, hd.deadline, List.getLast?_concat.symm, hd.size,
          hd.guestX.still (x, y) hlast hstill.1, hd.guestY.still (x, y) hlast hstill.2⟩
      · have hx := hd.guestX.move (x, y) hlast
        have hy := hd.guestY.move (x, y) hlast
        exact ⟨_, rfl, hd.deadline, List.getLast?_concat.symm, hd.size, hx, hy⟩

/-- Every operation on a window keeps its state described. -/
theorem step_described {w : Option WindowSync} {h : Option Since} (hd : Described w h)
    (op : GeometryOp) : Described (WindowSync.step w op).2 (sinceStep h op) := by
  match w, h, hd with
  | none, none, _ =>
      cases op with
      | created now id x y => exact WindowSync.describes_start now x y
      | guestMoved now id x y => trivial
      | forget id => trivial
      | moved now id x y => trivial
      | resized now model id width height => trivial
  | some w, some h, hd =>
      cases op with
      | created now id x y => exact WindowSync.describes_start now x y
      | guestMoved now id x y => exact WindowSync.describes_start now x y
      | forget id => trivial
      | moved now id x y =>
          by_cases hnow : now < w.settlingUntil
          · simp only [WindowSync.step, sinceStep, if_pos hnow, Option.map_some,
              if_pos (hd.deadline ▸ hnow)]
            exact hd
          · obtain ⟨w', hw', hd'⟩ := WindowSync.describes_moved hd id x y hnow
            rw [hw']
            simp only [sinceStep, Option.map_some, if_neg (hd.deadline ▸ hnow)]
            exact hd'
      | resized now model id width height =>
          simp only [WindowSync.step, sinceStep, Option.map_some, hd.deadline]
          split
          · exact hd
          · exact ⟨rfl, hd.anchor, List.getLast?_concat.symm, hd.guestX, hd.guestY⟩

namespace GeometrySync

/-- The tracker's state is described by the history, for every window. -/
def Follows (s : GeometrySync) (ops : List GeometryOp) : Prop :=
  ∀ id, Described (s.windows.lookup id) (since ops id)

/-- **Each call** keeps what is known and what is kept together. -/
theorem step_follows {s : GeometrySync} {ops : List GeometryOp} (h : s.Follows ops)
    (op : GeometryOp) : (s.step op).2.Follows (ops ++ [op]) := by
  intro id
  rw [(s.step_window op).2 id, since_snoc]
  by_cases hid : id = op.windowId
  · rw [if_pos hid, if_pos hid]
    exact step_described (h op.windowId) op
  · rw [if_neg hid, if_neg hid]
    exact h id

/-- A whole run follows the motions of the user. -/
theorem run_follows (ops : List GeometryOp) : (new.run ops).Follows ops := by
  induction ops using List.reverseRecOn with
  | nil => exact fun _ => trivial
  | append_singleton ops op ih =>
      rw [run, List.foldl_append]
      exact step_follows ih op

end GeometrySync

/-! ## The origin of host coordinates -/

/-- The second position is the first, translated. -/
def ShiftedPos (d : Int × Int) (p q : Int32 × Int32) : Prop :=
  q.1.toInt = p.1.toInt + d.1 ∧ q.2.toInt = p.2.toInt + d.2

/-- The same operation, with a reported host position translated. -/
inductive Shifted (d : Int × Int) : GeometryOp → GeometryOp → Prop
  | moved {now : Nat} {id : UInt32} {x y x' y' : Int32} (h : ShiftedPos d (x, y) (x', y')) :
      Shifted d (.moved now id x y) (.moved now id x' y')
  | other {op : GeometryOp} (h : ∀ now id x y, op ≠ .moved now id x y) : Shifted d op op

/-- The same state, with the observed host position translated. -/
structure ShiftedSync (d : Int × Int) (w w' : WindowSync) : Prop where
  deadline : w'.settlingUntil = w.settlingUntil
  guest : w'.guestAnchor = w.guestAnchor
  size : w'.localSize = w.localSize
  anchor : Option.Rel (ShiftedPos d) w.localAnchor w'.localAnchor

/-- A displacement is the same wherever the origin is. -/
theorem saturatingSub_shifted {d : Int} {a a' b b' : Int32} (ha : a'.toInt = a.toInt + d)
    (hb : b'.toInt = b.toInt + d) : a'.saturatingSub b' = a.saturatingSub b := by
  rw [Int32.saturatingSub, Int32.saturatingSub, ha, hb]
  congr 1
  omega

/-- A translated report gives the same output. -/
theorem moved_shifted {d : Int × Int} {w w' : WindowSync} (hw : ShiftedSync d w w') {now : Nat}
    {id : UInt32} {x y x' y' : Int32} (hpos : ShiftedPos d (x, y) (x', y')) :
    (WindowSync.step (some w) (.moved now id x y)).1 =
        (WindowSync.step (some w') (.moved now id x' y')).1 ∧
      Option.Rel (ShiftedSync d) (WindowSync.step (some w) (.moved now id x y)).2
        (WindowSync.step (some w') (.moved now id x' y')).2 := by
  obtain ⟨deadline, guest, anchor, size⟩ := w
  obtain ⟨deadline', guest', anchor', size'⟩ := w'
  obtain ⟨rfl, rfl, rfl, hanchor⟩ := hw
  simp only [WindowSync.step]
  by_cases hnow : now < deadline'
  · rw [if_pos hnow, if_pos hnow]
    exact ⟨rfl, .some ⟨rfl, rfl, rfl, hanchor⟩⟩
  · rw [if_neg hnow, if_neg hnow]
    cases hanchor with
    | none => exact ⟨rfl, .some ⟨rfl, rfl, rfl, .some hpos⟩⟩
    | some hprevious =>
        dsimp only
        rw [saturatingSub_shifted hpos.1 hprevious.1, saturatingSub_shifted hpos.2 hprevious.2]
        split
        · exact ⟨rfl, .some ⟨rfl, rfl, rfl, .some hpos⟩⟩
        · exact ⟨rfl, .some ⟨rfl, rfl, rfl, .some hpos⟩⟩

/-- The size of a window knows no origin. -/
theorem resized_shifted {d : Int × Int} {w w' : WindowSync} (hw : ShiftedSync d w w') (now : Nat)
    (model : WindowModel) (id : UInt32) (width height : UInt16) :
    (WindowSync.step (some w) (.resized now model id width height)).1 =
        (WindowSync.step (some w') (.resized now model id width height)).1 ∧
      Option.Rel (ShiftedSync d) (WindowSync.step (some w) (.resized now model id width height)).2
        (WindowSync.step (some w') (.resized now model id width height)).2 := by
  obtain ⟨deadline, guest, anchor, size⟩ := w
  obtain ⟨deadline', guest', anchor', size'⟩ := w'
  obtain ⟨rfl, rfl, rfl, hanchor⟩ := hw
  simp only [WindowSync.step]
  split
  · exact ⟨rfl, .some ⟨rfl, rfl, rfl, hanchor⟩⟩
  · exact ⟨rfl, .some ⟨rfl, rfl, rfl, hanchor⟩⟩

/-- A call with shifted positions answers with shifted positions. -/
theorem step_shifted {d : Int × Int} {w w' : Option WindowSync} {op op' : GeometryOp}
    (hw : Option.Rel (ShiftedSync d) w w') (hop : Shifted d op op') :
    (WindowSync.step w op).1 = (WindowSync.step w' op').1 ∧
      Option.Rel (ShiftedSync d) (WindowSync.step w op).2 (WindowSync.step w' op').2 := by
  have hstart : ∀ state : WindowSync, state.localAnchor = none →
      ShiftedSync d state state := by
    intro state hnone
    exact ⟨rfl, rfl, rfl, hnone ▸ .none⟩
  cases hop with
  | moved hpos =>
      cases hw with
      | none => exact ⟨rfl, .none⟩
      | some hw => exact moved_shifted hw hpos
  | other hother =>
      cases op with
      | created now id x y => exact ⟨rfl, .some (hstart _ rfl)⟩
      | guestMoved now id x y =>
          cases hw with
          | none => exact ⟨rfl, .none⟩
          | some hw => exact ⟨rfl, .some (hstart _ rfl)⟩
      | forget id => exact ⟨rfl, .none⟩
      | moved now id x y => exact absurd rfl (hother now id x y)
      | resized now model id width height =>
          cases hw with
          | none => exact ⟨rfl, .none⟩
          | some hw => exact resized_shifted hw now model id width height

/-- A shift is of positions, not of windows. -/
theorem Shifted.windowId_eq {d : Int × Int} {op op' : GeometryOp} (h : Shifted d op op') :
    op'.windowId = op.windowId := by
  cases h with
  | moved hpos => rfl
  | other hother => rfl

namespace GeometrySync

/-- **A run that is shifted** answers with what is shifted. -/
theorem outputs_shifted {d : Int × Int} {ops ops' : List GeometryOp}
    (hops : List.Forall₂ (Shifted d) ops ops') :
    ∀ {s s' : GeometrySync},
      (∀ k, Option.Rel (ShiftedSync d) (s.windows.lookup k) (s'.windows.lookup k)) →
        s.outputs ops = s'.outputs ops' := by
  induction hops with
  | nil =>
      intro s s' _
      rfl
  | @cons op op' rest rest' hop hrest ih =>
      intro s s' hs
      obtain ⟨hout, hstate⟩ := s.step_window op
      obtain ⟨hout', hstate'⟩ := s'.step_window op'
      rw [hop.windowId_eq] at hout' hstate'
      obtain ⟨hsame, hrel⟩ := step_shifted (hs op.windowId) hop
      rw [outputs, outputs, hout, hout', hsame]
      congr 1
      apply ih
      intro k
      rw [hstate, hstate']
      by_cases hk : k = op.windowId
      · rw [if_pos hk, if_pos hk]
        exact hrel
      · rw [if_neg hk, if_neg hk]
        exact hs k

end GeometrySync

/-! ## Reports before the deadline -/

/-- A report that is made before the window has settled. -/
def settling (h : Option Since) : GeometryOp → Bool
  | .moved now _ _ _ => h.any (now < ·.deadline)
  | .resized now _ _ _ _ => h.any (now < ·.deadline)
  | _ => false

def heardFrom (before : List GeometryOp) : List GeometryOp → List GeometryOp
  | [] => []
  | op :: rest =>
      if settling (since before op.windowId) op then heardFrom (before ++ [op]) rest
      else op :: heardFrom (before ++ [op]) rest

/-- The history without the reports that were made before their window had settled. -/
def heard (ops : List GeometryOp) : List GeometryOp := heardFrom [] ops

namespace GeometrySync

/-- Such a report has no output and no effect. -/
theorem step_settling {s : GeometrySync} {op : GeometryOp} {h : Option Since}
    (hd : Described (s.windows.lookup op.windowId) h) (hsettling : settling h op = true) :
    s.step op = (none, s) := by
  cases op with
  | created now id x y => cases hsettling
  | guestMoved now id x y => cases hsettling
  | forget id => cases hsettling
  | moved now id x y =>
      obtain ⟨h, rfl, hnow⟩ := (Option.any_eq_true _ _).mp hsettling
      obtain ⟨w, hw, hdw⟩ := hd.known
      have hlt : now < w.settlingUntil := hdw.deadline ▸ of_decide_eq_true hnow
      simp only [GeometryOp.windowId] at hw
      simp only [step, moved, hw, if_pos hlt]
      rfl
  | resized now model id width height =>
      obtain ⟨h, rfl, hnow⟩ := (Option.any_eq_true _ _).mp hsettling
      obtain ⟨w, hw, hdw⟩ := hd.known
      have hlt : now < w.settlingUntil := hdw.deadline ▸ of_decide_eq_true hnow
      simp only [GeometryOp.windowId] at hw
      simp only [step, resized, hw, if_pos hlt, ite_self]
      rfl

/-- Only the calls that are heard are answered. -/
theorem outputs_heard (rest : List GeometryOp) :
    ∀ {s : GeometrySync} {before : List GeometryOp}, s.Follows before →
      s.sent rest = s.sent (heardFrom before rest) := by
  induction rest with
  | nil =>
      intro s before _
      rfl
  | cons op rest ih =>
      intro s before hs
      have hnext := step_follows hs op
      rw [heardFrom]
      by_cases hsettling : settling (since before op.windowId) op = true
      · rw [if_pos hsettling]
        rw [step_settling (hs op.windowId) hsettling] at hnext
        rw [← ih hnext, sent, outputs, step_settling (hs op.windowId) hsettling]
        rfl
      · rw [if_neg hsettling, sent, sent, outputs, outputs, List.filterMap_cons,
          List.filterMap_cons]
        have htail := ih hnext
        rw [sent, sent] at htail
        rw [htail]

/-- What is sent depends on what is heard. -/
theorem sent_heard (ops : List GeometryOp) : new.sent ops = new.sent (heard ops) :=
  outputs_heard ops fun _ => trivial

end GeometrySync

/-! ## What is sent -/

/-- `(x, y)` is observed for a window that has settled, after `first` was. -/
structure Observed (before : List GeometryOp) (now : Nat) (id : UInt32) (h : Since)
    (first : Int32 × Int32) : Prop where
  known : since before id = some h
  settled : h.deadline ≤ now
  first : h.seen.head? = some first

/-- The way from the first position, one position longer. -/
theorem travelled_from {f : Int32 × Int32 → Int32} {seen : List (Int32 × Int32)}
    {first : Int32 × Int32} (hfirst : seen.head? = some first) (p : Int32 × Int32) :
    travelled f (seen ++ [p]) = (f p).toInt - (f first).toInt := by
  rw [travelled, List.head?_append, hfirst, List.getLast?_concat]
  rfl

/-- A window of which something was seen last is one of which something was seen first. -/
theorem head?_of_getLast? {seen : List (Int32 × Int32)} {last : Int32 × Int32}
    (h : seen.getLast? = some last) : ∃ first, seen.head? = some first := by
  cases seen with
  | nil => cases h
  | cons first rest => exact ⟨first, rfl⟩

/-- When a window's report is answered with a position. -/
theorem WindowSync.move_sent {w : WindowSync} {h : Since} (hd : w.Describes h) {now : Nat}
    {id k : UInt32} {x y tx ty : Int32}
    (hout : (WindowSync.step (some w) (.moved now id x y)).1 = some (.move k tx ty)) :
    k = id ∧ h.deadline ≤ now ∧ (∃ last, h.seen.getLast? = some last) ∧
      Anchored Prod.fst tx h.guest (h.seen ++ [(x, y)]) ∧
      Anchored Prod.snd ty h.guest (h.seen ++ [(x, y)]) := by
  simp only [WindowSync.step, hd.anchor] at hout
  by_cases hnow : now < w.settlingUntil
  · rw [if_pos hnow] at hout
    cases hout
  · rw [if_neg hnow] at hout
    cases hlast : h.seen.getLast? with
    | none =>
        rw [hlast] at hout
        cases hout
    | some last =>
        obtain ⟨previousX, previousY⟩ := last
        have hx := hd.guestX.move (x, y) hlast
        have hy := hd.guestY.move (x, y) hlast
        rw [hlast] at hout
        dsimp only at hout
        split at hout
        · cases hout
        · cases hout
          exact ⟨rfl, hd.deadline ▸ Nat.le_of_not_lt hnow, ⟨_, rfl⟩, hx, hy⟩

/-- When a window's report is answered with a size. -/
theorem WindowSync.resize_sent {w : WindowSync} {h : Since} (hd : w.Describes h) {now : Nat}
    {model : WindowModel} {id k : UInt32} {width height width' height' : UInt16}
    (hout : (WindowSync.step (some w) (.resized now model id width height)).1 =
      some (.resize k width' height')) :
    k = id ∧ (width', height') = (width, height) ∧ width ≠ 0 ∧ height ≠ 0 ∧
      GeometrySync.resizable model id = true ∧ h.deadline ≤ now ∧
      ∃ base ∈ h.sizes.getLast?, base ≠ (width, height) := by
  simp only [WindowSync.step] at hout
  split at hout
  · cases hout
  · rename_i hguard
    simp only [not_or, not_not, Nat.not_lt] at hguard
    dsimp only at hout
    split at hout
    · cases hout
    · rename_i hnew
      cases hout
      refine ⟨rfl, rfl, hguard.2.1, hguard.2.2.1, hguard.1, hd.deadline ▸ hguard.2.2.2, ?_⟩
      rw [← hd.size]
      cases hsize : w.localSize with
      | none =>
          rw [hsize] at hnew
          exact absurd rfl hnew
      | some base =>
          rw [hsize] at hnew
          exact ⟨base, rfl, by simpa using hnew⟩

namespace GeometrySync

/-- Something is sent for a known window only, and its state is described by the history. -/
theorem step_known {before : List GeometryOp} {op : GeometryOp} {request : GeometryRequest}
    (hout : ((new.run before).step op).1 = some request) :
    ∃ w h, since before op.windowId = some h ∧ w.Describes h ∧
      (WindowSync.step (some w) op).1 = some request := by
  rw [((new.run before).step_window op).1] at hout
  have hd := run_follows before op.windowId
  cases hs : since before op.windowId with
  | some h =>
      rw [hs] at hd
      obtain ⟨w, hw, hdw⟩ := hd.known
      exact ⟨w, h, rfl, hdw, hw ▸ hout⟩
  | none =>
      rw [hs] at hd
      cases hl : (new.run before).windows.lookup op.windowId with
      | some w =>
          rw [hl] at hd
          exact hd.elim
      | none =>
          rw [hl] at hout
          cases op with
          | created now id x y => cases hout
          | guestMoved now id x y => cases hout
          | forget id => cases hout
          | moved now id x y => cases hout
          | resized now model id width height => cases hout

/-- A position is sent for a report of a settled window that was observed before, and it is the
guest's own position moved as far as the host window was since the first observation. -/
theorem move_law {before : List GeometryOp} {op : GeometryOp} {id : UInt32} {tx ty : Int32}
    (hout : ((new.run before).step op).1 = some (.move id tx ty)) :
    ∃ now x y h first, op = .moved now id x y ∧ Observed before now id h first ∧
      (Exact Prod.fst h.guest (h.seen ++ [(x, y)]) →
        tx.toInt = h.guest.1.toInt + (x.toInt - first.1.toInt)) ∧
      (Exact Prod.snd h.guest (h.seen ++ [(x, y)]) →
        ty.toInt = h.guest.2.toInt + (y.toInt - first.2.toInt)) := by
  obtain ⟨w, h, hs, hd, hout⟩ := step_known hout
  cases op with
  | created now k x y => cases hout
  | guestMoved now k x y => cases hout
  | forget k => cases hout
  | moved now k x y =>
      obtain ⟨rfl, hsettled, ⟨last, hlast⟩, hx, hy⟩ := WindowSync.move_sent hd hout
      obtain ⟨first, hfirst⟩ := head?_of_getLast? hlast
      refine ⟨now, x, y, h, first, rfl, ⟨hs, hsettled, hfirst⟩, ?_, ?_⟩
      · intro hexact
        have htarget := hx hexact
        rwa [travelled_from hfirst] at htarget
      · intro hexact
        have htarget := hy hexact
        rwa [travelled_from hfirst] at htarget
  | resized now model k width height =>
      simp only [WindowSync.step] at hout
      split at hout
      · cases hout
      · dsimp only at hout
        split at hout
        · cases hout
        · cases hout

/-- A size is sent for a report of a settled, resizable window; it is not zero, and differs from
the size observed before. -/
theorem resize_law {before : List GeometryOp} {op : GeometryOp} {id : UInt32}
    {width height : UInt16} (hout : ((new.run before).step op).1 = some (.resize id width height)) :
    ∃ now model h base, op = .resized now model id width height ∧ width ≠ 0 ∧ height ≠ 0 ∧
      resizable model id = true ∧ since before id = some h ∧ h.deadline ≤ now ∧
      h.sizes.getLast? = some base ∧ base ≠ (width, height) := by
  obtain ⟨w, h, hs, hd, hout⟩ := step_known hout
  cases op with
  | created now k x y => cases hout
  | guestMoved now k x y => cases hout
  | forget k => cases hout
  | moved now k x y =>
      simp only [WindowSync.step] at hout
      split at hout
      · cases hout
      · split at hout
        · cases hout
        · split at hout
          · cases hout
          · cases hout
  | resized now model k width' height' =>
      obtain ⟨rfl, hsize, hwidth, hheight, hres, hsettled, base, hbase, hne⟩ :=
        WindowSync.resize_sent hd hout
      cases hsize
      exact ⟨now, model, h, base, rfl, hwidth, hheight, hres, hs, hsettled, hbase, hne⟩

/-- **Only user motion reaches the guest.**  Translating every reported host position leaves
all outputs unchanged.  Two histories that differ in nothing but reports before the settling
deadline send the same.  A position that is sent is the guest's, plus the difference between
the latest and the first observation after settling, unless a coordinate saturated; a size that
is sent is one of a resizable window, not zero, and differs from a size observed after
settling. -/
theorem user_motion_only :
    (∀ d ops ops', List.Forall₂ (Shifted d) ops ops' → new.outputs ops = new.outputs ops') ∧
    (∀ ops ops', heard ops = heard ops' → new.sent ops = new.sent ops') ∧
    (∀ before op id tx ty, ((new.run before).step op).1 = some (.move id tx ty) →
      ∃ now x y h first, op = .moved now id x y ∧ Observed before now id h first ∧
        (Exact Prod.fst h.guest (h.seen ++ [(x, y)]) →
          tx.toInt = h.guest.1.toInt + (x.toInt - first.1.toInt)) ∧
        (Exact Prod.snd h.guest (h.seen ++ [(x, y)]) →
          ty.toInt = h.guest.2.toInt + (y.toInt - first.2.toInt))) ∧
    (∀ before op id width height,
      ((new.run before).step op).1 = some (.resize id width height) →
      ∃ now model h base, op = .resized now model id width height ∧ width ≠ 0 ∧ height ≠ 0 ∧
        resizable model id = true ∧ since before id = some h ∧ h.deadline ≤ now ∧
        h.sizes.getLast? = some base ∧ base ≠ (width, height)) := by
  refine ⟨?_, ?_, fun _ _ _ _ _ => move_law, fun _ _ _ _ _ => resize_law⟩
  · intro d ops ops' hops
    exact outputs_shifted hops fun _ => .none
  · intro ops ops' hheard
    rw [sent_heard ops, sent_heard ops', hheard]

/-- A window of the guest at (100, 200), placed by the host at (3257, 2262). -/
def placed : List GeometryOp :=
  [.created 0 1 100 200, .moved 100 1 3257 2262, .moved 800000000 1 3257 2262]

/-- The user drags it 40 to the right and 15 up. -/
theorem user_motion_only_drag :
    ((new.run placed).step (.moved 900000000 1 3297 2247)).1 = some (.move 1 140 185) ∧
      ∃ now x y h first, GeometryOp.moved 900000000 1 3297 2247 = .moved now 1 x y ∧
        Observed placed now 1 h first ∧
        (Exact Prod.fst h.guest (h.seen ++ [(x, y)]) →
          (140 : Int32).toInt = h.guest.1.toInt + (x.toInt - first.1.toInt)) ∧
        (Exact Prod.snd h.guest (h.seen ++ [(x, y)]) →
          (185 : Int32).toInt = h.guest.2.toInt + (y.toInt - first.2.toInt)) := by
  have hout : ((new.run placed).step (.moved 900000000 1 3297 2247)).1 =
      some (.move 1 140 185) := by
    decide +kernel
  exact ⟨hout, user_motion_only.2.2.1 _ _ _ _ _ hout⟩

/-- A window at the right end of the guest's coordinates, dragged by 10 and back again. -/
def overshot : List GeometryOp :=
  [.created 0 1 2147483646 0, .moved 800000000 1 0 0, .moved 900000000 1 10 0]

/-- The way out was cut off at `i32::MAX` and the way back was not: the position sent is 9 to
the left of the guest's own, though the host window is where it was first seen. -/
theorem overshoot_not_restored :
    ¬ ∀ before op id tx ty, ((new.run before).step op).1 = some (.move id tx ty) →
      ∃ now x y h first, op = .moved now id x y ∧ Observed before now id h first ∧
        tx.toInt = h.guest.1.toInt + (x.toInt - first.1.toInt) ∧
        ty.toInt = h.guest.2.toInt + (y.toInt - first.2.toInt) := by
  intro hclaim
  have hout : ((new.run overshot).step (.moved 1000000000 1 0 0)).1 =
      some (.move 1 2147483637 0) := by
    decide +kernel
  obtain ⟨now, x, y, h, first, hop, hobserved, hx, -⟩ := hclaim _ _ _ _ _ hout
  cases hop
  have hsince : since overshot 1 = some ⟨(2147483646, 0), settle, [(0, 0), (10, 0)], []⟩ := by
    decide +kernel
  rw [hobserved.known] at hsince
  cases hsince
  have hfirst := hobserved.first
  cases hfirst
  exact absurd hx (by decide)

end GeometrySync

end Oxrdp
