import Oxrdp.Client.Stacking

/-!
# Where a restacked window goes

A window that is restacked leaves its place between those below and those above it, and the
reference window is in one of the two parts.  The index that the code computes before the
removal is right in both, and `moved` says where the window is afterwards.

The window itself is in neither part.  As its own reference it is found at its old place, and
the code puts it one place above that: it changes places with its upper neighbour.
-/

namespace Oxrdp

namespace WindowModel

/-! ## Lists -/

section Lists

variable {α : Type}

/-- Inserting after the first half puts the element between the halves. -/
theorem insertIdx_split (xs ys : List α) (a : α) :
    (xs ++ ys).insertIdx xs.length a = xs ++ a :: ys := by
  induction xs with
  | nil => rfl
  | cons x xs ih => rw [List.cons_append, List.length_cons, List.insertIdx_succ_cons, ih,
      List.cons_append]

/-- Erasing after the first half takes the element out. -/
theorem eraseIdx_split (xs ys : List α) (a : α) : (xs ++ a :: ys).eraseIdx xs.length = xs ++ ys := by
  induction xs with
  | nil => rfl
  | cons x xs ih => rw [List.cons_append, List.length_cons, List.eraseIdx_cons_succ, ih,
      List.cons_append]

/-- An element that is not in the first half is found after it. -/
theorem idxOf?_split [DecidableEq α] {xs : List α} {a : α} (h : a ∉ xs) (ys : List α) :
    (xs ++ a :: ys).idxOf? a = some xs.length := by
  refine List.idxOf?_eq_some_iff.mpr ⟨by simp, by simp, fun i hi heq => ?_⟩
  have hlt : i < xs.length := hi
  rw [List.getElem_append_left hlt] at heq
  exact h (heq ▸ List.getElem_mem hlt)

end Lists

/-! ## The places of a window -/

section Moves

variable {model : WindowModel} {id above : UInt32} {lower upper : List UInt32}

/-- A target that is in range is where the window goes, also when it stays there. -/
theorem onZorder_moved (hknown : id ∈ model.windows) (hstack : model.stack = lower ++ id :: upper)
    (hid : id ∉ lower) {target : Nat}
    (htarget : zorderTarget model.stack lower.length above = some target) :
    (model.onZorder id above).2 = { model with
      stack := (lower ++ upper).insertIdx (min target (lower ++ upper).length) id } := by
  obtain ⟨w, hw⟩ := Table.lookup_of_mem hknown
  have hat : model.stack.idxOf? id = some lower.length := by
    rw [hstack, idxOf?_split hid]
  unfold onZorder
  rw [hw, hat]
  dsimp only
  rw [htarget]
  dsimp only
  split_ifs with hstay
  · subst hstay
    have hsame : (lower ++ upper).insertIdx (min lower.length (lower ++ upper).length) id =
        model.stack := by
      rw [Nat.min_eq_left (by simp), insertIdx_split, hstack]
    rw [hsame]
  · rw [hstack, eraseIdx_split]

/-- A window that is not known is not restacked. -/
theorem onZorder_unknown (h : id ∉ model.windows) : (model.onZorder id above).2 = model := by
  unfold onZorder
  rw [AList.lookup_eq_none.mpr h]

/-- A reference window that is not in the stack. -/
theorem onZorder_stray (hzero : above ≠ 0) (h : above ∉ model.stack) :
    (model.onZorder id above).2 = model := by
  have hnone : model.stack.idxOf? above = none := List.idxOf?_eq_none_iff.mpr h
  unfold onZorder
  split
  next w current hw hat =>
    rw [zorderTarget, if_neg hzero, hnone]
  next => rfl

/-- Where the code finds a reference window above the window. -/
theorem idxOf?_upper {between rest : List UInt32} (hne : above ≠ id) (hlower : above ∉ lower)
    (hbetween : above ∉ between) :
    (lower ++ id :: (between ++ above :: rest)).idxOf? above =
      some (lower.length + 1 + between.length) := by
  have hfree : above ∉ lower ++ id :: between := by
    simp only [List.mem_append, List.mem_cons]
    tauto
  have hsplit : lower ++ id :: (between ++ above :: rest) =
      (lower ++ id :: between) ++ above :: rest := by simp
  rw [hsplit, idxOf?_split hfree, List.length_append, List.length_cons]
  congr 1
  omega

/-- The index computed before the removal is the one behind the reference window after it. -/
theorem zorderTarget_above (hzero : above ≠ 0) (hne : above ≠ id) {below rest : List UInt32}
    (hrest : lower ++ upper = below ++ above :: rest) (hbelow : above ∉ below) :
    zorderTarget (lower ++ id :: upper) lower.length above = some (below.length + 1) := by
  rw [zorderTarget, if_neg hzero]
  rcases List.append_eq_append_iff.mp hrest with ⟨between, rfl, rfl⟩ | ⟨between, rfl, hupper⟩
  · rw [List.mem_append, not_or] at hbelow
    rw [idxOf?_upper hne hbelow.1 hbelow.2]
    dsimp only
    rw [if_pos (by omega), List.length_append]
    congr 1
    omega
  · cases between with
    | nil =>
        cases hupper
        have hat : (below ++ id :: above :: rest).idxOf? above = some (below.length + 1 + 0) :=
          idxOf?_upper hne hbelow List.not_mem_nil
        rw [List.append_nil, hat]
        exact if_pos (Nat.lt_succ_self _)
    | cons b between =>
        cases hupper
        rw [List.append_assoc, List.cons_append, idxOf?_split hbelow]
        dsimp only
        rw [if_neg (by simp)]

/-- **Restacking.**  The window goes right above the reference window; nothing else moves. -/
theorem onZorder_above (hknown : id ∈ model.windows) (hstack : model.stack = lower ++ id :: upper)
    (hid : id ∉ lower) (hzero : above ≠ 0) (hne : above ≠ id) {below rest : List UInt32}
    (hrest : lower ++ upper = below ++ above :: rest) (hbelow : above ∉ below) :
    (model.onZorder id above).2 = { model with stack := below ++ above :: id :: rest } := by
  have htarget := zorderTarget_above hzero hne hrest hbelow
  rw [← hstack] at htarget
  have hsplit : below ++ above :: rest = (below ++ [above]) ++ rest := by simp
  have hlength : below.length + 1 = (below ++ [above]).length := by simp
  rw [onZorder_moved hknown hstack hid htarget, hrest, Nat.min_eq_left (by simp), hsplit, hlength,
    insertIdx_split, List.append_assoc]
  rfl

/-- A window put above nothing goes to the bottom. -/
theorem onZorder_bottom (hknown : id ∈ model.windows) (hstack : model.stack = lower ++ id :: upper)
    (hid : id ∉ lower) :
    (model.onZorder id 0).2 = { model with stack := id :: (lower ++ upper) } := by
  rw [onZorder_moved hknown hstack hid rfl, Nat.zero_min]
  rfl

/-- As its own reference, the window is found where it is. -/
theorem zorderTarget_self (hid : id ∉ lower) (hzero : id ≠ 0) :
    zorderTarget (lower ++ id :: upper) lower.length id = some (lower.length + 1) := by
  rw [zorderTarget, if_neg hzero, idxOf?_split hid]
  exact if_neg (Nat.lt_irrefl _)

/-- At the top it stays there. -/
theorem onZorder_self_top (hknown : id ∈ model.windows) (hstack : model.stack = lower ++ [id])
    (hid : id ∉ lower) (hzero : id ≠ 0) : (model.onZorder id id).2 = model := by
  have htarget : zorderTarget model.stack lower.length id = some (lower.length + 1) :=
    hstack ▸ zorderTarget_self hid hzero
  have hsame : (lower ++ []).insertIdx (min (lower.length + 1) (lower ++ []).length) id =
      model.stack := by
    rw [Nat.min_eq_right (by simp), List.append_nil, List.insertIdx_length_self, hstack]
  rw [onZorder_moved hknown hstack hid htarget, hsame]

/-- Elsewhere it changes places with the one above it. -/
theorem onZorder_self {next : UInt32} (hknown : id ∈ model.windows)
    (hstack : model.stack = lower ++ id :: next :: upper) (hid : id ∉ lower) (hzero : id ≠ 0) :
    (model.onZorder id id).2 = { model with stack := lower ++ next :: id :: upper } := by
  have htarget : zorderTarget model.stack lower.length id = some (lower.length + 1) :=
    hstack ▸ zorderTarget_self hid hzero
  have hsplit : lower ++ next :: upper = (lower ++ [next]) ++ upper := by simp
  have hlength : lower.length + 1 = (lower ++ [next]).length := by simp
  rw [onZorder_moved hknown hstack hid htarget, Nat.min_eq_left (by simp), hsplit, hlength,
    insertIdx_split, List.append_assoc]
  rfl

end Moves

/-! ## What restacking is for -/

/-- What should become of the model when `id` goes above `above`. -/
structure Restacked (model : WindowModel) (id above : UInt32) (after : WindowModel) : Prop where
  directly : id ∈ model.windows → above ∈ model.windows → above ≠ 0 → above ≠ id →
    ∃ lower upper, after.stack = lower ++ above :: id :: upper
  bottom : id ∈ model.windows → above = 0 → after.stack.head? = some id
  others : (after.stack.filter fun s => s != id) = model.stack.filter fun s => s != id
  ignored : id ∉ model.windows ∨ (above ≠ 0 ∧ above ∉ model.windows) ∨ above = id →
    after = model

/-- A window that is its own reference and not yet where the code puts it. -/
def OwnReference (model : WindowModel) (id above : UInt32) : Prop :=
  id ∈ model.windows ∧ above = id ∧
    (above ≠ 0 ∧ model.stack.getLast? ≠ some id ∨ above = 0 ∧ model.stack.head? ≠ some id)

section Reached

variable {model : WindowModel} {id above : UInt32}

/-- The stack holds exactly the known windows. -/
theorem Stacked.mem_stack (h : model.Stacked) : id ∈ model.stack ↔ id ∈ model.windows :=
  (List.Perm.mem_iff h).trans AList.mem_keys.symm

/-- The places of a known window. -/
theorem Stacked.split (h : model.Stacked) (hknown : id ∈ model.windows) :
    ∃ lower upper, model.stack = lower ++ id :: upper ∧ id ∉ lower ∧ id ∉ upper := by
  obtain ⟨lower, upper, hstack⟩ := List.append_of_mem (h.mem_stack.mpr hknown)
  have hnodup := h.nodup
  rw [hstack] at hnodup
  have hmiddle := List.nodup_middle.mp hnodup
  rw [List.nodup_cons, List.mem_append, not_or] at hmiddle
  exact ⟨lower, upper, hstack, hmiddle.1⟩

/-- Nothing is asked where nothing changes. -/
theorem restacked_same (h : id ∉ model.windows ∨ above ≠ 0 ∧ above ∉ model.windows) :
    Restacked model id above model where
  directly hid habove _ _ := by tauto
  bottom hid hzero := by tauto
  others := rfl
  ignored _ := rfl

/-- Above another window that is known. -/
theorem restacked_above (h : model.Stacked) (hid : id ∈ model.windows)
    (habove : above ∈ model.windows) (hzero : above ≠ 0) (hne : above ≠ id) :
    Restacked model id above (model.onZorder id above).2 := by
  obtain ⟨lower, upper, hstack, hlower, hupper⟩ := h.split hid
  have hmem : above ∈ lower ++ upper := by
    have hin := h.mem_stack.mpr habove
    rw [hstack] at hin
    simp only [List.mem_append, List.mem_cons] at hin ⊢
    tauto
  obtain ⟨below, rest, hrest, hbelow⟩ := List.eq_append_cons_of_mem hmem
  rw [onZorder_above hid hstack hlower hzero hne hrest hbelow]
  exact {
    directly := fun _ _ _ _ => ⟨below, rest, rfl⟩
    bottom := fun _ h => absurd h hzero
    others := by
      have hothers : (lower ++ upper).filter (fun s => s != id) =
          (below ++ above :: rest).filter fun s => s != id := by
        rw [hrest]
      simp only [List.filter_append, List.filter_cons] at hothers
      simp only [hstack, List.filter_append, List.filter_cons, hothers, bne_self_eq_false,
        Bool.false_eq_true, if_false]
    ignored := fun h => by tauto }

/-- At the bottom. -/
theorem restacked_bottom (h : model.Stacked) (hid : id ∈ model.windows) :
    Restacked model id 0 (model.onZorder id 0).2 ↔ (id = 0 → model.stack.head? = some id) := by
  obtain ⟨lower, upper, hstack, hlower, hupper⟩ := h.split hid
  rw [onZorder_bottom hid hstack hlower]
  constructor
  · intro hright hzero
    have hsame := congrArg stack (hright.ignored (.inr (.inr hzero.symm)))
    rw [← hsame]
    rfl
  · intro hhead
    exact {
      directly := fun _ _ h => absurd rfl h
      bottom := fun _ _ => rfl
      others := by
        simp [hstack, List.filter_append]
      ignored := by
        intro hcase
        have hzero : id = 0 := by
          rcases hcase with hno | ⟨h, -⟩ | h
          · exact absurd hid hno
          · exact absurd rfl h
          · exact h.symm
        have hfirst := hhead hzero
        rw [hstack] at hfirst
        cases lower with
        | nil =>
            rw [List.nil_append] at hstack ⊢
            rw [← hstack]
        | cons s lower =>
            cases hfirst
            exact absurd List.mem_cons_self hlower }

/-- Above itself. -/
theorem restacked_self (h : model.Stacked) (hid : id ∈ model.windows) (hzero : id ≠ 0) :
    Restacked model id id (model.onZorder id id).2 ↔ model.stack.getLast? = some id := by
  obtain ⟨lower, upper, hstack, hlower, hupper⟩ := h.split hid
  cases upper with
  | nil =>
      rw [onZorder_self_top hid hstack hlower hzero, hstack, List.getLast?_append]
      refine iff_of_true ?_ rfl
      exact {
        directly := fun _ _ _ h => absurd rfl h
        bottom := fun _ h => absurd h hzero
        others := rfl
        ignored := fun _ => rfl }
  | cons next upper =>
      rw [onZorder_self hid hstack hlower hzero]
      refine iff_of_false ?_ ?_
      · intro hright
        have hsame := congrArg stack (hright.ignored (.inr (.inr rfl)))
        rw [hstack, List.append_cancel_left_eq] at hsame
        exact hupper ((List.cons.inj hsame).1 ▸ List.mem_cons_self)
      · intro hlast
        rw [hstack, List.getLast?_append, List.getLast?_cons_cons] at hlast
        cases hend : (next :: upper).getLast? with
        | none => simp at hend
        | some s =>
            rw [hend] at hlast
            cases hlast
            exact hupper (List.mem_of_getLast? hend)

/-- What the code does is right unless the window is its own reference. -/
theorem restacked_iff (h : model.Stacked) :
    Restacked model id above (model.onZorder id above).2 ↔ ¬ OwnReference model id above := by
  by_cases hid : id ∈ model.windows
  · by_cases hzero : above = 0
    · subst hzero
      rw [restacked_bottom h hid]
      simp [OwnReference, hid, eq_comm]
    · by_cases hne : above = id
      · subst hne
        rw [restacked_self h hid hzero]
        simp [OwnReference, hid, hzero]
      · refine iff_of_true ?_ fun hown => hne hown.2.1
        by_cases habove : above ∈ model.windows
        · exact restacked_above h hid habove hzero hne
        · rw [onZorder_stray hzero fun hmem => habove (h.mem_stack.mp hmem)]
          exact restacked_same (.inr ⟨hzero, habove⟩)
  · rw [onZorder_unknown hid]
    exact iff_of_true (restacked_same (.inl hid)) fun hown => hid hown.1

end Reached

/-- **Stacking order.**  In every model that events lead to, restacking does what it should
exactly when the window is not its own reference, or is already where that takes it. -/
theorem restacked_iff_reached (events : List ClientEvent) (id above : UInt32) :
    Restacked (new.applyAll events) id above ((new.applyAll events).onZorder id above).2 ↔
      ¬ OwnReference (new.applyAll events) id above :=
  restacked_iff (applyAll_stacked new_stacked events)

/-- A window of no importance. -/
def plainWindow (id : UInt32) : ClientEvent :=
  .windowOpened
    { windowId := id, videoChannel := 16, pid := 1, appId := "notepad.exe", title := "", x := 0,
      y := 0, width := 800, height := 600, dpi := 96, flags := 0, ownerId := 0 }

/-- The middle one of three windows, restacked above itself, goes above the third. -/
theorem own_reference_moves :
    ((new.applyAll [plainWindow 1, plainWindow 2, plainWindow 3]).onZorder 2 2).2.stack =
        [1, 3, 2] ∧
      ¬ Restacked (new.applyAll [plainWindow 1, plainWindow 2, plainWindow 3]) 2 2
        ((new.applyAll [plainWindow 1, plainWindow 2, plainWindow 3]).onZorder 2 2).2 := by
  have hstack : ((new.applyAll [plainWindow 1, plainWindow 2, plainWindow 3]).onZorder 2 2).2.stack =
      [1, 3, 2] := by
    decide
  refine ⟨hstack, fun h => ?_⟩
  have hsame := congrArg stack (h.ignored (.inr (.inr rfl)))
  rw [hstack] at hsame
  exact absurd hsame (by decide)

end WindowModel

end Oxrdp
