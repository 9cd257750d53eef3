import Oxrdp.Client.Model

/-!
# The stacking list and the window map

The client keeps its windows in a map and their stacking order in a list, and every handler
updates the two apart.  `Update` lists what a handler can do to them, and `apply_cases` says
that an event either does one of these and reports it, or reports nothing and does nothing.
The invariant, that the list is a permutation of the map's keys, is then a case analysis over
`Update`, for any sequence of events whatever their ids.
-/

namespace Oxrdp

namespace WindowModel

/-- The model after a sequence of events. -/
def applyAll (model : WindowModel) (events : List ClientEvent) : WindowModel :=
  events.foldl (fun model event => (model.apply event).2) model

/-- What a handler can do to the map and the list. -/
inductive Update (model : WindowModel) : WindowModel → Prop
  | shown (visible : Bool) : Update model { model with cursorVisible := visible }
  | opened {id : UInt32} (w : RemoteWindow) (hnew : model.windows.lookup id = none) :
      Update model { model with
        windows := model.windows.insert id w, stack := model.stack ++ [id] }
  | closed {id : UInt32} {w : RemoteWindow} (hold : model.windows.lookup id = some w) :
      Update model { model with
        windows := model.windows.erase id, stack := model.stack.filter fun s => s != id }
  | amended {id : UInt32} {w : RemoteWindow} (w' : RemoteWindow)
      (hold : model.windows.lookup id = some w) : Update model (model.put id w')
  | restacked {id : UInt32} {current : Nat} (target : Nat)
      (hat : model.stack.idxOf? id = some current) :
      Update model { model with
        stack := (model.stack.eraseIdx current).insertIdx
          (min target (model.stack.eraseIdx current).length) id }

/-- A result that is either silent and without effect, or reports an update. -/
def Honest (model : WindowModel) (result : List ModelChange × WindowModel) : Prop :=
  result.1 = [] ∧ result.2 = model ∨ result.1 ≠ [] ∧ Update model result.2

variable {model : WindowModel}

/-- An event without changes is honest. -/
theorem Honest.silent : model.Honest ([], model) := .inl ⟨rfl, rfl⟩

/-- A change that is reported is honest. -/
theorem Honest.report {change : ModelChange} {model' : WindowModel} (h : Update model model') :
    model.Honest ([change], model') :=
  .inr ⟨by simp, h⟩

/-- A report about the session alone leaves the windows as they are. -/
theorem Honest.pass {change : ModelChange} : model.Honest ([change], model) :=
  .report (.shown model.cursorVisible)

/-- A handler that looks first whether anything changes. -/
theorem Honest.unless {p : Prop} [Decidable p] {change : ModelChange} {model' : WindowModel}
    (h : Update model model') :
    model.Honest (if p then ([], model) else ([change], model')) := by
  split
  · exact .silent
  · exact .report h

/-- A new window is reported. -/
theorem onOpened_honest (m : WindowOpened) : model.Honest (model.onOpened m) := by
  unfold onOpened
  cases hl : model.windows.lookup m.windowId with
  | some w => exact .silent
  | none => exact .report (.opened _ hl)

/-- A closed window is reported. -/
theorem onClosed_honest (id : UInt32) : model.Honest (model.onClosed id) := by
  unfold onClosed
  cases hl : model.windows.lookup id with
  | none => exact .silent
  | some w => exact .report (.closed hl)

/-- A move is reported. -/
theorem onGeometry_honest (m : WindowGeometry) : model.Honest (model.onGeometry m) := by
  unfold onGeometry
  cases hl : model.windows.lookup m.windowId with
  | none => exact .silent
  | some w => exact .unless (.amended _ hl)

/-- A title is reported. -/
theorem onTitle_honest (m : WindowTitle) : model.Honest (model.onTitle m) := by
  unfold onTitle
  cases hl : model.windows.lookup m.windowId with
  | none => exact .silent
  | some w => exact .unless (.amended _ hl)

/-- A show state is reported. -/
theorem onState_honest (m : WindowState) : model.Honest (model.onState m) := by
  unfold onState
  cases hl : model.windows.lookup m.windowId with
  | none => exact .silent
  | some w => exact .unless (.amended _ hl)

/-- An icon is reported. -/
theorem onIcon_honest (m : WindowIcon) : model.Honest (model.onIcon m) := by
  unfold onIcon
  cases hl : model.windows.lookup m.windowId with
  | none => exact .silent
  | some w => exact .report (.amended _ hl)

/-- A new order is reported. -/
theorem onZorder_honest (id above : UInt32) : model.Honest (model.onZorder id above) := by
  unfold onZorder
  cases model.windows.lookup id with
  | none => exact .silent
  | some w =>
      cases hat : model.stack.idxOf? id with
      | none => exact .silent
      | some current =>
          dsimp only
          cases zorderTarget model.stack current above with
          | none => exact .silent
          | some target => exact .unless (.restacked target hat)

/-- An event is silent and without effect, or it reports an update. -/
theorem apply_cases (event : ClientEvent) : model.Honest (model.apply event) := by
  cases event with
  | windowOpened m => exact onOpened_honest m
  | windowClosed m => exact onClosed_honest m.windowId
  | windowGeometry m => exact onGeometry_honest m
  | windowTitle m => exact onTitle_honest m
  | windowState m => exact onState_honest m
  | windowZOrder m => exact onZorder_honest m.windowId m.aboveWindowId
  | windowIcon m => exact onIcon_honest m
  | frame f => exact .pass
  | cursorShape c => exact .pass
  | cursorPosition p => exact .pass
  | cursorVisibility v => exact .report (.shown v.visible)
  | error e => exact .pass
  | closed c => exact .pass

/-! ## The invariant -/

/-- The stacking list holds each key of the map once, and nothing else. -/
def Stacked (model : WindowModel) : Prop := List.Perm model.stack model.windows.keys

/-- A window stands in the stack once. -/
theorem Stacked.nodup (h : model.Stacked) : model.stack.Nodup :=
  h.nodup_iff.mpr model.windows.keys_nodup

/-- An empty model is stacked. -/
theorem new_stacked : new.Stacked := List.Perm.refl []

/-- Taking one entry out and putting it back elsewhere rearranges a list. -/
theorem move_perm {stack : List UInt32} {id : UInt32} {current : Nat} (target : Nat)
    (hat : stack.idxOf? id = some current) :
    List.Perm ((stack.eraseIdx current).insertIdx
      (min target (stack.eraseIdx current).length) id) stack := by
  obtain ⟨hlt, hget, -⟩ := List.idxOf?_eq_some_iff.mp hat
  have hback := List.getElem_cons_eraseIdx_perm hlt
  rw [hget] at hback
  exact (List.perm_insertIdx id _ (Nat.min_le_right _ _)).trans hback

/-- Every update keeps the list a permutation of the keys. -/
theorem Update.stacked {model' : WindowModel} (h : Update model model') (hs : model.Stacked) :
    model'.Stacked := by
  cases h with
  | shown visible => exact hs
  | opened w hnew =>
      rename_i id
      have hfresh : id ∉ model.windows.keys := AList.lookup_eq_none.mp hnew
      rw [Stacked, AList.keys_insert, List.erase_of_not_mem hfresh]
      exact (List.perm_append_singleton id model.stack).trans (hs.cons id)
  | closed hold =>
      rename_i id w
      rw [Stacked, AList.keys_erase, ← hs.nodup.erase_eq_filter]
      exact hs.erase id
  | amended w' hold =>
      rename_i id w
      have hmem : id ∈ model.windows.keys := AList.mem_keys.mp (Table.mem_of_lookup hold)
      rw [Stacked, put, AList.keys_insert]
      exact hs.trans (List.perm_cons_erase hmem)
  | restacked target hat => exact (move_perm target hat).trans hs

/-- **Every event** keeps the stack that of the windows. -/
theorem apply_stacked (hs : model.Stacked) (event : ClientEvent) :
    (model.apply event).2.Stacked := by
  rcases apply_cases event with ⟨-, hsame⟩ | ⟨-, hupdate⟩
  · rw [hsame]
    exact hs
  · exact hupdate.stacked hs

/-- **Every run** keeps the stack that of the windows. -/
theorem applyAll_stacked (hs : model.Stacked) (events : List ClientEvent) :
    (model.applyAll events).Stacked := by
  induction events generalizing model with
  | nil => exact hs
  | cons event rest ih => exact ih (apply_stacked hs event)

/-- **The two containers stay in step.**  After any sequence of events the stacking list is
free of duplicates and a permutation of the keys of the window map, and an event for which
no change is reported leaves the model as it was. -/
theorem stack_matches_windows (events : List ClientEvent) :
    (new.applyAll events).stack.Nodup ∧
      List.Perm (new.applyAll events).stack (new.applyAll events).windows.keys ∧
      ∀ event, ((new.applyAll events).apply event).1 = [] →
        ((new.applyAll events).apply event).2 = new.applyAll events := by
  have hs := applyAll_stacked new_stacked events
  refine ⟨hs.nodup, hs, ?_⟩
  intro event hquiet
  rcases apply_cases event with ⟨-, hsame⟩ | ⟨hloud, -⟩
  · exact hsame
  · exact absurd hquiet hloud

end WindowModel

end Oxrdp
