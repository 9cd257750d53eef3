import Mathlib.Data.List.Sort
import Oxrdp.Lib.Table

/-!
# The window registry

`registry.rs` of the agent: protocol window ids and video channels for native
windows.  Ids only ever grow; a channel is given back when its window goes and
is handed out again before a new one is taken.

`WellFormed` is what the two maps and the channel pool keep.  `track_spec` and
`retainLive_spec` say what the two operations of the driver do, and are all that
the driver's proofs use.
-/

namespace Oxrdp

/-- A native window handle (`isize`). -/
abbrev Handle := Int64

/-- First channel number available for per-window video. -/
def videoBase : UInt16 := 16

/-- A window that the registry is tracking. -/
structure TrackedWindow where
  windowId : UInt32
  videoChannel : UInt16
  deriving DecidableEq, Repr

/-- What stops the registry: a number space that has run out. -/
inductive Exhausted where
  | windowIds
  | videoChannels
  deriving DecidableEq, Repr

/-- Ids and channels of native windows.  `freeChannels` is a stack, its top
first. -/
structure WindowRegistry where
  handleToWindow : Table Handle TrackedWindow
  idToHandle : Table UInt32 Handle
  nextWindowId : UInt32
  freeChannels : List UInt16
  nextChannel : UInt16

namespace WindowRegistry

/-- An empty registry. -/
def new : WindowRegistry :=
  { handleToWindow := ∅, idToHandle := ∅, nextWindowId := 1, freeChannels := [],
    nextChannel := videoBase }

/-- `checked_add(1)` on the id counter. -/
def takeWindowId (r : WindowRegistry) : Except Exhausted (UInt32 × WindowRegistry) :=
  if r.nextWindowId.toNat + 1 < 2 ^ 32 then
    .ok (r.nextWindowId, { r with nextWindowId := r.nextWindowId + 1 })
  else
    .error .windowIds

/-- A channel that was given back, or else the next one. -/
def takeChannel (r : WindowRegistry) : Except Exhausted (UInt16 × WindowRegistry) :=
  match r.freeChannels with
  | channel :: rest => .ok (channel, { r with freeChannels := rest })
  | [] =>
      if r.nextChannel.toNat + 1 < 2 ^ 16 then
        .ok (r.nextChannel, { r with nextChannel := r.nextChannel + 1 })
      else
        .error .videoChannels

/-- Register a handle if it is new: its tracking info and whether this call
created it. -/
def track (r : WindowRegistry) (handle : Handle) :
    Except Exhausted ((TrackedWindow × Bool) × WindowRegistry) :=
  match r.handleToWindow.lookup handle with
  | some tracked => .ok ((tracked, false), r)
  | none => do
      let (windowId, r) ← r.takeWindowId
      let (videoChannel, r) ← r.takeChannel
      let tracked : TrackedWindow := { windowId, videoChannel }
      pure ((tracked, true),
        { r with
          handleToWindow := r.handleToWindow.insert handle tracked
          idToHandle := r.idToHandle.insert windowId handle })

/-- Stop tracking a handle and give its channel back. -/
def forget (r : WindowRegistry) (handle : Handle) : Option TrackedWindow × WindowRegistry :=
  match r.handleToWindow.lookup handle with
  | none => (none, r)
  | some tracked =>
      (some tracked,
        { r with
          handleToWindow := r.handleToWindow.erase handle
          idToHandle := r.idToHandle.erase tracked.windowId
          freeChannels := tracked.videoChannel :: r.freeChannels })

/-- The loop of `retain_live`: forget the handles one after the other. -/
def forgetAll (r : WindowRegistry) : List Handle → List TrackedWindow × WindowRegistry
  | [] => ([], r)
  | handle :: rest =>
      match r.forget handle with
      | (some tracked, r) =>
          let (removed, r) := r.forgetAll rest
          (tracked :: removed, r)
      | (none, r) => r.forgetAll rest

/-- The id a handle sorts by when it is removed. -/
def sortKey (r : WindowRegistry) (handle : Handle) : UInt32 :=
  (r.handleToWindow.lookup handle).elim 0 TrackedWindow.windowId

/-- Forget every tracked handle that is not live; what disappeared, in the order
of its ids. -/
def retainLive (r : WindowRegistry) (live : List Handle) :
    List TrackedWindow × WindowRegistry :=
  let toRemove := (r.handleToWindow.keys.filter fun h => h ∉ live).insertionSort
    fun a b => r.sortKey a ≤ r.sortKey b
  r.forgetAll toRemove

/-! ## What the registry keeps -/

/-- The two maps are inverse to each other, ids are below the counter, and every
channel below the counter that is in use or free is so once. -/
structure WellFormed (r : WindowRegistry) : Prop where
  id_lt : ∀ h t, r.handleToWindow.lookup h = some t → t.windowId < r.nextWindowId
  back : ∀ h t, r.handleToWindow.lookup h = some t → r.idToHandle.lookup t.windowId = some h
  forth : ∀ id h, r.idToHandle.lookup id = some h →
    ∃ t, r.handleToWindow.lookup h = some t ∧ t.windowId = id
  channel_range : ∀ h t, r.handleToWindow.lookup h = some t →
    videoBase ≤ t.videoChannel ∧ t.videoChannel < r.nextChannel
  channel_inj : ∀ h h' t t', r.handleToWindow.lookup h = some t →
    r.handleToWindow.lookup h' = some t' → t.videoChannel = t'.videoChannel → h = h'
  free_range : ∀ c ∈ r.freeChannels, videoBase ≤ c ∧ c < r.nextChannel
  free_nodup : r.freeChannels.Nodup
  free_unused : ∀ h t, r.handleToWindow.lookup h = some t → t.videoChannel ∉ r.freeChannels
  next_ge : videoBase ≤ r.nextChannel

theorem new_wellFormed : new.WellFormed where
  id_lt := by rintro h t ⟨⟩
  back := by rintro h t ⟨⟩
  forth := by rintro id h ⟨⟩
  channel_range := by rintro h t ⟨⟩
  channel_inj := by rintro h h' t t' ⟨⟩
  free_range := by rintro c ⟨⟩
  free_nodup := List.nodup_nil
  free_unused := by rintro h t ⟨⟩
  next_ge := by decide

/-- Distinct handles have distinct ids. -/
theorem WellFormed.id_inj {r : WindowRegistry} (hr : r.WellFormed) {h h' : Handle}
    {t t' : TrackedWindow} (ht : r.handleToWindow.lookup h = some t)
    (ht' : r.handleToWindow.lookup h' = some t') (hid : t.windowId = t'.windowId) :
    h = h' := by
  have hback := hr.back h t ht
  rw [hid, hr.back h' t' ht'] at hback
  exact (Option.some.inj hback).symm

/-- What `track` does to a handle it did not know. -/
structure Registered (r : WindowRegistry) (handle : Handle) (t : TrackedWindow)
    (r' : WindowRegistry) : Prop where
  fresh : r.handleToWindow.lookup handle = none
  id_eq : t.windowId = r.nextWindowId
  next_eq : r'.nextWindowId.toNat = r.nextWindowId.toNat + 1
  lookup_eq : ∀ h, r'.handleToWindow.lookup h =
    if h = handle then some t else r.handleToWindow.lookup h
  channel_ge : videoBase ≤ t.videoChannel
  channel_new : ∀ h t', r.handleToWindow.lookup h = some t' →
    t'.videoChannel ≠ t.videoChannel
  wf : r'.WellFormed

theorem next_toNat {n : UInt32} (h : n.toNat + 1 < 2 ^ 32) :
    (n + 1).toNat = n.toNat + 1 := by
  rw [UInt32.toNat_add, UInt32.toNat_one]
  exact Nat.mod_eq_of_lt h

/-- A channel comes off the pool, or the counter moves on. -/
theorem takeChannel_cases {r r' : WindowRegistry} {c : UInt16} (h : r.takeChannel = .ok (c, r')) :
    (∃ rest, r.freeChannels = c :: rest ∧ r' = { r with freeChannels := rest }) ∨
      (r.freeChannels = [] ∧ c = r.nextChannel ∧ r.nextChannel.toNat + 1 < 2 ^ 16 ∧
        r' = { r with nextChannel := r.nextChannel + 1 }) := by
  unfold takeChannel at h
  cases hfree : r.freeChannels with
  | cons channel rest =>
      rw [hfree] at h
      cases h
      exact .inl ⟨rest, rfl, rfl⟩
  | nil =>
      rw [hfree] at h
      simp only at h
      split at h
      next hroom =>
        cases h
        exact .inr ⟨rfl, rfl, hroom, rfl⟩
      next => cases h

theorem nextChannel_toNat {n : UInt16} (h : n.toNat + 1 < 2 ^ 16) :
    (n + 1).toNat = n.toNat + 1 := by
  rw [UInt16.toNat_add, UInt16.toNat_one]
  exact Nat.mod_eq_of_lt h

/-- The channel handed out is new to the windows and to the pool. -/
theorem takeChannel_spec {r r' : WindowRegistry} {c : UInt16} (hr : r.WellFormed)
    (h : r.takeChannel = .ok (c, r')) :
    r'.WellFormed ∧ r'.handleToWindow = r.handleToWindow ∧ r'.idToHandle = r.idToHandle ∧
      r'.nextWindowId = r.nextWindowId ∧ videoBase ≤ c ∧ c < r'.nextChannel ∧
      c ∉ r'.freeChannels ∧
      ∀ k t, r.handleToWindow.lookup k = some t → t.videoChannel ≠ c := by
  rcases takeChannel_cases h with ⟨rest, hfree, rfl⟩ | ⟨hfree, rfl, hroom, rfl⟩
  · have hmem : c ∈ r.freeChannels := by simp [hfree]
    have hnodup := hr.free_nodup
    rw [hfree] at hnodup
    have hrest : ∀ x ∈ rest, x ∈ r.freeChannels := fun x hx => by simp [hfree, hx]
    obtain ⟨hge, hlt⟩ := hr.free_range c hmem
    refine ⟨?_, rfl, rfl, rfl, hge, hlt, (List.nodup_cons.mp hnodup).1, ?_⟩
    · exact ⟨hr.id_lt, hr.back, hr.forth, hr.channel_range, hr.channel_inj,
        fun x hx => hr.free_range x (hrest x hx), (List.nodup_cons.mp hnodup).2,
        fun k t hk hx => hr.free_unused k t hk (hrest _ hx), hr.next_ge⟩
    · intro k t hk heq
      subst heq
      exact hr.free_unused k t hk hmem
  · have hlt : r.nextChannel < r.nextChannel + 1 := by
      rw [UInt16.lt_iff_toNat_lt, nextChannel_toNat hroom]
      omega
    refine ⟨?_, rfl, rfl, rfl, hr.next_ge, hlt, by simp [hfree], ?_⟩
    · refine ⟨hr.id_lt, hr.back, hr.forth, ?_, hr.channel_inj, ?_, hr.free_nodup, hr.free_unused,
        UInt16.le_trans hr.next_ge (UInt16.le_of_lt hlt)⟩
      · intro k t hk
        obtain ⟨hge, hold⟩ := hr.channel_range k t hk
        exact ⟨hge, UInt16.lt_trans hold hlt⟩
      · simp [hfree]
    · rintro k t hk heq
      have hold := (hr.channel_range k t hk).2
      rw [heq] at hold
      exact UInt16.lt_irrefl _ hold

/-- Spending an id keeps the registry in order. -/
theorem WellFormed.nextId {r : WindowRegistry} (hr : r.WellFormed)
    (hroom : r.nextWindowId.toNat + 1 < 2 ^ 32) :
    WellFormed { r with nextWindowId := r.nextWindowId + 1 } where
  id_lt := by
    intro h t ht
    have hlt := hr.id_lt h t ht
    rw [UInt32.lt_iff_toNat_lt] at hlt ⊢
    rw [next_toNat hroom]
    omega
  back := hr.back
  forth := hr.forth
  channel_range := hr.channel_range
  channel_inj := hr.channel_inj
  free_range := hr.free_range
  free_nodup := hr.free_nodup
  free_unused := hr.free_unused
  next_ge := hr.next_ge

/-- Entering a window under a spent id and a channel of its own keeps the
registry in order. -/
theorem WellFormed.enter {r : WindowRegistry} (hr : r.WellFormed) {handle : Handle}
    {t : TrackedWindow} (hid : t.windowId < r.nextWindowId)
    (hfresh : ∀ h t', r.handleToWindow.lookup h = some t' → t'.windowId ≠ t.windowId)
    (hnone : r.handleToWindow.lookup handle = none)
    (hrange : videoBase ≤ t.videoChannel ∧ t.videoChannel < r.nextChannel)
    (hfree : t.videoChannel ∉ r.freeChannels)
    (hchan : ∀ h t', r.handleToWindow.lookup h = some t' →
      t'.videoChannel ≠ t.videoChannel) :
    WellFormed { r with
      handleToWindow := r.handleToWindow.insert handle t
      idToHandle := r.idToHandle.insert t.windowId handle } where
  id_lt := by
    intro h t' ht'
    rcases Table.of_lookup_insert ht' with ⟨-, rfl⟩ | ⟨-, ht'⟩
    · exact hid
    · exact hr.id_lt h t' ht'
  back := by
    intro h t' ht'
    simp only [Table.lookup_insert_ite]
    rcases Table.of_lookup_insert ht' with ⟨rfl, rfl⟩ | ⟨-, ht'⟩
    · exact if_pos rfl
    · rw [if_neg (hfresh h t' ht')]
      exact hr.back h t' ht'
  forth := by
    intro id h hid'
    simp only [Table.lookup_insert_ite]
    rcases Table.of_lookup_insert hid' with ⟨rfl, rfl⟩ | ⟨-, hid'⟩
    · exact ⟨t, if_pos rfl, rfl⟩
    · obtain ⟨t', ht', heq⟩ := hr.forth id h hid'
      have hne : h ≠ handle := by
        intro heq
        subst heq
        rw [hnone] at ht'
        cases ht'
      exact ⟨t', by rw [if_neg hne, ht'], heq⟩
  channel_range := by
    intro h t' ht'
    rcases Table.of_lookup_insert ht' with ⟨-, rfl⟩ | ⟨-, ht'⟩
    · exact hrange
    · exact hr.channel_range h t' ht'
  channel_inj := by
    intro h h' t₁ t₂ h₁ h₂ heq
    rcases Table.of_lookup_insert h₁ with ⟨e₁, rfl⟩ | ⟨-, h₁⟩
    · rcases Table.of_lookup_insert h₂ with ⟨e₂, rfl⟩ | ⟨-, h₂⟩
      · rw [e₁, e₂]
      · exact absurd heq.symm (hchan h' t₂ h₂)
    · rcases Table.of_lookup_insert h₂ with ⟨-, rfl⟩ | ⟨-, h₂⟩
      · exact absurd heq (hchan h t₁ h₁)
      · exact hr.channel_inj h h' t₁ t₂ h₁ h₂ heq
  free_range := hr.free_range
  free_nodup := hr.free_nodup
  free_unused := by
    intro h t' ht'
    rcases Table.of_lookup_insert ht' with ⟨-, rfl⟩ | ⟨-, ht'⟩
    · exact hfree
    · exact hr.free_unused h t' ht'
  next_ge := hr.next_ge

/-- A handle is known, or gets the next id and a channel. -/
theorem track_cases {r r' : WindowRegistry} {handle : Handle} {t : TrackedWindow} {isNew : Bool}
    (h : r.track handle = .ok ((t, isNew), r')) :
    (isNew = false ∧ r.handleToWindow.lookup handle = some t ∧ r' = r) ∨
      (isNew = true ∧ r.handleToWindow.lookup handle = none ∧
        r.nextWindowId.toNat + 1 < 2 ^ 32 ∧ t.windowId = r.nextWindowId ∧
        ∃ r₁, takeChannel { r with nextWindowId := r.nextWindowId + 1 } =
            .ok (t.videoChannel, r₁) ∧
          r' = { r₁ with
            handleToWindow := r₁.handleToWindow.insert handle t
            idToHandle := r₁.idToHandle.insert t.windowId handle }) := by
  unfold track at h
  cases hl : r.handleToWindow.lookup handle with
  | some tracked =>
      rw [hl] at h
      cases h
      exact .inl ⟨rfl, rfl, rfl⟩
  | none =>
      rw [hl] at h
      simp only [takeWindowId] at h
      split at h
      next hroom =>
        cases hc : takeChannel { r with nextWindowId := r.nextWindowId + 1 } with
        | error e =>
            simp only [bind, Except.bind, hc] at h
            cases h
        | ok p =>
            obtain ⟨c, r₁⟩ := p
            simp only [bind, Except.bind, hc] at h
            cases h
            exact .inr ⟨rfl, rfl, hroom, rfl, r₁, rfl, rfl⟩
      next => cases h

/-- **Tracking.**  A known handle keeps its id and channel; a new one gets the
next id and a channel that no tracked window uses. -/
theorem track_spec {r r' : WindowRegistry} {handle : Handle} {t : TrackedWindow}
    {isNew : Bool} (hr : r.WellFormed) (h : r.track handle = .ok ((t, isNew), r')) :
    (isNew = false ∧ r.handleToWindow.lookup handle = some t ∧ r' = r) ∨
      (isNew = true ∧ Registered r handle t r') := by
  rcases track_cases h with hknown | ⟨rfl, hl, hroom, hid, r₁, hc, rfl⟩
  · exact .inl hknown
  obtain ⟨hr₁, hmap, hids, hnext, hge, hlt, hfree, hnew⟩ :=
    takeChannel_spec (hr.nextId hroom) hc
  simp only at hmap hids hnext hnew
  have hidlt : t.windowId < r₁.nextWindowId := by
    rw [hid, hnext, UInt32.lt_iff_toNat_lt, next_toNat hroom]
    omega
  have hold : ∀ h t', r₁.handleToWindow.lookup h = some t' → t'.windowId ≠ t.windowId := by
    intro h t' ht' heq
    rw [hmap] at ht'
    have := hr.id_lt h t' ht'
    rw [heq, hid] at this
    exact UInt32.lt_irrefl _ this
  refine .inr ⟨rfl, hl, hid, ?_, ?_, hge, hnew, ?_⟩
  · change r₁.nextWindowId.toNat = _
    rw [hnext, next_toNat hroom]
  · intro h
    simp only [Table.lookup_insert_ite, hmap]
  · exact hr₁.enter hidlt hold (hmap ▸ hl) ⟨hge, hlt⟩ hfree (by rw [hmap]; exact hnew)

/-! ## Forgetting -/

theorem WellFormed.forget {r : WindowRegistry} (hr : r.WellFormed) (handle : Handle) :
    (r.forget handle).2.WellFormed := by
  unfold WindowRegistry.forget
  cases hl : r.handleToWindow.lookup handle with
  | none => exact hr
  | some t =>
      refine ⟨?_, ?_, ?_, ?_, ?_, ?_, ?_, ?_, hr.next_ge⟩
      · intro h t' ht'
        exact hr.id_lt h t' (Table.of_lookup_erase ht').2
      · intro h t' ht'
        obtain ⟨hne, ht'⟩ := Table.of_lookup_erase ht'
        have hid : t'.windowId ≠ t.windowId := fun heq => hne (hr.id_inj ht' hl heq)
        simp only [Table.lookup_erase_ite, if_neg hid]
        exact hr.back h t' ht'
      · intro id h hid
        obtain ⟨hne, hid⟩ := Table.of_lookup_erase hid
        obtain ⟨t', ht', rfl⟩ := hr.forth id h hid
        have hh : h ≠ handle := by
          intro heq
          subst heq
          rw [hl] at ht'
          cases ht'
          exact hne rfl
        exact ⟨t', by rw [Table.lookup_erase_ite, if_neg hh, ht'], rfl⟩
      · intro h t' ht'
        exact hr.channel_range h t' (Table.of_lookup_erase ht').2
      · intro h h' t₁ t₂ h₁ h₂ heq
        exact hr.channel_inj h h' t₁ t₂ (Table.of_lookup_erase h₁).2
          (Table.of_lookup_erase h₂).2 heq
      · intro c hc
        rcases List.mem_cons.mp hc with rfl | hmem
        · exact hr.channel_range handle t hl
        · exact hr.free_range c hmem
      · exact List.nodup_cons.mpr ⟨hr.free_unused handle t hl, hr.free_nodup⟩
      · intro h t' ht' hmem
        obtain ⟨hne, ht'⟩ := Table.of_lookup_erase ht'
        rcases List.mem_cons.mp hmem with heq | hmem
        · exact hne (hr.channel_inj h handle t' t ht' hl heq)
        · exact hr.free_unused h t' ht' hmem

theorem forget_lookup (r : WindowRegistry) (handle h : Handle) :
    (r.forget handle).2.handleToWindow.lookup h =
      if h = handle then none else r.handleToWindow.lookup h := by
  unfold WindowRegistry.forget
  cases hl : r.handleToWindow.lookup handle with
  | none =>
      by_cases hh : h = handle
      · rw [if_pos hh, hh]
        exact hl
      · rw [if_neg hh]
  | some t =>
      change (r.handleToWindow.erase handle).lookup h = _
      rw [Table.lookup_erase_ite]

theorem forget_next (r : WindowRegistry) (handle : Handle) :
    (r.forget handle).2.nextWindowId = r.nextWindowId := by
  unfold WindowRegistry.forget
  split <;> rfl

theorem forget_fst (r : WindowRegistry) (handle : Handle) :
    (r.forget handle).1 = r.handleToWindow.lookup handle := by
  unfold WindowRegistry.forget
  cases r.handleToWindow.lookup handle <;> rfl

/-- Forgetting several handles: what they were tracking comes back in order. -/
theorem forgetAll_spec :
    ∀ {handles : List Handle} {r : WindowRegistry}, r.WellFormed → handles.Nodup →
      (r.forgetAll handles).1 = handles.filterMap r.handleToWindow.lookup ∧
        (r.forgetAll handles).2.WellFormed ∧
        (r.forgetAll handles).2.nextWindowId = r.nextWindowId ∧
        ∀ h, (r.forgetAll handles).2.handleToWindow.lookup h =
          if h ∈ handles then none else r.handleToWindow.lookup h := by
  intro handles
  induction handles with
  | nil =>
      intro r hr _
      exact ⟨rfl, hr, rfl, by simp [forgetAll]⟩
  | cons handle rest ih =>
      intro r hr hnodup
      obtain ⟨hnew, hrest⟩ := List.nodup_cons.mp hnodup
      obtain ⟨hgone, hwf, hnext, hlook⟩ := ih (hr.forget handle) hrest
      have hsame : rest.filterMap (r.forget handle).2.handleToWindow.lookup =
          rest.filterMap r.handleToWindow.lookup := by
        refine List.filterMap_congr ?_
        intro h hh
        have hne : h ≠ handle := fun heq => hnew (heq ▸ hh)
        rw [forget_lookup, if_neg hne]
      rw [forget_next] at hnext
      rw [hsame] at hgone
      have hlook' : ∀ h, ((r.forget handle).2.forgetAll rest).2.handleToWindow.lookup h =
          if h ∈ handle :: rest then none else r.handleToWindow.lookup h := by
        intro h
        rw [hlook, forget_lookup]
        by_cases hh : h = handle
        · simp [hh]
        · simp [hh]
      have hfst := forget_fst r handle
      cases hf : r.forget handle with
      | mk removed r₁ =>
          rw [hf] at hgone hwf hnext hlook' hfst
          simp only at hgone hwf hnext hlook' hfst
          cases removed with
          | none => simp [forgetAll, hf, hgone, hwf, hnext, hlook', ← hfst]
          | some t => simp [forgetAll, hf, hgone, hwf, hnext, hlook', ← hfst]

/-- The handles that are removed, in the order of their ids. -/
theorem retainLive_removes (r : WindowRegistry) (live : List Handle) :
    ∃ handles, r.retainLive live = r.forgetAll handles ∧ handles.Nodup ∧
      handles.Pairwise (fun h h' => r.sortKey h ≤ r.sortKey h') ∧
      ∀ h, h ∈ handles ↔ h ∈ r.handleToWindow ∧ h ∉ live := by
  have hperm := List.perm_insertionSort (fun a b => r.sortKey a ≤ r.sortKey b)
    (r.handleToWindow.keys.filter fun h => h ∉ live)
  refine ⟨_, rfl, hperm.nodup_iff.mpr (r.handleToWindow.keys_nodup.filter _), ?_, fun h => ?_⟩
  · have : Std.Total fun a b => r.sortKey a ≤ r.sortKey b := ⟨fun a b => UInt32.le_total _ _⟩
    have : IsTrans Handle fun a b => r.sortKey a ≤ r.sortKey b :=
      ⟨fun a b c => UInt32.le_trans⟩
    exact List.pairwise_insertionSort _ _
  · rw [hperm.mem_iff, List.mem_filter, ← AList.mem_keys]
    simp

/-- **Reconciling.**  Exactly the tracked handles that are not live are
forgotten, and what they were tracking comes back once, in the order of ids. -/
theorem retainLive_spec {r : WindowRegistry} (hr : r.WellFormed) (live : List Handle) :
    (r.retainLive live).2.WellFormed ∧
      (r.retainLive live).2.nextWindowId = r.nextWindowId ∧
      (∀ h, (r.retainLive live).2.handleToWindow.lookup h =
        if h ∈ live then r.handleToWindow.lookup h else none) ∧
      ((r.retainLive live).1.map TrackedWindow.windowId).Nodup ∧
      ∀ t, t ∈ (r.retainLive live).1 ↔
        ∃ h, h ∉ live ∧ r.handleToWindow.lookup h = some t := by
  obtain ⟨toRemove, hremoved, hnodup, -, hmem⟩ := r.retainLive_removes live
  rw [hremoved]
  obtain ⟨hgone, hwf, hnext, hlook⟩ := forgetAll_spec hr hnodup
  refine ⟨hwf, hnext, ?_, ?_, ?_⟩
  · intro h
    rw [hlook]
    by_cases hlive : h ∈ live
    · rw [if_pos hlive, if_neg fun hrem => ((hmem h).mp hrem).2 hlive]
    · rw [if_neg hlive]
      split
      · rfl
      · rename_i hrem
        exact AList.lookup_eq_none.mpr fun hin => hrem ((hmem h).mpr ⟨hin, hlive⟩)
  · rw [hgone, List.map_filterMap]
    refine hnodup.filterMap ?_
    intro h h' id hid hid'
    obtain ⟨t, ht, rfl⟩ := Option.map_eq_some_iff.mp hid
    obtain ⟨t', ht', heq⟩ := Option.map_eq_some_iff.mp hid'
    exact hr.id_inj ht ht' heq.symm
  · intro t
    rw [hgone, List.mem_filterMap]
    constructor
    · intro h
      obtain ⟨h, hrem, ht⟩ := h
      exact ⟨h, ((hmem h).mp hrem).2, ht⟩
    · intro h
      obtain ⟨h, hlive, ht⟩ := h
      exact ⟨h, (hmem h).mpr ⟨Table.mem_of_lookup ht, hlive⟩, ht⟩

end WindowRegistry

end Oxrdp
