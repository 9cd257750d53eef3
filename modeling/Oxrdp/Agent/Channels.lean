import Oxrdp.Agent.Registry
import Oxrdp.Lib.Checked

/-!
# Channels over whole runs

Every channel below the registry's counter is in use or free, and stands there once
(`Pooled`).  So none leaks and none is given to two windows, and a new one is taken only while
every other is in use: as many channels are ever taken as there were windows at one time.

`RegistryLog` is a registry with the channels that it has given out, the windows that the calls
leave tracked and the most of these that there were at once.
-/

namespace Oxrdp

namespace WindowRegistry

variable {r r' : WindowRegistry}

/-- Number of tracked windows. -/
def len (r : WindowRegistry) : Nat := r.handleToWindow.size

/-- The channels of the tracked windows. -/
def inUse (r : WindowRegistry) : List UInt16 :=
  r.handleToWindow.entries.map fun e => e.2.videoChannel

/-- How many channels were ever taken from the counter. -/
def taken (r : WindowRegistry) : Nat := r.nextChannel.toNat - videoBase.toNat

/-- The channels in use and the free ones are those below the counter, each once. -/
def Pooled (r : WindowRegistry) : Prop :=
  ((r.inUse ++ r.freeChannels).map UInt16.toNat).Perm (List.range' videoBase.toNat r.taken)

/-- An empty registry has an empty pool. -/
theorem new_pooled : new.Pooled := List.Perm.refl _

/-- The windows and the free channels make up all that was taken. -/
theorem Pooled.len_add (h : r.Pooled) : r.len + r.freeChannels.length = r.taken := by
  have hlen := h.length_eq
  rwa [List.length_map, List.length_append, inUse, List.length_map, List.length_range'] at hlen

/-- No channel is in use twice, nor both in use and free. -/
theorem Pooled.nodup (h : r.Pooled) : (r.inUse ++ r.freeChannels).Nodup :=
  List.Nodup.of_map _ (List.Perm.nodup_iff h |>.mpr List.nodup_range')

/-- The channels in use and the free ones are those handed out so far. -/
theorem Pooled.mem_iff (h : r.Pooled) (hr : r.WellFormed) (c : UInt16) :
    c ∈ r.inUse ++ r.freeChannels ↔ videoBase ≤ c ∧ c < r.nextChannel := by
  have hge : videoBase.toNat ≤ r.nextChannel.toNat := UInt16.le_iff_toNat_le.mp hr.next_ge
  have hmem : c ∈ r.inUse ++ r.freeChannels ↔
      c.toNat ∈ (r.inUse ++ r.freeChannels).map UInt16.toNat := by
    rw [List.mem_map_of_injective fun a b => UInt16.toNat_inj.mp]
  rw [hmem, List.Perm.mem_iff h, List.mem_range'_1, UInt16.le_iff_toNat_le,
    UInt16.lt_iff_toNat_lt, taken]
  omega

/-! ## What the operations keep -/

/-- A window's channel, and those of the others. -/
theorem inUse_perm {handle : Handle} {t : TrackedWindow}
    (h : r.handleToWindow.lookup handle = some t) : r.inUse.Perm
      (t.videoChannel :: (r.handleToWindow.erase handle).entries.map fun e =>
        e.2.videoChannel) := by
  have hperm := (Table.perm_erase h).map fun e => e.2.videoChannel
  rwa [List.map_cons] at hperm

/-- A new window uses its channel. -/
theorem inUse_insert {handle : Handle} {t : TrackedWindow}
    (hnone : r.handleToWindow.lookup handle = none) (ids : Table UInt32 Handle) :
    inUse { r with handleToWindow := r.handleToWindow.insert handle t, idToHandle := ids } =
      t.videoChannel :: r.inUse := by
  unfold inUse
  rw [AList.entries_insert, List.map_cons]
  have hsame := congrArg AList.entries (Table.erase_of_lookup_none hnone)
  change List.kerase handle r.handleToWindow.entries = r.handleToWindow.entries at hsame
  rw [hsame]

/-- What tracking does to the channels: the window is known, or takes a free channel, or takes
the next one because no channel is free. -/
inductive ChannelStep (r r' : WindowRegistry) (c : UInt16) : Prop
  | known (h : c ∈ r.inUse) (hsame : r' = r)
  | reused (h : c ∈ r.freeChannels) (hnext : r'.nextChannel = r.nextChannel)
  | fresh (h : c = r.nextChannel) (hnone : r'.freeChannels = [])
      (hnext : r'.nextChannel.toNat = r.nextChannel.toNat + 1)

/-- `track` takes a channel from the pool, or the next new one. -/
theorem track_channels {handle : Handle} {t : TrackedWindow} {isNew : Bool} (hr : r.WellFormed)
    (hpool : r.Pooled) (h : r.track handle = .ok ((t, isNew), r')) :
    ChannelStep r r' t.videoChannel ∧ r'.Pooled := by
  rcases track_cases h with ⟨-, hknown, rfl⟩ | ⟨-, hnone, -, -, r₁, hc, rfl⟩
  · exact ⟨.known ((inUse_perm hknown).mem_iff.mpr List.mem_cons_self) rfl, hpool⟩
  rcases takeChannel_cases hc with ⟨rest, hfree, rfl⟩ | ⟨hfree, hnext, hroom, rfl⟩
  · refine ⟨.reused (hfree ▸ List.mem_cons_self) rfl, ?_⟩
    unfold Pooled at hpool ⊢
    rw [inUse_insert (by exact hnone)]
    -- the channel moves from the pool to the windows
    have hmove : (t.videoChannel :: r.inUse ++ rest).Perm (r.inUse ++ r.freeChannels) := by
      rw [hfree]
      exact List.perm_middle.symm
    exact (hmove.map _).trans hpool
  · have hone : (r.nextChannel + 1).toNat = r.nextChannel.toNat + 1 := nextChannel_toNat hroom
    have hge : videoBase.toNat ≤ r.nextChannel.toNat := UInt16.le_iff_toNat_le.mp hr.next_ge
    refine ⟨.fresh hnext hfree hone, ?_⟩
    unfold Pooled taken at hpool ⊢
    rw [inUse_insert (by exact hnone)]
    change ((t.videoChannel :: (r.inUse ++ r.freeChannels)).map UInt16.toNat).Perm
      (List.range' videoBase.toNat ((r.nextChannel + 1).toNat - videoBase.toNat))
    have hcount : (r.nextChannel + 1).toNat - videoBase.toNat =
        r.nextChannel.toNat - videoBase.toNat + 1 := by omega
    have hlast : videoBase.toNat + (r.nextChannel.toNat - videoBase.toNat) =
        t.videoChannel.toNat := by
      rw [hnext]
      exact Nat.add_sub_cancel' hge
    rw [hcount, List.range'_1_concat, hlast, List.map_cons]
    exact (hpool.cons _).trans (List.perm_append_singleton _ _).symm

/-- `forget` gives the channel back to the pool. -/
theorem Pooled.forget (hpool : r.Pooled) (handle : Handle) : (r.forget handle).2.Pooled := by
  unfold WindowRegistry.forget
  cases hl : r.handleToWindow.lookup handle with
  | none => exact hpool
  | some t =>
      -- the channel moves from the windows to the pool
      have hmove := ((inUse_perm hl).append_right r.freeChannels).trans List.perm_middle.symm
      exact (hmove.symm.map _).trans hpool

/-- `forget` hands out no new channel. -/
theorem forget_nextChannel (r : WindowRegistry) (handle : Handle) :
    (r.forget handle).2.nextChannel = r.nextChannel := by
  unfold WindowRegistry.forget
  split <;> rfl

/-- `forgetAll` gives every channel back to the pool and hands out none. -/
theorem Pooled.forgetAll (hpool : r.Pooled) (handles : List Handle) :
    (r.forgetAll handles).2.Pooled ∧
      (r.forgetAll handles).2.nextChannel = r.nextChannel := by
  induction handles generalizing r with
  | nil => exact ⟨hpool, rfl⟩
  | cons handle rest ih =>
      obtain ⟨hkept, hnext⟩ := ih (hpool.forget handle)
      rw [forget_nextChannel] at hnext
      unfold WindowRegistry.forgetAll
      cases hforget : r.forget handle with
      | mk removed r₁ =>
          rw [hforget] at hkept hnext
          cases removed with
          | none => exact ⟨hkept, hnext⟩
          | some t => exact ⟨hkept, hnext⟩

/-- `retain_live` gives back the channels of the windows that are gone. -/
theorem Pooled.retainLive (hpool : r.Pooled) (live : List Handle) :
    (r.retainLive live).2.Pooled ∧
      (r.retainLive live).2.nextChannel = r.nextChannel :=
  hpool.forgetAll _

/-- What disappeared comes back in the order of its ids. -/
theorem retainLive_sorted (hr : r.WellFormed) (live : List Handle) :
    (r.retainLive live).1.Pairwise fun t t' => t.windowId < t'.windowId := by
  obtain ⟨handles, hremoved, hnodup, hsorted, -⟩ := r.retainLive_removes live
  rw [hremoved, (forgetAll_spec hr hnodup).1]
  refine (hsorted.and hnodup).filterMap _ ?_
  intro h h' hle t ht t' ht'
  obtain ⟨hkey, hne⟩ := hle
  unfold sortKey at hkey
  rw [ht, ht'] at hkey
  have hkey : t.windowId ≤ t'.windowId := hkey
  exact UInt32.lt_of_le_of_ne hkey fun hid => hne (hr.id_inj ht ht' hid)

/-- The two maps are inverse to each other. -/
theorem WellFormed.inverse (hr : r.WellFormed)
    (id : UInt32) (handle : Handle) : r.idToHandle.lookup id = some handle ↔
      (r.handleToWindow.lookup handle).map TrackedWindow.windowId = some id := by
  constructor
  · intro h
    obtain ⟨t, ht, hid⟩ := hr.forth id handle h
    rw [ht, Option.map_some, hid]
  · intro h
    obtain ⟨t, ht, rfl⟩ := Option.map_eq_some_iff.mp h
    exact hr.back handle t ht

end WindowRegistry

/-! ## Runs -/

/-- A call to the registry. -/
inductive RegistryCall where
  | track (handle : Handle)
  | forget (handle : Handle)
  | retainLive (live : List Handle)
  deriving DecidableEq, Repr

/-- The handles that are tracked after a call, said of the call alone. -/
def RegistryCall.tracks (tracked : Finset Handle) : RegistryCall → Finset Handle
  | .track handle => insert handle tracked
  | .forget handle => tracked.erase handle
  | .retainLive live => tracked.filter (· ∈ live)

/-- A registry, the channels that it has given to windows so far, the handles that the calls
leave tracked, and the most that were tracked at once. -/
structure RegistryLog where
  registry : WindowRegistry
  given : List UInt16
  tracked : Finset Handle
  peak : Nat

namespace RegistryLog

open WindowRegistry (inUse taken track_channels)

variable {l l' : RegistryLog}

def new : RegistryLog := { registry := .new, given := [], tracked := ∅, peak := 0 }

/-- The registry after a call, and what the call leaves tracked. -/
def next (l : RegistryLog) (c : RegistryCall) (registry : WindowRegistry) : RegistryLog :=
  { l with
    registry
    tracked := c.tracks l.tracked
    peak := max l.peak (c.tracks l.tracked).card }

def call (l : RegistryLog) (c : RegistryCall) : Except Exhausted RegistryLog :=
  match c with
  | .track handle =>
      match l.registry.track handle with
      | .error why => .error why
      | .ok ((t, _), r) => .ok ({ l with given := l.given ++ [t.videoChannel] }.next c r)
  | .forget handle => .ok (l.next c (l.registry.forget handle).2)
  | .retainLive live => .ok (l.next c (l.registry.retainLive live).2)

/-- Calls, one after the other, until a number space has run out. -/
def calls (l : RegistryLog) (cs : List RegistryCall) : Except Exhausted RegistryLog :=
  cs.foldlM call l

/-- The handles that a registry tracks, as a set. -/
def Tracks (r : WindowRegistry) (tracked : Finset Handle) : Prop :=
  ∀ handle, handle ∈ tracked ↔ (r.handleToWindow.lookup handle).isSome

/-- There are as many windows as handles. -/
theorem Tracks.card_eq {r : WindowRegistry} {tracked : Finset Handle} (h : Tracks r tracked) :
    tracked.card = r.len := by
  have hkeys : tracked = r.handleToWindow.keys.toFinset := by
    ext handle
    rw [h handle, AList.lookup_isSome, List.mem_toFinset, AList.mem_keys]
  rw [hkeys, List.toFinset_card_of_nodup r.handleToWindow.keys_nodup]
  exact List.length_map _

/-- A table that has the entries of another at the handles that a call leaves. -/
theorem Tracks.restrict {r r' : WindowRegistry} {tracked : Finset Handle} (h : Tracks r tracked)
    (kept : Handle → Prop) [DecidablePred kept]
    (hlook : ∀ handle, r'.handleToWindow.lookup handle =
      if kept handle then r.handleToWindow.lookup handle else none) :
    Tracks r' (tracked.filter kept) := by
  intro handle
  rw [Finset.mem_filter, h handle, hlook]
  split_ifs with hkept
  · exact and_iff_left hkept
  · exact iff_of_false (fun hboth => hkept hboth.2) Bool.false_ne_true

/-- What every call keeps: the registry is in order and tracks what the calls leave tracked,
and the channels below its counter are those that were given out, as many as there were windows
at once. -/
structure Kept (l : RegistryLog) : Prop where
  wf : l.registry.WellFormed
  pooled : l.registry.Pooled
  tracks : Tracks l.registry l.tracked
  peak_eq : l.peak = l.registry.taken
  given_iff : ∀ c, c ∈ l.given ↔ videoBase ≤ c ∧ c < l.registry.nextChannel

/-- An empty registry keeps nothing. -/
theorem new_kept : new.Kept where
  wf := WindowRegistry.new_wellFormed
  pooled := WindowRegistry.new_pooled
  tracks _ := iff_of_false (Finset.notMem_empty _) Bool.false_ne_true
  peak_eq := rfl
  given_iff := by
    intro c
    refine iff_of_false List.not_mem_nil fun h => ?_
    exact UInt16.lt_irrefl _ (UInt16.lt_of_le_of_lt h.1 h.2)

/-- Calls that take no channel do not raise the peak. -/
theorem Kept.settled (h : l.Kept) {c : RegistryCall} {r : WindowRegistry} (hr : r.WellFormed)
    (hpool : r.Pooled) (htracks : Tracks r (c.tracks l.tracked))
    (hnext : r.nextChannel = l.registry.nextChannel) : (l.next c r).Kept where
  wf := hr
  pooled := hpool
  tracks := htracks
  peak_eq := by
    have hsum := hpool.len_add
    have hsame : r.taken = l.registry.taken := by rw [taken, hnext, taken]
    change max l.peak (c.tracks l.tracked).card = r.taken
    rw [h.peak_eq, htracks.card_eq]
    omega
  given_iff := by
    intro c
    change c ∈ l.given ↔ videoBase ≤ c ∧ c < r.nextChannel
    rw [hnext]
    exact h.given_iff c

/-- A channel that was known before is nothing new. -/
theorem Kept.given_old (h : l.Kept) {c : UInt16}
    (hmem : c ∈ l.registry.inUse ++ l.registry.freeChannels) :
    { l with given := l.given ++ [c] }.Kept where
  wf := h.wf
  pooled := h.pooled
  tracks := h.tracks
  peak_eq := h.peak_eq
  given_iff := by
    intro c'
    rw [List.mem_append, h.given_iff, List.mem_singleton]
    refine ⟨fun hc => hc.elim id fun heq => ?_, .inl⟩
    rw [heq]
    exact (h.pooled.mem_iff h.wf c).mp hmem

/-- The handle of a call to `track` is tracked, and nothing else changes. -/
theorem Kept.tracks_track (h : l.Kept) {handle : Handle} {t : TrackedWindow} {isNew : Bool}
    {r : WindowRegistry} (htrack : l.registry.track handle = .ok ((t, isNew), r)) :
    Tracks r (insert handle l.tracked) := by
  intro other
  rw [Finset.mem_insert, h.tracks other]
  rcases WindowRegistry.track_spec h.wf htrack with ⟨-, hknown, rfl⟩ | ⟨-, hnew⟩
  · refine ⟨fun hor => hor.elim (fun heq => ?_) id, .inr⟩
    rw [heq, hknown]
    rfl
  · rw [hnew.lookup_eq]
    split_ifs with heq
    · exact iff_of_true (.inl heq) rfl
    · exact or_iff_right heq

/-- A window takes its own channel, a free one, or where none is free the next one. -/
theorem Kept.track (h : l.Kept) {handle : Handle} {t : TrackedWindow} {isNew : Bool}
    {r : WindowRegistry} (htrack : l.registry.track handle = .ok ((t, isNew), r)) :
    ({ l with given := l.given ++ [t.videoChannel] }.next (.track handle) r).Kept := by
  have hwf : r.WellFormed := by
    rcases WindowRegistry.track_spec h.wf htrack with ⟨-, -, rfl⟩ | ⟨-, hnew⟩
    · exact h.wf
    · exact hnew.wf
  have htracks := h.tracks_track htrack
  obtain ⟨hstep, hpool⟩ := track_channels h.wf h.pooled htrack
  cases hstep with
  | known hmem hsame =>
      subst hsame
      exact (h.given_old (List.mem_append_left _ hmem)).settled hwf hpool htracks rfl
  | reused hmem hnext =>
      exact (h.given_old (List.mem_append_right _ hmem)).settled hwf hpool htracks hnext
  | fresh hchannel hnone hnext =>
      have hsum := hpool.len_add
      have hge : videoBase.toNat ≤ l.registry.nextChannel.toNat :=
        UInt16.le_iff_toNat_le.mp h.wf.next_ge
      refine ⟨hwf, hpool, htracks, ?_, fun c => ?_⟩
      · -- every channel is in use now, and there is one more
        change max l.peak (insert handle l.tracked).card = r.taken
        rw [htracks.card_eq]
        rw [hnone, List.length_nil, Nat.add_zero] at hsum
        have hpeak := h.peak_eq
        unfold taken at hsum hpeak ⊢
        omega
      · change c ∈ l.given ++ [t.videoChannel] ↔ videoBase ≤ c ∧ c < r.nextChannel
        rw [List.mem_append, h.given_iff, List.mem_singleton, hchannel, ← UInt16.toNat_inj,
          UInt16.le_iff_toNat_le, UInt16.lt_iff_toNat_lt, UInt16.lt_iff_toNat_lt]
        omega

/-- Every call keeps it. -/
theorem Kept.call {c : RegistryCall} (h : l.Kept) (hcall : l.call c = .ok l') : l'.Kept := by
  cases c with
  | track handle =>
      unfold RegistryLog.call at hcall
      cases htrack : l.registry.track handle with
      | error why => simp [htrack] at hcall
      | ok result =>
          obtain ⟨⟨t, isNew⟩, r⟩ := result
          simp only [htrack] at hcall
          cases hcall
          exact h.track htrack
  | forget handle =>
      cases hcall
      have htracks : Tracks (l.registry.forget handle).2 (l.tracked.erase handle) := by
        rw [← Finset.filter_ne']
        refine h.tracks.restrict (· ≠ handle) fun other => ?_
        rw [WindowRegistry.forget_lookup, ite_not]
      exact h.settled (h.wf.forget handle) (h.pooled.forget handle) htracks
        (WindowRegistry.forget_nextChannel _ handle)
  | retainLive live =>
      cases hcall
      obtain ⟨hpool, hnext⟩ := h.pooled.retainLive live
      obtain ⟨hwf, -, hlook, -, -⟩ := WindowRegistry.retainLive_spec h.wf live
      exact h.settled hwf hpool (h.tracks.restrict (· ∈ live) hlook) hnext

/-- **Every list of calls** keeps the channels pooled. -/
theorem calls_kept {cs : List RegistryCall} (h : new.calls cs = .ok l) : l.Kept :=
  Checked.foldlM_keep new_kept (fun _ _ _ hkept hcall => hkept.call hcall) h

/-! ## What a registry stands for -/

/-- What the containers and counters of a registry are to each other, and to its past. -/
structure Represented (l : RegistryLog) : Prop where
  /-- The windows are those that the calls leave tracked. -/
  tracked : ∀ handle, handle ∈ l.tracked ↔ (l.registry.handleToWindow.lookup handle).isSome
  /-- The two maps are inverse to each other. -/
  inverse : ∀ id handle, l.registry.idToHandle.lookup id = some handle ↔
    (l.registry.handleToWindow.lookup handle).map TrackedWindow.windowId = some id
  /-- No channel stands anywhere twice. -/
  nodup : (l.registry.inUse ++ l.registry.freeChannels).Nodup
  channels : ∀ c, c ∈ l.registry.inUse ++ l.registry.freeChannels ↔
    videoBase ≤ c ∧ c < l.registry.nextChannel
  /-- As many channels were given to windows as there were windows at once. -/
  given : l.given.dedup.length = l.peak
  taken : l.registry.taken = l.peak
  /-- `retain_live` returns what vanished, in the order of ids. -/
  vanished : ∀ live,
    ((l.registry.retainLive live).1.Pairwise fun t t' => t.windowId < t'.windowId) ∧
      ∀ t, t ∈ (l.registry.retainLive live).1 ↔
        ∃ handle, handle ∉ live ∧ l.registry.handleToWindow.lookup handle = some t
  /-- What remains behind it are the tracked windows among the live ones. -/
  retained : ∀ live handle, (l.registry.retainLive live).2.handleToWindow.lookup handle =
    if handle ∈ live then l.registry.handleToWindow.lookup handle else none

/-- The channels given out are counted by the counter. -/
theorem Kept.given_length (h : l.Kept) : l.given.dedup.length = l.registry.taken := by
  have hperm : l.given.dedup.Perm (l.registry.inUse ++ l.registry.freeChannels) := by
    refine (List.perm_ext_iff_of_nodup l.given.nodup_dedup h.pooled.nodup).mpr fun c => ?_
    rw [List.mem_dedup, h.given_iff, h.pooled.mem_iff h.wf]
  rw [hperm.length_eq, ← h.pooled.len_add, List.length_append, inUse, List.length_map]
  rfl

/-- **The registry**, after any calls that do not exhaust its number spaces. -/
theorem registry_represented {cs : List RegistryCall} (h : new.calls cs = .ok l) :
    l.Represented := by
  have hkept := calls_kept h
  refine ⟨hkept.tracks, hkept.wf.inverse, hkept.pooled.nodup, hkept.pooled.mem_iff hkept.wf, ?_,
    hkept.peak_eq.symm, fun live => ?_, fun live => ?_⟩
  · rw [hkept.given_length, hkept.peak_eq]
  · obtain ⟨-, -, -, -, hgone⟩ := WindowRegistry.retainLive_spec hkept.wf live
    exact ⟨WindowRegistry.retainLive_sorted hkept.wf live, hgone⟩
  · obtain ⟨-, -, hlook, -, -⟩ := WindowRegistry.retainLive_spec hkept.wf live
    exact hlook

/-- Three windows, of which two go and one comes again. -/
def reopened : List RegistryCall := [.track 7, .track 8, .track 9, .retainLive [8], .track 7]

/-- Three channels for four windows. -/
theorem registry_represented_reopened :
    ∃ l, new.calls reopened = .ok l ∧ l.peak = 3 ∧ l.Represented := by
  have hpeak : (new.calls reopened).toOption.map peak = some 3 := by decide +kernel
  cases hrun : new.calls reopened with
  | error why =>
      rw [hrun] at hpeak
      cases hpeak
  | ok l =>
      rw [hrun] at hpeak
      exact ⟨l, rfl, Option.some.inj hpeak, registry_represented hrun⟩

end RegistryLog

end Oxrdp
