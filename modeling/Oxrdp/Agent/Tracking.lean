import Oxrdp.Agent.Runs

/-!
# What the driver knows of the windows

Two facts hold of every view between two moves.  It is `Coupled`: the windows
that are registered are those the driver remembers something of, under ids that
are all different.  And it `Tracks` the windows seen last: whatever the last
snapshot says of a window is what the driver remembers of it, the bounds of a
minimized window apart.

`Running.keep` is the induction rule for the properties of whole runs.  It leaves
one case for each kind of move, and gives the case of a window sync both facts.
-/

namespace Oxrdp

open Machine

/-! ## Windows and streams -/

/-- What the client was told of a window, as the driver remembers it. -/
structure Announced where
  handle : Handle
  videoChannel : UInt16
  geometry : Geometry
  title : String
  showState : UInt8
  flags : UInt32
  deriving DecidableEq, Repr

def WindowStream.announced (st : WindowStream) : Announced :=
  { handle := st.handle
    videoChannel := st.videoChannel
    geometry := st.geometry
    title := st.title
    showState := st.showState
    flags := st.flags }

namespace View

/-- Registered windows and remembered streams belong together. -/
structure Coupled (v : View) : Prop where
  fresh : ∀ h t, v.windows h = some t → t.windowId.toNat < v.nextId
  inj : ∀ h h' t t', v.windows h = some t → v.windows h' = some t' →
    t.windowId = t'.windowId → h = h'
  stream : ∀ h t, v.windows h = some t →
    ∃ st, v.streams t.windowId = some st ∧ st.videoChannel = t.videoChannel ∧ st.handle = h
  window : ∀ id st, v.streams id = some st → ∃ h t, v.windows h = some t ∧ t.windowId = id

/-- Nothing changed but the flow control of some windows. -/
structure Idle (v v' : View) : Prop where
  windows_eq : v'.windows = v.windows
  nextId_eq : v'.nextId = v.nextId
  announced_eq : ∀ id,
    (v'.streams id).map WindowStream.announced = (v.streams id).map WindowStream.announced

/-- Every stream stays, with what was announced of its window. -/
theorem Idle.stream {v v' : View} (hi : Idle v v') {id : UInt32} {st : WindowStream}
    (h : v.streams id = some st) :
    ∃ st', v'.streams id = some st' ∧ st'.announced = st.announced := by
  have heq := hi.announced_eq id
  rw [h] at heq
  exact Option.map_eq_some_iff.mp heq

/-- No stream is new after an idle turn. -/
theorem Idle.stream_back {v v' : View} (hi : Idle v v') {id : UInt32} {st' : WindowStream}
    (h : v'.streams id = some st') :
    ∃ st, v.streams id = some st ∧ st.announced = st'.announced := by
  have heq := hi.announced_eq id
  rw [h] at heq
  exact Option.map_eq_some_iff.mp heq.symm

/-- Changing a stream's flow control leaves the rest alone. -/
theorem idle_setStream {v : View} {id : UInt32} {st st' : WindowStream}
    (h : v.streams id = some st) (heq : st'.announced = st.announced) :
    Idle v (v.setStream id (some st')) where
  windows_eq := rfl
  nextId_eq := rfl
  announced_eq := by
    intro k
    rw [setStream_streams]
    by_cases hk : k = id
    · rw [if_pos hk, hk, h, Option.map_some, Option.map_some, heq]
    · rw [if_neg hk]

/-- Messages alone change no stream. -/
theorem idle_tell (v : View) (sent : List Sent) : Idle v (v.tell sent) where
  windows_eq := rfl
  nextId_eq := rfl
  announced_eq := fun _ => rfl

/-- An acknowledgement changes the budget of a stream, not what was announced. -/
theorem idle_ack (v : View) (id : UInt32) (frameId : UInt64) : Idle v (v.ack id frameId) where
  windows_eq := rfl
  nextId_eq := rfl
  announced_eq := by
    intro k
    rw [ack, setStream_streams]
    by_cases hk : k = id
    · rw [if_pos hk, hk, Option.map_map]
      rfl
    · rw [if_neg hk]

end View

/-- A turn of a window announces nothing. -/
theorem FrameStep.idle {id : UInt32} {v v' : View} (h : FrameStep id v v') : v.Idle v' := by
  obtain ⟨f, st, budget, needsKeyframe, -, hst, -, -, rfl⟩ := h
  have hset : (v.tell [⟨st.videoChannel, .frameData f⟩]).Idle
      ((v.tell [⟨st.videoChannel, .frameData f⟩]).setStream id
        (some { st with budget, needsKeyframe })) := View.idle_setStream hst rfl
  exact ⟨hset.windows_eq, hset.nextId_eq, hset.announced_eq⟩

namespace View

/-- At the start there are no windows at all. -/
theorem Coupled.start : View.start.Coupled where
  fresh := by simp [View.start]
  inj := by simp [View.start]
  stream := by simp [View.start]
  window := by simp [View.start]

/-- What changes no window keeps registry and streams together. -/
theorem Coupled.idle {v v' : View} (hv : v.Coupled) (hi : v.Idle v') : v'.Coupled where
  fresh := by
    rw [hi.windows_eq, hi.nextId_eq]
    exact hv.fresh
  inj := by
    rw [hi.windows_eq]
    exact hv.inj
  stream := by
    intro h t ht
    rw [hi.windows_eq] at ht
    obtain ⟨st, hst, hchan, hhandle⟩ := hv.stream h t ht
    obtain ⟨st', hst', heq⟩ := hi.stream hst
    exact ⟨st', hst', (congrArg Announced.videoChannel heq).trans hchan,
      (congrArg Announced.handle heq).trans hhandle⟩
  window := by
    intro id st' hst'
    obtain ⟨st, hst, -⟩ := hi.stream_back hst'
    rw [hi.windows_eq]
    exact hv.window id st hst

/-- An id that is still to be given out belongs to no window. -/
theorem Coupled.stream_fresh {v : View} (hv : v.Coupled) {id : UInt32}
    (hid : v.nextId ≤ id.toNat) : v.streams id = none := by
  cases hst : v.streams id with
  | none => rfl
  | some st =>
      obtain ⟨h, t, ht, rfl⟩ := hv.window id st hst
      have hlt := hv.fresh h t ht
      omega

/-- A remembered window is registered for its handle. -/
theorem Coupled.registered {v : View} (hv : v.Coupled) {id : UInt32} {st : WindowStream}
    (hst : v.streams id = some st) : ∃ t, v.windows st.handle = some t ∧ t.windowId = id := by
  obtain ⟨h, t, ht, rfl⟩ := hv.window id st hst
  obtain ⟨st', hst', -, rfl⟩ := hv.stream h t ht
  rw [hst] at hst'
  cases hst'
  exact ⟨t, ht, rfl⟩

/-- No two remembered windows have the same handle. -/
theorem Coupled.handle_inj {v : View} (hv : v.Coupled) {id id' : UInt32} {st st' : WindowStream}
    (hst : v.streams id = some st) (hst' : v.streams id' = some st')
    (hsame : st.handle = st'.handle) : id = id' := by
  obtain ⟨t, ht, rfl⟩ := hv.registered hst
  obtain ⟨t', ht', rfl⟩ := hv.registered hst'
  rw [hsame, ht'] at ht
  cases ht
  rfl

/-- A registered window has a stream: the sync never skips one. -/
theorem Coupled.not_skipped {v : View} (hv : v.Coupled) {h : Handle} {t : TrackedWindow}
    (ht : v.windows h = some t) : v.streams t.windowId ≠ none := by
  obtain ⟨st, hst, -⟩ := hv.stream h t ht
  rw [hst]
  exact Option.some_ne_none st

/-- Entering a window under a fresh id. -/
theorem Coupled.opened {v : View} (hv : v.Coupled) {handle : Handle} {t : TrackedWindow}
    {st : WindowStream} (hnew : v.windows handle = none) (hid : t.windowId.toNat = v.nextId)
    (hchan : st.videoChannel = t.videoChannel) (hhandle : st.handle = handle)
    (told : List Sent) :
    Coupled
      { told
        windows := Function.update v.windows handle (some t)
        nextId := v.nextId + 1
        streams := Function.update v.streams t.windowId (some st) } where
  fresh := by
    intro h t' ht'
    simp only [Function.update_apply] at ht'
    split at ht'
    · cases ht'
      simp only
      omega
    · have hlt := hv.fresh h t' ht'
      simp only
      omega
  inj := by
    intro h h' a b ha hb hab
    simp only [Function.update_apply] at ha hb
    split at ha <;> split at hb
    · rename_i hh hh'
      rw [hh, hh']
    · cases ha
      have hlt := hv.fresh h' b hb
      rw [← hab] at hlt
      omega
    · cases hb
      have hlt := hv.fresh h a ha
      rw [hab] at hlt
      omega
    · exact hv.inj h h' a b ha hb hab
  stream := by
    intro h t' ht'
    simp only [Function.update_apply] at ht' ⊢
    split at ht'
    · rename_i hh
      cases ht'
      exact ⟨st, if_pos rfl, hchan, hhandle.trans hh.symm⟩
    · have hlt := hv.fresh h t' ht'
      have hne : t'.windowId ≠ t.windowId := by
        intro heq
        rw [heq] at hlt
        omega
      rw [if_neg hne]
      exact hv.stream h t' ht'
  window := by
    intro id st' hst'
    simp only [Function.update_apply] at hst'
    split at hst'
    · rename_i hid'
      exact ⟨handle, t, Function.update_self .., hid'.symm⟩
    · obtain ⟨h, t', ht', heq⟩ := hv.window id st' hst'
      have hne : h ≠ handle := by
        intro heq
        subst heq
        rw [hnew] at ht'
        cases ht'
      exact ⟨h, t', (Function.update_of_ne hne _ _).trans ht', heq⟩

/-- A stream may change, as long as it keeps its channel and its handle. -/
theorem Coupled.setStream {v : View} (hv : v.Coupled) {id : UInt32} {st st' : WindowStream}
    (hst : v.streams id = some st) (hchan : st'.videoChannel = st.videoChannel)
    (hhandle : st'.handle = st.handle) : (v.setStream id (some st')).Coupled where
  fresh := hv.fresh
  inj := hv.inj
  stream := by
    intro h t ht
    obtain ⟨st₀, hst₀, heq, hh⟩ := hv.stream h t ht
    rw [setStream_streams]
    split
    · rename_i hid
      rw [hid, hst] at hst₀
      cases hst₀
      exact ⟨st', rfl, hchan.trans heq, hhandle.trans hh⟩
    · exact ⟨st₀, hst₀, heq, hh⟩
  window := by
    intro k st₀ hst₀
    rw [setStream_streams] at hst₀
    split at hst₀
    · rename_i hk
      rw [hk]
      exact hv.window id st hst
    · exact hv.window k st₀ hst₀

/-- A window of the snapshot keeps registry and streams together. -/
theorem Coupled.sync {cfg : Config} {w : SourceWindow} {v v' : View} (hv : v.Coupled)
    (h : SyncStep cfg w v v') : v'.Coupled := by
  cases h with
  | opened t hnew hid _ _ => exact hv.opened hnew hid rfl rfl _
  | updated t st hw hst =>
      exact (hv.idle (idle_tell v _)).setStream hst rfl rfl
  | skipped => exact hv

/-- The windows that have gone are not among the live ones. -/
theorem gone_not_live {v : View} (hv : v.Coupled) {live : List Handle}
    {gone : List TrackedWindow} (hgone : ∀ t, t ∈ gone ↔ ∃ h, h ∉ live ∧ v.windows h = some t)
    {h : Handle} {t : TrackedWindow} (hh : h ∈ live) (ht : v.windows h = some t) :
    t.windowId ∉ gone.map TrackedWindow.windowId := by
  intro hmem
  obtain ⟨t', ht', heq⟩ := List.mem_map.mp hmem
  obtain ⟨h', hh', hw'⟩ := (hgone t').mp ht'
  have hsame := hv.inj h' h t' t hw' ht heq
  exact hh' (hsame ▸ hh)

/-- Closing the windows that have gone keeps the tables coupled. -/
theorem Coupled.close {live : List Handle} {v v' : View} (hv : v.Coupled)
    (h : CloseStep live v v') : v'.Coupled := by
  obtain ⟨gone, -, hgone, rfl⟩ := h
  have hlive : ∀ {h t}, (v.closing live gone).windows h = some t →
      h ∈ live ∧ v.windows h = some t := by
    intro h t ht
    simp only [closing] at ht
    split at ht
    · exact ⟨by assumption, ht⟩
    · cases ht
  refine ⟨?_, ?_, ?_, ?_⟩
  · intro h t ht
    exact hv.fresh h t (hlive ht).2
  · intro h h' t t' ht ht'
    exact hv.inj h h' t t' (hlive ht).2 (hlive ht').2
  · intro h t ht
    obtain ⟨hh, ht⟩ := hlive ht
    simp only [closing, if_neg (gone_not_live hv hgone hh ht)]
    exact hv.stream h t ht
  · intro id st hst
    simp only [closing] at hst ⊢
    split at hst
    · cases hst
    · rename_i hid
      obtain ⟨h, t, ht, rfl⟩ := hv.window id st hst
      have hh : h ∈ live := by
        by_contra hh
        exact hid (List.mem_map_of_mem ((hgone t).mpr ⟨h, hh, ht⟩))
      exact ⟨h, t, by rw [if_pos hh]; exact ht, rfl⟩

end View

/-! ## The windows seen last -/

/-- The last entry for a handle in what the platform has shown so far. -/
def lastSeen (seen : List SourceWindow) (h : Handle) : Option SourceWindow :=
  seen.reverse.find? fun w => w.handle = h

/-- The last sighting of a window, after one more. -/
theorem lastSeen_snoc (seen : List SourceWindow) (w : SourceWindow) (h : Handle) :
    lastSeen (seen ++ [w]) h = if w.handle = h then some w else lastSeen seen h := by
  unfold lastSeen
  rw [List.reverse_append, List.reverse_singleton, List.singleton_append, List.find?_cons]
  by_cases hw : w.handle = h
  · simp [hw]
  · simp [hw]

/-- The last sighting in two lists is that in the second, or else that in the first. -/
theorem lastSeen_append (before live : List SourceWindow) (h : Handle) :
    lastSeen (before ++ live) h = (lastSeen live h).or (lastSeen before h) := by
  unfold lastSeen
  rw [List.reverse_append, List.find?_append]

/-- A window was never seen exactly if its handle does not occur. -/
theorem lastSeen_eq_none {seen : List SourceWindow} {h : Handle} :
    lastSeen seen h = none ↔ h ∉ seen.map SourceWindow.handle := by
  simp [lastSeen, List.find?_eq_none]

/-- A sighting is one of those that there were. -/
theorem lastSeen_some {seen : List SourceWindow} {h : Handle} {w : SourceWindow}
    (hw : lastSeen seen h = some w) : w ∈ seen ∧ w.handle = h := by
  have hmem := List.mem_of_find?_eq_some hw
  have hp := List.find?_some hw
  exact ⟨List.mem_reverse.mp hmem, of_decide_eq_true hp⟩

/-- In a snapshot without repeated handles every window is the last one seen. -/
theorem lastSeen_of_nodup {live : List SourceWindow}
    (hnodup : (live.map SourceWindow.handle).Nodup) {w : SourceWindow} (hw : w ∈ live) :
    lastSeen live w.handle = some w := by
  cases hl : lastSeen live w.handle with
  | none => exact absurd (List.mem_map_of_mem hw) (lastSeen_eq_none.mp hl)
  | some w' =>
      obtain ⟨hmem, heq⟩ := lastSeen_some hl
      rw [List.inj_on_of_nodup_map hnodup hmem hw heq]

/-- What the driver remembers of a window is what was last seen of it.  The
bounds of a minimized window are not looked at. -/
structure Agrees (w : SourceWindow) (st : WindowStream) : Prop where
  title_eq : st.title = w.title
  state_eq : st.showState = showState w
  flags_eq : st.flags = windowFlags w
  geometry_eq : w.minimized = false → st.geometry = w.geometry

/-- What is told of a known window is all that has changed. -/
theorem Agrees.updated (w : SourceWindow) (st : WindowStream) : Agrees w (updatedStream st w) where
  title_eq := rfl
  state_eq := rfl
  flags_eq := rfl
  geometry_eq := by
    intro hmin
    simp [updatedStream, hmin]

/-- A new window is announced as it is. -/
theorem Agrees.opened (cfg : Config) (t : TrackedWindow) (w : SourceWindow) :
    Agrees w (openedStream cfg t w) :=
  ⟨rfl, rfl, rfl, fun _ => rfl⟩

/-- What was announced is all that matters. -/
theorem Agrees.of_announced {w : SourceWindow} {st st' : WindowStream} (h : Agrees w st)
    (heq : st'.announced = st.announced) : Agrees w st' where
  title_eq := (congrArg Announced.title heq).trans h.title_eq
  state_eq := (congrArg Announced.showState heq).trans h.state_eq
  flags_eq := (congrArg Announced.flags heq).trans h.flags_eq
  geometry_eq := fun hmin => (congrArg Announced.geometry heq).trans (h.geometry_eq hmin)

/-- The registered windows are those of `seen`, and what is remembered of each is
what was seen of it last. -/
structure View.Tracks (v : View) (seen : List SourceWindow) : Prop where
  unseen : ∀ h, lastSeen seen h = none → v.windows h = none
  agrees : ∀ h w, lastSeen seen h = some w →
    ∃ t st, v.windows h = some t ∧ v.streams t.windowId = some st ∧ Agrees w st

namespace View

/-- At the start nothing is announced, and nothing was seen. -/
theorem Tracks.start : View.start.Tracks [] where
  unseen := fun _ _ => rfl
  agrees := by
    intro h w hw
    cases hw

/-- What changes no window keeps what is announced of it. -/
theorem Tracks.idle {v v' : View} {seen : List SourceWindow} (hv : v.Tracks seen)
    (hi : v.Idle v') : v'.Tracks seen where
  unseen := by
    rw [hi.windows_eq]
    exact hv.unseen
  agrees := by
    intro h w hw
    obtain ⟨t, st, ht, hst, hag⟩ := hv.agrees h w hw
    obtain ⟨st', hst', heq⟩ := hi.stream hst
    exact ⟨t, st', by rw [hi.windows_eq]; exact ht, hst', hag.of_announced heq⟩

/-- A window that is entered or brought up to date is the last one seen of its
handle; nothing else is touched. -/
theorem Tracks.put {v v' : View} {seen : List SourceWindow} {w : SourceWindow}
    {t : TrackedWindow} {st : WindowStream} (hv : v.Tracks seen) (ht : v'.windows w.handle = some t)
    (hst : v'.streams t.windowId = some st) (hag : Agrees w st)
    (hwin : ∀ h, h ≠ w.handle → v'.windows h = v.windows h)
    (hstr : ∀ h t', h ≠ w.handle → v.windows h = some t' →
      v'.streams t'.windowId = v.streams t'.windowId) :
    v'.Tracks (seen ++ [w]) where
  unseen := by
    intro h hh
    rw [lastSeen_snoc] at hh
    split at hh
    · cases hh
    · rename_i hne
      rw [hwin h (Ne.symm hne)]
      exact hv.unseen h hh
  agrees := by
    intro h w' hh
    rw [lastSeen_snoc] at hh
    split at hh
    · rename_i heq
      cases hh
      subst heq
      exact ⟨t, st, ht, hst, hag⟩
    · rename_i hne
      obtain ⟨t', st', ht', hst', hag'⟩ := hv.agrees h w' hh
      refine ⟨t', st', ?_, ?_, hag'⟩
      · rw [hwin h (Ne.symm hne)]
        exact ht'
      · rw [hstr h t' (Ne.symm hne) ht']
        exact hst'

/-- **One window of the snapshot**: afterwards its stream announces what was just seen. -/
theorem Tracks.sync {cfg : Config} {w : SourceWindow} {v v' : View} {seen : List SourceWindow}
    (hv : v.Tracks seen) (hc : v.Coupled) (h : SyncStep cfg w v v') : v'.Tracks (seen ++ [w]) := by
  cases h with
  | opened t hnew hid _ _ =>
      apply hv.put (t := t) (Function.update_self ..) (Function.update_self ..)
        (Agrees.opened cfg t w)
      · intro h hne
        exact Function.update_of_ne hne _ _
      · intro h t' _ ht'
        apply Function.update_of_ne
        intro heq
        have hlt := hc.fresh h t' ht'
        rw [heq] at hlt
        omega
  | updated t st hw hst =>
      refine Tracks.put hv hw ?_ (Agrees.updated w st)
        (fun h _ => rfl) ?_
      · rw [setStream_streams, if_pos rfl]
      · intro h t' hne ht'
        rw [setStream_streams, if_neg]
        · rfl
        · intro heq
          exact hne (hc.inj h w.handle t' t ht' hw heq)
  | skipped t hw hst => exact absurd hst (hc.not_skipped hw)

/-- A registered window has been seen, and is remembered as it was seen last. -/
theorem Tracks.known {v : View} {seen : List SourceWindow} (hv : v.Tracks seen) {h : Handle}
    {t : TrackedWindow} {st : WindowStream} (ht : v.windows h = some t)
    (hst : v.streams t.windowId = some st) :
    ∃ w₀, lastSeen seen h = some w₀ ∧ Agrees w₀ st := by
  cases hseen : lastSeen seen h with
  | none =>
      rw [hv.unseen h hseen] at ht
      cases ht
  | some w₀ =>
      obtain ⟨t', st', ht', hst', hag⟩ := hv.agrees h w₀ hseen
      rw [ht] at ht'
      cases ht'
      rw [hst] at hst'
      cases hst'
      exact ⟨w₀, rfl, hag⟩

/-- Closing what has gone leaves the windows of the last snapshot. -/
theorem Tracks.close {v v' : View} {before live : List SourceWindow}
    (hv : v.Tracks (before ++ live)) (hc : v.Coupled)
    (h : CloseStep (live.map SourceWindow.handle) v v') : v'.Tracks live := by
  obtain ⟨gone, -, hgone, rfl⟩ := h
  refine ⟨?_, ?_⟩
  · intro h hh
    simp only [closing, if_neg (lastSeen_eq_none.mp hh)]
  · intro h w hw
    have hall : lastSeen (before ++ live) h = some w := by
      rw [lastSeen_append, hw, Option.some_or]
    obtain ⟨t, st, ht, hst, hag⟩ := hv.agrees h w hall
    have hmem : h ∈ live.map SourceWindow.handle := by
      obtain ⟨hmem, heq⟩ := lastSeen_some hw
      exact heq ▸ List.mem_map_of_mem hmem
    refine ⟨t, st, ?_, ?_, hag⟩
    · simp only [closing, if_pos hmem]
      exact ht
    · simp only [closing, if_neg (gone_not_live hc hgone hmem ht)]
      exact hst

end View

/-! ## Induction over runs -/

section Keep

variable {cfg : Config} {J : View → Prop}

/-- **One tick.**  What every move of a tick keeps, the tick keeps; each window
sync may use what the driver knows at that point. -/
theorem TickStep.keep {before live : List SourceWindow} {v v' : View}
    (h : TickStep cfg live v v') (hc : v.Coupled) (ht : v.Tracks before) (hJ : J v)
    (hsync : ∀ seen w rest a b, live = seen ++ w :: rest → a.Coupled →
      a.Tracks (before ++ seen) → SyncStep cfg w a b → J a → J b)
    (hclose : ∀ handles a b, a.Coupled → CloseStep handles a b → J a → J b)
    (hframe : ∀ id a b, FrameStep id a b → J a → J b) :
    v'.Coupled ∧ v'.Tracks live ∧ J v' := by
  obtain ⟨v₁, v₂, hchain, hclosed, hframes⟩ := h
  have h₁ : v₁.Coupled ∧ v₁.Tracks (before ++ live) ∧ J v₁ := by
    apply hchain.keep_labels fun seen a => a.Coupled ∧ a.Tracks (before ++ seen) ∧ J a
    · rw [List.append_nil]
      exact ⟨hc, ht, hJ⟩
    · intro seen w rest hlive a b hstep ha
      obtain ⟨hac, hat, haJ⟩ := ha
      rw [← List.append_assoc]
      exact ⟨hac.sync hstep, hat.sync hac hstep, hsync seen w rest a b hlive hac hat hstep haJ⟩
  have h₂ : v₂.Coupled ∧ v₂.Tracks live ∧ J v₂ :=
    ⟨h₁.1.close hclosed, h₁.2.1.close h₁.1 hclosed, hclose _ v₁ v₂ h₁.1 hclosed h₁.2.2⟩
  obtain ⟨ids, -, hframes⟩ := hframes
  apply hframes.keep h₂
  intro id _ a b hstep ha
  obtain ⟨hac, hat, haJ⟩ := ha
  exact ⟨hac.idle hstep.idle, hat.idle hstep.idle, hframe id a b hstep haJ⟩

/-- The snapshot before the next one, or none at all. -/
def lastSnapshot (snaps : List (List SourceWindow)) : List SourceWindow :=
  snaps.getLast?.getD []

/-- The last snapshot, after one more. -/
theorem lastSnapshot_snoc (snaps : List (List SourceWindow)) (live : List SourceWindow) :
    lastSnapshot (snaps ++ [live]) = live := by
  simp [lastSnapshot]

/-- Whether `p` holds between each window of a snapshot and what was seen of it
before. -/
def steady (p : SourceWindow → SourceWindow → Bool) :
    List SourceWindow → List SourceWindow → Bool
  | _, [] => true
  | seen, w :: rest =>
      (lastSeen seen w.handle).all (fun w₀ => p w₀ w) && steady p (seen ++ [w]) rest

/-- Whether `p` holds between any two sightings of a window one after the other. -/
def steadily (p : SourceWindow → SourceWindow → Bool) :
    List SourceWindow → List (List SourceWindow) → Bool
  | _, [] => true
  | before, live :: rest => steady p before live && steadily p live rest

/-- Where a list is steady, each sighting is compared with the one before it. -/
theorem steady_apply {p : SourceWindow → SourceWindow → Bool} {before seen rest : List SourceWindow}
    {w w₀ : SourceWindow} (h : steady p before (seen ++ w :: rest) = true)
    (hseen : lastSeen (before ++ seen) w.handle = some w₀) : p w₀ w = true := by
  induction seen generalizing before with
  | nil =>
      rw [List.append_nil] at hseen
      simp only [List.nil_append, steady, hseen, Option.all_some, Bool.and_eq_true] at h
      exact h.1
  | cons x seen ih =>
      simp only [List.cons_append, steady, Bool.and_eq_true] at h
      apply ih h.2
      rw [List.append_assoc]
      exact hseen

/-- Where snapshots are steady, each is compared with the one before it. -/
theorem steadily_apply {p : SourceWindow → SourceWindow → Bool} {first : List SourceWindow}
    {before after : List (List SourceWindow)} {live : List SourceWindow}
    (h : steadily p first (before ++ live :: after) = true) :
    steady p (before.getLast?.getD first) live = true := by
  induction before generalizing first with
  | nil =>
      simp only [List.nil_append, steadily, Bool.and_eq_true] at h
      exact h.1
  | cons x before ih =>
      simp only [List.cons_append, steadily, Bool.and_eq_true] at h
      have hrest := ih h.2
      cases before with
      | nil => exact hrest
      | cons y before =>
          rw [List.getLast?_cons_cons]
          rw [List.getLast?_eq_getLast_of_ne_nil (List.cons_ne_nil y before)] at hrest ⊢
          exact hrest

/-- **Whole runs.**  What every move keeps, every run keeps; along the way the
driver knows what it has seen last. -/
theorem Running.keep {W E I : Type} [WindowSource W] [FrameEncoder E] [InputSink I]
    {source : W} {encoder : E} {sink : I} {events : List Event} {s : Session W E I}
    (h : Running cfg source encoder sink events s) (hstart : J View.start)
    (hsync : ∀ before live after seen w rest a b,
      snapshots cfg (Session.start source encoder sink) events = before ++ live :: after →
      live = seen ++ w :: rest → a.Coupled → a.Tracks (lastSnapshot before ++ seen) →
      SyncStep cfg w a b → J a → J b)
    (hclose : ∀ handles a b, a.Coupled → CloseStep handles a b → J a → J b)
    (hframe : ∀ id a b, FrameStep id a b → J a → J b)
    (hack : ∀ a id frameId, J a → J (a.ack id frameId))
    (hpong : ∀ a p, J a → J (a.tell [⟨Channel.control, .pong p⟩])) :
    s.view.Coupled ∧
      s.view.Tracks
        (lastSnapshot (snapshots cfg (Session.start source encoder sink) events)) ∧
      J s.view := by
  apply (running_turns h).keep_labels fun done v =>
    v.Coupled ∧ v.Tracks (lastSnapshot (done.filterMap Turn.snapshot)) ∧ J v
  · exact ⟨.start, .start, hstart⟩
  intro done turn rest hturns a b hstep ha
  obtain ⟨hc, ht, hJ⟩ := ha
  have hquiet : turn.snapshot = none → a.Idle b → J b →
      b.Coupled ∧ b.Tracks (lastSnapshot ((done ++ [turn]).filterMap Turn.snapshot)) ∧ J b := by
    intro hno hidle hb
    have hsame : (done ++ [turn]).filterMap Turn.snapshot = done.filterMap Turn.snapshot := by
      simp [List.filterMap_append, hno]
    rw [hsame]
    exact ⟨hc.idle hidle, ht.idle hidle, hb⟩
  cases turn with
  | tick live =>
      have hsnaps : snapshots cfg (Session.start source encoder sink) events =
          done.filterMap Turn.snapshot ++ live :: rest.filterMap Turn.snapshot := by
        rw [snapshots, hturns]
        simp [Turn.snapshot]
      have hlast : lastSnapshot ((done ++ [Turn.tick live]).filterMap Turn.snapshot) = live := by
        rw [List.filterMap_append]
        exact lastSnapshot_snoc _ live
      rw [hlast]
      exact TickStep.keep hstep hc ht hJ
        (fun seen w rest' a b hlive => hsync _ live _ seen w rest' a b hsnaps hlive)
        hclose hframe
  | acked id frameId =>
      cases hstep
      exact hquiet rfl (View.idle_ack a id frameId) (hack a id frameId hJ)
  | pinged =>
      obtain ⟨p, rfl⟩ := hstep
      exact hquiet rfl (View.idle_tell a _) (hpong a p hJ)
  | quiet =>
      cases hstep
      have hidle : a.Idle a := ⟨rfl, rfl, fun _ => rfl⟩
      exact hquiet rfl hidle hJ

end Keep

end Oxrdp
