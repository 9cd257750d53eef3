import Oxrdp.Agent.Tracking
import Oxrdp.Lib.Log

/-!
# The life of a window on the wire

A window is announced, talked about, and closed, in this order and once each.
Ids grow and are never used again; channels are, but only after the window that
had them is closed.  `Lifecycle` says all of it of a list of messages, and
`sessionAfter_lifecycle` says it of everything a session has put on its queue, at
any point and however it ended.

The proof goes over single messages: `Allowed` is what the log so far must say for
a message to follow, and `Ledger` is why the driver's tables make it so.
-/

namespace Oxrdp

open Log

/-- The windows a message names. -/
def Message.names : Message → List UInt32
  | .qualityHint m => [m.windowId]
  | .windowOpened m => [m.windowId]
  | .windowClosed m => [m.windowId]
  | .windowGeometry m => [m.windowId]
  | .windowTitle m => [m.windowId]
  | .windowState m => [m.windowId]
  | .windowZOrder m => [m.windowId, m.aboveWindowId]
  | .windowIcon m => [m.windowId]
  | .frameData m => [m.windowId]
  | .frameAck m => [m.windowId]
  | .pointerEvent m => [m.windowId]
  | .windowControl m => [m.windowId]
  | .cursorPosition m => [m.windowId]
  | _ => []

/-- The window a message opens. -/
def openedId (sent : Sent) : Option UInt32 :=
  match sent.message with
  | .windowOpened m => some m.windowId
  | _ => none

/-- The window a message closes. -/
def closedId (sent : Sent) : Option UInt32 :=
  match sent.message with
  | .windowClosed m => some m.windowId
  | _ => none

/-- The windows opened so far, the oldest first. -/
def openedIds (told : List Sent) : List UInt32 := told.filterMap openedId

/-- The windows closed so far, the oldest first. -/
def closedIds (told : List Sent) : List UInt32 := told.filterMap closedId

/-- An announcement the client has received. -/
def Announces (told : List Sent) (m : WindowOpened) : Prop :=
  ∃ ch, (⟨ch, .windowOpened m⟩ : Sent) ∈ told

/-- An announcement of a window that is still open. -/
def StillOpen (told : List Sent) (m : WindowOpened) : Prop :=
  Announces told m ∧ m.windowId ∉ closedIds told

/-- The life of every window, as the client can follow it. -/
structure Lifecycle (told : List Sent) : Prop where
  opened_once : (openedIds told).Nodup
  closed_once : (closedIds told).Nodup
  opened_increasing : (openedIds told).Pairwise (· < ·)
  opened_first : ∀ before sent after id, told = before ++ sent :: after →
    id ∈ sent.message.names → openedId sent = none → id ∈ openedIds before
  silent_once_closed : ∀ before sent after id, told = before ++ sent :: after →
    id ∈ sent.message.names → id ∉ closedIds before
  frames_on_channel : ∀ before ch f after,
    told = before ++ (⟨ch, .frameData f⟩ : Sent) :: after →
    ∃ m, Announces before m ∧ m.windowId = f.windowId ∧ m.videoChannel = ch
  channels_distinct : ∀ before after m m', told = before ++ after → StillOpen before m →
    StillOpen before m' → m.videoChannel = m'.videoChannel → m.windowId = m'.windowId
  channels_video : ∀ m, Announces told m → videoBase ≤ m.videoChannel

/-! ## One message at a time -/

/-- What the log so far must say for a message to follow it. -/
structure Allowed (before : List Sent) (sent : Sent) : Prop where
  opens : ∀ m, sent.message = .windowOpened m →
    (∀ id ∈ openedIds before, id < m.windowId) ∧ videoBase ≤ m.videoChannel ∧
      ∀ m', StillOpen before m' → m'.videoChannel ≠ m.videoChannel
  names : ∀ id ∈ sent.message.names, openedId sent = none →
    id ∈ openedIds before ∧ id ∉ closedIds before
  frames : ∀ f, sent.message = .frameData f →
    ∃ m, Announces before m ∧ m.windowId = f.windowId ∧ m.videoChannel = sent.channel

/-- The ids that were opened, one message later. -/
theorem openedIds_snoc (told : List Sent) (sent : Sent) :
    openedIds (told ++ [sent]) = openedIds told ++ (openedId sent).toList := by
  cases h : openedId sent with
  | none => simp [openedIds, h]
  | some id => simp [openedIds, h]

/-- The ids that were closed, one message later. -/
theorem closedIds_snoc (told : List Sent) (sent : Sent) :
    closedIds (told ++ [sent]) = closedIds told ++ (closedId sent).toList := by
  cases h : closedId sent with
  | none => simp [closedIds, h]
  | some id => simp [closedIds, h]

/-- An opened id is that of a message which opens it. -/
theorem openedId_some {sent : Sent} {id : UInt32} (h : openedId sent = some id) :
    ∃ m, sent.message = .windowOpened m ∧ m.windowId = id := by
  unfold openedId at h
  split at h
  · rename_i m hm
    exact ⟨m, hm, Option.some.inj h⟩
  · cases h

/-- A message that closes a window names it and opens nothing. -/
theorem closedId_some {sent : Sent} {id : UInt32} (h : closedId sent = some id) :
    id ∈ sent.message.names ∧ openedId sent = none := by
  unfold closedId at h
  split at h
  · rename_i m hm
    cases h
    rw [hm, openedId, hm]
    exact ⟨List.mem_singleton_self _, rfl⟩
  · cases h

/-- Who announces a window has opened it. -/
theorem mem_openedIds {told : List Sent} {m : WindowOpened} (h : Announces told m) :
    m.windowId ∈ openedIds told := by
  obtain ⟨ch, hmem⟩ := h
  exact List.mem_filterMap.mpr ⟨_, hmem, rfl⟩

/-- A window was announced before, or just now. -/
theorem announces_snoc {told : List Sent} {sent : Sent} {m : WindowOpened}
    (h : Announces (told ++ [sent]) m) :
    Announces told m ∨ sent.message = .windowOpened m := by
  obtain ⟨ch, hmem⟩ := h
  rcases List.mem_append.mp hmem with hmem | hmem
  · exact .inl ⟨ch, hmem⟩
  · rw [← List.mem_singleton.mp hmem]
    exact .inr rfl

/-! ## From single messages to the whole log -/

section Lawful

variable {told : List Sent}

/-- **Ids increase** in the order in which windows are opened. -/
theorem lawful_increasing (h : Lawful Allowed told) : (openedIds told).Pairwise (· < ·) := by
  apply h.rec_snoc
  · exact List.Pairwise.nil
  · intro log sent _ hsent ih
    rw [openedIds_snoc]
    cases hid : openedId sent with
    | none =>
        rw [Option.toList_none, List.append_nil]
        exact ih
    | some id =>
        obtain ⟨m, hm, rfl⟩ := openedId_some hid
        have hlt := (hsent.opens m hm).1
        apply List.pairwise_append.mpr
        refine ⟨ih, List.pairwise_singleton _ _, ?_⟩
        intro a ha b hb
        rw [Option.toList_some, List.mem_singleton] at hb
        rw [hb]
        exact hlt a ha

/-- **No window is closed that was not opened.** -/
theorem lawful_closed_opened (h : Lawful Allowed told) :
    ∀ id ∈ closedIds told, id ∈ openedIds told := by
  apply h.rec_snoc
  · intro id hid
    cases hid
  · intro log sent _ hsent ih id hid
    rw [openedIds_snoc]
    rw [closedIds_snoc] at hid
    rcases List.mem_append.mp hid with hid | hid
    · exact List.mem_append_left _ (ih id hid)
    · obtain ⟨hnames, hnone⟩ := closedId_some (Option.mem_toList.mp hid)
      exact List.mem_append_left _ (hsent.names id hnames hnone).1

/-- **No window is closed twice.** -/
theorem lawful_closed_once (h : Lawful Allowed told) : (closedIds told).Nodup := by
  apply h.rec_snoc
  · exact List.nodup_nil
  · intro log sent _ hsent ih
    rw [closedIds_snoc]
    cases hid : closedId sent with
    | none =>
        rw [Option.toList_none, List.append_nil]
        exact ih
    | some id =>
        obtain ⟨hnames, hnone⟩ := closedId_some hid
        have hnew := (hsent.names id hnames hnone).2
        rw [Option.toList_some]
        apply List.nodup_append.mpr
        refine ⟨ih, List.nodup_singleton id, ?_⟩
        intro a ha b hb hab
        rw [List.mem_singleton.mp hb] at hab
        exact hnew (hab ▸ ha)

/-- **Open windows have channels of their own.** -/
theorem lawful_channels (h : Lawful Allowed told) :
    ∀ m m', StillOpen told m → StillOpen told m' → m.videoChannel = m'.videoChannel →
      m.windowId = m'.windowId := by
  apply h.rec_snoc
  · intro m m' h
    obtain ⟨⟨ch, hmem⟩, -⟩ := h
    cases hmem
  · intro log sent hlog hsent ih m m' hm hm' hchan
    have hopen : ∀ m, StillOpen (log ++ [sent]) m →
        StillOpen log m ∨ sent.message = .windowOpened m := by
      intro m hm
      rcases announces_snoc hm.1 with hold | hnew
      · refine .inl ⟨hold, ?_⟩
        intro hclosed
        apply hm.2
        rw [closedIds_snoc]
        exact List.mem_append_left _ hclosed
      · exact .inr hnew
    rcases hopen m hm with hold | hnew <;> rcases hopen m' hm' with hold' | hnew'
    · exact ih m m' hold hold' hchan
    · exact absurd hchan ((hsent.opens m' hnew').2.2 m hold)
    · exact absurd hchan.symm ((hsent.opens m hnew).2.2 m' hold')
    · rw [hnew] at hnew'
      cases hnew'
      rfl

/-- **Window channels are above those of control.** -/
theorem lawful_video (h : Lawful Allowed told) :
    ∀ m, Announces told m → videoBase ≤ m.videoChannel := by
  apply h.rec_snoc
  · intro m h
    obtain ⟨ch, hmem⟩ := h
    cases hmem
  · intro log sent _ hsent ih m hm
    rcases announces_snoc hm with hold | hnew
    · exact ih m hold
    · exact (hsent.opens m hnew).2.1

/-- A log of allowed messages tells the life of every window in order. -/
theorem lifecycle_of_lawful (h : Lawful Allowed told) : Lifecycle told where
  opened_once := by
    apply List.Pairwise.imp _ (lawful_increasing h)
    intro a b hlt
    exact UInt32.ne_of_lt hlt
  closed_once := lawful_closed_once h
  opened_increasing := lawful_increasing h
  opened_first := by
    intro before sent after id heq hid hnone
    exact ((h before sent after heq).names id hid hnone).1
  silent_once_closed := by
    intro before sent after id heq hid hclosed
    have hsent := h before sent after heq
    cases hopened : openedId sent with
    | none => exact (hsent.names id hid hopened).2 hclosed
    | some id' =>
        obtain ⟨m, hm, rfl⟩ := openedId_some hopened
        have hbefore : Lawful Allowed before := h.of_start ⟨_, heq.symm⟩
        rw [hm] at hid
        rw [List.mem_singleton.mp hid] at hclosed
        have hlt := (hsent.opens m hm).1 _ (lawful_closed_opened hbefore _ hclosed)
        exact UInt32.lt_irrefl _ hlt
  frames_on_channel := by
    intro before ch f after heq
    exact (h before _ after heq).frames f rfl
  channels_distinct := by
    intro before after m m' heq
    exact lawful_channels (h.of_start ⟨after, heq.symm⟩) m m'
  channels_video := lawful_video h

end Lawful

/-! ## The driver's tables -/

/-- The log and the registry tell the same story. -/
structure Ledger (told : List Sent) (windows : Handle → Option TrackedWindow)
    (nextId : Nat) : Prop where
  lawful : Lawful Allowed told
  ids_lt : ∀ id ∈ openedIds told, id.toNat < nextId
  open_registered : ∀ m, StillOpen told m →
    ∃ h t, windows h = some t ∧ t.windowId = m.windowId ∧ t.videoChannel = m.videoChannel
  registered_open : ∀ h t, windows h = some t → ∃ m, StillOpen told m ∧
    m.windowId = t.windowId ∧ m.videoChannel = t.videoChannel

section Ledger

variable {told : List Sent} {windows : Handle → Option TrackedWindow} {nextId : Nat}

/-- At the start nothing has been told. -/
theorem Ledger.start : Ledger View.start.told View.start.windows View.start.nextId where
  lawful := Lawful.nil
  ids_lt := by
    intro id hid
    cases hid
  open_registered := by
    intro m h
    obtain ⟨⟨ch, hmem⟩, -⟩ := h
    cases hmem
  registered_open := by
    intro h t ht
    cases ht

/-- A registered window may be named. -/
theorem Ledger.registered {h : Handle} {t : TrackedWindow} (hl : Ledger told windows nextId)
    (ht : windows h = some t) :
    t.windowId ∈ openedIds told ∧ t.windowId ∉ closedIds told := by
  obtain ⟨m, hopen, hid, -⟩ := hl.registered_open h t ht
  rw [← hid]
  exact ⟨mem_openedIds hopen.1, hopen.2⟩

/-- A message that neither opens nor closes, names registered windows only, and
rides its window's channel if it is a frame. -/
structure Talk (windows : Handle → Option TrackedWindow) (sent : Sent) : Prop where
  opens_none : openedId sent = none
  closes_none : closedId sent = none
  registered : ∀ id ∈ sent.message.names, ∃ h t, windows h = some t ∧ t.windowId = id
  channel : ∀ f, sent.message = .frameData f →
    ∃ h t, windows h = some t ∧ t.windowId = f.windowId ∧ t.videoChannel = sent.channel

/-- A message about an open window keeps the ledger. -/
theorem Ledger.talk_one {sent : Sent} (hl : Ledger told windows nextId)
    (hs : Talk windows sent) : Ledger (told ++ [sent]) windows nextId := by
  have hopened : openedIds (told ++ [sent]) = openedIds told := by
    rw [openedIds_snoc, hs.opens_none, Option.toList_none, List.append_nil]
  have hclosed : closedIds (told ++ [sent]) = closedIds told := by
    rw [closedIds_snoc, hs.closes_none, Option.toList_none, List.append_nil]
  have hopen : ∀ m, StillOpen (told ++ [sent]) m ↔ StillOpen told m := by
    intro m
    constructor
    · intro hm
      rcases announces_snoc hm.1 with hold | hnew
      · exact ⟨hold, hclosed ▸ hm.2⟩
      · have hnone := hs.opens_none
        rw [openedId, hnew] at hnone
        cases hnone
    · intro h
      obtain ⟨⟨ch, hmem⟩, hnot⟩ := h
      exact ⟨⟨ch, List.mem_append_left _ hmem⟩, hclosed ▸ hnot⟩
  have hallowed : Allowed told sent := by
    refine ⟨?_, ?_, ?_⟩
    · intro m hm
      have hnone := hs.opens_none
      rw [openedId, hm] at hnone
      cases hnone
    · intro id hid _
      obtain ⟨h, t, ht, rfl⟩ := hs.registered id hid
      exact hl.registered ht
    · intro f hf
      obtain ⟨h, t, ht, hid, hchan⟩ := hs.channel f hf
      obtain ⟨m, hm, hmid, hmchan⟩ := hl.registered_open h t ht
      exact ⟨m, hm.1, hmid.trans hid, hmchan.trans hchan⟩
  refine ⟨hl.lawful.snoc hallowed, ?_, ?_, ?_⟩
  · rw [hopened]
    exact hl.ids_lt
  · intro m hm
    exact hl.open_registered m ((hopen m).mp hm)
  · intro h t ht
    obtain ⟨m, hm, heq⟩ := hl.registered_open h t ht
    exact ⟨m, (hopen m).mpr hm, heq⟩

/-- Several such messages change nothing either. -/
theorem Ledger.talk {sent : List Sent} (hl : Ledger told windows nextId)
    (hs : ∀ m ∈ sent, Talk windows m) : Ledger (told ++ sent) windows nextId := by
  induction sent using List.reverseRecOn with
  | nil =>
      rw [List.append_nil]
      exact hl
  | append_singleton sent m ih =>
      rw [← List.append_assoc]
      apply Ledger.talk_one
      · exact ih fun m' hm' => hs m' (by simp [hm'])
      · exact hs m (by simp)

/-- Announcing a window under the next id. -/
theorem Ledger.opened {handle : Handle} {t : TrackedWindow} {w : SourceWindow}
    (hl : Ledger told windows nextId) (hnew : windows handle = none)
    (hid : t.windowId.toNat = nextId) (hge : videoBase ≤ t.videoChannel)
    (hchan : ∀ h t', windows h = some t' → t'.videoChannel ≠ t.videoChannel) :
    Ledger (told ++ [onWindow (.windowOpened (openedMessage t w))])
      (Function.update windows handle (some t)) (nextId + 1) := by
  have hopened : openedIds (told ++ [onWindow (.windowOpened (openedMessage t w))]) =
      openedIds told ++ [t.windowId] := openedIds_snoc _ _
  have hclosed : closedIds (told ++ [onWindow (.windowOpened (openedMessage t w))]) =
      closedIds told := by
    rw [closedIds_snoc]
    exact List.append_nil _
  have hfresh : t.windowId ∉ closedIds told := by
    intro hmem
    have hlt := hl.ids_lt _ (lawful_closed_opened hl.lawful _ hmem)
    omega
  refine ⟨hl.lawful.snoc ⟨?_, ?_, ?_⟩, ?_, ?_, ?_⟩
  · intro m hm
    cases hm
    refine ⟨?_, hge, ?_⟩
    · intro id hmem
      have hlt := hl.ids_lt id hmem
      rw [UInt32.lt_iff_toNat_lt]
      change id.toNat < t.windowId.toNat
      omega
    · intro m' hm'
      obtain ⟨h, t', ht', -, hc⟩ := hl.open_registered m' hm'
      rw [← hc]
      exact hchan h t' ht'
  · intro id _ hnone
    cases hnone
  · intro f hf
    cases hf
  · intro id hmem
    rw [hopened] at hmem
    rcases List.mem_append.mp hmem with hmem | hmem
    · have hlt := hl.ids_lt id hmem
      omega
    · rw [List.mem_singleton.mp hmem]
      omega
  · intro m hm
    rcases announces_snoc hm.1 with hold | hself
    · have hold : StillOpen told m := ⟨hold, hclosed ▸ hm.2⟩
      obtain ⟨h, t', ht', heq⟩ := hl.open_registered m hold
      have hne : h ≠ handle := by
        intro heq'
        rw [heq', hnew] at ht'
        cases ht'
      exact ⟨h, t', (Function.update_of_ne hne _ _).trans ht', heq⟩
    · cases hself
      exact ⟨handle, t, Function.update_self .., rfl, rfl⟩
  · intro h t' ht'
    simp only [Function.update_apply] at ht'
    split at ht'
    · cases ht'
      refine ⟨openedMessage t w, ⟨⟨Channel.window, by simp [onWindow]⟩, ?_⟩, rfl, rfl⟩
      rw [hclosed]
      exact hfresh
    · obtain ⟨m, ⟨⟨ch, hmem⟩, hnot⟩, heq⟩ := hl.registered_open h t' ht'
      exact ⟨m, ⟨⟨ch, List.mem_append_left _ hmem⟩, hclosed ▸ hnot⟩, heq⟩

/-- Closing opens nothing. -/
theorem openedIds_closing (told : List Sent) (gone : List TrackedWindow) :
    openedIds (told ++ gone.map closedMessage) = openedIds told := by
  have hnone : (gone.map closedMessage).filterMap openedId = [] := by
    rw [List.filterMap_map]
    exact List.filterMap_eq_nil_iff.mpr fun _ _ => rfl
  rw [openedIds, List.filterMap_append, hnone, List.append_nil]
  rfl

/-- Closing closes those that have gone. -/
theorem closedIds_closing (told : List Sent) (gone : List TrackedWindow) :
    closedIds (told ++ gone.map closedMessage) =
      closedIds told ++ gone.map TrackedWindow.windowId := by
  have hids : (gone.map closedMessage).filterMap closedId =
      gone.map TrackedWindow.windowId := by
    rw [List.filterMap_map]
    exact congrFun List.filterMap_eq_map gone
  rw [closedIds, List.filterMap_append, hids]
  rfl

/-- Closing registered windows, each once. -/
theorem Ledger.lawful_closing (hl : Ledger told windows nextId) {gone : List TrackedWindow}
    (hnodup : (gone.map TrackedWindow.windowId).Nodup)
    (hreg : ∀ t ∈ gone, ∃ h, windows h = some t) :
    Lawful Allowed (told ++ gone.map closedMessage) := by
  induction gone using List.reverseRecOn with
  | nil =>
      rw [List.map_nil, List.append_nil]
      exact hl.lawful
  | append_singleton gone t ih =>
      rw [List.map_append] at hnodup
      obtain ⟨hnodup, -, hnew⟩ := List.nodup_append.mp hnodup
      have hlawful := ih hnodup fun t' ht' => hreg t' (by simp [ht'])
      obtain ⟨h, ht⟩ := hreg t (by simp)
      obtain ⟨hopened, hclosed⟩ := hl.registered ht
      rw [List.map_append, ← List.append_assoc]
      apply hlawful.snoc
      refine ⟨?_, ?_, ?_⟩
      · intro m hm
        cases hm
      · intro id hid _
        rw [List.mem_singleton.mp hid, openedIds_closing, closedIds_closing]
        refine ⟨hopened, ?_⟩
        intro hmem
        rcases List.mem_append.mp hmem with hmem | hmem
        · exact hclosed hmem
        · exact hnew _ hmem t.windowId (by simp) rfl
      · intro f hf
        cases hf

/-- **Closing** keeps the ledger: each window that has gone was open, and is told of once. -/
theorem Ledger.close {v v' : View} {live : List Handle} (hc : v.Coupled)
    (hl : Ledger v.told v.windows v.nextId) (h : CloseStep live v v') :
    Ledger v'.told v'.windows v'.nextId := by
  obtain ⟨gone, hnodup, hgone, rfl⟩ := h
  have hreg : ∀ t ∈ gone, ∃ h, v.windows h = some t := by
    intro t ht
    obtain ⟨h, -, hw⟩ := (hgone t).mp ht
    exact ⟨h, hw⟩
  have hannounces : ∀ m, Announces (v.told ++ gone.map closedMessage) m ↔
      Announces v.told m := by
    intro m
    constructor
    · intro h
      obtain ⟨ch, hmem⟩ := h
      rcases List.mem_append.mp hmem with hmem | hmem
      · exact ⟨ch, hmem⟩
      · obtain ⟨t, -, heq⟩ := List.mem_map.mp hmem
        cases heq
    · intro h
      obtain ⟨ch, hmem⟩ := h
      exact ⟨ch, List.mem_append_left _ hmem⟩
  refine ⟨hl.lawful_closing hnodup hreg, ?_, ?_, ?_⟩
  · rw [View.closing, openedIds_closing]
    exact hl.ids_lt
  · intro m h
    obtain ⟨hann, hnot⟩ := h
    simp only [View.closing] at hann hnot ⊢
    rw [closedIds_closing, List.mem_append, not_or] at hnot
    obtain ⟨h, t, ht, hid, hchan⟩ := hl.open_registered m ⟨(hannounces m).mp hann, hnot.1⟩
    have hlive : h ∈ live := by
      by_contra hdead
      apply hnot.2
      rw [← hid]
      exact List.mem_map_of_mem ((hgone t).mpr ⟨h, hdead, ht⟩)
    exact ⟨h, t, by rw [if_pos hlive]; exact ht, hid, hchan⟩
  · intro h t ht
    simp only [View.closing] at ht ⊢
    split at ht
    · rename_i hlive
      obtain ⟨m, ⟨hann, hnot⟩, hid, hchan⟩ := hl.registered_open h t ht
      refine ⟨m, ⟨(hannounces m).mpr hann, ?_⟩, hid, hchan⟩
      rw [closedIds_closing, List.mem_append, not_or]
      refine ⟨hnot, ?_⟩
      rw [hid]
      exact View.gone_not_live hc hgone hlive ht
    · cases ht

/-- The messages of an update talk about its window. -/
theorem talk_update {h : Handle} {t : TrackedWindow} (ht : windows h = some t)
    (st : WindowStream) (w : SourceWindow) :
    ∀ m ∈ updateMessages t.windowId st w, Talk windows m := by
  have hname : ∀ id ∈ [t.windowId], ∃ h t, windows h = some t ∧ t.windowId = id := by
    intro id hid
    exact ⟨h, t, ht, (List.mem_singleton.mp hid).symm⟩
  intro m hm
  unfold updateMessages titleMessages stateMessages geometryMessages at hm
  rcases List.mem_append.mp hm with hm | hm
  · rcases List.mem_append.mp hm with hm | hm
    · split at hm
      · rw [List.mem_singleton.mp hm]
        exact ⟨rfl, rfl, hname, fun f hf => by cases hf⟩
      · cases hm
    · split at hm
      · rw [List.mem_singleton.mp hm]
        exact ⟨rfl, rfl, hname, fun f hf => by cases hf⟩
      · cases hm
  · split at hm
    · rw [List.mem_singleton.mp hm]
      exact ⟨rfl, rfl, hname, fun f hf => by cases hf⟩
    · cases hm

end Ledger

/-- A pong names no window. -/
theorem Ledger.pong {told : List Sent} {windows : Handle → Option TrackedWindow} {nextId : Nat}
    (hl : Ledger told windows nextId) (p : Pong) :
    Ledger (told ++ [⟨Channel.control, .pong p⟩]) windows nextId := by
  refine hl.talk_one ⟨rfl, rfl, ?_, ?_⟩
  · intro id hmem
    cases hmem
  · intro f hf
    cases hf

/-- Every move of the driver keeps its tables and the log in step. -/
theorem Move.ledger {cfg : Config} {v v' : View} (h : Move cfg v v') (hc : v.Coupled)
    (hl : Ledger v.told v.windows v.nextId) :
    v'.Coupled ∧ Ledger v'.told v'.windows v'.nextId := by
  cases h with
  | sync w h =>
      refine ⟨hc.sync h, ?_⟩
      cases h with
      | opened t hnew hid hge hchan => exact hl.opened hnew hid hge hchan
      | updated t st hw hst => exact hl.talk (talk_update hw st w)
      | skipped => exact hl
  | close live h => exact ⟨hc.close h, hl.close hc h⟩
  | frame _ h =>
      refine ⟨hc.idle h.idle, ?_⟩
      obtain ⟨f, st, budget, needsKeyframe, rfl, hst, -, -, rfl⟩ := h
      obtain ⟨h, t, ht, hid⟩ := hc.window f.windowId st hst
      obtain ⟨st', hst', hchan, -⟩ := hc.stream h t ht
      rw [hid, hst] at hst'
      cases hst'
      apply hl.talk_one
      refine ⟨rfl, rfl, ?_, ?_⟩
      · intro id hmem
        exact ⟨h, t, ht, hid.trans (List.mem_singleton.mp hmem).symm⟩
      · intro f' hf'
        cases hf'
        exact ⟨h, t, ht, hid, hchan.symm⟩
  | ack id frameId => exact ⟨hc.idle (View.idle_ack v id frameId), hl⟩
  | pong p => exact ⟨hc.idle (View.idle_tell v _), hl.pong p⟩

/-- Any number of moves do. -/
theorem moves_ledger {cfg : Config} {v : View}
    (h : Relation.ReflTransGen (Move cfg) View.start v) :
    v.Coupled ∧ Ledger v.told v.windows v.nextId := by
  induction h with
  | refl => exact ⟨.start, .start⟩
  | tail _ hmove ih => exact hmove.ledger ih.1 ih.2

/-- **Window lifecycle.**  Everything a session has put on its queue, after any
events and also where it failed, tells the life of every window in order. -/
theorem sessionAfter_lifecycle {W E I : Type} [WindowSource W] [FrameEncoder E] [InputSink I]
    (cfg : Config) (source : W) (encoder : E) (sink : I) (events : List Event) :
    Lifecycle (sessionAfter cfg source encoder sink events).outbound.told := by
  obtain ⟨v, hmoves, htold⟩ := sessionAfter_told cfg source encoder sink events
  have hledger := moves_ledger hmoves
  exact lifecycle_of_lawful (hledger.2.lawful.of_start htold)

end Oxrdp
