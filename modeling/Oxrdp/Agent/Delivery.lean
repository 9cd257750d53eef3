import Oxrdp.Agent.Feeding
import Oxrdp.Agent.Journal

/-!
# From the encoder to the queue

Every access unit that the driver polls is put on the queue as a `FrameData` of the window it
was polled for, in the order of the polls, and the ends of the windows lie between them where
the encoder was told to forget.  A session that fails may leave out the unit polled last: one
that no frame id is left for, or one of 4 GiB or more, which a `FrameData` cannot carry.
Without a free slot nothing is captured, submitted or polled.
-/

namespace Oxrdp

open Effect

/-- What happens to the video of a window: an access unit, or its end. -/
inductive StreamEvent where
  | unit (handle : Handle) (u : EncodedFrame)
  | ended (handle : Handle)
  deriving DecidableEq, Repr

/-- What a call to the encoder says. -/
def callEvent : EncoderCall → Option StreamEvent
  | .poll handle (some u) => some (.unit handle u)
  | .forget handle => some (.ended handle)
  | _ => none

/-- What a message says, for windows that are registered for the handles `owner`. -/
def sentEvent (owner : UInt32 → Handle) (sent : Sent) : Option StreamEvent :=
  match sent.message with
  | .frameData f =>
      if f.codec = Codec.h264 then
        some (.unit (owner f.windowId)
          { data := f.data, keyframe := f.flags == FrameFlag.keyframe, width := f.width,
            height := f.height })
      else none
  | .windowClosed c => some (.ended (owner c.windowId))
  | _ => none

/-- The video of all windows, as it was polled. -/
def polledEvents (calls : List EncoderCall) : List StreamEvent := calls.filterMap callEvent

/-- The video of all windows, as it was put on the queue. -/
def queuedEvents (owner : UInt32 → Handle) (told : List Sent) : List StreamEvent :=
  told.filterMap (sentEvent owner)

/-- What may be missing on the queue when a session has stopped. -/
inductive Lost : Stop → List StreamEvent → Prop
  | nothing (stop : Stop) : Lost stop []
  | ended (stop : Stop) (handle : Handle) : Lost stop [.ended handle]
  | unnumbered (handle : Handle) (u : EncodedFrame) :
      Lost (.fault .frameIdOverflow) [.unit handle u]
  | tooLarge (e : EncodeError) (handle : Handle) (u : EncodedFrame)
      (h : 2 ^ 32 ≤ u.data.length) : Lost (.fault (.invalidData e)) [.unit handle u]

/-- The window that a frame or an end is about. -/
def streamId (sent : Sent) : Option UInt32 :=
  match sent.message with
  | .frameData f => some f.windowId
  | .windowClosed c => some c.windowId
  | _ => none

/-- What stands aside is not of a stream. -/
theorem sentEvent_aside {owner : UInt32 → Handle} {sent : Sent} (h : sent.aside = true) :
    sentEvent owner sent = none := by
  obtain ⟨ch, m⟩ := sent
  cases m <;> first | rfl | cases h

/-- Events of two parts, as they were queued. -/
theorem queuedEvents_append (owner : UInt32 → Handle) (a b : List Sent) :
    queuedEvents owner (a ++ b) = queuedEvents owner a ++ queuedEvents owner b := by
  simp [queuedEvents]

/-- Events of two parts, as they were polled. -/
theorem polledEvents_append (a b : List EncoderCall) :
    polledEvents (a ++ b) = polledEvents a ++ polledEvents b := by
  simp [polledEvents]

/-- What stands aside queues no event. -/
theorem queuedEvents_aside {owner : UInt32 → Handle} {sent : List Sent}
    (h : ∀ m ∈ sent, Sent.aside m = true) : queuedEvents owner sent = [] := by
  unfold queuedEvents
  rw [List.filterMap_eq_nil_iff]
  intro m hm
  exact sentEvent_aside (h m hm)

/-- Only the handles of the windows that are named matter. -/
theorem queuedEvents_congr {owner owner' : UInt32 → Handle} {told : List Sent}
    (h : ∀ m ∈ told, ∀ id, streamId m = some id → owner' id = owner id) :
    queuedEvents owner' told = queuedEvents owner told := by
  refine List.filterMap_congr fun m hm => ?_
  obtain ⟨ch, m⟩ := m
  unfold sentEvent
  cases m with
  | frameData f => simp only [h _ hm f.windowId rfl]
  | windowClosed c => simp only [h _ hm c.windowId rfl]
  | _ => rfl

section Delivery

variable {W E I : Type} {cfg : Config} {base : UInt32 → Handle} {n : Nat}
  {v : View} {e : Logged EncoderCall E}

/-- The handles of the windows: those of `base` for the windows with an id below `n`, and
whatever is registered now. -/
structure Owned (base : UInt32 → Handle) (n : Nat) (v : View) (owner : UInt32 → Handle) :
    Prop where
  base_eq : ∀ id, id.toNat < n → owner id = base id
  grown : n ≤ v.nextId
  stream : ∀ id st, v.streams id = some st → owner id = st.handle
  named : ∀ m ∈ v.told, ∀ id, streamId m = some id → id.toNat < v.nextId

/-- Everything polled so far is on the queue. -/
def Delivered (base : UInt32 → Handle) (n : Nat) (v : View) (e : Logged EncoderCall E) : Prop :=
  ∃ owner, Owned base n v owner ∧ queuedEvents owner v.told = polledEvents e.calls

/-- Everything polled so far is on the queue, or was lost when the session stopped. -/
def DeliveredCut (base : UInt32 → Handle) (n : Nat) (stop : Stop) (told : List Sent)
    (e : Logged EncoderCall E) : Prop :=
  ∃ owner, (∀ id, id.toNat < n → owner id = base id) ∧
    ∃ lost, Lost stop lost ∧ polledEvents e.calls = queuedEvents owner told ++ lost

/-- A message about a registered window names an id that was given out. -/
theorem Owned.tell {owner : UInt32 → Handle} {v' : View} (h : Owned base n v owner)
    {sent : List Sent} (htold : v'.told = v.told ++ sent) (hnext : v'.nextId = v.nextId)
    (hstream : ∀ id st, v'.streams id = some st → owner id = st.handle)
    (hnamed : ∀ m ∈ sent, ∀ id, streamId m = some id → id.toNat < v.nextId) :
    Owned base n v' owner where
  base_eq := h.base_eq
  grown := hnext ▸ h.grown
  stream := hstream
  named := by
    intro m hm id hid
    rw [htold] at hm
    rw [hnext]
    rcases List.mem_append.mp hm with hm | hm
    · exact h.named m hm id hid
    · exact hnamed m hm id hid

/-- What stands aside belongs to no stream. -/
theorem streamId_aside {sent : Sent} (h : sent.aside = true) : streamId sent = none := by
  obtain ⟨ch, m⟩ := sent
  cases m <;> first | rfl | cases h

/-- A new window gets a new owner, whatever was said before. -/
theorem Delivered.opened (h : Delivered base n v e) {w : SourceWindow} {t : TrackedWindow}
    (hid : t.windowId.toNat = v.nextId) {v' : View}
    (htold : v'.told = v.told ++ [onWindow (.windowOpened (openedMessage t w))])
    (hnext : v'.nextId = v.nextId + 1)
    (hstreams : v'.streams =
      Function.update v.streams t.windowId (some (openedStream cfg t w))) :
    Delivered base n v' e := by
  obtain ⟨owner, howned, heq⟩ := h
  have hother : ∀ id : UInt32, id.toNat < v.nextId →
      Function.update owner t.windowId w.handle id = owner id := by
    intro id hlt
    refine Function.update_of_ne ?_ _ _
    intro hsame
    rw [hsame] at hlt
    omega
  refine ⟨Function.update owner t.windowId w.handle, ⟨?_, ?_, ?_, ?_⟩, ?_⟩
  · intro id hlt
    rw [hother id (by have := howned.grown; omega)]
    exact howned.base_eq id hlt
  · have := howned.grown
    omega
  · intro id st hst
    rw [hstreams, Function.update_apply] at hst
    rw [Function.update_apply]
    split at hst
    · rename_i hsame
      cases hst
      rw [if_pos hsame]
      rfl
    · rename_i hne
      rw [if_neg hne]
      exact howned.stream id st hst
  · intro m hm id hid'
    rw [htold] at hm
    rcases List.mem_append.mp hm with hm | hm
    · have := howned.named m hm id hid'
      omega
    · cases List.mem_singleton.mp hm
      cases hid'
  · rw [htold, queuedEvents_append, ← heq]
    have hsame : queuedEvents (Function.update owner t.windowId w.handle) v.told =
        queuedEvents owner v.told :=
      queuedEvents_congr fun m hm id hid' => hother id (howned.named m hm id hid')
    rw [hsame]
    exact List.append_nil _

/-- Nothing but asides were told, and the streams are of the windows they were of. -/
theorem Delivered.aside (h : Delivered base n v e) {v' : View} {sent : List Sent}
    (htold : v'.told = v.told ++ sent) (haside : ∀ m ∈ sent, Sent.aside m = true)
    (hnext : v'.nextId = v.nextId)
    (hstream : ∀ id st', v'.streams id = some st' →
      ∃ st, v.streams id = some st ∧ st'.handle = st.handle) :
    Delivered base n v' e := by
  obtain ⟨owner, howned, heq⟩ := h
  refine ⟨owner, howned.tell htold hnext ?_ ?_, ?_⟩
  · intro id st' hst'
    obtain ⟨st, hst, hsame⟩ := hstream id st' hst'
    rw [hsame]
    exact howned.stream id st hst
  · intro m hm id hid
    rw [streamId_aside (haside m hm)] at hid
    cases hid
  · rw [htold, queuedEvents_append, queuedEvents_aside haside, List.append_nil]
    exact heq

/-- A remembered window has an id that was given out. -/
theorem stream_given (hc : v.Coupled) {id : UInt32} {st : WindowStream}
    (hst : v.streams id = some st) : id.toNat < v.nextId := by
  by_contra hlarge
  rw [hc.stream_fresh (Nat.le_of_not_lt hlarge)] at hst
  cases hst

/-- **A window of the snapshot** keeps deliveries: if it is new, its stream begins. -/
theorem Delivered.sync (h : Delivered base n v e) {w : SourceWindow} {v' : View}
    (hstep : SyncStep cfg w v v') : Delivered base n v' e := by
  cases hstep with
  | opened t hnew hid => exact h.opened hid rfl rfl rfl
  | updated t st hw hst =>
      refine h.aside rfl (fun m hm => updateMessages_aside hm) rfl fun id st' hst' => ?_
      refine View.setStream_back (R := fun st st' => st'.handle = st.handle) (fun _ => rfl) hst
        ?_ hst'
      rfl
  | skipped => exact h

/-- The ends of the windows that have gone, as told and as the encoder heard of them. -/
theorem closed_events {owner : UInt32 → Handle} (howned : Owned base n v owner) (hc : v.Coupled)
    {live : List Handle} {gone part : List TrackedWindow} (hgone : Gone live v gone)
    (hpart : ∀ t ∈ part, t ∈ gone) :
    queuedEvents owner (part.map closedMessage) = polledEvents (forgets v.streams part) := by
  unfold queuedEvents polledEvents forgets
  rw [List.filterMap_map, List.filterMap_filterMap]
  refine List.filterMap_congr fun t ht => ?_
  obtain ⟨handle, -, hw⟩ := (hgone.2 t).mp (hpart t ht)
  obtain ⟨st, hst, -, -⟩ := hc.stream handle t hw
  change some (StreamEvent.ended (owner t.windowId)) = _
  rw [hst, howned.stream _ st hst]
  rfl

/-- **Closing** ends the streams of the windows that have gone. -/
theorem Delivered.close [FrameEncoder E] (h : Delivered base n v e) (hc : v.Coupled)
    {live : List Handle} {gone : List TrackedWindow} (hgone : Gone live v gone) :
    Delivered base n (v.closing live gone) (forgetAll v.streams e gone) := by
  obtain ⟨owner, howned, heq⟩ := h
  refine ⟨owner, howned.tell rfl rfl ?_ ?_, ?_⟩
  · intro id st hst
    simp only [View.closing] at hst
    split at hst
    · cases hst
    · exact howned.stream id st hst
  · intro m hm id hid
    obtain ⟨t, ht, rfl⟩ := List.mem_map.mp hm
    cases hid
    obtain ⟨handle, -, hw⟩ := (hgone.2 t).mp ht
    exact hc.fresh handle t hw
  · change queuedEvents owner (v.told ++ gone.map closedMessage) = _
    rw [queuedEvents_append, forgetAll_calls, polledEvents_append, heq,
      closed_events howned hc hgone fun t ht => ht]

/-- The message for an access unit says what was polled. -/
theorem sentEvent_unit (owner : UInt32 → Handle) (ch : UInt16) (u : EncodedFrame) (id : UInt32)
    (frameId capturedUs encodedUs : UInt64) :
    sentEvent owner ⟨ch, .frameData ((u.picture encodedUs).frame id frameId capturedUs)⟩ =
      some (.unit (owner id) u) := by
  obtain ⟨data, keyframe, width, height⟩ := u
  cases keyframe with
  | false => rfl
  | true => rfl

/-- A submission alone says nothing. -/
theorem polledEvents_submitted [FrameEncoder E] (st : WindowStream) (frame : SourceFrame) :
    polledEvents (submitted cfg st frame e).calls = polledEvents e.calls := by
  rw [submitted_calls, polledEvents_append]
  split
  · exact List.append_nil _
  · exact List.append_nil _

/-- A frame is told of a remembered window, whose flow control it changes. -/
theorem Owned.pictured {owner : UInt32 → Handle} (howned : Owned base n v owner)
    (hc : v.Coupled) {id : UInt32} {st st' : WindowStream} (hst : v.streams id = some st)
    (hhandle : st'.handle = st.handle) (budget : FrameBudget) {f : FrameData}
    (hid : f.windowId = id) : Owned base n (v.pictured id st' budget f) owner := by
  refine howned.tell rfl rfl ?_ ?_
  · intro k sk hk
    have hback : ∃ st₀, v.streams k = some st₀ ∧ sk.handle = st₀.handle := by
      refine View.setStream_back (R := fun st st' => st'.handle = st.handle) (fun _ => rfl) hst
        ?_ hk
      exact hhandle
    obtain ⟨st₀, hst₀, hsame⟩ := hback
    rw [hsame]
    exact howned.stream k st₀ hst₀
  · intro m hm k hk
    cases List.mem_singleton.mp hm
    cases hk
    rw [hid]
    exact stream_given hc hst

/-- **A turn** delivers the unit that it polls. -/
theorem Delivered.pump [FrameEncoder E] (h : Delivered base n v e) (hc : v.Coupled)
    {id : UInt32} {st : WindowStream} {frame : SourceFrame} {F : Feed (Logged EncoderCall E)}
    (hst : v.streams id = some st) (hstep : PumpStep cfg id st frame v e F) :
    Delivered base n F.view F.encoder := by
  obtain ⟨owner, howned, heq⟩ := h
  cases hstep with
  | waited hcoding hpoll =>
      refine ⟨owner, howned, ?_⟩
      simp only
      rw [polled_calls e hcoding, hpoll, polledEvents_append, heq]
      exact (List.append_nil _).symm
  | empty hraw hdata =>
      refine ⟨owner, howned, ?_⟩
      simp only
      rw [polledEvents_submitted]
      exact heq
  | @coded u frameId capturedUs encodedUs budget hcoding hpoll hfits hcap =>
      have hhandle : (st.polled u).handle = st.handle := rfl
      refine ⟨owner, howned.pictured hc hst hhandle budget rfl, ?_⟩
      change queuedEvents owner (v.told ++ [_]) = _
      rw [queuedEvents_append, polled_calls e hcoding, hpoll, polledEvents_append, heq]
      unfold queuedEvents
      rw [List.filterMap_cons, sentEvent_unit, howned.stream id st hst]
      rfl
  | raw hraw hdata hcap =>
      refine ⟨owner, howned.pictured hc hst rfl _ rfl, ?_⟩
      simp only
      rw [polledEvents_submitted]
      change queuedEvents owner (v.told ++ [_]) = _
      rw [queuedEvents_append, heq]
      exact List.append_nil _

/-- A session that stops with everything delivered. -/
theorem Delivered.cut (h : Delivered base n v e) (stop : Stop) {sent : List Sent}
    (haside : ∀ m ∈ sent, Sent.aside m = true) : DeliveredCut base n stop (v.told ++ sent) e := by
  obtain ⟨owner, howned, heq⟩ := h
  refine ⟨owner, howned.base_eq, [], .nothing stop, ?_⟩
  rw [queuedEvents_append, queuedEvents_aside haside, List.append_nil, List.append_nil]
  exact heq.symm

/-- A closing that is cut short has ended some of them. -/
theorem Delivered.closing [FrameEncoder E] (h : Delivered base n v e) (hc : v.Coupled)
    {live : List Handle} {gone : List TrackedWindow} (hgone : Gone live v gone) (stop : Stop)
    {told : List Sent} {e' : Logged EncoderCall E} (hstopped : StoppedClosing gone v e told e') :
    DeliveredCut base n stop told e' := by
  obtain ⟨owner, howned, heq⟩ := h
  obtain ⟨done, t, rest, hall, rfl, rfl⟩ := hstopped
  have hdone : ∀ t' ∈ done, t' ∈ gone := by
    intro t' ht'
    rw [hall]
    exact List.mem_append_left _ ht'
  have hlast : ∀ t' ∈ [t], t' ∈ gone := by
    intro t' ht'
    cases List.mem_singleton.mp ht'
    rw [hall]
    exact List.mem_append_right _ List.mem_cons_self
  refine ⟨owner, howned.base_eq, [.ended (owner t.windowId)], .ended stop _, ?_⟩
  rw [forgetAll_calls, polledEvents_append, ← heq, queuedEvents_append,
    closed_events howned hc hgone hdone, List.append_assoc]
  have hone := closed_events howned hc hgone hlast
  unfold forgets
  rw [List.filterMap_append, polledEvents_append]
  unfold forgets at hone
  rw [← hone]
  rfl

/-- A turn that is cut short delivers its unit last, if at all. -/
theorem Delivered.pumping [FrameEncoder E] (h : Delivered base n v e) {id : UInt32}
    {st : WindowStream} {frame : SourceFrame} {stop : Stop} {told : List Sent}
    {e' : Logged EncoderCall E} (hcut : PumpCut cfg id st frame v e stop told e') :
    DeliveredCut base n stop told e' := by
  obtain ⟨owner, howned, heq⟩ := h
  cases hcut with
  | @coded u encodedUs _ hcoding hpoll hstop =>
      refine ⟨owner, howned.base_eq, [.unit st.handle u], ?_, ?_⟩
      · cases hstop with
        | numbered => exact .unnumbered _ _
        | encoded err hlarge => exact .tooLarge err _ _ hlarge
      · rw [polled_calls e hcoding, hpoll, polledEvents_append, heq]
        rfl
  | raw hraw =>
      refine ⟨owner, howned.base_eq, [], .nothing stop, ?_⟩
      rw [polledEvents_submitted, List.append_nil, heq]

/-- **What is polled is delivered**, step by step. -/
theorem delivered_inv [WindowSource W] [FrameEncoder E] (cfg : Config)
    (base : UInt32 → Handle) (n : Nat) :
    FeedInv (W := W) (E := Logged EncoderCall E) (I := I) cfg (fun _ _ => true)
      (Delivered base n) (DeliveredCut base n) where
  sync := fun _ hstep h => h.sync hstep
  close := fun hc hgone h => h.close hc hgone
  pump := fun hc _ hcaptured hstep h => h.pump hc (captured_inv hcaptured).1 hstep
  ack := by
    intro v e id frameId h
    refine h.aside (List.append_nil _).symm (fun m hm => by cases hm) rfl ?_
    intro k st' hst'
    obtain ⟨st, hst, heq⟩ := (View.idle_ack v id frameId).stream_back hst'
    exact ⟨st, hst, (congrArg Announced.handle heq).symm⟩
  pong := by
    intro v e pong h
    refine h.aside rfl ?_ rfl fun id st hst => ⟨st, hst, rfl⟩
    intro m hm
    cases List.mem_singleton.mp hm
    rfl
  aside := fun stop _ haside h => h.cut stop haside
  closing := fun stop hc hgone hstopped h => h.closing hc hgone stop hstopped
  pumping := fun _ _ _ hcut h => h.pumping hcut

end Delivery

/-! ## Whole runs -/

section Runs

variable {W E I : Type} [WindowSource W] [FrameEncoder E] [InputSink I]

/-- `owner` is the handle of every window that is registered at some point of the run. -/
def OwnerAlong (cfg : Config) (owner : UInt32 → Handle) (s : Session W E I)
    (events : List Event) : Prop :=
  ∀ before after s', events = before ++ after → (drive cfg before).run s = .ok ⟨⟩ s' →
    ∀ h t, s'.view.windows h = some t → owner t.windowId = h

/-- The first event, and the rest if the session goes on. -/
theorem OwnerAlong.cons {cfg : Config} {owner : UInt32 → Handle} {s : Session W E I}
    {event : Event} {rest : List Event}
    (hfirst : ∀ h t, s.view.windows h = some t → owner t.windowId = h)
    (hrest : ∀ m, (step cfg event).run s = .ok ⟨⟩ m → OwnerAlong cfg owner m rest) :
    OwnerAlong cfg owner s (event :: rest) := by
  intro before after s' hevents hdrive
  cases before with
  | nil =>
      cases hdrive
      exact hfirst
  | cons first before =>
      obtain ⟨rfl, htail⟩ := List.cons_eq_cons.mp hevents
      rw [drive_cons] at hdrive
      cases hrun : (step cfg event).run s with
      | error stop m =>
          rw [hrun] at hdrive
          cases hdrive
      | ok u m =>
          rw [hrun] at hdrive
          exact hrest m hrun before after s' htail hdrive

/-- What was polled is what was queued; a session that stopped may have lost the last of
it. -/
def RunDelivers (owner : UInt32 → Handle) :
    EStateM.Result Stop (Session W (Logged EncoderCall E) I) Unit → Prop
  | .ok _ s => queuedEvents owner s.outbound.told = polledEvents s.encoder.calls
  | .error stop s => ∃ lost, Lost stop lost ∧
      polledEvents s.encoder.calls = queuedEvents owner s.outbound.told ++ lost

/-- The windows that are registered now have the handles of `owner`. -/
theorem Owned.registered {base owner : UInt32 → Handle} {n : Nat} {v : View}
    (howned : Owned base n v owner) (hc : v.Coupled) {h : Handle} {t : TrackedWindow}
    (hw : v.windows h = some t) : owner t.windowId = h := by
  obtain ⟨st, hst, -, hhandle⟩ := hc.stream h t hw
  exact (howned.stream t.windowId st hst).trans hhandle

/-- At the start no stream has an owner. -/
theorem Owned.start : Owned (fun _ => 0) View.start.nextId View.start fun _ => 0 where
  base_eq := fun _ _ => rfl
  grown := Nat.le_refl _
  stream := by
    intro id st hst
    cases hst
  named := by
    intro m hm
    cases hm

/-- The induction over the events, from any session that has delivered everything. -/
theorem drive_delivers (cfg : Config) (events : List Event) :
    ∀ (s : Session W (Logged EncoderCall E) I) (base : UInt32 → Handle),
      s.registry.WellFormed → s.view.Coupled → Owned base s.view.nextId s.view base →
      queuedEvents base s.outbound.told = polledEvents s.encoder.calls →
      ∃ owner, (∀ id : UInt32, id.toNat < s.view.nextId → owner id = base id) ∧
        OwnerAlong cfg owner s events ∧ RunDelivers owner ((drive cfg events).run s) := by
  induction events with
  | nil =>
      intro s base hreg hc howned heq
      refine ⟨base, fun _ _ => rfl, ?_, heq⟩
      intro before after s' hevents hrun h t hw
      obtain ⟨rfl, -⟩ := List.append_eq_nil_iff.mp hevents.symm
      cases hrun
      exact howned.registered hc hw
  | cons event rest ih =>
      intro s base hreg hc howned heq
      have hstep := step_fed (delivered_inv cfg base s.view.nextId) event s
        ⟨by rw [everyTurn_free, Bool.or_true], hreg, hc, base, howned, heq⟩
      rw [drive_cons]
      cases hrun : (step cfg event).run s with
      | error stop m =>
          rw [hrun] at hstep
          obtain ⟨owner, hbase, hlost⟩ := hstep
          refine ⟨owner, hbase, .cons (fun h t hw => ?_) fun m' hgone => ?_, hlost⟩
          · rw [hbase _ (hc.fresh h t hw)]
            exact howned.registered hc hw
          · rw [hrun] at hgone
            cases hgone
      | ok u m =>
          rw [hrun] at hstep
          obtain ⟨hreg', hc', owner₁, howned₁, heq₁⟩ := hstep
          have hself : Owned owner₁ m.view.nextId m.view owner₁ :=
            ⟨fun _ _ => rfl, Nat.le_refl _, howned₁.stream, howned₁.named⟩
          obtain ⟨owner, hagree, halong, hdelivers⟩ := ih m owner₁ hreg' hc' hself heq₁
          have hbase : ∀ id : UInt32, id.toNat < s.view.nextId → owner id = base id := by
            intro id hid
            rw [hagree id (Nat.lt_of_lt_of_le hid howned₁.grown)]
            exact howned₁.base_eq id hid
          refine ⟨owner, hbase, .cons (fun h t hw => ?_) fun m' hnext => ?_, hdelivers⟩
          · rw [hbase _ (hc.fresh h t hw)]
            exact howned.registered hc hw
          · rw [hrun] at hnext
            cases hnext
            exact halong

/-- **No access unit is lost or duplicated.**  In every run, what was polled for the handles
of the windows is what was put on the queue for the windows, in the same order and with the
windows ending at the same places; a session that stopped may have lost what came last, and
an access unit only if no frame id was left for it or if it has 4 GiB or more.  Without a free
slot a window's turn captures, submits and polls nothing. -/
theorem polled_units_queued (cfg : Config) (source : W) (encoder : E) (sink : I)
    (events : List Event) :
    (∃ owner, OwnerAlong cfg owner (Session.watched source encoder sink) events ∧
      RunDelivers owner ((drive cfg events).run (Session.watched source encoder sink))) ∧
    ∀ (s : Watched W E I) (id : UInt32),
      ((s.queueNow cfg).closed = true ∨
        outboundQueueCapacity ≤ (s.queueNow cfg).queued.length) →
      (leftBy ((pumpWindow cfg id).run s)).source.calls = s.source.calls ∧
        (leftBy ((pumpWindow cfg id).run s)).encoder.calls = s.encoder.calls := by
  constructor
  · obtain ⟨owner, -, halong, hdelivers⟩ := drive_delivers cfg events
      (Session.watched source encoder sink) (fun _ => 0) WindowRegistry.new_wellFormed .start
      .start rfl
    exact ⟨owner, halong, hdelivers⟩
  · intro s id hnone
    have hlooked : (s.looked cfg).source.calls = s.source.calls ∧
        (s.looked cfg).encoder.calls = s.encoder.calls := ⟨rfl, rfl⟩
    rcases pumpWindow_noSlot hnone id with hrun | hrun
    · rw [hrun]
      exact ⟨rfl, rfl⟩
    · rw [hrun]
      split
      · exact hlooked
      · exact hlooked

end Runs

/-! ## A unit that is too large -/

/-- A tick with a single window to serve is window sync and that window's turn. -/
theorem drive_tick_one {W E I : Type} [WindowSource W] [FrameEncoder E] [InputSink I]
    {cfg : Config} {s s₁ : Session W E I} {id : UInt32}
    (hsync : (syncWindows cfg).run s = .ok ⟨⟩ s₁)
    (hkeys : s₁.streams.keys.insertionSort (· ≤ ·) = [id]) :
    (drive cfg [.tick]).run s = (pumpWindow cfg id).run s₁ := by
  have htick : (step cfg .tick).run s = (pumpFrames cfg).run s₁ := by
    change EStateM.bind (syncWindows cfg) (fun _ => pumpFrames cfg) s = _
    unfold EStateM.bind
    rw [EStateM.run] at hsync
    rw [hsync]
    rfl
  have hpump : (pumpFrames cfg).run s₁ =
      EStateM.bind (pumpWindow cfg id) (fun _ => pure ()) s₁ := by
    change ((s₁.streams.keys.insertionSort (· ≤ ·)).forM (pumpWindow cfg)) s₁ = _
    rw [hkeys]
    rfl
  rw [drive_cons, htick, hpump, EStateM.run]
  unfold EStateM.bind
  cases pumpWindow cfg id s₁ with
  | ok u s' => rfl
  | error e s' => rfl

/-- An encoder that has the same access unit ready at every poll. -/
structure UnitEncoder where
  unit : EncodedFrame
  deriving DecidableEq, Repr

instance : FrameEncoder UnitEncoder where
  submit encoder _ _ _ := encoder
  poll encoder _ := (some encoder.unit, encoder)
  forget encoder _ := encoder
  wantsCpuFrame _ _ _ _ := false
  failed _ _ := false

/-- A keyframe of `n` bytes. -/
def unitOfSize (n : Nat) : EncodedFrame :=
  { data := List.replicate n 0, keyframe := true, width := 1, height := 1 }

def notepadTracked : TrackedWindow := { windowId := 1, videoChannel := 16 }

/-- The announcement of `notepad`, as it is put on the queue. -/
def notepadOpened : OutboundChunk :=
  { msgType := MsgType.windowOpened
    channel := Channel.window
    body :=
      match (Message.windowOpened (openedMessage notepadTracked notepad)).encodeBody with
      | .ok body => body
      | .error _ => [] }

/-- The session between the sync and the frame pump of its first tick. -/
def syncedSession (u : EncodedFrame) : Watched ScriptedSource UnitEncoder NoopSink :=
  { outbound := Outbound.empty.push notepadOpened
    source := { inner := busyScript, calls := [.liveWindows [notepad]] }
    encoder := .fresh { unit := u }
    sink := .fresh .mk
    registry :=
      match WindowRegistry.new.track notepad.handle with
      | .ok (_, registry) => (registry.retainLive [notepad.handle]).2
      | .error _ => .new
    streams :=
      (∅ : Table UInt32 WindowStream).insert 1 (openedStream .coded notepadTracked notepad)
    looks := 1 }

/-- The first tick opens the window of the script. -/
theorem syncWindows_synced (u : EncodedFrame) :
    (syncWindows Config.coded).run
      (Session.watched busyScript { unit := u : UnitEncoder } NoopSink.mk) =
        .ok ⟨⟩ (syncedSession u) := by
  rfl

/-- The payloads polled for one handle. -/
def polledFor (handle : Handle) (calls : List EncoderCall) : List (List UInt8) :=
  calls.filterMap fun
    | .poll h (some u) => if h = handle then some u.data else none
    | _ => none

/-- The H.264 payloads put on the queue for one window. -/
def queuedFor (id : UInt32) (told : List Sent) : List (List UInt8) :=
  told.filterMap fun sent => match sent.message with
    | .frameData f => if f.windowId = id ∧ f.codec = Codec.h264 then some f.data else none
    | _ => none

/-- Where nothing happened to any window, nothing was queued for one. -/
theorem queuedFor_nil {owner : UInt32 → Handle} {told : List Sent} (id : UInt32)
    (h : queuedEvents owner told = []) : queuedFor id told = [] := by
  unfold queuedEvents at h
  rw [List.filterMap_eq_nil_iff] at h
  unfold queuedFor
  rw [List.filterMap_eq_nil_iff]
  intro sent hsent
  have hnone := h sent hsent
  obtain ⟨ch, m⟩ := sent
  cases m with
  | frameData f =>
      have hcodec : f.codec ≠ Codec.h264 := by
        intro hcodec
        simp [sentEvent, hcodec] at hnone
      exact if_neg fun hboth => hcodec hboth.2
  | _ => rfl

/-- A turn that is cut short leaves the queue as it was and the encoder polled. -/
theorem PumpCut.left {E : Type} [FrameEncoder E] {cfg : Config} {id : UInt32}
    {st : WindowStream} {frame : SourceFrame} {v : View} {e e' : E} {stop : Stop}
    {told : List Sent} (h : PumpCut cfg id st frame v e stop told e')
    (hcoding : Coding cfg st (submitted cfg st frame e)) :
    told = v.told ∧ e' = (FrameEncoder.poll (submitted cfg st frame e) st.handle).2 := by
  cases h with
  | coded => exact ⟨rfl, rfl⟩
  | raw hraw => exact absurd hcoding hraw

/-- A unit that a `FrameData` cannot carry is polled and not queued. -/
theorem large_unit_lost {u : EncodedFrame} (hlarge : 2 ^ 32 ≤ u.data.length) :
    ∃ stop s, (drive .coded [.tick]).run
        (Session.watched busyScript { unit := u : UnitEncoder } NoopSink.mk) = .error stop s ∧
      polledFor notepad.handle s.encoder.calls = [u.data] ∧
      queuedFor 1 s.outbound.told = [] := by
  have hkeys : (syncedSession u).streams.keys.insertionSort (· ≤ ·) = [1] := rfl
  have hstart : Fed (Delivered (fun _ => 0) View.start.nextId)
      (Session.watched busyScript { unit := u : UnitEncoder } NoopSink.mk) :=
    ⟨WindowRegistry.new_wellFormed, .start, _, .start, rfl⟩
  obtain ⟨hreg, -, owner₁, -, heq₁⟩ :=
    (syncWindows_fed (delivered_inv .coded (fun _ => 0) View.start.nextId)).of_ok hstart
      (syncWindows_synced u)
  have hturn := @pumpWindow_feed _ _ _ .coded _ 1 _ (syncedSession u) hreg (syncedSession u) rfl
  rw [drive_tick_one (syncWindows_synced u) hkeys]
  obtain ⟨st, frame, hcaptured, hhandle⟩ :
      ∃ st frame, (syncedSession u).captured .coded 1 = some (st, frame) ∧
        st.handle = notepad.handle := ⟨_, _, rfl, rfl⟩
  have hcoding : Coding .coded st (submitted .coded st frame (syncedSession u).encoder) :=
    ⟨rfl, rfl⟩
  have hpolled : (FrameEncoder.poll (submitted .coded st frame (syncedSession u).encoder)
    st.handle).1 = some u := rfl
  rw [hcaptured] at hturn
  cases hrun : (pumpWindow .coded 1).run (syncedSession u) with
  | ok r s =>
      rw [hrun] at hturn
      obtain ⟨F, hstep, -⟩ := hturn
      cases hstep with
      | waited _ hpoll =>
          rw [hpolled] at hpoll
          cases hpoll
      | coded _ hpoll hfits =>
          rw [hpolled] at hpoll
          cases hpoll
          omega
      | empty hraw => exact absurd hcoding hraw
      | raw hraw => exact absurd hcoding hraw
  | error stop s =>
      rw [hrun] at hturn
      refine ⟨stop, s, rfl, ?_⟩
      rcases hturn with ⟨hnone, -⟩ | ⟨st', frame', hcaptured', hcut⟩
      · rw [hcaptured] at hnone
        cases hnone
      · rw [hcaptured] at hcaptured'
        cases hcaptured'
        obtain ⟨htold, hencoder⟩ := hcut.left hcoding
        rw [htold, hencoder, polled_calls _ hcoding, hpolled, hhandle]
        exact ⟨rfl, queuedFor_nil 1 heq₁⟩

/-- A unit of any size can be made. -/
theorem unitOfSize_length (n : Nat) : (unitOfSize n).data.length = n := List.length_replicate

/-- **A unit of 4 GiB is lost.**  The encoder hands out an access unit that no `FrameData` can
carry: it was polled, but nothing is on the queue. -/
theorem giant_unit_lost :
    queuedFor 1 (watchedAfter .coded busyScript
        { unit := unitOfSize (2 ^ 32) : UnitEncoder } NoopSink.mk [.tick]).outbound.told ≠
      polledFor notepad.handle (watchedAfter .coded busyScript
        { unit := unitOfSize (2 ^ 32) : UnitEncoder } NoopSink.mk [.tick]).encoder.calls := by
  obtain ⟨stop, s, hrun, hpolled, hqueued⟩ :=
    large_unit_lost (unitOfSize_length (2 ^ 32)).ge
  unfold watchedAfter
  rw [hrun]
  change queuedFor 1 s.outbound.told ≠ polledFor notepad.handle s.encoder.calls
  rw [hpolled, hqueued]
  exact List.cons_ne_nil _ _ |>.symm

end Oxrdp
