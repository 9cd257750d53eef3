import Oxrdp.Client.Monitor

/-!
# The latency monitor over whole runs

What `LatencyMonitor` counts, for every order of arrivals, decodes, presentations, drops and
removals.  A frame leaves the table of its window by being presented or dropped, or because the
table is full, which may happen to the frame that has just come in; each way counts it once.

`lookup_step` says what an event does to one window, and `Accounted` is what every event keeps:
the arrivals since the window is tracked are presented, dropped or in flight, and what is in
flight carries the timestamps it came with.  The stages of a presented frame add up because the
offset cancels out between the two timestamps of the agent (`stages_sum`).
-/

namespace Oxrdp

/-! ## One window -/

namespace WindowLatency

variable {l : WindowLatency}

/-- `on_decoded`, on the window of the frame. -/
def noteDecoded (l : WindowLatency) (frameId decodedUs : UInt64) : WindowLatency :=
  match l.inFlight.lookup frameId with
  | none => l
  | some seen =>
      { l with inFlight := l.inFlight.insert frameId { seen with decodedUs := some decodedUs } }

/-- `on_presented`, on the window of the frame. -/
def notePresented (l : WindowLatency) (frameId : UInt64) : WindowLatency :=
  match l.inFlight.lookup frameId with
  | none => l
  | some _ => { l with inFlight := l.inFlight.erase frameId, presented := l.presented + 1 }

/-- `on_dropped`, on the window of the frame. -/
def noteDropped (l : WindowLatency) (frameId : UInt64) : WindowLatency :=
  match l.inFlight.lookup frameId with
  | none => l
  | some _ => { l with inFlight := l.inFlight.erase frameId, dropped := l.dropped + 1 }

/-- A table that is not empty has an oldest frame. -/
theorem keys_min?_of_size {t : Table UInt64 PartialFrame} (h : 0 < t.size) :
    ∃ oldest, t.keys.min? = some oldest := by
  apply Option.isSome_iff_exists.mp
  rw [List.isSome_min?_iff]
  intro hempty
  rw [Table.size, ← List.length_map, ← List.keys, ← AList.keys, hempty] at h
  exact absurd h (Nat.lt_irrefl 0)

/-- Eviction counts what it gives up, and leaves the rest as it is. -/
theorem evict_spec (l : WindowLatency) :
    l.evict.presented = l.presented ∧
      l.evict.dropped + l.evict.inFlight.size = l.dropped + l.inFlight.size ∧
      l.evict.inFlight.size ≤ maxInFlight ∧
      ∀ id seen, l.evict.inFlight.lookup id = some seen → l.inFlight.lookup id = some seen := by
  fun_induction evict l with
  | case1 l hfull hmin =>
      obtain ⟨oldest, holdest⟩ := keys_min?_of_size (t := l.inFlight) (by omega)
      rw [holdest] at hmin
      cases hmin
  | case2 l hfull oldest hmin ih =>
      obtain ⟨hpresented, hsum, hsize, hlookup⟩ := ih
      obtain ⟨seen, hseen⟩ := Table.lookup_of_mem (List.min?_mem hmin)
      have herase := Table.size_erase hseen
      dsimp only at hpresented hsum hlookup
      exact ⟨hpresented, by omega, hsize,
        fun id seen h => (Table.of_lookup_erase (hlookup id seen h)).2⟩
  | case3 l hroom => exact ⟨rfl, rfl, by omega, fun _ _ h => h⟩

end WindowLatency

/-- A frame in flight is one that arrived, with its timestamps and the last decode time that was
reported of it. -/
def PartialFrame.Of (seen : PartialFrame) (frame : ArrivedFrame) (report : Option UInt64) : Prop :=
  seen.capturedUs = frame.capturedUs ∧ seen.encodedUs = frame.encodedUs ∧
    seen.arrivedUs = frame.arrivedUs ∧ seen.decodedUs = report

/-- A window and what has happened to it: the frames that arrived, and the decode times that were
reported of them. -/
structure Accounted (known : List ArrivedFrame) (reports : UInt64 → Option UInt64)
    (l : WindowLatency) : Prop where
  conserved : known.length = l.presented + l.dropped + l.inFlight.size
  bounded : l.inFlight.size ≤ maxInFlight
  of_known : ∀ id seen, l.inFlight.lookup id = some seen →
    ∃ frame ∈ known, frame.frameId = id ∧ seen.Of frame (reports id)

namespace Accounted

variable {known : List ArrivedFrame} {reports : UInt64 → Option UInt64} {l : WindowLatency}

/-- Of a new window nothing is known, and nothing is to be accounted for. -/
theorem new : Accounted [] reports .new where
  conserved := rfl
  bounded := Nat.zero_le _
  of_known := by
    intro id seen h
    cases h

/-- A frame with an id that did not arrive before. -/
theorem arrive (h : Accounted known reports l) {frame : ArrivedFrame} {seen : PartialFrame}
    (hfresh : frame.frameId ∉ known.map ArrivedFrame.frameId) (hseen : seen.Of frame none) :
    Accounted (known ++ [frame]) (Function.update reports frame.frameId none)
      { l with inFlight := l.inFlight.insert frame.frameId seen }.evict := by
  have hnone : l.inFlight.lookup frame.frameId = none := by
    by_contra hsome
    obtain ⟨old, hold⟩ := Option.ne_none_iff_exists'.mp hsome
    obtain ⟨other, hmem, hid, -⟩ := h.of_known _ _ hold
    exact hfresh (List.mem_map.mpr ⟨other, hmem, hid⟩)
  obtain ⟨hpresented, hsum, hsize, hlookup⟩ := WindowLatency.evict_spec
    { l with inFlight := l.inFlight.insert frame.frameId seen }
  have hinsert := Table.size_insert_new seen hnone
  have hconserved := h.conserved
  dsimp only at hpresented hsum hlookup
  constructor
  case conserved =>
    rw [List.length_append, List.length_singleton]
    omega
  case bounded => exact hsize
  case of_known =>
    intro id found hfound
    rcases Table.of_lookup_insert (hlookup id found hfound) with ⟨rfl, rfl⟩ | ⟨hid, hin⟩
    · rw [Function.update_self]
      exact ⟨frame, List.mem_append_right _ List.mem_cons_self, rfl, hseen⟩
    · rw [Function.update_of_ne hid]
      obtain ⟨other, hmem, hother⟩ := h.of_known id found hin
      exact ⟨other, List.mem_append_left _ hmem, hother⟩

/-- A frame that leaves the table has to be counted. -/
theorem leave (h : Accounted known reports l) {id : UInt64} {seen : PartialFrame}
    (hseen : l.inFlight.lookup id = some seen) {presented dropped : Nat}
    (hcount : presented + dropped = l.presented + l.dropped + 1) :
    Accounted known reports { inFlight := l.inFlight.erase id, presented, dropped } := by
  have herase := Table.size_erase hseen
  have hconserved := h.conserved
  have hbounded := h.bounded
  constructor
  case conserved => dsimp only; omega
  case bounded => dsimp only; omega
  case of_known =>
    intro id' found hfound
    exact h.of_known id' found (Table.of_lookup_erase hfound).2

/-- A presented frame is known no more, and counted. -/
theorem notePresented (h : Accounted known reports l) (id : UInt64) :
    Accounted known reports (l.notePresented id) := by
  unfold WindowLatency.notePresented
  split
  next => exact h
  next seen hseen => exact h.leave hseen (by omega)

/-- A dropped one likewise. -/
theorem noteDropped (h : Accounted known reports l) (id : UInt64) :
    Accounted known reports (l.noteDropped id) := by
  unfold WindowLatency.noteDropped
  split
  next => exact h
  next seen hseen => exact h.leave hseen (by omega)

/-- A decoded frame is reported with its time. -/
theorem noteDecoded (h : Accounted known reports l) (id decodedUs : UInt64) :
    Accounted known (Function.update reports id (some decodedUs)) (l.noteDecoded id decodedUs) := by
  unfold WindowLatency.noteDecoded
  split
  next hnone =>
    refine ⟨h.conserved, h.bounded, fun id' found hfound => ?_⟩
    have hid : id' ≠ id := by
      rintro rfl
      rw [hnone] at hfound
      cases hfound
    rw [Function.update_of_ne hid]
    exact h.of_known id' found hfound
  next seen hseen =>
    have hinsert := Table.size_insert_old { seen with decodedUs := some decodedUs } hseen
    have hconserved := h.conserved
    have hbounded := h.bounded
    constructor
    case conserved => dsimp only; omega
    case bounded => dsimp only; omega
    case of_known =>
      intro id' found hfound
      rcases Table.of_lookup_insert hfound with ⟨rfl, rfl⟩ | ⟨hid, hfound⟩
      · obtain ⟨frame, hmem, hframe, hcaptured, hencoded, harrived, -⟩ := h.of_known id' seen hseen
        rw [Function.update_self]
        exact ⟨frame, hmem, hframe, hcaptured, hencoded, harrived, rfl⟩
      · rw [Function.update_of_ne hid]
        exact h.of_known id' found hfound

end Accounted

/-! ## Events -/

/-- A call of the monitor. -/
inductive LatencyEvent where
  | readStall (stalledUs : UInt64)
  | arrived (frame : ArrivedFrame)
  | decoded (windowId : UInt32) (frameId decodedUs : UInt64)
  | presented (windowId : UInt32) (frameId presentedUs : UInt64) (offsetUs : Int64)
  | dropped (windowId : UInt32) (frameId : UInt64)
  | forgotten (windowId : UInt32)
  deriving DecidableEq

namespace LatencyMonitor

def step (m : LatencyMonitor) : LatencyEvent → LatencyMonitor
  | .readStall stalledUs => m.onReadStall stalledUs
  | .arrived frame => m.onArrival frame
  | .decoded windowId frameId decodedUs => m.onDecoded windowId frameId decodedUs
  | .presented windowId frameId presentedUs offsetUs =>
      (m.onPresented windowId frameId presentedUs offsetUs).2
  | .dropped windowId frameId => m.onDropped windowId frameId
  | .forgotten windowId => m.forget windowId

/-- A monitor that records, after some calls. -/
def after (events : List LatencyEvent) : LatencyMonitor := events.foldl step (withRecording true)

end LatencyMonitor

/-- The frames that arrived for a window since it is tracked. -/
def arrivedSince (v : UInt32) (events : List LatencyEvent) : List ArrivedFrame :=
  events.foldl
    (fun known event =>
      match event with
      | .arrived frame => if frame.windowId = v then known ++ [frame] else known
      | .forgotten windowId => if windowId = v then [] else known
      | _ => known) []

/-- The last decode time that was reported of each frame of a window since it arrived. -/
def reportsOf (v : UInt32) (events : List LatencyEvent) : UInt64 → Option UInt64 :=
  events.foldl
    (fun reports event =>
      match event with
      | .arrived frame =>
          if frame.windowId = v then Function.update reports frame.frameId none else reports
      | .decoded windowId frameId decodedUs =>
          if windowId = v then Function.update reports frameId (some decodedUs) else reports
      | _ => reports) fun _ => none

/-- What has arrived since the window was forgotten, one event later. -/
theorem arrivedSince_snoc (v : UInt32) (events : List LatencyEvent) (event : LatencyEvent) :
    arrivedSince v (events ++ [event]) =
      match event with
      | .arrived frame =>
          if frame.windowId = v then arrivedSince v events ++ [frame] else arrivedSince v events
      | .forgotten windowId => if windowId = v then [] else arrivedSince v events
      | _ => arrivedSince v events := by
  rw [arrivedSince, List.foldl_append]
  rfl

/-- What was reported since then, one event later. -/
theorem reportsOf_snoc (v : UInt32) (events : List LatencyEvent) (event : LatencyEvent) :
    reportsOf v (events ++ [event]) =
      match event with
      | .arrived frame =>
          if frame.windowId = v then Function.update (reportsOf v events) frame.frameId none
          else reportsOf v events
      | .decoded windowId frameId decodedUs =>
          if windowId = v then Function.update (reportsOf v events) frameId (some decodedUs)
          else reportsOf v events
      | _ => reportsOf v events := by
  rw [reportsOf, List.foldl_append]
  rfl

/-! ## What an event does to a window -/

namespace LatencyMonitor

variable {m : LatencyMonitor} {v : UInt32}

/-- A change of one window changes what is found there. -/
theorem lookup_amend (windowId : UInt32) (f : WindowLatency → WindowLatency) :
    (m.amend windowId f).windows.lookup v =
      if windowId = v then (m.windows.lookup v).map f else m.windows.lookup v := by
  unfold amend
  split_ifs with hv
  · subst hv
    split
    next hnone => rw [hnone]; rfl
    next l hl => rw [hl, AList.lookup_insert]; rfl
  · split
    next => rfl
    next => rw [AList.lookup_insert_ne (Ne.symm hv)]

/-- **An arrival** notes the frame, with the oldest given up where there are too many. -/
theorem lookup_onArrival (henabled : m.enabled = true) (frame : ArrivedFrame) :
    ∃ seen : PartialFrame, seen.Of frame none ∧
      (m.onArrival frame).windows.lookup v =
        if frame.windowId = v then
          let l := (m.windows.lookup v).getD .new
          some { l with inFlight := l.inFlight.insert frame.frameId seen }.evict
        else m.windows.lookup v := by
  rw [onArrival, if_pos henabled]
  let seen : PartialFrame :=
    { capturedUs := frame.capturedUs
      encodedUs := frame.encodedUs
      arrivedUs := frame.arrivedUs
      decodedUs := none
      keyframe := frame.keyframe
      bytes := frame.bytes
      encodeGapUs := (m.lastEncodedUs.lookup frame.windowId).map frame.encodedUs.saturatingSub
      arrivalGapUs := (m.lastArrivalUs.lookup frame.windowId).map frame.arrivedUs.saturatingSub
      backlog := ((m.windows.lookup frame.windowId).getD .new).inFlight.size }
  refine ⟨seen, ⟨rfl, rfl, rfl, rfl⟩, ?_⟩
  split_ifs with hv
  · subst hv
    exact AList.lookup_insert ..
  · exact AList.lookup_insert_ne (Ne.symm hv)

/-- A decoded frame is noted in its window, if that is known. -/
theorem lookup_onDecoded (henabled : m.enabled = true) (windowId : UInt32)
    (frameId decodedUs : UInt64) :
    (m.onDecoded windowId frameId decodedUs).windows.lookup v =
      if windowId = v then (m.windows.lookup v).map fun l => l.noteDecoded frameId decodedUs
      else m.windows.lookup v := by
  rw [onDecoded, if_pos henabled]
  exact lookup_amend windowId _

/-- A dropped frame is noted in its window, if that is known. -/
theorem lookup_onDropped (henabled : m.enabled = true) (windowId : UInt32) (frameId : UInt64) :
    (m.onDropped windowId frameId).windows.lookup v =
      if windowId = v then (m.windows.lookup v).map fun l => l.noteDropped frameId
      else m.windows.lookup v := by
  rw [onDropped, if_pos henabled]
  exact lookup_amend windowId _

/-- A presented frame is noted in its window, if that is known. -/
theorem lookup_onPresented (henabled : m.enabled = true) (windowId : UInt32)
    (frameId presentedUs : UInt64) (offsetUs : Int64) :
    (m.onPresented windowId frameId presentedUs offsetUs).2.windows.lookup v =
      if windowId = v then (m.windows.lookup v).map fun l => l.notePresented frameId
      else m.windows.lookup v := by
  rw [onPresented, if_pos henabled]
  split
  next hnone =>
    split_ifs with hv
    · subst hv
      cases hl : m.windows.lookup windowId with
      | none => rfl
      | some l =>
          have hnone : l.inFlight.lookup frameId = none := by
            rw [hl] at hnone
            exact hnone
          simp [WindowLatency.notePresented, hnone]
    · rfl
  next seen hseen =>
    dsimp only
    rw [(complete_windows _).1, lookup_amend]
    split_ifs with hv
    · subst hv
      obtain ⟨l, hl, hseen⟩ := Option.bind_eq_some_iff.mp hseen
      simp [hl, WindowLatency.notePresented, hseen]
    · rfl

/-- A forgotten window is not known. -/
theorem lookup_forget (windowId : UInt32) :
    (m.forget windowId).windows.lookup v =
      if windowId = v then none else m.windows.lookup v := by
  simp only [forget, Table.lookup_erase_ite, eq_comm]

/-- What does not belong to a window: recording goes on, and the timeline is bounded. -/
structure Recording (m : LatencyMonitor) : Prop where
  enabled : m.enabled = true
  timeline_le : m.timeline.length ≤ sampleWindow

/-- A change of one window keeps the rest of the recording. -/
theorem Recording.amend (h : m.Recording) (windowId : UInt32) (f : WindowLatency → WindowLatency) :
    (m.amend windowId f).Recording := by
  unfold LatencyMonitor.amend
  split
  next => exact h
  next => exact ⟨h.enabled, h.timeline_le⟩

/-- A full timeline loses one frame for the one that it gets. -/
theorem Recording.complete (h : m.Recording) (completed : Completed) :
    (m.complete completed).Recording := by
  have hle := h.timeline_le
  have hpos : 0 < sampleWindow := by decide
  refine ⟨(complete_windows completed).2.trans h.enabled, ?_⟩
  unfold LatencyMonitor.complete
  rw [List.length_append, List.length_singleton]
  split
  next hfull =>
    rw [List.length_tail]
    omega
  next hroom => omega

/-- Every event keeps the recording. -/
theorem Recording.step (h : m.Recording) (event : LatencyEvent) : (m.step event).Recording := by
  have henabled := h.enabled
  cases event with
  | readStall stalledUs =>
      rw [LatencyMonitor.step, onReadStall, if_pos henabled]
      exact ⟨h.enabled, h.timeline_le⟩
  | arrived frame =>
      rw [LatencyMonitor.step, onArrival, if_pos henabled]
      exact ⟨h.enabled, h.timeline_le⟩
  | decoded windowId frameId decodedUs =>
      rw [LatencyMonitor.step, onDecoded, if_pos henabled]
      exact h.amend windowId _
  | presented windowId frameId presentedUs offsetUs =>
      rw [LatencyMonitor.step, onPresented, if_pos henabled]
      split
      next => exact h
      next => exact (h.amend windowId _).complete _
  | dropped windowId frameId =>
      rw [LatencyMonitor.step, onDropped, if_pos henabled]
      exact h.amend windowId _
  | forgotten windowId => exact ⟨h.enabled, h.timeline_le⟩

/-- The monitor after one more event. -/
theorem after_snoc (events : List LatencyEvent) (event : LatencyEvent) :
    after (events ++ [event]) = (after events).step event := by
  rw [after, List.foldl_append]
  rfl

/-- Every run keeps what is recorded consistent. -/
theorem after_recording (events : List LatencyEvent) : (after events).Recording := by
  induction events using List.reverseRecOn with
  | nil => exact ⟨rfl, Nat.zero_le _⟩
  | append_singleton events event ih =>
      rw [after_snoc]
      exact ih.step event

/-! ## What a run keeps -/

/-- A window that is tracked is accounted for, and nothing has arrived for one that is not. -/
def Balanced (known : List ArrivedFrame) (reports : UInt64 → Option UInt64) :
    Option WindowLatency → Prop
  | none => known = []
  | some l => Accounted known reports l

/-- What balances a window balances it after a change that accounts. -/
theorem Balanced.map {known : List ArrivedFrame} {reports reports' : UInt64 → Option UInt64}
    {window : Option WindowLatency} (h : Balanced known reports window)
    {f : WindowLatency → WindowLatency}
    (hf : ∀ l, Accounted known reports l → Accounted known reports' (f l)) :
    Balanced known reports' (window.map f) := by
  cases window with
  | none => exact h
  | some l => exact hf l h

/-- A window that is not known balances like a new one. -/
theorem Balanced.getD {known : List ArrivedFrame} {reports : UInt64 → Option UInt64}
    {window : Option WindowLatency} (h : Balanced known reports window) :
    Accounted known reports (window.getD .new) := by
  cases window with
  | none =>
      rw [Balanced] at h
      subst h
      exact .new
  | some l => exact h

/-- Every event keeps a window balanced, if no id arrives twice. -/
theorem after_balanced (v : UInt32) (events : List LatencyEvent)
    (hdistinct : ((arrivedSince v events).map ArrivedFrame.frameId).Nodup) :
    Balanced (arrivedSince v events) (reportsOf v events) ((after events).windows.lookup v) := by
  induction events using List.reverseRecOn with
  | nil => rfl
  | append_singleton events event ih =>
      have henabled := (after_recording events).enabled
      rw [arrivedSince_snoc] at hdistinct
      rw [after_snoc, arrivedSince_snoc, reportsOf_snoc]
      cases event with
      | readStall stalledUs =>
          have hsame : ((after events).onReadStall stalledUs).windows = (after events).windows := by
            rw [onReadStall, if_pos henabled]
          dsimp only [step]
          rw [hsame]
          exact ih hdistinct
      | arrived frame =>
          obtain ⟨seen, hseen, hlookup⟩ := lookup_onArrival (v := v) henabled frame
          dsimp only [step] at hdistinct ⊢
          rw [hlookup]
          split_ifs at hdistinct ⊢ with hv
          · rw [List.map_append, List.nodup_append] at hdistinct
            obtain ⟨hbefore, -, hfresh⟩ := hdistinct
            refine (ih hbefore).getD.arrive (fun hmem => ?_) hseen
            exact hfresh _ hmem _ List.mem_cons_self rfl
          · exact ih hdistinct
      | decoded windowId frameId decodedUs =>
          dsimp only [step]
          rw [lookup_onDecoded henabled]
          split_ifs
          · exact (ih hdistinct).map fun l hl => hl.noteDecoded frameId decodedUs
          · exact ih hdistinct
      | presented windowId frameId presentedUs offsetUs =>
          dsimp only [step]
          rw [lookup_onPresented henabled]
          split_ifs
          · exact (ih hdistinct).map fun l hl => hl.notePresented frameId
          · exact ih hdistinct
      | dropped windowId frameId =>
          dsimp only [step]
          rw [lookup_onDropped henabled]
          split_ifs
          · exact (ih hdistinct).map fun l hl => hl.noteDropped frameId
          · exact ih hdistinct
      | forgotten windowId =>
          dsimp only [step] at hdistinct ⊢
          rw [lookup_forget]
          split_ifs at hdistinct ⊢
          · rfl
          · exact ih hdistinct

end LatencyMonitor

/-! ## The stages of a frame -/

/-- A timestamp of the agent has one on the clock of the client. -/
def Converts (agentUs : UInt64) (offsetUs : Int64) : Prop :=
  0 ≤ (agentUs.toNat : Int) - offsetUs.toInt ∧ (agentUs.toNat : Int) - offsetUs.toInt < 2 ^ 64

/-- Then the conversion takes the offset off. -/
theorem toNat_agentToClient {agentUs : UInt64} {offsetUs : Int64} (h : Converts agentUs offsetUs) :
    ((agentToClient agentUs offsetUs).toNat : Int) = agentUs.toNat - offsetUs.toInt := by
  obtain ⟨hlow, hhigh⟩ := h
  have hmin := offsetUs.le_toInt
  have hmax := offsetUs.toInt_lt
  have habs : (UInt64.ofNat offsetUs.toInt.natAbs).toNat = offsetUs.toInt.natAbs := by
    rw [UInt64.toNat_ofNat', Nat.mod_eq_of_lt]
    omega
  unfold agentToClient
  by_cases hsign : 0 ≤ offsetUs
  · have hpos : 0 ≤ offsetUs.toInt := Int64.le_iff_toInt_le.mp hsign
    rw [if_pos hsign, UInt64.toNat_saturatingSub, habs]
    omega
  · have hneg : ¬ 0 ≤ offsetUs.toInt := fun h => hsign (Int64.le_iff_toInt_le.mpr h)
    rw [if_neg hsign, UInt64.toNat_saturatingAdd, habs]
    omega

/-- The timestamps of a frame are in order, on the clock of the client. -/
structure StampsInOrder (capturedUs encodedUs arrivedUs decodedUs presentedUs : UInt64)
    (offsetUs : Int64) : Prop where
  captured : Converts capturedUs offsetUs
  encoded : Converts encodedUs offsetUs
  captured_le : agentToClient capturedUs offsetUs ≤ agentToClient encodedUs offsetUs
  encoded_le : agentToClient encodedUs offsetUs ≤ arrivedUs
  arrived_le : arrivedUs ≤ decodedUs
  decoded_le : decodedUs ≤ presentedUs

/-- The stages of a frame whose timestamps are in order add up. -/
theorem stages_sum {seen : PartialFrame} {presentedUs : UInt64} {offsetUs : Int64}
    (h : StampsInOrder seen.capturedUs seen.encodedUs seen.arrivedUs
      (seen.decodedUs.getD seen.arrivedUs) presentedUs offsetUs) :
    let stages := LatencyMonitor.stages seen presentedUs offsetUs
    stages.clientUs.toNat = stages.arrivalToDecodeUs.toNat + stages.decodeToPresentUs.toNat ∧
      stages.totalUs.toNat = stages.captureToEncodeUs.toNat + stages.encodeToArrivalUs.toNat +
        stages.arrivalToDecodeUs.toNat + stages.decodeToPresentUs.toNat := by
  have hcaptured := toNat_agentToClient h.captured
  have hencoded := toNat_agentToClient h.encoded
  have hcapturedLe := UInt64.le_iff_toNat_le.mp h.captured_le
  have hencodedLe := UInt64.le_iff_toNat_le.mp h.encoded_le
  have harrivedLe := UInt64.le_iff_toNat_le.mp h.arrived_le
  have hdecodedLe := UInt64.le_iff_toNat_le.mp h.decoded_le
  simp only [LatencyMonitor.stages, UInt64.toNat_saturatingSub]
  omega

/-- **What the monitor counts.**  Whatever the order of events, the frames that arrived for a
window since it is tracked are presented, dropped or in flight, of which no more than the tables
may hold, as long as no id arrives twice.  A frame that is presented is one of these, and if its
timestamps are in order its stages add up to the total. -/
theorem monitor_conserves (v : UInt32) (events : List LatencyEvent)
    (hdistinct : ((arrivedSince v events).map ArrivedFrame.frameId).Nodup) :
    (∀ l, (LatencyMonitor.after events).windows.lookup v = some l →
      (arrivedSince v events).length = l.presented + l.dropped + l.inFlight.size ∧
        l.inFlight.size ≤ maxInFlight) ∧
    (LatencyMonitor.after events).timeline.length ≤ sampleWindow ∧
    ∀ id presentedUs offsetUs stages,
      ((LatencyMonitor.after events).onPresented v id presentedUs offsetUs).1 = some stages →
        ∃ frame ∈ arrivedSince v events, frame.frameId = id ∧
          (StampsInOrder frame.capturedUs frame.encodedUs frame.arrivedUs
              ((reportsOf v events id).getD frame.arrivedUs) presentedUs offsetUs →
            stages.clientUs.toNat =
                stages.arrivalToDecodeUs.toNat + stages.decodeToPresentUs.toNat ∧
              stages.totalUs.toNat = stages.captureToEncodeUs.toNat +
                stages.encodeToArrivalUs.toNat + stages.arrivalToDecodeUs.toNat +
                stages.decodeToPresentUs.toNat) := by
  have hbalanced := LatencyMonitor.after_balanced v events hdistinct
  have hrecording := LatencyMonitor.after_recording events
  refine ⟨fun l hl => ?_, hrecording.timeline_le, fun id presentedUs offsetUs stages h => ?_⟩
  · rw [hl] at hbalanced
    exact ⟨hbalanced.conserved, hbalanced.bounded⟩
  · rw [LatencyMonitor.onPresented, if_pos hrecording.enabled] at h
    split at h
    next => cases h
    next seen hseen =>
      cases h
      obtain ⟨l, hl, hseen⟩ := Option.bind_eq_some_iff.mp hseen
      rw [hl] at hbalanced
      obtain ⟨frame, hmem, hid, hcaptured, hencoded, harrived, hdecoded⟩ :=
        hbalanced.of_known id seen hseen
      refine ⟨frame, hmem, hid, fun horder => stages_sum ?_⟩
      rw [hcaptured, hencoded, harrived, hdecoded]
      exact horder

/-- Three frames of a window that came back, one of which has been presented and one dropped, on
an agent whose clock is 40 behind. -/
def clip : List LatencyEvent :=
  let frame : UInt64 → ArrivedFrame := fun id =>
    { windowId := 3, frameId := id, capturedUs := 60, encodedUs := 70, arrivedUs := 130,
      keyframe := false, bytes := 100 }
  [.arrived (frame 7), .forgotten 3, .arrived (frame 7), .arrived (frame 8), .arrived (frame 9),
    .presented 3 7 150 (-40), .decoded 3 8 140, .dropped 3 9]

/-- Three frames arrive at the clip's window, and all three are accounted for. -/
theorem clip_conserved :
    (∃ l, (LatencyMonitor.after clip).windows.lookup 3 = some l ∧
      3 = l.presented + l.dropped + l.inFlight.size ∧ l.inFlight.size ≤ maxInFlight) ∧
    ∃ stages, ((LatencyMonitor.after clip).onPresented 3 8 160 (-40)).1 = some stages ∧
      stages.totalUs = 60 ∧ stages.totalUs.toNat = stages.captureToEncodeUs.toNat +
        stages.encodeToArrivalUs.toNat + stages.arrivalToDecodeUs.toNat +
        stages.decodeToPresentUs.toNat := by
  have hconserves := monitor_conserves 3 clip (by decide)
  constructor
  · have htracked : ((LatencyMonitor.after clip).windows.lookup 3).isSome := by decide +kernel
    obtain ⟨l, hl⟩ := Option.isSome_iff_exists.mp htracked
    exact ⟨l, hl, hconserves.1 l hl⟩
  · have hstages : ((LatencyMonitor.after clip).onPresented 3 8 160 (-40)).1 = some
        { captureToEncodeUs := 10, encodeToArrivalUs := 20, arrivalToDecodeUs := 10,
          decodeToPresentUs := 20, clientUs := 30, totalUs := 60 } := by decide +kernel
    obtain ⟨frame, hmem, -, hsum⟩ := hconserves.2.2 8 160 (-40) _ hstages
    have hframes : ∀ f ∈ arrivedSince 3 clip,
        f.capturedUs = 60 ∧ f.encodedUs = 70 ∧ f.arrivedUs = 130 := by decide
    obtain ⟨hcaptured, hencoded, harrived⟩ := hframes frame hmem
    have hreport : reportsOf 3 clip 8 = some 140 := by decide
    rw [hcaptured, hencoded, harrived, hreport] at hsum
    refine ⟨_, hstages, rfl, (hsum ?_).2⟩
    exact {
      captured := by unfold Converts; decide
      encoded := by unfold Converts; decide
      captured_le := by decide
      encoded_le := by decide
      arrived_le := by decide
      decoded_le := by decide }

end Oxrdp
