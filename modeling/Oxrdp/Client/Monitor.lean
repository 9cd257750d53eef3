import Oxrdp.Lib.Saturating
import Oxrdp.Lib.Table
import Oxrdp.Proto.Message.Window

/-!
# Per-window accounting of the client

`LatencyMonitor` of `latency.rs` and `DecodeTimes` of `main.rs`: what the session task
remembers of frames that it has seen and that are not presented yet, and the frames that were
finished last.  The other statistics that only a report prints are left out.

A monitor has state for a window under three tables.  `Tracks` says for which windows, and
the lemmas below which calls can add to them: an arrival, and nothing else.
-/

namespace Oxrdp

/-- Most frames of a window that are kept while they are not finished. -/
def maxInFlight : Nat := 256

/-- Most finished frames that are kept. -/
def sampleWindow : Nat := 2048

/-- One frame's journey, in microseconds. -/
structure FrameStages where
  captureToEncodeUs : UInt64
  encodeToArrivalUs : UInt64
  arrivalToDecodeUs : UInt64
  decodeToPresentUs : UInt64
  clientUs : UInt64
  totalUs : UInt64
  deriving DecidableEq, Repr

/-- A frame that has just been read off the wire. -/
structure ArrivedFrame where
  windowId : UInt32
  frameId : UInt64
  capturedUs : UInt64
  encodedUs : UInt64
  arrivedUs : UInt64
  keyframe : Bool
  bytes : Nat
  deriving DecidableEq, Repr

/-- A frame seen but not yet finished. -/
structure PartialFrame where
  capturedUs : UInt64
  encodedUs : UInt64
  arrivedUs : UInt64
  decodedUs : Option UInt64
  keyframe : Bool
  bytes : Nat
  encodeGapUs : Option UInt64
  arrivalGapUs : Option UInt64
  backlog : Nat
  deriving DecidableEq, Repr

/-- One finished frame. -/
structure Completed where
  windowId : UInt32
  frameId : UInt64
  presentedUs : UInt64
  captureToEncodeUs : UInt64
  encodeToArrivalUs : UInt64
  arrivalToDecodeUs : UInt64
  decodeToPresentUs : UInt64
  totalUs : UInt64
  bytes : Nat
  keyframe : Bool
  encodeGapUs : Option UInt64
  arrivalGapUs : Option UInt64
  deriving DecidableEq, Repr

/-- One window's accounting. -/
structure WindowLatency where
  inFlight : Table UInt64 PartialFrame
  presented : Nat
  dropped : Nat

namespace WindowLatency

def new : WindowLatency := { inFlight := ∅, presented := 0, dropped := 0 }

/-- Give up the frame with the lowest id as long as there are too many. -/
def evict (w : WindowLatency) : WindowLatency :=
  if maxInFlight < w.inFlight.size then
    match _h : w.inFlight.keys.min? with
    | none => w
    | some oldest =>
        evict { w with inFlight := w.inFlight.erase oldest, dropped := w.dropped + 1 }
  else
    w
termination_by w.inFlight.size
decreasing_by
  have hmem : oldest ∈ w.inFlight := List.min?_mem _h
  obtain ⟨partialFrame, hlookup⟩ := Table.lookup_of_mem hmem
  have := Table.size_erase hlookup
  omega

end WindowLatency

/-- Per-window latency accounting, fed from the three points a frame passes through. -/
structure LatencyMonitor where
  enabled : Bool
  windows : Table UInt32 WindowLatency
  lastArrivalUs : Table UInt32 UInt64
  lastEncodedUs : Table UInt32 UInt64
  timeline : List Completed
  timelineEvicted : Nat
  readStalls : Nat
  readStalledUs : UInt64

/-- Move an agent timestamp onto the client's clock. -/
def agentToClient (agentUs : UInt64) (offsetUs : Int64) : UInt64 :=
  if 0 ≤ offsetUs then
    agentUs.saturatingSub (UInt64.ofNat offsetUs.toInt.natAbs)
  else
    agentUs.saturatingAdd (UInt64.ofNat offsetUs.toInt.natAbs)

namespace LatencyMonitor

def withRecording (enabled : Bool) : LatencyMonitor :=
  { enabled, windows := ∅, lastArrivalUs := ∅, lastEncodedUs := ∅, timeline := [],
    timelineEvicted := 0, readStalls := 0, readStalledUs := 0 }

/-- The client stopped reading the wire. -/
def onReadStall (m : LatencyMonitor) (stalledUs : UInt64) : LatencyMonitor :=
  if m.enabled then
    { m with
      readStalls := m.readStalls + 1
      readStalledUs := m.readStalledUs.saturatingAdd stalledUs }
  else
    m

/-- A frame has been read off the wire. -/
def onArrival (m : LatencyMonitor) (frame : ArrivedFrame) : LatencyMonitor :=
  if m.enabled then
    let arrivalGapUs := (m.lastArrivalUs.lookup frame.windowId).map frame.arrivedUs.saturatingSub
    let encodeGapUs := (m.lastEncodedUs.lookup frame.windowId).map frame.encodedUs.saturatingSub
    let window := (m.windows.lookup frame.windowId).getD .new
    let arrived : PartialFrame :=
      { capturedUs := frame.capturedUs
        encodedUs := frame.encodedUs
        arrivedUs := frame.arrivedUs
        decodedUs := none
        keyframe := frame.keyframe
        bytes := frame.bytes
        encodeGapUs
        arrivalGapUs
        backlog := window.inFlight.size }
    let window : WindowLatency :=
      { window with inFlight := window.inFlight.insert frame.frameId arrived }
    { m with
      windows := m.windows.insert frame.windowId window.evict
      lastArrivalUs := m.lastArrivalUs.insert frame.windowId frame.arrivedUs
      lastEncodedUs := m.lastEncodedUs.insert frame.windowId frame.encodedUs }
  else
    m

/-- Change what is known of a window that is tracked. -/
def amend (m : LatencyMonitor) (windowId : UInt32) (f : WindowLatency → WindowLatency) :
    LatencyMonitor :=
  match m.windows.lookup windowId with
  | none => m
  | some w => { m with windows := m.windows.insert windowId (f w) }

/-- A decode worker finished with a frame. -/
def onDecoded (m : LatencyMonitor) (windowId : UInt32) (frameId decodedUs : UInt64) :
    LatencyMonitor :=
  if m.enabled then
    m.amend windowId fun w =>
      match w.inFlight.lookup frameId with
      | none => w
      | some seen =>
          { w with
            inFlight := w.inFlight.insert frameId { seen with decodedUs := some decodedUs } }
  else
    m

/-- The stages of a frame that is presented now. -/
def stages (seen : PartialFrame) (presentedUs : UInt64) (offsetUs : Int64) : FrameStages :=
  let decodedUs := seen.decodedUs.getD seen.arrivedUs
  { captureToEncodeUs := seen.encodedUs.saturatingSub seen.capturedUs
    encodeToArrivalUs := seen.arrivedUs.saturatingSub (agentToClient seen.encodedUs offsetUs)
    arrivalToDecodeUs := decodedUs.saturatingSub seen.arrivedUs
    decodeToPresentUs := presentedUs.saturatingSub decodedUs
    clientUs := presentedUs.saturatingSub seen.arrivedUs
    totalUs := presentedUs.saturatingSub (agentToClient seen.capturedUs offsetUs) }

/-- Keep a finished frame; a full timeline gives up its first one. -/
def complete (m : LatencyMonitor) (completed : Completed) : LatencyMonitor :=
  let m :=
    if m.timeline.length = sampleWindow then
      { m with timeline := m.timeline.tail, timelineEvicted := m.timelineEvicted + 1 }
    else m
  { m with timeline := m.timeline ++ [completed] }

/-- A frame reached a surface: its stages, if it was seen arriving. -/
def onPresented (m : LatencyMonitor) (windowId : UInt32) (frameId presentedUs : UInt64)
    (offsetUs : Int64) : Option FrameStages × LatencyMonitor :=
  if m.enabled then
    match (m.windows.lookup windowId).bind fun w => w.inFlight.lookup frameId with
    | none => (none, m)
    | some seen =>
        let stages := stages seen presentedUs offsetUs
        let m := m.amend windowId fun w =>
          { w with inFlight := w.inFlight.erase frameId, presented := w.presented + 1 }
        (some stages,
          m.complete
            { windowId
              frameId
              presentedUs
              captureToEncodeUs := stages.captureToEncodeUs
              encodeToArrivalUs := stages.encodeToArrivalUs
              arrivalToDecodeUs := stages.arrivalToDecodeUs
              decodeToPresentUs := stages.decodeToPresentUs
              totalUs := stages.totalUs
              bytes := seen.bytes
              keyframe := seen.keyframe
              encodeGapUs := seen.encodeGapUs
              arrivalGapUs := seen.arrivalGapUs })
  else
    (none, m)

/-- A frame was decoded to nothing, or failed. -/
def onDropped (m : LatencyMonitor) (windowId : UInt32) (frameId : UInt64) : LatencyMonitor :=
  if m.enabled then
    m.amend windowId fun w =>
      match w.inFlight.lookup frameId with
      | none => w
      | some _ => { w with inFlight := w.inFlight.erase frameId, dropped := w.dropped + 1 }
  else
    m

/-- Stop tracking a window. -/
def forget (m : LatencyMonitor) (windowId : UInt32) : LatencyMonitor :=
  { m with
    windows := m.windows.erase windowId
    lastArrivalUs := m.lastArrivalUs.erase windowId
    lastEncodedUs := m.lastEncodedUs.erase windowId }

/-! ## Which windows have state -/

/-- The monitor has state for a window. -/
def Tracks (m : LatencyMonitor) (windowId : UInt32) : Prop :=
  windowId ∈ m.windows ∨ windowId ∈ m.lastArrivalUs ∨ windowId ∈ m.lastEncodedUs

variable {m : LatencyMonitor} {v : UInt32}

/-- A fresh monitor tracks no window. -/
theorem not_tracks_withRecording (enabled : Bool) : ¬ (withRecording enabled).Tracks v := by
  simp [Tracks, withRecording]

/-- A read stall is no window's. -/
@[simp] theorem tracks_onReadStall (stalledUs : UInt64) :
    (m.onReadStall stalledUs).Tracks v ↔ m.Tracks v := by
  unfold onReadStall
  split
  · rfl
  · rfl

/-- An arrival adds its window, where anything is recorded. -/
theorem tracks_onArrival (frame : ArrivedFrame) :
    (m.onArrival frame).Tracks v ↔ m.Tracks v ∨ m.enabled = true ∧ v = frame.windowId := by
  unfold onArrival
  split_ifs with henabled
  · simp only [Tracks, AList.mem_insert, henabled, true_and]
    tauto
  · simp [henabled]

/-- Amending the samples of a window does not track it anew. -/
@[simp] theorem tracks_amend (windowId : UInt32) (f : WindowLatency → WindowLatency) :
    (m.amend windowId f).Tracks v ↔ m.Tracks v := by
  unfold amend
  cases hlookup : m.windows.lookup windowId with
  | none => rfl
  | some w =>
      have hmem := Table.mem_of_lookup hlookup
      simp only [Tracks, AList.mem_insert]
      by_cases hv : v = windowId
      · subst hv
        simp [hmem]
      · simp [hv]

/-- Completing a frame leaves the windows alone. -/
@[simp] theorem complete_windows (completed : Completed) :
    (m.complete completed).windows = m.windows ∧ (m.complete completed).enabled = m.enabled := by
  unfold complete
  split
  · exact ⟨rfl, rfl⟩
  · exact ⟨rfl, rfl⟩

/-- Completing a frame tracks no window and forgets none. -/
@[simp] theorem tracks_complete (completed : Completed) :
    (m.complete completed).Tracks v ↔ m.Tracks v := by
  unfold complete
  split
  · rfl
  · rfl

/-- A decoded frame tracks no window and forgets none. -/
@[simp] theorem tracks_onDecoded (windowId : UInt32) (frameId decodedUs : UInt64) :
    (m.onDecoded windowId frameId decodedUs).Tracks v ↔ m.Tracks v := by
  unfold onDecoded
  split_ifs
  · exact tracks_amend _ _
  · rfl

/-- A presented frame tracks no window and forgets none. -/
@[simp] theorem tracks_onPresented (windowId : UInt32) (frameId presentedUs : UInt64)
    (offsetUs : Int64) :
    (m.onPresented windowId frameId presentedUs offsetUs).2.Tracks v ↔ m.Tracks v := by
  unfold onPresented
  split_ifs
  · split
    next => rfl
    next => exact (tracks_complete _).trans (tracks_amend _ _)
  · rfl

/-- A dropped frame tracks no window and forgets none. -/
@[simp] theorem tracks_onDropped (windowId : UInt32) (frameId : UInt64) :
    (m.onDropped windowId frameId).Tracks v ↔ m.Tracks v := by
  unfold onDropped
  split_ifs
  · exact tracks_amend _ _
  · rfl

/-- `forget` forgets its own window only. -/
@[simp] theorem tracks_forget (windowId : UInt32) :
    (m.forget windowId).Tracks v ↔ v ≠ windowId ∧ m.Tracks v := by
  simp only [Tracks, forget, AList.mem_erase]
  tauto

end LatencyMonitor

/-- Decode-completion times of frames that are decoded but not yet presented. -/
structure DecodeTimes where
  times : Table (UInt32 × UInt64) UInt64

namespace DecodeTimes

def capacity : Nat := 64

def new : DecodeTimes := { times := ∅ }

/-- The lower of two keys: by window, then by frame. -/
def lower (a b : UInt32 × UInt64) : UInt32 × UInt64 :=
  if b.1 < a.1 ∨ b.1 = a.1 ∧ b.2 < a.2 then b else a

/-- A full table gives up its lowest key first. -/
def record (d : DecodeTimes) (windowId : UInt32) (frameId decodedUs : UInt64) : DecodeTimes :=
  let times :=
    if capacity ≤ d.times.size then
      match d.times.keys with
      | [] => d.times
      | key :: keys => d.times.erase (keys.foldl lower key)
    else
      d.times
  { times := times.insert (windowId, frameId) decodedUs }

/-- The real decode time, or the presenter's fallback if the report never arrived. -/
def take (d : DecodeTimes) (windowId : UInt32) (frameId fallbackUs : UInt64) :
    UInt64 × DecodeTimes :=
  ((d.times.lookup (windowId, frameId)).getD fallbackUs,
    { times := d.times.erase (windowId, frameId) })

def forget (d : DecodeTimes) (windowId : UInt32) : DecodeTimes :=
  { times :=
      (d.times.keys.filter fun key => key.1 = windowId).foldl (fun times key => times.erase key)
        d.times }

end DecodeTimes

end Oxrdp
