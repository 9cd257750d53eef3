import Oxrdp.Proto.Message.Window
import Mathlib.Logic.Function.Basic

/-!
# The decode pipeline

`pipeline.rs` of the client: one worker thread for each window, behind a bounded queue.  The
session task submits frames and may be refused; the worker takes them one after the other,
builds a decoder where it needs one, and reports every frame it has finished with before a
picture goes to the display.

A `DecodeStep` is one action of the session task or of one thread, so that a list of them is an
interleaving.  A thread takes a frame, finishes it and delivers the picture in steps of its
own.  What decoders and threads do is up to the platform: whether a thread starts, what a
factory and a decoder make of an input `x` that may be different at every step, and what the
clock shows.

`std::panic::catch_unwind` around `decode` is the result `none` of `decode`.
-/

namespace Oxrdp

/-- Frames that a window's worker may hold before its producer has to wait. -/
def queueDepth : Nat := 4

/-- Why a frame could not be turned into pixels. -/
inductive FrameDecodeError where
  | unsupportedCodec (codec : UInt8)
  | init (codec : UInt8) (detail : String)
  | payloadLength (expected actual : Nat)
  | geometry (width height : Nat)
  | bitstream (detail : String)
  deriving DecidableEq, Repr

/-- The trait of decoders: the codec one consumes, and what it makes of a frame: a picture,
no picture, an error, or a panic. -/
class FrameDecoder (X : outParam Type) (D : Type) where
  codec : D → UInt8
  decode : X → D → FrameData → Option (Except FrameDecodeError (Option FrameData) × D)

/-- Builds a decoder for a window and a codec. -/
abbrev DecoderFactory (X D : Type) := UInt32 → X → UInt8 → Except FrameDecodeError D

/-- What a worker tells the session task of a frame it has finished with. -/
inductive FrameReport where
  | decoded (windowId : UInt32) (frameId decodedUs : UInt64)
  | dropped (windowId : UInt32) (frameId finishedUs : UInt64)
  deriving DecidableEq, Repr

namespace FrameReport

def windowId : FrameReport → UInt32
  | decoded windowId _ _ => windowId
  | dropped windowId _ _ => windowId

def frameId : FrameReport → UInt64
  | decoded _ frameId _ => frameId
  | dropped _ frameId _ => frameId

end FrameReport

/-- A frame that did not fit, with the queue it is for: that of the thread with this number
among those of its window. -/
structure Backpressure where
  frame : FrameData
  queue : Nat
  deriving DecidableEq, Repr

/-- Where a worker thread is in its loop. -/
inductive WorkerPhase where
  /-- In `blocking_recv`. -/
  | waiting
  /-- With a frame off the queue. -/
  | working (frame : FrameData)
  /-- After the report, with a picture for the display. -/
  | delivering (picture : FrameData)
  /-- The thread has ended, or never started, and its end of the channel is closed. -/
  | stopped
  deriving DecidableEq, Repr

/-- A worker thread and its queue. -/
structure Worker (D : Type) where
  queue : List FrameData
  decoder : Option D
  phase : WorkerPhase

/-- What there is for one window: its sender in `workers`, as the number of a thread, and the
threads that were spawned for it. -/
structure Lane (D : Type) where
  sender : Option Nat
  threads : List (Worker D)

/-- The pipeline, its threads, what the session task holds back, and both channels out of
it. -/
structure DecodePipeline (D : Type) where
  lanes : UInt32 → Lane D
  held : List Backpressure
  reports : List FrameReport
  delivered : List (UInt32 × FrameData)
  sinkOpen : Bool
  reportsOpen : Bool

inductive TrySendError where
  | full
  | closed
  deriving DecidableEq, Repr

section Worker

variable {X D : Type}

/-- `spawn_worker`; a thread that does not start drops its end of the channel. -/
def spawnWorker (starts : Bool) : Worker D :=
  { queue := [], decoder := none, phase := if starts then .waiting else .stopped }

/-- `try_send` on the queue of a worker. -/
def Worker.trySend (worker : Worker D) (frame : FrameData) : Except TrySendError (Worker D) :=
  if worker.phase = .stopped then .error .closed
  else if worker.queue.length < queueDepth then
    .ok { worker with queue := worker.queue ++ [frame] }
  else .error .full

/-- What a worker makes of a frame, and the decoder it goes on with.  A decoder of another
codec is replaced, and one that panicked is thrown away. -/
def decodeFrame [FrameDecoder X D] (factory : DecoderFactory X D) (windowId : UInt32) (x : X)
    (decoder : Option D) (frame : FrameData) : Option FrameData × Option D :=
  let current :=
    match decoder.filter fun d => FrameDecoder.codec d = frame.codec with
    | some d => some d
    | none => (factory windowId x frame.codec).toOption
  match current with
  | none => (none, none)
  | some active =>
      match FrameDecoder.decode x active frame with
      | some (.ok decoded, active) => (decoded, some active)
      | some (.error _, active) => (none, some active)
      | none => (none, none)

/-- The thread of the sender in `workers`, spawned if there is none. -/
def Lane.entry (lane : Lane D) (starts : Bool) : Nat × Lane D :=
  match lane.sender with
  | some queue => (queue, lane)
  | none =>
      (lane.threads.length,
        { sender := some lane.threads.length
          threads := lane.threads ++ [spawnWorker starts] })

theorem Lane.entry_of_some {lane : Lane D} {queue : Nat} (h : lane.sender = some queue)
    (starts : Bool) : lane.entry starts = (queue, lane) := by
  unfold Lane.entry
  rw [h]

theorem Lane.entry_of_none {lane : Lane D} (h : lane.sender = none) (starts : Bool) :
    lane.entry starts =
      (lane.threads.length,
        { sender := some lane.threads.length
          threads := lane.threads ++ [spawnWorker starts] }) := by
  unfold Lane.entry
  rw [h]

def Lane.trySend (lane : Lane D) (queue : Nat) (frame : FrameData) :
    Except TrySendError (Lane D) :=
  match lane.threads[queue]? with
  | none => .error .closed
  | some worker =>
      match worker.trySend frame with
      | .error e => .error e
      | .ok worker => .ok { lane with threads := lane.threads.set queue worker }

end Worker

namespace DecodePipeline

variable {X D : Type}

/-- A pipeline before its first frame. -/
def new : DecodePipeline D :=
  { lanes := fun _ => { sender := none, threads := [] }
    held := []
    reports := []
    delivered := []
    sinkOpen := true
    reportsOpen := true }

def setLane (s : DecodePipeline D) (windowId : UInt32) (lane : Lane D) : DecodePipeline D :=
  { s with lanes := Function.update s.lanes windowId lane }

def setWorker (s : DecodePipeline D) (windowId : UInt32) (n : Nat) (worker : Worker D) :
    DecodePipeline D :=
  s.setLane windowId
    { s.lanes windowId with threads := (s.lanes windowId).threads.set n worker }

/-- Send a report; nobody may be listening any more. -/
def report (s : DecodePipeline D) (r : FrameReport) : DecodePipeline D :=
  if s.reportsOpen then { s with reports := s.reports ++ [r] } else s

/-- Give a picture to the display. -/
def deliver (s : DecodePipeline D) (windowId : UInt32) (picture : FrameData) :
    DecodePipeline D :=
  { s with delivered := s.delivered ++ [(windowId, picture)] }

/-- Hand a frame to its window's worker. -/
def submit (s : DecodePipeline D) (frame : FrameData) (starts : Bool) (nowUs : UInt64) :
    Except Backpressure Unit × DecodePipeline D :=
  let (queue, lane) := (s.lanes frame.windowId).entry starts
  match lane.trySend queue frame with
  | .ok lane => (.ok (), s.setLane frame.windowId lane)
  | .error .full => (.error { frame, queue }, s.setLane frame.windowId lane)
  | .error .closed =>
      (.ok (), (s.setLane frame.windowId { lane with sender := none }).report
        (.dropped frame.windowId frame.frameId nowUs))

/-- Stop a window's worker by dropping its sender. -/
def forget (s : DecodePipeline D) (windowId : UInt32) : DecodePipeline D :=
  s.setLane windowId { s.lanes windowId with sender := none }

/-- Whether somebody can still send to a worker. -/
def hasSender (s : DecodePipeline D) (windowId : UInt32) (n : Nat) : Bool :=
  (s.lanes windowId).sender == some n ||
    (s.held.filter fun b => b.frame.windowId = windowId).any fun b => b.queue = n

/-- One step of a worker thread. -/
def work [FrameDecoder X D] (factory : DecoderFactory X D) (s : DecodePipeline D)
    (windowId : UInt32) (n : Nat) (x : X) (nowUs : UInt64) : DecodePipeline D :=
  match (s.lanes windowId).threads[n]? with
  | none => s
  | some worker =>
      match worker.phase with
      | .stopped => s
      | .waiting =>
          match worker.queue with
          | frame :: rest =>
              s.setWorker windowId n { worker with queue := rest, phase := .working frame }
          | [] =>
              if s.hasSender windowId n then s
              else s.setWorker windowId n { worker with phase := .stopped }
      | .working frame =>
          match decodeFrame factory windowId x worker.decoder frame with
          | (some picture, decoder) =>
              (s.setWorker windowId n { worker with decoder, phase := .delivering picture }).report
                (.decoded windowId frame.frameId nowUs)
          | (none, decoder) =>
              (s.setWorker windowId n { worker with decoder, phase := .waiting }).report
                (.dropped windowId frame.frameId nowUs)
      | .delivering picture =>
          if s.sinkOpen then
            (s.deliver windowId picture).setWorker windowId n { worker with phase := .waiting }
          else s.setWorker windowId n { worker with queue := [], phase := .stopped }

/-- An action of the session task or of a thread. -/
inductive DecodeStep (X : Type) where
  /-- A frame for a window; `starts` tells whether a thread would start. -/
  | submit (frame : FrameData) (starts : Bool) (nowUs : UInt64)
  /-- A frame that was held back goes to its queue. -/
  | resend (b : Backpressure)
  /-- A frame that was held back is given up. -/
  | discard (b : Backpressure)
  | forget (windowId : UInt32)
  | work (windowId : UInt32) (n : Nat) (x : X) (nowUs : UInt64)
  | sinkCloses
  | reportsClose

/-- One step, with the frame that it made the pipeline accept. -/
def step [FrameDecoder X D] (factory : DecoderFactory X D) (s : DecodePipeline D) :
    DecodeStep X → Option FrameData × DecodePipeline D
  | .submit frame starts nowUs =>
      match s.submit frame starts nowUs with
      | (.ok (), s) => (some frame, s)
      | (.error b, s) => (none, { s with held := s.held ++ [b] })
  | .resend b =>
      if b ∈ s.held then
        let s := { s with held := s.held.erase b }
        match (s.lanes b.frame.windowId).trySend b.queue b.frame with
        | .ok lane => (some b.frame, s.setLane b.frame.windowId lane)
        | .error _ => (none, s)
      else (none, s)
  | .discard b => (none, { s with held := s.held.erase b })
  | .forget windowId => (none, s.forget windowId)
  | .work windowId n x nowUs => (none, s.work factory windowId n x nowUs)
  | .sinkCloses => (none, { s with sinkOpen := false })
  | .reportsClose => (none, { s with reportsOpen := false })

/-- What an interleaving leaves behind, with the frames that were accepted, in order. -/
def history [FrameDecoder X D] (factory : DecoderFactory X D) (steps : List (DecodeStep X)) :
    DecodePipeline D × List FrameData :=
  steps.foldl
    (fun h a => ((step factory h.1 a).2, h.2 ++ (step factory h.1 a).1.toList)) (new, [])

theorem history_snoc [FrameDecoder X D] (factory : DecoderFactory X D)
    (steps : List (DecodeStep X)) (a : DecodeStep X) :
    history factory (steps ++ [a]) =
      ((step factory (history factory steps).1 a).2,
        (history factory steps).2 ++ (step factory (history factory steps).1 a).1.toList) := by
  simp [history]

end DecodePipeline

end Oxrdp
