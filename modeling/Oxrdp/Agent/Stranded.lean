import Oxrdp.Agent.Resizes
import Oxrdp.Agent.Turns

/-!
# Output that is left behind

An encoder may have an access unit ready in a turn in which the source has no new frame of the
window.  The driver polls only after a capture, so this turn sends nothing, and if the window
stays as it is, the picture stays inside the encoder.

`output_sent_iff` says when a window whose encoder has output is sent a frame: exactly if the
source delivers a frame in this turn and something can be sent once the encoder has it
(`Session.delivers`).
-/

namespace Oxrdp

open Effect

section Stranded

variable {W E I : Type}

/-- The frames of a window among some messages. -/
def framesFor (id : UInt32) (told : List Sent) : List FrameData :=
  (framesOf told).filter fun f => f.windowId = id

variable [WindowSource W] [FrameEncoder E] {cfg : Config} {id : UInt32} {s : Session W E I}

/-- Whether a window that is open and not minimized has a free slot and, inside an encoder
that works, an access unit that is ready. -/
def Session.outputReady (cfg : Config) (s : Session W E I) (id : UInt32) : Bool :=
  match s.streams.lookup id with
  | none => false
  | some st =>
      decide (st.showState ≠ WindowShow.minimized) &&
        !(s.queueNow cfg).closed &&
        decide ((s.queueNow cfg).queued.length < outboundQueueCapacity) &&
        decide (Coding cfg st s.encoder) &&
        (FrameEncoder.poll s.encoder st.handle).1.isSome

/-- Whether something can be sent of a window once the encoder has the captured frame: an
access unit or, if it fails at that, the pixels, and the number of a frame. -/
def sendable (cfg : Config) (encoder : E) (st : WindowStream) (frame : SourceFrame) : Bool :=
  let e := submitted cfg st frame encoder
  (if Coding cfg st e then
    match (FrameEncoder.poll e st.handle).1 with
    | none => false
    | some u => decide (u.data.length < 2 ^ 32)
  else
    !frame.data.isEmpty && decide (frame.data.length < 2 ^ 32)) &&
  st.budget.onCaptured.isSome

/-- Whether the source delivers a frame of the window that leads to something to send. -/
def Session.delivers (cfg : Config) (s : Session W E I) (id : UInt32) : Bool :=
  match s.streams.lookup id with
  | none => false
  | some st =>
      match (WindowSource.nextFrame s.source st.handle (captureIntent cfg s.encoder st)).1 with
      | none => false
      | some frame => sendable cfg s.encoder st frame

/-! ## One turn -/

theorem numbered_isSome (picture : Picture) (id : UInt32) (budget : FrameBudget)
    (capturedUs : UInt64) :
    (picture.numbered id budget capturedUs).isSome =
      (decide (picture.data.length < 2 ^ 32) && budget.onCaptured.isSome) := by
  unfold Picture.numbered
  cases budget.onCaptured with
  | none => simp
  | some r =>
      simp only
      by_cases hfits : picture.data.length < 2 ^ 32
      · rw [if_pos hfits, decide_eq_true hfits]
        rfl
      · rw [if_neg hfits, decide_eq_false hfits]
        rfl

omit [WindowSource W] in
/-- Something is made of a captured frame exactly if it is sendable. -/
theorem made_isSome (st : WindowStream) (frame : SourceFrame) :
    (s.made cfg id st frame).isSome = sendable cfg s.encoder st frame := by
  unfold Session.made pictureOf sendable
  by_cases hcoding : Coding cfg st (submitted cfg st frame s.encoder)
  · simp only [if_pos hcoding]
    cases (FrameEncoder.poll (submitted cfg st frame s.encoder) st.handle).1 with
    | none => rfl
    | some u => exact numbered_isSome _ _ _ _
  · simp only [if_neg hcoding]
    by_cases hdata : frame.data.isEmpty = true
    · simp [hdata]
    · simp only [hdata, if_false, Option.bind_some, Bool.false_eq_true]
      exact numbered_isSome _ _ _ _

/-- A window with output ready is sent a frame exactly if the source delivers one. -/
theorem shipped_isSome (hready : s.outputReady cfg id = true) :
    (s.shipped cfg id).isSome = s.delivers cfg id := by
  unfold Session.outputReady at hready
  unfold Session.shipped Session.captured Session.delivers
  cases hl : s.streams.lookup id with
  | none =>
      rw [hl] at hready
      cases hready
  | some st =>
      rw [hl] at hready
      simp only [Bool.and_eq_true, decide_eq_true_eq, Bool.not_eq_true'] at hready
      obtain ⟨⟨⟨⟨hshown, hopen⟩, hroom⟩, -⟩, -⟩ := hready
      have hslot : ¬((s.queueNow cfg).closed = true ∨
          outboundQueueCapacity ≤ (s.queueNow cfg).queued.length) := by
        simp [hopen, hroom]
      simp only [if_neg hshown, if_neg hslot]
      cases (WindowSource.nextFrame s.source st.handle (captureIntent cfg s.encoder st)).1 with
      | none => rfl
      | some frame => exact made_isSome st frame

theorem shipped_window {f : FrameData} (h : s.shipped cfg id = some f) : f.windowId = id := by
  obtain ⟨st, frame, picture, frameId, -, -, rfl⟩ := shipped_picture h
  rfl

/-! ## One tick -/

/-- In a tick every window has one turn at most. -/
theorem tickTurns_nodup (s : Session W E I) : ((tickTurns cfg s).map Prod.fst).Nodup := by
  unfold tickTurns
  split
  · rename_i s' _
    have hkeys : (s'.streams.keys.insertionSort (· ≤ ·)).Nodup :=
      (List.perm_insertionSort _ _).nodup_iff.mpr s'.streams.nodupKeys
    exact hkeys.sublist (traced_fst _ _ s').sublist
  · exact List.nodup_nil

/-- Of a window only its own turn sends frames. -/
theorem shippedBy_window {turns : List (UInt32 × Session W E I)}
    (hnodup : (turns.map Prod.fst).Nodup) (hturn : (id, s) ∈ turns) :
    (shippedBy cfg turns).filter (fun f => f.windowId = id) = (s.shipped cfg id).toList := by
  have hother : ∀ part : List (UInt32 × Session W E I), id ∉ part.map Prod.fst →
      (shippedBy cfg part).filter (fun f => f.windowId = id) = [] := by
    intro part hpart
    rw [List.filter_eq_nil_iff]
    intro f hf hwindow
    obtain ⟨⟨k, s'⟩, hmem, hshipped⟩ := List.mem_filterMap.mp hf
    have hk : k = id := (shipped_window hshipped).symm.trans (of_decide_eq_true hwindow)
    exact hpart (hk ▸ List.mem_map_of_mem hmem)
  obtain ⟨before, after, rfl⟩ := List.append_of_mem hturn
  rw [List.map_append, List.map_cons] at hnodup
  obtain ⟨-, hrest, hdisjoint⟩ := List.nodup_append.mp hnodup
  have hbefore : id ∉ before.map Prod.fst :=
    fun hmem => hdisjoint id hmem id List.mem_cons_self rfl
  have hafter : id ∉ after.map Prod.fst := (List.nodup_cons.mp hrest).1
  rw [List.append_cons, shippedBy_append, shippedBy_append, List.filter_append,
    List.filter_append, hother before hbefore, hother after hafter, shippedBy_single,
    List.nil_append, List.append_nil]
  cases hshipped : s.shipped cfg id with
  | none => rfl
  | some f => simp [shipped_window hshipped]

variable [InputSink I]

/-- The frames after a tick are those before it and those its turns shipped. -/
theorem tick_frames {s₀ : Session W E I} (hreg : s₀.registry.WellFormed)
    (hc : s₀.view.Coupled) :
    framesOf (leftBy ((tick cfg).run s₀)).outbound.told =
      framesOf s₀.outbound.told ++ shippedBy cfg (tickTurns cfg s₀) := by
  have htick := (shipping_inv cfg (framesOf s₀.outbound.told)).tick [] s₀
    ⟨hreg, hc, (List.append_nil _).symm⟩
  cases hrun : (tick cfg).run s₀ with
  | ok u s' =>
      rw [hrun] at htick
      exact htick.2.2
  | error stop s' =>
      rw [hrun] at htick
      exact htick

/-- **When output is sent.**  In every tick of every run, a window that has a turn with output
ready is sent one frame in this tick if the source delivers a frame in the window's turn, and
only then. -/
theorem output_sent_iff (cfg : Config) (source : W) (encoder : E) (sink : I)
    (events : List Event) {s₀ : Session W E I}
    (hrun : Running cfg source encoder sink events s₀) {id : UInt32} {s : Session W E I}
    (hturn : (id, s) ∈ tickTurns cfg s₀) (hready : s.outputReady cfg id = true) :
    (framesFor id (leftBy ((tick cfg).run s₀)).outbound.told).length =
        (framesFor id s₀.outbound.told).length + 1 ↔
      s.delivers cfg id = true := by
  have hdrive := (shipping_inv cfg []).drive events [] (Session.start source encoder sink)
    ⟨WindowRegistry.new_wellFormed, .start, rfl⟩
  rw [show (drive cfg events).run (Session.start source encoder sink) = .ok ⟨⟩ s₀ from hrun]
    at hdrive
  obtain ⟨hreg, hc, -⟩ := hdrive
  have hsent : (framesFor id (leftBy ((tick cfg).run s₀)).outbound.told).length =
      (framesFor id s₀.outbound.told).length + (s.shipped cfg id).toList.length := by
    unfold framesFor
    rw [tick_frames hreg hc, List.filter_append, List.length_append,
      shippedBy_window (tickTurns_nodup s₀) hturn]
  rw [hsent, ← shipped_isSome hready]
  cases s.shipped cfg id with
  | none => simp
  | some f => simp

end Stranded

/-! ## An encoder that needs a tick -/

/-- An encoder whose access units are ready one poll after the frame was submitted. -/
structure SlowEncoder where
  working : Handle → List EncodedFrame
  ready : Handle → List EncodedFrame

instance : FrameEncoder SlowEncoder where
  submit encoder handle frame forced :=
    { encoder with
      working := Function.update encoder.working handle (encoder.working handle ++
        [{ data := frame.data, keyframe := forced, width := frame.width,
           height := frame.height }]) }
  poll encoder handle :=
    ((encoder.ready handle).head?,
      { working := Function.update encoder.working handle []
        ready := Function.update encoder.ready handle
          ((encoder.ready handle).tail ++ encoder.working handle) })
  forget encoder handle :=
    { working := Function.update encoder.working handle []
      ready := Function.update encoder.ready handle [] }
  wantsCpuFrame _ _ _ _ := false
  failed _ _ := false

def SlowEncoder.new : SlowEncoder := { working := fun _ => [], ready := fun _ => [] }

/-- A window that is captured again is sent what was ready. -/
theorem output_sent_iff_captured :
    ∃ id s, (id, s) ∈ tickTurns .coded (sessionAfter .coded
        (widened ([4, 4].map notepadFrame)) SlowEncoder.new NoopSink.mk [.tick]) ∧
      s.outputReady .coded id = true ∧
      (framesFor id (leftBy ((tick .coded).run (sessionAfter .coded
          (widened ([4, 4].map notepadFrame)) SlowEncoder.new NoopSink.mk
            [.tick]))).outbound.told).length =
        (framesFor id (sessionAfter .coded (widened ([4, 4].map notepadFrame)) SlowEncoder.new
          NoopSink.mk [.tick]).outbound.told).length + 1 := by
  have hrun := running_sessionAfter .coded (widened ([4, 4].map notepadFrame)) SlowEncoder.new
    NoopSink.mk [.tick] (by decide +kernel)
  have hany : (tickTurns .coded (sessionAfter .coded (widened ([4, 4].map notepadFrame))
      SlowEncoder.new NoopSink.mk [.tick])).any (fun t =>
        t.2.outputReady .coded t.1 && t.2.delivers .coded t.1) = true := by
    decide +kernel
  obtain ⟨⟨id, s⟩, hturn, hboth⟩ := List.any_eq_true.mp hany
  obtain ⟨hready, hdelivers⟩ := Bool.and_eq_true_iff.mp hboth
  exact ⟨id, s, hturn, hready, (output_sent_iff .coded _ SlowEncoder.new NoopSink.mk [.tick] hrun
    hturn hready).mpr hdelivers⟩

/-- **A picture that stays behind.**  The window is captured once.  At the second tick its
access unit is ready and a slot is free, but the source has nothing new, and nothing is
sent. -/
theorem static_window_stranded :
    ¬∀ id s, (id, s) ∈ tickTurns .coded (sessionAfter .coded (widened ([4].map notepadFrame))
        SlowEncoder.new NoopSink.mk [.tick]) →
      s.outputReady .coded id = true →
        (framesFor id (leftBy ((tick .coded).run (sessionAfter .coded
            (widened ([4].map notepadFrame)) SlowEncoder.new NoopSink.mk
              [.tick]))).outbound.told).length =
          (framesFor id (sessionAfter .coded (widened ([4].map notepadFrame)) SlowEncoder.new
            NoopSink.mk [.tick]).outbound.told).length + 1 := by
  intro hsent
  have hany : (tickTurns .coded (sessionAfter .coded (widened ([4].map notepadFrame))
      SlowEncoder.new NoopSink.mk [.tick])).any (fun t => t.2.outputReady .coded t.1) = true := by
    decide +kernel
  have hsame : (leftBy ((tick .coded).run (sessionAfter .coded (widened ([4].map notepadFrame))
        SlowEncoder.new NoopSink.mk [.tick]))).outbound.told =
      (sessionAfter .coded (widened ([4].map notepadFrame)) SlowEncoder.new NoopSink.mk
        [.tick]).outbound.told := by
    decide +kernel
  obtain ⟨⟨id, s⟩, hturn, hready⟩ := List.any_eq_true.mp hany
  have hone := hsent id s hturn hready
  rw [hsame] at hone
  omega

end Oxrdp
