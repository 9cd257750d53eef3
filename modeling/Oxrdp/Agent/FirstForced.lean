import Oxrdp.Agent.WinEncoder

/-!
# The first frame of a new encoder

A transform that was just set up has nothing that a frame could refer to, so the first frame it
is handed has to be a keyframe.  `submit` forces the frame that an encoder is built for, but
this frame may never get to the transform: its pixels were not captured, or no sample could be
made of it, or the transform does not accept it.  The encoder stays, the next frame finds it built,
and nobody remembers that its first frame is still to come.  So the first frame is forced
unless such a later frame comes unforced (`LateFirst`).
-/

namespace Oxrdp

/-- A call to the encoders of the windows. -/
inductive EncoderRequest where
  | submit (handle : Handle) (frame : SourceFrame) (forceKeyframe : Bool)
  | poll (handle : Handle)
  | forget (handle : Handle)
  deriving DecidableEq, Repr

namespace WindowEncoder

variable {enc enc' : WindowEncoder} {frame : SourceFrame} {forceKeyframe : Bool} {os : OsAnswers}

/-- The first frame that the transform was handed, if any, is forced to be a keyframe. -/
def FirstForced (enc : WindowEncoder) : Prop :=
  ∀ first, enc.handed.head? = some first → first.2.forceKeyframe = true

/-- What is still to be polled was handed over last. -/
def Accounted (enc : WindowEncoder) : Prop := enc.pending <:+ enc.handed.map Prod.snd

/-- Only a first frame matters. -/
theorem submit_firstForced (hforced : enc.FirstForced)
    (h : enc.submit frame forceKeyframe os = .ok enc') :
    enc'.FirstForced ↔
      ¬(forceKeyframe = false ∧ enc.handed = [] ∧ enc.takes frame os = true) := by
  have hcases := enc.submit_cases frame forceKeyframe os
  rw [h] at hcases
  unfold FirstForced at *
  cases hcases with
  | taken sample htakes =>
      cases hhanded : enc.handed with
      | nil => cases forceKeyframe <;> simp [htakes]
      | cons first rest =>
          have hfirst : first.2.forceKeyframe = true := hforced first (by rw [hhanded]; rfl)
          simp [hfirst]
  | dropped time htakes => simpa [htakes] using hforced

/-- A submit hands one frame on or drops it. -/
theorem submit_accounted (haccounted : enc.Accounted)
    (h : enc.submit frame forceKeyframe os = .ok enc') : enc'.Accounted := by
  have hcases := enc.submit_cases frame forceKeyframe os
  rw [h] at hcases
  cases hcases with
  | taken sample _ =>
      obtain ⟨drained, hdrained⟩ := haccounted
      refine ⟨drained, ?_⟩
      rw [List.map_append, ← hdrained, List.append_assoc]
      rfl
  | dropped time _ => exact haccounted

/-- A new encoder has handed on its first frame at most. -/
theorem new_accounted {width height targetFps : UInt16} {gpuFrame : Option GpuFrame}
    (h : new width height targetFps gpuFrame os = some enc) : enc.Accounted := by
  unfold Accounted
  rw [(new_fresh h).2.2.1]
  exact List.nil_suffix

/-- A poll hands nothing on. -/
theorem poll_handed (enc : WindowEncoder) (os : OsAnswers) :
    (enc.poll os).2.handed = enc.handed := by
  unfold poll
  grind

/-- A poll gives up what was taken. -/
theorem poll_accounted (haccounted : enc.Accounted) (os : OsAnswers) :
    (enc.poll os).2.Accounted := by
  have htail : enc.pending.tail <:+ enc.handed.map Prod.snd :=
    (List.tail_suffix _).trans haccounted
  unfold poll Accounted at *
  grind

end WindowEncoder

namespace WinFrameEncoder

variable {e e' : WinFrameEncoder} {handle : Handle} {frame : SourceFrame} {forceKeyframe : Bool}
  {request : EncoderRequest} {os : OsAnswers}

/-- One call, with the answers it gets. -/
def call (e : WinFrameEncoder) : EncoderRequest × OsAnswers → Checked WinFrameEncoder
  | (.submit handle frame forceKeyframe, os) => e.submit handle frame forceKeyframe os
  | (.poll handle, os) => .ok (e.poll handle os).2
  | (.forget handle, _) => .ok (e.forget handle)

/-- Calls, one after the other, until an assertion fails. -/
def calls (e : WinFrameEncoder) (requests : List (EncoderRequest × OsAnswers)) :
    Checked WinFrameEncoder :=
  requests.foldlM call e

/-! ## What holds of all encoders -/

/-- A property of the encoders of all windows. -/
def Every (P : WindowEncoder → Prop) (e : WinFrameEncoder) : Prop :=
  ∀ handle enc, e.encoders.lookup handle = some enc → P enc

/-- No size is held to be broken for a window that has an encoder. -/
def LiveWorks (e : WinFrameEncoder) : Prop :=
  ∀ handle enc, e.encoders.lookup handle = some enc → e.failed.lookup handle = none

section Every

variable {P : WindowEncoder → Prop}

/-- There is no encoder at first. -/
theorem every_new (P : WindowEncoder → Prop) (targetFps : UInt16) : (new targetFps).Every P := by
  intro handle enc h
  cases h

/-- One more encoder with the property. -/
theorem Every.withEncoder (h : e.Every P) {enc : WindowEncoder} (henc : P enc) :
    (e.withEncoder handle enc).Every P := by
  intro handle' enc' hlive
  rcases Table.of_lookup_insert hlive with ⟨-, rfl⟩ | ⟨-, hlive⟩
  · exact henc
  · exact h handle' enc' hlive

/-- Whether it has decides for all. -/
theorem every_withEncoder_iff (h : e.Every P) {enc : WindowEncoder} :
    (e.withEncoder handle enc).Every P ↔ P enc :=
  ⟨fun hall => hall handle enc (AList.lookup_insert e.encoders), h.withEncoder⟩

/-- **Submitting** keeps what a new encoder has and what a submit keeps. -/
theorem Every.submit (h : e.Every P)
    (hnew : ∀ enc, WindowEncoder.new frame.width frame.height e.targetFps frame.gpuFrame os =
      some enc → P enc)
    (hkeep : ∀ {enc enc' : WindowEncoder} {forceKeyframe : Bool}, P enc →
      enc.submit frame forceKeyframe os = .ok enc' → P enc')
    (hsubmit : e.submit handle frame forceKeyframe os = .ok e') : e'.Every P := by
  cases submit_ok hsubmit with
  | broken => exact h
  | refused =>
      intro handle' enc hlive
      exact h handle' enc (Table.of_lookup_erase hlive).2
  | rebuilt _ hbuilt henc' =>
      have hothers : ({ e with failed := e.failed.erase handle } : WinFrameEncoder).Every P := h
      exact hothers.withEncoder (hkeep (hnew _ hbuilt) henc')
  | kept hlive _ henc' => exact h.withEncoder (hkeep (h handle _ hlive) henc')

/-- Polling keeps what a poll of one encoder keeps. -/
theorem Every.poll (h : e.Every P) (hpoll : ∀ enc, P enc → P (enc.poll os).2) :
    (e.poll handle os).2.Every P := by
  unfold WinFrameEncoder.poll
  cases hlive : e.encoders.lookup handle with
  | none => exact h
  | some enc => exact h.withEncoder (hpoll enc (h handle enc hlive))

/-- Forgetting leaves fewer. -/
theorem Every.forget (h : e.Every P) (handle : Handle) : (e.forget handle).Every P := by
  intro handle' enc hlive
  exact h handle' enc (Table.of_lookup_erase hlive).2

end Every

/-- At first no window is broken. -/
theorem liveWorks_new (targetFps : UInt16) : (new targetFps).LiveWorks := by
  intro handle enc h
  cases h

/-- An encoder for a window whose broken size is forgotten. -/
theorem LiveWorks.withEncoder (h : e.LiveWorks) (hworks : e.failed.lookup handle = none)
    (enc : WindowEncoder) : (e.withEncoder handle enc).LiveWorks := by
  intro handle' enc' hlive
  rcases Table.of_lookup_insert hlive with ⟨rfl, -⟩ | ⟨-, hlive⟩
  · exact hworks
  · exact h handle' enc' hlive

/-- A window whose encoder fits the frame keeps it. -/
theorem submit_live (h : e.LiveWorks) {enc : WindowEncoder}
    (hlive : e.encoders.lookup handle = some enc) (hmatches : enc.matchesFrame frame = true) :
    e.submit handle frame forceKeyframe os =
      (enc.submit frame forceKeyframe os).map (e.withEncoder handle) := by
  have hcases := e.submit_cases handle frame forceKeyframe os
  have hkeep : e.needsRebuild handle frame = false := by
    simp [needsRebuild, hlive, hmatches]
  generalize e.submit handle frame forceKeyframe os = result at hcases ⊢
  cases hcases with
  | broken hfailed => simp [h handle enc hlive] at hfailed
  | refused hrebuild => simp [hkeep] at hrebuild
  | rebuilt hrebuild => simp [hkeep] at hrebuild
  | kept hlive' =>
      cases hlive.symm.trans hlive'
      rfl

/-- A window that breaks loses its encoder. -/
theorem LiveWorks.submit (h : e.LiveWorks)
    (hsubmit : e.submit handle frame forceKeyframe os = .ok e') : e'.LiveWorks := by
  cases submit_ok hsubmit with
  | broken => exact h
  | refused =>
      intro handle' enc' hlive
      obtain ⟨hne, hlive⟩ := Table.of_lookup_erase hlive
      change (e.failed.insert handle _).lookup handle' = none
      rw [AList.lookup_insert_ne hne]
      exact h handle' enc' hlive
  | rebuilt =>
      have hworks : ({ e with failed := e.failed.erase handle } : WinFrameEncoder).LiveWorks := by
        intro handle' enc' hlive
        change (e.failed.erase handle).lookup handle' = none
        rw [Table.lookup_erase_ite, h handle' enc' hlive, ite_self]
      exact hworks.withEncoder (AList.lookup_erase handle e.failed) _
  | kept hlive => exact h.withEncoder (h handle _ hlive) _

/-- Every call keeps the encoder working. -/
theorem LiveWorks.call (h : e.LiveWorks) (hcall : e.call (request, os) = .ok e') :
    e'.LiveWorks := by
  cases request with
  | submit handle frame forceKeyframe => exact h.submit hcall
  | poll handle =>
      cases hcall
      unfold poll
      cases hlive : e.encoders.lookup handle with
      | none => exact h
      | some enc => exact h.withEncoder (h handle enc hlive) _
  | forget handle =>
      cases hcall
      intro handle' enc hlive
      obtain ⟨-, hlive⟩ := Table.of_lookup_erase hlive
      change (e.failed.erase handle).lookup handle' = none
      rw [Table.lookup_erase_ite, h handle' enc hlive, ite_self]

/-! ## First frames -/

/-- A frame that comes unforced to the encoder of its window, which was handed nothing before,
and is taken. -/
def LateFirst (e : WinFrameEncoder) : EncoderRequest × OsAnswers → Prop
  | (.submit handle frame false, os) =>
      ∃ enc, e.encoders.lookup handle = some enc ∧ enc.matchesFrame frame = true ∧
        enc.handed = [] ∧ enc.takes frame os = true
  | _ => False

/-- A new encoder is told to make a key frame first. -/
theorem new_firstForced {width height targetFps : UInt16} {gpuFrame : Option GpuFrame}
    {enc : WindowEncoder} (h : WindowEncoder.new width height targetFps gpuFrame os = some enc) :
    enc.FirstForced := by
  intro first hfirst
  rw [(WindowEncoder.new_fresh h).2.2.2] at hfirst
  cases hfirst

/-- **What makes a first frame late**: it is not forced, and the encoder that takes it has none
yet. -/
theorem lateFirst_submit :
    e.LateFirst (.submit handle frame forceKeyframe, os) ↔ forceKeyframe = false ∧
      ∃ enc, e.encoders.lookup handle = some enc ∧ enc.matchesFrame frame = true ∧
        enc.handed = [] ∧ enc.takes frame os = true := by
  cases forceKeyframe <;> simp [LateFirst]

/-- A late frame finds an encoder that fits it. -/
theorem LateFirst.keeps (h : e.LateFirst (.submit handle frame forceKeyframe, os)) :
    e.needsRebuild handle frame = false := by
  obtain ⟨-, enc, hlive, hmatches, -⟩ := lateFirst_submit.mp h
  simp [needsRebuild, hlive, hmatches]

/-- A frame that its window's encoder takes is not what ends the run. -/
theorem LateFirst.goes (hworks : e.LiveWorks) {c : EncoderRequest × OsAnswers}
    (h : e.LateFirst c) : ∃ e', e.call c = .ok e' := by
  obtain ⟨request, os⟩ := c
  cases request with
  | submit handle frame forceKeyframe =>
      obtain ⟨-, enc, hlive, hmatches, -, htakes⟩ := lateFirst_submit.mp h
      change ∃ e', e.submit handle frame forceKeyframe os = .ok e'
      rw [submit_live hworks hlive hmatches]
      have hcases := enc.submit_cases frame forceKeyframe os
      generalize enc.submit frame forceKeyframe os = result at hcases ⊢
      cases hcases with
      | taken sample => exact ⟨_, rfl⟩
      | dropped time => exact ⟨_, rfl⟩
      | stopped hdrops => simp [htakes] at hdrops
  | poll handle => cases h
  | forget handle => cases h

/-- The first frames stay forced exactly if the submit makes none late. -/
theorem submit_every_firstForced (hworks : e.LiveWorks)
    (hforced : e.Every WindowEncoder.FirstForced)
    (hsubmit : e.submit handle frame forceKeyframe os = .ok e') :
    e'.Every WindowEncoder.FirstForced ↔
      ¬e.LateFirst (.submit handle frame forceKeyframe, os) := by
  cases submit_ok hsubmit with
  | broken hfailed =>
      refine iff_of_true hforced fun hlate => ?_
      obtain ⟨-, enc, hlive, -⟩ := lateFirst_submit.mp hlate
      simp [hworks handle enc hlive] at hfailed
  | refused hrebuild =>
      refine iff_of_true ?_ fun hlate => by simp [hlate.keeps] at hrebuild
      intro handle' enc hlive
      exact hforced handle' enc (Table.of_lookup_erase hlive).2
  | @rebuilt enc enc' hrebuild hnew henc' =>
      refine iff_of_true ?_ fun hlate => by simp [hlate.keeps] at hrebuild
      -- the frame that the encoder was built for is forced
      have hfirst : enc'.FirstForced :=
        (WindowEncoder.submit_firstForced (new_firstForced hnew) henc').mpr (by simp)
      have hothers : ({ e with failed := e.failed.erase handle } : WinFrameEncoder).Every
          WindowEncoder.FirstForced := hforced
      exact hothers.withEncoder hfirst
  | @kept enc enc' hlive hmatches henc' =>
      calc (e.withEncoder handle enc').Every WindowEncoder.FirstForced
          ↔ enc'.FirstForced := every_withEncoder_iff hforced
        _ ↔ ¬(forceKeyframe = false ∧ enc.handed = [] ∧ enc.takes frame os = true) :=
          WindowEncoder.submit_firstForced (hforced handle enc hlive) henc'
        _ ↔ ¬e.LateFirst (.submit handle frame forceKeyframe, os) := by
          rw [lateFirst_submit]
          simp [hlive, hmatches]

/-- **One call** loses nothing but to an unforced frame that comes late. -/
theorem call_firstForced (hworks : e.LiveWorks) (hforced : e.Every WindowEncoder.FirstForced)
    {c : EncoderRequest × OsAnswers} (hcall : e.call c = .ok e') :
    e'.Every WindowEncoder.FirstForced ↔ ¬e.LateFirst c := by
  obtain ⟨request, os⟩ := c
  cases request with
  | submit handle frame forceKeyframe => exact submit_every_firstForced hworks hforced hcall
  | poll handle =>
      cases hcall
      refine iff_of_true (hforced.poll fun enc henc => ?_) id
      unfold WindowEncoder.FirstForced
      rw [WindowEncoder.poll_handed]
      exact henc
  | forget handle =>
      cases hcall
      exact iff_of_true (hforced.forget handle) id

/-- **The first frame of a new encoder is forced**, in every state of a run, exactly if no
frame of the run comes late and unforced. -/
theorem first_forced_iff (targetFps : UInt16) (requests : List (EncoderRequest × OsAnswers)) :
    (∀ before, before <+: requests → ∀ e, (new targetFps).calls before = .ok e →
      e.Every WindowEncoder.FirstForced) ↔
    ∀ before c after, requests = before ++ c :: after →
      ∀ e, (new targetFps).calls before = .ok e → ¬e.LateFirst c :=
  Checked.foldlM_keep_iff (liveWorks_new targetFps) (every_new _ targetFps)
    (fun _ _ _ hworks hcall => hworks.call hcall)
    (fun _ _ _ hworks hforced hcall => call_firstForced hworks hforced hcall)
    (fun _ _ hworks hlate => hlate.goes hworks)

/-- What the transforms were handed accounts for what is still to be polled. -/
theorem calls_accounted {targetFps : UInt16} {requests : List (EncoderRequest × OsAnswers)}
    (h : (new targetFps).calls requests = .ok e) : e.Every WindowEncoder.Accounted := by
  refine Checked.foldlM_keep (every_new _ targetFps) (fun e c e' haccounted hcall => ?_) h
  obtain ⟨request, os⟩ := c
  cases request with
  | submit handle frame forceKeyframe =>
      exact haccounted.submit (fun enc hnew => WindowEncoder.new_accounted hnew)
        (fun henc hsubmit => WindowEncoder.submit_accounted henc hsubmit) hcall
  | poll handle =>
      cases hcall
      exact haccounted.poll fun enc henc => WindowEncoder.poll_accounted henc _
  | forget handle =>
      cases hcall
      exact haccounted.forget handle

/-! ## A first frame that is not forced -/

/-- A forced frame without pixels, and a frame of the same size that has them. -/
def gpuThenCpu : List (EncoderRequest × OsAnswers) :=
  [(.submit 1 { width := 2, height := 2, data := [], gpuFrame := some ⟨2, 2⟩ } true, .cpuOnly),
    (.submit 1 { width := 2, height := 2, data := List.replicate 16 0 } false, .cpuOnly)]

/-- **The forced frame is lost**, and the one that is handed over first is not forced. -/
theorem first_frame_unforced :
    ¬∀ targetFps requests e, (new targetFps).calls requests = .ok e →
      e.Every WindowEncoder.FirstForced := by
  intro h
  have hhanded : (((new 30).calls gpuThenCpu).toOption.bind fun e => e.encoders.lookup 1).map
      (fun enc => enc.handed.map fun input => input.2.forceKeyframe) = some [false] := by
    decide +kernel
  cases hrun : (new 30).calls gpuThenCpu with
  | error why =>
      rw [hrun] at hhanded
      cases hhanded
  | ok e =>
      rw [hrun] at hhanded
      obtain ⟨enc, hlive, hhanded⟩ := Option.map_eq_some_iff.mp hhanded
      cases hinputs : enc.handed with
      | nil => simp [hinputs] at hhanded
      | cons first rest =>
          have hforced := h 30 gpuThenCpu e hrun 1 enc hlive first (by rw [hinputs]; rfl)
          simp [hinputs, hforced] at hhanded

end WinFrameEncoder

end Oxrdp
