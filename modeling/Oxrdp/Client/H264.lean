import Oxrdp.Client.AnnexB
import Oxrdp.Client.Conservation
import Oxrdp.Client.YuvMachine
import Mathlib.Data.List.DropRight

/-!
# The software decoder of H.264

`decode/h264.rs` of the client.  A decoder without a reference picture must not be given
inter-coded data, so it waits for a frame that can start a group of pictures, first of all and
after each error.  What openh264 makes of a payload is up to the platform: an error, no picture,
or planes in memory of whatever geometry; it may also panic.

To see which payloads openh264 is given and what it makes of them, it is replaced by one that takes
notes (`Recorded`), which changes no result.  A decode error is said of its answer alone
(`OpenH264Call.failed`); that the decoder passes it on and closes the gate is to be proved.
`turn_failed` is what one call does to the gate, and `gate_iff` follows for every run.
-/

namespace Oxrdp

/-- The decoder of `openh264`: how one starts, and what it makes of a payload. -/
class OpenH264 (X : outParam Type) (I : Type) where
  new : X → Except String I
  decode : X → I → List UInt8 → Option (Except String (Option BorrowedPlanes)) × I

/-- `KEYFRAME` is set. -/
def FrameData.isKeyframe (frame : FrameData) : Bool := frame.flags &&& FrameFlag.keyframe ≠ 0

/-- A frame that can start a group of pictures, by its flag or by its bitstream. -/
def FrameData.startsGop (frame : FrameData) : Bool := frame.isKeyframe || containsIdr frame.data

/-- Software H.264 decoder for one window's stream. -/
structure H264Decoder (I : Type) where
  inner : I
  awaitingKeyframe : Bool
  warnedAboutParameterSets : Bool
  droppedWhileResyncing : UInt32
  reportedProfile : Bool

namespace H264Decoder

variable {X I : Type}

/-- A decoder before its first frame. -/
def start (inner : I) : H264Decoder I :=
  { inner
    awaitingKeyframe := true
    warnedAboutParameterSets := false
    droppedWhileResyncing := 0
    reportedProfile := false }

def new [OpenH264 X I] (x : X) : Except FrameDecodeError (H264Decoder I) :=
  match OpenH264.new x with
  | .error detail => .error (.init Codec.h264 detail)
  | .ok inner => .ok (start inner)

/-- `report_rejection`: the warning that a stream gets once. -/
def reportRejection (d : H264Decoder I) (frame : FrameData) : H264Decoder I :=
  if !frame.isKeyframe && !d.warnedAboutParameterSets && hasParameterSets frame.data then
    { d with warnedAboutParameterSets := true }
  else d

/-- `report_profile`: the note that a stream gets with its first parameter set. -/
def reportProfile (d : H264Decoder I) (frame : FrameData) : H264Decoder I :=
  if d.reportedProfile then d
  else
    match streamProfile frame.data with
    | none => d
    | some _ => { d with reportedProfile := true }

/-- What becomes of the answer of openh264.  The conversion itself does not stop
(`YuvMachine.i420ToBgra_ok`). -/
def picture (answer : Except String (Option BorrowedPlanes)) :
    Except FrameDecodeError (Option (Nat × Nat × List UInt8)) :=
  match answer with
  | .ok none => .ok none
  | .ok (some yuv) =>
      match checkedGeometry yuv.width yuv.height with
      | .error e => .error e
      | .ok _ =>
          match i420ToBgra yuv.toI420Planes with
          | some bgra => .ok (some (yuv.width, yuv.height, bgra))
          | none =>
              .error (.bitstream "decoded picture is smaller than its declared geometry")
  | .error error => .error (.bitstream error)

/-- The decoder that a frame finds that may pass the gate. -/
def opened (d : H264Decoder I) : H264Decoder I :=
  if d.awaitingKeyframe then { d with droppedWhileResyncing := 0, awaitingKeyframe := false } else d

/-- The second half of `decode`: what openh264 made of the frame is passed on, and an error
closes the gate.  There is no result where openh264 panicked. -/
def settle (d : H264Decoder I) (frame : FrameData)
    (answer : Option (Except String (Option BorrowedPlanes))) :
    Option (Except FrameDecodeError (Option FrameData)) × H264Decoder I :=
  match answer.map picture with
  | none => (none, d)
  | some (.ok none) => (some (.ok none), d)
  | some (.ok (some (width, height, data))) =>
      (some (.ok (some
        { windowId := frame.windowId
          frameId := frame.frameId
          codec := Codec.rawBgra
          flags := frame.flags
          width := UInt16.ofNat width
          height := UInt16.ofNat height
          capturedUs := frame.capturedUs
          encodedUs := frame.encodedUs
          data })), d)
  | some (.error e) =>
      (some (.error e), { d.reportRejection frame with awaitingKeyframe := true })

/-- What a frame comes to, and the decoder it leaves behind. -/
def decode [OpenH264 X I] (x : X) (d : H264Decoder I) (frame : FrameData) :
    Option (Except FrameDecodeError (Option FrameData)) × H264Decoder I :=
  if d.awaitingKeyframe && !(frame.isKeyframe || containsIdr frame.data) then
    (some (.ok none), { d with droppedWhileResyncing := d.droppedWhileResyncing.saturatingAdd 1 })
  else
    let d := d.opened.reportProfile frame
    let (answer, inner) := OpenH264.decode x d.inner frame.data
    { d with inner }.settle frame answer

end H264Decoder

namespace H264Decoder

variable {X I : Type} [OpenH264 X I]

/-- Frames for one decoder, in order: what they come to, and the decoder they leave behind. -/
def run (d : H264Decoder I) (frames : List (X × FrameData)) :
    List (Option (Except FrameDecodeError (Option FrameData))) × H264Decoder I :=
  frames.foldl
    (fun (results, d) (x, frame) => (results ++ [(d.decode x frame).1], (d.decode x frame).2))
    ([], d)

/-- A run with one frame more. -/
theorem run_snoc (d : H264Decoder I) (frames : List (X × FrameData)) (x : X) (frame : FrameData) :
    d.run (frames ++ [(x, frame)]) =
      ((d.run frames).1 ++ [((d.run frames).2.decode x frame).1],
        ((d.run frames).2.decode x frame).2) := by
  rw [run, List.foldl_append]
  rfl

end H264Decoder

/-! ## What openh264 is given -/

/-- A payload for openh264, and what it made of it. -/
structure OpenH264Call where
  payload : List UInt8
  answer : Option (Except String (Option BorrowedPlanes))

/-- A decoder of openh264 that notes what it is given. -/
structure Recorded (I : Type) where
  inner : I
  calls : List OpenH264Call

instance {X I : Type} [OpenH264 X I] : OpenH264 X (Recorded I) where
  new x := (OpenH264.new x).map fun inner => { inner, calls := [] }
  decode x r data :=
    ((OpenH264.decode x r.inner data).1,
      { inner := (OpenH264.decode x r.inner data).2
        calls := r.calls ++ [⟨data, (OpenH264.decode x r.inner data).1⟩] })

/-- A picture that can be shown: of a size that is not refused, in planes that have room for it. -/
structure BorrowedPlanes.Showable (yuv : BorrowedPlanes) : Prop where
  width_le : yuv.width ≤ 65535
  height_le : yuv.height ≤ 65535
  pixels_le : yuv.width * yuv.height ≤ maxDecodedPixels
  room : Addresses yuv.toI420Planes

/-- It is checked as it stands, and the room as the code checks it. -/
theorem BorrowedPlanes.showable_iff (yuv : BorrowedPlanes) : yuv.Showable ↔
    (yuv.width ≤ 65535 ∧ yuv.height ≤ 65535 ∧ yuv.width * yuv.height ≤ maxDecodedPixels) ∧
      yuv.isAddressable = true := by
  rw [isAddressable_iff]
  exact ⟨fun h => ⟨⟨h.width_le, h.height_le, h.pixels_le⟩, h.room⟩,
    fun h => ⟨h.1.1, h.1.2.1, h.1.2.2, h.2⟩⟩

instance (yuv : BorrowedPlanes) : Decidable yuv.Showable :=
  decidable_of_iff _ yuv.showable_iff.symm

/-- A decode error: openh264 reports one, or its picture cannot be shown.  Whether it comes to
anything in the decoder is not asked. -/
def OpenH264Call.failed (call : OpenH264Call) : Bool :=
  match call.answer with
  | none => false
  | some (.ok none) => false
  | some (.ok (some yuv)) => !decide yuv.Showable
  | some (.error _) => true

/-- A frame, what openh264 was given of it, and what it came to. -/
structure DecodeTurn where
  frame : FrameData
  calls : List OpenH264Call
  result : Option (Except FrameDecodeError (Option FrameData))

/-- There was a decode error. -/
def DecodeTurn.failed (turn : DecodeTurn) : Bool := turn.calls.any OpenH264Call.failed

/-- The turns after the last error. -/
def sinceError (history : List DecodeTurn) : List DecodeTurn :=
  history.rtakeWhile fun turn => !turn.failed

/-- One turn more, which is the first one if it fails. -/
theorem sinceError_snoc (history : List DecodeTurn) (turn : DecodeTurn) :
    sinceError (history ++ [turn]) = if turn.failed then [] else sinceError history ++ [turn] := by
  rw [sinceError, List.rtakeWhile_concat]
  cases turn.failed with
  | true => rfl
  | false => rfl

namespace H264Decoder

variable {X I : Type} [OpenH264 X I]

/-- A turn of a decoder whose openh264 takes notes. -/
def turn (x : X) (d : H264Decoder (Recorded I)) (frame : FrameData) : DecodeTurn where
  frame
  calls := (d.decode x frame).2.inner.calls.drop d.inner.calls.length
  result := (d.decode x frame).1

/-- The turns of a run. -/
def turns (d : H264Decoder (Recorded I)) (frames : List (X × FrameData)) :
    List DecodeTurn × H264Decoder (Recorded I) :=
  frames.foldl
    (fun (history, d) (x, frame) => (history ++ [d.turn x frame], (d.decode x frame).2)) ([], d)

/-- The turns of a run with one frame more. -/
theorem turns_snoc (d : H264Decoder (Recorded I)) (frames : List (X × FrameData)) (x : X)
    (frame : FrameData) :
    d.turns (frames ++ [(x, frame)]) =
      ((d.turns frames).1 ++ [(d.turns frames).2.turn x frame],
        ((d.turns frames).2.decode x frame).2) := by
  rw [turns, List.foldl_append]
  rfl

/-! ## The gate -/

variable {J : Type}

/-- A decoder past the gate still has its openh264. -/
theorem opened_gate (d : H264Decoder J) :
    d.opened.awaitingKeyframe = false ∧ d.opened.inner = d.inner := by
  unfold opened
  split
  next => exact ⟨rfl, rfl⟩
  next hgate => exact ⟨by simpa using hgate, rfl⟩

/-- The note on the profile leaves the gate and openh264. -/
theorem reportProfile_gate (d : H264Decoder J) (frame : FrameData) :
    (d.reportProfile frame).awaitingKeyframe = d.awaitingKeyframe ∧
      (d.reportProfile frame).inner = d.inner := by
  unfold reportProfile
  split
  · exact ⟨rfl, rfl⟩
  · split
    · exact ⟨rfl, rfl⟩
    · exact ⟨rfl, rfl⟩

/-- The decoder with a frame past the gate, and openh264 as that frame leaves it. -/
def ready (d : H264Decoder J) (frame : FrameData) (inner : J) : H264Decoder J :=
  { d.opened.reportProfile frame with inner }

/-- Past the gate, it stands open. -/
theorem ready_awaiting (d : H264Decoder J) (frame : FrameData) (inner : J) :
    (d.ready frame inner).awaitingKeyframe = false :=
  (reportProfile_gate _ frame).1.trans (opened_gate d).1

/-- The warning about a frame leaves openh264. -/
theorem reportRejection_inner (d : H264Decoder J) (frame : FrameData) :
    (d.reportRejection frame).inner = d.inner := by
  unfold reportRejection
  split
  · rfl
  · rfl

/-- Whatever openh264 made of the frame, it is left as it is. -/
theorem settle_inner (d : H264Decoder J) (frame : FrameData)
    (answer : Option (Except String (Option BorrowedPlanes))) :
    (d.settle frame answer).2.inner = d.inner := by
  unfold settle
  split
  · rfl
  · rfl
  · rfl
  · exact reportRejection_inner d frame

/-- Which answers are no picture: the decode errors. -/
theorem picture_error_iff (payload : List UInt8) (answer : Except String (Option BorrowedPlanes)) :
    (∃ e, picture answer = .error e) ↔
      OpenH264Call.failed { payload, answer := some answer } = true := by
  rcases answer with error | yuv
  · exact ⟨fun _ => rfl, fun _ => ⟨_, rfl⟩⟩
  · cases yuv with
    | none =>
        refine ⟨fun h => ?_, fun h => by cases h⟩
        obtain ⟨e, he⟩ := h
        cases he
    | some yuv =>
        have hroom := i420ToBgra_isSome_iff yuv
        unfold picture OpenH264Call.failed checkedGeometry
        dsimp only
        rw [Bool.not_eq_true', decide_eq_false_iff_not]
        by_cases hsize : yuv.width = 0 ∨ yuv.height = 0 ∨ 65535 < yuv.width ∨ 65535 < yuv.height ∨
            maxDecodedPixels < yuv.width * yuv.height
        · -- the size is refused before the planes are looked at
          rw [if_pos hsize]
          refine ⟨fun _ hshow => ?_, fun _ => ⟨_, rfl⟩⟩
          have hwidth := hshow.room.width_pos
          have hheight := hshow.room.height_pos
          have hle := hshow.width_le
          have hle' := hshow.height_le
          have hpixels := hshow.pixels_le
          omega
        · rw [if_neg hsize]
          have hpixels : yuv.width * yuv.height ≤ maxDecodedPixels := by omega
          have hbytes : yuv.width * yuv.height * 4 ≤ usizeMax := by
            unfold maxDecodedPixels at hpixels
            unfold usizeMax
            omega
          cases hbgra : i420ToBgra yuv.toI420Planes with
          | some bgra =>
              rw [hbgra] at hroom
              refine ⟨fun h => ?_, fun h => ?_⟩
              · obtain ⟨e, he⟩ := h
                cases he
              · exact absurd ⟨by omega, by omega, hpixels, (hroom.mp rfl).1⟩ h
          | none =>
              rw [hbgra] at hroom
              refine ⟨fun _ hshow => ?_, fun _ => ⟨_, rfl⟩⟩
              cases hroom.mpr ⟨hshow.room, hbytes⟩

/-- Behind an open gate a decode error fails the frame and closes the gate, and nothing else
does. -/
theorem settle_failed {d : H264Decoder J} (hgate : d.awaitingKeyframe = false)
    (frame : FrameData) (payload : List UInt8)
    (answer : Option (Except String (Option BorrowedPlanes))) :
    (d.settle frame answer).2.awaitingKeyframe = OpenH264Call.failed { payload, answer } ∧
      ((∃ e, (d.settle frame answer).1 = some (.error e)) ↔
        OpenH264Call.failed { payload, answer } = true) := by
  cases answer with
  | none =>
      refine ⟨hgate, fun h => ?_, fun h => by cases h⟩
      obtain ⟨e, he⟩ := h
      cases he
  | some answer =>
      have hiff := picture_error_iff payload answer
      unfold settle
      rw [Option.map_some]
      rcases hpicture : picture answer with e | picture
      · rw [hpicture] at hiff
        have hfailed := hiff.mp ⟨e, rfl⟩
        exact ⟨hfailed.symm, fun _ => hfailed, fun _ => ⟨e, rfl⟩⟩
      · rw [hpicture] at hiff
        have hfine : OpenH264Call.failed { payload, answer := some answer } = false := by
          rw [← Bool.not_eq_true, ← hiff]
          rintro ⟨e, he⟩
          cases he
        rw [hfine]
        cases picture with
        | none =>
            refine ⟨hgate, fun h => ?_, fun h => by cases h⟩
            obtain ⟨e, he⟩ := h
            cases he
        | some shown =>
            refine ⟨hgate, fun h => ?_, fun h => by cases h⟩
            obtain ⟨e, he⟩ := h
            cases he

variable [OpenH264 X J]

/-- A frame that does not pass the gate. -/
theorem decode_waiting {d : H264Decoder J} {frame : FrameData} (hgate : d.awaitingKeyframe = true)
    (hframe : frame.startsGop = false) (x : X) :
    d.decode x frame = (some (.ok none),
      { d with droppedWhileResyncing := d.droppedWhileResyncing.saturatingAdd 1 }) := by
  rw [FrameData.startsGop] at hframe
  rw [decode, hgate, hframe]
  rfl

/-- A frame that passes it goes to openh264. -/
theorem decode_passed {d : H264Decoder J} {frame : FrameData}
    (h : d.awaitingKeyframe = false ∨ frame.startsGop = true) (x : X) :
    d.decode x frame = (d.ready frame (OpenH264.decode x d.inner frame.data).2).settle frame
      (OpenH264.decode x d.inner frame.data).1 := by
  have hpass : ¬ (d.awaitingKeyframe && !(frame.isKeyframe || containsIdr frame.data)) = true := by
    rw [FrameData.startsGop] at h
    rcases h with h | h
    · simp [h]
    · simp [h]
  rw [decode, if_neg hpass]
  dsimp only
  rw [(reportProfile_gate _ frame).2, (opened_gate d).2]
  rfl

/-- It passes, or it waits. -/
theorem passes_or_waits (d : H264Decoder J) (frame : FrameData) :
    (d.awaitingKeyframe = false ∨ frame.startsGop = true) ∨
      d.awaitingKeyframe = true ∧ frame.startsGop = false := by
  cases d.awaitingKeyframe with
  | false => exact .inl (.inl rfl)
  | true =>
      cases frame.startsGop with
      | true => exact .inl (.inr rfl)
      | false => exact .inr ⟨rfl, rfl⟩

variable (d : H264Decoder (Recorded I)) (x : X) (frame : FrameData)

/-- What openh264 is given of a frame: all of it, past the gate. -/
theorem turn_calls : (d.turn x frame).calls =
    if d.awaitingKeyframe = false ∨ frame.startsGop = true then
      [⟨frame.data, (OpenH264.decode x d.inner.inner frame.data).1⟩] else [] := by
  rcases passes_or_waits d frame with hpass | ⟨hgate, hframe⟩
  · rw [if_pos hpass, turn, decode_passed hpass, settle_inner]
    exact List.drop_left
  · rw [if_neg (by simp [hgate, hframe]), turn, decode_waiting hgate hframe]
    exact List.drop_length

/-- What one frame comes to: it fails exactly with a decode error, which closes the gate. -/
theorem turn_failed :
    (d.decode x frame).2.awaitingKeyframe =
        ((d.turn x frame).failed || d.awaitingKeyframe && !frame.startsGop) ∧
      ((∃ e, (d.decode x frame).1 = some (.error e)) ↔ (d.turn x frame).failed = true) := by
  rw [DecodeTurn.failed, turn_calls]
  rcases passes_or_waits d frame with hpass | ⟨hgate, hframe⟩
  · have hshut : (d.awaitingKeyframe && !frame.startsGop) = false := by
      rcases hpass with h | h
      · rw [h, Bool.false_and]
      · rw [h, Bool.not_true, Bool.and_false]
    rw [if_pos hpass, List.any_cons, List.any_nil, Bool.or_false, hshut, Bool.or_false,
      decode_passed hpass]
    exact settle_failed (ready_awaiting d frame _) frame frame.data _
  · rw [if_neg (by simp [hgate, hframe]), decode_waiting hgate hframe, hgate, hframe]
    refine ⟨rfl, fun h => ?_, fun h => by cases h⟩
    obtain ⟨e, he⟩ := h
    cases he

/-- **The gate, over a run.**  It stands open exactly if a frame since the last error could start
a group of pictures. -/
theorem gate_iff (inner : Recorded I) (frames : List (X × FrameData)) :
    ((start inner).turns frames).2.awaitingKeyframe = false ↔
      ∃ turn ∈ sinceError ((start inner).turns frames).1, turn.frame.startsGop = true := by
  induction frames using List.reverseRecOn with
  | nil =>
      change true = false ↔ ∃ turn ∈ [], _
      simp
  | append_singleton frames step ih =>
      obtain ⟨x, frame⟩ := step
      rw [turns_snoc]
      dsimp only
      rw [(turn_failed _ x frame).1, sinceError_snoc]
      by_cases hfailed : (((start inner).turns frames).2.turn x frame).failed = true
      · simp [hfailed]
      · have hframe : (((start inner).turns frames).2.turn x frame).frame = frame := rfl
        simp only [hfailed, Bool.false_or, Bool.false_eq_true, if_false, List.mem_append,
          List.mem_singleton, or_and_right, exists_or, exists_eq_left, hframe, ← ih]
        cases ((start inner).turns frames).2.awaitingKeyframe with
        | true => simp
        | false => simp

/-! ## The notes change nothing -/

/-- The decoder without its notes. -/
def unrecorded : H264Decoder I := { d with inner := d.inner.inner }

/-- Past the gate. -/
theorem opened_unrecorded : d.unrecorded.opened = d.opened.unrecorded := by
  unfold opened unrecorded
  split
  · rfl
  · rfl

/-- With the profile noted. -/
theorem reportProfile_unrecorded :
    d.unrecorded.reportProfile frame = (d.reportProfile frame).unrecorded := by
  unfold reportProfile unrecorded
  dsimp only
  split
  · rfl
  · split
    · rfl
    · rfl

/-- With the warning given. -/
theorem reportRejection_unrecorded :
    d.unrecorded.reportRejection frame = (d.reportRejection frame).unrecorded := by
  unfold reportRejection unrecorded
  dsimp only
  split
  · rfl
  · rfl

/-- With an answer settled. -/
theorem settle_unrecorded (answer : Option (Except String (Option BorrowedPlanes))) :
    d.unrecorded.settle frame answer =
      ((d.settle frame answer).1, (d.settle frame answer).2.unrecorded) := by
  unfold settle
  split
  · rfl
  · rfl
  · rfl
  · rw [reportRejection_unrecorded]
    rfl

/-- Taking notes changes no result. -/
theorem decode_unrecorded :
    d.unrecorded.decode x frame = ((d.decode x frame).1, (d.decode x frame).2.unrecorded) := by
  rcases passes_or_waits d frame with hpass | ⟨hgate, hframe⟩
  · have hpass' : d.unrecorded.awaitingKeyframe = false ∨ frame.startsGop = true := hpass
    rw [decode_passed hpass, decode_passed hpass', ← settle_unrecorded, ready, opened_unrecorded,
      reportProfile_unrecorded]
    rfl
  · have hgate' : d.unrecorded.awaitingKeyframe = true := hgate
    rw [decode_waiting hgate hframe, decode_waiting hgate' hframe]
    rfl

/-- A run is the same without them. -/
theorem run_unrecorded (frames : List (X × FrameData)) : d.unrecorded.run frames =
    ((d.turns frames).1.map DecodeTurn.result, (d.turns frames).2.unrecorded) := by
  induction frames using List.reverseRecOn with
  | nil => rfl
  | append_singleton frames step ih =>
      obtain ⟨x, frame⟩ := step
      rw [run_snoc, turns_snoc, ih, decode_unrecorded, List.map_append]
      rfl

end H264Decoder

open H264Decoder in
/-- **The gate of the decoder.**  Whatever the frames and whatever openh264 makes of them, it is
given a payload exactly if, since the start or the last decode error, a frame up to and including
this one had its flag set or an IDR slice in it.  A frame fails exactly if there was a decode
error, and every decode error closes the gate.  The notes on what openh264 is given change no
result. -/
theorem decoder_gate {X I : Type} [OpenH264 X I] (inner : I) (before : List (X × FrameData)) (x : X)
    (frame : FrameData) :
    let fresh : H264Decoder (Recorded I) := start { inner, calls := [] }
    let history := (fresh.turns before).1
    let d := (fresh.turns before).2
    let turn := d.turn x frame
    turn.calls =
        (if ∃ t ∈ sinceError history ++ [turn], t.frame.isKeyframe ∨ containsIdr t.frame.data then
          [⟨frame.data, (OpenH264.decode x d.inner.inner frame.data).1⟩] else []) ∧
      ((∃ e, turn.result = some (.error e)) ↔ turn.failed) ∧
      (turn.failed → (d.decode x frame).2.awaitingKeyframe) ∧
      ((start inner).run (before ++ [(x, frame)])).1 = (history ++ [turn]).map DecodeTurn.result := by
  intro fresh history d turn
  have hgate : d.awaitingKeyframe = false ↔ ∃ t ∈ sinceError history, t.frame.startsGop = true :=
    gate_iff _ before
  have hframe : turn.frame = frame := rfl
  have hgiven : (d.awaitingKeyframe = false ∨ frame.startsGop = true) ↔
      ∃ t ∈ sinceError history ++ [turn], t.frame.isKeyframe ∨ containsIdr t.frame.data := by
    simp only [hgate, FrameData.startsGop, Bool.or_eq_true, List.mem_append, List.mem_singleton,
      or_and_right, exists_or, exists_eq_left, hframe]
  obtain ⟨hawaiting, herror⟩ := turn_failed d x frame
  refine ⟨?_, herror, ?_, ?_⟩
  · exact (turn_calls d x frame).trans (if_congr hgiven rfl rfl)
  · intro hfailed
    rw [hawaiting, Bool.or_eq_true]
    exact .inl hfailed
  · have hnotes := run_unrecorded fresh (before ++ [(x, frame)])
    rw [turns_snoc] at hnotes
    exact congrArg Prod.fst hnotes

/-- An openh264 with the answers that it will give. -/
structure ScriptedH264 where
  answers : List (Option (Except String (Option BorrowedPlanes)))

instance : OpenH264 Unit ScriptedH264 where
  new _ := .ok { answers := [] }
  decode _ s _ := (s.answers.headD (some (.ok none)), { answers := s.answers.tail })

/-- A frame of a coded stream. -/
def codedFrame (flags : UInt8) (data : List UInt8) : FrameData :=
  { windowId := 1, frameId := 1, codec := Codec.h264, flags, width := 2, height := 2
    capturedUs := 0, encodedUs := 0, data }

/-- An IDR slice without the flag, and a slice that builds on another picture. -/
def unflaggedIdr : FrameData := codedFrame 0 [0, 0, 1, 0x65, 0x88]

def interFrame : FrameData := codedFrame 0 [0, 0, 1, 0x41, 0x9a]

/-- Planes without room for the picture that they are said to hold. -/
def shortPlanes : BorrowedPlanes where
  y := [16]
  u := [120]
  v := [120]
  width := 2
  height := 2
  yStride := 2
  uStride := 1
  vStride := 1
  y_le := by decide
  u_le := by decide
  v_le := by decide

/-- After an IDR picture the stream goes on until openh264 reports an error. -/
def rejectedStream : List (Unit × FrameData) :=
  [((), unflaggedIdr), ((), interFrame), ((), interFrame)]

/-- An inter-coded frame behind an error is not given to openh264.  The IDR picture that would
open the gate again does not keep it open: its planes are too short. -/
theorem decoder_gate_rejected :
    let answers := [some (.ok none), some (.ok none), some (.error "bitstream"),
      some (.ok (some shortPlanes))]
    let fresh : H264Decoder (Recorded ScriptedH264) :=
      H264Decoder.start { inner := ScriptedH264.mk answers, calls := [] }
    let d := (fresh.turns rejectedStream).2
    (fresh.turns rejectedStream).1.map DecodeTurn.failed = [false, false, true] ∧
      (d.turn () interFrame).calls = [] ∧
      (d.turn () unflaggedIdr).calls.length = 1 ∧
      (∃ e, (d.turn () unflaggedIdr).result = some (.error e)) ∧
      (d.decode () unflaggedIdr).2.awaitingKeyframe = true := by
  intro answers fresh d
  obtain ⟨hinter, -⟩ := decoder_gate (ScriptedH264.mk answers) rejectedStream () interFrame
  obtain ⟨hidr, herror, hcloses, -⟩ :=
    decoder_gate (ScriptedH264.mk answers) rejectedStream () unflaggedIdr
  have hfailed : (d.turn () unflaggedIdr).failed = true := by decide +kernel
  refine ⟨by decide +kernel, ?_, ?_, herror.mpr hfailed, hcloses hfailed⟩
  · exact hinter.trans (if_neg (by decide +kernel))
  · exact congrArg List.length (hidr.trans (if_pos (by decide +kernel)))

/-- A panic unwinds through the decoder, and takes it along. -/
instance {X I : Type} [OpenH264 X I] : FrameDecoder X (H264Decoder I) where
  codec _ := Codec.h264
  decode x d frame :=
    match d.decode x frame with
    | (some result, d) => some (result, d)
    | (none, _) => none

end Oxrdp
