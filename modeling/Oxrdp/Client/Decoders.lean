import Oxrdp.Client.H264
import Oxrdp.Lib.Table

/-!
# The decoders of all windows

`new_decoder` and `WindowDecoders` of `decode/mod.rs`: each window has a decoder of its own, made
for the codec of its first frame and replaced when the codec changes.

The presenter copies pixels without a look at the frame, so whatever comes out of a decoder has
to be `Presentable`.  Each decoder owes that for frames of its own codec (`Presents`), and the
table gives it no others.  It holds of every build and of both ways to a decoder, this table and
the pipeline.
-/

namespace Except

variable {ε α β : Type}

/-- A result that was mapped is that of a result. -/
theorem map_eq_ok {f : α → β} {e : Except ε α} {b : β} (h : e.map f = .ok b) :
    ∃ a, e = .ok a ∧ f a = b := by
  cases e with
  | error e => cases h
  | ok a => exact ⟨a, rfl, Except.ok.inj h⟩

end Except

namespace Oxrdp

/-- What the presenter relies on, for a picture made of this frame. -/
structure Presentable (frame picture : FrameData) : Prop where
  codec : picture.codec = Codec.rawBgra
  width_pos : 0 < picture.width.toNat
  height_pos : 0 < picture.height.toNat
  pixels_le : picture.width.toNat * picture.height.toNat ≤ maxDecodedPixels
  length_eq : picture.data.length = picture.width.toNat * picture.height.toNat * 4
  windowId : picture.windowId = frame.windowId
  frameId : picture.frameId = frame.frameId
  capturedUs : picture.capturedUs = frame.capturedUs
  encodedUs : picture.encodedUs = frame.encodedUs

/-- A presentable picture is of its frame. -/
theorem Presentable.key {frame picture : FrameData} (h : Presentable frame picture) :
    picture.key = frame.key := by
  rw [FrameData.key, h.windowId, h.frameId]
  rfl

/-- What a decoder owes for frames of its codec. -/
def Presents (X D : Type) [FrameDecoder X D] : Prop :=
  ∀ (x : X) (d d' : D) (frame picture : FrameData), FrameDecoder.codec d = frame.codec →
    FrameDecoder.decode x d frame = some (.ok (some picture), d') → Presentable frame picture

/-- A geometry that was checked has its sizes, which are positive and fit sixteen bits. -/
theorem checkedGeometry_ok {width height : Nat} {size : Nat × Nat}
    (h : checkedGeometry width height = .ok size) :
    size = (width, height) ∧ 0 < width ∧ 0 < height ∧ width ≤ 65535 ∧ height ≤ 65535 ∧
      width * height ≤ maxDecodedPixels := by
  unfold checkedGeometry at h
  split at h
  next => cases h
  next hgood =>
    cases h
    simp only [not_or, not_lt] at hgood
    obtain ⟨hwidth, hheight, hrest⟩ := hgood
    exact ⟨rfl, Nat.pos_of_ne_zero hwidth, Nat.pos_of_ne_zero hheight, hrest⟩

/-- A picture that is passed through is presentable. -/
theorem passthrough_presents : Presents Unit PassthroughDecoder := by
  intro x d d' frame picture hcodec h
  simp only [FrameDecoder.decode] at h
  split at h
  next => cases h
  next width height hgeometry =>
    obtain ⟨hsize, hwidth, hheight, -, -, hpixels⟩ := checkedGeometry_ok hgeometry
    cases hsize
    split at h
    next => cases h
    next hlength =>
      cases h
      exact {
        codec := hcodec.symm
        width_pos := hwidth
        height_pos := hheight
        pixels_le := hpixels
        length_eq := Decidable.not_not.mp hlength
        windowId := rfl
        frameId := rfl
        capturedUs := rfl
        encodedUs := rfl }

namespace H264Decoder

variable {X I : Type}

/-- A picture has the size that openh264 names, which the header of the frame can hold. -/
theorem picture_size {answer : Except String (Option BorrowedPlanes)} {width height : Nat}
    {data : List UInt8} (h : picture answer = .ok (some (width, height, data))) :
    0 < width ∧ 0 < height ∧ width ≤ 65535 ∧ height ≤ 65535 ∧
      width * height ≤ maxDecodedPixels ∧ data.length = width * height * 4 := by
  unfold picture at h
  split at h
  next => cases h
  next yuv =>
    split at h
    next => cases h
    next size hgeometry =>
      split at h
      next bgra hbgra =>
        cases h
        obtain ⟨-, hwidth, hheight, hwide, hhigh, hpixels⟩ := checkedGeometry_ok hgeometry
        exact ⟨hwidth, hheight, hwide, hhigh, hpixels, length_i420ToBgra hbgra⟩
      next => cases h
  next => cases h

/-- What openh264 answers is presentable once it was settled. -/
theorem settle_presentable {d d' : H264Decoder I} {frame result : FrameData}
    {answer : Option (Except String (Option BorrowedPlanes))}
    (h : d.settle frame answer = (some (.ok (some result)), d')) : Presentable frame result := by
  unfold settle at h
  split at h
  next => cases h
  next => cases h
  next width height data hpicture =>
    cases h
    obtain ⟨answer, -, hpicture⟩ := Option.map_eq_some_iff.mp hpicture
    obtain ⟨hwidth, hheight, hwide, hhigh, hpixels, hlength⟩ := picture_size hpicture
    -- the cast to `u16` loses nothing
    have hw : (UInt16.ofNat width).toNat = width :=
      UInt16.toNat_ofNat_of_lt (Nat.lt_succ_of_le hwide)
    have hh : (UInt16.ofNat height).toNat = height :=
      UInt16.toNat_ofNat_of_lt (Nat.lt_succ_of_le hhigh)
    exact {
      codec := rfl
      width_pos := hw.symm ▸ hwidth
      height_pos := hh.symm ▸ hheight
      pixels_le := by rw [hw, hh]; exact hpixels
      length_eq := by rw [hw, hh]; exact hlength
      windowId := rfl
      frameId := rfl
      capturedUs := rfl
      encodedUs := rfl }
  next => cases h

/-- A picture that was decoded is presentable. -/
theorem decode_presentable [OpenH264 X I] {x : X} {d d' : H264Decoder I} {frame result : FrameData}
    (h : d.decode x frame = (some (.ok (some result)), d')) : Presentable frame result := by
  rcases passes_or_waits d frame with hpass | ⟨hgate, hframe⟩
  · rw [decode_passed hpass] at h
    exact settle_presentable h
  · rw [decode_waiting hgate hframe] at h
    cases h

end H264Decoder

section H264

variable {X I : Type} [OpenH264 X I]

/-- Through the class of decoders the picture is presentable too. -/
theorem h264_presentable {x : X} {d d' : H264Decoder I} {frame picture : FrameData}
    (h : FrameDecoder.decode x d frame = some (.ok (some picture), d')) :
    Presentable frame picture := by
  simp only [FrameDecoder.decode] at h
  split at h
  next result d'' hdecode =>
    cases h
    exact H264Decoder.decode_presentable hdecode
  next => cases h

/-- The decoder of H.264 presents. -/
theorem h264_presents : Presents X (H264Decoder I) :=
  fun _ _ _ _ _ _ => h264_presentable

/-- The decoder of H.264 is faithful: its pictures have the keys of their frames. -/
theorem h264_faithful : Faithful X (H264Decoder I) :=
  fun _ _ _ _ _ h => (h264_presentable h).key

end H264

/-! ## Both codecs -/

/-- The decoders of a build with H.264. -/
inductive BoxedDecoder (I : Type) where
  | passthrough (decoder : PassthroughDecoder)
  | h264 (decoder : H264Decoder I)

instance {X I : Type} [OpenH264 X I] : FrameDecoder X (BoxedDecoder I) where
  codec
    | .passthrough decoder => FrameDecoder.codec decoder
    | .h264 decoder => FrameDecoder.codec decoder
  decode x boxed frame :=
    match boxed with
    | .passthrough decoder =>
        (FrameDecoder.decode () decoder frame).map fun r => (r.1, .passthrough r.2)
    | .h264 decoder => (FrameDecoder.decode x decoder frame).map fun r => (r.1, .h264 r.2)

/-- `new_decoder` of a build with H.264. -/
def newDecoderH264 {X I : Type} [OpenH264 X I] : DecoderFactory X (BoxedDecoder I) :=
  fun _ x codec =>
    if codec = Codec.rawBgra then .ok (.passthrough {})
    else if codec = Codec.h264 then (H264Decoder.new x).map .h264
    else .error (.unsupportedCodec codec)

/-- A factory makes decoders of the codec it is asked for. -/
def MakesCodec {X D : Type} [FrameDecoder X D] (factory : DecoderFactory X D) : Prop :=
  ∀ (windowId : UInt32) (x : X) (codec : UInt8) (d : D),
    factory windowId x codec = .ok d → FrameDecoder.codec d = codec

/-- A build without H.264 makes the decoders that its codecs have. -/
theorem newDecoder_makesCodec : MakesCodec newDecoder := by
  intro windowId x codec d h
  unfold newDecoder at h
  split at h
  next hcodec => exact hcodec.symm
  next => cases h

section Boxed

variable {X I : Type} [OpenH264 X I]

/-- A build with H.264 makes one more. -/
theorem newDecoderH264_makesCodec : MakesCodec (newDecoderH264 (X := X) (I := I)) := by
  intro windowId x codec d h
  unfold newDecoderH264 at h
  split at h
  next hcodec =>
    cases h
    exact hcodec.symm
  next =>
    split at h
    next hcodec =>
      obtain ⟨decoder, -, rfl⟩ := Except.map_eq_ok h
      exact hcodec.symm
    next => cases h

/-- What a boxed decoder makes of a frame is what the one inside makes of it. -/
theorem boxed_decode {x : X} {d d' : BoxedDecoder I} {frame : FrameData}
    {result : Except FrameDecodeError (Option FrameData)}
    (h : FrameDecoder.decode x d frame = some (result, d')) :
    (∃ decoder decoder', d = .passthrough decoder ∧
      FrameDecoder.decode () decoder frame = some (result, decoder')) ∨
    ∃ decoder decoder', d = .h264 decoder ∧
      FrameDecoder.decode x decoder frame = some (result, decoder') := by
  cases d with
  | passthrough decoder =>
      obtain ⟨⟨result, decoder'⟩, hdecode, hr⟩ := Option.map_eq_some_iff.mp h
      cases hr
      exact .inl ⟨decoder, decoder', rfl, hdecode⟩
  | h264 decoder =>
      obtain ⟨⟨result, decoder'⟩, hdecode, hr⟩ := Option.map_eq_some_iff.mp h
      cases hr
      exact .inr ⟨decoder, decoder', rfl, hdecode⟩

/-- Either of the two decoders presents. -/
theorem boxed_presents : Presents X (BoxedDecoder I) := by
  intro x d d' frame picture hcodec h
  rcases boxed_decode h with ⟨decoder, decoder', rfl, hdecode⟩ | ⟨decoder, decoder', rfl, hdecode⟩
  · exact passthrough_presents () decoder decoder' frame picture hcodec hdecode
  · exact h264_presents x decoder decoder' frame picture hcodec hdecode

/-- The contract of the pipeline. -/
theorem boxed_faithful : Faithful X (BoxedDecoder I) := by
  intro x d d' frame picture h
  rcases boxed_decode h with ⟨decoder, decoder', rfl, hdecode⟩ | ⟨decoder, decoder', rfl, hdecode⟩
  · exact passthrough_faithful () decoder decoder' frame picture hdecode
  · exact h264_faithful x decoder decoder' frame picture hdecode

end Boxed

/-! ## The table -/

/-- One decoder per window. -/
structure WindowDecoders (D : Type) where
  decoders : Table UInt32 D

namespace WindowDecoders

variable {X D : Type}

def new : WindowDecoders D := { decoders := ∅ }

/-- The window has no decoder, or one of another codec. -/
def stale [FrameDecoder X D] (s : WindowDecoders D) (frame : FrameData) : Bool :=
  (s.decoders.lookup frame.windowId).all fun d => FrameDecoder.codec d ≠ frame.codec

/-- Routes one frame to its window's decoder; a decoder that panics takes the call along. -/
def decode [FrameDecoder X D] (factory : DecoderFactory X D) (x : X) (s : WindowDecoders D)
    (frame : FrameData) :
    Option (Except FrameDecodeError (Option FrameData) × WindowDecoders D) :=
  let routed : Except FrameDecodeError (WindowDecoders D) :=
    if s.stale frame then
      (factory frame.windowId x frame.codec).map fun d =>
        { decoders := s.decoders.insert frame.windowId d }
    else .ok s
  match routed with
  | .error e => some (.error e, s)
  | .ok s =>
      match s.decoders.lookup frame.windowId with
      | none => none
      | some d =>
          (FrameDecoder.decode x d frame).map fun r =>
            (r.1, { decoders := s.decoders.insert frame.windowId r.2 })

/-- Drops a window's decoder. -/
def forget (s : WindowDecoders D) (windowId : UInt32) : WindowDecoders D :=
  { decoders := s.decoders.erase windowId }

variable [FrameDecoder X D] {factory : DecoderFactory X D}

/-- A frame is decoded by a decoder of its codec. -/
theorem decode_routed (hfactory : MakesCodec factory) {x : X} {s s' : WindowDecoders D}
    {frame picture : FrameData}
    (h : s.decode factory x frame = some (.ok (some picture), s')) :
    ∃ d d' : D, FrameDecoder.codec d = frame.codec ∧
      FrameDecoder.decode x d frame = some (.ok (some picture), d') := by
  unfold decode at h
  dsimp only at h
  split at h
  next => cases h
  next routed hrouted =>
    split at h
    next => cases h
    next d hlookup =>
      obtain ⟨⟨result, d'⟩, hdecode, hr⟩ := Option.map_eq_some_iff.mp h
      cases hr
      refine ⟨d, d', ?_, hdecode⟩
      split at hrouted
      next =>
        -- a decoder that was just made
        obtain ⟨made, hmade, rfl⟩ := Except.map_eq_ok hrouted
        rw [AList.lookup_insert] at hlookup
        cases hlookup
        exact hfactory _ _ _ _ hmade
      next hstale =>
        cases hrouted
        rw [stale, hlookup] at hstale
        simpa using hstale

end WindowDecoders

/-- **What comes out of the decoders.**  In the build with H.264 and in the one without, whatever
openh264 does and whatever came before, a picture is presentable: packed BGRA of the size it
names, which is neither empty nor too large, with the ids and timestamps of its frame. -/
theorem decoded_presentable {X I : Type} [OpenH264 X I] :
    (∀ (x : X) (s s' : WindowDecoders (BoxedDecoder I)) (frame picture : FrameData),
      s.decode newDecoderH264 x frame = some (.ok (some picture), s') →
        Presentable frame picture) ∧
    ∀ (s s' : WindowDecoders PassthroughDecoder) (frame picture : FrameData),
      s.decode newDecoder () frame = some (.ok (some picture), s') → Presentable frame picture := by
  constructor
  · intro x s s' frame picture h
    obtain ⟨d, d', hcodec, hdecode⟩ := WindowDecoders.decode_routed newDecoderH264_makesCodec h
    exact boxed_presents x d d' frame picture hcodec hdecode
  · intro s s' frame picture h
    obtain ⟨d, d', hcodec, hdecode⟩ := WindowDecoders.decode_routed newDecoder_makesCodec h
    exact passthrough_presents () d d' frame picture hcodec hdecode

/-- An openh264 that answers every payload with one grey picture of two by two pixels, padded
to a stride of four. -/
structure GreyPicture where

instance : OpenH264 Unit GreyPicture where
  new _ := .ok {}
  decode _ inner _ :=
    (some (.ok (some
      { y := [126, 126, 0, 0, 126, 126]
        u := [128]
        v := [128]
        width := 2
        height := 2
        yStride := 4
        uStride := 1
        vStride := 1
        y_le := by decide
        u_le := by decide
        v_le := by decide })), inner)

/-- A keyframe, which has its picture. -/
theorem grey_presentable :
    let frame : FrameData :=
      { windowId := 3, frameId := 7, codec := Codec.h264, flags := FrameFlag.keyframe, width := 2,
        height := 2, capturedUs := 10, encodedUs := 20, data := [0, 0, 0, 1, 0x65] }
    Presentable frame
      { frame with
        codec := Codec.rawBgra
        data := (List.replicate 4 [128, 128, 128, 0xff]).flatten } :=
  (decoded_presentable (I := GreyPicture)).1 () WindowDecoders.new _ _ _ rfl

/-- The same of the worker of a window: it does not use the table. -/
theorem decodeFrame_presentable {X D : Type} [FrameDecoder X D] {factory : DecoderFactory X D}
    (hpresents : Presents X D) (hfactory : MakesCodec factory) {windowId : UInt32} {x : X}
    {decoder : Option D} {frame picture : FrameData}
    (h : (decodeFrame factory windowId x decoder frame).1 = some picture) :
    Presentable frame picture := by
  obtain ⟨active, active', hcurrent, hdecode⟩ := decodeFrame_decoded h
  have hcodec : FrameDecoder.codec active = frame.codec := by
    rcases hcurrent with hcodec | hmade
    · exact hcodec
    · exact hfactory windowId x frame.codec active hmade
  exact hpresents x active active' frame picture hcodec hdecode

end Oxrdp
