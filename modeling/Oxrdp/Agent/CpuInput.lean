import Mathlib.Tactic.Ring
import Oxrdp.Agent.FirstForced

/-!
# Pixels for an encoder with input from the CPU

A captured image is padded to even dimensions before it is converted, and the encoder was
built for these.  Rounding up, building, matching, padding and converting each calculate with
sizes of their own; they agree for all sizes but the largest, which has no even number above
it among the `u16` (`padEven_toNat`).

The assertions of the conversion hold even then: a frame that has all its pixels, or none,
never stops an encoder (`calls_go`).
-/

namespace Oxrdp

open Raster

/-! ## Rounding up -/

/-- Rounding up leaves the range of a `u16` at its end, and comes out at zero. -/
theorem padEven_toNat (x : UInt16) :
    (padEven x).toNat = if x = 65535 then 0 else x.toNat + x.toNat % 2 := by
  have hx := x.toNat_lt
  unfold padEven
  rw [UInt16.toNat_add, UInt16.toNat_mod]
  by_cases hlast : x = 65535
  · subst hlast
    rfl
  · have hne : x.toNat ≠ 65535 := fun h => hlast (UInt16.toNat_inj.mp h)
    rw [if_neg hlast]
    change (x.toNat + x.toNat % 2) % 65536 = _
    omega

/-- A padded size is even, the greatest one too. -/
theorem padEven_even (x : UInt16) : (padEven x).toNat % 2 = 0 := by
  rw [padEven_toNat]
  split <;> omega

/-- A coded size is the padded one, and at least 2. -/
theorem codedSize_toNat (x : UInt16) : (codedSize x).toNat = max (padEven x).toNat 2 := by
  have hmax : codedSize x = if (padEven x).toUInt32 ≤ 2 then 2 else (padEven x).toUInt32 := rfl
  rw [hmax]
  split
  next h =>
    have hle : (padEven x).toNat ≤ 2 := UInt32.le_iff_toNat_le.mp h
    exact (Nat.max_eq_right hle).symm
  next h =>
    have hlt : 2 < (padEven x).toNat := UInt32.lt_iff_toNat_lt.mp (UInt32.not_le.mp h)
    exact (Nat.max_eq_left hlt.le).symm

/-- A coded size is even. -/
theorem codedSize_even (x : UInt16) : (codedSize x).toNat % 2 = 0 := by
  have heven := padEven_even x
  rw [codedSize_toNat]
  omega

/-! ## Padding -/

section Padding

variable {src : List UInt8} {srcW srcH : UInt16} {dstW dstH : UInt32}

/-- An image of one size is continued to the right and downwards by its last column and row. -/
def EdgeReplicated (src : List UInt8) (srcW srcH : Nat) (dst : List UInt8) (dstW dstH : Nat) :
    Prop :=
  dst.length = dstW * dstH * 4 ∧
    ∀ row < dstH, ∀ col < dstW, ∀ k < 4,
      channel dst dstW row col k = channel src srcW (min row (srcH - 1)) (min col (srcW - 1)) k

/-- A pixel of the padded image. -/
def padPixel (src : List UInt8) (srcW srcH y x : Nat) : List UInt8 :=
  let srcI := (min y (srcH - 1) * srcW + min x (srcW - 1)) * 4
  if srcI + 4 ≤ src.length then slice src srcI 4 else List.replicate 4 0

/-- A pixel is four bytes, inside the picture or beyond it. -/
theorem length_padPixel (src : List UInt8) (srcW srcH y x : Nat) :
    (padPixel src srcW srcH y x).length = 4 := by
  unfold padPixel
  dsimp only
  split
  next h => exact length_slice h
  next => exact List.length_replicate

/-- A picture of another size is padded row by row. -/
theorem padBgra_rows (h : ¬(srcW.toNat = dstW.toNat ∧ srcH.toNat = dstH.toNat)) :
    padBgra src srcW srcH dstW dstH =
      (List.range dstH.toNat).flatMap fun y =>
        (List.range dstW.toNat).flatMap (padPixel src srcW.toNat srcH.toNat y) :=
  if_neg h

/-- A row is four bytes a pixel. -/
theorem length_padRow (y : Nat) :
    ((List.range dstW.toNat).flatMap (padPixel src srcW.toNat srcH.toNat y)).length =
      dstW.toNat * 4 :=
  length_rows fun x _ => length_padPixel src _ _ y x

/-- **The padded picture** has the size of the input. -/
theorem length_padBgra (hsrc : src.length = srcW.toNat * srcH.toNat * 4) :
    (padBgra src srcW srcH dstW dstH).length = dstW.toNat * dstH.toNat * 4 := by
  by_cases hsame : srcW.toNat = dstW.toNat ∧ srcH.toNat = dstH.toNat
  · rw [padBgra, if_pos hsame, hsrc, hsame.1, hsame.2]
  · rw [padBgra_rows hsame, length_rows fun y _ => length_padRow y]
    ring

/-- The pixel that a place of the padded image copies is a pixel of the image. -/
theorem padPixel_channel {w h y x k : Nat} (hw : 0 < w) (hh : 0 < h)
    (hsrc : src.length = w * h * 4) (hk : k < 4) :
    (padPixel src w h y x).getD k 0 = channel src w (min y (h - 1)) (min x (w - 1)) k := by
  have hin : min y (h - 1) * w + min x (w - 1) < h * w := index_lt (by omega) (by omega)
  have hroom : (min y (h - 1) * w + min x (w - 1)) * 4 + 4 ≤ src.length := by
    rw [hsrc, Nat.mul_comm w h]
    omega
  unfold padPixel channel
  dsimp only
  rw [if_pos hroom, getD_slice hk]

/-- **The padded image** is the image, continued by its edges. -/
theorem padBgra_edges (hw : 0 < srcW.toNat) (hh : 0 < srcH.toNat)
    (hsrc : src.length = srcW.toNat * srcH.toNat * 4) :
    EdgeReplicated src srcW.toNat srcH.toNat (padBgra src srcW srcH dstW dstH) dstW.toNat
      dstH.toNat := by
  refine ⟨length_padBgra hsrc, ?_⟩
  intro row hrow col hcol k hk
  by_cases hsame : srcW.toNat = dstW.toNat ∧ srcH.toNat = dstH.toNat
  · have hin : min row (srcH.toNat - 1) = row ∧ min col (srcW.toNat - 1) = col := by omega
    rw [hin.1, hin.2, padBgra, if_pos hsame, hsame.1]
  · have hplace : (row * dstW.toNat + col) * 4 + k = row * (dstW.toNat * 4) + (col * 4 + k) := by
      ring
    rw [channel, padBgra_rows hsame, hplace,
      getD_rows (fun y _ => length_padRow y) hrow (by omega),
      getD_rows (fun x _ => length_padPixel src _ _ row x) hcol hk]
    exact padPixel_channel hw hh hsrc hk

end Padding

/-! ## Converting -/

/-- An image of even dimensions is converted. -/
theorem bgraToNv12_goes {bgra : List UInt8} {width height : Nat} (hwidth : width % 2 = 0)
    (hheight : height % 2 = 0) (hlength : bgra.length = width * height * 4) :
    ∃ nv12, bgraToNv12 bgra width height = some nv12 :=
  ⟨_, if_pos ⟨hwidth, hheight, hlength⟩⟩

/-- The luma of every pixel, and after it the chroma of every 2x2 block, which is that of its
top left pixel. -/
def PlanesOf (bgra : List UInt8) (width height : Nat) (nv12 : List UInt8) : Prop :=
  nv12.length = height * width + height / 2 * width ∧
    (∀ row < height, ∀ col < width, nv12.getD (row * width + col) 0 =
      luma (channel bgra width row col 2) (channel bgra width row col 1)
        (channel bgra width row col 0)) ∧
    ∀ row < height / 2, ∀ col < width / 2,
      (nv12.getD (height * width + (row * width + col * 2)) 0,
          nv12.getD (height * width + (row * width + (col * 2 + 1))) 0) =
        chroma (channel bgra width (2 * row) (2 * col) 2)
          (channel bgra width (2 * row) (2 * col) 1) (channel bgra width (2 * row) (2 * col) 0)

/-- The planes are those of the conversion. -/
theorem bgraToNv12_planesOf {bgra nv12 : List UInt8} {width height : Nat}
    (hwidth : width % 2 = 0) (h : bgraToNv12 bgra width height = some nv12) :
    PlanesOf bgra width height nv12 := by
  refine ⟨length_bgraToNv12 h hwidth, fun row hrow col hcol => bgraToNv12_luma h hrow hcol, ?_⟩
  intro row hrow col hcol
  obtain ⟨hu, hv⟩ := bgraToNv12_chroma h hwidth hrow hcol
  rw [hu, hv]

/-! ## All of it -/

/-- A frame of pixels is good input for an encoder that was built for it. -/
structure WellPrepared (frame : SourceFrame) : Prop where
  even : (codedSize frame.width).toNat % 2 = 0 ∧ (codedSize frame.height).toNat % 2 = 0
  covers : frame.width.toNat ≤ (codedSize frame.width).toNat ∧
    frame.height.toNat ≤ (codedSize frame.height).toNat
  built : ∀ targetFps gpuFrame os enc,
    WindowEncoder.new frame.width frame.height targetFps gpuFrame os = some enc →
      enc.width = codedSize frame.width ∧ enc.height = codedSize frame.height ∧
        enc.matchesFrame frame = true
  padded : EdgeReplicated frame.data frame.width.toNat frame.height.toNat
    (padBgra frame.data frame.width frame.height (codedSize frame.width) (codedSize frame.height))
    (codedSize frame.width).toNat (codedSize frame.height).toNat
  converted : ∃ nv12,
    bgraToNv12
        (padBgra frame.data frame.width frame.height (codedSize frame.width)
          (codedSize frame.height))
        (codedSize frame.width).toNat (codedSize frame.height).toNat = some nv12 ∧
      PlanesOf
        (padBgra frame.data frame.width frame.height (codedSize frame.width)
          (codedSize frame.height))
        (codedSize frame.width).toNat (codedSize frame.height).toNat nv12

section Prepared

variable {x : UInt16} {frame : SourceFrame}

/-- Whether the size an encoder is built with is the one that it is matched with. -/
theorem codedSize_eq_padEven (hx : 0 < x.toNat) (hlast : x ≠ 65535) :
    codedSize x = (padEven x).toUInt32 := by
  apply UInt32.toNat_inj.mp
  have hpad := padEven_toNat x
  rw [if_neg hlast] at hpad
  rw [codedSize_toNat, UInt16.toNat_toUInt32]
  omega

/-- Padding enlarges every size but the greatest, which wraps. -/
theorem le_codedSize_iff (hx : 0 < x.toNat) : x.toNat ≤ (codedSize x).toNat ↔ x ≠ 65535 := by
  rw [codedSize_toNat, padEven_toNat]
  by_cases hlast : x = 65535
  · subst hlast
    decide
  · rw [if_neg hlast]
    exact iff_of_true (by omega) hlast

/-- **Well-formed input.**  A frame of pixels is good input for its encoder unless one of its
dimensions is the largest `u16`. -/
theorem wellPrepared_iff (hwidth : 1 ≤ frame.width) (hheight : 1 ≤ frame.height)
    (hdata : frame.data.length = frame.width.toNat * frame.height.toNat * 4) :
    WellPrepared frame ↔ frame.width ≠ 65535 ∧ frame.height ≠ 65535 := by
  have hw : 0 < frame.width.toNat := UInt16.le_iff_toNat_le.mp hwidth
  have hh : 0 < frame.height.toNat := UInt16.le_iff_toNat_le.mp hheight
  constructor
  · intro h
    exact ⟨(le_codedSize_iff hw).mp h.covers.1, (le_codedSize_iff hh).mp h.covers.2⟩
  · rintro ⟨hwlast, hhlast⟩
    have hweven := codedSize_even frame.width
    have hheven := codedSize_even frame.height
    have hpadded : EdgeReplicated frame.data frame.width.toNat frame.height.toNat
        (padBgra frame.data frame.width frame.height (codedSize frame.width)
          (codedSize frame.height))
        (codedSize frame.width).toNat (codedSize frame.height).toNat :=
      padBgra_edges hw hh hdata
    obtain ⟨nv12, hnv12⟩ := bgraToNv12_goes hweven hheven hpadded.1
    refine ⟨⟨hweven, hheven⟩, ⟨(le_codedSize_iff hw).mpr hwlast, (le_codedSize_iff hh).mpr hhlast⟩,
      ?_, hpadded, nv12, hnv12, bgraToNv12_planesOf hweven hnv12⟩
    intro targetFps gpuFrame os enc hnew
    obtain ⟨hencw, hench, -⟩ := WindowEncoder.new_fresh hnew
    refine ⟨hencw, hench, ?_⟩
    unfold WindowEncoder.matchesFrame
    rw [hencw, hench, codedSize_eq_padEven hw hwlast, codedSize_eq_padEven hh hhlast]
    simp

/-- A frame of three pixels in one row is padded to four in two rows. -/
theorem wellPrepared_threePixels :
    WellPrepared { width := 3, height := 1, data := List.replicate 12 7 } :=
  (wellPrepared_iff (by decide) (by decide) (by decide)).mpr (by decide)

/-- The largest width rounds up to nothing. -/
theorem widest_not_prepared :
    ¬∀ frame : SourceFrame, 1 ≤ frame.width → 1 ≤ frame.height →
      frame.data.length = frame.width.toNat * frame.height.toNat * 4 → WellPrepared frame := by
  intro h
  have hwide := h { width := 65535, height := 1, data := List.replicate (65535 * 4) 0 } (by decide)
    (by decide) (by rw [List.length_replicate]; rfl)
  have hcovers : (65535 : UInt16).toNat ≤ (codedSize 65535).toNat := hwide.covers.1
  revert hcovers
  decide

end Prepared

/-! ## No assertion fails -/

/-- A frame with all its pixels, or with none. -/
def SourceFrame.Whole (frame : SourceFrame) : Prop :=
  frame.data = [] ∨ frame.data.length = frame.width.toNat * frame.height.toNat * 4

/-- An encoder of even dimensions. -/
def WindowEncoder.EvenSized (enc : WindowEncoder) : Prop :=
  enc.width.toNat % 2 = 0 ∧ enc.height.toNat % 2 = 0

/-- Whether a call submits no frame that lacks some of its pixels. -/
def EncoderRequest.Whole : EncoderRequest → Prop
  | .submit _ frame _ => frame.Whole
  | _ => True

section Goes

variable {enc enc' : WindowEncoder} {frame : SourceFrame} {forceKeyframe : Bool} {os : OsAnswers}

/-- A new encoder has even sizes. -/
theorem evenSized_new {width height targetFps : UInt16} {gpuFrame : Option GpuFrame}
    (h : WindowEncoder.new width height targetFps gpuFrame os = some enc) : enc.EvenSized := by
  obtain ⟨hwidth, hheight, -⟩ := WindowEncoder.new_fresh h
  rw [WindowEncoder.EvenSized, hwidth, hheight]
  exact ⟨codedSize_even width, codedSize_even height⟩

/-- A frame keeps the sizes. -/
theorem evenSized_submit (heven : enc.EvenSized)
    (h : enc.submit frame forceKeyframe os = .ok enc') : enc'.EvenSized := by
  have hcases := enc.submit_cases frame forceKeyframe os
  rw [h] at hcases
  cases hcases with
  | taken => exact heven
  | dropped => exact heven

/-- A poll keeps the sizes. -/
theorem evenSized_poll (heven : enc.EvenSized) (os : OsAnswers) : (enc.poll os).2.EvenSized := by
  unfold WindowEncoder.poll WindowEncoder.EvenSized at *
  grind

/-- A whole frame is submitted or dropped. -/
theorem submit_goes (heven : enc.EvenSized) (hwhole : frame.Whole) :
    ∃ enc', enc.submit frame forceKeyframe os = .ok enc' := by
  have hcases := enc.submit_cases frame forceKeyframe os
  generalize enc.submit frame forceKeyframe os = result at hcases ⊢
  cases hcases with
  | taken => exact ⟨_, rfl⟩
  | dropped => exact ⟨_, rfl⟩
  | stopped _ hpixels hplanes =>
      have hlength := hwhole.resolve_left hpixels
      obtain ⟨nv12, hnv12⟩ := bgraToNv12_goes heven.1 heven.2
        (@length_padBgra frame.data frame.width frame.height enc.width enc.height hlength)
      simp [hplanes] at hnv12

variable {e : WinFrameEncoder} {c : EncoderRequest × OsAnswers}

/-- **Every call** with a whole frame goes through. -/
theorem call_goes (heven : e.Every WindowEncoder.EvenSized) (hwhole : c.1.Whole) :
    ∃ e', e.call c = .ok e' ∧ e'.Every WindowEncoder.EvenSized := by
  obtain ⟨request, os⟩ := c
  cases request with
  | submit handle frame forceKeyframe =>
      have hgoes : ∃ e', e.submit handle frame forceKeyframe os = .ok e' := by
        have hcases := e.submit_cases handle frame forceKeyframe os
        generalize e.submit handle frame forceKeyframe os = result at hcases ⊢
        cases hcases with
        | broken => exact ⟨_, rfl⟩
        | refused => exact ⟨_, rfl⟩
        | @rebuilt enc hrebuild hnew =>
            obtain ⟨enc', hsubmit⟩ := @submit_goes enc frame true os (evenSized_new hnew) hwhole
            rw [hsubmit]
            exact ⟨_, rfl⟩
        | @kept enc hlive =>
            obtain ⟨enc', hsubmit⟩ :=
              @submit_goes enc frame forceKeyframe os (heven handle enc hlive) hwhole
            rw [hsubmit]
            exact ⟨_, rfl⟩
      obtain ⟨e', hsubmit⟩ := hgoes
      exact ⟨e', hsubmit, heven.submit (fun enc hnew => evenSized_new hnew)
        (fun henc h => evenSized_submit henc h) hsubmit⟩
  | poll handle => exact ⟨_, rfl, heven.poll fun enc henc => evenSized_poll henc os⟩
  | forget handle => exact ⟨_, rfl, heven.forget handle⟩

/-- **No assertion fails** in a run that submits whole frames. -/
theorem calls_go (targetFps : UInt16) {requests : List (EncoderRequest × OsAnswers)}
    (hwhole : ∀ c ∈ requests, c.1.Whole) :
    ∃ e, (WinFrameEncoder.new targetFps).calls requests = .ok e := by
  have hgen : ∀ e : WinFrameEncoder, e.Every WindowEncoder.EvenSized →
      ∃ e', e.calls requests = .ok e' := by
    induction requests with
    | nil => exact fun e _ => ⟨e, rfl⟩
    | cons c rest ih =>
        intro e heven
        obtain ⟨m, hcall, hm⟩ := call_goes heven (hwhole c List.mem_cons_self)
        obtain ⟨e', hrest⟩ := ih (fun c hc => hwhole c (List.mem_cons_of_mem _ hc)) m hm
        refine ⟨e', ?_⟩
        unfold WinFrameEncoder.calls
        rw [List.foldlM_cons, hcall]
        exact hrest
  exact hgen _ (WinFrameEncoder.every_new _ targetFps)

end Goes

end Oxrdp
