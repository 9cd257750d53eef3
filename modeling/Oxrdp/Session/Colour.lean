import Oxrdp.Agent.Nv12
import Oxrdp.Client.Yuv

/-!
# Colours from the agent to the client

The agent encodes a picture in full range, luma from 0 to 255, and the client decodes it as
limited range, luma from 16 to 235.  Between them stands a video codec, taken to lose nothing.

Where the ranges differ, a channel drifts: `blueDrift`, `greenDrift` and `redDrift` are by how
much, in steps of `2 ^ -24` levels, up to what the three bytes of a pixel leave over when luma
and chroma are rounded.  Only a colour whose channels drift little, or are clamped at an end of
the range, comes back (`round_trip_iff`).
-/

namespace Oxrdp

open Raster

/-- A packed image of even size in memory. -/
structure BgraImage where
  width : Nat
  height : Nat
  bytes : List UInt8
  width_even : width % 2 = 0
  height_even : height % 2 = 0
  length_eq : bytes.length = width * height * 4
  in_memory : bytes.length ≤ usizeMax

/-- The chroma plane by its two samples. -/
def deinterleave (uv : List UInt8) : List UInt8 × List UInt8 :=
  ((List.range (uv.length / 2)).map fun i => uv.getD (i * 2) 0,
    (List.range (uv.length / 2)).map fun i => uv.getD (i * 2 + 1) 0)

/-- The planes that a codec which loses nothing returns. -/
def losslessPlanes (width height : Nat) (nv12 : List UInt8) : I420Planes :=
  { y := nv12.take (height * width)
    u := (deinterleave (nv12.drop (height * width))).1
    v := (deinterleave (nv12.drop (height * width))).2
    width, height
    yStride := width
    uStride := width / 2
    vStride := width / 2 }

/-- At most so many levels apart. -/
def Near (levels : Nat) (a b : UInt8) : Prop :=
  a.toNat ≤ b.toNat + levels ∧ b.toNat ≤ a.toNat + levels

instance (levels : Nat) (a b : UInt8) : Decidable (Near levels a b) :=
  inferInstanceAs (Decidable (_ ∧ _))

namespace BgraImage

variable (image : BgraImage)

/-- Byte `k` of a pixel: blue, green, red, alpha. -/
def byteAt (row col k : Nat) : UInt8 := channel image.bytes image.width row col k

/-- Every block of 2x2 pixels is of one colour. -/
def Uniform : Prop :=
  ∀ row < image.height, ∀ col < image.width, ∀ k < 3,
    image.byteAt row col k = image.byteAt (2 * (row / 2)) (2 * (col / 2)) k

/-- The image as the client shows it. -/
def roundTrip : Option (List UInt8) :=
  (bgraToNv12 image.bytes image.width image.height).bind fun nv12 =>
    i420ToBgra (losslessPlanes image.width image.height nv12)

/-- Every blue, green and red byte comes back to within so many levels. -/
def ComesBack (levels : Nat) : Prop :=
  ∃ out, image.roundTrip = some out ∧
    ∀ row < image.height, ∀ col < image.width, ∀ k < 3,
      Near levels (channel out image.width row col k) (image.byteAt row col k)

end BgraImage

/-! ## One colour -/

section Colour

variable (r g b : UInt8)

/-- By how much blue comes back too high, in steps of `2 ^ -24` levels and with the half that
rounds it. -/
def blueDrift : Int :=
  191150 * r.toNat + 209265 * g.toNat + 2357473 * b.toNat - 304173056 -
    76309 * ((77 * (r.toNat : Int) + 150 * g.toNat + 29 * b.toNat) % 256) -
    132201 * ((-43 * (r.toNat : Int) - 85 * g.toNat + 128 * b.toNat) % 256)

def greenDrift : Int :=
  160106 * r.toNat + 2552362 * g.toNat + 45420 * b.toNat - 304173056 -
    76309 * ((77 * (r.toNat : Int) + 150 * g.toNat + 29 * b.toNat) % 256) +
    25675 * ((-43 * (r.toNat : Int) - 85 * g.toNat + 128 * b.toNat) % 256) +
    53279 * ((128 * (r.toNat : Int) - 107 * g.toNat - 21 * b.toNat) % 256)

def redDrift : Int :=
  2486993 * r.toNat + 254471 * g.toNat + 16424 * b.toNat - 304173056 -
    76309 * ((77 * (r.toNat : Int) + 150 * g.toNat + 29 * b.toNat) % 256) -
    104597 * ((128 * (r.toNat : Int) - 107 * g.toNat - 21 * b.toNat) % 256)

/-- The drift of a channel is small, or leads out of the range it is clamped to. -/
def Kept (levels : Nat) (x : UInt8) (drift : Int) : Prop :=
  (x.toNat ≤ levels ∨ -(levels : Int) * 2 ^ 24 ≤ drift) ∧
    (255 ≤ x.toNat + levels ∨ drift < ((levels : Int) + 1) * 2 ^ 24)

/-- The colours of which every channel is kept. -/
def ColourKept (levels : Nat) : Prop :=
  Kept levels b (blueDrift r g b) ∧ Kept levels g (greenDrift r g b) ∧
    Kept levels r (redDrift r g b)

/-- No channel drifts further than 21 levels but where it is clamped. -/
theorem colour_roughly_kept : ColourKept r g b 21 := by
  have hr := r.toNat_lt
  have hg := g.toNat_lt
  have hb := b.toNat_lt
  refine ⟨⟨?_, ?_⟩, ⟨?_, ?_⟩, ⟨?_, ?_⟩⟩
  · unfold blueDrift
    omega
  · unfold blueDrift
    omega
  · unfold greenDrift
    omega
  · unfold greenDrift
    omega
  · unfold redDrift
    omega
  · unfold redDrift
    omega

/-- Of the greys, those at both ends and those in the middle come back. -/
theorem grey_kept_iff (x : UInt8) :
    ColourKept x x x 4 ↔ x.toNat ≤ 4 ∨ (86 ≤ x.toNat ∧ x.toNat ≤ 140) ∨ 251 ≤ x.toNat := by
  have hx := x.toNat_lt
  unfold ColourKept Kept blueDrift greenDrift redDrift
  omega

variable (levels : Nat)

theorem near_clampU8 (q : Int) (x : UInt8) :
    Near levels (clampU8 q) x ↔
      (x.toNat ≤ levels ∨ 65536 * ((x.toNat : Int) - levels) ≤ q + half) ∧
        (255 ≤ x.toNat + levels ∨ q + half < 65536 * ((x.toNat : Int) + levels + 1)) := by
  have hx := x.toNat_lt
  have hq : ((clampU8 q).toNat : Int) = max 0 (min ((q + half) / 65536) 255) := by
    rw [clampU8, UInt8.toNat_clamp, Int.shiftRight_eq_div_pow]
    rfl
  unfold Near
  omega

/-- The bytes of a colour's pixel at the client. -/
def shown : List UInt8 := pixelOf (luma r g b) (chroma r g b).1 (chroma r g b).2

theorem blue_kept_iff :
    Near levels ((shown r g b).getD 0 0) b ↔ Kept levels b (blueDrift r g b) := by
  have hy := luma_toNat r g b
  obtain ⟨hu, hv⟩ := chroma_toNat r g b
  have hhalf : half = 32768 := rfl
  refine (near_clampU8 levels _ b).trans ?_
  unfold chromaOffsets Kept blueDrift yScale bU
  simp only
  rw [hy, hu, hhalf]
  omega

theorem green_kept_iff :
    Near levels ((shown r g b).getD 1 0) g ↔ Kept levels g (greenDrift r g b) := by
  have hy := luma_toNat r g b
  obtain ⟨hu, hv⟩ := chroma_toNat r g b
  have hhalf : half = 32768 := rfl
  refine (near_clampU8 levels _ g).trans ?_
  unfold chromaOffsets Kept greenDrift yScale gU gV
  simp only
  rw [hy, hu, hv, hhalf]
  omega

theorem red_kept_iff :
    Near levels ((shown r g b).getD 2 0) r ↔ Kept levels r (redDrift r g b) := by
  have hy := luma_toNat r g b
  obtain ⟨hu, hv⟩ := chroma_toNat r g b
  have hhalf : half = 32768 := rfl
  refine (near_clampU8 levels _ r).trans ?_
  unfold chromaOffsets Kept redDrift yScale rV
  simp only
  rw [hy, hv, hhalf]
  omega

/-- **A colour comes back where its channels drift little.** -/
theorem shown_near_iff :
    (Near levels ((shown r g b).getD 0 0) b ∧ Near levels ((shown r g b).getD 1 0) g ∧
      Near levels ((shown r g b).getD 2 0) r) ↔ ColourKept r g b levels := by
  rw [blue_kept_iff, green_kept_iff, red_kept_iff]
  rfl

end Colour

/-! ## Whole images -/

namespace BgraImage

variable {image : BgraImage}

/-- The converted image of a window. -/
theorem exists_nv12 (image : BgraImage) :
    ∃ nv12, bgraToNv12 image.bytes image.width image.height = some nv12 := by
  unfold bgraToNv12
  rw [if_pos ⟨image.width_even, image.height_even, image.length_eq⟩]
  exact ⟨_, rfl⟩

variable {nv12 out : List UInt8} {row col : Nat}

/-- There is a pair of chroma samples for every block. -/
theorem chroma_count (hnv12 : bgraToNv12 image.bytes image.width image.height = some nv12) :
    (nv12.drop (image.height * image.width)).length / 2 =
      image.height / 2 * (image.width / 2) := by
  have htwice : image.height / 2 * image.width = image.height / 2 * (image.width / 2) * 2 := by
    rw [Nat.mul_assoc, Nat.div_mul_cancel (Nat.dvd_of_mod_eq_zero image.width_even)]
  rw [List.length_drop, length_bgraToNv12 hnv12 image.width_even, Nat.add_sub_cancel_left, htwice,
    Nat.mul_div_cancel _ (by decide)]

/-- The three planes that the client has of an image, sample by sample. -/
theorem losslessPlanes_samples
    (hnv12 : bgraToNv12 image.bytes image.width image.height = some nv12)
    (hrow : row < image.height) (hcol : col < image.width) :
    let p := losslessPlanes image.width image.height nv12
    p.y.getD (row * p.yStride + col) 0 =
        luma (image.byteAt row col 2) (image.byteAt row col 1) (image.byteAt row col 0) ∧
      (p.u.getD (row / 2 * p.uStride + col / 2) 0, p.v.getD (row / 2 * p.vStride + col / 2) 0) =
        chroma (image.byteAt (2 * (row / 2)) (2 * (col / 2)) 2)
          (image.byteAt (2 * (row / 2)) (2 * (col / 2)) 1)
          (image.byteAt (2 * (row / 2)) (2 * (col / 2)) 0) := by
  have hwidth := image.width_even
  have hheight := image.height_even
  have hrow' : row / 2 < image.height / 2 := by omega
  have hcol' : col / 2 < image.width / 2 := by omega
  have hin := index_lt hrow hcol
  have hlength := chroma_count hnv12
  have hblock : (row / 2 * (image.width / 2) + col / 2) * 2 =
      row / 2 * image.width + col / 2 * 2 := by
    rw [Nat.add_mul, Nat.mul_assoc, Nat.div_mul_cancel (Nat.dvd_of_mod_eq_zero hwidth)]
  have hplace := index_lt hrow' hcol'
  obtain ⟨hu, hv⟩ := bgraToNv12_chroma hnv12 hwidth hrow' hcol'
  simp only [losslessPlanes, deinterleave, hlength]
  constructor
  · refine Eq.trans ?_ (bgraToNv12_luma hnv12 hrow hcol)
    simp [List.getD_eq_getElem?_getD, hin]
  · rw [getD_map_range hplace, getD_map_range hplace, hblock]
    have hdrop : ∀ i, (nv12.drop (image.height * image.width)).getD i 0 =
        nv12.getD (image.height * image.width + i) 0 := by
      intro i
      simp [List.getD_eq_getElem?_getD]
    rw [hdrop, hdrop, hu, Nat.add_assoc (row / 2 * image.width), hv]
    rfl

/-- **What the client shows of a uniform image.**  Every pixel has the colour that the client
makes of its own. -/
theorem channel_shown (huniform : image.Uniform)
    (hnv12 : bgraToNv12 image.bytes image.width image.height = some nv12)
    (hout : i420ToBgra (losslessPlanes image.width image.height nv12) = some out)
    (hrow : row < image.height) (hcol : col < image.width) {k : Nat} (hk : k < 4) :
    channel out image.width row col k =
      (shown (image.byteAt row col 2) (image.byteAt row col 1) (image.byteAt row col 0)).getD k
        0 := by
  obtain ⟨hluma, hchroma⟩ := losslessPlanes_samples hnv12 hrow hcol
  have hplace : (row * image.width + col) * 4 + k = row * (image.width * 4) + (col * 4 + k) := by
    rw [Nat.add_mul, Nat.mul_assoc, Nat.add_assoc]
  have hin : col * 4 + k < image.width * 4 := index_lt hcol hk
  rw [← huniform row hrow col hcol 0 (by decide), ← huniform row hrow col hcol 1 (by decide),
    ← huniform row hrow col hcol 2 (by decide)] at hchroma
  unfold channel
  rw [i420ToBgra_eq hout, hplace]
  refine (getD_rows (m := image.height) (n := image.width * 4) ?_ hrow hin 0).trans ?_
  · intro row _
    exact length_rows fun _ _ => rfl
  · refine (getD_rows (m := image.width) (n := 4) (fun _ _ => rfl) hcol hk 0).trans ?_
    rw [hluma, shown, ← hchroma]

/-- The client refuses an image without pixels and no other. -/
theorem roundTrip_some_iff (image : BgraImage) :
    (∃ out, image.roundTrip = some out) ↔ 0 < image.width ∧ 0 < image.height := by
  obtain ⟨nv12, hnv12⟩ := image.exists_nv12
  unfold roundTrip
  rw [hnv12, Option.bind_some]
  constructor
  · rintro ⟨out, hout⟩
    unfold i420ToBgra I420Planes.isAddressable at hout
    by_cases hempty : image.width = 0 ∨ image.height = 0
    · have hnone : (losslessPlanes image.width image.height nv12).width = 0 ∨
          (losslessPlanes image.width image.height nv12).height = 0 := hempty
      rw [if_pos hnone] at hout
      cases hout
    · omega
  · rintro ⟨hwidth, hheight⟩
    have hsize : image.width * image.height * 4 ≤ usizeMax :=
      image.length_eq ▸ image.in_memory
    have hpixels : image.height * image.width * 4 ≤ usizeMax := by
      rw [Nat.mul_comm image.height]
      exact hsize
    have heven := image.width_even
    have hblocks : image.height / 2 * (image.width / 2) ≤ image.height * image.width :=
      Nat.mul_le_mul (Nat.div_le_self _ _) (Nat.div_le_self _ _)
    have hhalf : halfUp image.width = image.width / 2 ∧ halfUp image.height = image.height / 2 := by
      have := image.height_even
      unfold halfUp
      omega
    have hrows : 0 < image.height / 2 := by
      have := image.height_even
      omega
    -- Rows without padding fill a plane.
    have hfits : ∀ (plane : List UInt8) (rows n : Nat), 0 < rows → plane.length = rows * n →
        plane.length ≤ usizeMax → planeFits plane rows n n = true := by
      intro plane rows n hrows hlength hmemory
      apply planeFits_of_room hrows _ hmemory
      rw [hlength, ← Nat.succ_mul, Nat.succ_eq_add_one, Nat.sub_add_cancel hrows]
    have hy : (nv12.take (image.height * image.width)).length = image.height * image.width := by
      rw [List.length_take, length_bgraToNv12 hnv12 heven]
      omega
    apply i420ToBgra_of_addressable _ hsize
    unfold I420Planes.isAddressable
    simp only [losslessPlanes, deinterleave, hhalf.1, hhalf.2, chroma_count hnv12]
    rw [if_neg (by omega), if_neg (by omega), hfits _ _ _ hheight hy (by omega),
      hfits _ _ _ hrows (by simp) (by simp; omega), hfits _ _ _ hrows (by simp) (by simp; omega)]
    rfl

/-- An image of uniform blocks comes back as far as its colours are kept. -/
theorem comesBack_iff (h : image.Uniform) (levels : Nat) :
    image.ComesBack levels ↔ 0 < image.width ∧ 0 < image.height ∧
      ∀ row < image.height, ∀ col < image.width,
        ColourKept (image.byteAt row col 2) (image.byteAt row col 1) (image.byteAt row col 0)
          levels := by
  obtain ⟨nv12, hnv12⟩ := image.exists_nv12
  have hpixel : ∀ out, image.roundTrip = some out →
      ∀ row < image.height, ∀ col < image.width,
        ((∀ k < 3, Near levels (channel out image.width row col k) (image.byteAt row col k)) ↔
          ColourKept (image.byteAt row col 2) (image.byteAt row col 1) (image.byteAt row col 0)
            levels) := by
    intro out hout row hrow col hcol
    unfold roundTrip at hout
    rw [hnv12, Option.bind_some] at hout
    rw [← shown_near_iff]
    constructor
    · intro hnear
      refine ⟨?_, ?_, ?_⟩
      · rw [← channel_shown h hnv12 hout hrow hcol (by decide)]
        exact hnear 0 (by decide)
      · rw [← channel_shown h hnv12 hout hrow hcol (by decide)]
        exact hnear 1 (by decide)
      · rw [← channel_shown h hnv12 hout hrow hcol (by decide)]
        exact hnear 2 (by decide)
    · rintro ⟨hb, hg, hr⟩ k hk
      rw [channel_shown h hnv12 hout hrow hcol (by omega)]
      obtain rfl | rfl | rfl : k = 0 ∨ k = 1 ∨ k = 2 := by omega
      · exact hb
      · exact hg
      · exact hr
  constructor
  · rintro ⟨out, hout, hnear⟩
    obtain ⟨hwidth, hheight⟩ := (roundTrip_some_iff image).mp ⟨out, hout⟩
    refine ⟨hwidth, hheight, ?_⟩
    intro row hrow col hcol
    exact (hpixel out hout row hrow col hcol).mp (hnear row hrow col hcol)
  · rintro ⟨hwidth, hheight, hkept⟩
    obtain ⟨out, hout⟩ := (roundTrip_some_iff image).mpr ⟨hwidth, hheight⟩
    refine ⟨out, hout, ?_⟩
    intro row hrow col hcol
    exact (hpixel out hout row hrow col hcol).mpr (hkept row hrow col hcol)

/-- The smallest image of one colour. -/
def solid (b g r : UInt8) : BgraImage where
  width := 2
  height := 2
  bytes := [b, g, r, 255, b, g, r, 255, b, g, r, 255, b, g, r, 255]
  width_even := rfl
  height_even := rfl
  length_eq := rfl
  in_memory := by
    simp only [List.length_cons, List.length_nil, usizeMax]
    omega

/-- **Which images come back.**  An image of uniform blocks comes back to within four levels
exactly when it has a pixel and every colour in it is one whose channels drift little. -/
theorem round_trip_iff (image : BgraImage) (h : image.Uniform) :
    image.ComesBack 4 ↔ 0 < image.width ∧ 0 < image.height ∧
      ∀ row < image.height, ∀ col < image.width,
        ColourKept (image.byteAt row col 2) (image.byteAt row col 1) (image.byteAt row col 0) 4 :=
  comesBack_iff h 4

/-- Four blocks: red beside green, and white beside a dark grey below them. -/
def fourBlocks : BgraImage where
  width := 4
  height := 4
  bytes :=
    [0, 0, 255, 255, 0, 0, 255, 255, 0, 255, 0, 255, 0, 255, 0, 255,
     0, 0, 255, 255, 0, 0, 255, 255, 0, 255, 0, 255, 0, 255, 0, 255,
     255, 255, 255, 255, 255, 255, 255, 255, 112, 112, 112, 255, 112, 112, 112, 255,
     255, 255, 255, 255, 255, 255, 255, 255, 112, 112, 112, 255, 112, 112, 112, 255]
  width_even := rfl
  height_even := rfl
  length_eq := rfl
  in_memory := by
    simp only [List.length_cons, List.length_nil, usizeMax]
    omega

/-- The colours at the ends of the range are clamped back to themselves, and the dark grey is
where both ranges agree. -/
theorem round_trip_iff_fourBlocks : fourBlocks.Uniform ∧ fourBlocks.ComesBack 4 := by
  have huniform : fourBlocks.Uniform := by
    change ∀ row < 4, ∀ col < 4, ∀ k < 3, _
    decide
  have hkept : ∀ row < 4, ∀ col < 4, ColourKept (fourBlocks.byteAt row col 2)
      (fourBlocks.byteAt row col 1) (fourBlocks.byteAt row col 0) 4 := by
    unfold ColourKept Kept
    decide +kernel
  exact ⟨huniform, (round_trip_iff _ huniform).mpr ⟨by decide, by decide, hkept⟩⟩

/-- **The mismatch.**  A light grey comes back fourteen levels lighter. -/
theorem light_grey_shifts :
    (solid 200 200 200).Uniform ∧ ¬(solid 200 200 200).ComesBack 4 := by
  refine ⟨?_, ?_⟩
  · change ∀ row < 2, ∀ col < 2, ∀ k < 3, _
    decide
  · rintro ⟨out, hout, hnear⟩
    have hshown : (solid 200 200 200).roundTrip = some (solid 214 214 214).bytes := by
      decide +kernel
    rw [hshown] at hout
    cases hout
    have hblue := hnear 0 (by decide) 0 (by decide) 0 (by decide)
    revert hblue
    decide

/-- **No colour is far off.**  An image of uniform blocks that has a pixel comes back to within
21 levels. -/
theorem comesBack_roughly (h : image.Uniform) (hwidth : 0 < image.width)
    (hheight : 0 < image.height) : image.ComesBack 21 := by
  refine (comesBack_iff h 21).mpr ⟨hwidth, hheight, ?_⟩
  intro row _ col _
  exact colour_roughly_kept _ _ _

end BgraImage

end Oxrdp
