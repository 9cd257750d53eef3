import Oxrdp.Lib.Raster
import Oxrdp.Lib.Saturating

/-!
# BGRA to NV12

`nv12.rs` of the agent: the image that a window was captured in becomes one byte of luma for
each pixel, followed by a plane of half the resolution in which the two chroma bytes of a block
of 2x2 pixels stand side by side.  Both are full-range BT.601 in Q8 fixed point.

The planes are written row by row and byte by byte from the first to the last, so they are
lists of their rows here.  `i32` arithmetic is that of the integers: the sums of three bytes
with weights below 256 stay far inside its range.
-/

namespace Oxrdp

open Raster

/-- Full-range luma. -/
def luma (r g b : UInt8) : UInt8 :=
  UInt8.clamp ((77 * (r.toNat : Int) + 150 * g.toNat + 29 * b.toNat) >>> (8 : Nat))

/-- The full-range chroma pair. -/
def chroma (r g b : UInt8) : UInt8 × UInt8 :=
  (UInt8.clamp (((-43 * (r.toNat : Int) - 85 * g.toNat + 128 * b.toNat) >>> (8 : Nat)) + 128),
    UInt8.clamp (((128 * (r.toNat : Int) - 107 * g.toNat - 21 * b.toNat) >>> (8 : Nat)) + 128))

/-- `(0..n).step_by(2)`. -/
def stepBy2 (n : Nat) : List Nat := (List.range ((n + 1) / 2)).map (2 * ·)

/-- The planes of an image; `none` where the code asserts. -/
def bgraToNv12 (bgra : List UInt8) (width height : Nat) : Option (List UInt8) :=
  if width % 2 = 0 ∧ height % 2 = 0 ∧ bgra.length = width * height * 4 then
    let yPlane := (List.range height).flatMap fun row =>
      let srcRow := slice bgra (row * width * 4) (width * 4)
      (List.range width).map fun col =>
        let px := slice srcRow (col * 4) 4
        luma (px.getD 2 0) (px.getD 1 0) (px.getD 0 0)
    -- The top left pixel of a block stands for all four of it.
    let uvPlane := (stepBy2 height).flatMap fun row =>
      let srcRow := slice bgra (row * width * 4) (width * 4)
      (stepBy2 width).flatMap fun col =>
        let px := slice srcRow (col * 4) 4
        let (u, v) := chroma (px.getD 2 0) (px.getD 1 0) (px.getD 0 0)
        [u, v]
    some (yPlane ++ uvPlane)
  else none

/-- A byte of the pixel in a row and a column of a tightly packed image of four bytes each. -/
def channel (bgra : List UInt8) (width row col k : Nat) : UInt8 :=
  bgra.getD ((row * width + col) * 4 + k) 0

/-- The whole numbers that luma and chroma clamp. -/
theorem luma_toNat (r g b : UInt8) :
    ((luma r g b).toNat : Int) = (77 * (r.toNat : Int) + 150 * g.toNat + 29 * b.toNat) / 256 := by
  have hr := r.toNat_lt
  have hg := g.toNat_lt
  have hb := b.toNat_lt
  rw [luma, UInt8.toNat_clamp, Int.shiftRight_eq_div_pow]
  omega

theorem chroma_toNat (r g b : UInt8) :
    ((chroma r g b).1.toNat : Int) - 128 =
        (-43 * (r.toNat : Int) - 85 * g.toNat + 128 * b.toNat) / 256 ∧
      ((chroma r g b).2.toNat : Int) - 128 =
        (128 * (r.toNat : Int) - 107 * g.toNat - 21 * b.toNat) / 256 := by
  have hr := r.toNat_lt
  have hg := g.toNat_lt
  have hb := b.toNat_lt
  constructor
  · rw [chroma, UInt8.toNat_clamp, Int.shiftRight_eq_div_pow]
    omega
  · rw [chroma, UInt8.toNat_clamp, Int.shiftRight_eq_div_pow]
    omega

section Planes

variable {bgra nv12 : List UInt8} {width height row col : Nat}

/-- Byte `k` of a pixel, read through its row. -/
theorem pixel_channel (hcol : col < width) {k : Nat} (hk : k < 4) :
    (slice (slice bgra (row * width * 4) (width * 4)) (col * 4) 4).getD k 0 =
      channel bgra width row col k := by
  rw [getD_slice hk, getD_slice (by omega), channel]
  congr 1
  rw [Nat.add_mul, Nat.add_assoc]

/-- The two planes of an image, by their rows. -/
theorem bgraToNv12_planes (h : bgraToNv12 bgra width height = some nv12) :
    nv12 =
      ((List.range height).flatMap fun row => (List.range width).map fun col =>
          luma (channel bgra width row col 2) (channel bgra width row col 1)
            (channel bgra width row col 0)) ++
        (List.range (height / 2)).flatMap fun row => (List.range (width / 2)).flatMap fun col =>
          [(chroma (channel bgra width (2 * row) (2 * col) 2)
              (channel bgra width (2 * row) (2 * col) 1)
              (channel bgra width (2 * row) (2 * col) 0)).1,
            (chroma (channel bgra width (2 * row) (2 * col) 2)
              (channel bgra width (2 * row) (2 * col) 1)
              (channel bgra width (2 * row) (2 * col) 0)).2] := by
  unfold bgraToNv12 at h
  split at h
  next hvalid =>
    obtain ⟨hwidth, hheight, -⟩ := hvalid
    cases h
    have hhalf : ∀ {n : Nat}, n % 2 = 0 → (n + 1) / 2 = n / 2 := by omega
    refine congrArg₂ (· ++ ·) ?_ ?_
    · apply List.flatMap_congr
      intro row _
      apply List.map_congr_left
      intro col hcol
      have hcol' := List.mem_range.mp hcol
      simp only [pixel_channel hcol' (by decide : 2 < 4), pixel_channel hcol' (by decide : 1 < 4),
        pixel_channel hcol' (by decide : 0 < 4)]
    · rw [stepBy2, stepBy2, hhalf hwidth, hhalf hheight, List.flatMap_map]
      apply List.flatMap_congr
      intro row _
      rw [List.flatMap_map]
      apply List.flatMap_congr
      intro col hcol
      have hcol' : 2 * col < width := by
        have := List.mem_range.mp hcol
        omega
      simp only [pixel_channel hcol' (by decide : 2 < 4), pixel_channel hcol' (by decide : 1 < 4),
        pixel_channel hcol' (by decide : 0 < 4)]
  next => cases h

theorem length_bgraToNv12 (h : bgraToNv12 bgra width height = some nv12) (heven : width % 2 = 0) :
    nv12.length = height * width + height / 2 * width := by
  rw [bgraToNv12_planes h, List.length_append, length_rows (n := width) fun row _ => by simp]
  refine congrArg (height * width + ·) ?_
  apply length_rows
  intro row _
  rw [length_rows (n := 2) fun col _ => rfl]
  omega

/-- **Every pixel has its luma.** -/
theorem bgraToNv12_luma (h : bgraToNv12 bgra width height = some nv12) (hrow : row < height)
    (hcol : col < width) :
    nv12.getD (row * width + col) 0 =
      luma (channel bgra width row col 2) (channel bgra width row col 1)
        (channel bgra width row col 0) := by
  have hlength : ((List.range height).flatMap fun row => (List.range width).map fun col =>
      luma (channel bgra width row col 2) (channel bgra width row col 1)
        (channel bgra width row col 0)).length = height * width :=
    length_rows fun row _ => by simp
  have hin := index_lt hrow hcol
  rw [bgraToNv12_planes h, List.getD_append _ _ _ _ (by omega),
    getD_rows (fun row _ => by simp) hrow hcol, getD_map_range hcol]

/-- **Every block has the chroma of its top left pixel.** -/
theorem bgraToNv12_chroma (h : bgraToNv12 bgra width height = some nv12) (heven : width % 2 = 0)
    (hrow : row < height / 2) (hcol : col < width / 2) :
    nv12.getD (height * width + (row * width + col * 2)) 0 =
        (chroma (channel bgra width (2 * row) (2 * col) 2)
          (channel bgra width (2 * row) (2 * col) 1)
          (channel bgra width (2 * row) (2 * col) 0)).1 ∧
      nv12.getD (height * width + (row * width + (col * 2 + 1))) 0 =
        (chroma (channel bgra width (2 * row) (2 * col) 2)
          (channel bgra width (2 * row) (2 * col) 1)
          (channel bgra width (2 * row) (2 * col) 0)).2 := by
  have hlength : ((List.range height).flatMap fun row => (List.range width).map fun col =>
      luma (channel bgra width row col 2) (channel bgra width row col 1)
        (channel bgra width row col 0)).length = height * width :=
    length_rows fun row _ => by simp
  have hrows : ∀ g : Nat → Nat → List UInt8, (∀ row col, (g row col).length = 2) →
      ∀ row < height / 2, ((List.range (width / 2)).flatMap (g row)).length = width := by
    intro g hg row _
    rw [length_rows fun col _ => hg row col]
    omega
  rw [bgraToNv12_planes h, List.getD_append_right _ _ _ _ (by omega),
    List.getD_append_right _ _ _ _ (by omega), hlength, Nat.add_sub_cancel_left,
    Nat.add_sub_cancel_left]
  have hu : col * 2 < width := by omega
  have hv : col * 2 + 1 < width := by omega
  constructor
  · rw [getD_rows (hrows _ fun _ _ => rfl) hrow hu]
    exact @getD_rows UInt8 (width / 2) 2 _ (fun _ _ => rfl) col 0 hcol (by decide) 0
  · rw [getD_rows (hrows _ fun _ _ => rfl) hrow hv]
    exact @getD_rows UInt8 (width / 2) 2 _ (fun _ _ => rfl) col 1 hcol (by decide) 0

end Planes

end Oxrdp
