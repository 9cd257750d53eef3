import Oxrdp.Lib.Raster
import Oxrdp.Lib.Saturating
import Mathlib.Data.Option.Basic

/-!
# I420 to BGRA

`yuv.rs` of the client: the planes that a video decoder returns become packed BGRA, as
limited-range BT.601 in Q16 fixed point.  A row is converted eight pixels at a time, and what is
left of it by the scalar code, two pixels at a time with an odd last one.

`convertRow_eq` and `convertRowVector_eq` say that both give every pixel its own luma and the
chroma of its column pair, and `i420ToBgra_eq` says it of the picture, whatever the strides.
The lanes of `i32x8` and the scalar `i32` are integers: no sum comes near the ends of `i32`
(`q16_fits`).
-/

namespace Oxrdp

open Raster

def usizeMax : Nat := 2 ^ 64 - 1

/-- `checked_add` on `usize`. -/
def usizeAdd (a b : Nat) : Option Nat := if a + b ≤ usizeMax then some (a + b) else none

/-- `checked_sub` on `usize`. -/
def usizeSub (a b : Nat) : Option Nat := if b ≤ a then some (a - b) else none

/-- `checked_mul` on `usize`. -/
def usizeMul (a b : Nat) : Option Nat := if a * b ≤ usizeMax then some (a * b) else none

/-- Planes of a picture with the geometry that walks them; a stride may exceed the row. -/
structure I420Planes where
  y : List UInt8
  u : List UInt8
  v : List UInt8
  width : Nat
  height : Nat
  yStride : Nat
  uStride : Nat
  vStride : Nat

/-- `div_ceil(2)`. -/
def halfUp (n : Nat) : Nat := (n + 1) / 2

/-- The last row needs no full stride. -/
def planeFits (plane : List UInt8) (rows stride rowBytes : Nat) : Bool :=
  match ((usizeSub rows 1).bind (usizeMul · stride)).bind (usizeAdd · rowBytes) with
  | some needed => decide (needed ≤ plane.length)
  | none => false

/-- Whether the planes are long enough for their geometry. -/
def I420Planes.isAddressable (p : I420Planes) : Bool :=
  if p.width = 0 ∨ p.height = 0 then false
  else if p.yStride < p.width ∨ p.uStride < halfUp p.width ∨ p.vStride < halfUp p.width then
    false
  else
    planeFits p.y p.height p.yStride p.width &&
      planeFits p.u (halfUp p.height) p.uStride (halfUp p.width) &&
      planeFits p.v (halfUp p.height) p.vStride (halfUp p.width)

def yScale : Int := 76309
def rV : Int := 104597
def gU : Int := -25675
def gV : Int := -53279
def bU : Int := 132201
def half : Int := 1 <<< (15 : Nat)

/-- The three terms of the chroma bytes: blue, green and red. -/
def chromaOffsets (cb cr : UInt8) : Int × Int × Int :=
  let cb := (cb.toNat : Int) - 128
  let cr := (cr.toNat : Int) - 128
  (bU * cb, gU * cb + gV * cr, rV * cr)

def clampU8 (q16 : Int) : UInt8 := UInt8.clamp ((q16 + half) >>> (16 : Nat))

/-- The four bytes of a pixel. -/
def writePixel (luma : UInt8) (offsets : Int × Int × Int) : List UInt8 :=
  let luma := yScale * ((luma.toNat : Int) - 16)
  [clampU8 (luma + offsets.1), clampU8 (luma + offsets.2.1), clampU8 (luma + offsets.2.2), 0xff]

/-- No sum leaves `i32`. -/
theorem q16_fits (luma cb cr : UInt8) :
    ∀ offset ∈ [(chromaOffsets cb cr).1, (chromaOffsets cb cr).2.1, (chromaOffsets cb cr).2.2],
      -2 ^ 31 ≤ yScale * ((luma.toNat : Int) - 16) + offset + half ∧
        yScale * ((luma.toNat : Int) - 16) + offset + half < 2 ^ 31 := by
  have hluma := luma.toNat_lt
  have hcb := cb.toNat_lt
  have hcr := cr.toNat_lt
  have hhalf : half = 32768 := rfl
  intro offset hoffset
  simp only [chromaOffsets, List.mem_cons, List.not_mem_nil, or_false] at hoffset
  unfold yScale
  rcases hoffset with rfl | rfl | rfl
  · unfold bU
    omega
  · unfold gU gV
    omega
  · unfold rV
    omega

/-- One row, two pixels at a time. -/
def convertRow (luma cb cr : List UInt8) : List UInt8 :=
  let pairs := ((chunksExact 2 luma).zip (cb.zip cr)).flatMap fun (luma, cb, cr) =>
    luma.flatMap fun luma => writePixel luma (chromaOffsets cb cr)
  -- An odd width leaves one pixel, which shares the chroma of the one before it.
  let tail :=
    if luma.length % 2 = 1 then
      let last := cb.length - 1
      writePixel (luma.getD (luma.length - 1) 0)
        (chromaOffsets (cb.getD last 0) (cr.getD last 0))
    else []
  pairs ++ tail

/-- Eight pixels at once: a chroma byte is in two lanes. -/
def convertOctet (luma cb cr : List UInt8) : List UInt8 :=
  (List.range 8).flatMap fun lane =>
    let y := (((luma.getD lane 0).toNat : Int) - 16) * yScale
    let u := ((cb.getD (lane / 2) 0).toNat : Int) - 128
    let v := ((cr.getD (lane / 2) 0).toNat : Int) - 128
    [UInt8.clamp ((y + u * bU + half) >>> (16 : Nat)),
      UInt8.clamp ((y + u * gU + v * gV + half) >>> (16 : Nat)),
      UInt8.clamp ((y + v * rV + half) >>> (16 : Nat)), 0xff]

/-- One row, eight pixels at a time, and the rest by the scalar code. -/
def convertRowVector (luma cb cr : List UInt8) : List UInt8 :=
  let octets := ((chunksExact 8 luma).zip ((chunksExact 4 cb).zip (chunksExact 4 cr))).flatMap
    fun (luma, cb, cr) => convertOctet luma cb cr
  let whole := luma.length - luma.length % 8
  octets ++
    if whole < luma.length then
      convertRow (luma.drop whole) (cb.drop (whole / 2)) (cr.drop (whole / 2))
    else []

def convertPicture (p : I420Planes) : List UInt8 :=
  (List.range p.height).flatMap fun row =>
    convertRowVector (slice p.y (row * p.yStride) p.width)
      (slice p.u (row / 2 * p.uStride) (halfUp p.width))
      (slice p.v (row / 2 * p.vStride) (halfUp p.width))

/-- The picture as packed BGRA; `none` where the planes are too short. -/
def i420ToBgra (p : I420Planes) : Option (List UInt8) :=
  if p.isAddressable then
    match (usizeMul p.width p.height).bind (usizeMul · 4) with
    | some _ => some (convertPicture p)
    | none => none
  else none

/-- The pixel of a luma byte and two chroma bytes. -/
def pixelOf (y u v : UInt8) : List UInt8 := writePixel y (chromaOffsets u v)

section Rows

variable {w : Nat} (y u v : Nat → UInt8)

/-- **The scalar row.**  Every pixel has its own luma and the chroma of its pair. -/
theorem convertRow_eq :
    convertRow ((List.range w).map y) ((List.range (halfUp w)).map u)
        ((List.range (halfUp w)).map v) =
      (List.range w).flatMap fun col => pixelOf (y col) (u (col / 2)) (v (col / 2)) := by
  have hmin : min (w / 2) (min (halfUp w) (halfUp w)) = w / 2 := by
    unfold halfUp
    omega
  have hw : w = w / 2 * 2 + w % 2 := by omega
  have hpairs : ((chunksExact 2 ((List.range w).map y)).zip
      (((List.range (halfUp w)).map u).zip ((List.range (halfUp w)).map v))).flatMap
        (fun (luma, cb, cr) => luma.flatMap fun luma => writePixel luma (chromaOffsets cb cr)) =
      (List.range (w / 2 * 2)).flatMap fun col =>
        pixelOf (y col) (u (col / 2)) (v (col / 2)) := by
    rw [map_chunksExact, zip_map_range, zip_map_range, hmin, List.flatMap_map,
      flatMap_range_mul]
    apply List.flatMap_congr
    intro i _
    simp only [List.flatMap_map]
    apply List.flatMap_congr
    intro k hk
    have hhalf : (i * 2 + k) / 2 = i := by
      have := List.mem_range.mp hk
      omega
    rw [hhalf]
    rfl
  unfold convertRow
  simp only [hpairs, List.length_map, List.length_range]
  rcases Nat.mod_two_eq_zero_or_one w with heven | hodd
  · have hwhole : w / 2 * 2 = w := by omega
    rw [if_neg (by omega), List.append_nil, hwhole]
  · have hwhole : w = w / 2 * 2 + 1 := by omega
    have hlast : halfUp w - 1 = w / 2 := by
      unfold halfUp
      omega
    have hcol : w - 1 = w / 2 * 2 := by omega
    have hhalf : w / 2 * 2 / 2 = w / 2 := by omega
    have hin : w / 2 < halfUp w := by
      unfold halfUp
      omega
    rw [if_pos hodd, hlast, getD_map_range hin, getD_map_range hin,
      getD_map_range (by omega), hcol]
    conv_rhs => rw [hwhole, List.range_succ, List.flatMap_append]
    simp [pixelOf]

/-- Each lane is the pixel that the scalar code makes. -/
theorem convertOctet_eq :
    convertOctet ((List.range 8).map y) ((List.range 4).map u) ((List.range 4).map v) =
      (List.range 8).flatMap fun lane => pixelOf (y lane) (u (lane / 2)) (v (lane / 2)) := by
  unfold convertOctet
  apply List.flatMap_congr
  intro lane hlane
  have hlt := List.mem_range.mp hlane
  have hhalf : lane / 2 < 4 := by omega
  rw [getD_map_range hlt, getD_map_range hhalf, getD_map_range hhalf]
  simp only [pixelOf, writePixel, chromaOffsets, clampU8, Int.mul_comm, Int.add_assoc]

/-- **The vector row.**  It is bit for bit that of the scalar code. -/
theorem convertRowVector_eq :
    convertRowVector ((List.range w).map y) ((List.range (halfUp w)).map u)
        ((List.range (halfUp w)).map v) =
      (List.range w).flatMap fun col => pixelOf (y col) (u (col / 2)) (v (col / 2)) := by
  have hmin : min (w / 8) (min (halfUp w / 4) (halfUp w / 4)) = w / 8 := by
    unfold halfUp
    omega
  have hoctets : ((chunksExact 8 ((List.range w).map y)).zip
      ((chunksExact 4 ((List.range (halfUp w)).map u)).zip
        (chunksExact 4 ((List.range (halfUp w)).map v)))).flatMap
          (fun (luma, cb, cr) => convertOctet luma cb cr) =
      (List.range (w / 8 * 8)).flatMap fun col =>
        pixelOf (y col) (u (col / 2)) (v (col / 2)) := by
    rw [map_chunksExact, map_chunksExact, map_chunksExact, zip_map_range, zip_map_range, hmin,
      List.flatMap_map, flatMap_range_mul]
    apply List.flatMap_congr
    intro i _
    simp only [convertOctet_eq]
    apply List.flatMap_congr
    intro k _
    have hhalf : (i * 8 + k) / 2 = i * 4 + k / 2 := by omega
    rw [hhalf]
  unfold convertRowVector
  simp only [hoctets, List.length_map, List.length_range]
  by_cases hrest : w - w % 8 < w
  · have hwhole : w - w % 8 = w / 8 * 8 := by omega
    have hleft : w - w / 8 * 8 = w % 8 := by omega
    have hchroma : halfUp w - w / 8 * 8 / 2 = halfUp (w % 8) := by
      unfold halfUp
      omega
    have hw : w = w / 8 * 8 + w % 8 := by omega
    rw [if_pos hrest, hwhole, drop_map_range, drop_map_range, drop_map_range, hleft, hchroma,
      convertRow_eq]
    conv_rhs => rw [hw, List.range_add, List.flatMap_append, List.flatMap_map]
    refine congrArg (_ ++ ·) ?_
    apply List.flatMap_congr
    intro k _
    have hhalf : (w / 8 * 8 + k) / 2 = w / 8 * 8 / 2 + k / 2 := by omega
    rw [hhalf]
  · have hwhole : w / 8 * 8 = w := by omega
    rw [if_neg hrest, List.append_nil, hwhole]

end Rows

/-! ## Pictures -/

section Pictures

variable {plane : List UInt8} {rows stride rowBytes : Nat}

/-- A plane that fits has all of its rows. -/
theorem planeFits_row (h : planeFits plane rows stride rowBytes = true) {row : Nat}
    (hrow : row < rows) : row * stride + rowBytes ≤ plane.length := by
  unfold planeFits at h
  split at h
  next needed hneeded =>
    simp only [Option.bind_eq_some_iff, usizeSub, usizeMul, usizeAdd,
      Option.ite_none_right_eq_some, Option.some.injEq] at hneeded
    obtain ⟨offset, ⟨last, ⟨-, rfl⟩, -, rfl⟩, -, rfl⟩ := hneeded
    have hle := Nat.mul_le_mul_right stride (Nat.le_sub_one_of_lt hrow)
    have hfits := of_decide_eq_true h
    omega
  next => cases h

/-- A plane of memory with room for its rows fits. -/
theorem planeFits_of_room (hrows : 0 < rows) (hroom : (rows - 1) * stride + rowBytes ≤ plane.length)
    (hmemory : plane.length ≤ usizeMax) : planeFits plane rows stride rowBytes = true := by
  have hsub : usizeSub rows 1 = some (rows - 1) := if_pos hrows
  have hmul : usizeMul (rows - 1) stride = some ((rows - 1) * stride) := if_pos (by omega)
  have hadd : usizeAdd ((rows - 1) * stride) rowBytes = some ((rows - 1) * stride + rowBytes) :=
    if_pos (by omega)
  unfold planeFits
  rw [hsub, Option.bind_some, hmul, Option.bind_some, hadd]
  exact decide_eq_true hroom

/-- **The picture.**  Every pixel has its own luma and the chroma of its block, read through the
strides of the planes. -/
theorem i420ToBgra_eq {p : I420Planes} {out : List UInt8} (h : i420ToBgra p = some out) :
    out = (List.range p.height).flatMap fun row => (List.range p.width).flatMap fun col =>
      pixelOf (p.y.getD (row * p.yStride + col) 0) (p.u.getD (row / 2 * p.uStride + col / 2) 0)
        (p.v.getD (row / 2 * p.vStride + col / 2) 0) := by
  unfold i420ToBgra at h
  split at h
  next haddressable =>
    split at h
    next =>
      cases h
      unfold I420Planes.isAddressable at haddressable
      split at haddressable
      next => cases haddressable
      next =>
        split at haddressable
        next => cases haddressable
        next =>
          simp only [Bool.and_eq_true] at haddressable
          obtain ⟨⟨hy, hu⟩, hv⟩ := haddressable
          unfold convertPicture
          apply List.flatMap_congr
          intro row hrow
          have hrow' := List.mem_range.mp hrow
          have hchroma : row / 2 < halfUp p.height := by
            unfold halfUp
            omega
          rw [slice_eq_map (planeFits_row hy hrow') 0, slice_eq_map (planeFits_row hu hchroma) 0,
            slice_eq_map (planeFits_row hv hchroma) 0]
          exact convertRowVector_eq _ _ _
    next => cases h
  next => cases h

/-- Four bytes for each pixel. -/
theorem length_i420ToBgra {p : I420Planes} {out : List UInt8} (h : i420ToBgra p = some out) :
    out.length = p.width * p.height * 4 := by
  rw [i420ToBgra_eq h, Nat.mul_comm p.width p.height, Nat.mul_assoc]
  exact length_rows fun _ _ => length_rows fun _ _ => rfl

/-- Nothing else than the pixel counts and the room decides whether there is a picture. -/
theorem i420ToBgra_of_addressable {p : I420Planes} (h : p.isAddressable = true)
    (hsize : p.width * p.height * 4 ≤ usizeMax) : ∃ out, i420ToBgra p = some out := by
  have hpixels : usizeMul p.width p.height = some (p.width * p.height) := if_pos (by omega)
  have hbytes : usizeMul (p.width * p.height) 4 = some (p.width * p.height * 4) := if_pos hsize
  refine ⟨convertPicture p, ?_⟩
  unfold i420ToBgra
  rw [if_pos h, hpixels, Option.bind_some, hbytes]

end Pictures

end Oxrdp
