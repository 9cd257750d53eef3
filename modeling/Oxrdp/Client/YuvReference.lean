import Oxrdp.Client.YuvMachine

/-!
# The reference picture

What the conversion is for: each pixel is the limited-range BT.601 formula, rounded to the
nearest integer, at its own luma and the chroma of its block.  The two paths of the code for a
row, and the picture as a whole, are compared with it.
-/

namespace Oxrdp

/-- A channel from its value in Q16: the nearest integer, clamped. -/
def referenceChannel (q16 : Int) : UInt8 :=
  UInt8.ofNat (max 0 (min ((q16 + 32768) / 65536) 255)).toNat

/-- Blue, green, red and opaque alpha of a pixel, as limited-range BT.601. -/
def referencePixel (y u v : UInt8) : List UInt8 :=
  let luma := 76309 * ((y.toNat : Int) - 16)
  let cb := (u.toNat : Int) - 128
  let cr := (v.toNat : Int) - 128
  [referenceChannel (luma + 132201 * cb), referenceChannel (luma - 25675 * cb - 53279 * cr),
    referenceChannel (luma + 104597 * cr), 0xff]

theorem clampU8_eq (q16 : Int) : clampU8 q16 = referenceChannel q16 := by
  rw [clampU8, UInt8.clamp, Int.shiftRight_eq_div_pow]
  rfl

theorem pixelOf_eq (y u v : UInt8) : pixelOf y u v = referencePixel y u v := by
  have hgreen : gU * ((u.toNat : Int) - 128) + gV * ((v.toNat : Int) - 128) =
      -25675 * ((u.toNat : Int) - 128) - 53279 * ((v.toNat : Int) - 128) := by
    unfold gU gV
    omega
  have hsum : yScale * ((y.toNat : Int) - 16) + (gU * ((u.toNat : Int) - 128) +
      gV * ((v.toNat : Int) - 128)) =
      76309 * ((y.toNat : Int) - 16) - 25675 * ((u.toNat : Int) - 128) -
        53279 * ((v.toNat : Int) - 128) := by
    unfold yScale gU gV
    omega
  simp only [pixelOf, writePixel, chromaOffsets, clampU8_eq, hsum]
  rfl

/-- A row of reference pixels; two neighbours share their chroma. -/
def referenceRow (luma cb cr : List UInt8) : List UInt8 :=
  (List.range luma.length).flatMap fun col =>
    referencePixel (luma.getD col 0) (cb.getD (col / 2) 0) (cr.getD (col / 2) 0)

section Rows

variable {luma cb cr : List UInt8}

theorem rows_eq (hcb : cb.length = halfUp luma.length) (hcr : cr.length = halfUp luma.length) :
    convertRow luma cb cr = referenceRow luma cb cr ∧
      convertRowVector luma cb cr = referenceRow luma cb cr := by
  have hluma : (List.range luma.length).map (luma.getD · 0) = luma :=
    (Raster.eq_map_range luma 0).symm
  have hcbMap : (List.range (halfUp luma.length)).map (cb.getD · 0) = cb := by
    rw [← hcb]
    exact (Raster.eq_map_range cb 0).symm
  have hcrMap : (List.range (halfUp luma.length)).map (cr.getD · 0) = cr := by
    rw [← hcr]
    exact (Raster.eq_map_range cr 0).symm
  have hscalar := convertRow_eq (w := luma.length) (luma.getD · 0) (cb.getD · 0) (cr.getD · 0)
  have hvector := convertRowVector_eq (w := luma.length) (luma.getD · 0) (cb.getD · 0) (cr.getD · 0)
  rw [hluma, hcbMap, hcrMap] at hscalar hvector
  simp only [pixelOf_eq] at hscalar hvector
  exact ⟨hscalar, hvector⟩

end Rows

/-- The four bytes at a place of the picture. -/
def pixelAt (p : I420Planes) (out : List UInt8) (x y : Nat) : List UInt8 :=
  Raster.slice out ((y * p.width + x) * 4) 4

theorem pixelAt_eq {p : I420Planes} {out : List UInt8} (hout : i420ToBgra p = some out) {x y : Nat}
    (hx : x < p.width) (hy : y < p.height) :
    pixelAt p out x y = referencePixel (p.y.getD (y * p.yStride + x) 0)
      (p.u.getD (y / 2 * p.uStride + x / 2) 0) (p.v.getD (y / 2 * p.vStride + x / 2) 0) := by
  have hplace : (y * p.width + x) * 4 = y * (p.width * 4) + x * 4 := by
    rw [Nat.add_mul, Nat.mul_assoc]
  have hpixel (row : Nat) : ∀ col < p.width, (pixelOf (p.y.getD (row * p.yStride + col) 0)
      (p.u.getD (row / 2 * p.uStride + col / 2) 0)
      (p.v.getD (row / 2 * p.vStride + col / 2) 0)).length = 4 :=
    fun _ _ => rfl
  rw [i420ToBgra_eq hout, pixelAt, hplace, ← Raster.slice_slice (n := p.width * 4) (by omega),
    Raster.slice_rows (fun row _ => Raster.length_rows (hpixel row)) hy,
    Raster.slice_rows (hpixel y) hx, pixelOf_eq]

/-- **The conversion.**  No step overflows or leaves its slice, whatever the planes.  There is a
picture exactly for planes that hold all rows of a picture that is not empty, with strides of at
least a row, and whose bytes can be counted; it is the reference picture.  Both paths for a row
are the reference row. -/
theorem i420_conversion :
    (∀ p : BorrowedPlanes, ∃ result, YuvMachine.i420ToBgra p.toI420Planes = .ok result ∧
      (result.isSome ↔ Addresses p.toI420Planes ∧ p.width * p.height * 4 ≤ usizeMax) ∧
      ∀ out, result = some out → out.length = p.width * p.height * 4 ∧
        ∀ x < p.width, ∀ y < p.height, ∃ luma cb cr,
          p.y[y * p.yStride + x]? = some luma ∧ p.u[y / 2 * p.uStride + x / 2]? = some cb ∧
          p.v[y / 2 * p.vStride + x / 2]? = some cr ∧
          pixelAt p.toI420Planes out x y = referencePixel luma cb cr) ∧
    ∀ luma cb cr out : List UInt8, cb.length = halfUp luma.length →
      cr.length = halfUp luma.length → out.length = luma.length * 4 → out.length ≤ usizeMax →
      YuvMachine.convertRowVector luma cb cr out = YuvMachine.convertRow luma cb cr out ∧
        YuvMachine.convertRow luma cb cr out = .ok (referenceRow luma cb cr) := by
  constructor
  · intro p
    refine ⟨_, YuvMachine.i420ToBgra_ok p, i420ToBgra_isSome_iff p, fun out hout => ?_⟩
    refine ⟨length_i420ToBgra hout, fun x hx y hy => ?_⟩
    have hsome : (i420ToBgra p.toI420Planes).isSome := by
      rw [hout]
      rfl
    obtain ⟨hluma, hcb, hcr⟩ := YuvMachine.row_room ((i420ToBgra_isSome_iff p).mp hsome).1 hy
    have hcol : x / 2 < halfUp p.width := by
      unfold halfUp
      omega
    refine ⟨_, _, _, List.getElem?_eq_getElem (by omega), List.getElem?_eq_getElem (by omega),
      List.getElem?_eq_getElem (by omega), ?_⟩
    rw [pixelAt_eq hout hx hy, List.getD_eq_getElem?_getD, List.getD_eq_getElem?_getD,
      List.getD_eq_getElem?_getD, List.getElem?_eq_getElem (by omega),
      List.getElem?_eq_getElem (by omega), List.getElem?_eq_getElem (by omega)]
    rfl
  · intro luma cb cr out hcb hcr hout hroom
    obtain ⟨hscalar, hvector⟩ := rows_eq hcb hcr
    unfold usizeMax at hroom
    rw [YuvMachine.convertRowVector_ok hcb hcr hout (by omega),
      YuvMachine.convertRow_ok hcb hcr hout (by omega), hscalar, hvector]
    exact ⟨rfl, rfl⟩

/-- A picture that is empty, and one whose rows overlap. -/
def emptyPlanes : I420Planes where
  y := [16]
  u := [128]
  v := [128]
  width := 0
  height := 4
  yStride := 0
  uStride := 0
  vStride := 0

def narrowPlanes : I420Planes where
  y := [16, 16, 16]
  u := [128]
  v := [128]
  width := 2
  height := 2
  yStride := 1
  uStride := 1
  vStride := 1

/-- Every sample of the picture is in its plane, and the bytes can be counted. -/
def I420Planes.HoldsPicture (p : I420Planes) : Prop :=
  (∀ x < p.width, ∀ y < p.height, y * p.yStride + x < p.y.length ∧
    y / 2 * p.uStride + x / 2 < p.u.length ∧ y / 2 * p.vStride + x / 2 < p.v.length) ∧
  p.width * p.height * 4 ≤ usizeMax

/-- Such planes are still refused when the picture is empty or a stride is narrower than a
row. -/
theorem room_not_enough :
    (emptyPlanes.HoldsPicture ∧ YuvMachine.i420ToBgra emptyPlanes = .ok none) ∧
      narrowPlanes.HoldsPicture ∧ YuvMachine.i420ToBgra narrowPlanes = .ok none := by
  unfold I420Planes.HoldsPicture
  decide

end Oxrdp
