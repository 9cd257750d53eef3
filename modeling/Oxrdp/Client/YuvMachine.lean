import Oxrdp.Client.Yuv
import Oxrdp.Lib.Checked

/-!
# The conversion on a machine

The code of `yuv.rs` once more, now with the output it writes into and with all that could stop
it: every sum of `i32`, every product of `usize`, every index and slice, the assertion.  The
lanes of `i32x8` wrap where a scalar stops; the model stops in both.

Each function goes on and computes what its counterpart in `Oxrdp.Client.Yuv` does, as long as
its slices have the lengths that its caller gives them.  So the counterparts may stand for the
code.
-/

namespace Oxrdp

namespace YuvMachine

open Raster

/-- What is written goes over the start of `out`. -/
def overwrite (out written : List UInt8) : List UInt8 := written ++ out.drop written.length

def chromaOffsets (cb cr : UInt8) : Checked (Int × Int × Int) := do
  let cb ← Checked.i32 ((cb.toNat : Int) - 128)
  let cr ← Checked.i32 ((cr.toNat : Int) - 128)
  let blue ← Checked.i32 (bU * cb)
  let greenCb ← Checked.i32 (gU * cb)
  let greenCr ← Checked.i32 (gV * cr)
  let green ← Checked.i32 (greenCb + greenCr)
  let red ← Checked.i32 (rV * cr)
  pure (blue, green, red)

def clampU8 (q16 : Int) : Checked UInt8 := do
  let rounded ← Checked.i32 (q16 + half)
  pure (UInt8.clamp (rounded >>> (16 : Nat)))

/-- One of the sums of `write_pixel`. -/
def channel (luma offset : Int) : Checked UInt8 := do
  let q16 ← Checked.i32 (luma + offset)
  clampU8 q16

def writePixel (pixel : List UInt8) (luma : UInt8) (offsets : Int × Int × Int) :
    Checked (List UInt8) := do
  let luma ← Checked.i32 ((luma.toNat : Int) - 16)
  let luma ← Checked.i32 (yScale * luma)
  let blue ← channel luma offsets.1
  let pixel ← Checked.set pixel 0 blue
  let green ← channel luma offsets.2.1
  let pixel ← Checked.set pixel 1 green
  let red ← channel luma offsets.2.2
  let pixel ← Checked.set pixel 2 red
  Checked.set pixel 3 0xff

/-- A pair of pixels. -/
def convertPair (luma : List UInt8) (cb cr : UInt8) (out : List UInt8) : Checked (List UInt8) := do
  let offsets ← chromaOffsets cb cr
  let pixels ← ((chunksExact 4 out).zip luma).mapM fun (pixel, luma) =>
    writePixel pixel luma offsets
  pure (overwrite out pixels.flatten)

def convertRow (luma cb cr out : List UInt8) : Checked (List UInt8) := do
  let expected ← Checked.usize (luma.length * 4)
  Checked.require (out.length = expected)
  let whole := out.length / 8 * 8
  let pairs ← ((chunksExact 8 out).zip ((chunksExact 2 luma).zip (cb.zip cr))).mapM
    fun (out, luma, cb, cr) => convertPair luma cb cr out
  let tail := out.drop whole
  let tail ← (if tail.isEmpty then pure tail
    else do
      let last ← Checked.natSub cb.length 1
      let cb ← Checked.get cb last
      let cr ← Checked.get cr last
      let offsets ← chromaOffsets cb cr
      let last ← Checked.natSub luma.length 1
      let luma ← Checked.get luma last
      writePixel tail luma offsets)
  pure (overwrite (out.take whole) pairs.flatten ++ tail)

/-- A lane of `y`. -/
def lumaLane (luma : List UInt8) (lane : Nat) : Checked Int := do
  let luma ← Checked.get luma lane
  let y ← Checked.i32 ((luma.toNat : Int) - 16)
  Checked.i32 (y * yScale)

/-- A lane of `u` or `v`; each chroma byte occupies two. -/
def chromaLane (chroma : List UInt8) (lane : Nat) : Checked Int := do
  let chroma ← Checked.get chroma (lane / 2)
  Checked.i32 ((chroma.toNat : Int) - 128)

/-- One pixel of a vector step. -/
def convertLane (luma cb cr : List UInt8) (lane : Nat) (pixel : List UInt8) :
    Checked (List UInt8) := do
  let y ← lumaLane luma lane
  let u ← chromaLane cb lane
  let v ← chromaLane cr lane
  let blueU ← Checked.i32 (u * bU)
  let blue ← channel y blueU
  let greenU ← Checked.i32 (u * gU)
  let greenV ← Checked.i32 (v * gV)
  let green ← Checked.i32 (y + greenU)
  let green ← channel green greenV
  let redV ← Checked.i32 (v * rV)
  let red ← channel y redV
  let pixel ← Checked.set pixel 0 blue
  let pixel ← Checked.set pixel 1 green
  let pixel ← Checked.set pixel 2 red
  Checked.set pixel 3 0xff

def convertOctet (luma cb cr out : List UInt8) : Checked (List UInt8) := do
  let pixels ← ((chunksExact 4 out).zip (List.range 8)).mapM fun (pixel, lane) =>
    convertLane luma cb cr lane pixel
  pure (overwrite out pixels.flatten)

def convertRowVector (luma cb cr out : List UInt8) : Checked (List UInt8) := do
  let octets ← ((chunksExact 32 out).zip
      ((chunksExact 8 luma).zip ((chunksExact 4 cb).zip (chunksExact 4 cr)))).mapM
    fun (out, luma, cb, cr) => convertOctet luma cb cr out
  let done := out.length / 32 * 32
  let remainder := out.drop done
  let whole ← Checked.natSub luma.length (luma.length % 8)
  let remainder ← (if whole < luma.length then do
      let luma ← Checked.drop luma whole
      let cb ← Checked.drop cb (whole / 2)
      let cr ← Checked.drop cr (whole / 2)
      convertRow luma cb cr remainder
    else pure remainder)
  pure (overwrite (out.take done) octets.flatten ++ remainder)

/-- `row_bytes` of a plane from the start of a row. -/
def rowOf (plane : List UInt8) (row stride rowBytes : Nat) : Checked (List UInt8) := do
  let start ← Checked.usize (row * stride)
  let rest ← Checked.drop plane start
  Checked.take rest rowBytes

def convertPictureRow (p : I420Planes) (out : List UInt8) (row : Nat) : Checked (List UInt8) := do
  let luma ← rowOf p.y row p.yStride p.width
  let cb ← rowOf p.u (row / 2) p.uStride (halfUp p.width)
  let cr ← rowOf p.v (row / 2) p.vStride (halfUp p.width)
  let pixels ← Checked.usize (row * p.width)
  let start ← Checked.usize (pixels * 4)
  let size ← Checked.usize (p.width * 4)
  let rest ← Checked.drop out start
  let line ← Checked.take rest size
  let line ← convertRowVector luma cb cr line
  pure (out.take start ++ line ++ out.drop (start + size))

def convertPicture (p : I420Planes) (out : List UInt8) : Checked (List UInt8) :=
  (List.range p.height).foldlM (convertPictureRow p) out

def i420ToBgra (p : I420Planes) : Checked (Option (List UInt8)) :=
  if p.isAddressable then
    match (usizeMul p.width p.height).bind (usizeMul · 4) with
    | some len => do
        let bgra ← convertPicture p (List.replicate len 0)
        pure (some bgra)
    | none => pure none
  else pure none

/-! ## No step stops -/

/-- The three offsets of a pair are `i32`s. -/
theorem chromaOffsets_ok (cb cr : UInt8) :
    chromaOffsets cb cr = .ok (Oxrdp.chromaOffsets cb cr) := by
  have hcb := cb.toNat_lt
  have hcr := cr.toNat_lt
  unfold chromaOffsets bU gU gV rV
  rw [Checked.i32_ok (by omega) (by omega), Checked.bind_ok, Checked.i32_ok (by omega) (by omega),
    Checked.bind_ok, Checked.i32_ok (by omega) (by omega), Checked.bind_ok,
    Checked.i32_ok (by omega) (by omega), Checked.bind_ok, Checked.i32_ok (by omega) (by omega),
    Checked.bind_ok, Checked.i32_ok (by omega) (by omega), Checked.bind_ok,
    Checked.i32_ok (by omega) (by omega)]
  rfl

/-- A luma term and a chroma term that leave room for rounding. -/
theorem channel_ok {luma offset : Int} (hlow : -2 ^ 30 ≤ luma + offset)
    (hhigh : luma + offset < 2 ^ 30) :
    channel luma offset = .ok (Oxrdp.clampU8 (luma + offset)) := by
  have hhalf : half = 32768 := rfl
  unfold channel clampU8
  rw [Checked.i32_ok (by omega) (by omega), Checked.bind_ok,
    Checked.i32_ok (by omega) (by omega)]
  rfl

/-- A scaled luma is one. -/
theorem luma_fits (luma : UInt8) :
    -2 ^ 22 ≤ yScale * ((luma.toNat : Int) - 16) ∧
      yScale * ((luma.toNat : Int) - 16) < 2 ^ 25 := by
  have hluma := luma.toNat_lt
  unfold yScale
  omega

/-- The offsets are small enough for their sums. -/
theorem offsets_fit (cb cr : UInt8) :
    ∀ offset ∈ [(Oxrdp.chromaOffsets cb cr).1, (Oxrdp.chromaOffsets cb cr).2.1,
        (Oxrdp.chromaOffsets cb cr).2.2], -2 ^ 25 < offset ∧ offset < 2 ^ 25 := by
  have hcb := cb.toNat_lt
  have hcr := cr.toNat_lt
  intro offset hoffset
  simp only [Oxrdp.chromaOffsets, List.mem_cons, List.not_mem_nil, or_false] at hoffset
  rcases hoffset with rfl | rfl | rfl
  · unfold bU
    omega
  · unfold gU gV
    omega
  · unfold rV
    omega

/-- A pixel is written as it is computed. -/
theorem writePixel_ok {pixel : List UInt8} (hlength : pixel.length = 4) (luma cb cr : UInt8) :
    writePixel pixel luma (Oxrdp.chromaOffsets cb cr) = .ok (pixelOf luma cb cr) := by
  obtain ⟨a, b, c, d, rfl⟩ := List.length_eq_four.mp hlength
  have hluma := luma.toNat_lt
  obtain ⟨hlow, hhigh⟩ := luma_fits luma
  have hoffsets := offsets_fit cb cr
  have hblue := hoffsets _ List.mem_cons_self
  have hgreen := hoffsets _ (List.mem_cons_of_mem _ List.mem_cons_self)
  have hred := hoffsets _ (List.mem_cons_of_mem _ (List.mem_cons_of_mem _ List.mem_cons_self))
  unfold writePixel
  rw [Checked.i32_ok (by omega) (by omega), Checked.bind_ok, Checked.i32_ok (by omega) (by omega),
    Checked.bind_ok, channel_ok (by omega) (by omega), Checked.bind_ok, Checked.set_ok (by simp),
    Checked.bind_ok, channel_ok (by omega) (by omega), Checked.bind_ok, Checked.set_ok (by simp),
    Checked.bind_ok, channel_ok (by omega) (by omega), Checked.bind_ok, Checked.set_ok (by simp),
    Checked.bind_ok, Checked.set_ok (by simp)]
  rfl

/-- Written over as much as there is. -/
theorem overwrite_of_length {out written : List UInt8} (h : out.length = written.length) :
    overwrite out written = written := by
  rw [overwrite, ← h, List.drop_length, List.append_nil]

/-- A pixel is four bytes. -/
theorem length_pixelOf (luma cb cr : UInt8) : (pixelOf luma cb cr).length = 4 := rfl

/-- A loop that writes a block of `out` for each item, over the start of what it is given. -/
theorem blocks_ok {β : Type} {f : List UInt8 × β → Checked (List UInt8)} {g : β → List UInt8}
    {items : List β} {n : Nat} (out : List UInt8) (hroom : items.length ≤ out.length / n)
    (h : ∀ block : List UInt8, block.length = n → ∀ b ∈ items, f (block, b) = .ok (g b))
    (hlength : ∀ b ∈ items, (g b).length = n) :
    ∃ blocks, ((chunksExact n out).zip items).mapM f = .ok blocks ∧
      ∀ start : List UInt8, start.length = items.length * n →
        overwrite start blocks.flatten = items.flatMap g := by
  refine ⟨items.map g, Checked.mapM_zip_ok ?_ fun block hblock => h block (length_chunk hblock), ?_⟩
  · rw [length_chunksExact]
    exact hroom
  · intro start hstart
    rw [← List.flatMap_def, overwrite_of_length]
    rw [hstart, length_blocks hlength]

/-- A pair of pixels shares its chroma. -/
theorem convertPair_ok {luma out : List UInt8} (hluma : luma.length = 2) (hout : out.length = 8)
    (cb cr : UInt8) :
    convertPair luma cb cr out = .ok (luma.flatMap fun luma => pixelOf luma cb cr) := by
  obtain ⟨pixels, hpixels, hwritten⟩ := blocks_ok
    (f := fun (pixel, luma) => writePixel pixel luma (Oxrdp.chromaOffsets cb cr)) out
    (by omega : luma.length ≤ out.length / 4)
    (fun pixel hpixel luma _ => writePixel_ok hpixel luma cb cr)
    (fun luma _ => length_pixelOf luma cb cr)
  unfold convertPair
  rw [chromaOffsets_ok, Checked.bind_ok, hpixels, Checked.bind_ok, hwritten out (by omega)]
  rfl

section Rows

variable {luma cb cr out : List UInt8}

/-- The scalar row. -/
theorem convertRow_ok (hcb : cb.length = halfUp luma.length) (hcr : cr.length = halfUp luma.length)
    (hout : out.length = luma.length * 4) (hroom : out.length < 2 ^ 64) :
    convertRow luma cb cr out = .ok (Oxrdp.convertRow luma cb cr) := by
  have hcount : ((chunksExact 2 luma).zip (cb.zip cr)).length = luma.length / 2 := by
    simp only [List.length_zip, length_chunksExact, hcb, hcr, halfUp]
    omega
  obtain ⟨pairs, hpairs, hwritten⟩ := blocks_ok (n := 8)
    (f := fun (out, luma, cb, cr) => convertPair luma cb cr out)
    (g := fun (luma, cb, cr) => luma.flatMap fun luma => pixelOf luma cb cr) out
    (by omega : ((chunksExact 2 luma).zip (cb.zip cr)).length ≤ out.length / 8)
    (fun out hout ⟨luma, cb, cr⟩ hmem =>
      convertPair_ok (length_chunk (List.of_mem_zip hmem).1) hout cb cr)
    (fun ⟨luma, cb, cr⟩ hmem => by
      rw [length_blocks fun luma _ => length_pixelOf luma cb cr,
        length_chunk (List.of_mem_zip hmem).1])
  unfold convertRow
  rw [Checked.usize_ok (by omega), Checked.bind_ok, Checked.require_ok hout, Checked.bind_ok]
  dsimp only
  rw [hpairs, Checked.bind_ok, hwritten (out.take (out.length / 8 * 8)) (by
    rw [List.length_take]
    omega)]
  unfold Oxrdp.convertRow
  rcases Nat.mod_two_eq_zero_or_one luma.length with heven | hodd
  · have hempty : out.drop (out.length / 8 * 8) = [] := by
      apply List.drop_eq_nil_of_le
      omega
    rw [hempty, if_neg (show ¬ luma.length % 2 = 1 by omega)]
    rfl
  · have htail : (out.drop (out.length / 8 * 8)).length = 4 := by
      rw [List.length_drop]
      omega
    have hne : (out.drop (out.length / 8 * 8)).isEmpty = false := by
      rw [List.isEmpty_eq_false_iff, ← List.length_pos_iff, htail]
      decide
    have hchroma : 0 < halfUp luma.length := by
      unfold halfUp
      omega
    rw [hne, if_neg Bool.false_ne_true, Checked.natSub_ok (by omega), Checked.bind_ok,
      Checked.get_ok (by omega) 0, Checked.bind_ok, Checked.get_ok (by omega) 0, Checked.bind_ok,
      chromaOffsets_ok, Checked.bind_ok, Checked.natSub_ok (by omega), Checked.bind_ok,
      Checked.get_ok (by omega) 0, Checked.bind_ok, writePixel_ok htail, if_pos hodd]
    rfl

/-- A luma sample in range is read. -/
theorem lumaLane_ok {lane : Nat} (h : lane < luma.length) :
    lumaLane luma lane = .ok ((((luma.getD lane 0).toNat : Int) - 16) * yScale) := by
  have hlt := (luma.getD lane 0).toNat_lt
  obtain ⟨hlow, hhigh⟩ := luma_fits (luma.getD lane 0)
  rw [Int.mul_comm] at hlow hhigh
  unfold lumaLane
  rw [Checked.get_ok h 0, Checked.bind_ok, Checked.i32_ok (by omega) (by omega), Checked.bind_ok,
    Checked.i32_ok (by omega) (by omega)]

/-- A chroma sample in range is read, and centred. -/
theorem chromaLane_ok {chroma : List UInt8} {lane : Nat} (h : lane / 2 < chroma.length) :
    chromaLane chroma lane = .ok (((chroma.getD (lane / 2) 0).toNat : Int) - 128) := by
  have hlt := (chroma.getD (lane / 2) 0).toNat_lt
  unfold chromaLane
  rw [Checked.get_ok h 0, Checked.bind_ok, Checked.i32_ok (by omega) (by omega)]

/-- The products of chroma with the coefficients are in range. -/
theorem products_fit (chroma : UInt8) :
    (-2 ^ 25 < ((chroma.toNat : Int) - 128) * bU ∧ ((chroma.toNat : Int) - 128) * bU < 2 ^ 25) ∧
    (-2 ^ 25 < ((chroma.toNat : Int) - 128) * gU ∧ ((chroma.toNat : Int) - 128) * gU < 2 ^ 25) ∧
    (-2 ^ 25 < ((chroma.toNat : Int) - 128) * gV ∧ ((chroma.toNat : Int) - 128) * gV < 2 ^ 25) ∧
    -2 ^ 25 < ((chroma.toNat : Int) - 128) * rV ∧ ((chroma.toNat : Int) - 128) * rV < 2 ^ 25 := by
  have hlt := chroma.toNat_lt
  unfold bU gU gV rV
  omega

/-- A lane writes its pixel. -/
theorem convertLane_ok {lane : Nat} {pixel : List UInt8} (hluma : lane < luma.length)
    (hcb : lane / 2 < cb.length) (hcr : lane / 2 < cr.length) (hpixel : pixel.length = 4) :
    convertLane luma cb cr lane pixel =
      .ok (pixelOf (luma.getD lane 0) (cb.getD (lane / 2) 0) (cr.getD (lane / 2) 0)) := by
  obtain ⟨a, b, c, d, rfl⟩ := List.length_eq_four.mp hpixel
  obtain ⟨hlow, hhigh⟩ := luma_fits (luma.getD lane 0)
  rw [Int.mul_comm] at hlow hhigh
  unfold convertLane
  rw [lumaLane_ok hluma, Checked.bind_ok, chromaLane_ok hcb, Checked.bind_ok, chromaLane_ok hcr,
    Checked.bind_ok]
  obtain ⟨hblueU, hgreenU, -, -⟩ := products_fit (cb.getD (lane / 2) 0)
  obtain ⟨-, -, hgreenV, hredV⟩ := products_fit (cr.getD (lane / 2) 0)
  rw [Checked.i32_ok (by omega) (by omega), Checked.bind_ok, channel_ok (by omega) (by omega),
    Checked.bind_ok, Checked.i32_ok (by omega) (by omega), Checked.bind_ok,
    Checked.i32_ok (by omega) (by omega), Checked.bind_ok, Checked.i32_ok (by omega) (by omega),
    Checked.bind_ok, channel_ok (by omega) (by omega), Checked.bind_ok,
    Checked.i32_ok (by omega) (by omega), Checked.bind_ok, channel_ok (by omega) (by omega),
    Checked.bind_ok, Checked.set_ok (by simp), Checked.bind_ok, Checked.set_ok (by simp),
    Checked.bind_ok, Checked.set_ok (by simp), Checked.bind_ok, Checked.set_ok (by simp)]
  simp only [pixelOf, Oxrdp.writePixel, Oxrdp.chromaOffsets, Int.mul_comm, Int.add_assoc]
  rfl

/-- Eight lanes write eight pixels. -/
theorem convertOctet_ok (hluma : luma.length = 8) (hcb : cb.length = 4) (hcr : cr.length = 4)
    (hout : out.length = 32) :
    convertOctet luma cb cr out = .ok (Oxrdp.convertOctet luma cb cr) := by
  obtain ⟨pixels, hpixels, hwritten⟩ := blocks_ok (n := 4)
    (f := fun (pixel, lane) => convertLane luma cb cr lane pixel) out
    (by rw [List.length_range]; omega : (List.range 8).length ≤ out.length / 4)
    (fun pixel hpixel lane hlane => by
      have hlt := List.mem_range.mp hlane
      exact convertLane_ok (by omega) (by omega) (by omega) hpixel)
    (fun lane _ => length_pixelOf _ _ _)
  unfold convertOctet
  rw [hpixels, Checked.bind_ok, hwritten out hout, Oxrdp.convertOctet]
  simp only [pixelOf, Oxrdp.writePixel, Oxrdp.chromaOffsets, Oxrdp.clampU8, Int.mul_comm,
    Int.add_assoc]
  rfl

/-- The vector row. -/
theorem convertRowVector_ok (hcb : cb.length = halfUp luma.length)
    (hcr : cr.length = halfUp luma.length) (hout : out.length = luma.length * 4)
    (hroom : out.length < 2 ^ 64) :
    convertRowVector luma cb cr out = .ok (Oxrdp.convertRowVector luma cb cr) := by
  have hcount : ((chunksExact 8 luma).zip ((chunksExact 4 cb).zip (chunksExact 4 cr))).length =
      luma.length / 8 := by
    simp only [List.length_zip, length_chunksExact, hcb, hcr, halfUp]
    omega
  obtain ⟨octets, hoctets, hwritten⟩ := blocks_ok (n := 32)
    (f := fun (out, luma, cb, cr) => convertOctet luma cb cr out)
    (g := fun (luma, cb, cr) => Oxrdp.convertOctet luma cb cr) out
    (by omega : ((chunksExact 8 luma).zip ((chunksExact 4 cb).zip (chunksExact 4 cr))).length ≤
      out.length / 32)
    (fun out hout ⟨luma, cb, cr⟩ hmem => by
      obtain ⟨hluma, hchroma⟩ := List.of_mem_zip hmem
      obtain ⟨hcb, hcr⟩ := List.of_mem_zip hchroma
      exact convertOctet_ok (length_chunk hluma) (length_chunk hcb) (length_chunk hcr) hout)
    (fun octet _ => length_blocks (n := 4) fun _ _ => rfl)
  unfold convertRowVector
  rw [hoctets, Checked.bind_ok]
  dsimp only
  rw [hwritten (out.take (out.length / 32 * 32)) (by
    rw [List.length_take]
    omega), Checked.natSub_ok (Nat.mod_le _ _), Checked.bind_ok]
  unfold Oxrdp.convertRowVector
  dsimp only
  by_cases hrest : luma.length - luma.length % 8 < luma.length
  · have hleft : halfUp luma.length - (luma.length - luma.length % 8) / 2 =
        halfUp (luma.length - (luma.length - luma.length % 8)) := by
      unfold halfUp
      omega
    have hchroma : (luma.length - luma.length % 8) / 2 ≤ halfUp luma.length := by
      unfold halfUp
      omega
    rw [if_pos hrest, if_pos hrest, Checked.drop_ok (by omega), Checked.bind_ok,
      Checked.drop_ok (by omega), Checked.bind_ok, Checked.drop_ok (by omega), Checked.bind_ok,
      convertRow_ok]
    · rfl
    · rw [List.length_drop, List.length_drop, hcb, hleft]
    · rw [List.length_drop, List.length_drop, hcr, hleft]
    · rw [List.length_drop, List.length_drop]
      omega
    · rw [List.length_drop]
      omega
  · have hempty : out.drop (out.length / 32 * 32) = [] := by
      apply List.drop_eq_nil_of_le
      omega
    rw [if_neg hrest, if_neg hrest, hempty]
    rfl

end Rows

end YuvMachine

/-! ## Pictures in memory -/

/-- Planes as slices of memory, whose lengths are `usize`. -/
structure BorrowedPlanes extends I420Planes where
  y_le : y.length ≤ usizeMax
  u_le : u.length ≤ usizeMax
  v_le : v.length ≤ usizeMax

/-- Rows that do not overlap, in planes with room for all of them. -/
structure Addresses (p : I420Planes) : Prop where
  width_pos : 0 < p.width
  height_pos : 0 < p.height
  y_stride : p.width ≤ p.yStride
  u_stride : halfUp p.width ≤ p.uStride
  v_stride : halfUp p.width ≤ p.vStride
  y_room : (p.height - 1) * p.yStride + p.width ≤ p.y.length
  u_room : (halfUp p.height - 1) * p.uStride + halfUp p.width ≤ p.u.length
  v_room : (halfUp p.height - 1) * p.vStride + halfUp p.width ≤ p.v.length

/-- A plane with pixels has chroma. -/
theorem halfUp_pos {n : Nat} (h : 0 < n) : 0 < halfUp n := by
  unfold halfUp
  omega

/-- The check of the code is exactly that. -/
theorem isAddressable_iff (p : BorrowedPlanes) : p.isAddressable = true ↔ Addresses p.toI420Planes := by
  unfold I420Planes.isAddressable
  constructor
  · intro h
    split_ifs at h with hempty hnarrow
    simp only [Bool.and_eq_true] at h
    obtain ⟨⟨hy, hu⟩, hv⟩ := h
    have hwidth : 0 < p.width := by omega
    have hheight : 0 < p.height := by omega
    have hhalf := halfUp_pos hheight
    exact {
      width_pos := hwidth
      height_pos := hheight
      y_stride := by omega
      u_stride := by omega
      v_stride := by omega
      y_room := planeFits_row hy (by omega)
      u_room := planeFits_row hu (by omega)
      v_room := planeFits_row hv (by omega) }
  · intro h
    have hwidth := h.width_pos
    have hheight := h.height_pos
    have hy := h.y_stride
    have hu := h.u_stride
    have hv := h.v_stride
    rw [if_neg (by omega), if_neg (by omega), planeFits_of_room hheight h.y_room p.y_le,
      planeFits_of_room (halfUp_pos hheight) h.u_room p.u_le,
      planeFits_of_room (halfUp_pos hheight) h.v_room p.v_le]
    rfl

/-- How many bytes the picture takes, when they can be counted. -/
theorem bytes_eq (p : I420Planes) : (usizeMul p.width p.height).bind (usizeMul · 4) =
    if p.width * p.height * 4 ≤ usizeMax then some (p.width * p.height * 4) else none := by
  unfold usizeMul
  by_cases hpixels : p.width * p.height ≤ usizeMax
  · rw [if_pos hpixels]
    rfl
  · rw [if_neg hpixels, if_neg (by omega)]
    rfl

/-- Which planes have a picture. -/
theorem i420ToBgra_isSome_iff (p : BorrowedPlanes) : (i420ToBgra p.toI420Planes).isSome ↔
    Addresses p.toI420Planes ∧ p.width * p.height * 4 ≤ usizeMax := by
  rw [← isAddressable_iff, i420ToBgra, bytes_eq]
  by_cases haddressable : p.isAddressable = true
  · by_cases hsize : p.width * p.height * 4 ≤ usizeMax
    · simp [haddressable, hsize]
    · simp [haddressable, hsize]
  · simp [haddressable]

namespace YuvMachine

open Raster

/-- A row of a plane is inside it. -/
theorem rowOf_ok {plane : List UInt8} {row stride rowBytes : Nat}
    (hroom : row * stride + rowBytes ≤ plane.length) (hmemory : plane.length ≤ usizeMax) :
    rowOf plane row stride rowBytes = .ok (slice plane (row * stride) rowBytes) := by
  unfold usizeMax at hmemory
  unfold rowOf
  rw [Checked.usize_ok (by omega), Checked.bind_ok, Checked.drop_ok (by omega), Checked.bind_ok,
    Checked.take_ok (by rw [List.length_drop]; omega)]
  rfl

/-- One row of the picture. -/
def line (p : I420Planes) (row : Nat) : List UInt8 :=
  Oxrdp.convertRowVector (slice p.y (row * p.yStride) p.width)
    (slice p.u (row / 2 * p.uStride) (halfUp p.width))
    (slice p.v (row / 2 * p.vStride) (halfUp p.width))

section Pictures

variable {p : BorrowedPlanes} (h : Addresses p.toI420Planes)

include h

/-- There is room for each row in all three planes. -/
theorem row_room {row : Nat} (hrow : row < p.height) :
    row * p.yStride + p.width ≤ p.y.length ∧
      row / 2 * p.uStride + halfUp p.width ≤ p.u.length ∧
      row / 2 * p.vStride + halfUp p.width ≤ p.v.length := by
  have hchroma : row / 2 ≤ halfUp p.height - 1 := by
    unfold halfUp
    omega
  have hy := Nat.mul_le_mul_right p.yStride (Nat.le_sub_one_of_lt hrow)
  have hu := Nat.mul_le_mul_right p.uStride hchroma
  have hv := Nat.mul_le_mul_right p.vStride hchroma
  have hyRoom := h.y_room
  have huRoom := h.u_room
  have hvRoom := h.v_room
  omega

/-- A line is its pixels, one by one. -/
theorem line_eq {row : Nat} (hrow : row < p.height) :
    line p.toI420Planes row = (List.range p.width).flatMap fun col =>
      pixelOf (p.y.getD (row * p.yStride + col) 0) (p.u.getD (row / 2 * p.uStride + col / 2) 0)
        (p.v.getD (row / 2 * p.vStride + col / 2) 0) := by
  obtain ⟨hy, hu, hv⟩ := row_room h hrow
  rw [line, slice_eq_map hy 0, slice_eq_map hu 0, slice_eq_map hv 0, convertRowVector_eq]

/-- A line is four bytes a pixel. -/
theorem length_line {row : Nat} (hrow : row < p.height) :
    (line p.toI420Planes row).length = p.width * 4 := by
  rw [line_eq h hrow, length_blocks fun _ _ => length_pixelOf _ _ _, List.length_range]

/-- The output when so many rows are done. -/
def written (p : I420Planes) (rows : Nat) : List UInt8 :=
  (List.range rows).flatMap (line p) ++ List.replicate ((p.height - rows) * (p.width * 4)) 0

/-- **One row** more is written. -/
theorem convertPictureRow_ok (hsize : p.width * p.height * 4 ≤ usizeMax) {row : Nat}
    (hrow : row < p.height) :
    convertPictureRow p.toI420Planes (written p.toI420Planes row) row =
      .ok (written p.toI420Planes (row + 1)) := by
  obtain ⟨hy, hu, hv⟩ := row_room h hrow
  have hdone : ((List.range row).flatMap (line p.toI420Planes)).length = row * (p.width * 4) :=
    length_rows fun i hi => length_line h (by omega)
  -- the output up to this row, this row, and what is behind it
  have hleft : p.height - row = p.height - (row + 1) + 1 := by omega
  have hout : written p.toI420Planes row = (List.range row).flatMap (line p.toI420Planes) ++
      (List.replicate (p.width * 4) 0 ++
        List.replicate ((p.height - (row + 1)) * (p.width * 4)) 0) := by
    rw [written, hleft, Nat.succ_mul, Nat.add_comm, List.replicate_add]
  have hnext : written p.toI420Planes (row + 1) = (List.range row).flatMap (line p.toI420Planes) ++
      (line p.toI420Planes row ++
        List.replicate ((p.height - (row + 1)) * (p.width * 4)) 0) := by
    rw [written, List.range_succ, List.flatMap_append, List.flatMap_singleton, List.append_assoc]
  have hroom : row * (p.width * 4) + p.width * 4 ≤ usizeMax := by
    have hle := Nat.mul_le_mul_right (p.width * 4) (Nat.succ_le_of_lt hrow)
    rw [Nat.succ_mul] at hle
    rw [Nat.mul_comm p.width p.height, Nat.mul_assoc] at hsize
    exact hle.trans hsize
  have hstart : row * p.width * 4 = row * (p.width * 4) := Nat.mul_assoc _ _ _
  unfold usizeMax at hroom
  unfold convertPictureRow
  rw [rowOf_ok hy p.y_le, Checked.bind_ok, rowOf_ok hu p.u_le, Checked.bind_ok,
    rowOf_ok hv p.v_le, Checked.bind_ok, Checked.usize_ok (by omega), Checked.bind_ok,
    Checked.usize_ok (by omega), Checked.bind_ok, Checked.usize_ok (by omega), Checked.bind_ok,
    hstart, hout, hnext]
  generalize (List.range row).flatMap (line p.toI420Planes) = done at hdone
  generalize List.replicate ((p.height - (row + 1)) * (p.width * 4)) 0 = behind
  rw [← hdone, Checked.drop_ok (by simp), Checked.bind_ok, List.drop_left,
    Checked.take_ok (by simp), Checked.bind_ok, List.take_left' (by simp), convertRowVector_ok]
  · rw [Checked.bind_ok, List.take_left, ← List.drop_drop, List.drop_left,
      List.drop_left' (by simp), List.append_assoc]
    rfl
  · rw [length_slice hu, length_slice hy]
  · rw [length_slice hv, length_slice hy]
  · rw [length_slice hy, List.length_replicate]
  · rw [List.length_replicate]
    omega

/-- **All rows**: the picture is what the rows make of it. -/
theorem convertPicture_ok (hsize : p.width * p.height * 4 ≤ usizeMax) :
    convertPicture p.toI420Planes (List.replicate (p.width * p.height * 4) 0) =
      .ok (Oxrdp.convertPicture p.toI420Planes) := by
  have hloop := Checked.foldlM_range_ok (g := written p.toI420Planes) fun row hrow =>
    convertPictureRow_ok h hsize hrow
  have hfirst : written p.toI420Planes 0 = List.replicate (p.width * p.height * 4) 0 := by
    rw [written, List.range_zero, List.flatMap_nil, List.nil_append, Nat.sub_zero]
    rw [Nat.mul_comm p.width p.height, Nat.mul_assoc]
  have hlast : written p.toI420Planes p.height = Oxrdp.convertPicture p.toI420Planes := by
    rw [written, Nat.sub_self, Nat.zero_mul, List.replicate_zero, List.append_nil]
    rfl
  rw [hfirst, hlast] at hloop
  exact hloop

end Pictures

/-- The code goes on for all planes in memory, and computes its counterpart. -/
theorem i420ToBgra_ok (p : BorrowedPlanes) :
    i420ToBgra p.toI420Planes = .ok (Oxrdp.i420ToBgra p.toI420Planes) := by
  unfold i420ToBgra Oxrdp.i420ToBgra
  split_ifs with haddressable
  · have h := (isAddressable_iff p).mp haddressable
    rw [bytes_eq]
    split_ifs with hsize
    · dsimp only
      rw [convertPicture_ok h hsize]
      rfl
    · rfl
  · rfl

end YuvMachine

end Oxrdp
