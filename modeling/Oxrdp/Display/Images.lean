import Oxrdp.Display.Presenter
import Oxrdp.Lib.Raster

/-!
# Icons and cursors

`bgra_to_rgba`, `bgra_premul_to_rgba` and `unpremul` of `winit_backend.rs`.  Both take pixels of
four bytes and refuse data of any other length than the image asks for; they differ in what they
do to a pixel, as the alpha of an icon is straight and that of a cursor premultiplied.

Both keep the alpha of each pixel (`convertPixels_pixel`).  `unpremul` finds the greatest colour
that premultiplies to no more than what was sent (`unpremul_greatest`), which loses less than
one step of the alpha (`unpremul_premul`).
-/

namespace Oxrdp

namespace Winit

open Raster

/-- An image of pixels of four bytes, pixel by pixel. -/
def convertPixels (pixel : UInt8 → UInt8 → UInt8 → UInt8 → List UInt8) (data : List UInt8)
    (width height : UInt16) : Option (List UInt8) := do
  let expected ← Presenter.frameLen width height
  if data.length ≠ expected then
    none
  else
    some ((chunksExact 4 data).flatMap fun px =>
      pixel (px.getD 0 0) (px.getD 1 0) (px.getD 2 0) (px.getD 3 0))

def bgraToRgba : List UInt8 → UInt16 → UInt16 → Option (List UInt8) :=
  convertPixels fun b g r a => [r, g, b, a]

def unpremul (channel alpha : UInt8) : UInt8 :=
  if alpha = 0 then 0 else UInt8.ofNat (min (channel.toNat * 255 / alpha.toNat) 255)

def bgraPremulToRgba : List UInt8 → UInt16 → UInt16 → Option (List UInt8) :=
  convertPixels fun b g r a => [unpremul r a, unpremul g a, unpremul b a, a]

/-! ## Pixels -/

section Pixels

variable {pixel : UInt8 → UInt8 → UInt8 → UInt8 → List UInt8} {data : List UInt8}
  {width height : UInt16}

/-- An image is accepted if it has the length that it should. -/
theorem convertPixels_eq : convertPixels pixel data width height =
    if data.length = width.toNat * height.toNat * 4 then
      some ((chunksExact 4 data).flatMap fun px =>
        pixel (px.getD 0 0) (px.getD 1 0) (px.getD 2 0) (px.getD 3 0))
    else none := by
  unfold convertPixels
  rw [Presenter.frameLen_eq, Option.bind_eq_bind, Option.bind_some]
  exact ite_not _ _ _

/-- **Images.**  An image comes out at its length, and each of its pixels from the four bytes at
the same place. -/
theorem convertPixels_pixel (hpixel : ∀ b g r a, (pixel b g r a).length = 4)
    {rgba : List UInt8} (h : convertPixels pixel data width height = some rgba) :
    rgba.length = data.length ∧
      ∀ i < width.toNat * height.toNat, ∀ k < 4,
        rgba.getD (i * 4 + k) 0 =
          (pixel (data.getD (i * 4) 0) (data.getD (i * 4 + 1) 0) (data.getD (i * 4 + 2) 0)
            (data.getD (i * 4 + 3) 0)).getD k 0 := by
  rw [convertPixels_eq] at h
  split at h
  next hlength =>
    cases h
    have hpixels : data.length / 4 = width.toNat * height.toNat := by omega
    rw [chunksExact, hpixels, List.flatMap_map]
    constructor
    · rw [length_rows fun i _ => hpixel .., hlength]
    · intro i hi k hk
      rw [getD_rows (fun i _ => hpixel ..) hi hk]
      rw [getD_slice (by omega), getD_slice (by omega), getD_slice (by omega),
        getD_slice (by omega), Nat.add_zero]
  next => cases h

/-- Swapping the colours back gives the icon that was sent. -/
theorem bgraToRgba_bgraToRgba {rgba : List UInt8} (h : bgraToRgba data width height = some rgba) :
    bgraToRgba rgba width height = some data := by
  have hlength : data.length = width.toNat * height.toNat * 4 := by
    rw [bgraToRgba, convertPixels_eq] at h
    split at h
    next hlength => exact hlength
    next => cases h
  obtain ⟨hsame, hplaces⟩ := convertPixels_pixel (fun _ _ _ _ => rfl) h
  have haccepted : ∃ bgra, bgraToRgba rgba width height = some bgra := by
    rw [bgraToRgba, convertPixels_eq, if_pos (hsame.trans hlength)]
    exact ⟨_, rfl⟩
  obtain ⟨bgra, hbgra⟩ := haccepted
  obtain ⟨hsame', hplaces'⟩ := convertPixels_pixel (fun _ _ _ _ => rfl) hbgra
  rw [hbgra]
  congr 1
  rw [eq_map_range bgra 0, eq_map_range data 0, hsame', hsame]
  apply List.map_congr_left
  intro k hk
  have hpixel : k / 4 < width.toNat * height.toNat := by
    have hlt := List.mem_range.mp hk
    omega
  have hplace : k = k / 4 * 4 + k % 4 := by omega
  have h0 := hplaces _ hpixel 0 (by omega)
  have h1 := hplaces _ hpixel 1 (by omega)
  have h2 := hplaces _ hpixel 2 (by omega)
  have h3 := hplaces _ hpixel 3 (by omega)
  rw [hplace, hplaces' _ hpixel _ (Nat.mod_lt k (by omega)), ← Nat.add_zero (k / 4 * 4), h0, h1, h2,
    h3]
  have hk : k % 4 = 0 ∨ k % 4 = 1 ∨ k % 4 = 2 ∨ k % 4 = 3 := by omega
  rcases hk with hk | hk | hk | hk
  · rw [hk]; rfl
  · rw [hk]; rfl
  · rw [hk]; rfl
  · rw [hk]; rfl

end Pixels

/-! ## Straight alpha -/

theorem unpremul_toNat (channel alpha : UInt8) (halpha : alpha ≠ 0) :
    (unpremul channel alpha).toNat = min (channel.toNat * 255 / alpha.toNat) 255 := by
  rw [unpremul, if_neg halpha, UInt8.toNat_ofNat']
  apply Nat.mod_eq_of_lt
  omega

/-- The greatest colour that premultiplies to no more than the channel. -/
theorem unpremul_greatest (channel alpha v : UInt8) (halpha : alpha ≠ 0) :
    v ≤ unpremul channel alpha ↔ v.toNat * alpha.toNat ≤ channel.toNat * 255 := by
  have hpos : 0 < alpha.toNat := by
    rw [Nat.pos_iff_ne_zero]
    exact fun h => halpha (UInt8.toNat_inj.mp h)
  have hv : v.toNat ≤ 255 := by
    have := v.toNat_lt
    omega
  rw [UInt8.le_iff_toNat_le, unpremul_toNat _ _ halpha, le_min_iff, Nat.le_div_iff_mul_le hpos]
  exact ⟨fun h => h.1, fun h => ⟨h, hv⟩⟩

/-- What was premultiplied, rounding down, comes back as at most what it was, and less than one
step of the alpha below it. -/
theorem unpremul_premul (v alpha channel : UInt8) (halpha : alpha ≠ 0)
    (hchannel : channel.toNat = v.toNat * alpha.toNat / 255) :
    unpremul channel alpha ≤ v ∧
      v.toNat * alpha.toNat < (unpremul channel alpha).toNat * alpha.toNat + alpha.toNat + 255 := by
  have hdown : channel.toNat * 255 ≤ v.toNat * alpha.toNat := by omega
  have hup : v.toNat * alpha.toNat < channel.toNat * 255 + 255 := by omega
  have hself := (unpremul_greatest channel alpha _ halpha).mp (UInt8.le_refl _)
  have hpos : 0 < alpha.toNat := by
    rw [Nat.pos_iff_ne_zero]
    exact fun h => halpha (UInt8.toNat_inj.mp h)
  constructor
  · rw [UInt8.le_iff_toNat_le]
    exact Nat.le_of_mul_le_mul_right (hself.trans hdown) hpos
  · by_cases hfull : (unpremul channel alpha).toNat = 255
    · have hv := v.toNat_lt
      have hle : v.toNat * alpha.toNat ≤ 255 * alpha.toNat := Nat.mul_le_mul_right _ (by omega)
      rw [hfull]
      omega
    · have hnext := unpremul_toNat channel alpha halpha
      have hquotient : (unpremul channel alpha).toNat = channel.toNat * 255 / alpha.toNat := by
        omega
      have hmod := Nat.lt_mul_div_succ (channel.toNat * 255) hpos
      rw [← hquotient, Nat.mul_add, Nat.mul_one, Nat.mul_comm alpha.toNat] at hmod
      omega

end Winit

end Oxrdp
