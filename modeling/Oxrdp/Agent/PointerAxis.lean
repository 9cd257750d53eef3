import Oxrdp.Agent.Foreground
import Oxrdp.Lib.Checked

/-!
# Pointer coordinates on one axis

`normalize` of `win/input.rs` maps a screen coordinate onto the range of `MOUSEEVENTF_ABSOLUTE`.
`normalizeChecked` is the same code with its machine arithmetic and the assertion of `clamp`
checked; `normalizeChecked_eq` says that it never stops.

On the integers it is `scaled`: the distance of the clamped coordinate from the origin, times
65535, divided by the last distance there is.  Everything else is about that quotient.
-/

namespace Oxrdp

/-! ## A distance on a longer scale -/

/-- The part of `scale` that `distance` is of `span`, rounded down. -/
def scaled (scale distance span : Int) : Int := distance * scale / span

section Scaled

variable {scale span a b : Int}

/-- Scaling keeps the order. -/
theorem scaled_mono (hscale : 0 ≤ scale) (hspan : 0 < span) (h : a ≤ b) :
    scaled scale a span ≤ scaled scale b span :=
  Int.ediv_le_ediv hspan (Int.mul_le_mul_of_nonneg_right h hscale)

/-- The first pixel is scaled to 0. -/
theorem scaled_zero : scaled scale 0 span = 0 := by
  rw [scaled, Int.zero_mul, Int.zero_ediv]

/-- The last pixel is scaled to the end of the scale. -/
theorem scaled_span (hspan : 0 < span) : scaled scale span span = scale :=
  Int.mul_ediv_cancel_left scale (ne_of_gt hspan)

/-- Nothing is scaled below 0. -/
theorem scaled_nonneg (hscale : 0 ≤ scale) (hspan : 0 < span) (ha : 0 ≤ a) :
    0 ≤ scaled scale a span := by
  have hmono := scaled_mono hscale hspan ha
  rwa [scaled_zero] at hmono

/-- Nothing is scaled beyond the end. -/
theorem scaled_le (hscale : 0 ≤ scale) (hspan : 0 < span) (ha : a ≤ span) :
    scaled scale a span ≤ scale :=
  (scaled_mono hscale hspan ha).trans_eq (scaled_span hspan)

/-- A scale that is no shorter keeps the places apart. -/
theorem scaled_lt (hspan : 0 < span) (hlong : span ≤ scale) (h : a < b) :
    scaled scale a span < scaled scale b span := by
  have hstep : scaled scale a span + 1 ≤ scaled scale (a + 1) span := by
    have hadd : a * scale / span + 1 = (a * scale + span) / span := by
      rw [Int.add_ediv_of_dvd_right (Int.dvd_refl span), Int.ediv_self (ne_of_gt hspan)]
    rw [scaled, scaled, hadd, Int.add_mul, Int.one_mul]
    exact Int.ediv_le_ediv hspan (Int.add_le_add_left hlong _)
  have hmono := scaled_mono (hspan.le.trans hlong) hspan (Int.add_one_le_of_lt h)
  omega

end Scaled

/-! ## The axis -/

/-- `normalize`, which stops where its arithmetic leaves the range or `clamp` asserts. -/
def normalizeChecked (value origin extent : Int32) : Checked Int32 :=
  if extent ≤ 1 then
    pure 0
  else do
    let span ← Checked.i32Sub extent 1
    let last := origin.saturatingAdd span
    let clamped ← Checked.i32Clamp value origin last
    let distance ← Checked.i32Sub clamped origin
    let product ← Checked.i64Mul distance.toInt64 65535
    let quotient ← Checked.i64Div product span.toInt64
    pure quotient.toInt32

/-- The last pixel of an axis, or the last coordinate there is. -/
def lastPixel (origin extent : Int32) : Int := min (origin.toInt + (extent.toInt - 1)) (2 ^ 31 - 1)

/-- How far a coordinate is along an axis, once it is clamped to it. -/
def alongAxis (value origin extent : Int32) : Int :=
  max origin.toInt (min value.toInt (lastPixel origin extent)) - origin.toInt

section Axis

variable {value origin extent : Int32}

/-- An extent of more than one pixel is one as an integer too. -/
theorem one_lt_toInt (h : 1 < extent) : 1 < extent.toInt := by
  rw [← Int32.toInt_one]
  exact Int32.lt_iff_toInt_lt.mp h

/-- A span is one pixel less than its extent. -/
theorem toInt_span (h : 1 < extent) : (extent - 1).toInt = extent.toInt - 1 := by
  have hpos := one_lt_toInt h
  have hlow := extent.toInt_lt
  rw [Int32.toInt_sub, Int32.toInt_one, Int.bmod_eq_of_le]
  · omega
  · omega

/-- A place on the axis is in its span. -/
theorem alongAxis_range (value origin : Int32) (h : 1 < extent) :
    0 ≤ alongAxis value origin extent ∧ alongAxis value origin extent ≤ extent.toInt - 1 := by
  have hpos := one_lt_toInt h
  have htop := origin.toInt_lt
  rw [alongAxis, lastPixel]
  omega

/-- The clamped coordinate, as the code computes it. -/
def clampedTo (value origin extent : Int32) : Int32 :=
  let last := origin.saturatingAdd (extent - 1)
  if value < origin then origin else if last < value then last else value

/-- The last pixel is where the machine computes it, unless it saturates there. -/
theorem toInt_last (origin : Int32) (h : 1 < extent) :
    (origin.saturatingAdd (extent - 1)).toInt = lastPixel origin extent := by
  have hlow := origin.le_toInt
  have hpos := one_lt_toInt h
  rw [Int32.saturatingAdd, Int32.toInt_clamp_eq, toInt_span h, lastPixel]
  omega

/-- What the machine clamps is the place on the axis. -/
theorem toInt_clampedTo (h : 1 < extent) :
    (clampedTo value origin extent).toInt - origin.toInt = alongAxis value origin extent := by
  have hlast := toInt_last origin h
  have hpos := one_lt_toInt h
  have htop := origin.toInt_lt
  have hle : origin.toInt ≤ lastPixel origin extent := by
    rw [lastPixel]
    omega
  rw [alongAxis, clampedTo]
  simp only [Int32.lt_iff_toInt_lt, hlast]
  split_ifs with hbelow habove
  · omega
  · rw [hlast]
    omega
  · omega

/-- The distance from the origin fits its type. -/
theorem toInt_distance (h : 1 < extent) :
    (clampedTo value origin extent - origin).toInt = alongAxis value origin extent := by
  obtain ⟨hlow, hhigh⟩ := alongAxis_range value origin h
  have htop := extent.toInt_lt
  rw [Int32.toInt_sub, toInt_clampedTo h, Int.bmod_eq_of_le]
  · omega
  · omega

/-- The quotient is that of the integers, and fits its type. -/
theorem normalize_toInt (h : 1 < extent) :
    (normalize value origin extent).toInt =
      scaled 65535 (alongAxis value origin extent) (extent.toInt - 1) := by
  obtain ⟨hlow, hhigh⟩ := alongAxis_range value origin h
  have hpos := one_lt_toInt h
  have htop := extent.toInt_lt
  have hcode : normalize value origin extent =
      ((clampedTo value origin extent - origin).toInt64 * 65535 /
        (extent - 1).toInt64).toInt32 :=
    if_neg (Int32.not_le.mpr h)
  have hproduct : ((clampedTo value origin extent - origin).toInt64 * 65535).toInt =
      alongAxis value origin extent * 65535 := by
    rw [Int64.toInt_mul, Int32.toInt_toInt64, toInt_distance h]
    change (alongAxis value origin extent * 65535).bmod _ = _
    rw [Int.bmod_eq_of_le]
    · omega
    · omega
  have hspan : (extent - 1).toInt64.toInt = extent.toInt - 1 := by
    rw [Int32.toInt_toInt64, toInt_span h]
  have hne : (extent - 1).toInt64 ≠ -1 := by
    intro heq
    rw [heq] at hspan
    change (-1 : Int) = _ at hspan
    omega
  have hnonneg : 0 ≤ scaled 65535 (alongAxis value origin extent) (extent.toInt - 1) :=
    scaled_nonneg (by omega) (by omega) hlow
  have hle : scaled 65535 (alongAxis value origin extent) (extent.toInt - 1) ≤ 65535 :=
    scaled_le (by omega) (by omega) hhigh
  rw [hcode, Int64.toInt_toInt32, Int64.toInt_div_of_ne_right _ _ hne, hproduct, hspan,
    Int.tdiv_eq_ediv_of_nonneg (by omega)]
  change (scaled 65535 (alongAxis value origin extent) (extent.toInt - 1)).bmod _ = _
  rw [Int.bmod_eq_of_le]
  · omega
  · omega

/-- The code with its checks goes on to the end. -/
theorem normalizeChecked_eq (value origin extent : Int32) :
    normalizeChecked value origin extent = .ok (normalize value origin extent) := by
  by_cases h : 1 < extent
  · obtain ⟨hlow, hhigh⟩ := alongAxis_range value origin h
    have hpos := one_lt_toInt h
    have htop := extent.toInt_lt
    have hordered : origin ≤ origin.saturatingAdd (extent - 1) := by
      have horigin := origin.toInt_lt
      rw [Int32.le_iff_toInt_le, toInt_last origin h, lastPixel]
      omega
    have hspan := Checked.i32Sub_ok (a := extent) (b := 1)
      (by rw [Int32.toInt_one]; omega) (by rw [Int32.toInt_one]; omega)
    have hclamped : Checked.i32Clamp value origin (origin.saturatingAdd (extent - 1)) =
        .ok (clampedTo value origin extent) :=
      Checked.i32Clamp_ok hordered
    have hdistance := Checked.i32Sub_ok (a := clampedTo value origin extent) (b := origin)
      (by rw [toInt_clampedTo h]; omega) (by rw [toInt_clampedTo h]; omega)
    have hfactor : (65535 : Int64).toInt = 65535 := rfl
    have hproduct := Checked.i64Mul_ok
      (a := (clampedTo value origin extent - origin).toInt64) (b := 65535)
      (by rw [Int32.toInt_toInt64, toInt_distance h, hfactor]; omega)
      (by rw [Int32.toInt_toInt64, toInt_distance h, hfactor]; omega)
    have hdivisor : (extent - 1).toInt64.toInt = extent.toInt - 1 := by
      rw [Int32.toInt_toInt64, toInt_span h]
    have hzero : (extent - 1).toInt64 ≠ 0 := by
      intro heq
      rw [heq, Int64.toInt_zero] at hdivisor
      omega
    have hneg : (extent - 1).toInt64 ≠ -1 := by
      intro heq
      rw [heq] at hdivisor
      change (-1 : Int) = _ at hdivisor
      omega
    rw [normalizeChecked, if_neg (Int32.not_le.mpr h), hspan, Checked.bind_ok]
    dsimp only
    rw [hclamped, Checked.bind_ok, hdistance, Checked.bind_ok, hproduct, Checked.bind_ok,
      Checked.i64Div_ok hzero hneg, Checked.bind_ok, normalize, if_neg (Int32.not_le.mpr h)]
    rfl
  · have hle : extent ≤ 1 := Int32.not_lt.mp h
    rw [normalizeChecked, if_pos hle, normalize, if_pos hle]
    rfl

/-- **The range.** A normalized coordinate is one of 0 to 65535, whatever the arguments. -/
theorem normalize_range (value origin extent : Int32) :
    0 ≤ (normalize value origin extent).toInt ∧
      (normalize value origin extent).toInt ≤ 65535 := by
  by_cases h : 1 < extent
  · obtain ⟨hlow, hhigh⟩ := alongAxis_range value origin h
    have hpos := one_lt_toInt h
    rw [normalize_toInt h]
    exact ⟨scaled_nonneg (by omega) (by omega) hlow, scaled_le (by omega) (by omega) hhigh⟩
  · rw [normalize, if_pos (Int32.not_lt.mp h)]
    decide

/-- **The order.** A value further along the axis is not normalized to less. -/
theorem normalize_mono {v w : Int32} (h : 1 < extent) (hvw : v ≤ w) :
    normalize v origin extent ≤ normalize w origin extent := by
  have hpos := one_lt_toInt h
  have hle := Int32.le_iff_toInt_le.mp hvw
  rw [Int32.le_iff_toInt_le, normalize_toInt h, normalize_toInt h]
  apply scaled_mono (by omega) (by omega)
  rw [alongAxis, alongAxis]
  omega

/-- Up to the first pixel everything is the start of the range. -/
theorem normalize_first (h : 1 < extent) (hvalue : value.toInt ≤ origin.toInt) :
    (normalize value origin extent).toInt = 0 := by
  have hpos := one_lt_toInt h
  have htop := origin.toInt_lt
  have hzero : alongAxis value origin extent = 0 := by
    rw [alongAxis, lastPixel]
    omega
  rw [normalize_toInt h, hzero, scaled_zero]

/-- From the last pixel on everything is the end of the range. -/
theorem normalize_last (h : 1 < extent) (hfits : origin.toInt + extent.toInt - 1 < 2 ^ 31)
    (hvalue : origin.toInt + extent.toInt - 1 ≤ value.toInt) :
    (normalize value origin extent).toInt = 65535 := by
  have hpos := one_lt_toInt h
  have hspan : alongAxis value origin extent = extent.toInt - 1 := by
    rw [alongAxis, lastPixel]
    omega
  rw [normalize_toInt h, hspan, scaled_span (by omega)]

/-- A short axis keeps its pixels apart. -/
theorem normalize_lt {v w : Int32} (h : 1 < extent)
    (hfits : origin.toInt + extent.toInt - 1 < 2 ^ 31) (hshort : extent.toInt ≤ 65536)
    (hv : origin.toInt ≤ v.toInt) (hvw : v.toInt < w.toInt)
    (hw : w.toInt ≤ origin.toInt + extent.toInt - 1) :
    (normalize v origin extent).toInt < (normalize w origin extent).toInt := by
  rw [normalize_toInt h, normalize_toInt h]
  apply scaled_lt (by omega) (by omega)
  rw [alongAxis, alongAxis, lastPixel]
  omega

end Axis

/-- **Pointer coordinates.**  `normalize` neither overflows nor panics and stays within the
range.  On an axis of at least two pixels that fits its type it is monotone, takes what is up to
the first pixel to 0 and what is from the last one on to 65535, and keeps the pixels apart if
there are no more than 65536. -/
theorem normalize_axis (origin extent : Int32) :
    (∀ value, normalizeChecked value origin extent = .ok (normalize value origin extent) ∧
      0 ≤ (normalize value origin extent).toInt ∧
      (normalize value origin extent).toInt ≤ 65535) ∧
    (2 ≤ extent.toInt → origin.toInt + extent.toInt - 1 < 2 ^ 31 →
      (∀ v w, v ≤ w → normalize v origin extent ≤ normalize w origin extent) ∧
      (∀ v, v.toInt ≤ origin.toInt → (normalize v origin extent).toInt = 0) ∧
      (∀ v, origin.toInt + extent.toInt - 1 ≤ v.toInt →
        (normalize v origin extent).toInt = 65535) ∧
      (extent.toInt ≤ 65536 → ∀ v w,
        origin.toInt ≤ v.toInt → v.toInt ≤ origin.toInt + extent.toInt - 1 →
        origin.toInt ≤ w.toInt → w.toInt ≤ origin.toInt + extent.toInt - 1 →
        normalize v origin extent = normalize w origin extent → v = w)) := by
  constructor
  · intro value
    exact ⟨normalizeChecked_eq value origin extent, normalize_range value origin extent⟩
  · intro htwo hfits
    have h : 1 < extent := by
      rw [Int32.lt_iff_toInt_lt, Int32.toInt_one]
      omega
    refine ⟨fun v w => normalize_mono h, fun v => normalize_first h,
      fun v => normalize_last h hfits, ?_⟩
    intro hshort v w hv hv' hw hw' heq
    have hsame := congrArg Int32.toInt heq
    apply Int32.toInt_inj.mp
    rcases Int.lt_trichotomy v.toInt w.toInt with hlt | hvw | hlt
    · have := normalize_lt h hfits hshort hv hlt hw'
      omega
    · exact hvw
    · have := normalize_lt h hfits hshort hw hlt hv'
      omega

end Oxrdp
