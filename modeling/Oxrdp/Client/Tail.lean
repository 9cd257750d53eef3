import Oxrdp.Client.Monitor
import Oxrdp.Lib.Grouping
import Oxrdp.Proto.Samples

/-!
# The tail over time

`localise_tail` of `latency.rs`: the frames that were finished last are put into buckets of
time, so that a report shows whether the slow ones came at one moment.  The buckets are those of
a grid that begins at zero.  Their width is chosen from the time between the first and the last
frame, so that a table has few rows.

The text of a report is left out, and so are the names of the slowest frames, which are sorted
by an unstable sort; the numbers are here.
-/

namespace Oxrdp

/-- Which percentile counts as the tail. -/
def outlierPercentile : UInt8 := 95

/-- Frames needed before the tail is localised at all. -/
def minLocaliseFrames : Nat := 40

/-- Bucket widths, finest first. -/
def tailBucketsUs : List Nat :=
  [1000000, 2000000, 5000000, 10000000, 30000000, 60000000, 300000000]

/-- Most rows the table may have. -/
def maxTailRows : Nat := 16

/-- The widest of the widths. -/
def widestTailBucketUs : Nat := 300000000

/-- A percentile of some values, through a window of just their number. -/
def samplePercentile (values : List UInt64) (p : UInt8) : Checked (Option UInt64) :=
  (Samples.pushed values.length values).percentile p

def WidthFits (spanUs width : Nat) : Prop := spanUs / width < maxTailRows

instance (spanUs width : Nat) : Decidable (WidthFits spanUs width) :=
  inferInstanceAs (Decidable (_ < _))

def tailBucketUs (spanUs : Nat) : Nat :=
  (tailBucketsUs.find? fun width => decide (WidthFits spanUs width)).getD widestTailBucketUs

namespace Completed

def presentedNat (record : Completed) : Nat := record.presentedUs.toNat

end Completed

/-! ## The buckets -/

namespace Timeline

variable (timeline : List Completed)

/-- When the first frame was presented; zero if there is none. -/
def earliestUs : Nat := ((timeline.map Completed.presentedNat).min?).getD 0

def latestUs : Nat := ((timeline.map Completed.presentedNat).max?).getD 0

def spanUs : Nat := latestUs timeline - earliestUs timeline

/-- The cell of the grid that a frame falls into. -/
def cell (width : Nat) (record : Completed) : Nat := record.presentedNat / width

/-- The buckets of a width. -/
def buckets (width : Nat) : List (Nat × List Completed) := Grouping.rows (cell width) timeline

/-- The width of the buckets of a report. -/
def bucketUs : Nat := tailBucketUs (spanUs timeline)

end Timeline

/-! ## The report -/

/-- One row of the table. -/
structure TailLine where
  second : Nat
  frames : Nat
  outliers : Nat
  encodeToArrivalP50 : Option UInt64
  encodeToArrivalMax : Option UInt64
  captureToEncodeP50 : Option UInt64
  arrivalToDecodeP50 : Option UInt64
  decodeToPresentP50 : Option UInt64
  totalP50 : Option UInt64
  deriving DecidableEq, Repr

/-- What the slow frames were, or the others. -/
structure TailGroup where
  count : Nat
  medianBytes : Option UInt64
  keyframes : Nat
  encodeGapP50 : Option UInt64
  arrivalGapP50 : Option UInt64
  deriving DecidableEq, Repr

structure TailReport where
  frames : Nat
  bucketCount : Nat
  bucketS : Nat
  threshold : UInt64
  evicted : Nat
  lines : List TailLine
  outliers : Nat
  /-- The buckets with an outlier. -/
  hit : Nat
  /-- The most outliers of a bucket. -/
  heaviest : Nat
  out : TailGroup
  rest : TailGroup
  deriving DecidableEq, Repr

def isOutlier (threshold : UInt64) (record : Completed) : Bool :=
  decide (threshold < record.encodeToArrivalUs)

/-- A percentile of one stage. -/
def stage (records : List Completed) (pick : Completed → UInt64) (p : UInt8) :
    Checked (Option UInt64) :=
  samplePercentile (records.map pick) p

/-- A bucket, its frames and how many of them are outliers. -/
def tailLine (bucketUs : Nat) (counted : Nat × List Completed × Nat) : Checked TailLine := do
  let (bucket, records, outliers) := counted
  let encodeToArrivalP50 ← stage records Completed.encodeToArrivalUs 50
  let encodeToArrivalMax ← stage records Completed.encodeToArrivalUs 100
  let captureToEncodeP50 ← stage records Completed.captureToEncodeUs 50
  let arrivalToDecodeP50 ← stage records Completed.arrivalToDecodeUs 50
  let decodeToPresentP50 ← stage records Completed.decodeToPresentUs 50
  let totalP50 ← stage records Completed.totalUs 50
  pure
    { second := bucket * bucketUs / 1000000
      frames := records.length
      outliers
      encodeToArrivalP50
      encodeToArrivalMax
      captureToEncodeP50
      arrivalToDecodeP50
      decodeToPresentP50
      totalP50 }

def tailGroup (group : List Completed) : Checked TailGroup := do
  let medianBytes ← samplePercentile (group.map fun c => UInt64.ofNat c.bytes) 50
  let encodeGapP50 ← samplePercentile (group.filterMap Completed.encodeGapUs) 50
  let arrivalGapP50 ← samplePercentile (group.filterMap Completed.arrivalGapUs) 50
  pure
    { count := group.length
      medianBytes
      keyframes := group.countP Completed.keyframe
      encodeGapP50
      arrivalGapP50 }

namespace LatencyMonitor

/-- Localise the tail, if there are enough frames. -/
def localiseTail (m : LatencyMonitor) : Checked (Option TailReport) :=
  if m.timeline.length < minLocaliseFrames then pure none
  else do
    let threshold ← stage m.timeline Completed.encodeToArrivalUs outlierPercentile
    match threshold with
    | none => pure none
    | some threshold => do
        let bucketUs := Timeline.bucketUs m.timeline
        let counted := (Timeline.buckets m.timeline bucketUs).map fun row =>
          (row.1, row.2, row.2.countP (isOutlier threshold))
        let lines ← counted.mapM (tailLine bucketUs)
        let out ← tailGroup (m.timeline.filter (isOutlier threshold))
        let rest ← tailGroup (m.timeline.filter fun c => ¬isOutlier threshold c)
        pure (some
          { frames := m.timeline.length
            bucketCount := counted.length
            bucketS := bucketUs / 1000000
            threshold
            evicted := m.timelineEvicted
            lines
            outliers := (m.timeline.filter (isOutlier threshold)).length
            hit := counted.countP fun row => 0 < row.2.2
            heaviest := ((counted.map fun row => row.2.2).max?).getD 0
            out
            rest })

end LatencyMonitor

/-! ## The report is made -/

theorem samplePercentile_ok (values : List UInt64) (p : UInt8) :
    samplePercentile values p = .ok (Rank.percentile Samples.le (min p.toNat 100) values) := by
  have hall : values.rtake (Samples.pushed values.length values).capacity = values := by
    rw [Samples.pushed_capacity]
    exact RingBuffer.rtake_of_length_le (Nat.le_max_left _ _)
  rw [samplePercentile, (Samples.pushed_holds _ _).percentile_ok, hall]

/-- The line of a bucket counts its frames and its outliers. -/
theorem tailLine_ok (bucketUs : Nat) (counted : Nat × List Completed × Nat) :
    ∃ line, tailLine bucketUs counted = .ok line ∧ line.frames = counted.2.1.length ∧
      line.outliers = counted.2.2 := by
  obtain ⟨bucket, records, outliers⟩ := counted
  unfold tailLine stage
  simp only [samplePercentile_ok, Checked.bind_ok]
  exact ⟨_, rfl, rfl, rfl⟩

theorem tailGroup_ok (group : List Completed) : ∃ counts, tailGroup group = .ok counts := by
  unfold tailGroup
  simp only [samplePercentile_ok, Checked.bind_ok]
  exact ⟨_, rfl⟩

/-- All lines, one for each bucket. -/
theorem tailLines_ok (bucketUs : Nat) (counted : List (Nat × List Completed × Nat)) :
    ∃ lines, counted.mapM (tailLine bucketUs) = .ok lines ∧ lines.length = counted.length ∧
      lines.map TailLine.frames = counted.map (fun row => row.2.1.length) ∧
      lines.map TailLine.outliers = counted.map (fun row => row.2.2) := by
  induction counted with
  | nil => exact ⟨[], rfl, rfl, rfl, rfl⟩
  | cons row counted ih =>
      obtain ⟨line, hline, hframes, houtliers⟩ := tailLine_ok bucketUs row
      obtain ⟨lines, hlines, hlen, hallFrames, hallOutliers⟩ := ih
      refine ⟨line :: lines, ?_, ?_, ?_, ?_⟩
      · rw [List.mapM_cons, hline, hlines]
        rfl
      · rw [List.length_cons, List.length_cons, hlen]
      · rw [List.map_cons, List.map_cons, hframes, hallFrames]
      · rw [List.map_cons, List.map_cons, houtliers, hallOutliers]

/-- **A report has a line for every bucket.**  The lines count every frame once, and as many
outliers as the summary. -/
theorem LatencyMonitor.localiseTail_report (m : LatencyMonitor)
    (h : minLocaliseFrames ≤ m.timeline.length) :
    ∃ report, m.localiseTail = .ok (some report) ∧
      report.lines.length = (Timeline.buckets m.timeline (Timeline.bucketUs m.timeline)).length ∧
      (report.lines.map TailLine.frames).sum = m.timeline.length ∧
      (report.lines.map TailLine.outliers).sum = report.outliers := by
  have hne : m.timeline.map Completed.encodeToArrivalUs ≠ [] := by
    intro hnil
    rw [List.map_eq_nil_iff.mp hnil] at h
    exact absurd h (by decide)
  obtain ⟨threshold, hthreshold, -⟩ := Rank.percentile_spec Samples.le_trans Samples.le_total
    (Nat.min_le_right outlierPercentile.toNat 100) hne
  have hgrouped := Grouping.rows_grouped
    (Timeline.cell (Timeline.bucketUs m.timeline)) m.timeline
  obtain ⟨lines, hlines, hlen, hframes, houtliers⟩ := tailLines_ok (Timeline.bucketUs m.timeline)
    ((Timeline.buckets m.timeline (Timeline.bucketUs m.timeline)).map fun row =>
      (row.1, row.2, row.2.countP (isOutlier threshold)))
  obtain ⟨out, hout⟩ := tailGroup_ok (m.timeline.filter (isOutlier threshold))
  obtain ⟨rest, hrest⟩ := tailGroup_ok (m.timeline.filter fun c => ¬isOutlier threshold c)
  unfold LatencyMonitor.localiseTail stage
  rw [if_neg (Nat.not_lt.mpr h), samplePercentile_ok, hthreshold, Checked.bind_ok]
  dsimp only
  rw [hlines, Checked.bind_ok, hout, Checked.bind_ok, hrest, Checked.bind_ok]
  refine ⟨_, rfl, ?_, ?_, ?_⟩
  · rw [hlen, List.length_map]
  · rw [hframes, List.map_map, ← hgrouped.elements.length_eq, List.length_flatMap]
    rfl
  · rw [houtliers, List.map_map, ← List.countP_eq_length_filter, ← hgrouped.countP_rows]
    rfl

/-! ## The choice of the width -/

section Width

variable {spanUs width : Nat}

/-- The finest width that fits is chosen. -/
theorem tailBucketUs_spec (h : spanUs < maxTailRows * widestTailBucketUs) :
    tailBucketUs spanUs ∈ tailBucketsUs ∧ WidthFits spanUs (tailBucketUs spanUs) ∧
      ∀ width ∈ tailBucketsUs, width < tailBucketUs spanUs → ¬ WidthFits spanUs width := by
  have hwidest : WidthFits spanUs widestTailBucketUs :=
    (Nat.div_lt_iff_lt_mul (by decide)).mpr h
  have hsome : (tailBucketsUs.find? fun width => decide (WidthFits spanUs width)).isSome = true :=
    List.find?_isSome.mpr ⟨widestTailBucketUs, by decide, decide_eq_true hwidest⟩
  obtain ⟨chosen, hchosen⟩ := Option.isSome_iff_exists.mp hsome
  have hvalue : tailBucketUs spanUs = chosen := by rw [tailBucketUs, hchosen, Option.getD_some]
  obtain ⟨hfits, before, after, hsplit, hbefore⟩ := List.find?_eq_some_iff_append.mp hchosen
  have hsorted : tailBucketsUs.Pairwise (· < ·) := by decide
  rw [hvalue]
  refine ⟨List.mem_of_find?_eq_some hchosen, of_decide_eq_true hfits, fun width hmem hlt => ?_⟩
  rw [hsplit] at hmem hsorted
  rcases List.mem_append.mp hmem with hmem | hmem
  · simpa using hbefore width hmem
  · -- what stands behind the chosen width is wider
    obtain ⟨hwider, -⟩ := List.pairwise_cons.mp (List.pairwise_append.mp hsorted).2.1
    rcases List.mem_cons.mp hmem with rfl | hmem
    · exact absurd hlt (Nat.lt_irrefl _)
    · exact absurd hlt (Nat.lt_asymm (hwider width hmem))

/-- Ten seconds, twenty, five minutes, and more than any width is good for. -/
example : [10000000, 20000000, 300000000, 2 ^ 64 - 1].map tailBucketUs =
    [1000000, 2000000, 30000000, 300000000] := by
  decide

theorem pos_of_mem_tailBucketsUs (h : width ∈ tailBucketsUs) : 0 < width := by
  have hall : ∀ width ∈ tailBucketsUs, 0 < width := by decide
  exact hall width h

/-- The finest width that fits is the one that is chosen. -/
theorem eq_tailBucketUs (h : spanUs < maxTailRows * widestTailBucketUs)
    (hmem : width ∈ tailBucketsUs) (hfits : WidthFits spanUs width)
    (hfinest : ∀ finer ∈ tailBucketsUs, finer < width → ¬ WidthFits spanUs finer) :
    width = tailBucketUs spanUs := by
  obtain ⟨hlisted, hchosen, hfiner⟩ := tailBucketUs_spec h
  rcases Nat.lt_trichotomy width (tailBucketUs spanUs) with hlt | heq | hlt
  · exact absurd hfits (hfiner width hmem hlt)
  · exact heq
  · exact absurd hchosen (hfinest _ hlisted hlt)

end Width

/-! ## How many rows there are -/

namespace Timeline

variable (timeline : List Completed)

/-- The cells between the first and the last frame that no frame falls into. -/
def idle (width : Nat) : Nat :=
  Grouping.idle (cell width) timeline (earliestUs timeline / width) (latestUs timeline / width)

theorem presented_range {timeline : List Completed} {record : Completed} (h : record ∈ timeline) :
    earliestUs timeline ≤ record.presentedNat ∧ record.presentedNat ≤ latestUs timeline :=
  have hmem := List.mem_map_of_mem h
  ⟨List.min?_getD_le_of_mem hmem, List.le_max?_getD_of_mem hmem⟩

/-- **Rows and idle cells** are the cells that the timeline goes through. -/
theorem rows_add_idle (width : Nat) :
    (buckets timeline width).length + idle timeline width =
      latestUs timeline / width - earliestUs timeline / width + 1 := by
  refine Grouping.length_add_idle (Grouping.rows_grouped _ _) fun record hrecord => ?_
  obtain ⟨hlow, hhigh⟩ := presented_range hrecord
  exact ⟨Nat.div_le_div_right hlow, Nat.div_le_div_right hhigh⟩

theorem bucketUs_spec (h : spanUs timeline < maxTailRows * widestTailBucketUs) :
    bucketUs timeline ∈ tailBucketsUs ∧ WidthFits (spanUs timeline) (bucketUs timeline) ∧
      ∀ width ∈ tailBucketsUs, width < bucketUs timeline → ¬ WidthFits (spanUs timeline) width :=
  tailBucketUs_spec h

/-- A grid may cut the time between the first and the last frame once more than it is long. -/
theorem cells_of_span {width : Nat} (hpos : 0 < width) :
    spanUs timeline / width ≤ latestUs timeline / width - earliestUs timeline / width ∧
      latestUs timeline / width - earliestUs timeline / width ≤ spanUs timeline / width + 1 := by
  unfold spanUs
  rcases Nat.le_total (latestUs timeline) (earliestUs timeline) with hle | hle
  · have hdiv := Nat.div_le_div_right (c := width) hle
    rw [Nat.sub_eq_zero_of_le hle, Nat.sub_eq_zero_of_le hdiv, Nat.zero_div]
    omega
  · obtain ⟨s, hs⟩ := Nat.exists_eq_add_of_le hle
    rw [hs, Nat.add_sub_cancel_left, Nat.add_div hpos]
    generalize s / width = q
    generalize earliestUs timeline / width = first
    split <;> omega

/-! ## What the table is to be -/

/-- The table has few enough rows, every frame is in exactly one of them, and no finer width
would have done. -/
structure Localised (timeline : List Completed) : Prop where
  rows : (buckets timeline (bucketUs timeline)).length ≤ maxTailRows
  once : ((buckets timeline (bucketUs timeline)).flatMap Prod.snd).Perm timeline ∧
    ∀ record ∈ timeline,
      ∃! row, row ∈ buckets timeline (bucketUs timeline) ∧ record ∈ row.2
  listed : bucketUs timeline ∈ tailBucketsUs
  finest : ∀ width ∈ tailBucketsUs, width < bucketUs timeline →
    maxTailRows < (buckets timeline width).length

/-- At the finest width whose cells the time from the first frame to the last is shorter than
sixteen of, one of the seventeen cells from that of the first frame on has no frame in it. -/
def Spared (timeline : List Completed) : Prop :=
  ∀ width ∈ tailBucketsUs, WidthFits (spanUs timeline) width →
    (∀ finer ∈ tailBucketsUs, finer < width → ¬ WidthFits (spanUs timeline) finer) →
      ∃ k ≤ maxTailRows, ∀ record ∈ timeline,
        cell width record ≠ earliestUs timeline / width + k

/-- At the widths that are too fine for that, frames go on for seventeen cells without a
pause. -/
def Sustained (timeline : List Completed) : Prop :=
  ∀ width ∈ tailBucketsUs, ¬ WidthFits (spanUs timeline) width →
    ∃ first, ∀ k ≤ maxTailRows, ∃ record ∈ timeline, cell width record = first + k

/-- Every frame is in exactly one row. -/
theorem once (width : Nat) :
    ((buckets timeline width).flatMap Prod.snd).Perm timeline ∧
      ∀ record ∈ timeline, ∃! row, row ∈ buckets timeline width ∧ record ∈ row.2 :=
  have hgrouped := Grouping.rows_grouped (cell width) timeline
  ⟨hgrouped.elements, fun _ hrecord => hgrouped.exactly_one hrecord⟩

/-- The first frame is not behind the last. -/
theorem earliest_le_latest : earliestUs timeline ≤ latestUs timeline := by
  cases timeline with
  | nil => exact Nat.le_refl 0
  | cons record rest =>
      obtain ⟨hlow, hhigh⟩ := presented_range (List.mem_cons_self (a := record) (l := rest))
      exact hlow.trans hhigh

/-- Where the time from the first frame to the last is shorter than sixteen cells, there are too
many rows exactly if the grid cuts it into seventeen and none of them is empty. -/
theorem rows_le_iff {width : Nat} (hpos : 0 < width) (hfits : WidthFits (spanUs timeline) width) :
    (buckets timeline width).length ≤ maxTailRows ↔
      ∃ k ≤ maxTailRows, ∀ record ∈ timeline,
        cell width record ≠ earliestUs timeline / width + k := by
  have hrows := rows_add_idle timeline width
  have hcells := (cells_of_span timeline hpos).2
  have hfew : spanUs timeline / width < maxTailRows := hfits
  have hle : earliestUs timeline / width ≤ latestUs timeline / width :=
    Nat.div_le_div_right (earliest_le_latest timeline)
  generalize spanUs timeline / width = span at hcells hfew
  constructor
  · intro hrowsLe
    by_cases hlast : latestUs timeline / width < earliestUs timeline / width + maxTailRows
    · -- the grid cuts the time into sixteen cells at most, so the next one is empty
      refine ⟨maxTailRows, Nat.le_refl _, fun record hrecord => ?_⟩
      have hhigh : cell width record ≤ latestUs timeline / width :=
        Nat.div_le_div_right (presented_range hrecord).2
      omega
    · have hidle : idle timeline width ≠ 0 := by omega
      rw [idle, Ne, Grouping.idle_eq_zero_iff hle] at hidle
      push Not at hidle
      obtain ⟨k, hlow, hhigh, hnone⟩ := hidle
      refine ⟨k - earliestUs timeline / width, by omega, fun record hrecord => ?_⟩
      rw [Nat.add_sub_cancel' hlow]
      exact hnone record hrecord
  · rintro ⟨k, hk, hnone⟩
    by_cases hlast : latestUs timeline / width < earliestUs timeline / width + maxTailRows
    · omega
    · have hidle : idle timeline width ≠ 0 := by
        rw [idle, Ne, Grouping.idle_eq_zero_iff hle]
        intro hall
        obtain ⟨record, hrecord, hcell⟩ :=
          hall (earliestUs timeline / width + k) (by omega) (by omega)
        exact hnone record hrecord hcell
      omega

/-- Where frames go on for seventeen cells, there are as many rows. -/
theorem rows_of_sustained {width first : Nat}
    (hall : ∀ k ≤ maxTailRows, ∃ record ∈ timeline, cell width record = first + k) :
    maxTailRows < (buckets timeline width).length := by
  have hle := (Grouping.rows_grouped (cell width) timeline).length_le
    (List.nodup_range' (s := first) (n := maxTailRows + 1)) fun k hk => by
      obtain ⟨hlow, hhigh⟩ := List.mem_range'_1.mp hk
      obtain ⟨record, hrecord, hcell⟩ := hall (k - first) (by omega)
      exact ⟨record, hrecord, by omega⟩
  rwa [List.length_range'] at hle

/-- **When the table is as it is to be.**  The grid has to spare one of the seventeen cells; that
is enough where the frames go on for long enough without a pause. -/
theorem localised_of_spared (h : spanUs timeline < maxTailRows * widestTailBucketUs) :
    (Localised timeline → Spared timeline) ∧
      (Sustained timeline → Spared timeline → Localised timeline) := by
  obtain ⟨hlisted, hfits, hfiner⟩ := bucketUs_spec timeline h
  have hpos := pos_of_mem_tailBucketsUs hlisted
  constructor
  · intro hlocal width hmem hwidth hfinest
    have hsame : width = bucketUs timeline := eq_tailBucketUs h hmem hwidth hfinest
    rw [hsame]
    exact (rows_le_iff timeline hpos hfits).mp hlocal.rows
  · intro hsustained hspared
    refine ⟨?_, once timeline _, hlisted, fun width hmem hlt => ?_⟩
    · exact (rows_le_iff timeline hpos hfits).mpr
        (hspared (bucketUs timeline) hlisted hfits hfiner)
    · obtain ⟨first, hall⟩ := hsustained width hmem (hfiner width hmem hlt)
      exact rows_of_sustained timeline hall

/-- Frames that are presented from `start` on, one every `gap` microseconds. -/
def steady (count start gap : Nat) : List Completed :=
  (List.range count).map fun n =>
    { windowId := 1
      frameId := UInt64.ofNat n
      presentedUs := UInt64.ofNat (start + n * gap)
      captureToEncodeUs := 4000
      encodeToArrivalUs := 1000
      arrivalToDecodeUs := 2000
      decodeToPresentUs := 3000
      totalUs := 10000
      bytes := 5000
      keyframe := false
      encodeGapUs := some (UInt64.ofNat gap)
      arrivalGapUs := some (UInt64.ofNat gap) }

/-- Frames for 19.6 s, one every 0.4 s: seconds are too fine for their table, and in the cells of
two seconds it is as it is to be. -/
theorem localised_of_spared_twenty_seconds : Localised (steady 50 0 400000) := by
  have hspan : spanUs (steady 50 0 400000) < maxTailRows * widestTailBucketUs := by
    decide +kernel
  have hsustained : Sustained (steady 50 0 400000) := by
    have hlong : ∀ width ∈ tailBucketsUs, ¬ WidthFits (spanUs (steady 50 0 400000)) width →
        width = 1000000 := by decide +kernel
    have hall : ∀ k ≤ maxTailRows, ∃ record ∈ steady 50 0 400000,
        cell 1000000 record = 0 + k := by decide +kernel
    intro width hmem hwidth
    rw [hlong width hmem hwidth]
    exact ⟨0, hall⟩
  have hspared : Spared (steady 50 0 400000) := by
    intro width hmem hwidth _
    have hnone : ∀ width ∈ tailBucketsUs, 1000000 < width → ∀ record ∈ steady 50 0 400000,
        cell width record ≠ earliestUs (steady 50 0 400000) / width + maxTailRows := by
      decide +kernel
    have hfew : ¬ WidthFits (spanUs (steady 50 0 400000)) 1000000 := by decide +kernel
    have hwider : 1000000 < width := by
      by_contra hle
      have hlisted : ∀ width ∈ tailBucketsUs, ¬ 1000000 < width → width = 1000000 := by decide
      rw [hlisted width hmem hle] at hwidth
      exact hfew hwidth
    exact ⟨maxTailRows, Nat.le_refl _, hnone width hmem hwider⟩
  exact (localised_of_spared _ hspan).2 hsustained hspared

/-- Its report has ten lines. -/
theorem localiseTail_report_twenty_seconds :
    ∃ report, { LatencyMonitor.withRecording true with
          timeline := steady 50 0 400000 }.localiseTail = .ok (some report) ∧
      report.lines.length = 10 ∧ (report.lines.map TailLine.frames).sum = 50 ∧
      (report.lines.map TailLine.outliers).sum = report.outliers := by
  obtain ⟨report, hreport, hlines, hframes, houtliers⟩ :=
    LatencyMonitor.localiseTail_report
      { LatencyMonitor.withRecording true with timeline := steady 50 0 400000 } (by decide +kernel)
  have hten : (buckets (steady 50 0 400000) (bucketUs (steady 50 0 400000))).length = 10 := by
    decide +kernel
  have hfifty : (steady 50 0 400000).length = 50 := by decide +kernel
  exact ⟨report, hreport, hlines.trans hten, hframes.trans hfifty, houtliers⟩

/-- A span of 15.6 s that begins in the middle of a second goes through 17 seconds. -/
theorem seventeen_rows :
    ¬ ∀ timeline, spanUs timeline < maxTailRows * widestTailBucketUs → Localised timeline := by
  intro h
  have hrows := (h (steady 40 500000 400000) (by decide +kernel)).rows
  exact absurd hrows (by decide +kernel)

end Timeline

end Oxrdp
