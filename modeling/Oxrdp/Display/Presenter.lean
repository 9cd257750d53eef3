import Oxrdp.Client.Loop
import Oxrdp.Lib.Blit
import Oxrdp.Lib.Run

/-!
# The presenter that copies pixels

`presenter.rs`: frames of raw BGRA are copied row by row into the pixel buffer of a native
window, clipped to the window or surrounded by zeros where the sizes differ.  The copy is of
raw memory; that it stays inside rests on the length of a payload, which is checked once when
the frame is presented and relied upon whenever the frame is shown again, and on the size that
the window's surface has been given.

What the window system answers is part of each call, with the buffer as it is found: as many
pixels as the surface was last resized to, of any content.  A pixel is four bytes.
-/

namespace Oxrdp

namespace Presenter

open Blit

/-- A surface of the window system, at the size that it has accepted. -/
structure Surface where
  width : UInt32
  height : UInt32
  deriving DecidableEq, Repr

/-- The bytes of the buffer that a surface hands out. -/
def Surface.bytes (s : Surface) (stale : Nat → UInt8) : List UInt8 :=
  (List.range (s.width.toNat * s.height.toNat * 4)).map stale

/-- A frame that is kept, and the bytes that its allocation holds. -/
structure CachedFrame extends FrameData where
  capacity : Nat

/-- `CachedFrame::from`. -/
def CachedFrame.of (frame : FrameData) : CachedFrame :=
  { frame with capacity := frame.data.length }

/-- The allocation stays. -/
def CachedFrame.replaceFrom (cached : CachedFrame) (frame : FrameData) : CachedFrame :=
  { frame with capacity := cached.capacity }

structure CpuWindow where
  surface : Surface
  width : UInt32
  height : UInt32
  lastFrame : Option CachedFrame

def CpuWindow.cacheFrame (w : CpuWindow) (frame : FrameData) : CpuWindow :=
  match w.lastFrame with
  | some cached =>
      if frame.data.length ≤ cached.capacity then
        { w with lastFrame := some (cached.replaceFrom frame) }
      else { w with lastFrame := some (.of frame) }
  | none => { w with lastFrame := some (.of frame) }

structure CpuPresenter where
  windows : Table UInt32 CpuWindow

/-- What the window system answers while pixels are shown: the buffer, or why there is none,
and whether its pixels could be put on the screen. -/
structure BlitAnswers where
  buffer : Except String (Nat → UInt8)
  presented : Except String Unit

/-- What becomes of an attempt to show pixels: what was written, and the result. -/
structure Shown (α : Type) where
  written : Option (List UInt8)
  result : Except PresentError α

/-- `nonzero`. -/
def nonzero (value : UInt32) : UInt32 := max value 1

/-- `usize::MAX`. -/
def usizeMax : Nat := 2 ^ 64 - 1

def checkedMul (a b : Nat) : Option Nat := if a * b ≤ usizeMax then some (a * b) else none

def frameLen (width height : UInt16) : Option Nat := do
  let pixels ← checkedMul width.toNat height.toNat
  checkedMul pixels 4

/-- The pixels of a frame over those of a window. -/
def blitRows (buffer : List UInt8) (windowWidth windowHeight frameWidth frameHeight : UInt32)
    (frameData : List UInt8) : Checked (List UInt8) := do
  let copyWidth := min windowWidth frameWidth
  let copyHeight := min windowHeight frameHeight
  let buffer :=
    if windowWidth ≠ frameWidth ∨ windowHeight ≠ frameHeight then
      List.replicate buffer.length 0
    else buffer
  let dstStride ← Checked.usize (windowWidth.toNat * 4)
  let srcStride ← Checked.usize (frameWidth.toNat * 4)
  let rowBytes ← Checked.usize (copyWidth.toNat * 4)
  (List.range copyHeight.toNat).foldlM (copyRow frameData srcStride dstStride rowBytes) buffer

def blitPixels (surface : Surface) (windowWidth windowHeight frameWidth frameHeight : UInt32)
    (frameData : List UInt8) (answers : BlitAnswers) : Checked (Shown Unit) :=
  match answers.buffer with
  | .error e => .ok ⟨none, .error (.platform e)⟩
  | .ok stale => do
      let buffer ← blitRows (surface.bytes stale) windowWidth windowHeight frameWidth frameHeight
        frameData
      match answers.presented with
      | .error e => pure ⟨some buffer, .error (.platform e)⟩
      | .ok () => pure ⟨some buffer, .ok ()⟩

def blit (w : CpuWindow) (frame : FrameData) (answers : BlitAnswers) : Checked (Shown Unit) :=
  blitPixels w.surface w.width w.height frame.width.toUInt32 frame.height.toUInt32 frame.data
    answers

namespace CpuPresenter

/-- What the window system answers while a surface is made. -/
structure AttachAnswers where
  created : Except String Unit
  resized : Except String Unit

def attach (p : CpuPresenter) (id : UInt32) (width height : UInt32) (answers : AttachAnswers) :
    Except PresentError Unit × CpuPresenter :=
  match answers.created, answers.resized with
  | .error e, _ => (.error (.platform e), p)
  | .ok (), .error e => (.error (.platform e), p)
  | .ok (), .ok () =>
      (.ok (),
        { windows := p.windows.insert id
            ⟨⟨nonzero width, nonzero height⟩, nonzero width, nonzero height, none⟩ })

/-- A surface that refuses a size keeps the one it had. -/
def resize (p : CpuPresenter) (id : UInt32) (width height : UInt32)
    (resized : Except String Unit) : Except PresentError Unit × CpuPresenter :=
  match p.windows.lookup id, resized with
  | none, _ => (.error (.unknownWindow id), p)
  | some _, .error e => (.error (.platform e), p)
  | some w, .ok () =>
      (.ok (),
        { windows := p.windows.insert id
            { w with
              surface := ⟨nonzero width, nonzero height⟩
              width := nonzero width
              height := nonzero height } })

/-- `times` are the two readings of the clock. -/
def present (p : CpuPresenter) (id : UInt32) (frame : FrameData) (answers : BlitAnswers)
    (times : PresentTimes) : Checked (Shown PresentTimes × CpuPresenter) :=
  if frame.codec ≠ Codec.rawBgra then
    .ok (⟨none, .error (.unsupportedCodec frame.codec)⟩, p)
  else
    match frameLen frame.width frame.height with
    | none =>
        .ok (⟨none, .error (.droppedFrame frame.windowId usizeMax frame.data.length)⟩, p)
    | some expected =>
        if frame.data.length ≠ expected then
          .ok (⟨none, .error (.droppedFrame frame.windowId expected frame.data.length)⟩, p)
        else
          match p.windows.lookup id with
          | none => .ok (⟨none, .error (.unknownWindow id)⟩, p)
          | some w => do
              let shown ← blit w frame answers
              match shown.result with
              | .error e => pure (⟨shown.written, .error e⟩, p)
              | .ok () =>
                  pure (⟨shown.written, .ok times⟩,
                    { windows := p.windows.insert id (w.cacheFrame frame) })

def refresh (p : CpuPresenter) (id : UInt32) (answers : BlitAnswers) : Checked (Shown Unit) :=
  match p.windows.lookup id with
  | none => .ok ⟨none, .error (.unknownWindow id)⟩
  | some w =>
      match w.lastFrame with
      | none => .ok ⟨none, .ok ()⟩
      | some frame =>
          blitPixels w.surface w.width w.height frame.width.toUInt32 frame.height.toUInt32
            frame.data answers

def detach (p : CpuPresenter) (id : UInt32) : CpuPresenter :=
  { windows := p.windows.erase id }

end CpuPresenter

/-! ## What is shown -/

/-- The bytes of a window of the given size that shows a frame: the pixels of the frame where
both are, and zeros elsewhere. -/
def Exact (windowWidth windowHeight frameWidth frameHeight : Nat) (data buffer : List UInt8) :
    Prop :=
  buffer.length = windowWidth * windowHeight * 4 ∧
    ∀ x < windowWidth, ∀ y < windowHeight, ∀ k < 4,
      buffer[(y * windowWidth + x) * 4 + k]? =
        if x < frameWidth ∧ y < frameHeight then data[(y * frameWidth + x) * 4 + k]? else some 0

/-- The bytes of a surface are four for each pixel. -/
theorem length_bytes (s : Surface) (stale : Nat → UInt8) :
    (s.bytes stale).length = s.width.toNat * s.height.toNat * 4 := by
  rw [Surface.bytes, List.length_map, List.length_range]

/-- The smaller of two sizes does not depend on the width of the numbers. -/
theorem toNat_min (a b : UInt32) : (min a b).toNat = min a.toNat b.toNat := by
  rw [UInt32.min_def]
  split_ifs with h
  · rw [UInt32.le_iff_toNat_le] at h
    omega
  · rw [UInt32.le_iff_toNat_le] at h
    omega

/-- A place of a picture by its row and its byte in the row. -/
theorem place_eq (y width x k : Nat) : (y * width + x) * 4 + k = y * (width * 4) + (x * 4 + k) := by
  rw [Nat.add_mul, Nat.mul_assoc]
  omega

/-- Rows of a buffer come to less than its end. -/
theorem rows_le {rows height stride : Nat} (h : rows ≤ height) {length : Nat}
    (hlength : length = height * stride) : rows * stride ≤ length := by
  rw [hlength]
  exact Nat.mul_le_mul_right stride h

/-- The copy stays inside, and its result is exact. -/
theorem blitRows_exact {buffer data : List UInt8} {ww wh fw fh : UInt32}
    (hbuffer : buffer.length = ww.toNat * wh.toNat * 4) (hfh : fh.toNat < 2 ^ 16)
    (hdata : data.length = fw.toNat * fh.toNat * 4) :
    ∃ out, blitRows buffer ww wh fw fh data = .ok out ∧
      Exact ww.toNat wh.toNat fw.toNat fh.toNat data out := by
  have hww := ww.toNat_lt
  have hfw := fw.toNat_lt
  have hbufferRows : buffer.length = wh.toNat * (ww.toNat * 4) := by
    rw [hbuffer, Nat.mul_comm ww.toNat, Nat.mul_assoc]
  have hdataRows : data.length = fh.toNat * (fw.toNat * 4) := by
    rw [hdata, Nat.mul_comm fw.toNat, Nat.mul_assoc]
  generalize hstart : (if ww ≠ fw ∨ wh ≠ fh then List.replicate buffer.length 0 else buffer) =
    start
  have hstartLen : start.length = buffer.length := by
    rw [← hstart]
    split_ifs
    · exact List.length_replicate
    · rfl
  have hrows : (min wh fh).toNat = min wh.toNat fh.toNat := toNat_min wh fh
  have hcols : (min ww fw).toNat = min ww.toNat fw.toNat := toNat_min ww fw
  have hword : ∀ stride < 2 ^ 34, (min wh fh).toNat * stride < 2 ^ 64 := by
    intro stride hstride
    have hle : (min wh fh).toNat * stride ≤ 2 ^ 16 * 2 ^ 34 :=
      Nat.mul_le_mul (by omega) (by omega)
    omega
  have hn : (min ww fw).toNat * 4 ≤ ww.toNat * 4 := by omega
  have hsrc : ∀ row < (min wh fh).toNat,
      row * (fw.toNat * 4) + (min ww fw).toNat * 4 ≤ data.length := by
    intro row hrow
    have hnext : (row + 1) * (fw.toNat * 4) ≤ data.length := rows_le (by omega) hdataRows
    rw [Nat.succ_mul] at hnext
    omega
  have hdst : (min wh fh).toNat * (ww.toNat * 4) ≤ start.length :=
    rows_le (by omega) (hstartLen.trans hbufferRows)
  obtain ⟨out, hout, hlen, hplaces⟩ :=
    copyRows_ok hn hsrc hdst (hword _ (by omega)) (hword _ (by omega))
  refine ⟨out, ?_, ?_, fun x hx y hy k hk => ?_⟩
  · rw [blitRows, Checked.usize_ok (by omega), Checked.bind_ok, Checked.usize_ok (by omega),
      Checked.bind_ok, Checked.usize_ok (by omega), Checked.bind_ok, hstart, hout]
  · rw [hlen, hstartLen, hbuffer]
  · rw [place_eq, place_eq, hplaces y (x * 4 + k) (by omega)]
    by_cases hboth : x < fw.toNat ∧ y < fh.toNat
    · rw [if_pos hboth, if_pos (by omega)]
    · -- the sizes differ here, so the buffer was cleared
      rw [if_neg hboth, if_neg (by omega)]
      have hdiffer : ww ≠ fw ∨ wh ≠ fh := by
        by_contra hsame
        rw [not_or, not_ne_iff, not_ne_iff] at hsame
        rw [← hsame.1, ← hsame.2] at hboth
        exact hboth ⟨hx, hy⟩
      have hinside : y * (ww.toNat * 4) + (x * 4 + k) < buffer.length := by
        have hnext : (y + 1) * (ww.toNat * 4) ≤ buffer.length := rows_le (by omega) hbufferRows
        rw [Nat.succ_mul] at hnext
        omega
      rw [← hstart, if_pos hdiffer, List.getElem?_replicate_of_lt hinside]

/-- A frame whose payload has the length of its pixels. -/
def WellSized (frame : FrameData) : Prop :=
  frame.data.length = frame.width.toNat * frame.height.toNat * 4

/-- The length of a frame never overflows. -/
theorem frameLen_eq (width height : UInt16) :
    frameLen width height = some (width.toNat * height.toNat * 4) := by
  have hle : width.toNat * height.toNat ≤ (2 ^ 16 - 1) * (2 ^ 16 - 1) :=
    Nat.mul_le_mul (Nat.le_pred_of_lt width.toNat_lt) (Nat.le_pred_of_lt height.toNat_lt)
  have hpixels : width.toNat * height.toNat ≤ usizeMax := by
    rw [usizeMax]
    omega
  have hbytes : width.toNat * height.toNat * 4 ≤ usizeMax := by
    rw [usizeMax]
    omega
  simp [frameLen, checkedMul, hpixels, hbytes]

/-- What is written into a window that has its surface's size is exact. -/
theorem blitPixels_exact {w : CpuWindow} (hsurface : w.surface = ⟨w.width, w.height⟩)
    {frame : FrameData} (hframe : WellSized frame) (answers : BlitAnswers) :
    ∃ shown, blit w frame answers = .ok shown ∧ (∀ buffer, shown.written = some buffer →
      Exact w.width.toNat w.height.toNat frame.width.toNat frame.height.toNat frame.data
        buffer) ∧ shown.written.isSome = answers.buffer.isOk := by
  unfold blit blitPixels
  rcases answers with ⟨e | stale, presented⟩
  · exact ⟨_, rfl, (fun buffer h => by cases h), rfl⟩
  · have hlen := length_bytes w.surface stale
    rw [hsurface] at hlen ⊢
    have hheight : frame.height.toUInt32.toNat = frame.height.toNat := UInt16.toNat_toUInt32 _
    have hwidth : frame.width.toUInt32.toNat = frame.width.toNat := UInt16.toNat_toUInt32 _
    obtain ⟨out, hout, hexact⟩ := blitRows_exact hlen
      (by rw [hheight]; exact frame.height.toNat_lt) (by rw [hwidth, hheight]; exact hframe)
    rw [hwidth, hheight] at hexact
    dsimp only
    rw [hout, Checked.bind_ok]
    rcases presented with e | _
    · exact ⟨_, rfl, (fun buffer h => by cases h; exact hexact), rfl⟩
    · exact ⟨_, rfl, (fun buffer h => by cases h; exact hexact), rfl⟩

/-! ## Runs -/

/-- A call of the presenter, with what the window system answers to it. -/
inductive Call where
  | attach (id width height : UInt32) (answers : CpuPresenter.AttachAnswers)
  | resize (id width height : UInt32) (resized : Except String Unit)
  | present (id : UInt32) (frame : FrameData) (answers : BlitAnswers) (times : PresentTimes)
  | refresh (id : UInt32) (answers : BlitAnswers)
  | detach (id : UInt32)

namespace CpuPresenter

def new : CpuPresenter := ⟨∅⟩

def call (p : CpuPresenter) : Call → Checked (Shown Unit × CpuPresenter)
  | .attach id width height answers =>
      let (result, p) := p.attach id width height answers
      .ok (⟨none, result⟩, p)
  | .resize id width height resized =>
      let (result, p) := p.resize id width height resized
      .ok (⟨none, result⟩, p)
  | .present id frame answers times => do
      let (shown, p) ← p.present id frame answers times
      pure (⟨shown.written, shown.result.map fun _ => ()⟩, p)
  | .refresh id answers => do
      let shown ← p.refresh id answers
      pure (shown, p)
  | .detach id => .ok (⟨none, .ok ()⟩, p.detach id)

def run (calls : List Call) : Option (List (Shown Unit) × CpuPresenter) :=
  Machine.run (fun p c => (p.call c).toOption) new calls

end CpuPresenter

/-- The last frame that was presented to each window, after one more call. -/
def note (last : UInt32 → Option FrameData) (c : Call) (shown : Shown Unit) :
    UInt32 → Option FrameData :=
  match c, shown.result with
  | .attach id .., .ok _ => Function.update last id none
  | .present id frame .., .ok _ => Function.update last id (some frame)
  | .detach id, _ => Function.update last id none
  | _, _ => last

/-- The last frame that was presented successfully since the window was attached. -/
def lastPresented (calls : List Call) (outcomes : List (Shown Unit)) :
    UInt32 → Option FrameData :=
  (calls.zip outcomes).foldl (fun last entry => note last entry.1 entry.2) fun _ => none

/-- The surface of every window has the size that the window has, and what is kept to be
shown again is the last frame presented, whose payload has been checked. -/
structure Sound (last : UInt32 → Option FrameData) (p : CpuPresenter) : Prop where
  surface : ∀ id w, p.windows.lookup id = some w → w.surface = ⟨w.width, w.height⟩
  kept : ∀ id w, p.windows.lookup id = some w →
    w.lastFrame.map CachedFrame.toFrameData = last id
  gone : ∀ id, p.windows.lookup id = none → last id = none
  checked : ∀ id frame, last id = some frame → frame.codec = Codec.rawBgra ∧ WellSized frame

/-- A window keeps the whole of the frame that it was last given. -/
theorem cacheFrame_kept (w : CpuWindow) (frame : FrameData) :
    (w.cacheFrame frame).lastFrame.map CachedFrame.toFrameData = some frame ∧
      (w.cacheFrame frame).surface = w.surface ∧ (w.cacheFrame frame).width = w.width ∧
      (w.cacheFrame frame).height = w.height := by
  unfold CpuWindow.cacheFrame
  cases w.lastFrame with
  | none => exact ⟨rfl, rfl, rfl, rfl⟩
  | some cached =>
      dsimp only
      split_ifs
      · exact ⟨rfl, rfl, rfl, rfl⟩
      · exact ⟨rfl, rfl, rfl, rfl⟩

/-- A frame of raw pixels, of the right length, for an attached window whose surface hands out
its buffer. -/
structure Writable (p : CpuPresenter) (id : UInt32) (frame : FrameData) (answers : BlitAnswers) :
    Prop where
  codec : frame.codec = Codec.rawBgra
  size : WellSized frame
  attached : (p.windows.lookup id).isSome
  buffer : answers.buffer.isOk

/-- What a call of `present` comes to: nothing is written and nothing changes; or the pixels
are written and could not be shown; or they were shown, and the frame is kept. -/
def ComesTo (p : CpuPresenter) (id : UInt32) (frame : FrameData) (answers : BlitAnswers)
    (shown : Shown PresentTimes) (p' : CpuPresenter) : Prop :=
  (∀ buffer, shown.written = some buffer → ∃ w, p.windows.lookup id = some w ∧
    Exact w.width.toNat w.height.toNat frame.width.toNat frame.height.toNat frame.data buffer) ∧
  (shown.written.isSome ↔ Writable p id frame answers) ∧
  (shown.result.isOk = false ∧ p' = p ∨
    ∃ w, shown.result.isOk = true ∧ frame.codec = Codec.rawBgra ∧ WellSized frame ∧
      p.windows.lookup id = some w ∧ p' = ⟨p.windows.insert id (w.cacheFrame frame)⟩)

/-- A frame that cannot be written is refused, and nothing changes. -/
theorem ComesTo.refused {p : CpuPresenter} {id : UInt32} {frame : FrameData}
    {answers : BlitAnswers} (h : ¬Writable p id frame answers) (e : PresentError) :
    ComesTo p id frame answers ⟨none, .error e⟩ p := by
  refine ⟨fun buffer hb => ?_, iff_of_false Bool.false_ne_true h, .inl ⟨rfl, rfl⟩⟩
  cases hb

namespace Sound

variable {last : UInt32 → Option FrameData} {p : CpuPresenter}

/-- A frame of the right kind for a window that is there. -/
theorem present_eq {id : UInt32} {frame : FrameData} {w : CpuWindow} {answers : BlitAnswers}
    {shown : Shown Unit} (hcodec : frame.codec = Codec.rawBgra) (hsize : WellSized frame)
    (hwindow : p.windows.lookup id = some w) (hblit : blit w frame answers = .ok shown)
    (times : PresentTimes) :
    p.present id frame answers times = .ok (⟨shown.written, shown.result.map fun _ => times⟩,
      if shown.result.isOk then ⟨p.windows.insert id (w.cacheFrame frame)⟩ else p) := by
  unfold WellSized at hsize
  unfold CpuPresenter.present
  rw [if_neg (not_not_intro hcodec), frameLen_eq]
  dsimp only
  rw [if_neg (not_not_intro hsize), hwindow]
  dsimp only
  rw [hblit, Checked.bind_ok]
  obtain ⟨written, e | _⟩ := shown
  · rfl
  · rfl

/-- `present` comes to what `ComesTo` says, and never fails. -/
theorem present_spec (h : Sound last p) (id : UInt32) (frame : FrameData) (answers : BlitAnswers)
    (times : PresentTimes) :
    ∃ shown p', p.present id frame answers times = .ok (shown, p') ∧
      ComesTo p id frame answers shown p' := by
  by_cases hcodec : frame.codec = Codec.rawBgra
  · by_cases hsize : frame.data.length = frame.width.toNat * frame.height.toNat * 4
    · cases hwindow : p.windows.lookup id with
      | none =>
          unfold CpuPresenter.present
          rw [if_neg (not_not_intro hcodec), frameLen_eq]
          dsimp only
          rw [if_neg (not_not_intro hsize), hwindow]
          refine ⟨_, _, rfl, .refused (fun hwritable => ?_) _⟩
          have hattached := hwritable.attached
          rw [hwindow] at hattached
          cases hattached
      | some w =>
          obtain ⟨shown, hblit, hexact, hwritten⟩ :=
            blitPixels_exact (h.surface id w hwindow) hsize answers
          refine ⟨_, _, present_eq hcodec hsize hwindow hblit times,
            fun buffer hb => ⟨w, hwindow, hexact buffer hb⟩, ?_, ?_⟩
          · dsimp only
            rw [hwritten]
            exact ⟨fun hok => ⟨hcodec, hsize, by rw [hwindow]; rfl, hok⟩, Writable.buffer⟩
          · obtain ⟨written, e | _⟩ := shown
            · exact .inl ⟨rfl, rfl⟩
            · exact .inr ⟨w, rfl, hcodec, hsize, hwindow, rfl⟩
    · unfold CpuPresenter.present
      rw [if_neg (not_not_intro hcodec), frameLen_eq]
      dsimp only
      rw [if_pos hsize]
      exact ⟨_, _, rfl, .refused (fun hwritable => hsize hwritable.size) _⟩
  · unfold CpuPresenter.present
    rw [if_pos hcodec]
    exact ⟨_, _, rfl, .refused (fun hwritable => hcodec hwritable.codec) _⟩

/-- Where a frame is kept, it is shown as it would be presented. -/
theorem refresh_kept (h : Sound last p) {id : UInt32} {frame : FrameData}
    (hlast : last id = some frame) (answers : BlitAnswers) (times : PresentTimes) :
    ∃ shown again p', p.refresh id answers = .ok shown ∧
      p.present id frame answers times = .ok (again, p') ∧ shown.written = again.written ∧
      shown.result = again.result.map fun _ => () := by
  obtain ⟨hcodec, hsize⟩ := h.checked id frame hlast
  cases hwindow : p.windows.lookup id with
  | none =>
      rw [h.gone id hwindow] at hlast
      cases hlast
  | some w =>
      have hkept := h.kept id w hwindow
      rw [hlast] at hkept
      obtain ⟨cached, hcached, heq⟩ := Option.map_eq_some_iff.mp hkept
      obtain ⟨shown, hblit, -, -⟩ := blitPixels_exact (h.surface id w hwindow) hsize answers
      refine ⟨shown, _, _, ?_, present_eq hcodec hsize hwindow hblit times, rfl, ?_⟩
      · rw [CpuPresenter.refresh, hwindow]
        dsimp only
        rw [hcached]
        dsimp only
        rw [heq]
        exact hblit
      · obtain ⟨written, e | _⟩ := shown
        · rfl
        · rfl

/-- Where no frame is kept, nothing is written. -/
theorem refresh_none (h : Sound last p) {id : UInt32} (hlast : last id = none)
    (answers : BlitAnswers) :
    ∃ shown, p.refresh id answers = .ok shown ∧ shown.written = none := by
  unfold CpuPresenter.refresh
  cases hwindow : p.windows.lookup id with
  | none => exact ⟨_, rfl, rfl⟩
  | some w =>
      have hkept := h.kept id w hwindow
      rw [hlast, Option.map_eq_none_iff] at hkept
      dsimp only
      rw [hkept]
      exact ⟨_, rfl, rfl⟩

/-! What each call keeps. -/

/-- A window that comes new, or with the frame that is known to be its last. -/
theorem insert (h : Sound last p) {id : UInt32} {w : CpuWindow} {kept : Option FrameData}
    (hsurface : w.surface = ⟨w.width, w.height⟩)
    (hkept : w.lastFrame.map CachedFrame.toFrameData = kept)
    (hchecked : ∀ frame, kept = some frame → frame.codec = Codec.rawBgra ∧ WellSized frame) :
    Sound (Function.update last id kept) ⟨p.windows.insert id w⟩ where
  surface i w' hw := by
    rcases Table.of_lookup_insert hw with ⟨-, rfl⟩ | ⟨-, hold⟩
    · exact hsurface
    · exact h.surface i w' hold
  kept i w' hw := by
    rcases Table.of_lookup_insert hw with ⟨rfl, rfl⟩ | ⟨hne, hold⟩
    · rw [Function.update_self, hkept]
    · rw [Function.update_of_ne hne]
      exact h.kept i w' hold
  gone i hnone := by
    rw [Table.lookup_insert_ite] at hnone
    split_ifs at hnone with hi
    rw [Function.update_of_ne hi]
    exact h.gone i hnone
  checked i frame hlast := by
    by_cases hi : i = id
    · subst hi
      rw [Function.update_self] at hlast
      exact hchecked frame hlast
    · rw [Function.update_of_ne hi] at hlast
      exact h.checked i frame hlast

/-- Detaching a window forgets its last frame. -/
theorem detach (h : Sound last p) (id : UInt32) :
    Sound (Function.update last id none) (p.detach id) where
  surface i w hw := h.surface i w (Table.of_lookup_erase hw).2
  kept i w hw := by
    obtain ⟨hne, hold⟩ := Table.of_lookup_erase hw
    rw [Function.update_of_ne hne]
    exact h.kept i w hold
  gone i hnone := by
    by_cases hi : i = id
    · rw [hi, Function.update_self]
    · rw [Function.update_of_ne hi]
      refine h.gone i ?_
      rw [← AList.lookup_erase_ne hi]
      exact hnone
  checked i frame hlast := by
    by_cases hi : i = id
    · rw [hi, Function.update_self] at hlast
      cases hlast
    · rw [Function.update_of_ne hi] at hlast
      exact h.checked i frame hlast

/-- Resizing a window keeps its last frame. -/
theorem resize (h : Sound last p) (id width height : UInt32) (resized : Except String Unit) :
    Sound last (p.resize id width height resized).2 := by
  unfold CpuPresenter.resize
  cases hwindow : p.windows.lookup id with
  | none => exact h
  | some w =>
      rcases resized with e | _
      · exact h
      · have hresized : Sound (Function.update last id (last id))
            ⟨p.windows.insert id { w with
              surface := ⟨nonzero width, nonzero height⟩
              width := nonzero width
              height := nonzero height }⟩ :=
          h.insert rfl (h.kept id w hwindow) (h.checked id)
        rw [Function.update_eq_self] at hresized
        exact hresized

/-- No call stops, and each keeps what is known. -/
theorem call (h : Sound last p) (c : Call) :
    ∃ shown p', p.call c = .ok (shown, p') ∧ Sound (note last c shown) p' := by
  cases c with
  | attach id width height answers =>
      rcases answers with ⟨e | _, resized⟩
      · exact ⟨_, _, rfl, h⟩
      · rcases resized with e | _
        · exact ⟨_, _, rfl, h⟩
        · refine ⟨_, _, rfl, ?_⟩
          exact h.insert rfl rfl fun frame hnone => by cases hnone
  | resize id width height resized =>
      exact ⟨_, _, rfl, h.resize id width height resized⟩
  | present id frame answers times =>
      obtain ⟨shown, p', hpresent, -, -, hresult⟩ := h.present_spec id frame answers times
      refine ⟨⟨shown.written, shown.result.map fun _ => ()⟩, p', ?_, ?_⟩
      · rw [CpuPresenter.call, hpresent, Checked.bind_ok]
        rfl
      · obtain ⟨written, e | done⟩ := shown
        · rcases hresult with ⟨-, rfl⟩ | ⟨w, hok, -⟩
          · exact h
          · cases hok
        · rcases hresult with ⟨hok, -⟩ | ⟨w, -, hcodec, hsize, hwindow, rfl⟩
          · cases hok
          · obtain ⟨hkept, hsurface, hwidth, hheight⟩ := cacheFrame_kept w frame
            refine h.insert ?_ hkept fun frame' hframe => ?_
            · rw [hsurface, hwidth, hheight, h.surface id w hwindow]
            · cases hframe
              exact ⟨hcodec, hsize⟩
  | refresh id answers =>
      cases hlast : last id with
      | none =>
          obtain ⟨shown, hrefresh, -⟩ := h.refresh_none hlast answers
          refine ⟨shown, p, ?_, h⟩
          rw [CpuPresenter.call, hrefresh, Checked.bind_ok]
          rfl
      | some frame =>
          obtain ⟨shown, again, p', hrefresh, -⟩ := h.refresh_kept hlast answers ⟨0, 0⟩
          refine ⟨shown, p, ?_, h⟩
          rw [CpuPresenter.call, hrefresh, Checked.bind_ok]
          rfl
  | detach id => exact ⟨_, _, rfl, h.detach id⟩

/-- The same along a run. -/
theorem run (h : Sound last p) (calls : List Call) :
    ∃ outcomes p', Machine.run (fun p c => (CpuPresenter.call p c).toOption) p calls =
        some (outcomes, p') ∧
      Sound ((calls.zip outcomes).foldl (fun last entry => note last entry.1 entry.2) last) p' := by
  induction calls generalizing last p with
  | nil => exact ⟨[], p, rfl, h⟩
  | cons c calls ih =>
      obtain ⟨shown, p₁, hcall, h₁⟩ := h.call c
      obtain ⟨outcomes, p', hrest, hsound⟩ := ih h₁
      have hone : (CpuPresenter.call p c).toOption = some (shown, p₁) := by
        rw [hcall]
        rfl
      exact ⟨shown :: outcomes, p', Machine.run_cons_some.mpr ⟨_, _, _, hone, hrest, rfl⟩, hsound⟩

end Sound

/-- A new presenter has no window. -/
theorem new_sound : Sound (fun _ => none) CpuPresenter.new where
  surface id w hw := by cases hw
  kept id w hw := by cases hw
  gone id _ := rfl
  checked id frame hlast := by cases hlast

/-- No run of the presenter leaves a payload or a buffer, and in the state behind it: `present`
writes into a window exactly when the frame is of raw pixels and the right length and the
window is attached and hands out its buffer, and what it writes is exactly the frame, clipped
and surrounded by zeros; and `refresh` writes exactly what `present` would write for the last
frame that was presented since the window was attached, with the same result, and nothing where
there is none. -/
theorem blits_exact (calls : List Call) :
    ∃ outcomes p, CpuPresenter.run calls = some (outcomes, p) ∧
      (∀ id frame answers times, ∃ shown p',
        p.present id frame answers times = .ok (shown, p') ∧
        (shown.written.isSome ↔ Writable p id frame answers) ∧
        ∀ buffer, shown.written = some buffer → ∃ w, p.windows.lookup id = some w ∧
          Exact w.width.toNat w.height.toNat frame.width.toNat frame.height.toNat frame.data
            buffer) ∧
      (∀ id frame, lastPresented calls outcomes id = some frame → ∀ answers times,
        ∃ shown again p', p.refresh id answers = .ok shown ∧
          p.present id frame answers times = .ok (again, p') ∧ shown.written = again.written ∧
          shown.result = again.result.map fun _ => ()) ∧
      (∀ id, lastPresented calls outcomes id = none → ∀ answers,
        ∃ shown, p.refresh id answers = .ok shown ∧ shown.written = none) := by
  obtain ⟨outcomes, p, hrun, hsound⟩ := new_sound.run calls
  refine ⟨outcomes, p, hrun, fun id frame answers times => ?_,
    fun id frame hlast answers times => hsound.refresh_kept hlast answers times,
    fun id hlast answers => hsound.refresh_none hlast answers⟩
  obtain ⟨shown, p', hpresent, hexact, hwritten, -⟩ :=
    hsound.present_spec id frame answers times
  exact ⟨shown, p', hpresent, hwritten, hexact⟩

/-- A pixel is presented to a window, and the window attached a second time. -/
def attachedAgain : List Call :=
  [.attach 1 1 1 ⟨.ok (), .ok ()⟩,
    .present 1 ⟨1, 1, Codec.rawBgra, 0, 1, 1, 0, 0, [1, 2, 3, 255]⟩ ⟨.ok fun _ => 0, .ok ()⟩ ⟨0, 0⟩,
    .attach 1 1 1 ⟨.ok (), .ok ()⟩]

/-- The frame was presented, and presenting it again would show it; refreshing shows nothing. -/
theorem attachedAgain_refresh :
    ∃ outcomes p, CpuPresenter.run attachedAgain = some (outcomes, p) ∧
      outcomes.map (fun shown => shown.result.isOk) = [true, true, true] ∧
      (∃ again p', p.present 1 ⟨1, 1, Codec.rawBgra, 0, 1, 1, 0, 0, [1, 2, 3, 255]⟩
        ⟨.ok fun _ => 0, .ok ()⟩ ⟨0, 0⟩ = .ok (again, p') ∧
        again.written = some [1, 2, 3, 255]) ∧
      ∃ shown, p.refresh 1 ⟨.ok fun _ => 0, .ok ()⟩ = .ok shown ∧ shown.written = none := by
  exact ⟨_, _, rfl, rfl, ⟨_, _, rfl, rfl⟩, _, rfl, rfl⟩

end Presenter

end Oxrdp
