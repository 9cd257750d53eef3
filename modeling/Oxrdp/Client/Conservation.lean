import Oxrdp.Client.Accounting
import Oxrdp.Lib.Tally

/-!
# No frame is lost in the pipeline

A frame that was submitted is in the hands or on the queue of a worker, or held back; or it was
reported as dropped, or its picture went to the display.  `tallied` counts all of these for one
key, and while both channels stay open and the session task resends what it holds back only
where there is room, every step keeps that sum but for the frame that it submits
(`step_tallied`).  Unlike the account of `LaneInv`, this goes on when a window is submitted to
again after it was forgotten.

A picture is counted as the frame it was made of, which needs the contract of decoders: they
return a frame that carries the same ids (`Faithful`).
-/

namespace Oxrdp

open Tally

/-- The frame, by its window and its number. -/
def FrameData.key (f : FrameData) : Option (UInt32 × UInt64) := some (f.windowId, f.frameId)

/-- The frame that a report gives up. -/
def FrameReport.drops : FrameReport → Option (UInt32 × UInt64)
  | .decoded .. => none
  | .dropped windowId frameId _ => some (windowId, frameId)

/-- The contract of decoders: a picture carries the ids of its frame. -/
def Faithful (X D : Type) [FrameDecoder X D] : Prop :=
  ∀ (x : X) (d d' : D) (frame picture : FrameData),
    FrameDecoder.decode x d frame = some (.ok (some picture), d') → picture.key = frame.key

/-- A picture comes from the decoder that the worker has, if it is of the codec of the frame, or
from one that the factory made for it. -/
theorem decodeFrame_decoded {X D : Type} [FrameDecoder X D] {factory : DecoderFactory X D}
    {v : UInt32} {x : X} {decoder : Option D} {frame picture : FrameData}
    (hpicture : (decodeFrame factory v x decoder frame).1 = some picture) :
    ∃ active active', (FrameDecoder.codec active = frame.codec ∨
        factory v x frame.codec = .ok active) ∧
      FrameDecoder.decode x active frame = some (.ok (some picture), active') := by
  unfold decodeFrame at hpicture
  dsimp only at hpicture
  split at hpicture
  next => cases hpicture
  next active hactive =>
    have hcurrent : FrameDecoder.codec active = frame.codec ∨
        factory v x frame.codec = .ok active := by
      split at hactive
      next d hd =>
        cases hactive
        exact .inl (by simpa using (Option.filter_eq_some_iff.mp hd).2)
      next =>
        cases hmade : factory v x frame.codec with
        | error e =>
            rw [hmade] at hactive
            cases hactive
        | ok made =>
            rw [hmade] at hactive
            cases hactive
            exact .inr rfl
    split at hpicture
    next decoded active' hdecode =>
      dsimp only at hpicture
      rw [hpicture] at hdecode
      exact ⟨active, active', hcurrent, hdecode⟩
    next => cases hpicture
    next => cases hpicture

/-- A faithful decoder's picture is of the frame that it was given. -/
theorem decodeFrame_key {X D : Type} [FrameDecoder X D] (h : Faithful X D)
    {factory : DecoderFactory X D} {v : UInt32} {x : X} {decoder : Option D}
    {frame picture : FrameData}
    (hpicture : (decodeFrame factory v x decoder frame).1 = some picture) :
    picture.key = frame.key := by
  obtain ⟨active, active', -, hdecode⟩ := decodeFrame_decoded hpicture
  exact h x active active' frame picture hdecode

/-- Most pixels of a decoded picture. -/
def maxDecodedPixels : Nat := 16 * 2 ^ 20

/-- A geometry that is empty or too large is refused. -/
def checkedGeometry (width height : Nat) : Except FrameDecodeError (Nat × Nat) :=
  if width = 0 ∨ height = 0 ∨ 65535 < width ∨ 65535 < height ∨
      maxDecodedPixels < width * height then
    .error (.geometry width height)
  else
    .ok (width, height)

/-- The `RAW_BGRA` decoder: validation, then the frame itself. -/
structure PassthroughDecoder where

instance : FrameDecoder Unit PassthroughDecoder where
  codec _ := Codec.rawBgra
  decode _ decoder frame :=
    match checkedGeometry frame.width.toNat frame.height.toNat with
    | .error e => some (.error e, decoder)
    | .ok (width, height) =>
        let expected := width * height * 4
        if frame.data.length ≠ expected then
          some (.error (.payloadLength expected frame.data.length), decoder)
        else
          some (.ok (some frame), decoder)

/-- `new_decoder` of a build without H.264. -/
def newDecoder : DecoderFactory Unit PassthroughDecoder := fun _ _ codec =>
  if codec = Codec.rawBgra then .ok {} else .error (.unsupportedCodec codec)

/-- The default decoder keeps the contract. -/
theorem passthrough_faithful : Faithful Unit PassthroughDecoder := by
  intro x d d' frame picture h
  unfold FrameDecoder.decode instFrameDecoderUnitPassthroughDecoder at h
  dsimp only at h
  split at h
  next => cases h
  next =>
    split at h
    · cases h
    · cases h
      rfl

/-! ## One lane -/

/-- What a worker has yet to finish with. -/
def Worker.load {D : Type} (worker : Worker D) : List FrameData :=
  worker.phase.inHand ++ worker.phase.picture ++ worker.queue

namespace Lane

variable {D : Type} {lane lane' : Lane D} {n queue : Nat} {frame : FrameData}

def load (lane : Lane D) : List FrameData := lane.threads.flatMap Worker.load

/-- The thread is there and has not ended. -/
def Runs (lane : Lane D) (n : Nat) : Prop :=
  ∃ worker, lane.threads[n]? = some worker ∧ worker.phase ≠ .stopped

/-- A sender does not add to what its lane has to do. -/
theorem entry_load (lane : Lane D) (starts : Bool) : (lane.entry starts).2.load = lane.load := by
  unfold entry
  split
  · rfl
  · have hnew : (spawnWorker starts : Worker D).load = [] := by
      cases starts with
      | true => rfl
      | false => rfl
    simp [load, hnew]

/-- A worker that runs goes on running when a sender is taken. -/
theorem Runs.entry (h : lane.Runs n) (starts : Bool) : (lane.entry starts).2.Runs n := by
  obtain ⟨worker, hget, hruns⟩ := h
  unfold Lane.entry
  split
  · exact ⟨worker, hget, hruns⟩
  · refine ⟨worker, ?_, hruns⟩
    dsimp only
    rw [List.getElem?_append_left (List.getElem?_eq_some_iff.mp hget).1]
    exact hget

/-- A queue is full only while its worker runs. -/
theorem trySend_full (h : lane.trySend queue frame = .error .full) : lane.Runs queue := by
  unfold trySend at h
  split at h
  next => cases h
  next worker hget =>
    refine ⟨worker, hget, fun hstopped => ?_⟩
    simp [Worker.trySend, hstopped] at h

/-- A queue is closed only once its worker has ended. -/
theorem trySend_closed (h : lane.trySend queue frame = .error .closed) : ¬ lane.Runs queue := by
  rintro ⟨worker, hget, hruns⟩
  unfold trySend at h
  rw [hget] at h
  unfold Worker.trySend at h
  by_cases hroom : worker.queue.length < queueDepth
  · simp [hruns, hroom] at h
  · simp [hruns, hroom] at h

/-- A worker that is replaced, and the others. -/
theorem Runs.set (h : lane.Runs n) {m : Nat} {worker : Worker D}
    (hworker : n = m → worker.phase ≠ .stopped) :
    Runs { lane with threads := lane.threads.set m worker } n := by
  obtain ⟨worker', hget, hruns⟩ := h
  have hn := (List.getElem?_eq_some_iff.mp hget).1
  by_cases hm : n = m
  · subst hm
    exact ⟨worker, by simp [hn], hworker rfl⟩
  · exact ⟨worker', by simp [Ne.symm hm, hget], hruns⟩

/-- A worker that changes has what it has; the others have what they had. -/
theorem mem_load_set {m : Nat} {worker : Worker D} {f : FrameData}
    (h : f ∈ load { lane with threads := lane.threads.set m worker }) :
    f ∈ worker.load ∨ f ∈ lane.load := by
  obtain ⟨worker', hworker', hf⟩ := List.mem_flatMap.mp h
  rcases List.mem_or_eq_of_mem_set hworker' with hold | rfl
  · exact .inr (List.mem_flatMap.mpr ⟨worker', hold, hf⟩)
  · exact .inl hf

section TrySend

variable (h : lane.trySend queue frame = .ok lane')
include h

/-- The frame is behind the others of a worker that runs. -/
theorem trySend_queued : ∃ worker, lane.threads[queue]? = some worker ∧
    worker.phase ≠ .stopped ∧ ∃ worker', worker'.load = worker.load ++ [frame] ∧
      worker'.phase = worker.phase ∧
        lane' = { lane with threads := lane.threads.set queue worker' } := by
  unfold Lane.trySend at h
  split at h
  next => cases h
  next worker hget =>
    unfold Worker.trySend at h
    by_cases hstopped : worker.phase = .stopped
    · simp [hstopped] at h
    · by_cases hroom : worker.queue.length < queueDepth
      · simp only [hstopped, hroom, if_true, if_false] at h
        cases h
        exact ⟨worker, hget, hstopped, { worker with queue := worker.queue ++ [frame] },
          (List.append_assoc ..).symm, rfl, rfl⟩
      · simp [hstopped, hroom] at h

/-- A frame that is sent is one frame more in the lane. -/
theorem trySend_load (k : UInt32 × UInt64) : tally FrameData.key k lane'.load =
    tally FrameData.key k lane.load + hit FrameData.key k frame := by
  obtain ⟨worker, hget, -, worker', hqueued, -, rfl⟩ := trySend_queued h
  have hset := @tally_set _ _ _ _ FrameData.key k Worker.load _ _ worker hget worker'
  rw [hqueued, tally_append, tally_cons, tally_nil] at hset
  unfold load
  dsimp only
  omega

/-- Nothing else is. -/
theorem mem_load_trySend {f : FrameData} (hf : f ∈ lane'.load) : f ∈ lane.load ∨ f = frame := by
  obtain ⟨worker, hget, -, worker', hqueued, -, rfl⟩ := trySend_queued h
  rcases mem_load_set hf with hf | hf
  · rw [hqueued] at hf
    rcases List.mem_append.mp hf with hf | hf
    · exact .inl (List.mem_flatMap.mpr ⟨worker, List.mem_of_getElem? hget, hf⟩)
    · exact .inr (List.mem_singleton.mp hf)
  · exact .inl hf

/-- Sending stops no worker. -/
theorem Runs.trySend (hn : lane.Runs n) : lane'.Runs n := by
  obtain ⟨worker, -, hruns, worker', -, hphase, rfl⟩ := trySend_queued h
  exact hn.set fun _ => hphase ▸ hruns

end TrySend

end Lane

/-- A frame of another window is no hit. -/
theorem hit_key_of_ne {f : FrameData} {k : UInt32 × UInt64} (h : k.1 ≠ f.windowId) :
    hit FrameData.key k f = 0 := by
  apply hit_of_ne
  rintro hkey
  cases hkey
  exact h rfl

namespace DecodePipeline

variable {X D : Type} {s : DecodePipeline D} {v : UInt32} {k : UInt32 × UInt64}

/-! ## All places -/

/-- All places a frame with this key can be. -/
def tallied (s : DecodePipeline D) (k : UInt32 × UInt64) : Nat :=
  tally FrameData.key k (s.lanes k.1).load +
    tally (fun b : Backpressure => b.frame.key) k s.held +
    tally FrameReport.drops k s.reports +
    tally (fun picture : UInt32 × FrameData => picture.2.key) k s.delivered

/-- The workers of a window have the frames of that window, and what is held back is for a
thread that has not ended. -/
structure Sound (s : DecodePipeline D) : Prop where
  filed : ∀ v, ∀ f ∈ (s.lanes v).load, f.windowId = v
  alive : ∀ b ∈ s.held, (s.lanes b.frame.windowId).Runs b.queue

/-- The lane that was set is there. -/
@[simp] theorem lanes_setLane_self (lane : Lane D) : (s.setLane v lane).lanes v = lane :=
  Function.update_self ..

/-- The other lanes are as they were. -/
theorem lanes_setLane_of_ne {w : UInt32} (h : w ≠ v) (lane : Lane D) :
    (s.setLane v lane).lanes w = s.lanes w :=
  Function.update_of_ne h ..

/-- A lane that is replaced: what its workers gain and what they lose. -/
theorem tallied_setLane {lane : Lane D} (gain loss : Nat)
    (hself : k.1 = v → tally FrameData.key k lane.load + loss =
      tally FrameData.key k (s.lanes v).load + gain)
    (hother : k.1 ≠ v → loss = gain) :
    (s.setLane v lane).tallied k + loss = s.tallied k + gain := by
  unfold tallied setLane
  by_cases hk : k.1 = v
  · have := hself hk
    subst hk
    simp only [Function.update_self]
    omega
  · have := hother hk
    simp only [Function.update_of_ne hk]
    omega

/-- A lane with the same load changes no count. -/
theorem tallied_setLane_same {lane : Lane D} (h : lane.load = (s.lanes v).load) :
    (s.setLane v lane).tallied k = s.tallied k := by
  have := tallied_setLane (k := k) 0 0 (fun _ => congrArg (tally FrameData.key k) h) fun _ => rfl
  omega

/-- A lane may be set if its frames are of its window and the held frames' workers run. -/
theorem Sound.setLane (hs : s.Sound) {lane : Lane D} (hload : ∀ f ∈ lane.load, f.windowId = v)
    (hruns : ∀ b ∈ s.held, b.frame.windowId = v → lane.Runs b.queue) :
    (s.setLane v lane).Sound where
  filed := by
    intro w f hf
    by_cases hw : w = v
    · subst hw
      rw [lanes_setLane_self] at hf
      exact hload f hf
    · rw [lanes_setLane_of_ne hw] at hf
      exact hs.filed w f hf
  alive := by
    intro b hb
    by_cases hw : b.frame.windowId = v
    · rw [hw, lanes_setLane_self]
      exact hruns b hb hw
    · rw [lanes_setLane_of_ne hw]
      exact hs.alive b hb

/-- A dropped frame is counted when it is reported. -/
theorem tallied_report (hopen : s.reportsOpen = true) (r : FrameReport) :
    (s.report r).tallied k = s.tallied k + hit FrameReport.drops k r := by
  unfold report tallied
  rw [if_pos hopen]
  simp only [tally_append, tally_cons, tally_nil]
  omega

/-- A report keeps the pipeline sound. -/
theorem Sound.report (hs : s.Sound) (r : FrameReport) : (s.report r).Sound := by
  unfold DecodePipeline.report
  split
  · exact ⟨hs.filed, hs.alive⟩
  · exact hs

/-- A picture is counted when it is delivered. -/
theorem tallied_deliver (picture : FrameData) :
    (s.deliver v picture).tallied k = s.tallied k + hit FrameData.key k picture := by
  unfold deliver tallied
  simp only [tally_append, tally_cons, tally_nil]
  change _ + (_ + (hit FrameData.key k picture + 0)) = _
  omega

/-! ## Workers -/

section Worker

variable {n : Nat} {worker worker' : Worker D}

/-- A worker changes the counts by what it gains and loses. -/
theorem tallied_setWorker (hget : (s.lanes v).threads[n]? = some worker) (worker' : Worker D)
    (gain loss : Nat)
    (hload : tally FrameData.key k worker'.load + loss = tally FrameData.key k worker.load + gain)
    (hother : k.1 ≠ v → loss = gain) :
    (s.setWorker v n worker').tallied k + loss = s.tallied k + gain := by
  apply tallied_setLane gain loss
  · intro
    have hset := @tally_set _ _ _ _ FrameData.key k Worker.load _ n worker hget worker'
    unfold Lane.load
    dsimp only
    omega
  · exact hother

/-- A worker with the same load changes no count. -/
theorem tallied_setWorker_same (hget : (s.lanes v).threads[n]? = some worker)
    (h : worker'.load = worker.load) : (s.setWorker v n worker').tallied k = s.tallied k := by
  have := tallied_setWorker (k := k) hget worker' 0 0 (by rw [h]) fun _ => rfl
  omega

/-- A worker may be set if its frames are of its window and no held frame waits for one that ended.
-/
theorem Sound.setWorker (hs : s.Sound) (hload : ∀ f ∈ worker'.load, f.windowId = v)
    (hruns : ∀ b ∈ s.held, b.frame.windowId = v → b.queue = n → worker'.phase ≠ .stopped) :
    (s.setWorker v n worker').Sound := by
  apply hs.setLane
  · intro f hf
    rcases Lane.mem_load_set hf with hf | hf
    · exact hload f hf
    · exact hs.filed v f hf
  · intro b hb hv
    have halive := hs.alive b hb
    rw [hv] at halive
    exact halive.set (hruns b hb hv)

/-- A worker has frames of its own window only. -/
theorem Sound.of_worker (hs : s.Sound) (hget : (s.lanes v).threads[n]? = some worker) :
    ∀ f ∈ worker.load, f.windowId = v :=
  fun f hf => hs.filed v f (List.mem_flatMap.mpr ⟨worker, List.mem_of_getElem? hget, hf⟩)

end Worker

/-! ## The session task -/

/-- A new pipeline is sound: it has nothing. -/
theorem new_sound : (new : DecodePipeline D).Sound := ⟨nofun, nofun⟩

/-- A queue takes a frame of its window; a thread may have been made for it. -/
theorem trySend_tallied (hs : s.Sound) {lane lane' : Lane D} {queue : Nat} {frame : FrameData}
    (hload : lane.load = (s.lanes frame.windowId).load)
    (halive : ∀ b ∈ s.held, b.frame.windowId = frame.windowId → lane.Runs b.queue)
    (hsend : lane.trySend queue frame = .ok lane') :
    (s.setLane frame.windowId lane').Sound ∧ ∀ k,
      (s.setLane frame.windowId lane').tallied k = s.tallied k + hit FrameData.key k frame := by
  constructor
  · apply hs.setLane
    · intro f hf
      rcases Lane.mem_load_trySend hsend hf with hf | rfl
      · rw [hload] at hf
        exact hs.filed _ f hf
      · rfl
    · exact fun b hb hv => Lane.Runs.trySend hsend (halive b hb hv)
  · intro k
    have hsent := Lane.trySend_load hsend k
    rw [hload] at hsent
    have := tallied_setLane (hit FrameData.key k frame) 0 (fun _ => hsent)
      fun hk => (hit_key_of_ne hk).symm
    omega

/-- A frame that is held back for a thread. -/
theorem hold_tallied (hs : s.Sound) {b : Backpressure}
    (hruns : (s.lanes b.frame.windowId).Runs b.queue) :
    Sound { s with held := s.held ++ [b] } ∧ ∀ k,
      tallied { s with held := s.held ++ [b] } k = s.tallied k + hit FrameData.key k b.frame := by
  constructor
  · exact ⟨hs.filed, List.forall_mem_append.mpr
      ⟨hs.alive, List.forall_mem_singleton.mpr hruns⟩⟩
  · intro k
    have hheld : tally (fun b : Backpressure => b.frame.key) k (s.held ++ [b]) =
        tally (fun b : Backpressure => b.frame.key) k s.held + hit FrameData.key k b.frame := by
      rw [tally_append, tally_cons, tally_nil]
      rfl
    unfold tallied
    dsimp only
    omega

/-- Submit a frame, and hold it back if it is refused. -/
def submitOrHold (s : DecodePipeline D) (frame : FrameData) (starts : Bool) (nowUs : UInt64) :
    DecodePipeline D :=
  match s.submit frame starts nowUs with
  | (.ok (), s) => s
  | (.error b, s) => { s with held := s.held ++ [b] }

/-- A frame that is submitted is somewhere. -/
theorem submit_tallied (hs : s.Sound) (hopen : s.reportsOpen = true) (frame : FrameData)
    (starts : Bool) (nowUs : UInt64) :
    (s.submitOrHold frame starts nowUs).Sound ∧ ∀ k,
      (s.submitOrHold frame starts nowUs).tallied k = s.tallied k + hit FrameData.key k frame := by
  have hload := Lane.entry_load (s.lanes frame.windowId) starts
  have halive : ∀ b ∈ s.held, b.frame.windowId = frame.windowId →
      ((s.lanes frame.windowId).entry starts).2.Runs b.queue := by
    intro b hb hv
    have := hs.alive b hb
    rw [hv] at this
    exact this.entry starts
  have hfiled := hs.filed frame.windowId
  unfold submitOrHold submit
  generalize (s.lanes frame.windowId).entry starts = entered at *
  rw [← hload] at hfiled
  cases hsend : entered.2.trySend entered.1 frame with
  | ok lane =>
      simp only [hsend]
      exact trySend_tallied hs hload halive hsend
  | error e =>
      cases e with
      | full =>
          simp only [hsend]
          have hlane : (s.setLane frame.windowId entered.2).Sound := hs.setLane hfiled halive
          have hruns :
              ((s.setLane frame.windowId entered.2).lanes frame.windowId).Runs entered.1 := by
            rw [lanes_setLane_self]
            exact Lane.trySend_full hsend
          have hheld := @hold_tallied D _ hlane ⟨frame, entered.1⟩ hruns
          refine ⟨hheld.1, fun k => (hheld.2 k).trans ?_⟩
          rw [tallied_setLane_same hload]
      | closed =>
          simp only [hsend]
          have hlane : (s.setLane frame.windowId { entered.2 with sender := none }).Sound :=
            hs.setLane hfiled halive
          refine ⟨hlane.report _, fun k => ?_⟩
          have hdropped := tallied_report (k := k)
            (s := s.setLane frame.windowId { entered.2 with sender := none }) hopen
            (.dropped frame.windowId frame.frameId nowUs)
          have hsame : (s.setLane frame.windowId { entered.2 with sender := none }).tallied k =
              s.tallied k := tallied_setLane_same hload
          have hhit : hit FrameReport.drops k (.dropped frame.windowId frame.frameId nowUs) =
              hit FrameData.key k frame := hit_congr rfl
          rw [hdropped, hsame, hhit]

/-- A frame that was held back goes to its queue where there is room. -/
theorem resend_tallied (hs : s.Sound) {b : Backpressure} (hb : b ∈ s.held)
    (hroom : (s.lanes b.frame.windowId).trySend b.queue b.frame ≠ .error .full) :
    ∃ lane, (s.lanes b.frame.windowId).trySend b.queue b.frame = .ok lane ∧
      (setLane { s with held := s.held.erase b } b.frame.windowId lane).Sound ∧ ∀ k,
        (setLane { s with held := s.held.erase b } b.frame.windowId lane).tallied k =
          s.tallied k := by
  have hs' : Sound { s with held := s.held.erase b } :=
    ⟨hs.filed, fun b' hb' => hs.alive b' (List.mem_of_mem_erase hb')⟩
  have htaken : ∀ k, tallied { s with held := s.held.erase b } k + hit FrameData.key k b.frame =
      s.tallied k := by
    intro k
    have := @tally_erase _ _ _ (fun b : Backpressure => b.frame.key) k _ _ b hb
    unfold tallied
    change _ + hit FrameData.key k b.frame = _ at this
    dsimp only
    omega
  cases hsend : (s.lanes b.frame.windowId).trySend b.queue b.frame with
  | ok lane =>
      obtain ⟨hsound, hsent⟩ :=
        trySend_tallied hs' rfl (fun b' hb' hv => hv ▸ hs'.alive b' hb') hsend
      exact ⟨lane, rfl, hsound, fun k => (hsent k).trans (htaken k)⟩
  | error e =>
      cases e with
      | full => exact absurd hsend hroom
      | closed => exact absurd (hs.alive b hb) (Lane.trySend_closed hsend)

/-- **Forgetting a window** loses no frame: what its worker has is still to be reported. -/
theorem forget_tallied (hs : s.Sound) (w : UInt32) :
    (s.forget w).Sound ∧ ∀ k, (s.forget w).tallied k = s.tallied k := by
  constructor
  · exact hs.setLane (hs.filed w) fun b hb hv => hv ▸ hs.alive b hb
  · exact fun k => tallied_setLane_same rfl

/-! ## The logs -/

/-- Reports are only added. -/
theorem report_reports (s : DecodePipeline D) (r : FrameReport) :
    s.reports <+: (s.report r).reports := by
  unfold report
  split
  · exact List.prefix_append _ _
  · exact List.prefix_rfl

/-- A report delivers nothing. -/
theorem report_delivered (s : DecodePipeline D) (r : FrameReport) :
    (s.report r).delivered = s.delivered := by
  unfold report
  split
  · rfl
  · rfl

/-- Submitting changes the lane of the window, and reports a frame that no thread takes. -/
theorem submit_logs (s : DecodePipeline D) (frame : FrameData) (starts : Bool) (nowUs : UInt64) :
    s.reports <+: (s.submit frame starts nowUs).2.reports ∧
      (s.submit frame starts nowUs).2.delivered = s.delivered ∧
      (s.submit frame starts nowUs).2.held = s.held ∧
      (s.submit frame starts nowUs).2.sinkOpen = s.sinkOpen ∧
      (s.submit frame starts nowUs).2.reportsOpen = s.reportsOpen := by
  unfold submit
  dsimp only
  split
  · exact ⟨List.prefix_rfl, rfl, rfl, rfl, rfl⟩
  · exact ⟨List.prefix_rfl, rfl, rfl, rfl, rfl⟩
  · obtain ⟨hsink, hopen, hheld⟩ := @report_frame D (s.setLane frame.windowId
      { ((s.lanes frame.windowId).entry starts).2 with sender := none })
      (.dropped frame.windowId frame.frameId nowUs)
    exact ⟨report_reports (s.setLane frame.windowId _) _, report_delivered _ _, hheld, hsink,
      hopen⟩

/-! ## One step of a worker -/

section Work

variable [FrameDecoder X D] {factory : DecoderFactory X D}

/-- What a report and a picture come to for the frame that was finished with. -/
theorem Reported.hits {frame : FrameData} {picture : Option FrameData} {r : FrameReport}
    (h : Reported v (frame, picture) r) (hframe : frame.windowId = v)
    (hpicture : ∀ p, picture = some p → p.key = frame.key) :
    tally FrameData.key k picture.toList + hit FrameReport.drops k r =
      hit FrameData.key k frame := by
  subst hframe
  cases h with
  | decoded frame picture nowUs =>
      have hhit := hit_congr (k := k) (hpicture picture rfl)
      have hreport : hit FrameReport.drops k (.decoded frame.windowId frame.frameId nowUs) = 0 :=
        hit_of_ne nofun
      simp only [Option.toList_some, tally_cons, tally_nil]
      omega
  | dropped frame nowUs =>
      simp only [Option.toList_none, tally_nil, Nat.zero_add]
      exact hit_congr rfl

/-- A frame that a worker has finished with is reported, or its picture is under way. -/
theorem finish_tallied (hs : s.Sound) (hopen : s.reportsOpen = true) {n : Nat}
    {worker : Worker D} (hget : (s.lanes v).threads[n]? = some worker) {frame : FrameData}
    (hphase : worker.phase = .working frame) {picture : Option FrameData} {r : FrameReport}
    (hreport : Reported v (frame, picture) r) (hkey : ∀ p, picture = some p → p.key = frame.key)
    (decoder : Option D) :
    let worker' := { worker with decoder, phase := picture.elim .waiting .delivering }
    ((s.setWorker v n worker').report r).Sound ∧ ∀ k,
      ((s.setWorker v n worker').report r).tallied k = s.tallied k := by
  intro worker'
  have hload : worker.load = frame :: worker.queue := by
    simp [Worker.load, hphase, WorkerPhase.inHand, WorkerPhase.picture]
  obtain ⟨hhand, hwaits, hruns⟩ := elim_phase picture
  have hload' : worker'.load = picture.toList ++ worker.queue := by
    simp only [Worker.load, worker', hhand, hwaits, List.nil_append]
  have hfiled := hs.of_worker hget
  have hframe : frame.windowId = v := hfiled frame (by simp [hload])
  have hpicture : ∀ p, picture = some p → p.windowId = v := by
    intro p hp
    have hids := hkey p hp
    simp only [FrameData.key, Option.some.injEq, Prod.mk.injEq] at hids
    exact hids.1.trans hframe
  constructor
  · apply Sound.report
    apply hs.setWorker
    · intro f hf
      rw [hload'] at hf
      rcases List.mem_append.mp hf with hf | hf
      · exact hpicture f (Option.mem_toList.mp hf)
      · exact hfiled f (by simp [hload, hf])
    · exact fun _ _ _ _ => hruns
  · intro k
    have hhits := hreport.hits (k := k) hframe hkey
    have hset := tallied_setWorker (k := k) hget worker' (tally FrameData.key k picture.toList)
      (hit FrameData.key k frame)
    rw [hload, hload', tally_append, tally_cons] at hset
    have hkept := hset (by omega)
    have hother : k.1 ≠ v → hit FrameData.key k frame = tally FrameData.key k picture.toList := by
      intro hk
      have := hit_key_of_ne (hframe ▸ hk)
      omega
    have := hkept hother
    have := tallied_report (s := s.setWorker v n worker') (k := k) hopen r
    omega

/-- A step of a worker loses no frame. -/
theorem work_tallied (hfaithful : Faithful X D) (hs : s.Sound) (hsink : s.sinkOpen = true)
    (hopen : s.reportsOpen = true) (v : UInt32) (n : Nat) (x : X) (nowUs : UInt64) :
    (s.work factory v n x nowUs).Sound ∧ ∀ k,
      (s.work factory v n x nowUs).tallied k = s.tallied k := by
  cases hget : (s.lanes v).threads[n]? with
  | none =>
      have hidle : s.work factory v n x nowUs = s := by
        unfold work
        rw [hget]
      rw [hidle]
      exact ⟨hs, fun _ => rfl⟩
  | some worker =>
      obtain ⟨lost, rfl⟩ : ∃ lost : List (Worker D), lost.length = n :=
        ⟨(s.lanes v).threads.take n, by
          rw [List.length_take, Nat.min_eq_left (List.getElem?_eq_some_iff.mp hget).1.le]⟩
      have hfiled := hs.of_worker hget
      have hworked := @work_worked_at X D _ factory s v lost worker hget x nowUs
      generalize s.work factory v lost.length x nowUs = s' at hworked
      cases hworked with
      | stopped => exact ⟨hs, fun _ => rfl⟩
      | idle => exact ⟨hs, fun _ => rfl⟩
      | ended hphase hqueue hsender =>
          have hload : Worker.load { worker with phase := .stopped } = worker.load := by
            simp [Worker.load, hphase, WorkerPhase.inHand, WorkerPhase.picture]
          refine ⟨hs.setWorker (hload ▸ hfiled) ?_, ?_⟩
          · intro b hb hv hqueue
            simp only [hasSender, Bool.or_eq_false_iff, List.any_eq_false, List.mem_filter,
              decide_eq_true_eq, and_imp] at hsender
            exact absurd hqueue (hsender.2 b hb hv)
          · exact fun k => tallied_setWorker_same hget hload
      | took frame rest hphase hqueue =>
          have hload :
              Worker.load { worker with queue := rest, phase := .working frame } = worker.load := by
            simp [Worker.load, hphase, hqueue, WorkerPhase.inHand, WorkerPhase.picture]
          refine ⟨hs.setWorker (hload ▸ hfiled) ?_, fun k => tallied_setWorker_same hget hload⟩
          intro b hb hv hqueue hstopped
          cases hstopped
      | finished x frame r hphase hreport =>
          exact finish_tallied hs hopen hget hphase hreport
            (fun p hp => decodeFrame_key hfaithful hp) _
      | delivered picture hphase hsink =>
          have hload : worker.load = picture :: worker.queue := by
            simp [Worker.load, hphase, WorkerPhase.inHand, WorkerPhase.picture]
          have hload' : Worker.load { worker with phase := .waiting } = worker.queue := by
            simp [Worker.load, WorkerPhase.inHand, WorkerPhase.picture]
          have hwindow : picture.windowId = v := hfiled picture (by simp [hload])
          have hs' : (s.deliver v picture).Sound := ⟨hs.filed, hs.alive⟩
          refine ⟨hs'.setWorker ?_ ?_, ?_⟩
          · intro f hf
            rw [hload'] at hf
            exact hfiled f (by simp [hload, hf])
          · intro b hb hv hqueue hstopped
            cases hstopped
          · intro k
            have hget' : ((s.deliver v picture).lanes v).threads[lost.length]? = some worker :=
              hget
            have hset := tallied_setWorker (k := k) hget' { worker with phase := .waiting } 0
              (hit FrameData.key k picture) (by rw [hload', hload, tally_cons]; omega)
              (fun hk => hit_key_of_ne (hwindow ▸ hk))
            rw [tallied_deliver] at hset
            omega
      | refused picture hphase hclosed =>
          rw [hsink] at hclosed
          cases hclosed

/-- A step of a worker goes on where the logs end. -/
theorem work_logs (s : DecodePipeline D) (v : UInt32) (n : Nat) (x : X) (nowUs : UInt64) :
    s.reports <+: (s.work factory v n x nowUs).reports ∧
      s.delivered <+: (s.work factory v n x nowUs).delivered := by
  have hsame : s.reports <+: s.reports ∧ s.delivered <+: s.delivered :=
    ⟨List.prefix_rfl, List.prefix_rfl⟩
  have hreport : ∀ (s' : DecodePipeline D) r, s'.reports = s.reports →
      s'.delivered = s.delivered →
        s.reports <+: (s'.report r).reports ∧ s.delivered <+: (s'.report r).delivered := by
    intro s' r hreports hdelivered
    rw [report_delivered, hdelivered, ← hreports]
    exact ⟨s'.report_reports r, List.prefix_rfl⟩
  unfold work
  split
  · exact hsame
  · split
    · exact hsame
    · split
      · exact hsame
      · split
        · exact hsame
        · exact hsame
    · split
      · exact hreport _ _ rfl rfl
      · exact hreport _ _ rfl rfl
    · split
      · exact ⟨List.prefix_rfl, List.prefix_append _ _⟩
      · exact hsame

end Work

end DecodePipeline

end Oxrdp
