import Mathlib.Algebra.Order.Ring.Nat
import Mathlib.Data.List.Basic

/-!
# Per-window frame pacing

`pacing.rs` of the agent: the budget of unacknowledged frames of one window.
A capture is always admitted; when the budget is full the oldest frame in
flight is forgotten to make room for it.

The id counter is a `u64`.  `onCaptured` returns nothing where adding one to it
would overflow, which is an arithmetic panic in a checked build.
-/

namespace Oxrdp

/-- The unacknowledged frames of one window, the oldest first. -/
structure FrameBudget where
  maxInFlight : Nat
  inFlight : List UInt64
  nextFrameId : UInt64
  dropped : Nat
  sent : Nat
  deriving DecidableEq, Repr

namespace FrameBudget

/-- A budget of `maxInFlight` frames, but at least one. -/
def new (maxInFlight : UInt8) : FrameBudget :=
  { maxInFlight := max maxInFlight.toNat 1, inFlight := [], nextFrameId := 1,
    dropped := 0, sent := 0 }

/-- Whether a capture right now would displace no frame. -/
def hasHeadroom (b : FrameBudget) : Bool := b.inFlight.length < b.maxInFlight

/-- Forget the oldest frame if the budget is full. -/
def makeRoom (b : FrameBudget) : FrameBudget :=
  if b.inFlight.length ≥ b.maxInFlight then
    { b with inFlight := b.inFlight.tail, dropped := b.dropped + 1 }
  else b

/-- Admit a newly captured frame: its id, and the budget with it in flight. -/
def onCaptured (b : FrameBudget) : Option (UInt64 × FrameBudget) :=
  let b := b.makeRoom
  if b.nextFrameId.toNat + 1 < 2 ^ 64 then
    some (b.nextFrameId,
      { b with
        nextFrameId := b.nextFrameId + 1
        inFlight := b.inFlight ++ [b.nextFrameId]
        sent := b.sent + 1 })
  else
    none

/-- Acks are cumulative: the acknowledged frame and every older one retire. -/
def onAck (b : FrameBudget) (frameId : UInt64) : FrameBudget :=
  { b with inFlight := b.inFlight.dropWhile fun front => front ≤ frameId }

/-- Reset after a stream restart; the id sequence goes on. -/
def restart (b : FrameBudget) : FrameBudget := { b with inFlight := [] }

/-! ## Ids in order -/

/-- The frames in flight are in the order of their ids, all of them given out. -/
structure Ordered (b : FrameBudget) : Prop where
  increasing : b.inFlight.Pairwise (· < ·)
  given : ∀ f ∈ b.inFlight, f < b.nextFrameId

theorem Ordered.new (maxInFlight : UInt8) : (new maxInFlight).Ordered where
  increasing := List.Pairwise.nil
  given := by
    intro f hf
    cases hf

/-- A capture gets the next id, and leaves a higher one for the next. -/
theorem onCaptured_next {b b' : FrameBudget} {f : UInt64} (h : b.onCaptured = some (f, b')) :
    f = b.nextFrameId ∧ b'.nextFrameId.toNat = b.nextFrameId.toNat + 1 := by
  have hroom : b.makeRoom.nextFrameId = b.nextFrameId := by
    unfold makeRoom
    split
    · rfl
    · rfl
  unfold onCaptured at h
  simp only at h
  split at h
  · rename_i hnext
    cases h
    refine ⟨hroom, ?_⟩
    change (b.makeRoom.nextFrameId + 1).toNat = _
    rw [UInt64.toNat_add, hroom]
    rw [hroom] at hnext
    exact Nat.mod_eq_of_lt hnext
  · cases h

/-- The next id may join what is left of the frames in flight. -/
theorem Ordered.extend {b b' : FrameBudget} (hb : b.Ordered) {kept : List UInt64}
    (hkept : kept.Sublist b.inFlight) (hflight : b'.inFlight = kept ++ [b.nextFrameId])
    (hnext : b'.nextFrameId.toNat = b.nextFrameId.toNat + 1) : b'.Ordered where
  increasing := by
    rw [hflight]
    apply List.pairwise_append.mpr
    refine ⟨hb.increasing.sublist hkept, List.pairwise_singleton _ _, ?_⟩
    intro g hg k hk
    rw [List.mem_singleton.mp hk]
    exact hb.given g (hkept.subset hg)
  given := by
    intro g hg
    rw [hflight] at hg
    rw [UInt64.lt_iff_toNat_lt, hnext]
    rcases List.mem_append.mp hg with hg | hg
    · have hlt := UInt64.lt_iff_toNat_lt.mp (hb.given g (hkept.subset hg))
      omega
    · rw [List.mem_singleton.mp hg]
      omega

/-- With headroom a capture displaces nothing. -/
theorem onCaptured_headroom {b b' : FrameBudget} {f : UInt64} (h : b.onCaptured = some (f, b'))
    (hroom : b.hasHeadroom = true) :
    b'.inFlight = b.inFlight ++ [f] ∧ b'.maxInFlight = b.maxInFlight ∧
      (b.Ordered → b'.Ordered) := by
  have hlt : b.inFlight.length < b.maxInFlight := of_decide_eq_true hroom
  have hsame : b.makeRoom = b := if_neg (Nat.not_le.mpr hlt)
  obtain ⟨rfl, hnext⟩ := onCaptured_next h
  unfold onCaptured at h
  rw [hsame] at h
  simp only at h
  split at h
  · cases h
    exact ⟨rfl, rfl, fun hb => hb.extend (List.Sublist.refl _) rfl hnext⟩
  · cases h

/-- In an ordered budget an ack retires exactly the frames up to its id. -/
theorem onAck_inFlight {b : FrameBudget} (hb : b.Ordered) (frameId : UInt64) :
    (b.onAck frameId).inFlight = b.inFlight.filter fun f => frameId < f := by
  have hgen : ∀ l : List UInt64, l.Pairwise (· < ·) →
      l.dropWhile (fun front => front ≤ frameId) = l.filter fun f => frameId < f := by
    intro l hl
    induction l with
    | nil => rfl
    | cons a l ih =>
        obtain ⟨hhead, htail⟩ := List.pairwise_cons.mp hl
        by_cases ha : a ≤ frameId
        · have hnot : ¬frameId < a := UInt64.not_lt.mpr ha
          rw [List.dropWhile_cons_of_pos (by simpa using ha),
            List.filter_cons_of_neg (by simpa using ha), ih htail]
        · have hlt : frameId < a := UInt64.not_le.mp ha
          have hall : ∀ g ∈ a :: l, frameId < g := by
            intro g hg
            rcases List.mem_cons.mp hg with rfl | hg
            · exact hlt
            · exact UInt64.lt_trans hlt (hhead g hg)
          rw [List.dropWhile_cons_of_neg (by simpa using hlt)]
          exact (List.filter_eq_self.mpr fun g hg => decide_eq_true (hall g hg)).symm
  exact hgen b.inFlight hb.increasing

theorem Ordered.onAck {b : FrameBudget} (hb : b.Ordered) (frameId : UInt64) :
    (b.onAck frameId).Ordered := by
  have hsub : (b.onAck frameId).inFlight.Sublist b.inFlight := List.dropWhile_sublist _
  exact ⟨hb.increasing.sublist hsub, fun f hf => hb.given f (hsub.subset hf)⟩

end FrameBudget

end Oxrdp
