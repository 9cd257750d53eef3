import Oxrdp.Agent.Pacing
import Oxrdp.Lib.Run
import Mathlib.Data.List.Range

/-!
# The frame budget over whole runs

What `FrameBudget` keeps, whatever the order of captures, acks and restarts.  A budget is
**paced** from an id on if its frames are in order, no more than it has room for, and none of
them is older than that id.  Each call keeps it (`call_paced`), and every capture gives out the
next id, so the ids of a run are counted through (`run_paced`).

A restart leaves nothing in flight: the frames that come after it are paced from the next id
on, which no ack of an earlier frame reaches.
-/

namespace Oxrdp

open Machine

/-- A call that changes the budget. -/
inductive BudgetCall where
  | onCaptured
  | onAck (frameId : UInt64)
  | restart
  deriving DecidableEq, Repr

/-- The ids that a run has given out. -/
def issued (out : List (Option UInt64)) : List UInt64 := out.filterMap id

@[simp] theorem issued_cons_some (f : UInt64) (out : List (Option UInt64)) :
    issued (some f :: out) = f :: issued out := rfl

@[simp] theorem issued_cons_none (out : List (Option UInt64)) :
    issued (none :: out) = issued out := rfl

namespace FrameBudget

variable {b b' : FrameBudget} {k : Nat}

/-- A call, with the id that it gives out; none where the counter overflows. -/
def call (b : FrameBudget) : BudgetCall → Option (Option UInt64 × FrameBudget)
  | .onCaptured => do
      let (frameId, b) ← b.onCaptured
      pure (some frameId, b)
  | .onAck frameId => some (none, b.onAck frameId)
  | .restart => some (none, b.restart)

/-- The frames in flight are in order, all given out, no more than there is room for, and none
is older than `k`. -/
structure Paced (k : Nat) (b : FrameBudget) : Prop extends b.Ordered where
  positive : 0 < b.maxInFlight
  bounded : b.inFlight.length ≤ b.maxInFlight
  recent : ∀ f ∈ b.inFlight, k ≤ f.toNat
  reached : k ≤ b.nextFrameId.toNat

theorem Paced.new (maxInFlight : UInt8) : Paced 1 (new maxInFlight) where
  toOrdered := .new maxInFlight
  positive := Nat.le_max_right _ _
  bounded := Nat.zero_le _
  recent := by
    intro f hf
    cases hf
  reached := Nat.le_refl 1

/-- Without frames in flight nothing is older than the next id. -/
theorem Paced.restart (h : Paced k b) : Paced b.nextFrameId.toNat b.restart where
  increasing := List.Pairwise.nil
  given := by
    intro f hf
    cases hf
  positive := h.positive
  bounded := Nat.zero_le _
  recent := by
    intro f hf
    cases hf
  reached := Nat.le_refl _

theorem Paced.older {j : Nat} (h : Paced k b) (hj : j ≤ k) : Paced j b where
  toOrdered := h.toOrdered
  positive := h.positive
  bounded := h.bounded
  recent := fun f hf => hj.trans (h.recent f hf)
  reached := hj.trans h.reached

theorem Paced.onAck (h : Paced k b) (frameId : UInt64) : Paced k (b.onAck frameId) where
  toOrdered := h.toOrdered.onAck frameId
  positive := h.positive
  bounded := (List.dropWhile_sublist _).length_le.trans h.bounded
  recent := fun f hf => h.recent f ((List.dropWhile_sublist _).subset hf)
  reached := h.reached

/-- Room is made by giving up the oldest frame. -/
theorem makeRoom_spec (b : FrameBudget) :
    b.makeRoom.inFlight <:+ b.inFlight ∧ b.makeRoom.nextFrameId = b.nextFrameId ∧
      b.makeRoom.maxInFlight = b.maxInFlight ∧
      (0 < b.maxInFlight → b.inFlight.length ≤ b.maxInFlight →
        b.makeRoom.inFlight.length < b.maxInFlight) := by
  unfold makeRoom
  split
  next hfull =>
    refine ⟨List.tail_suffix _, rfl, rfl, ?_⟩
    intro hpos hle
    rw [List.length_tail]
    omega
  next hroom => exact ⟨List.suffix_rfl, rfl, rfl, fun _ _ => Nat.lt_of_not_le hroom⟩

theorem Paced.onCaptured (h : Paced k b) {f : UInt64} (hcap : b.onCaptured = some (f, b')) :
    Paced k b' ∧ b'.maxInFlight = b.maxInFlight := by
  obtain ⟨hself, hnext⟩ := onCaptured_next hcap
  obtain ⟨hsuffix, hid, hmax, hroom⟩ := makeRoom_spec b
  have hin : b'.inFlight = b.makeRoom.inFlight ++ [f] ∧ b'.maxInFlight = b.maxInFlight := by
    unfold FrameBudget.onCaptured at hcap
    simp only at hcap
    split at hcap
    · cases hcap
      exact ⟨rfl, hmax⟩
    · cases hcap
  obtain ⟨hflight, hsame⟩ := hin
  refine ⟨?_, hsame⟩
  have hgiven : ∀ g ∈ b'.inFlight, g = f ∨ g ∈ b.inFlight := by
    intro g hg
    rw [hflight] at hg
    rcases List.mem_append.mp hg with hg | hg
    · exact .inr (hsuffix.subset hg)
    · exact .inl (List.mem_singleton.mp hg)
  constructor
  case toOrdered => exact h.toOrdered.extend hsuffix.sublist (hself ▸ hflight) hnext
  case positive => rw [hsame]; exact h.positive
  case bounded =>
    rw [hflight, hsame, List.length_append, List.length_singleton]
    exact hroom h.positive h.bounded
  case recent =>
    intro g hg
    rcases hgiven g hg with rfl | hg
    · rw [hself]
      exact h.reached
    · exact h.recent g hg
  case reached =>
    rw [hnext]
    exact h.reached.trans (Nat.le_succ _)

/-- What a call keeps.  Only a capture gives out an id, the next one. -/
theorem call_paced (h : Paced k b) {c : BudgetCall} {o : Option UInt64}
    (hcall : b.call c = some (o, b')) :
    Paced k b' ∧ b'.maxInFlight = b.maxInFlight ∧
      (match o with
        | some f => f = b.nextFrameId ∧ b'.nextFrameId.toNat = b.nextFrameId.toNat + 1
        | none => b'.nextFrameId = b.nextFrameId) := by
  cases c with
  | onCaptured =>
      obtain ⟨⟨f, b''⟩, hcap, heq⟩ := Option.bind_eq_some_iff.mp hcall
      cases heq
      obtain ⟨hpaced, hmax⟩ := h.onCaptured hcap
      exact ⟨hpaced, hmax, onCaptured_next hcap⟩
  | onAck frameId =>
      cases hcall
      exact ⟨h.onAck frameId, rfl, rfl⟩
  | restart =>
      cases hcall
      exact ⟨h.restart.older h.reached, rfl, rfl⟩

/-- What a run keeps: its ids count on from the next one. -/
theorem run_paced {calls : List BudgetCall} {out : List (Option UInt64)} (h : Paced k b)
    (hrun : run call b calls = some (out, b')) :
    Paced k b' ∧ b'.maxInFlight = b.maxInFlight ∧
      (issued out).map UInt64.toNat = List.range' b.nextFrameId.toNat (issued out).length ∧
      b'.nextFrameId.toNat = b.nextFrameId.toNat + (issued out).length := by
  induction calls generalizing b out with
  | nil =>
      cases hrun
      exact ⟨h, rfl, rfl, rfl⟩
  | cons c calls ih =>
      obtain ⟨o, m, rest, hcall, hrest, heq⟩ := run_cons_some.mp hrun
      simp only at hrest heq
      subst heq
      obtain ⟨hpaced, hmax, hid⟩ := call_paced h hcall
      obtain ⟨hpaced', hmax', hids, hnext⟩ := ih hpaced hrest
      cases o with
      | none =>
          simp only at hid
          rw [hid] at hids hnext
          exact ⟨hpaced', hmax'.trans hmax, hids, hnext⟩
      | some f =>
          obtain ⟨rfl, hsucc⟩ := hid
          refine ⟨hpaced', hmax'.trans hmax, ?_, ?_⟩
          · rw [issued_cons_some, List.map_cons, List.length_cons, List.range'_succ, hids, hsucc]
          · rw [hnext, hsucc, issued_cons_some, List.length_cons]
            omega

/-- The counter does not overflow before 2^64 - 1 captures. -/
theorem run_goes_on {calls : List BudgetCall}
    (h : b.nextFrameId.toNat + calls.count .onCaptured < 2 ^ 64) :
    (run call b calls).isSome := by
  induction calls generalizing b with
  | nil => rfl
  | cons c calls ih =>
      have hstep : ∃ o m, b.call c = some (o, m) ∧
          m.nextFrameId.toNat + calls.count .onCaptured < 2 ^ 64 := by
        cases c with
        | onCaptured =>
            rw [List.count_cons_self] at h
            have hroom : b.makeRoom.nextFrameId.toNat + 1 < 2 ^ 64 := by
              rw [(makeRoom_spec b).2.1]
              omega
            have hcap : ∃ r, b.onCaptured = some r := ⟨_, if_pos hroom⟩
            obtain ⟨⟨f, m⟩, hcap⟩ := hcap
            refine ⟨some f, m, ?_, ?_⟩
            · simp [call, hcap]
            · rw [(onCaptured_next hcap).2]
              omega
        | onAck frameId =>
            rw [List.count_cons_of_ne (by simp)] at h
            exact ⟨none, b.onAck frameId, rfl, h⟩
        | restart =>
            rw [List.count_cons_of_ne (by simp)] at h
            exact ⟨none, b.restart, rfl, h⟩
      obtain ⟨o, m, hcall, hm⟩ := hstep
      obtain ⟨⟨out, b'⟩, hrest⟩ := Option.isSome_iff_exists.mp (ih hm)
      apply Option.isSome_iff_exists.mpr
      exact ⟨(o :: out, b'), run_cons_some.mpr ⟨o, m, out, hcall, hrest, rfl⟩⟩

/-- An ack reaches no frame behind the one that it names. -/
theorem onAck_recent (h : Paced k b) {frameId : UInt64} (hold : frameId.toNat < k) :
    (b.onAck frameId).inFlight = b.inFlight := by
  rw [onAck_inFlight h.toOrdered, List.filter_eq_self]
  intro f hf
  have hle := h.recent f hf
  rw [decide_eq_true_eq, UInt64.lt_iff_toNat_lt]
  omega

/-- **The frame budget.**  In every run the ids are given out as 1, 2, 3 and so on, the frames
in flight are in order and no more than the budget allows, an ack retires exactly the frames up
to its id, and the ack of a frame from before a restart retires none from after it.  A run stops
only where the id counter would overflow. -/
theorem frame_budget (maxInFlight : UInt8) (calls : List BudgetCall) :
    (calls.count .onCaptured < 2 ^ 64 - 1 → (run call (new maxInFlight) calls).isSome) ∧
    ∀ out b, run call (new maxInFlight) calls = some (out, b) →
      (issued out).map UInt64.toNat = List.range' 1 (issued out).length ∧
      b.inFlight.Pairwise (· < ·) ∧
      b.inFlight.length ≤ max maxInFlight.toNat 1 ∧
      (∀ frameId, (b.onAck frameId).inFlight = b.inFlight.filter fun f => frameId < f) ∧
      ∀ before after, calls = before ++ .restart :: after →
        ∀ out₁ b₁, run call (new maxInFlight) before = some (out₁, b₁) →
          ∀ frameId ∈ issued out₁, (b.onAck frameId).inFlight = b.inFlight := by
  constructor
  · intro hfew
    apply run_goes_on
    have hfirst : (new maxInFlight).nextFrameId.toNat = 1 := rfl
    omega
  · intro out b hrun
    obtain ⟨hpaced, hmax, hids, -⟩ := run_paced (.new maxInFlight) hrun
    refine ⟨hids, hpaced.increasing, hpaced.bounded.trans_eq hmax,
      onAck_inFlight hpaced.toOrdered, ?_⟩
    rintro before after rfl out₁ b₁ hbefore frameId hfrom
    obtain ⟨out₁', m, out₂, hfirst, hrest, -⟩ := run_append_split hrun
    obtain ⟨rfl, rfl⟩ : out₁ = out₁' ∧ b₁ = m := by
      rw [hbefore] at hfirst
      simpa using hfirst
    obtain ⟨hpaced₁, -, hids₁, hnext₁⟩ := run_paced (.new maxInFlight) hbefore
    obtain ⟨o, m', rest, hcall, hafter, -⟩ := run_cons_some.mp hrest
    cases hcall
    -- what is in flight behind the restart is not older than the id that came next there
    have hrecent := (run_paced hpaced₁.restart hafter).1
    apply onAck_recent hrecent
    have hmem : frameId.toNat ∈ List.range' 1 (issued out₁).length := by
      have hmap := List.mem_map_of_mem (f := UInt64.toNat) hfrom
      rw [hids₁] at hmap
      exact hmap
    have hlt := (List.mem_range'_1.mp hmem).2
    rw [hnext₁]
    have hone : (new maxInFlight).nextFrameId.toNat = 1 := rfl
    omega

example : (run call (new 2) [.onCaptured, .onCaptured, .onCaptured, .onAck 2, .restart,
    .onCaptured, .onAck 3]).map (fun r => (issued r.1, r.2.inFlight, r.2.dropped)) =
      some ([1, 2, 3, 4], [4], 1) := by
  decide

end FrameBudget

end Oxrdp
