import Mathlib.Data.Real.Basic
import Mathlib.Tactic.Linarith
import Mathlib.Tactic.NormNum
import Oxrdp.Client.Offsets

/-!
# The offset and its error bound

What the client's offset estimate says about the clocks.  The true offset `θ t` is how far the
agent's clock is ahead when the client's reads `t` microseconds.  An exchange is **timed** by
`θ` if its ping took some time to reach the agent, its pong some time to come back, and the
offset did not change meanwhile.

Nothing is known about how the round trip splits into the two delays, so the middle of it is
off by at most half the round trip; halving an odd number of microseconds costs one more, and
rounding the drift allowance down costs another.  What the estimate cannot say is an offset
outside the 64-bit range, which is clamped, and a drift allowance that saturates.
-/

namespace Oxrdp

/-- The ping and the pong of the exchange took some time each, the agent's reading was its
clock in between, and the true offset did not change meanwhile. -/
def Exchange.Timed (θ : ℝ → ℝ) (e : Exchange) : Prop :=
  ∃ out back : ℝ, 0 ≤ out ∧ 0 ≤ back ∧
    (e.nowUs.toNat : ℝ) = e.sentUs.toNat + out + back ∧
    (e.agentUs.toNat : ℝ) = e.sentUs.toNat + out + θ (e.sentUs.toNat + out) ∧
    ∀ t, (e.sentUs.toNat : ℝ) ≤ t → t ≤ e.nowUs.toNat → θ t = θ e.nowUs.toNat

/-- After the exchange the true offset drifts by at most 100 parts per million. -/
def Exchange.Drifts (θ : ℝ → ℝ) (e : Exchange) : Prop :=
  ∀ t, (e.nowUs.toNat : ℝ) ≤ t → |θ t - θ e.nowUs.toNat| ≤ (t - e.nowUs.toNat) * 100 / 1000000

/-- The offset that the exchange measures fits the type it is stored in. -/
def Exchange.Fits (e : Exchange) : Prop :=
  -2 ^ 63 ≤ (e.agentUs.toNat : Int) - (e.sentUs.saturatingAdd (e.rtt / 2)).toNat ∧
    (e.agentUs.toNat : Int) - (e.sentUs.saturatingAdd (e.rtt / 2)).toNat < 2 ^ 63

/-- The drift allowance of an exchange does not saturate at `nowUs`. -/
def Exchange.Young (e : Exchange) (nowUs : UInt64) : Prop :=
  (nowUs.toNat - e.nowUs.toNat) * 100 < 2 ^ 64

instance (e : Exchange) : Decidable e.Fits := inferInstanceAs (Decidable (_ ∧ _))

instance (e : Exchange) (nowUs : UInt64) : Decidable (e.Young nowUs) := Nat.decLt _ _

/-- A run with honest exchanges, queried at `nowUs`: pongs come in send order, delays are not
negative, the offset is constant during each exchange and drifts slowly afterwards. -/
structure HonestRun (θ : ℝ → ℝ) (ops : List SessionOp) (nowUs : UInt64) : Prop where
  order : InSendOrder (exchanges ops)
  timed : ∀ e ∈ exchanges ops, e.Timed θ
  drifts : ∀ e ∈ exchanges ops, e.Drifts θ
  later : ∀ e ∈ exchanges ops, e.nowUs ≤ nowUs

/-- A query at `nowUs` gives nothing before the first exchange.  Later it gives the offset and
the bound of a sample that is kept; the offset is within the bound of the true one, give or
take 2 microseconds, and no sample that is kept has a smaller bound. -/
def OffsetSound (θ : ℝ → ℝ) (s : SessionClock) (ops : List SessionOp) (nowUs : UInt64) : Prop :=
  exchanges ops = [] ∧ s.clockOffsetUs nowUs = none ∨
    ∃ sample ∈ s.offsets.recent,
      s.clockOffsetUs nowUs = some sample.offsetUs ∧
      s.offsetErrorBoundUs nowUs = some (sample.errorBoundUs nowUs) ∧
      |(sample.offsetUs.toInt : ℝ) - θ nowUs.toNat| ≤ (sample.errorBoundUs nowUs).toNat + 2 ∧
      ∀ other ∈ s.offsets.recent, sample.errorBoundUs nowUs ≤ other.errorBoundUs nowUs

/-! ## One exchange -/

/-- Half a number of microseconds is at most one below the half. -/
theorem toNat_half (rtt : UInt64) :
    2 * (rtt / 2).toNat ≤ rtt.toNat ∧ rtt.toNat ≤ 2 * (rtt / 2).toNat + 1 := by
  rw [UInt64.toNat_div]
  change 2 * (rtt.toNat / 2) ≤ rtt.toNat ∧ rtt.toNat ≤ 2 * (rtt.toNat / 2) + 1
  omega

/-- The middle of a round trip that took no negative time lies inside it. -/
theorem Exchange.toNat_midpoint {e : Exchange} (h : e.sentUs.toNat ≤ e.nowUs.toNat) :
    (e.sentUs.saturatingAdd (e.rtt / 2)).toNat = e.sentUs.toNat + (e.rtt / 2).toNat ∧
      e.rtt.toNat = e.nowUs.toNat - e.sentUs.toNat := by
  have hrtt : e.rtt.toNat = e.nowUs.toNat - e.sentUs.toNat := UInt64.toNat_saturatingSub _ _
  have hhalf := (toNat_half e.rtt).1
  have hlt := e.nowUs.toNat_lt
  refine ⟨?_, hrtt⟩
  rw [UInt64.toNat_saturatingAdd]
  omega

/-- At the end of its exchange a measured offset is off by at most half the round trip, and
one microsecond for halving. -/
theorem Exchange.offset_error {θ : ℝ → ℝ} {e : Exchange} (ht : e.Timed θ) (hf : e.Fits) :
    |(e.offset.toInt : ℝ) - θ e.nowUs.toNat| ≤ (e.rtt / 2).toNat + 1 := by
  obtain ⟨out, back, hout, hback, hnow, hagent, hconst⟩ := ht
  have hle : e.sentUs.toNat ≤ e.nowUs.toNat := by
    have : (e.sentUs.toNat : ℝ) ≤ e.nowUs.toNat := by linarith
    exact_mod_cast this
  obtain ⟨hmid, hrtt⟩ := Exchange.toNat_midpoint hle
  have hsame : θ (e.sentUs.toNat + out) = θ e.nowUs.toNat := by
    apply hconst
    · linarith
    · linarith
  -- in the reals, the measured offset is the true one plus how far the agent's reading was
  -- from the middle
  have hoffset : (e.offset.toInt : ℝ) = out - (e.rtt / 2).toNat + θ e.nowUs.toNat := by
    have hclamp : e.offset.toInt =
        (e.agentUs.toNat : Int) - (e.sentUs.saturatingAdd (e.rtt / 2)).toNat :=
      Int64.toInt_clamp hf.1 hf.2
    rw [hclamp, hmid]
    push_cast
    linarith
  have htrip : (e.rtt.toNat : ℝ) = out + back := by
    rw [hrtt, Nat.cast_sub hle]
    linarith
  have hhalf : (e.rtt.toNat : ℝ) ≤ 2 * (e.rtt / 2).toNat + 1 := by
    exact_mod_cast (toNat_half e.rtt).2
  rw [hoffset, abs_le]
  constructor
  · linarith
  · linarith

/-- The drift allowance, rounded down, unless it saturates. -/
theorem OffsetSample.toNat_errorBoundUs (s : OffsetSample) {nowUs : UInt64}
    (hage : (nowUs.toNat - s.takenAtUs.toNat) * 100 < 2 ^ 64) :
    (s.errorBoundUs nowUs).toNat =
      (s.rttUs / 2).toNat + (nowUs.toNat - s.takenAtUs.toNat) * 100 / 1000000 := by
  have hmul : ((nowUs.saturatingSub s.takenAtUs).saturatingMul clockDriftPpm).toNat =
      (nowUs.toNat - s.takenAtUs.toNat) * 100 := by
    rw [UInt64.toNat_saturatingMul, UInt64.toNat_saturatingSub]
    change min ((nowUs.toNat - s.takenAtUs.toNat) * 100) _ = _
    omega
  have hhalf := (toNat_half s.rttUs).1
  have hrtt := s.rttUs.toNat_lt
  have hdrift : ((nowUs.saturatingSub s.takenAtUs).saturatingMul clockDriftPpm / 1000000).toNat =
      (nowUs.toNat - s.takenAtUs.toNat) * 100 / 1000000 := by
    rw [UInt64.toNat_div, hmul]
    rfl
  rw [errorBoundUs, UInt64.toNat_add, hdrift]
  apply Nat.mod_eq_of_lt
  omega

/-- An exchange's sample is within its bound at any later time. -/
theorem Exchange.sample_error {θ : ℝ → ℝ} {e : Exchange} {nowUs : UInt64} (ht : e.Timed θ)
    (hd : e.Drifts θ) (hf : e.Fits) (hlater : e.nowUs ≤ nowUs)
    (hage : e.Young nowUs) :
    |(e.sample.offsetUs.toInt : ℝ) - θ nowUs.toNat| ≤ (e.sample.errorBoundUs nowUs).toNat + 2 := by
  have hle : e.nowUs.toNat ≤ nowUs.toNat := hlater
  have hstart := Exchange.offset_error ht hf
  have hdrift := hd nowUs.toNat (by exact_mod_cast hle)
  have hround : ((nowUs.toNat - e.nowUs.toNat : ℕ) : ℝ) * 100 / 1000000 ≤
      ((nowUs.toNat - e.nowUs.toNat) * 100 / 1000000 : ℕ) + 1 := by
    have hnat : (nowUs.toNat - e.nowUs.toNat) * 100 ≤
        1000000 * ((nowUs.toNat - e.nowUs.toNat) * 100 / 1000000 + 1) := by
      omega
    have hreal : ((nowUs.toNat - e.nowUs.toNat : ℕ) : ℝ) * 100 ≤
        1000000 * (((nowUs.toNat - e.nowUs.toNat) * 100 / 1000000 : ℕ) + 1) := by
      exact_mod_cast hnat
    rw [div_le_iff₀ (by norm_num)]
    linarith
  rw [Nat.cast_sub hle] at hround
  have hbound : (e.sample.errorBoundUs nowUs).toNat =
      (e.rtt / 2).toNat + (nowUs.toNat - e.nowUs.toNat) * 100 / 1000000 :=
    e.sample.toNat_errorBoundUs hage
  rw [hbound]
  change |(e.offset.toInt : ℝ) - θ nowUs.toNat| ≤ _
  push_cast
  calc |(e.offset.toInt : ℝ) - θ nowUs.toNat|
      ≤ |(e.offset.toInt : ℝ) - θ e.nowUs.toNat| + |θ e.nowUs.toNat - θ nowUs.toNat| :=
        abs_sub_le _ _ _
    _ = |(e.offset.toInt : ℝ) - θ e.nowUs.toNat| + |θ nowUs.toNat - θ e.nowUs.toNat| := by
        rw [abs_sub_comm (θ e.nowUs.toNat)]
    _ ≤ _ := by linarith

/-! ## Runs -/

/-- What is selected has the smallest bound of all that is kept. -/
theorem OffsetEstimate.best_minimal {o : OffsetEstimate} {nowUs : UInt64} {s : OffsetSample}
    (h : o.best nowUs = some s) :
    s ∈ o.recent ∧ ∀ other ∈ o.recent, s.errorBoundUs nowUs ≤ other.errorBoundUs nowUs := by
  refine ⟨List.argmin_mem h, ?_⟩
  intro other hother
  exact List.le_of_mem_argmin hother h

/-- **The offset is within its bound.**  In every run with honest exchanges whose offsets fit
their type, as long as the drift allowance does not saturate, the client's offset differs from
the true one by at most the reported bound and 2 microseconds, and the sample it comes from has
the smallest bound of those kept. -/
theorem offset_sound (θ : ℝ → ℝ) (ops : List SessionOp) (nowUs : UInt64)
    (h : HonestRun θ ops nowUs) (hfits : ∀ e ∈ exchanges ops, e.Fits)
    (hage : ∀ e ∈ exchanges ops, e.Young nowUs) :
    OffsetSound θ (SessionClock.new.run ops) ops nowUs := by
  have hrecent := SessionClock.run_recent ops h.order
  cases hbest : (SessionClock.new.run ops).offsets.best nowUs with
  | none =>
      refine .inl ⟨?_, ?_⟩
      · have hnil := List.argmin_eq_none.mp hbest
        rwa [hrecent, lastSamples_eq_nil] at hnil
      · rw [SessionClock.clockOffsetUs, hbest]
        rfl
  | some sample =>
      obtain ⟨hmem, hmin⟩ := OffsetEstimate.best_minimal hbest
      refine .inr ⟨sample, hmem, ?_, ?_, ?_, hmin⟩
      · rw [SessionClock.clockOffsetUs, hbest]
        rfl
      · rw [SessionClock.offsetErrorBoundUs, hbest]
        rfl
      · rw [hrecent] at hmem
        obtain ⟨e, he, rfl⟩ := mem_lastSamples hmem
        exact Exchange.sample_error (h.timed e he) (h.drifts e he) (hfits e he) (h.later e he)
          (hage e he)

/-- A run with a single exchange, and a true offset under which it is honest. -/
theorem HonestRun.single {θ : ℝ → ℝ} {ops : List SessionOp} {e : Exchange} {nowUs : UInt64}
    (hops : exchanges ops = [e]) (htimed : e.Timed θ) (hdrifts : e.Drifts θ)
    (hlater : e.nowUs ≤ nowUs) : HonestRun θ ops nowUs := by
  constructor
  · rw [hops]
    exact List.pairwise_singleton _ _
  · rw [hops]
    simpa using htimed
  · rw [hops]
    simpa using hdrifts
  · rw [hops]
    simpa using hlater

/-- A constant offset does not drift. -/
theorem Exchange.drifts_const (e : Exchange) (offset : ℝ) : e.Drifts fun _ => offset := by
  intro t ht
  rw [sub_self, abs_zero]
  linarith

/-- An exchange of whole microseconds under a constant offset. -/
theorem Exchange.timed_const {e : Exchange} (out back offset : ℕ)
    (hnow : e.nowUs.toNat = e.sentUs.toNat + out + back)
    (hagent : e.agentUs.toNat = e.sentUs.toNat + out + offset) : e.Timed fun _ => (offset : ℝ) := by
  refine ⟨out, back, Nat.cast_nonneg out, Nat.cast_nonneg back, ?_, ?_, fun _ _ _ => rfl⟩
  · exact_mod_cast hnow
  · dsimp only
    exact_mod_cast hagent

/-- Two pings to an agent whose clock is 4000 ahead.  The second takes 1000 microseconds instead
of 200, most of them on the way back. -/
def twoPongs : List SessionOp :=
  [.ping 1000, .pong ⟨0, 1000, 5100⟩ 1200, .ping 10000, .pong ⟨1, 10000, 14300⟩ 11000]

/-- The first exchange is older, and its bound the smaller one all the same. -/
theorem offset_sound_two :
    HonestRun (fun _ => 4000) twoPongs 20000 ∧
      OffsetSound (fun _ => 4000) (SessionClock.new.run twoPongs) twoPongs 20000 ∧
      (SessionClock.new.run twoPongs).clockOffsetUs 20000 = some 4000 ∧
      (exchanges twoPongs).map (fun e => (e.offset, e.sample.errorBoundUs 20000)) =
        [(4000, 101), (3800, 500)] := by
  have hops : exchanges twoPongs = [⟨1000, 5100, 1200⟩, ⟨10000, 14300, 11000⟩] := by
    decide +kernel
  have hfirst : Exchange.Timed (fun _ => 4000) ⟨1000, 5100, 1200⟩ := by
    simpa using Exchange.timed_const 100 100 4000 (by decide) (by decide)
  have hsecond : Exchange.Timed (fun _ => 4000) ⟨10000, 14300, 11000⟩ := by
    simpa using Exchange.timed_const 300 700 4000 (by decide) (by decide)
  have hrun : HonestRun (fun _ => 4000) twoPongs 20000 := by
    constructor
    · rw [hops]
      decide
    · rw [hops]
      rintro e he
      rcases List.mem_pair.mp he with rfl | rfl
      · exact hfirst
      · exact hsecond
    · exact fun e _ => Exchange.drifts_const e _
    · rw [hops]
      decide
  refine ⟨hrun, offset_sound _ twoPongs 20000 hrun ?_ ?_, by decide +kernel, by decide +kernel⟩
  · rw [hops]
    decide
  · rw [hops]
    decide

/-- An agent whose clock reads `u64::MAX` when the client's reads 0. -/
def farPong : List SessionOp := [.ping 0, .pong ⟨0, 0, 18446744073709551615⟩ 0]

/-- Both clocks read 0. -/
def zeroPong : List SessionOp := [.ping 0, .pong ⟨0, 0, 0⟩ 0]

/-- The offset of the far agent is clamped to half of what it is.  And with a drift of 100 parts
per million, a query at the end of the client's clock gets an allowance that has saturated. -/
theorem out_of_range_unsound :
    (HonestRun (fun _ => 18446744073709551615) farPong 0 ∧
      ¬ OffsetSound (fun _ => 18446744073709551615) (SessionClock.new.run farPong) farPong 0) ∧
    HonestRun (fun t => t * 100 / 1000000) zeroPong 18446744073709551615 ∧
      ¬ OffsetSound (fun t => t * 100 / 1000000) (SessionClock.new.run zeroPong) zeroPong
        18446744073709551615 := by
  have hfar : exchanges farPong = [⟨0, 18446744073709551615, 0⟩] := by decide +kernel
  have hzero : exchanges zeroPong = [⟨0, 0, 0⟩] := by decide +kernel
  have hfarSample : (SessionClock.new.run farPong).offsets.recent =
      [⟨0, 9223372036854775807, 0⟩] := by decide +kernel
  have hzeroSample : (SessionClock.new.run zeroPong).offsets.recent = [⟨0, 0, 0⟩] := by
    decide +kernel
  refine ⟨⟨?_, ?_⟩, ?_, ?_⟩
  · apply HonestRun.single hfar _ (Exchange.drifts_const _ _) (by decide)
    simpa using Exchange.timed_const 0 0 18446744073709551615 (by decide) (by decide)
  · intro hsound
    rcases hsound with ⟨hnone, -⟩ | ⟨sample, hmem, -, -, herror, -⟩
    · rw [hfar] at hnone
      cases hnone
    · rw [hfarSample, List.mem_singleton] at hmem
      subst hmem
      have hbound : (OffsetSample.errorBoundUs ⟨0, 9223372036854775807, 0⟩ 0).toNat = 0 := by
        decide
      have hoffset : (9223372036854775807 : Int64).toInt = 9223372036854775807 := by decide
      rw [hbound, hoffset, abs_le] at herror
      norm_num at herror
  · apply HonestRun.single hzero _ _ (by decide)
    · refine ⟨0, 0, le_refl 0, le_refl 0, by norm_num, by norm_num, ?_⟩
      intro t hlow hhigh
      rw [le_antisymm hhigh hlow]
    · intro t ht
      have hpos : 0 ≤ t := by simpa using ht
      rw [abs_of_nonneg]
      · simp
      · simp
        linarith
  · intro hsound
    rcases hsound with ⟨hnone, -⟩ | ⟨sample, hmem, -, -, herror, -⟩
    · rw [hzero] at hnone
      cases hnone
    · rw [hzeroSample, List.mem_singleton] at hmem
      subst hmem
      have hbound : (OffsetSample.errorBoundUs ⟨0, 0, 0⟩ 18446744073709551615).toNat =
          18446744073709 := by
        decide
      have hoffset : (0 : Int64).toInt = 0 := by decide
      have hnow : (18446744073709551615 : UInt64).toNat = 18446744073709551615 := by decide
      rw [hbound, hoffset, hnow, abs_le] at herror
      norm_num at herror

end Oxrdp
