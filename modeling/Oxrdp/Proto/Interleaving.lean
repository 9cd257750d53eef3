import Mathlib.Algebra.BigOperators.Group.Finset.Piecewise
import Mathlib.Algebra.Order.BigOperators.Group.List
import Oxrdp.Proto.Fragmentation
import Oxrdp.Proto.Reassembly

/-!
# Reassembling interleaved messages

Messages are sent as one sequence per channel, and the chunks of different
channels may be mixed in any way that keeps each channel's own order.  The
reassembler gives every message back at its last chunk, provided the receiver's
two caps are never hit.

The caps are stated on the chunks alone (`partialChannels`, `bufferedBytes`),
without the reassembler.  The invariant `Following` ties the two together: each
channel's buffer is what has arrived of the message in flight, and what is still
to come on the channel continues it (`Awaits`).
-/

namespace Oxrdp

namespace Reassembler

/-! ## What is sent, and what should come back -/

/-- What a push returns. -/
abbrev Result := DecodeResult (Option RawMessage)

/-- Whether a chunk belongs to a channel. -/
def onChannel (c : UInt16) (k : Chunk) : Bool := k.1.channel == c

/-- What the chunks of `m` should give: nothing until the last one, then `m`. -/
def deliveries (m : RawMessage) (chunks : List Chunk) : List Result :=
  List.replicate (chunks.length - 1) (.ok none) ++ [.ok (some m)]

/-- The results of the pushes on one channel, in order. -/
def resultsOn (c : UInt16) (arrived : List Chunk) (results : List Result) : List Result :=
  ((arrived.zip results).filter fun x => onChannel c x.1).map Prod.snd

/-- `arrived` mixes the chunks of the messages `msgs c` of each channel `c`,
keeping each channel's order.  `lanes c` holds the chunks of one message after
the other. -/
structure Interleaving (msgs : UInt16 → List RawMessage)
    (lanes : UInt16 → List (List Chunk)) (arrived : List Chunk) : Prop where
  fit : ∀ c, ∀ m ∈ msgs c, m.payload.length ≤ maxMessageLen m.msgType
  sent : ∀ c, (msgs c).mapM (sentChunks c) = some (lanes c)
  order : ∀ c, arrived.filter (onChannel c) = (lanes c).flatten

/-- Every message comes back exactly once, whole, at its last chunk, with no
error on the way, and nothing is left pending. -/
def Delivered (msgs : UInt16 → List RawMessage) (lanes : UInt16 → List (List Chunk))
    (arrived : List Chunk) : Prop :=
  ∃ results r, pushAll new arrived = some (results, r) ∧
    (∀ res ∈ results, ∃ o, res = .ok o) ∧
    (∀ c, resultsOn c arrived results =
      ((msgs c).zip (lanes c)).flatMap fun x => deliveries x.1 x.2) ∧
    r.pendingChannels = 0 ∧ r.pendingBytes = 0

/-! ## The caps, on chunks alone -/

/-- How far the message in flight has come after one more chunk. -/
def received (got : Option Nat) (k : Chunk) : Option Nat :=
  if k.1.hasMore then some (got.getD 0 + k.2.length) else none

/-- The bytes received of the unfinished message on a channel, if there is one. -/
def inFlight (c : UInt16) (cs : List Chunk) : Option Nat :=
  (cs.filter (onChannel c)).foldl received none

/-- The channels that have carried a chunk. -/
def touched (cs : List Chunk) : Finset UInt16 := (cs.map fun k => k.1.channel).toFinset

/-- How many channels are partially received. -/
def partialChannels (cs : List Chunk) : Nat :=
  ((touched cs).filter fun c => (inFlight c cs).isSome).card

/-- How many bytes are buffered over all channels. -/
def bufferedBytes (cs : List Chunk) : Nat := ∑ c ∈ touched cs, (inFlight c cs).getD 0

/-- At no time are more channels partially received than the receiver allows. -/
def ChannelsWithin (arrived : List Chunk) : Prop :=
  ∀ p, p <+: arrived → partialChannels p ≤ maxPendingChannels

/-- At no time are more bytes left buffered than the receiver allows. -/
def BytesWithin (arrived : List Chunk) : Prop :=
  ∀ p, p <+: arrived → bufferedBytes p ≤ maxPendingBytes

/-- A chunk that is buffered, be it only until its message is complete, fits on
top of what is buffered when it arrives. -/
def ArrivalsWithin (arrived : List Chunk) : Prop :=
  ∀ p k, p ++ [k] <+: arrived →
    (k.1.hasMore = true ∨ (inFlight k.1.channel p).isSome = true) →
      bufferedBytes p + k.2.length ≤ maxPendingBytes

/-- What is in flight on a channel, one chunk later. -/
theorem inFlight_snoc (c : UInt16) (past : List Chunk) (k : Chunk) :
    inFlight c (past ++ [k]) =
      if k.1.channel = c then received (inFlight c past) k else inFlight c past := by
  by_cases h : k.1.channel = c
  · simp [inFlight, onChannel, h]
  · simp [inFlight, onChannel, h]

/-- On a channel without chunks nothing is in flight. -/
theorem inFlight_untouched {c : UInt16} {cs : List Chunk} (h : c ∉ touched cs) :
    inFlight c cs = none := by
  have hnone : cs.filter (onChannel c) = [] := by
    rw [List.filter_eq_nil_iff]
    intro k hk hc
    apply h
    rw [touched, List.mem_toFinset, List.mem_map]
    exact ⟨k, hk, by simpa [onChannel] using hc⟩
  simp [inFlight, hnone]

/-- The channels that were used, one chunk later. -/
theorem touched_snoc (past : List Chunk) (k : Chunk) :
    touched (past ++ [k]) = insert k.1.channel (touched past) := by
  ext c
  simp [touched, eq_comm]

/-- The first chunk of a message makes one more channel partial. -/
theorem partialChannels_snoc_new {past : List Chunk} {k : Chunk}
    (hnew : inFlight k.1.channel past = none) (hmore : k.1.hasMore = true) :
    partialChannels (past ++ [k]) = partialChannels past + 1 := by
  have hset : (touched (past ++ [k])).filter (fun c => (inFlight c (past ++ [k])).isSome) =
      insert k.1.channel ((touched past).filter fun c => (inFlight c past).isSome) := by
    ext c
    rw [Finset.mem_filter, Finset.mem_insert, Finset.mem_filter, touched_snoc,
      Finset.mem_insert, inFlight_snoc]
    by_cases hc : k.1.channel = c
    · simp [hc, received, hmore]
    · simp [hc, Ne.symm hc]
  rw [partialChannels, hset, Finset.card_insert_of_notMem, partialChannels]
  simp [hnew]

/-- A chunk that joins a message in flight adds its bytes; a last chunk takes the
message's bytes away. -/
theorem bufferedBytes_snoc (past : List Chunk) (k : Chunk) :
    bufferedBytes (past ++ [k]) + (inFlight k.1.channel past).getD 0 =
      bufferedBytes past + (received (inFlight k.1.channel past) k).getD 0 := by
  let all := insert k.1.channel (touched past)
  have hmem : k.1.channel ∈ all := Finset.mem_insert_self _ _
  have hpast : bufferedBytes past = ∑ c ∈ all, (inFlight c past).getD 0 := by
    refine Finset.sum_subset (Finset.subset_insert _ _) ?_
    intro c _ hc
    rw [inFlight_untouched hc]
    rfl
  have hothers : ∑ c ∈ all.erase k.1.channel, (inFlight c (past ++ [k])).getD 0 =
      ∑ c ∈ all.erase k.1.channel, (inFlight c past).getD 0 := by
    refine Finset.sum_congr rfl ?_
    intro c hc
    rw [inFlight_snoc, if_neg (Ne.symm (Finset.ne_of_mem_erase hc))]
  have hself : inFlight k.1.channel (past ++ [k]) =
      received (inFlight k.1.channel past) k := by
    rw [inFlight_snoc, if_pos rfl]
  rw [hpast, bufferedBytes, touched_snoc, ← Finset.add_sum_erase _ _ hmem,
    ← Finset.add_sum_erase all (fun c => (inFlight c past).getD 0) hmem, hothers, hself]
  omega

/-- The bytes of the chunks that more chunks follow. -/
def moreBytes (cs : List Chunk) : Nat :=
  ((cs.filter fun k => k.1.hasMore).map fun k => k.2.length).sum

/-- No more is buffered than has arrived in unfinished messages, and exactly that
much while no message has been finished. -/
theorem bufferedBytes_le (cs : List Chunk) :
    bufferedBytes cs ≤ moreBytes cs ∧
      ((∀ k ∈ cs, k.1.hasMore = true) → bufferedBytes cs = moreBytes cs) := by
  induction cs using List.reverseRecOn with
  | nil => simp [bufferedBytes, moreBytes, touched]
  | append_singleton past k ih =>
      have hsnoc := bufferedBytes_snoc past k
      obtain ⟨hle, heq⟩ := ih
      cases hmore : k.1.hasMore with
      | true =>
          have hbytes : moreBytes (past ++ [k]) = moreBytes past + k.2.length := by
            simp [moreBytes, hmore]
          simp only [received, hmore, if_true, Option.getD_some] at hsnoc
          refine ⟨by omega, ?_⟩
          intro hall
          have := heq fun k' hk' => hall k' (List.mem_append_left _ hk')
          omega
      | false =>
          have hbytes : moreBytes (past ++ [k]) = moreBytes past := by
            simp [moreBytes, hmore]
          simp only [received, hmore, Bool.false_eq_true, if_false, Option.getD_none]
            at hsnoc
          refine ⟨by omega, ?_⟩
          intro hall
          have := hall k (List.mem_append_right _ List.mem_cons_self)
          rw [hmore] at this
          cases this

/-- A longer past has no fewer bytes in unfinished messages. -/
theorem moreBytes_mono {p cs : List Chunk} (h : p <+: cs) :
    moreBytes p ≤ moreBytes cs := by
  obtain ⟨q, rfl⟩ := h
  simp [moreBytes]

/-- Few channels in use, few channels partially received. -/
theorem channelsWithin_of_card {cs : List Chunk} (s : Finset UInt16)
    (hmem : ∀ k ∈ cs, k.1.channel ∈ s) (hcard : s.card ≤ maxPendingChannels) :
    ChannelsWithin cs := by
  intro p hp
  have hsub : touched p ⊆ s := by
    intro c hc
    rw [touched, List.mem_toFinset, List.mem_map] at hc
    obtain ⟨k, hk, rfl⟩ := hc
    exact hmem k (hp.subset hk)
  exact ((Finset.card_filter_le _ _).trans (Finset.card_le_card hsub)).trans hcard

/-! ## One channel -/

/-- The bytes a channel holds. -/
def held (o : Option Pending) : List UInt8 := o.elim [] Pending.buf

/-- A chunk that continues what a channel holds. -/
structure Fits (o : Option Pending) (k : Chunk) : Prop where
  length : k.2.length = k.1.length.toNat
  type : ∀ p, o = some p → p.msgType = k.1.msgType
  limit : (held o).length + k.2.length ≤ maxMessageLen k.1.msgType

/-- From what a channel holds and the chunks still to come on it, the results
its pushes will give. -/
inductive Awaits : Option Pending → List Chunk → List Result → Prop
  | done : Awaits none [] []
  | last {o : Option Pending} {k : Chunk} {rest : List Chunk} {exp : List Result}
      (hfits : Fits o k) (hmore : k.1.hasMore = false) (hrest : Awaits none rest exp) :
      Awaits o (k :: rest) (.ok (some ⟨k.1.msgType, held o ++ k.2⟩) :: exp)
  | more {o : Option Pending} {k : Chunk} {rest : List Chunk} {exp : List Result}
      (hfits : Fits o k) (hmore : k.1.hasMore = true)
      (hrest : Awaits (some ⟨k.1.msgType, held o ++ k.2⟩) rest exp) :
      Awaits o (k :: rest) (.ok none :: exp)

/-- Every message has a chunk. -/
theorem chunksOf_ne_nil (t : UInt8) (c : UInt16) (payload : List UInt8) :
    chunksOf t c payload ≠ [] := by
  rw [chunksOf]
  split <;> simp

/-- A message is delivered with its last chunk. -/
theorem deliveries_cons (m : RawMessage) (k : Chunk) {ks : List Chunk} (h : ks ≠ []) :
    deliveries m (k :: ks) = .ok none :: deliveries m ks := by
  obtain ⟨k', ks', rfl⟩ := List.exists_cons_of_ne_nil h
  simp [deliveries, List.replicate_succ]

/-- The chunks of the rest of a message bring the whole of it.  The induction is
on the rest; what is held grows by one full chunk each time. -/
theorem chunksOf_awaits (m : RawMessage) (c : UInt16) (payload : List UInt8)
    (hlimit : m.payload.length ≤ maxMessageLen m.msgType)
    {rest : List Chunk} {exp : List Result} (hrest : Awaits none rest exp) :
    ∀ o : Option Pending, (∀ p, o = some p → p.msgType = m.msgType) →
      held o ++ payload = m.payload →
      Awaits o (chunksOf m.msgType c payload ++ rest)
        (deliveries m (chunksOf m.msgType c payload) ++ exp) := by
  fun_induction chunksOf m.msgType c payload with
  | case1 payload hsmall =>
      intro o htype hheld
      have hlen := congrArg List.length hheld
      rw [List.length_append] at hlen
      have hfits : Fits o (chunkOf m.msgType c payload false) :=
        ⟨(chunkOf_length hsmall).symm, htype, by simpa [hlen] using hlimit⟩
      have hm : (⟨m.msgType, held o ++ payload⟩ : RawMessage) = m := by rw [hheld]
      have hlast := Awaits.last hfits (chunkOf_hasMore _ _ _ _) hrest
      rw [chunkOf_msgType, chunkOf_payload, hm] at hlast
      simpa [deliveries] using hlast
  | case2 payload hlarge ih =>
      intro o htype hheld
      have hlen := congrArg List.length hheld
      rw [List.length_append] at hlen
      have hfull : (payload.take maxChunkPayload).length ≤ maxChunkPayload :=
        List.length_take_le _ _
      have htake : (payload.take maxChunkPayload).length ≤ payload.length :=
        List.length_take_le' _ _
      have hfits : Fits o (chunkOf m.msgType c (payload.take maxChunkPayload) true) :=
        ⟨(chunkOf_length hfull).symm, htype, by
          rw [chunkOf_payload, chunkOf_msgType]
          omega⟩
      have hgrown : held (some ⟨m.msgType, held o ++ payload.take maxChunkPayload⟩) ++
          payload.drop maxChunkPayload = m.payload := by
        simpa [held] using hheld
      have htail := ih _ (by rintro p ⟨⟩; rfl) hgrown
      rw [deliveries_cons _ _ (chunksOf_ne_nil _ _ _)]
      exact Awaits.more hfits (chunkOf_hasMore _ _ _ _) htail

/-- A channel that carries whole messages one after the other. -/
theorem lane_awaits (c : UInt16) :
    ∀ {msgs : List RawMessage} {lanes : List (List Chunk)},
      (∀ m ∈ msgs, m.payload.length ≤ maxMessageLen m.msgType) →
      msgs.mapM (sentChunks c) = some lanes →
      Awaits none lanes.flatten ((msgs.zip lanes).flatMap fun x => deliveries x.1 x.2) := by
  intro msgs
  induction msgs with
  | nil =>
      intro lanes _ hsent
      cases hsent
      exact Awaits.done
  | cons m msgs ih =>
      intro lanes hfit hsent
      rw [List.mapM_cons, sentChunks_eq] at hsent
      obtain ⟨head, hhead, hsent⟩ := Option.bind_eq_some_iff.mp hsent
      obtain ⟨tail, htail, hlanes⟩ := Option.bind_eq_some_iff.mp hsent
      cases hhead
      cases hlanes
      have hrest := ih (fun m' hm' => hfit m' (List.mem_cons_of_mem _ hm')) htail
      exact chunksOf_awaits m c m.payload (hfit m List.mem_cons_self) hrest none
        (by rintro p ⟨⟩) rfl

/-! ## The invariant -/

/-- The reassembler after `past`, with `rest` still to come: each channel holds
what has arrived of the message in flight on it, and what is still to come on
it will give the results `exp`. -/
structure Following (r : Reassembler) (past rest : List Chunk)
    (exp : UInt16 → List Result) : Prop where
  wf : r.WellFormed
  lens : ∀ c, (r.pending.lookup c).map bufLen = inFlight c past
  awaits : ∀ c, Awaits (r.pending.lookup c) (rest.filter (onChannel c)) (exp c)

section Accounts

variable {r : Reassembler} {past rest : List Chunk} {exp : UInt16 → List Result}

/-- On a channel without chunks nothing is pending. -/
theorem Following.untouched (hf : Following r past rest exp) {c : UInt16}
    (hc : c ∉ touched past) : r.pending.lookup c = none := by
  have hlen := hf.lens c
  rw [inFlight_untouched hc, Option.map_eq_none_iff] at hlen
  exact hlen

/-- The running total is what the chunks say is buffered. -/
theorem Following.pendingBytes_eq (hf : Following r past rest exp) :
    r.pendingBytes = bufferedBytes past := by
  rw [hf.wf.bytes_eq, Table.weight_eq_sum _ _ _ fun c hc => hf.untouched hc, bufferedBytes]
  refine Finset.sum_congr rfl ?_
  intro c _
  rw [← hf.lens c]
  cases r.pending.lookup c <;> rfl

/-- The channels with something pending are those with an unfinished message. -/
theorem Following.pendingChannels_eq (hf : Following r past rest exp) :
    r.pendingChannels = partialChannels past := by
  rw [pendingChannels, Table.size_eq_weight,
    Table.weight_eq_sum _ _ _ fun c hc => hf.untouched hc, partialChannels,
    Finset.card_filter]
  refine Finset.sum_congr rfl ?_
  intro c _
  rw [← hf.lens c]
  cases r.pending.lookup c <;> rfl

/-- Something is pending exactly where a message is unfinished. -/
theorem Following.isSome_iff (hf : Following r past rest exp) (c : UInt16) :
    (r.pending.lookup c).isSome = (inFlight c past).isSome := by
  rw [← hf.lens c, Option.isSome_map]

end Accounts

/-- What a push on a followed channel does to it, as the channel sees it. -/
theorem Fits.push {r : Reassembler} {k : Chunk} (hwf : r.WellFormed)
    (hfits : Fits (r.pending.lookup k.1.channel) k)
    (hroom : r.pending.lookup k.1.channel = none → k.1.hasMore = true →
      r.pendingChannels < maxPendingChannels)
    (hbytes : k.1.hasMore = true ∨ (r.pending.lookup k.1.channel).isSome = true →
      r.pendingBytes + k.2.length ≤ maxPendingBytes) :
    ∃ r', push r k.1 k.2 = some (.ok (if k.1.hasMore then none else
          some ⟨k.1.msgType, held (r.pending.lookup k.1.channel) ++ k.2⟩), r') ∧
      r'.WellFormed ∧
      ∀ c, r'.pending.lookup c =
        if c = k.1.channel then
          if k.1.hasMore then
            some ⟨k.1.msgType, held (r.pending.lookup k.1.channel) ++ k.2⟩
          else none
        else r.pending.lookup c := by
  obtain ⟨res, r', hpush, hout⟩ := push_outcome hwf.bytes_eq k.1 k.2
  have hwf' : r'.WellFormed := (hout.safe hwf).1
  have hlimit := hfits.limit
  cases hout with
  | refused e hguard =>
      exfalso
      rcases hguard with hlen | ⟨hp, hover⟩ | ⟨hp, hfull, hmore⟩ | ⟨hbuf, hover⟩
      · exact hlen hfits.length
      · omega
      · exact absurd (hroom hp hmore) (Nat.not_lt.mpr hfull)
      · exact absurd (hbytes hbuf) (Nat.not_le.mpr hover)
  | discarded e p hp hguard =>
      exfalso
      rcases hguard with htype | hover
      · exact htype (hfits.type p hp)
      · rw [hp] at hlimit
        simp only [held, Option.elim_some] at hlimit
        omega
  | single hp hmore hlen =>
      refine ⟨r, ?_, hwf', ?_⟩
      · simp [hpush, hmore, hp, held]
      · intro c
        by_cases hc : c = k.1.channel
        · rw [hc, hp]
          simp [hmore]
        · simp [hc]
  | grown p hmore hp htype hlen hb hr =>
      have hheld : held (r.pending.lookup k.1.channel) = p.buf := by
        rw [hp]
        cases r.pending.lookup k.1.channel <;> rfl
      refine ⟨_, ?_, hwf', ?_⟩
      · simp [hpush, hmore]
      · intro c
        simp only [grownBy, Table.lookup_insert_ite, hmore, if_true, hheld, htype]
  | completed p hmore hp htype hlen hb =>
      refine ⟨_, ?_, hwf', ?_⟩
      · simp [hpush, hmore, hp, held, htype]
      · intro c
        simp only [without, Table.lookup_erase_ite, hmore, Bool.false_eq_true, if_false]

/-- The next chunk of a channel continues what the channel holds, and what comes
after it continues the result. -/
theorem Awaits.next {o : Option Pending} {k : Chunk} {rest : List Chunk}
    {exp : List Result} (h : Awaits o (k :: rest) exp) :
    Fits o k ∧ ∃ tail,
      exp = .ok (if k.1.hasMore then none else some ⟨k.1.msgType, held o ++ k.2⟩) :: tail ∧
      Awaits (if k.1.hasMore then some ⟨k.1.msgType, held o ++ k.2⟩ else none)
        rest tail := by
  cases h with
  | @last _ _ _ tail hfits hmore hrest =>
      exact ⟨hfits, tail, by simp [hmore], by simpa [hmore] using hrest⟩
  | @more _ _ _ tail hfits hmore hrest =>
      exact ⟨hfits, tail, by simp [hmore], by simpa [hmore] using hrest⟩

/-- A chunk is the first of its channel. -/
theorem filter_cons_self (k : Chunk) (rest : List Chunk) :
    (k :: rest).filter (onChannel k.1.channel) =
      k :: rest.filter (onChannel k.1.channel) := by
  simp [onChannel]

/-- A chunk of another channel is passed by. -/
theorem filter_cons_other {k : Chunk} {c : UInt16} (h : c ≠ k.1.channel)
    (rest : List Chunk) :
    (k :: rest).filter (onChannel c) = rest.filter (onChannel c) := by
  simp [onChannel, Ne.symm h]

/-- **One arrival.**  A chunk that the caps admit is taken without error, gives
the result its channel awaits, and leaves every other channel alone. -/
theorem Following.step {r : Reassembler} {past rest : List Chunk} {k : Chunk}
    {exp : UInt16 → List Result} (hf : Following r past (k :: rest) exp)
    (hroom : partialChannels (past ++ [k]) ≤ maxPendingChannels)
    (hbytes : k.1.hasMore = true ∨ (inFlight k.1.channel past).isSome = true →
      bufferedBytes past + k.2.length ≤ maxPendingBytes) :
    ∃ o r' exp', push r k.1 k.2 = some (.ok o, r') ∧
      Following r' (past ++ [k]) rest exp' ∧
      ∀ c, exp c = if c = k.1.channel then .ok o :: exp' c else exp' c := by
  have hself := hf.awaits k.1.channel
  rw [filter_cons_self] at hself
  obtain ⟨hfits, tail, hexp, htail⟩ := hself.next
  obtain ⟨r', hpush, hwf', hlookup⟩ := hfits.push hf.wf
    (by
      intro hp hmore
      have hnew : inFlight k.1.channel past = none := by
        rw [← hf.lens, hp]
        rfl
      rw [partialChannels_snoc_new hnew hmore] at hroom
      rw [hf.pendingChannels_eq]
      omega)
    (by
      rw [hf.isSome_iff, hf.pendingBytes_eq]
      exact hbytes)
  refine ⟨_, r', fun c => if c = k.1.channel then tail else exp c, hpush,
    ⟨hwf', ?_, ?_⟩, ?_⟩
  · intro c
    rw [hlookup, inFlight_snoc, ← hf.lens c]
    by_cases hc : c = k.1.channel
    · subst hc
      cases hmore : k.1.hasMore with
      | false => simp [received, hmore]
      | true =>
          simp only [received, hmore, if_true, Option.map_some, bufLen, List.length_append]
          cases r.pending.lookup k.1.channel <;> rfl
    · simp [hc, Ne.symm hc]
  · intro c
    rw [hlookup]
    by_cases hc : c = k.1.channel
    · subst hc
      simpa using htail
    · simpa [hc, filter_cons_other hc] using hf.awaits c
  · intro c
    by_cases hc : c = k.1.channel
    · subst hc
      simpa using hexp
    · simp [hc]

/-- The results of a channel, with one chunk more in front. -/
theorem resultsOn_cons (c : UInt16) (k : Chunk) (rest : List Chunk) (res : Result)
    (results : List Result) :
    resultsOn c (k :: rest) (res :: results) =
      if c = k.1.channel then res :: resultsOn c rest results
      else resultsOn c rest results := by
  by_cases hc : c = k.1.channel
  · simp [resultsOn, onChannel, hc]
  · simp [resultsOn, onChannel, hc, Ne.symm hc]

/-- **A run of arrivals.**  While the caps admit every chunk, each one is taken
without error and gives what its channel awaits. -/
theorem Following.run :
    ∀ (now : List Chunk) {r : Reassembler} {past rest : List Chunk}
      {exp : UInt16 → List Result},
      Following r past (now ++ rest) exp →
      (∀ p, p <+: now → partialChannels (past ++ p) ≤ maxPendingChannels) →
      (∀ p k, p ++ [k] <+: now →
        (k.1.hasMore = true ∨ (inFlight k.1.channel (past ++ p)).isSome = true) →
          bufferedBytes (past ++ p) + k.2.length ≤ maxPendingBytes) →
      ∃ results r' exp', pushAll r now = some (results, r') ∧
        (∀ res ∈ results, ∃ o, res = .ok o) ∧
        Following r' (past ++ now) rest exp' ∧
        ∀ c, exp c = resultsOn c now results ++ exp' c := by
  intro now
  induction now with
  | nil =>
      intro r past rest exp hf _ _
      exact ⟨[], r, exp, rfl, by simp, by simpa using hf, fun c => rfl⟩
  | cons k now ih =>
      intro r past rest exp hf hroom hbytes
      have hshift : ∀ p, past ++ [k] ++ p = past ++ (k :: p) := by simp
      obtain ⟨o, r₁, exp₁, hpush, hf₁, hexp₁⟩ := hf.step (hroom [k] (by simp))
        (by simpa using hbytes [] k (by simp))
      obtain ⟨results, r₂, exp₂, hrun, hok, hf₂, hexp₂⟩ := ih hf₁
        (by
          intro p hp
          rw [hshift]
          exact hroom (k :: p) (by simpa using hp))
        (by
          intro p k' hp
          rw [hshift]
          exact hbytes (k :: p) k' (by simpa using hp))
      refine ⟨.ok o :: results, r₂, exp₂, ?_, ?_, ?_, ?_⟩
      · exact Machine.run_cons_some.mpr ⟨_, r₁, results, hpush, hrun, rfl⟩
      · intro res hres
        rcases List.mem_cons.mp hres with rfl | hmem
        · exact ⟨o, rfl⟩
        · exact hok res hmem
      · rw [hshift] at hf₂
        exact hf₂
      · intro c
        rw [hexp₁, hexp₂, resultsOn_cons]
        split <;> rfl

/-- A fresh reassembler follows any interleaving. -/
theorem Interleaving.following {msgs : UInt16 → List RawMessage}
    {lanes : UInt16 → List (List Chunk)} {arrived : List Chunk}
    (h : Interleaving msgs lanes arrived) :
    Following new [] arrived fun c =>
      ((msgs c).zip (lanes c)).flatMap fun x => deliveries x.1 x.2 where
  wf := new_wellFormed
  lens := fun _ => rfl
  awaits := by
    intro c
    rw [h.order c]
    exact lane_awaits c (h.fit c) (h.sent c)

/-- Once nothing is to come any more, nothing is pending. -/
theorem Following.drained {r : Reassembler} {past : List Chunk}
    {exp : UInt16 → List Result} (hf : Following r past [] exp) :
    (∀ c, exp c = []) ∧ r.pendingChannels = 0 ∧ r.pendingBytes = 0 := by
  have hend : ∀ c, r.pending.lookup c = none ∧ exp c = [] := by
    intro c
    have hc : Awaits (r.pending.lookup c) [] (exp c) := hf.awaits c
    generalize r.pending.lookup c = o at hc
    generalize exp c = e at hc
    cases hc
    exact ⟨rfl, rfl⟩
  refine ⟨fun c => (hend c).2, ?_, ?_⟩
  · rw [pendingChannels, Table.size_eq_weight,
      Table.weight_eq_sum _ _ ∅ fun c _ => (hend c).1, Finset.sum_empty]
  · rw [hf.wf.bytes_eq, Table.weight_eq_sum _ _ ∅ fun c _ => (hend c).1, Finset.sum_empty]

/-- **Reassembly under interleaving.**  However the chunks of the messages are
mixed, as long as the receiver's caps admit each chunk when it arrives, every
message is returned whole at its last chunk, and the reassembler ends empty. -/
theorem interleaving_delivered (msgs : UInt16 → List RawMessage)
    (lanes : UInt16 → List (List Chunk)) (arrived : List Chunk)
    (hmix : Interleaving msgs lanes arrived) (hchannels : ChannelsWithin arrived)
    (hbytes : ArrivalsWithin arrived) : Delivered msgs lanes arrived := by
  have hstart : Following new [] (arrived ++ []) fun c =>
      ((msgs c).zip (lanes c)).flatMap fun x => deliveries x.1 x.2 := by
    simpa using hmix.following
  obtain ⟨results, r, exp, hrun, hok, hf, hexp⟩ := hstart.run arrived
    (fun p hp => hchannels p hp) (fun p k hp => hbytes p k hp)
  obtain ⟨hnil, hch, hby⟩ := hf.drained
  refine ⟨results, r, hrun, hok, ?_, hch, hby⟩
  intro c
  rw [hexp c, hnil c, List.append_nil]

/-- Chunks whose bytes together stay under the cap are all admitted. -/
theorem arrivalsWithin_of_sum {cs : List Chunk}
    (hsum : (cs.map fun k => k.2.length).sum ≤ maxPendingBytes) : ArrivalsWithin cs := by
  intro p k hp _
  obtain ⟨q, rfl⟩ := hp
  have hle := (bufferedBytes_le p).1
  have hmore : moreBytes p ≤ (p.map fun k => k.2.length).sum :=
    (List.filter_sublist.map _).sum_le_sum (by simp)
  simp only [List.map_append, List.sum_append, List.map_cons, List.sum_cons] at hsum
  omega

/-- A key event slips in between the two chunks of a frame. -/
theorem interleaving_delivered_keyEvent :
    Delivered
      (fun c => if c = Channel.videoBase then
          [⟨MsgType.frameData, List.replicate (maxChunkPayload + 1) 7⟩]
        else if c = Channel.input then [⟨MsgType.keyEvent, [9, 9]⟩] else [])
      (fun c => if c = Channel.videoBase then
          [[chunkOf MsgType.frameData c (List.replicate maxChunkPayload 7) true,
            chunkOf MsgType.frameData c [7] false]]
        else if c = Channel.input then [[chunkOf MsgType.keyEvent c [9, 9] false]] else [])
      [chunkOf MsgType.frameData Channel.videoBase (List.replicate maxChunkPayload 7) true,
        chunkOf MsgType.keyEvent Channel.input [9, 9] false,
        chunkOf MsgType.frameData Channel.videoBase [7] false] := by
  have hne : Channel.input ≠ Channel.videoBase := by decide
  apply interleaving_delivered
  · refine ⟨?_, ?_, ?_⟩
    · intro c m hm
      by_cases hv : c = Channel.videoBase
      · rw [if_pos hv, List.mem_singleton] at hm
        subst hm
        rw [List.length_replicate]
        decide
      · by_cases hi : c = Channel.input
        · rw [if_neg hv, if_pos hi, List.mem_singleton] at hm
          subst hm
          decide
        · rw [if_neg hv, if_neg hi] at hm
          cases hm
    · intro c
      by_cases hv : c = Channel.videoBase
      · have hlarge : ¬maxChunkPayload + 1 ≤ maxChunkPayload := by omega
        have hmin : min maxChunkPayload (maxChunkPayload + 1) = maxChunkPayload := by omega
        have hone : (List.replicate 1 (7 : UInt8)).length ≤ maxChunkPayload := by decide
        rw [if_pos hv, if_pos hv, List.mapM_cons, List.mapM_nil, sentChunks_eq, chunksOf,
          List.length_replicate, if_neg hlarge, List.take_replicate, List.drop_replicate,
          Nat.add_sub_cancel_left, hmin, chunksOf, if_pos hone]
        rfl
      · by_cases hi : c = Channel.input
        · rw [if_neg hv, if_neg hv, if_pos hi, if_pos hi, List.mapM_cons, List.mapM_nil,
            sentChunks_eq, chunksOf]
          rfl
        · rw [if_neg hv, if_neg hv, if_neg hi, if_neg hi]
          rfl
    · intro c
      by_cases hv : c = Channel.videoBase
      · subst hv
        simp [onChannel, hne]
      · by_cases hi : c = Channel.input
        · subst hi
          simp [onChannel, hne, hne.symm]
        · simp [onChannel, hv, hi, Ne.symm hv, Ne.symm hi]
  · apply channelsWithin_of_card {Channel.videoBase, Channel.input}
    · intro k hk
      simp only [List.mem_cons, List.not_mem_nil, or_false] at hk
      rcases hk with rfl | rfl | rfl <;> simp
    · decide
  · apply arrivalsWithin_of_sum
    simp only [List.map_cons, List.map_nil, List.sum_cons, List.sum_nil, chunkOf_payload,
      List.length_replicate, List.length_cons, List.length_nil]
    decide

/-! ## Why the arriving chunk has to be counted

The last chunk of a fragmented message is checked against the byte cap before
its message is released.  Three frames that leave exactly `maxPendingBytes`
buffered, and never more, therefore end in an error. -/

section Crowded

/-- A full chunk of zeros. -/
def fullChunk (c : UInt16) (more : Bool) : Chunk :=
  chunkOf MsgType.frameData c (List.replicate maxChunkPayload 0) more

/-- A frame of zeros that takes `n` full chunks and one more. -/
def zeroFrame (n : Nat) : RawMessage :=
  ⟨MsgType.frameData, List.replicate ((n + 1) * maxChunkPayload) 0⟩

/-- A frame of zeros is cut into full chunks. -/
theorem zeroFrame_chunks (c : UInt16) (n : Nat) :
    chunksOf (zeroFrame n).msgType c (zeroFrame n).payload =
      List.replicate n (fullChunk c true) ++ [fullChunk c false] := by
  induction n with
  | zero =>
      rw [chunksOf]
      simp [zeroFrame, fullChunk]
  | succ n ih =>
      have hlarge : ¬(n + 1 + 1) * maxChunkPayload ≤ maxChunkPayload := by
        unfold maxChunkPayload
        omega
      have hmin : min maxChunkPayload ((n + 1 + 1) * maxChunkPayload) = maxChunkPayload := by
        unfold maxChunkPayload
        omega
      have hrest : (n + 1 + 1) * maxChunkPayload - maxChunkPayload =
          (n + 1) * maxChunkPayload := by
        rw [Nat.succ_mul, Nat.add_sub_cancel]
      rw [zeroFrame, chunksOf, List.length_replicate, if_neg hlarge, List.take_replicate,
        List.drop_replicate, hmin, hrest, List.replicate_succ, List.cons_append]
      exact congrArg _ ih

/-- Two frames of the largest size and a small third one. -/
def crowdMsgs (c : UInt16) : List RawMessage :=
  if c = 16 ∨ c = 17 then [zeroFrame 1023] else if c = 18 then [zeroFrame 2] else []

def crowdLanes (c : UInt16) : List (List Chunk) :=
  (crowdMsgs c).map fun m => chunksOf m.msgType c m.payload

/-- All chunks but the last ones, channel by channel. -/
def crowdHead : List Chunk :=
  List.replicate 1023 (fullChunk 16 true) ++ List.replicate 1023 (fullChunk 17 true) ++
    List.replicate 2 (fullChunk 18 true)

def crowdTail : List Chunk := [fullChunk 18 false, fullChunk 16 false, fullChunk 17 false]

/-- The crowd is an interleaving of its messages. -/
theorem crowd_interleaving : Interleaving crowdMsgs crowdLanes (crowdHead ++ crowdTail) where
  fit := by
    intro c m hm
    have hframe : ∃ n ≤ 1023, m = zeroFrame n := by
      unfold crowdMsgs at hm
      split at hm
      · exact ⟨1023, Nat.le_refl _, List.mem_singleton.mp hm⟩
      · split at hm
        · exact ⟨2, by omega, List.mem_singleton.mp hm⟩
        · cases hm
    obtain ⟨n, hn, rfl⟩ := hframe
    have hlimit : maxMessageLen MsgType.frameData = 1024 * maxChunkPayload := by decide
    rw [zeroFrame, List.length_replicate, hlimit]
    exact Nat.mul_le_mul_right _ (by omega)
  sent := by
    intro c
    unfold crowdLanes
    induction crowdMsgs c with
    | nil => rfl
    | cons m ms ih =>
        rw [List.mapM_cons, sentChunks_eq, ih]
        rfl
  order := by
    intro c
    have hchan : ∀ c' more, onChannel c (fullChunk c' more) = decide (c' = c) := by
      intro c' more
      simp [onChannel, fullChunk, beq_eq_decide]
    simp only [crowdHead, crowdTail, List.filter_append, List.filter_replicate, hchan,
      List.filter_cons, List.filter_nil, decide_eq_true_eq, crowdLanes, crowdMsgs]
    by_cases h16 : c = 16
    · subst h16
      simp [zeroFrame_chunks, -List.reduceReplicate]
    by_cases h17 : c = 17
    · subst h17
      simp [zeroFrame_chunks, -List.reduceReplicate]
    by_cases h18 : c = 18
    · subst h18
      simp [zeroFrame_chunks]
    simp [h16, h17, h18, Ne.symm h16, Ne.symm h17, Ne.symm h18]

/-- All that may be pending is pending before the first message ends. -/
theorem crowd_moreBytes : moreBytes crowdHead = maxPendingBytes ∧
    moreBytes (crowdHead ++ crowdTail) = maxPendingBytes := by
  have hmore : ∀ c more, (fullChunk c more).1.hasMore = more := fun c more =>
    chunkOf_hasMore _ _ _ _
  have hlen : ∀ c more, (fullChunk c more).2.length = maxChunkPayload := by
    intro c more
    rw [fullChunk, chunkOf_payload, List.length_replicate]
  have hhead : moreBytes crowdHead = maxPendingBytes := by
    simp only [moreBytes, crowdHead, List.filter_append, List.filter_replicate, hmore, if_true,
      List.map_append, List.map_replicate, List.sum_append, List.sum_replicate, hlen]
    decide
  have htail : moreBytes crowdTail = 0 := by
    simp [moreBytes, crowdTail, hmore]
  have hsplit : moreBytes (crowdHead ++ crowdTail) =
      moreBytes crowdHead + moreBytes crowdTail := by
    simp [moreBytes]
  exact ⟨hhead, by rw [hsplit, hhead, htail, Nat.add_zero]⟩

/-- No more channels are used than may be. -/
theorem crowd_channelsWithin : ChannelsWithin (crowdHead ++ crowdTail) := by
  apply channelsWithin_of_card {16, 17, 18}
  · intro k hk
    simp only [crowdHead, crowdTail, List.mem_append, List.mem_replicate, List.mem_cons,
      List.not_mem_nil, or_false] at hk
    rcases hk with ((⟨-, rfl⟩ | ⟨-, rfl⟩) | ⟨-, rfl⟩) | rfl | rfl | rfl <;> simp [fullChunk]
  · decide

/-- The bytes stay within the limit, counted without the final chunks. -/
theorem crowd_bytesWithin : BytesWithin (crowdHead ++ crowdTail) := by
  intro p hp
  exact ((bufferedBytes_le p).1.trans (moreBytes_mono hp)).trans_eq crowd_moreBytes.2

/-- No message of the crowd ends in its first part. -/
theorem crowdHead_hasMore : ∀ k ∈ crowdHead, k.1.hasMore = true := by
  intro k hk
  simp only [crowdHead, List.mem_append, List.mem_replicate] at hk
  rcases hk with (⟨-, rfl⟩ | ⟨-, rfl⟩) | ⟨-, rfl⟩ <;> exact chunkOf_hasMore _ _ _ _

/-- Behind it the channel of the first message is still waiting. -/
theorem crowdHead_inFlight : (inFlight 18 crowdHead).isSome = true := by
  have hlast : List.replicate 2 (fullChunk 18 true) =
      [fullChunk 18 true] ++ [fullChunk 18 true] := rfl
  have hchan : (fullChunk 18 true).1.channel = 18 := rfl
  have hmore : (fullChunk 18 true).1.hasMore = true := chunkOf_hasMore _ _ _ _
  rw [crowdHead, hlast, ← List.append_assoc, inFlight_snoc, if_pos hchan, received, hmore]
  rfl

/-- All but the last chunks are taken, and leave the cap exactly reached. -/
theorem crowdHead_followed : ∃ results r exp,
    pushAll new crowdHead = some (results, r) ∧ Following r crowdHead crowdTail exp := by
  obtain ⟨results, r, exp, hrun, -, hf, -⟩ := crowd_interleaving.following.run crowdHead
    (by
      intro p hp
      exact crowd_channelsWithin p (hp.trans (List.prefix_append _ _)))
    (by
      intro p k hp _
      have hall : ∀ k' ∈ p ++ [k], k'.1.hasMore = true := fun k' hk' =>
        crowdHead_hasMore k' (hp.subset hk')
      have heq := (bufferedBytes_le p).2 fun k' hk' => hall k' (List.mem_append_left _ hk')
      have hmore : moreBytes (p ++ [k]) = moreBytes p + k.2.length := by
        simp [moreBytes, hall k (by simp)]
      have hle := (moreBytes_mono hp).trans_eq crowd_moreBytes.1
      rw [List.nil_append]
      omega)
  exact ⟨results, r, exp, hrun, hf⟩

/-- The chunks never leave more buffered than the caps allow, and yet they are
not delivered. -/
theorem crowd_not_delivered :
    Interleaving crowdMsgs crowdLanes (crowdHead ++ crowdTail) ∧
      ChannelsWithin (crowdHead ++ crowdTail) ∧ BytesWithin (crowdHead ++ crowdTail) ∧
      ¬Delivered crowdMsgs crowdLanes (crowdHead ++ crowdTail) := by
  refine ⟨crowd_interleaving, crowd_channelsWithin, crowd_bytesWithin, ?_⟩
  intro h
  obtain ⟨results, r, hrun, hok, -, -, -⟩ := h
  obtain ⟨results₁, r₁, exp, hhead, hf⟩ := crowdHead_followed
  obtain ⟨os₁, s, os₂, h₁, h₂, rfl⟩ := Machine.run_append_split hrun
  cases hhead.symm.trans h₁
  obtain ⟨res, r₂, os, hpush, -, heq⟩ := Machine.run_cons_some.mp h₂
  obtain ⟨o, rfl⟩ := hok res (by rw [show os₂ = res :: os from heq]; simp)
  -- the cap is reached, so the last chunk of the third frame cannot be taken
  have hfull : r₁.pendingBytes = maxPendingBytes := by
    rw [hf.pendingBytes_eq, (bufferedBytes_le _).2 crowdHead_hasMore, crowd_moreBytes.1]
  have hlen : (fullChunk 18 false).2.length = maxChunkPayload := by
    rw [fullChunk, chunkOf_payload, List.length_replicate]
  have hmore : (fullChunk 18 false).1.hasMore = false := chunkOf_hasMore _ _ _ _
  obtain ⟨res', r', hpush', hout⟩ := push_outcome hf.wf.bytes_eq (fullChunk 18 false).1
    (fullChunk 18 false).2
  cases hpush.symm.trans hpush'
  have hpos : 0 < maxChunkPayload := by decide
  cases hout with
  | single hp _ _ =>
      have hlens := hf.lens 18
      rw [show r₁.pending.lookup 18 = none from hp] at hlens
      have hsome := crowdHead_inFlight
      rw [← hlens] at hsome
      cases hsome
  | grown p hmore' _ _ _ _ _ =>
      rw [hmore] at hmore'
      cases hmore'
  | completed p _ _ _ _ hbytes => omega

end Crowded

end Reassembler

end Oxrdp
