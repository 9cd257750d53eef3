import Mathlib.Data.String.Basic
import Oxrdp.Proto.Interleaving
import Oxrdp.Proto.Message

/-!
# Size limits at the two ends

The limits per message type are the receiver's alone: `toChunks` sends whatever
the encoder produced.  A message reaches the peer's reassembler whole exactly
when its announced size is within the limit for its type, and there are
messages that the sender accepts and the receiver has to refuse.
-/

namespace Oxrdp

open Coder

namespace Message

open Reassembler

/-- The peer reads the frames off the wire, pushes them in order into a fresh
reassembler, sees no error, and gets back the body with its type, on the
channel it belongs on. -/
def Accepted (m : Message) (videoChannel : UInt16) (frames : List (List UInt8)) : Prop :=
  ∃ chunks body r,
    frames.mapM (fun frame => (decode readChunk frame).toOption) = some chunks ∧
    m.encodeBody = .ok body ∧
    (∀ k ∈ chunks, k.1.channel = m.channel videoChannel) ∧
    pushAll new chunks = some (deliveries ⟨m.msgType, body⟩ chunks, r)

theorem chunksOf_channel (t : UInt8) (c : UInt16) (payload : List UInt8) :
    ∀ k ∈ chunksOf t c payload, k.1.channel = c := by
  fun_induction chunksOf t c payload with
  | case1 payload hsmall =>
      intro k hk
      rw [List.mem_singleton.mp hk]
      rfl
  | case2 payload hlarge ih =>
      intro k hk
      rcases List.mem_cons.mp hk with rfl | hmem
      · rfl
      · exact ih k hmem

theorem chunksOf_sum (t : UInt8) (c : UInt16) (payload : List UInt8) :
    ((chunksOf t c payload).map fun k => k.2.length).sum = payload.length := by
  fun_induction chunksOf t c payload with
  | case1 payload hsmall => simp
  | case2 payload hlarge ih =>
      rw [List.map_cons, List.sum_cons, ih, chunkOf_payload, List.length_take,
        List.length_drop]
      omega

/-- What `toChunks` puts on the wire. -/
theorem toChunks_read {m : Message} {v : UInt16} {frames : List (List UInt8)}
    (h : m.toChunks v = .ok frames) :
    ∃ body, m.encodeBody = .ok body ∧
      frames.mapM (fun frame => (decode readChunk frame).toOption) =
        some (chunksOf m.msgType (m.channel v) body) := by
  cases hbody : m.encodeBody with
  | error e =>
      rw [toChunks, hbody] at h
      cases h
  | ok body =>
      rw [toChunks, hbody] at h
      refine ⟨body, rfl, ?_⟩
      have hsent := sentChunks_eq (m.channel v) ⟨m.msgType, body⟩
      rw [sentChunks, show fragment m.msgType (m.channel v) body = .ok frames from h] at hsent
      exact hsent

/-- The largest message of any type fits the byte cap by itself. -/
theorem maxMessageLen_le (t : UInt8) : maxMessageLen t ≤ maxPendingBytes := by
  unfold maxMessageLen maxPendingBytes
  split
  · omega
  split
  · omega
  split
  · omega
  split
  · omega
  · omega

theorem resultsOn_all {c : UInt16} :
    ∀ {chunks : List Chunk} {results : List Result},
      (∀ k ∈ chunks, k.1.channel = c) → results.length = chunks.length →
      resultsOn c chunks results = results := by
  intro chunks
  induction chunks with
  | nil =>
      intro results _ hlen
      rw [List.length_eq_zero_iff.mp hlen]
      rfl
  | cons k chunks ih =>
      intro results hchan hlen
      obtain ⟨res, rest, rfl⟩ := List.exists_cons_of_length_eq_add_one hlen
      rw [resultsOn_cons, if_pos (hchan k List.mem_cons_self).symm,
        ih (fun k' hk' => hchan k' (List.mem_cons_of_mem _ hk')) (by simpa using hlen)]

/-- A body within its limit is delivered by a fresh reassembler. -/
theorem chunksOf_delivered {t : UInt8} (c : UInt16) {body : List UInt8}
    (hlimit : body.length ≤ maxMessageLen t) :
    ∃ r, pushAll new (chunksOf t c body) =
      some (deliveries ⟨t, body⟩ (chunksOf t c body), r) := by
  let chunks := chunksOf t c body
  have hchan : ∀ k ∈ chunks, k.1.channel = c := chunksOf_channel t c body
  have hall : chunks.filter (onChannel c) = chunks := by
    rw [List.filter_eq_self]
    intro k hk
    simp [onChannel, hchan k hk]
  have hstart : Following new [] (chunks ++ [])
      (fun c' => if c' = c then deliveries ⟨t, body⟩ chunks else []) := by
    refine ⟨new_wellFormed, fun _ => rfl, ?_⟩
    intro c'
    rw [List.append_nil]
    by_cases hc : c' = c
    · subst hc
      rw [if_pos rfl, hall]
      have hawaits := chunksOf_awaits ⟨t, body⟩ c' body hlimit Awaits.done none
        (by rintro p ⟨⟩) rfl
      rw [List.append_nil, List.append_nil] at hawaits
      exact hawaits
    · have hnone : chunks.filter (onChannel c') = [] := by
        rw [List.filter_eq_nil_iff]
        intro k hk
        simp [onChannel, hchan k hk, Ne.symm hc]
      rw [if_neg hc, hnone]
      exact Awaits.done
  have hroom : ChannelsWithin chunks :=
    channelsWithin_of_card {c} (fun k hk => by simp [hchan k hk]) (by simp [maxPendingChannels])
  have hbytes : ArrivalsWithin chunks := by
    apply arrivalsWithin_of_sum
    rw [chunksOf_sum]
    exact hlimit.trans (maxMessageLen_le t)
  obtain ⟨results, r, exp, hrun, -, hf, hexp⟩ := hstart.run chunks
    (fun p hp => hroom p hp) (fun p k hp => hbytes p k hp)
  have hresults := hexp c
  rw [if_pos rfl, hf.drained.1 c, List.append_nil,
    resultsOn_all hchan (Machine.run_length hrun)] at hresults
  exact ⟨r, hresults ▸ hrun⟩

/-- What a reassembler hands out is within the limit for its type. -/
theorem limit_of_delivered {t : UInt8} {body : List UInt8} {chunks : List Chunk}
    {r : Reassembler}
    (h : pushAll new chunks = some (deliveries ⟨t, body⟩ chunks, r)) :
    body.length ≤ maxMessageLen t := by
  obtain ⟨results, r', hrun, -, hlimits⟩ := new_wellFormed.pushAll chunks
  cases h.symm.trans hrun
  have hmem : (.ok (some ⟨t, body⟩) : Result) ∈ deliveries ⟨t, body⟩ chunks := by
    simp [deliveries]
  exact hlimits _ hmem ⟨t, body⟩ rfl

/-- A message over its limit may be sent, but is not accepted. -/
theorem limit_of_accepted {m : Message} {v : UInt16} {frames : List (List UInt8)}
    (h : m.Accepted v frames) : m.size ≤ maxMessageLen m.msgType := by
  obtain ⟨chunks, body, r, -, hbody, -, hrun⟩ := h
  rw [← encodeBody_length hbody]
  exact limit_of_delivered hrun

/-- **Agreement on size limits.**  What `toChunks` produced is accepted by the
peer exactly when the message's announced size is within the limit for its
type. -/
theorem toChunks_accepted_iff (m : Message) (videoChannel : UInt16)
    (frames : List (List UInt8)) (hsend : m.toChunks videoChannel = .ok frames) :
    m.Accepted videoChannel frames ↔ m.size ≤ maxMessageLen m.msgType := by
  constructor
  · intro hacc
    exact limit_of_accepted hacc
  · intro hsize
    obtain ⟨body, hbody, hread⟩ := toChunks_read hsend
    have hlimit : body.length ≤ maxMessageLen m.msgType := by
      rw [encodeBody_length hbody]
      exact hsize
    obtain ⟨r, hrun⟩ := chunksOf_delivered (m.channel videoChannel) hlimit
    exact ⟨_, body, r, hread, hbody, chunksOf_channel _ _ _, hrun⟩

/-- A ping is sent as one chunk and accepted. -/
theorem toChunks_accepted_ping :
    ∃ frames, toChunks (.ping ⟨1, 2⟩) 16 = .ok frames ∧
      Accepted (.ping ⟨1, 2⟩) 16 frames := by
  obtain ⟨frames, hframes, -⟩ := fragmentFrom_read MsgType.ping Channel.control
    [1, 0, 0, 0, 2, 0, 0, 0, 0, 0, 0, 0] 0 (Nat.zero_le _)
  have hsend : toChunks (.ping ⟨1, 2⟩) 16 = .ok frames := hframes
  exact ⟨frames, hsend, (toChunks_accepted_iff _ 16 frames hsend).mpr (by decide)⟩

/-- Every text that its length prefix can count is sent. -/
theorem textInput_toChunks {s : String} (hlen : s.utf8ByteSize < 2 ^ 16) (v : UInt16) :
    ∃ frames, toChunks (.textInput ⟨s⟩) v = .ok frames := by
  obtain ⟨body, hbody⟩ : ∃ body, encodeBody (.textInput ⟨s⟩) = .ok body :=
    encodeVec_succeeds ((writeString_fills hlen _).bind Fills.pure)
  obtain ⟨frames, hframes, -⟩ :=
    fragmentFrom_read MsgType.textInput Channel.input body 0 (Nat.zero_le _)
  refine ⟨frames, ?_⟩
  rw [toChunks, hbody]
  exact hframes

theorem utf8ByteSize_replicate (n : Nat) :
    (String.ofList (List.replicate n 'a')).utf8ByteSize = n := by
  rw [String.utf8ByteSize_ofList]
  induction n with
  | zero => rfl
  | succ n ih =>
      rw [List.replicate_succ, String.utf8Len_cons, ih]
      rfl

/-- A text over the limit that its length prefix can still count is sent, and
the peer has to refuse it. -/
theorem textInput_refused {s : String} (hover : 4094 < s.utf8ByteSize)
    (hlen : s.utf8ByteSize < 2 ^ 16) (v : UInt16) :
    ∃ frames, toChunks (.textInput ⟨s⟩) v = .ok frames ∧
      ¬Accepted (.textInput ⟨s⟩) v frames := by
  obtain ⟨frames, hframes⟩ := textInput_toChunks hlen v
  refine ⟨frames, hframes, ?_⟩
  intro hacc
  have hlimit := limit_of_accepted hacc
  have hmax : maxMessageLen (msgType (.textInput ⟨s⟩)) = 4096 := rfl
  have hsize : size (.textInput ⟨s⟩) = 2 + s.utf8ByteSize := rfl
  omega

theorem textInput_4095_refused :
    ∃ frames, toChunks (.textInput ⟨String.ofList (List.replicate 4095 'a')⟩) 16 =
        .ok frames ∧
      ¬Accepted (.textInput ⟨String.ofList (List.replicate 4095 'a')⟩) 16 frames := by
  have hsize := utf8ByteSize_replicate 4095
  exact textInput_refused (by rw [hsize]; decide) (by rw [hsize]; decide) 16

end Message

end Oxrdp
