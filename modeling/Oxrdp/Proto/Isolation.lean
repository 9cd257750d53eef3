import Oxrdp.Proto.Reassembly

/-!
# What a push leaves of the other channels, and what an error leaves behind

`push` fails at six places.  The first four are reached before anything is
stored and keep the message in flight; the last two discard it.  `errorExit`
says which of them a push takes, and `push_errorExit` that the source takes
exactly that one, with that text and that effect on the state.  A push touches
one channel only, whether it succeeds or fails.
-/

namespace Oxrdp

namespace Reassembler

/-- The places where `push` returns an error. -/
inductive ErrorExit
  | lengthMismatch
  | oversizedSingle
  | channelCap
  | byteCap
  | typeMismatch
  | typeLimit
  deriving DecidableEq, Repr

namespace ErrorExit

/-- The error returned there. -/
def error : ErrorExit → DecodeError
  | lengthMismatch => .invalidLength "oxproto reassembly"
      "payload length does not match the chunk header"
  | oversizedSingle => .invalidLength "oxproto reassembly"
      "message exceeds the maximum size for its type"
  | channelCap => .invalidLength "oxproto reassembly"
      "too many channels with a partially reassembled message"
  | byteCap => .invalidLength "oxproto reassembly"
      "total buffered reassembly bytes exceeded"
  | typeMismatch => .invalidField "oxproto reassembly" "type"
      "chunk type differs from the message in flight on this channel"
  | typeLimit => .invalidLength "oxproto reassembly"
      "message exceeds the maximum size for its type"

/-- Whether the message in flight survives the error. -/
def keepsEntry : ErrorExit → Bool
  | typeMismatch | typeLimit => false
  | _ => true

end ErrorExit

/-- The bytes buffered on a channel. -/
def buffered (r : Reassembler) (channel : UInt16) : List UInt8 :=
  (r.pending.lookup channel).elim [] Pending.buf

/-- The type of the message in flight on a channel, if there is one. -/
def inFlightType (r : Reassembler) (channel : UInt16) : Option UInt8 :=
  (r.pending.lookup channel).map Pending.msgType

/-- Where this push fails, if it does: the tests of `push` in their order. -/
def errorExit (r : Reassembler) (h : ChunkHeader) (payload : List UInt8) :
    Option ErrorExit :=
  if payload.length ≠ h.length.toNat then some .lengthMismatch
  else if h.hasMore = false ∧ r.inFlightType h.channel = none then
    if maxMessageLen h.msgType < payload.length then some .oversizedSingle else none
  else if r.inFlightType h.channel = none ∧ maxPendingChannels ≤ r.pendingChannels then
    some .channelCap
  else if maxPendingBytes < r.pendingBytes + payload.length then some .byteCap
  else if (r.inFlightType h.channel).getD h.msgType ≠ h.msgType then some .typeMismatch
  else if maxMessageLen h.msgType < (r.buffered h.channel).length + payload.length then
    some .typeLimit
  else none

/-- The state after a channel's entry, if there is one, has been taken out. -/
def dropped (r : Reassembler) (channel : UInt16) : Reassembler :=
  ⟨r.pending.erase channel, r.pendingBytes - (r.buffered channel).length⟩

/-- The state an error leaves. -/
def afterError (r : Reassembler) (channel : UInt16) (x : ErrorExit) : Reassembler :=
  if x.keepsEntry then r else r.dropped channel

theorem dropped_idle {r : Reassembler} {c : UInt16} (hp : r.pending.lookup c = none) :
    r.dropped c = r := by
  simp [dropped, buffered, hp, Table.erase_of_lookup_none hp]

theorem dropped_busy {r : Reassembler} {c : UInt16} {p : Pending}
    (hp : r.pending.lookup c = some p) : r.dropped c = r.without c p := by
  simp [dropped, buffered, hp, without]

/-- Taking an entry out leaves no other channel different. -/
theorem dropped_lookup (r : Reassembler) (c c' : UInt16) :
    (r.dropped c).pending.lookup c' = if c' = c then none else r.pending.lookup c' :=
  Table.lookup_erase_ite r.pending c c'

/-- Taking an entry out takes exactly its length off the account. -/
theorem dropped_pendingBytes {r : Reassembler} (hacc : r.Accounted) (c : UInt16) :
    (r.dropped c).pendingBytes + (r.buffered c).length = r.pendingBytes := by
  cases hp : r.pending.lookup c with
  | none => simp [dropped, buffered, hp]
  | some p =>
      have hle := hacc.buf_le hp
      simp only [dropped, buffered, hp, Option.elim_some]
      omega

section Exits

variable {r : Reassembler} {h : ChunkHeader} {payload : List UInt8}

/-- A push on a channel with nothing pending that fails, fails at the exit
`errorExit` names and changes nothing. -/
theorem push_errorExit_idle (hp : r.pending.lookup h.channel = none) {x : ErrorExit}
    (hx : errorExit r h payload = some x) :
    push r h payload = some (.error x.error, r) := by
  have htype : r.inFlightType h.channel = none := by simp [inFlightType, hp]
  have hbuf : r.buffered h.channel = [] := by simp [buffered, hp]
  simp only [errorExit, htype, hbuf, and_true, true_and, Option.getD_none, ne_eq,
    not_true_eq_false, if_false, List.length_nil, Nat.zero_add] at hx
  split at hx
  next hlen =>
    cases hx
    simp [push, hlen, ErrorExit.error]
  next hlen =>
    rw [push, if_neg hlen]
    split at hx
    next hmore =>
      split at hx
      next hover =>
        cases hx
        simp [hmore, hp, checkLen, hover, ErrorExit.error]
      next => cases hx
    next hmore =>
      rw [Bool.not_eq_false] at hmore
      split at hx
      next hroom =>
        cases hx
        simp [hmore, hp, hroom, ErrorExit.error]
      next hroom =>
        split at hx
        next hbytes =>
          cases hx
          simp [hmore, hp, hroom, hbytes, ErrorExit.error]
        next hbytes =>
          split at hx
          next hover =>
            cases hx
            simp [hmore, hp, hroom, hbytes, checkLen, hover, ErrorExit.error,
              dropPending_insert_new _ _ hp]
          next => cases hx

/-- A push on a channel with a message in flight that fails, fails at the exit
`errorExit` names and has the effect of that exit. -/
theorem push_errorExit_busy (hacc : r.Accounted) {p : Pending}
    (hp : r.pending.lookup h.channel = some p) {x : ErrorExit}
    (hx : errorExit r h payload = some x) :
    push r h payload = some (.error x.error, r.afterError h.channel x) := by
  have htype : r.inFlightType h.channel = some p.msgType := by simp [inFlightType, hp]
  have hbuf : r.buffered h.channel = p.buf := by simp [buffered, hp]
  have hdrop := dropped_busy hp
  simp only [errorExit, htype, hbuf, reduceCtorEq, and_false, false_and, if_false,
    Option.getD_some] at hx
  split at hx
  next hlen =>
    cases hx
    simp [push, hlen, ErrorExit.error, afterError, ErrorExit.keepsEntry]
  next hlen =>
    rw [push, if_neg hlen]
    split at hx
    next hbytes =>
      cases hx
      simp [hp, hbytes, ErrorExit.error, afterError, ErrorExit.keepsEntry]
    next hbytes =>
      split at hx
      next hmismatch =>
        cases hx
        simp [hp, hbytes, hmismatch, dropPending_insert hacc _ hp, ErrorExit.error,
          afterError, ErrorExit.keepsEntry, hdrop]
      next hmatch =>
        rw [ne_eq, not_not] at hmatch
        split at hx
        next hover =>
          cases hx
          simp [hp, hbytes, hmatch, checkLen, hover, dropPending_insert hacc _ hp,
            ErrorExit.error, afterError, ErrorExit.keepsEntry, hdrop]
        next => cases hx

/-- **The error exits.**  A push for which `errorExit` names an exit fails there,
with the error of that exit and its effect on the state. -/
theorem push_errorExit (hacc : r.Accounted) {x : ErrorExit}
    (hx : errorExit r h payload = some x) :
    push r h payload = some (.error x.error, r.afterError h.channel x) := by
  cases hp : r.pending.lookup h.channel with
  | none =>
      have hsame : r.afterError h.channel x = r := by
        rw [afterError, dropped_idle hp, ite_self]
      rw [hsame]
      exact push_errorExit_idle hp hx
  | some p => exact push_errorExit_busy hacc hp hx

/-- A push that fails has an exit. -/
theorem PushOutcome.errorExit_isSome {r' : Reassembler} {e : DecodeError}
    (hout : PushOutcome r h payload (.error e) r') :
    (errorExit r h payload).isSome = true := by
  cases hout with
  | refused e hguard =>
      have hidle : r.pending.lookup h.channel = none → r.inFlightType h.channel = none := by
        intro hp
        simp [inFlightType, hp]
      have hbusy : (r.pending.lookup h.channel).isSome = true →
          r.inFlightType h.channel ≠ none := by
        intro hp hnone
        simp [inFlightType, Option.isSome_iff_ne_none.mp hp] at hnone
      have hempty : r.pending.lookup h.channel = none → r.buffered h.channel = [] := by
        intro hp
        simp [buffered, hp]
      unfold errorExit
      rcases hguard with hlen | ⟨hp, hover⟩ | ⟨hp, hroom, hmore⟩ | ⟨hstored, hbytes⟩
      · simp [hlen]
      · simp only [hidle hp, hempty hp, List.length_nil, Nat.zero_add, hover, if_true]
        split_ifs <;> rfl
      · simp only [hidle hp, hmore, hroom, if_true, true_and]
        split_ifs <;> simp_all
      · rcases hstored with hmore | hp
        · simp only [hmore, hbytes, if_true]
          split_ifs <;> simp_all
        · have hne := hbusy hp
          simp only [hne, hbytes, if_true]
          split_ifs <;> simp_all
  | discarded e p hp hguard =>
      have htype : r.inFlightType h.channel = some p.msgType := by simp [inFlightType, hp]
      have hbuf : r.buffered h.channel = p.buf := by simp [buffered, hp]
      unfold errorExit
      simp only [htype, hbuf, reduceCtorEq, and_false, false_and, if_false, Option.getD_some]
      rcases hguard with hmismatch | hover
      · simp only [hmismatch, ne_eq, not_false_eq_true, if_true]
        split_ifs <;> rfl
      · simp only [hover, if_true]
        split_ifs <;> rfl

/-- A push leaves every other channel's entry as it was. -/
theorem PushOutcome.lookup_other {r' : Reassembler}
    {res : DecodeResult (Option RawMessage)} (hout : PushOutcome r h payload res r')
    {c : UInt16} (hc : c ≠ h.channel) : r'.pending.lookup c = r.pending.lookup c := by
  cases hout with
  | refused e _ => rfl
  | single _ _ _ => rfl
  | discarded e p _ _ => exact AList.lookup_erase_ne hc
  | completed p _ _ _ _ _ => exact AList.lookup_erase_ne hc
  | grown p _ _ _ _ _ _ => exact AList.lookup_insert_ne hc

end Exits

/-- **Isolation and atomicity.**  In every state that pushes can reach, a push
changes no other channel, and when it fails the message in flight on its own
channel is either kept as it was or discarded whole, with exactly its length
taken off the account. -/
theorem push_isolated_and_atomic (chunks : List (ChunkHeader × List UInt8))
    (results : List (DecodeResult (Option RawMessage))) (r : Reassembler)
    (hreach : pushAll new chunks = some (results, r)) (h : ChunkHeader)
    (payload : List UInt8) :
    ∃ res r', push r h payload = some (res, r') ∧
      (∀ c, c ≠ h.channel → r'.pending.lookup c = r.pending.lookup c) ∧
      ∀ e, res = .error e → ∃ x, errorExit r h payload = some x ∧ e = x.error ∧
        (x.keepsEntry = true →
          r'.pending.lookup h.channel = r.pending.lookup h.channel ∧
            r'.pendingBytes = r.pendingBytes) ∧
        (x.keepsEntry = false →
          r'.pending.lookup h.channel = none ∧
            r'.pendingBytes + (r.buffered h.channel).length = r.pendingBytes) := by
  have hacc : r.Accounted := by
    obtain ⟨results', r₁, hrun, hwf, -⟩ := pushAll_safe chunks
    rw [hreach] at hrun
    cases hrun
    exact hwf.bytes_eq
  obtain ⟨res, r', hpush, hout⟩ := push_outcome hacc h payload
  refine ⟨res, r', hpush, fun c hc => hout.lookup_other hc, ?_⟩
  intro e he
  subst he
  obtain ⟨x, hx⟩ := Option.isSome_iff_exists.mp hout.errorExit_isSome
  have heffect := push_errorExit hacc hx
  rw [hpush] at heffect
  cases heffect
  refine ⟨x, hx, rfl, ?_, ?_⟩
  · intro hkeep
    simp [afterError, hkeep]
  · intro hdrop
    have hstate : r.afterError h.channel x = r.dropped h.channel := by
      simp [afterError, hdrop]
    rw [hstate]
    exact ⟨by simp [dropped_lookup], dropped_pendingBytes hacc h.channel⟩

/-- One byte of a title in flight, then a chunk of another type: whatever error
that is, the byte comes off the account when the entry does not survive it. -/
theorem push_isolated_and_atomic_title :
    ∃ res r', push
        ⟨(∅ : Table UInt16 Pending).insert 3 ⟨MsgType.windowTitle, [7]⟩, 1⟩
        ⟨MsgType.windowIcon, 0, 3, 0⟩ [] = some (res, r') ∧
      ∀ e, res = .error e → ∃ x : ErrorExit, e = x.error ∧
        (x.keepsEntry = false → r'.pending.lookup 3 = none ∧ r'.pendingBytes + 1 = 1) := by
  obtain ⟨res, r', hpush, -, herr⟩ := push_isolated_and_atomic
    [(⟨MsgType.windowTitle, ChunkFlags.fragMore, 3, 1⟩, [7])] [.ok none]
    ⟨(∅ : Table UInt16 Pending).insert 3 ⟨MsgType.windowTitle, [7]⟩, 1⟩ (by rfl)
    ⟨MsgType.windowIcon, 0, 3, 0⟩ []
  refine ⟨res, r', hpush, ?_⟩
  intro e he
  obtain ⟨x, -, hx, -, hdropped⟩ := herr e he
  exact ⟨x, hx, hdropped⟩

end Reassembler

end Oxrdp
