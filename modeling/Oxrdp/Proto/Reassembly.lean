import Oxrdp.Lib.Run
import Oxrdp.Proto.Envelope

/-!
# What one push does, and what every sequence of pushes keeps

`push` has many exits, but on a reassembler whose byte account is right it does
one of five things to the state.  `PushOutcome` lists them with their guards,
and `push_outcome` says that there are no others: in particular no subtraction
underflows.  Everything about reassembly is derived from that one case split.

`WellFormed` is the memory bound of the receiver.  It holds of a fresh
reassembler and survives every call, whatever the peer sends.
-/

namespace Oxrdp

namespace Reassembler

/-- The length of a pending buffer, the weight that `pendingBytes` sums. -/
def bufLen (p : Pending) : Nat := p.buf.length

/-- The state after a channel's entry `p` has been taken out. -/
def without (r : Reassembler) (channel : UInt16) (p : Pending) : Reassembler :=
  ⟨r.pending.erase channel, r.pendingBytes - p.buf.length⟩

/-- The state after `payload` has been appended on a channel. -/
def grownBy (r : Reassembler) (channel : UInt16) (p : Pending) (payload : List UInt8) :
    Reassembler :=
  ⟨r.pending.insert channel { p with buf := p.buf ++ payload },
    r.pendingBytes + payload.length⟩

/-- Everything a push can do. -/
inductive PushOutcome (r : Reassembler) (h : ChunkHeader) (payload : List UInt8) :
    DecodeResult (Option RawMessage) → Reassembler → Prop
  /-- The header is wrong, a cap is reached, or a new message is already too
  long: nothing changes. -/
  | refused (e : DecodeError)
      (hguard : payload.length ≠ h.length.toNat ∨
        (r.pending.lookup h.channel = none ∧ maxMessageLen h.msgType < payload.length) ∨
        (r.pending.lookup h.channel = none ∧ maxPendingChannels ≤ r.pendingChannels ∧
          h.hasMore = true) ∨
        ((h.hasMore = true ∨ (r.pending.lookup h.channel).isSome = true) ∧
          maxPendingBytes < r.pendingBytes + payload.length)) :
      PushOutcome r h payload (.error e) r
  /-- The message in flight has another type, or would grow over its limit: it
  is discarded. -/
  | discarded (e : DecodeError) (p : Pending)
      (hp : r.pending.lookup h.channel = some p)
      (hguard : p.msgType ≠ h.msgType ∨
        maxMessageLen h.msgType < p.buf.length + payload.length) :
      PushOutcome r h payload (.error e) (r.without h.channel p)
  /-- An unfragmented message on an idle channel. -/
  | single (hp : r.pending.lookup h.channel = none) (hmore : h.hasMore = false)
      (hlen : payload.length ≤ maxMessageLen h.msgType) :
      PushOutcome r h payload (.ok (some ⟨h.msgType, payload⟩)) r
  /-- A chunk that is not the last one. -/
  | grown (p : Pending) (hmore : h.hasMore = true)
      (hp : p = (r.pending.lookup h.channel).getD ⟨h.msgType, []⟩)
      (htype : p.msgType = h.msgType)
      (hlen : p.buf.length + payload.length ≤ maxMessageLen h.msgType)
      (hbytes : r.pendingBytes + payload.length ≤ maxPendingBytes)
      (hroom : r.pending.lookup h.channel = none →
        r.pendingChannels < maxPendingChannels) :
      PushOutcome r h payload (.ok none) (r.grownBy h.channel p payload)
  /-- The last chunk of a message in flight. -/
  | completed (p : Pending) (hmore : h.hasMore = false)
      (hp : r.pending.lookup h.channel = some p)
      (htype : p.msgType = h.msgType)
      (hlen : p.buf.length + payload.length ≤ maxMessageLen h.msgType)
      (hbytes : r.pendingBytes + payload.length ≤ maxPendingBytes) :
      PushOutcome r h payload (.ok (some ⟨p.msgType, p.buf ++ payload⟩))
        (r.without h.channel p)

/-- The byte account agrees with the buffers. -/
def Accounted (r : Reassembler) : Prop :=
  r.pendingBytes = Table.weight bufLen r.pending

theorem checkedSub_of_le {a b : Nat} (h : b ≤ a) : checkedSub a b = some (a - b) :=
  if_pos h

theorem checkLen_ok {t : UInt8} {n : Nat} (h : n ≤ maxMessageLen t) :
    checkLen t n = .ok () := by
  simp [checkLen, Nat.not_lt.mpr h]

theorem checkLen_error {t : UInt8} {n : Nat} (h : maxMessageLen t < n) :
    ∃ e, checkLen t n = .error e := by
  simp [checkLen, h]

/-- An account that is right covers every single buffer. -/
theorem Accounted.buf_le {r : Reassembler} (hacc : r.Accounted) {c : UInt16}
    {p : Pending} (hp : r.pending.lookup c = some p) :
    p.buf.length ≤ r.pendingBytes := by
  rw [hacc]
  exact Table.le_weight bufLen hp

/-- Erasing a channel right after writing to it leaves no trace of the write. -/
theorem erase_insert (t : Table UInt16 Pending) (c : UInt16) (p : Pending) :
    (t.insert c p).erase c = t.erase c := by
  apply AList.ext
  have hfst : c = (⟨c, p⟩ : (_ : UInt16) × Pending).1 := rfl
  have hentries : (t.insert c p).entries = ⟨c, p⟩ :: (t.erase c).entries := rfl
  change List.kerase c (t.insert c p).entries = (t.erase c).entries
  rw [hentries, List.kerase_cons_eq hfst]

/-- Dropping a channel right after its entry was written back. -/
theorem dropPending_insert {r : Reassembler} (hacc : r.Accounted) (c : UInt16)
    {p : Pending} (hp : r.pending.lookup c = some p) :
    dropPending { r with pending := r.pending.insert c p } c = some (r.without c p) := by
  simp [dropPending, checkedSub_of_le (hacc.buf_le hp), without, erase_insert]

/-- Dropping an entry that was only just created leaves the state as it was. -/
theorem dropPending_insert_new {r : Reassembler} (c : UInt16) (t : UInt8)
    (hp : r.pending.lookup c = none) :
    dropPending { r with pending := r.pending.insert c ⟨t, []⟩ } c = some r := by
  simp [dropPending, checkedSub, erase_insert, Table.erase_of_lookup_none hp]

/-! ## The case split -/

section Outcome

variable {r : Reassembler} {h : ChunkHeader} {payload : List UInt8}

/-- A push on a channel with nothing pending. -/
theorem push_outcome_idle (hlen : payload.length = h.length.toNat)
    (hp : r.pending.lookup h.channel = none) :
    ∃ res r', push r h payload = some (res, r') ∧ PushOutcome r h payload res r' := by
  have hlen' : ¬payload.length ≠ h.length.toNat := not_not.mpr hlen
  cases hmore : h.hasMore with
  | false =>
      by_cases hfit : payload.length ≤ maxMessageLen h.msgType
      · refine ⟨_, _, ?_, .single hp hmore hfit⟩
        rw [push, if_neg hlen']
        simp [hp, hmore, checkLen_ok hfit]
      · have hover : maxMessageLen h.msgType < payload.length := Nat.lt_of_not_le hfit
        obtain ⟨e, he⟩ := checkLen_error hover
        refine ⟨_, _, ?_, .refused e (.inr (.inl ⟨hp, hover⟩))⟩
        rw [push, if_neg hlen']
        simp [hp, hmore, he]
  | true =>
      by_cases hroom : maxPendingChannels ≤ r.pendingChannels
      · obtain ⟨e, he⟩ : ∃ e, push r h payload = some (.error e, r) := by
          rw [push, if_neg hlen']
          simp [hmore, hp, hroom]
        exact ⟨_, _, he, .refused e (.inr (.inr (.inl ⟨hp, hroom, hmore⟩)))⟩
      by_cases hbytes : maxPendingBytes < r.pendingBytes + payload.length
      · obtain ⟨e, he⟩ : ∃ e, push r h payload = some (.error e, r) := by
          rw [push, if_neg hlen']
          simp [hmore, hp, hroom, hbytes]
        exact ⟨_, _, he, .refused e (.inr (.inr (.inr ⟨.inl hmore, hbytes⟩)))⟩
      by_cases hfit : payload.length ≤ maxMessageLen h.msgType
      · refine ⟨_, _, ?_, .grown ⟨h.msgType, []⟩ hmore (by rw [hp]; rfl) rfl
          (by simpa using hfit) (Nat.le_of_not_lt hbytes)
          (fun _ => Nat.lt_of_not_le hroom)⟩
        rw [push, if_neg hlen']
        simp [hmore, hp, hroom, hbytes, checkLen_ok hfit, grownBy, AList.insert_insert]
      · have hover : maxMessageLen h.msgType < payload.length := Nat.lt_of_not_le hfit
        obtain ⟨e, he⟩ := checkLen_error hover
        refine ⟨_, _, ?_, .refused e (.inr (.inl ⟨hp, hover⟩))⟩
        rw [push, if_neg hlen']
        simp [hmore, hp, hroom, hbytes, he, dropPending_insert_new _ _ hp]

/-- A push on a channel with a message in flight. -/
theorem push_outcome_busy (hacc : r.Accounted) (hlen : payload.length = h.length.toNat)
    {p : Pending} (hp : r.pending.lookup h.channel = some p) :
    ∃ res r', push r h payload = some (res, r') ∧ PushOutcome r h payload res r' := by
  have hlen' : ¬payload.length ≠ h.length.toNat := not_not.mpr hlen
  have hbusy : (r.pending.lookup h.channel).isSome = true := by rw [hp]; rfl
  by_cases hbytes : maxPendingBytes < r.pendingBytes + payload.length
  · obtain ⟨e, he⟩ : ∃ e, push r h payload = some (.error e, r) := by
      rw [push, if_neg hlen']
      simp [hp, hbytes]
    exact ⟨_, _, he, .refused e (.inr (.inr (.inr ⟨.inr hbusy, hbytes⟩)))⟩
  by_cases htype : p.msgType = h.msgType
  · by_cases hfit : p.buf.length + payload.length ≤ maxMessageLen h.msgType
    · have hle : p.buf.length + payload.length ≤ r.pendingBytes + payload.length :=
        Nat.add_le_add_right (hacc.buf_le hp) _
      cases hmore : h.hasMore with
      | true =>
          refine ⟨_, _, ?_, .grown p hmore (by rw [hp]; rfl) htype hfit
            (Nat.le_of_not_lt hbytes) (by rw [hp]; rintro ⟨⟩)⟩
          rw [push, if_neg hlen']
          simp [hmore, hp, hbytes, htype, checkLen_ok hfit, grownBy, AList.insert_insert]
      | false =>
          refine ⟨_, _, ?_, .completed p hmore hp htype hfit (Nat.le_of_not_lt hbytes)⟩
          rw [push, if_neg hlen']
          simp [hmore, hp, hbytes, htype, checkLen_ok hfit, without, AList.insert_insert,
            checkedSub_of_le hle, erase_insert, Nat.add_sub_add_right]
    · have hover := Nat.lt_of_not_le hfit
      obtain ⟨e, he⟩ := checkLen_error hover
      refine ⟨_, _, ?_, .discarded e p hp (.inr hover)⟩
      rw [push, if_neg hlen']
      simp [hp, hbytes, htype, he, dropPending_insert hacc _ hp]
  · obtain ⟨e, he⟩ : ∃ e, push r h payload = some (.error e, r.without h.channel p) := by
      rw [push, if_neg hlen']
      simp [hp, hbytes, htype, dropPending_insert hacc _ hp]
    exact ⟨_, _, he, .discarded e p hp (.inl htype)⟩

/-- **One push.**  On a reassembler whose account is right, a push returns, and
does one of the five things listed. -/
theorem push_outcome (hacc : r.Accounted) (h : ChunkHeader) (payload : List UInt8) :
    ∃ res r', push r h payload = some (res, r') ∧ PushOutcome r h payload res r' := by
  by_cases hlen : payload.length = h.length.toNat
  · cases hp : r.pending.lookup h.channel with
    | none => exact push_outcome_idle hlen hp
    | some p => exact push_outcome_busy hacc hlen hp
  · obtain ⟨e, he⟩ : ∃ e, push r h payload = some (.error e, r) := by
      rw [push, if_pos hlen]
      simp
    exact ⟨_, _, he, .refused e (.inl hlen)⟩

end Outcome

/-! ## The memory bound -/

/-- What the receiver's memory is bounded by, whatever the peer sends. -/
structure WellFormed (r : Reassembler) : Prop where
  /-- The running total is the sum of the pending buffers. -/
  bytes_eq : r.pendingBytes = Table.weight bufLen r.pending
  bytes_le : r.pendingBytes ≤ maxPendingBytes
  channels_le : r.pendingChannels ≤ maxPendingChannels
  /-- Each buffer keeps to the limit of the type it was opened with. -/
  buf_le : ∀ c p, r.pending.lookup c = some p → p.buf.length ≤ maxMessageLen p.msgType

theorem new_wellFormed : new.WellFormed where
  bytes_eq := rfl
  bytes_le := Nat.zero_le _
  channels_le := Nat.zero_le _
  buf_le := by
    intro c p hp
    cases hp

theorem WellFormed.without {r : Reassembler} (hr : r.WellFormed) {c : UInt16}
    {p : Pending} (hp : r.pending.lookup c = some p) : (r.without c p).WellFormed where
  bytes_eq := by
    have hw := Table.weight_erase bufLen hp
    have heq := hr.bytes_eq
    simp only [Reassembler.without, bufLen] at hw ⊢
    omega
  bytes_le := Nat.le_trans (Nat.sub_le _ _) hr.bytes_le
  channels_le := by
    have hsize := Table.size_erase hp
    have hle := hr.channels_le
    simp only [Reassembler.without, pendingChannels] at hle ⊢
    omega
  buf_le := by
    intro c' p' hp'
    exact hr.buf_le c' p' (Table.of_lookup_erase hp').2

/-- Growing an entry that was there already. -/
theorem WellFormed.grownBy {r : Reassembler} (hr : r.WellFormed) {c : UInt16}
    {t : UInt8} {p : Pending} {payload : List UInt8}
    (hp : p = (r.pending.lookup c).getD ⟨t, []⟩)
    (hlen : p.buf.length + payload.length ≤ maxMessageLen p.msgType)
    (hbytes : r.pendingBytes + payload.length ≤ maxPendingBytes)
    (hroom : r.pending.lookup c = none → r.pendingChannels < maxPendingChannels) :
    (r.grownBy c p payload).WellFormed where
  bytes_eq := by
    have heq := hr.bytes_eq
    cases hl : r.pending.lookup c with
    | none =>
        rw [hl] at hp
        subst hp
        simp only [Reassembler.grownBy, Table.weight_insert_new _ _ hl, bufLen]
        simp only [Option.getD_none, List.nil_append]
        omega
    | some q =>
        rw [hl, Option.getD_some] at hp
        subst hp
        have hw := Table.weight_insert_old bufLen { p with buf := p.buf ++ payload } hl
        simp only [bufLen, List.length_append] at hw
        simp only [Reassembler.grownBy]
        omega
  bytes_le := hbytes
  channels_le := by
    simp only [Reassembler.grownBy, pendingChannels]
    cases hl : r.pending.lookup c with
    | none =>
        rw [Table.size_insert_new _ hl]
        exact hroom hl
    | some q =>
        rw [Table.size_insert_old _ hl]
        exact hr.channels_le
  buf_le := by
    intro c' p' hp'
    rcases Table.of_lookup_insert hp' with ⟨-, rfl⟩ | ⟨-, hp'⟩
    · simpa using hlen
    · exact hr.buf_le c' p' hp'

/-- A returned message keeps to the limit of its type. -/
def WithinLimit (res : DecodeResult (Option RawMessage)) : Prop :=
  ∀ m, res = .ok (some m) → m.payload.length ≤ maxMessageLen m.msgType

/-- One push keeps the bound and returns nothing over its limit. -/
theorem PushOutcome.safe {r r' : Reassembler} {h : ChunkHeader} {payload : List UInt8}
    {res : DecodeResult (Option RawMessage)} (hr : r.WellFormed)
    (hout : PushOutcome r h payload res r') : r'.WellFormed ∧ WithinLimit res := by
  cases hout with
  | refused e _ =>
      refine ⟨hr, ?_⟩
      intro m hm
      cases hm
  | discarded e p hp _ =>
      refine ⟨hr.without hp, ?_⟩
      intro m hm
      cases hm
  | single hp _ hlen =>
      refine ⟨hr, ?_⟩
      intro m hm
      cases hm
      exact hlen
  | grown p _ hp htype hlen hbytes hroom =>
      refine ⟨hr.grownBy hp (htype ▸ hlen) hbytes hroom, ?_⟩
      intro m hm
      cases hm
  | completed p _ hp htype hlen _ =>
      refine ⟨hr.without hp, ?_⟩
      intro m hm
      cases hm
      rw [List.length_append, htype]
      exact hlen

/-- Feed a list of chunks, collecting what each push returned. -/
def pushAll (r : Reassembler) (chunks : List (ChunkHeader × List UInt8)) :
    Option (List (DecodeResult (Option RawMessage)) × Reassembler) :=
  Machine.run (fun r chunk => push r chunk.1 chunk.2) r chunks

/-- Whatever is pushed into a reassembler within its bounds, it stays there. -/
theorem WellFormed.pushAll {r : Reassembler} (hr : r.WellFormed)
    (chunks : List (ChunkHeader × List UInt8)) :
    ∃ results r', pushAll r chunks = some (results, r') ∧ r'.WellFormed ∧
      ∀ res ∈ results, WithinLimit res := by
  have hstep : ∀ (r : Reassembler) (chunk : ChunkHeader × List UInt8), r.WellFormed →
      ∃ res r', push r chunk.1 chunk.2 = some (res, r') ∧ r'.WellFormed ∧
        WithinLimit res := by
    intro r chunk hr
    obtain ⟨res, r', hpush, hout⟩ := push_outcome hr.bytes_eq chunk.1 chunk.2
    obtain ⟨hr', hres⟩ := hout.safe hr
    exact ⟨res, r', hpush, hr', hres⟩
  exact Machine.run_safe hstep chunks r hr

/-- **Safety under hostile input.**  Any sequence of headers and payloads can be
pushed: no call underflows the byte account, and after the last of them, hence
after each of them, the memory bound holds and every message returned so far
is within the limit of its type. -/
theorem pushAll_safe (chunks : List (ChunkHeader × List UInt8)) :
    ∃ results r, pushAll new chunks = some (results, r) ∧ r.WellFormed ∧
      ∀ res ∈ results, ∀ m, res = .ok (some m) →
        m.payload.length ≤ maxMessageLen m.msgType := by
  obtain ⟨results, r, hrun, hr, hres⟩ := new_wellFormed.pushAll chunks
  exact ⟨results, r, hrun, hr, fun res hmem m hm => hres res hmem m hm⟩

end Reassembler

end Oxrdp
