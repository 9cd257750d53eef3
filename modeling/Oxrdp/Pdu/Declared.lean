import Oxrdp.Pdu.Counted
import Oxrdp.Pdu.DomainParams
import Oxrdp.Pdu.Gcc

/-!
# How far a decoder goes behind a length

A GCC block begins with its type and its length, a BER sequence with its tag and its
length.  The length is a promise: the next block begins where it says that this one ends.
The decoders of the client core, client security and server core blocks hold the peer to
it.  The three decoders below do not, each in its own way:

* the client network block compares its length with the low sixteen bits of what its
  channel count asks for;
* the server network block and the domain parameters read their length and drop it.

What each of them consumes is found here from the fields of the bytes it is given, and
with it the bytes on which it stays inside of what is declared.
-/

namespace Oxrdp

open Coder

/-! ## Fields of a byte string -/

/-- The little-endian word of `width` bytes behind the first `pos` ones. -/
def wordAt (pos width : Nat) (bytes : List UInt8) : Nat :=
  leNat ((bytes.drop pos).take width)

/-- The length in the header of a GCC block. -/
def blockLength (bytes : List UInt8) : Nat := wordAt 2 2 bytes

/-- The bytes that a BER length takes up, and the number in it. -/
def berLength : List UInt8 → Nat × Nat
  | [] => (0, 0)
  | b :: rest =>
      if b < 0x80 then (1, b.toNat)
      else (1 + (b &&& 0x7F).toNat, beNat (rest.take (b &&& 0x7F).toNat))

/-- The bytes that an element takes up: its tag, its length and its content. -/
def elementSize (bytes : List UInt8) : Nat :=
  1 + (berLength bytes.tail).1 + (berLength bytes.tail).2

/-- The bytes that `n` elements standing one behind the other take up. -/
def elementsSize : Nat → List UInt8 → Nat
  | 0, _ => 0
  | n + 1, bytes => elementSize bytes + elementsSize n (bytes.drop (elementSize bytes))

/-- The content of an element, with whatever follows it. -/
def contentOf (bytes : List UInt8) : List UInt8 :=
  bytes.drop (1 + (berLength bytes.tail).1)

/-- A word stands behind the bytes in front of it. -/
theorem wordAt_of_split {pos width n : Nat} {front back : List UInt8} (hpos : front.length = pos)
    (hn : n < 256 ^ width) : wordAt pos width (front ++ (leBytes width n ++ back)) = n := by
  have htake : (leBytes width n ++ back).take width = leBytes width n :=
    List.take_left' (leBytes_length width n)
  rw [wordAt, ← hpos, List.drop_left, htake, leNat_leBytes hn]

/-! ## What the leaves move over -/

/-- Two bytes that were read are those that were passed. -/
theorem readU16Le_passes {c : String} {t t' : ReadCursor} {v : UInt16}
    (h : (readU16Le c).run t = .ok (v, t')) : t.Passes (leBytes 2 v.toNat) t' := by
  obtain ⟨xs, hpass, -, hemit⟩ := readU16Le_undoes c t v t' h
  rw [hemit.unique (writeSlice_emits (leBytes 2 v.toNat) c)] at hpass
  exact hpass

/-- Four bytes that were read are those that were passed. -/
theorem readU32Le_passes {c : String} {t t' : ReadCursor} {v : UInt32}
    (h : (readU32Le c).run t = .ok (v, t')) : t.Passes (leBytes 4 v.toNat) t' := by
  obtain ⟨xs, hpass, -, hemit⟩ := readU32Le_undoes c t v t' h
  rw [hemit.unique (writeSlice_emits (leBytes 4 v.toNat) c)] at hpass
  exact hpass

/-- A word of two bytes takes two. -/
theorem readU16Le_takes (c : String) : Takes (readU16Le c) 2 := by
  intro t v t' h
  exact ⟨_, leBytes_length 2 v.toNat, readU16Le_passes h⟩

/-- A word of four bytes takes four. -/
theorem readU32Le_takes (c : String) : Takes (readU32Le c) 4 := by
  intro t v t' h
  exact ⟨_, leBytes_length 4 v.toNat, readU32Le_passes h⟩

/-- An array takes its length. -/
theorem readArray_takes (n : Nat) (c : String) : Takes (readArray n c) n := by
  intro t bs t' h
  have hrun : (readArray n c).run t = readArray n c t := rfl
  rw [hrun, readArray] at h
  split at h
  · cases h
  · rename_i hroom
    cases h
    exact ⟨_, List.length_take_of_le (Nat.le_of_not_lt hroom),
      (List.take_append_drop n t.todo).symm, rfl⟩

/-- A channel takes twelve bytes. -/
theorem ChannelDef.decode_takes : Takes ChannelDef.decode 12 :=
  (readArray_takes 8 _).bind fun _ => (readU32Le_takes _).bind (n := 0) fun _ => Takes.pure _

/-- A refusal in front of the rest. -/
theorem ok_of_unless {α : Type} {p : Prop} [Decidable p] {e : DecodeError} {d : Decoder α}
    {t : ReadCursor} {r : α × ReadCursor}
    (h : (if p then throw e else d).run t = .ok r) : ¬ p ∧ d.run t = .ok r := by
  by_cases hp : p
  · rw [if_pos hp] at h
    cases h
  · rw [if_neg hp] at h
    exact ⟨hp, h⟩

/-! ## The client network block -/

namespace ClientNetworkData

/-- What a successful decoding has gone through. -/
theorem decode_split {bytes : List UInt8} {m : ClientNetworkData} {c : ReadCursor}
    (h : decode.run (Tape.start bytes) = .ok (m, c)) :
    c.done.length = 8 + 12 * m.channels.length ∧
      wordAt 4 4 bytes = m.channels.length ∧
      blockLength bytes = (12 * m.channels.length + 8) % 2 ^ 16 := by
  obtain ⟨len, t₂, hhead, h⟩ := bind_run_ok.mp h
  obtain ⟨typ, t₁, htyp, hhead⟩ := bind_run_ok.mp hhead
  obtain ⟨-, hlen⟩ := ok_of_unless hhead
  obtain ⟨count, t₃, hcount, h⟩ := bind_run_ok.mp h
  obtain ⟨-, h⟩ := ok_of_unless h
  obtain ⟨-, h⟩ := ok_of_unless h
  obtain ⟨-, h⟩ := ok_of_unless h
  obtain ⟨hmatch, h⟩ := ok_of_unless h
  obtain ⟨channels, t₄, hmany, h⟩ := bind_run_ok.mp h
  cases h
  have hnum : channels.length = count.toNat := readMany_length _ hmany
  obtain ⟨xs, hxs, hpass⟩ := ChannelDef.decode_takes.many _ _ _ _ hmany
  have htyp := readU16Le_passes htyp
  have hlen := readU16Le_passes hlen
  have hcount := readU32Le_passes hcount
  have hfield : len.toNat = (count.toNat * 12 + 8) % 2 ^ 16 := by
    rw [not_not.mp hmatch, UInt16.toNat_ofNat']
  have hbytes : bytes = leBytes 2 typ.toNat ++ (leBytes 2 len.toNat ++
      (leBytes 4 count.toNat ++ t₃.todo)) := by
    rw [← hcount.1, ← hlen.1, ← htyp.1]
    rfl
  refine ⟨?_, ?_, ?_⟩
  · rw [hpass.done_length, hcount.done_length, hlen.done_length, htyp.done_length, hxs]
    simp only [Tape.start, leBytes_length, List.length_nil, hnum]
    omega
  · rw [hbytes, ← List.append_assoc, hnum]
    exact wordAt_of_split (by simp) count.toNat_lt
  · rw [blockLength, hbytes, wordAt_of_split (by simp) len.toNat_lt, hfield, hnum,
      Nat.mul_comm]

/-- Behind its length stands what the length announces, unless the announcement was cut to
sixteen bits. -/
theorem within_iff {bytes : List UInt8} {m : ClientNetworkData} {c : ReadCursor}
    (h : decode.run (Tape.start bytes) = .ok (m, c)) :
    (c.done.length ≤ blockLength bytes ∧ blockLength bytes = 8 + 12 * m.channels.length) ↔
      wordAt 4 4 bytes ≤ 5460 := by
  obtain ⟨hdone, hcount, hlen⟩ := decode_split h
  rw [hdone, hcount, hlen]
  constructor
  · rintro ⟨hle, -⟩
    omega
  · intro hle
    rw [Nat.mod_eq_of_lt (by omega)]
    omega

/-- The bytes of a block, with as much of its length as the field holds. -/
def wire (l : List ChannelDef) : List UInt8 :=
  leBytes 2 csNet.toNat ++ (leBytes 2 (UInt16.ofNat (l.length * 12 + 8)).toNat ++
    (leBytes 4 (UInt32.ofNat l.length).toNat ++
      l.flatMap fun ch => ch.name.val ++ leBytes 4 ch.options.toNat))

/-- Every such block is decoded, also where its length says something else. -/
theorem decode_wire {l : List ChannelDef} (h : l.length * 12 + 8 < 2 ^ 32) :
    Parses decode (wire l) ⟨l⟩ := by
  have hcount : (UInt32.ofNat l.length).toNat = l.length :=
    UInt32.toNat_ofNat_of_lt' (Nat.lt_of_le_of_lt (by omega) h)
  have hchannel : ∀ ch ∈ l,
      Parses ChannelDef.decode (ch.name.val ++ leBytes 4 ch.options.toNat) ch := by
    intro ch _
    exact (readArray_parses ch.name _).bind
      ((readU32Le_parses ch.options _).last (Parses.pure ch))
  have hhead : ∀ len : UInt16, Parses (readUdHeader csNet ctx)
      (leBytes 2 csNet.toNat ++ leBytes 2 len.toNat) len := by
    intro len
    refine (readU16Le_parses csNet ctx).bind ?_
    rw [if_neg (by decide)]
    exact readU16Le_parses len ctx
  rw [wire, ← List.append_assoc]
  refine (hhead _).bind ?_
  refine (readU32Le_parses _ ctx).bind ?_
  rw [hcount, if_neg (by omega), if_neg (by omega), if_neg (by omega), if_neg (by simp)]
  exact (Parses.many hchannel).last (Parses.pure _)

/-- With more channels than its length can say, a block is read beyond its length. -/
theorem wire_overruns {l : List ChannelDef} (hmany : 5460 < l.length)
    (h : l.length * 12 + 8 < 2 ^ 32) :
    ∃ m c, decode.run (Tape.start (wire l)) = .ok (m, c) ∧
      blockLength (wire l) < c.done.length := by
  have hrun := decode_wire h [] []
  rw [List.append_nil] at hrun
  obtain ⟨hdone, -, hlen⟩ := decode_split hrun
  refine ⟨_, _, hrun, ?_⟩
  rw [hdone, hlen]
  have hmod := Nat.mod_lt (12 * l.length + 8) (show 0 < 2 ^ 16 by decide)
  dsimp only
  omega

end ClientNetworkData

/-! ## The server network block -/

namespace ServerNetworkData

/-- The channel ids of a block are padded to four bytes. -/
theorem decodePad_takes (count : Nat) : Takes (decodePad count) (2 * (count % 2)) := by
  unfold decodePad
  by_cases hodd : count % 2 = 1
  · rw [if_pos hodd, hodd]
    exact (readU16Le_takes _).bind (n := 0) fun _ => Takes.pure ()
  · have heven : count % 2 = 0 := by omega
    rw [if_neg hodd, heven]
    exact Takes.pure ()

/-- The bytes that the channel count in a block asks for. -/
def asked (bytes : List UInt8) : Nat :=
  8 + 2 * (wordAt 6 2 bytes + wordAt 6 2 bytes % 2)

/-- The length in the header plays no part. -/
theorem decode_consumes {bytes : List UInt8} {m : ServerNetworkData} {c : ReadCursor}
    (h : decode.run (Tape.start bytes) = .ok (m, c)) : c.done.length = asked bytes := by
  obtain ⟨typ, t₁, htyp, h⟩ := bind_run_ok.mp h
  obtain ⟨-, h⟩ := ok_of_unless h
  obtain ⟨len, t₂, hlen, h⟩ := bind_run_ok.mp h
  obtain ⟨channel, t₃, hchannel, h⟩ := bind_run_ok.mp h
  obtain ⟨count, t₄, hcount, h⟩ := bind_run_ok.mp h
  obtain ⟨ids, t₅, hids, h⟩ := bind_run_ok.mp h
  obtain ⟨pad, t₆, hpad, h⟩ := bind_run_ok.mp h
  cases h
  obtain ⟨xs, hxs, hids⟩ := (readU16Le_takes _).many _ _ _ _ hids
  obtain ⟨ys, hys, hpad⟩ := decodePad_takes _ _ _ _ hpad
  have htyp := readU16Le_passes htyp
  have hlen := readU16Le_passes hlen
  have hchannel := readU16Le_passes hchannel
  have hcount := readU16Le_passes hcount
  have hbytes : bytes = (leBytes 2 typ.toNat ++ leBytes 2 len.toNat ++
      leBytes 2 channel.toNat) ++ (leBytes 2 count.toNat ++ t₄.todo) := by
    rw [List.append_assoc, List.append_assoc, ← hcount.1, ← hchannel.1, ← hlen.1, ← htyp.1]
    rfl
  have hfield : wordAt 6 2 bytes = count.toNat := by
    rw [hbytes]
    exact wordAt_of_split (by simp) count.toNat_lt
  rw [hpad.done_length, hids.done_length, hcount.done_length, hchannel.done_length,
    hlen.done_length, htyp.done_length, hxs, hys, asked, hfield]
  simp only [Tape.start, leBytes_length, List.length_nil]
  omega

end ServerNetworkData

/-! ## The domain parameters -/

/-- The expected byte was passed. -/
theorem expectU8_passes {tag : UInt8} {c : String} {e : DecodeError} {t t' : ReadCursor}
    {u : Unit} (h : (expectU8 tag c e).run t = .ok (u, t')) : t.Passes [tag] t' := by
  obtain ⟨b, t₁, hb, h⟩ := bind_run_ok.mp h
  obtain ⟨htag, h⟩ := ok_of_unless h
  cases h
  rw [← not_not.mp htag]
  exact (readU8_takes hb).1

/-- Big-endian bytes that were read are those that were passed, and stand for the number. -/
theorem readBe_passes {c : String} {n : Nat} :
    ∀ {len v : Nat} {t t' : ReadCursor}, (readBe c n len).run t = .ok (v, t') →
      ∃ xs, xs.length = n ∧ t.Passes xs t' ∧
        v = xs.foldl (fun acc b => acc * 256 + b.toNat) len := by
  induction n with
  | zero =>
      intro len v t t' h
      cases h
      exact ⟨[], rfl, .refl t, rfl⟩
  | succ n ih =>
      intro len v t t' h
      obtain ⟨b, t₁, hb, h⟩ := bind_run_ok.mp h
      obtain ⟨xs, hxs, hpass, hv⟩ := ih h
      refine ⟨b :: xs, by rw [List.length_cons, hxs], (readU8_takes hb).1.trans hpass, ?_⟩
      rw [hv, shift_in]
      rfl

/-- What is read as a length stands in front as one. -/
theorem readLength_passes {c : String} {t t' : ReadCursor} {len : Nat}
    (h : (readLength c).run t = .ok (len, t')) :
    ∃ xs, t.Passes xs t' ∧ berLength t.todo = (xs.length, len) := by
  obtain ⟨b, t₁, hb, h⟩ := bind_run_ok.mp h
  have hb := (readU8_takes hb).1
  have htodo : t.todo = b :: t₁.todo := hb.1
  rw [htodo, berLength]
  by_cases hshort : b < 0x80
  · rw [if_pos hshort] at h
    cases h
    exact ⟨[b], hb, if_pos hshort⟩
  · rw [if_neg hshort] at h
    obtain ⟨-, h⟩ := ok_of_unless h
    obtain ⟨-, h⟩ := ok_of_unless h
    obtain ⟨xs, hxs, hpass, hlen⟩ := readBe_passes h
    refine ⟨b :: xs, hb.trans hpass, ?_⟩
    rw [if_neg hshort, hlen, ← beNat_eq_foldl, hpass.1, ← hxs, List.take_left, List.length_cons,
      Nat.add_comm]

/-- A number of `n` bytes takes `n`. -/
theorem readU32Be_takes (c : String) (n : Nat) : ∀ v, Takes (readU32Be c n v) n := by
  induction n with
  | zero => exact fun v => Takes.pure v
  | succ n ih =>
      intro v t a t' h
      obtain ⟨b, t₁, hb, h⟩ := bind_run_ok.mp h
      obtain ⟨xs, hxs, hpass⟩ := ih _ _ _ _ h
      exact ⟨b :: xs, by rw [List.length_cons, hxs], (readU8_takes hb).1.trans hpass⟩

/-- The element that was counted is the one that was read. -/
theorem readInteger_passes {c : String} {t t' : ReadCursor} {v : UInt32}
    (h : (readInteger c).run t = .ok (v, t')) :
    ∃ xs, t.Passes xs t' ∧ elementSize t.todo = xs.length := by
  obtain ⟨u, t₁, htag, h⟩ := bind_run_ok.mp h
  obtain ⟨len, t₂, hlen, h⟩ := bind_run_ok.mp h
  obtain ⟨-, h⟩ := ok_of_unless h
  have htag := expectU8_passes htag
  obtain ⟨xs, hpass, hber⟩ := readLength_passes hlen
  obtain ⟨ys, hys, hcontent⟩ := readU32Be_takes _ _ _ _ _ _ h
  refine ⟨[0x02] ++ (xs ++ ys), htag.trans (hpass.trans hcontent), ?_⟩
  have htail : t.todo.tail = t₁.todo := by rw [htag.1, List.singleton_append, List.tail_cons]
  rw [elementSize, htail, hber]
  simp only [List.length_append, List.length_singleton, hys]
  omega

/-- An integer leaves the end of the elements in front of the position where it is. -/
theorem readInteger_step {c : String} {t t' : ReadCursor} {v : UInt32}
    (h : (readInteger c).run t = .ok (v, t')) (n : Nat) :
    t.done.length + elementsSize (n + 1) t.todo = t'.done.length + elementsSize n t'.todo := by
  obtain ⟨xs, hpass, hsize⟩ := readInteger_passes h
  have hdrop : t.todo.drop (elementSize t.todo) = t'.todo := by
    rw [hsize, hpass.1, List.drop_left]
  rw [elementsSize, hdrop, hsize, hpass.done_length]
  omega

namespace DomainParameters

/-- Where a successful decoding ends: behind its eight integers, wherever the sequence
does. -/
theorem decode_consumes {bytes : List UInt8} {m : DomainParameters} {c : ReadCursor}
    (h : decode.run (Tape.start bytes) = .ok (m, c)) :
    c.done.length =
      1 + (berLength bytes.tail).1 + elementsSize 8 (contentOf bytes) := by
  obtain ⟨u, t₁, htag, h⟩ := bind_run_ok.mp h
  obtain ⟨len, t₂, hlen, h⟩ := bind_run_ok.mp h
  obtain ⟨v₁, c₁, h₁, h⟩ := bind_run_ok.mp h
  obtain ⟨v₂, c₂, h₂, h⟩ := bind_run_ok.mp h
  obtain ⟨v₃, c₃, h₃, h⟩ := bind_run_ok.mp h
  obtain ⟨v₄, c₄, h₄, h⟩ := bind_run_ok.mp h
  obtain ⟨v₅, c₅, h₅, h⟩ := bind_run_ok.mp h
  obtain ⟨v₆, c₆, h₆, h⟩ := bind_run_ok.mp h
  obtain ⟨v₇, c₇, h₇, h⟩ := bind_run_ok.mp h
  obtain ⟨v₈, c₈, h₈, h⟩ := bind_run_ok.mp h
  cases h
  have htag := expectU8_passes htag
  obtain ⟨xs, hpass, hber⟩ := readLength_passes hlen
  have hbytes : bytes = 0x30 :: (xs ++ t₂.todo) := by
    rw [← hpass.1]
    exact htag.1
  have htail : bytes.tail = t₁.todo := by rw [hbytes, List.tail_cons, hpass.1]
  have hhead : 1 + (berLength bytes.tail).1 = t₂.done.length := by
    rw [htail, hber, hpass.done_length, htag.done_length]
    rfl
  have hcontent : contentOf bytes = t₂.todo := by
    rw [contentOf, htail, hber, hbytes, Nat.add_comm, List.drop_succ_cons, List.drop_left]
  have hends := (readInteger_step h₁ 7).trans ((readInteger_step h₂ 6).trans
    ((readInteger_step h₃ 5).trans ((readInteger_step h₄ 4).trans
    ((readInteger_step h₅ 3).trans ((readInteger_step h₆ 2).trans
    ((readInteger_step h₇ 1).trans (readInteger_step h₈ 0)))))))
  rw [hhead, hcontent, hends]
  rfl

end DomainParameters

/-! ## Staying inside of what is declared -/

/-- On which bytes each decoder keeps to the length that its header declares, when it
accepts them at all: a client network block whose channel count is at most 5460, a server
network block whose length covers what its channel count asks for, and domain parameters
whose eight integers fit into the sequence. -/
theorem declared_lengths (bytes : List UInt8) :
    (∀ m c, ClientNetworkData.decode.run (Tape.start bytes) = .ok (m, c) →
      ((c.done.length ≤ blockLength bytes ∧
          blockLength bytes = 8 + 12 * m.channels.length) ↔ wordAt 4 4 bytes ≤ 5460)) ∧
    (∀ m c, ServerNetworkData.decode.run (Tape.start bytes) = .ok (m, c) →
      (c.done.length ≤ blockLength bytes ↔
        ServerNetworkData.asked bytes ≤ blockLength bytes)) ∧
    (∀ m c, DomainParameters.decode.run (Tape.start bytes) = .ok (m, c) →
      (c.done.length ≤ elementSize bytes ↔
        elementsSize 8 (contentOf bytes) ≤ (berLength bytes.tail).2)) := by
  refine ⟨fun m c h => ClientNetworkData.within_iff h, fun m c h => ?_, fun m c h => ?_⟩
  · rw [ServerNetworkData.decode_consumes h]
  · rw [DomainParameters.decode_consumes h, elementSize]
    omega

/-- A client network block of 5461 channels that declares four bytes, a server network
block that declares its first eight bytes only, and an empty sequence with eight integers
behind it. -/
theorem declared_lengths_passed :
    (∃ m c, ClientNetworkData.decode.run (Tape.start
        (ClientNetworkData.wire (List.replicate 5461 ⟨⟨List.replicate 8 0, rfl⟩, 0⟩))) =
          .ok (m, c) ∧
      blockLength (ClientNetworkData.wire
        (List.replicate 5461 ⟨⟨List.replicate 8 0, rfl⟩, 0⟩)) < c.done.length) ∧
    (∃ m c, ServerNetworkData.decode.run (Tape.start
        [0x03, 0x0C, 8, 0, 0xEB, 0x03, 1, 0, 0xEC, 0x03, 0, 0]) = .ok (m, c) ∧
      blockLength [0x03, 0x0C, 8, 0, 0xEB, 0x03, 1, 0, 0xEC, 0x03, 0, 0] < c.done.length) ∧
    (∃ m c, DomainParameters.decode.run (Tape.start
        [0x30, 0, 2, 1, 0, 2, 1, 0, 2, 1, 0, 2, 1, 0, 2, 1, 0, 2, 1, 0, 2, 1, 0, 2, 1, 0]) =
          .ok (m, c) ∧
      elementSize
        [0x30, 0, 2, 1, 0, 2, 1, 0, 2, 1, 0, 2, 1, 0, 2, 1, 0, 2, 1, 0, 2, 1, 0, 2, 1, 0] <
          c.done.length) := by
  refine ⟨?_, ⟨⟨0x03EB, [0x03EC]⟩, ⟨_, []⟩, rfl, by decide⟩,
    ⟨⟨0, 0, 0, 0, 0, 0, 0, 0⟩, ⟨_, []⟩, rfl, by decide⟩⟩
  have hnum : (List.replicate 5461 (⟨⟨List.replicate 8 0, rfl⟩, 0⟩ : ChannelDef)).length = 5461 :=
    List.length_replicate
  exact ClientNetworkData.wire_overruns (by rw [hnum]; decide) (by rw [hnum]; decide)

end Oxrdp
