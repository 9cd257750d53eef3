import Oxrdp.Pdu.Lengths

/-!
# Readers that follow the lengths

What a length field promises: the bytes that it counts are there, and they end where the
structure ends that it stands in.  A reader that follows the lengths trusts nothing else,
so it gets back what was written exactly when every length on its way is right.
-/

namespace Oxrdp

open Coder

/-- A length, and as many bytes as it says. -/
def readCounted (length : Decoder Nat) (ctx : String) : Decoder (List UInt8) := do
  let n ← length
  readSlice n ctx

/-- Decode a buffer to its last byte. -/
def decodeAll {α : Type} (d : Decoder α) (bytes : List UInt8) : DecodeResult α :=
  match d.run (Tape.start bytes) with
  | .ok (a, c) =>
      if c.todo = [] then .ok a else .error (.invalidLength "buffer" "trailing bytes")
  | .error e => .error e

theorem readCounted_parses {length : Decoder Nat} {field xs : List UInt8}
    (h : Parses length field xs.length) (ctx : String) :
    Parses (readCounted length ctx) (field ++ xs) xs :=
  h.bind (readSlice_parses xs ctx)

theorem decodeAll_of_parses {α : Type} {d : Decoder α} {xs : List UInt8} {a : α}
    (h : Parses d xs a) : decodeAll d xs = .ok a := by
  have hrun := h [] []
  rw [List.append_nil] at hrun
  rw [decodeAll, Tape.start, hrun]
  exact if_pos rfl

/-- Bytes that the lengths do not account for are noticed. -/
theorem decodeAll_left {α : Type} {d : Decoder α} {xs tail : List UInt8} {a : α}
    (h : Parses d xs a) (hleft : tail ≠ []) :
    decodeAll d (xs ++ tail) = .error (.invalidLength "buffer" "trailing bytes") := by
  rw [decodeAll, Tape.start, h [] tail]
  exact if_neg hleft

theorem decodeAll_returns {α : Type} {d : Decoder α} {xs : List UInt8} {a : α}
    (h : decodeAll d xs = .ok a) : Returns d a := by
  unfold decodeAll at h
  cases hrun : d.run (Tape.start xs) with
  | error e =>
      rw [hrun] at h
      cases h
  | ok r =>
      obtain ⟨b, c⟩ := r
      rw [hrun] at h
      dsimp only at h
      split at h
      next =>
        cases h
        exact ⟨_, _, hrun⟩
      next => cases h

/-- A length that counts too little leaves something behind. -/
theorem decodeAll_short {length : Decoder Nat} {field xs : List UInt8} {n : Nat}
    (h : Parses length field n) (hn : n < xs.length) (ctx : String) (ys : List UInt8) :
    decodeAll (readCounted length ctx) (field ++ xs) ≠ .ok ys := by
  have htake : (xs.take n).length = n := List.length_take_of_le (Nat.le_of_lt hn)
  have hparse : Parses (readCounted length ctx) (field ++ xs.take n) (xs.take n) :=
    readCounted_parses (by rw [htake]; exact h) ctx
  have hleft : xs.drop n ≠ [] := by
    rw [ne_eq, List.drop_eq_nil_iff]
    omega
  have hall := decodeAll_left hparse hleft
  rw [List.append_assoc, List.take_append_drop] at hall
  rw [hall]
  exact nofun

/-- A tag, a BER length and the bytes it counts. -/
def readTlv (tag : UInt8) (ctx : String) : Decoder (List UInt8) := do
  expectU8 tag ctx (.invalidField ctx "tag" "unexpected tag")
  readCounted (readBerLength ctx) ctx

theorem expectU8_parses (tag : UInt8) (ctx : String) (err : DecodeError) :
    Parses (expectU8 tag ctx err) [tag] () :=
  (expectU8_coded tag ctx ctx err).roundTrip.parses_emitted (writeSlice_emits [tag] ctx)

/-- Lengths below 2^32 need at most four bytes. -/
theorem minimalBe_length_le {len : Nat} (h : len < 2 ^ 32) : (minimalBe len).length ≤ 4 := by
  have hsplit : beBytes 8 len = [0, 0, 0, 0] ++ beBytes 4 len := by
    have h4 : len / 256 ^ 4 = 0 := Nat.div_eq_of_lt (by omega)
    have h5 : len / 256 ^ 5 = 0 := Nat.div_eq_of_lt (by omega)
    have h6 : len / 256 ^ 6 = 0 := Nat.div_eq_of_lt (by omega)
    have h7 : len / 256 ^ 7 = 0 := Nat.div_eq_of_lt (by omega)
    simp only [beBytes, leBytes, List.range_succ, List.range_zero, List.nil_append,
      List.map_cons, List.map_nil, List.cons_append, h4, h5, h6, h7]
    rfl
  have hdrop : minimalBe len = (beBytes 4 len).dropWhile (· = 0) := by
    rw [minimalBe, hsplit]
    rfl
  have hle := (List.dropWhile_sublist (l := beBytes 4 len) (· = 0)).length_le
  rw [beBytes_length] at hle
  rw [hdrop]
  exact hle

theorem readBerLength_parses {len : Nat} (h : len < 2 ^ 32) (ctx : String) :
    Parses (readBerLength ctx) (berBytes len) len :=
  readDefinite_parses (Nat.lt_trans h (by decide)) (.inr (minimalBe_length_le h)) _ _ ctx

theorem readTlv_parses (tag : UInt8) {xs : List UInt8} (h : xs.length < 2 ^ 32) (ctx : String) :
    Parses (readTlv tag ctx) (tag :: (berBytes xs.length ++ xs)) xs :=
  (expectU8_parses tag ctx _).bind (readCounted_parses (readBerLength_parses h ctx) ctx)

theorem readU16Le_parses (v : UInt16) (ctx : String) :
    Parses (readU16Le ctx) (leBytes 2 v.toNat) v :=
  (writeU16Le_roundTrip v ctx ctx).parses_emitted (writeSlice_emits _ ctx)

theorem readU32Le_parses (v : UInt32) (ctx : String) :
    Parses (readU32Le ctx) (leBytes 4 v.toNat) v :=
  (writeU32Le_roundTrip v ctx ctx).parses_emitted (writeSlice_emits _ ctx)

end Oxrdp
