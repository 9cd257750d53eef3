import Oxrdp.Lib.Coder
import Mathlib.Algebra.Order.Ring.Nat
import Mathlib.Data.Nat.Basic

/-!
# The bounds-checked cursors of `oxrdp-pdu`

`cursor.rs`, `codec.rs` and `error.rs`: every read and every write first
checks that enough bytes remain and fails with the amount it needed and the
amount it had.  A cursor is a buffer and an offset in it; here it is the tape
that the offset splits the buffer into, so the offset is in range by
construction.

The `*_roundTrip` and `*_undoes` lemmas are the leaves of every round trip in the
protocol: each primitive reader inverts its writer, and each primitive writer puts
back the bytes its reader took.
-/

namespace Oxrdp

open Coder

/-- An error decoding a PDU from the wire. -/
inductive DecodeError where
  | notEnoughBytes (context : String) (needed remaining : Nat)
  | invalidField (context field reason : String)
  | invalidLength (context reason : String)
  deriving DecidableEq, Repr

/-- An error encoding a PDU to the wire. -/
inductive EncodeError where
  | notEnoughSpace (context : String) (needed remaining : Nat)
  | fieldTooLarge (context field : String)
  deriving DecidableEq, Repr

abbrev DecodeResult := Except DecodeError
abbrev EncodeResult := Except EncodeError

/-- A forward-only, bounds-checked reader over a byte slice. -/
abbrev ReadCursor := Tape UInt8

/-- A forward-only, bounds-checked writer over a mutable byte slice. -/
abbrev WriteCursor := Tape UInt8

/-- A computation on a read cursor. -/
abbrev Decoder := OnTape DecodeError UInt8

/-- A computation on a write cursor. -/
abbrev Encoder := OnTape EncodeError UInt8

/-! ## Little-endian words -/

/-- The low `k` bytes of `n`, least significant first (`to_le_bytes`). -/
def leBytes (k n : Nat) : List UInt8 :=
  (List.range k).map fun i => UInt8.ofNat (n / 256 ^ i)

/-- The number whose little-endian bytes these are (`from_le_bytes`). -/
def leNat (bs : List UInt8) : Nat :=
  bs.foldr (fun b acc => b.toNat + 256 * acc) 0

/-- There are as many bytes as asked for. -/
@[simp] theorem leBytes_length (k n : Nat) : (leBytes k n).length = k := by
  simp [leBytes]

/-- The lowest byte comes first. -/
theorem leBytes_succ (k n : Nat) :
    leBytes (k + 1) n = UInt8.ofNat n :: leBytes k (n / 256) := by
  have hdiv : ∀ i, n / 256 ^ (i + 1) = n / 256 / 256 ^ i := by
    intro i
    rw [Nat.pow_succ', Nat.div_div_eq_div_mul]
  simp [leBytes, List.range_succ_eq_map, Function.comp_def, hdiv]

/-- A number that fits its bytes is what they stand for. -/
theorem leNat_leBytes {k : Nat} :
    ∀ {n : Nat}, n < 256 ^ k → leNat (leBytes k n) = n := by
  induction k with
  | zero =>
      intro n h
      have : n = 0 := by simpa using h
      subst n
      rfl
  | succ k ih =>
      intro n h
      have hlt : n / 256 < 256 ^ k := by
        rw [Nat.pow_succ] at h
        exact Nat.div_lt_of_lt_mul (by omega)
      have hrest : leNat (leBytes k (n / 256)) = n / 256 := ih hlt
      rw [leBytes_succ]
      change (UInt8.ofNat n).toNat + 256 * leNat (leBytes k (n / 256)) = n
      rw [hrest, UInt8.toNat_ofNat']
      omega

/-- The first byte counts once, and each further one 256 times the one before. -/
theorem leNat_cons (b : UInt8) (bs : List UInt8) :
    leNat (b :: bs) = b.toNat + 256 * leNat bs := rfl

/-- Bytes stand for a number that fits them. -/
theorem leNat_lt (bs : List UInt8) : leNat bs < 256 ^ bs.length := by
  induction bs with
  | nil => exact Nat.one_pos
  | cons b rest ih =>
      have hb : b.toNat < 256 := b.toNat_lt
      rw [leNat_cons, List.length_cons, Nat.pow_succ]
      omega

/-- The bytes of a number that bytes stand for are those bytes. -/
theorem leBytes_leNat (bs : List UInt8) : leBytes bs.length (leNat bs) = bs := by
  induction bs with
  | nil => rfl
  | cons b rest ih =>
      have hb : b.toNat < 256 := b.toNat_lt
      have hhead : UInt8.ofNat (leNat (b :: rest)) = b := by
        apply UInt8.toNat_inj.mp
        rw [UInt8.toNat_ofNat', leNat_cons]
        omega
      have htail : leNat (b :: rest) / 256 = leNat rest := by
        rw [leNat_cons]
        omega
      rw [List.length_cons, leBytes_succ, hhead, htail, ih]

/-! ## Reading -/

/-- Fail unless `n` more bytes remain. -/
def ensureReadable (n : Nat) (context : String) : Decoder Unit := do
  let c ← get
  if c.todo.length < n then
    throw (.notEnoughBytes context n c.todo.length)
  else
    pure ()

/-- Take the next `n` bytes (`read_slice`, and `read_array` at a fixed `n`). -/
def readSlice (n : Nat) (context : String) : Decoder (List UInt8) := do
  ensureReadable n context
  let c ← get
  set (c.advance n)
  pure (c.todo.take n)

def readU8 (context : String) : Decoder UInt8 := do
  let bytes ← readSlice 1 context
  pure (UInt8.ofNat (leNat bytes))

def readU16Le (context : String) : Decoder UInt16 := do
  let bytes ← readSlice 2 context
  pure (UInt16.ofNat (leNat bytes))

def readU32Le (context : String) : Decoder UInt32 := do
  let bytes ← readSlice 4 context
  pure (UInt32.ofNat (leNat bytes))

/-! ## Writing -/

/-- Fail unless there is room for `n` more bytes. -/
def ensureWritable (n : Nat) (context : String) : Encoder Unit := do
  let c ← get
  if c.todo.length < n then
    throw (.notEnoughSpace context n c.todo.length)
  else
    pure ()

/-- Write a raw byte slice. -/
def writeSlice (src : List UInt8) (context : String) : Encoder Unit := do
  ensureWritable src.length context
  let c ← get
  set (c.overwrite src)

def writeU8 (value : UInt8) (context : String) : Encoder Unit :=
  writeSlice [value] context

def writeU16Le (value : UInt16) (context : String) : Encoder Unit :=
  writeSlice (leBytes 2 value.toNat) context

def writeU32Le (value : UInt32) (context : String) : Encoder Unit :=
  writeSlice (leBytes 4 value.toNat) context

/-! ## The codec entry points -/

/-- Decode a value from a complete byte slice; trailing bytes are left
unread. -/
def decode {α : Type} (d : Decoder α) (bytes : List UInt8) : DecodeResult α :=
  (d.run (Tape.start bytes)).map Prod.fst

/-- Encode into a freshly allocated buffer of `size` zero bytes. -/
def encodeVec (size : Nat) (e : Encoder Unit) : EncodeResult (List UInt8) :=
  (e.run (Tape.start (List.replicate size 0))).map fun r => r.2.content

/-! ## What one read and one write do -/

/-- Reading by cases: too few bytes are left, or the cursor moves past those that were taken. -/
theorem readSlice_run (n : Nat) (context : String) (c : ReadCursor) :
    (readSlice n context).run c =
      if c.todo.length < n then
        .error (.notEnoughBytes context n c.todo.length)
      else
        .ok (c.todo.take n, c.advance n) := by
  by_cases h : c.todo.length < n
  · simp [readSlice, ensureReadable, h]
    rfl
  · simp [readSlice, ensureReadable, h]
    rfl

/-- Writing by cases: too little room is left, or the bytes are overwritten. -/
theorem writeSlice_run (src : List UInt8) (context : String) (c : WriteCursor) :
    (writeSlice src context).run c =
      if c.todo.length < src.length then
        .error (.notEnoughSpace context src.length c.todo.length)
      else
        .ok ((), c.overwrite src) := by
  by_cases h : c.todo.length < src.length
  · simp [writeSlice, ensureWritable, h]
    rfl
  · simp [writeSlice, ensureWritable, h]
    rfl

/-- Bytes ahead are read as they are. -/
theorem readSlice_parses (xs : List UInt8) (context : String) :
    Parses (readSlice xs.length context) xs xs := by
  intro done tail
  rw [readSlice_run]
  simp [Tape.advance]

/-- A written slice is read back by anything that parses it. -/
theorem writeSlice_roundTrip {α : Type} {d : Decoder α} {xs : List UInt8} {a : α}
    (context : String) (h : Parses d xs a) :
    RoundTrip (writeSlice xs context) d a := by
  intro t t' he
  rw [writeSlice_run] at he
  split at he
  · cases he
  · rename_i hroom
    cases he
    exact ⟨xs, by omega, rfl, h⟩

/-- There is need of as much room as there are bytes. -/
theorem writeSlice_fills (src : List UInt8) (context : String) :
    Fills (writeSlice src context) src.length := by
  intro t hroom
  refine ⟨src, rfl, ?_⟩
  rw [writeSlice_run, if_neg (by omega)]

/-- The fixed-width readers: `k` bytes, taken as the number they encode. -/
theorem readWord_parses {α : Type} (k n : Nat) (h : n < 256 ^ k)
    (f : Nat → α) (context : String) :
    Parses (readSlice k context >>= fun bytes => pure (f (leNat bytes)))
      (leBytes k n) (f n) := by
  have hslice : Parses (readSlice k context) (leBytes k n) (leBytes k n) := by
    simpa using readSlice_parses (leBytes k n) context
  have hpure : Parses (pure (f (leNat (leBytes k n))) : Decoder α) [] (f n) := by
    rw [leNat_leBytes h]
    exact Parses.pure _
  have hboth := hslice.bind (k := fun bytes => pure (f (leNat bytes))) hpure
  rwa [List.append_nil] at hboth

/-- A byte comes back. -/
theorem writeU8_roundTrip (v : UInt8) (c c' : String) :
    RoundTrip (writeU8 v c) (readU8 c') v := by
  refine writeSlice_roundTrip c ?_
  have hbytes : [v] = leBytes 1 v.toNat := by simp [leBytes]
  rw [hbytes]
  simpa [readU8] using
    readWord_parses 1 v.toNat v.toNat_lt UInt8.ofNat c'

/-- A word of two bytes comes back. -/
theorem writeU16Le_roundTrip (v : UInt16) (c c' : String) :
    RoundTrip (writeU16Le v c) (readU16Le c') v := by
  refine writeSlice_roundTrip c ?_
  simpa [readU16Le] using
    readWord_parses 2 v.toNat v.toNat_lt UInt16.ofNat c'

/-- A word of four bytes comes back. -/
theorem writeU32Le_roundTrip (v : UInt32) (c c' : String) :
    RoundTrip (writeU32Le v c) (readU32Le c') v := by
  refine writeSlice_roundTrip c ?_
  simpa [readU32Le] using
    readWord_parses 4 v.toNat v.toNat_lt UInt32.ofNat c'

theorem writeU8_fills (v : UInt8) (c : String) : Fills (writeU8 v c) 1 :=
  writeSlice_fills [v] c

theorem writeU16Le_fills (v : UInt16) (c : String) : Fills (writeU16Le v c) 2 :=
  writeSlice_fills (leBytes 2 v.toNat) c

theorem writeU32Le_fills (v : UInt32) (c : String) : Fills (writeU32Le v c) 4 :=
  writeSlice_fills (leBytes 4 v.toNat) c

/-- What is written is as long as what was given. -/
theorem writeSlice_writes (src : List UInt8) (context : String) :
    Writes (writeSlice src context) src.length := by
  intro t t' he
  rw [writeSlice_run] at he
  split at he
  · cases he
  · rename_i hroom
    cases he
    exact ⟨src, rfl, by omega, rfl⟩

theorem writeU8_writes (v : UInt8) (c : String) : Writes (writeU8 v c) 1 :=
  writeSlice_writes [v] c

theorem writeU16Le_writes (v : UInt16) (c : String) : Writes (writeU16Le v c) 2 :=
  writeSlice_writes (leBytes 2 v.toNat) c

theorem writeU32Le_writes (v : UInt32) (c : String) : Writes (writeU32Le v c) 4 :=
  writeSlice_writes (leBytes 4 v.toNat) c

/-! ## Putting back what was read -/

/-- What is written is what was given. -/
theorem writeSlice_emits (src : List UInt8) (context : String) :
    Emits (writeSlice src context) src := by
  intro t hroom
  rw [writeSlice_run, if_neg (by omega)]

/-- A slice that was read is the next `n` bytes. -/
theorem readSlice_passes {n : Nat} {context : String} {t t' : ReadCursor} {xs : List UInt8}
    (h : (readSlice n context).run t = .ok (xs, t')) : xs.length = n ∧ t.Passes xs t' := by
  rw [readSlice_run] at h
  split at h
  · cases h
  · rename_i hroom
    cases h
    exact ⟨List.length_take_of_le (by omega), (List.take_append_drop n t.todo).symm, rfl⟩

/-- Bytes that were read are written back. -/
theorem readSlice_undoes (n : Nat) (context : String) :
    Undoes (fun xs => writeSlice xs context) (readSlice n context) := by
  intro t xs t' h
  obtain ⟨hlen, hpass⟩ := readSlice_passes h
  have hparse := readSlice_parses xs context
  rw [hlen] at hparse
  exact ⟨xs, hpass, hparse, writeSlice_emits xs context⟩

/-- As many bytes are read as were asked for. -/
theorem readSlice_returns {n : Nat} {context : String} {xs : List UInt8}
    (h : Returns (readSlice n context) xs) : xs.length = n := by
  obtain ⟨t, t', hrun⟩ := h
  exact (readSlice_passes hrun).1

/-- The fixed-width readers: the bytes of the number they returned. -/
theorem readWord_undoes {α : Type} (k : Nat) (f : Nat → α) (bytesOf : α → List UInt8)
    (hinv : ∀ n < 256 ^ k, bytesOf (f n) = leBytes k n) (context : String) :
    Undoes (fun a => writeSlice (bytesOf a) context)
      (readSlice k context >>= fun bytes => pure (f (leNat bytes))) := by
  apply (readSlice_undoes k context).map
  intro bytes hret
  have hlen := readSlice_returns hret
  have hlt := leNat_lt bytes
  have hback := leBytes_leNat bytes
  rw [hlen] at hlt hback
  change writeSlice (bytesOf (f (leNat bytes))) context = writeSlice bytes context
  rw [hinv _ hlt, hback]

/-- A byte that was read is written back. -/
theorem readU8_undoes (c : String) : Undoes (fun v => writeU8 v c) (readU8 c) := by
  apply readWord_undoes 1 UInt8.ofNat (fun v => [v])
  intro n hn
  simp [leBytes]

/-- A byte that was read is the next one. -/
theorem readU8_takes {c : String} {t t' : ReadCursor} {b : UInt8}
    (h : (readU8 c).run t = .ok (b, t')) : t.Passes [b] t' ∧ Parses (readU8 c) [b] b := by
  obtain ⟨xs, hpass, hparse, hemit⟩ := readU8_undoes c t b t' h
  have hxs : xs = [b] := hemit.unique (writeSlice_emits [b] c)
  rw [hxs] at hpass hparse
  exact ⟨hpass, hparse⟩

/-- A word of two bytes is read and written back. -/
theorem readU16Le_undoes (c : String) : Undoes (fun v => writeU16Le v c) (readU16Le c) := by
  apply readWord_undoes 2 UInt16.ofNat (fun v => leBytes 2 v.toNat)
  intro n hn
  rw [UInt16.toNat_ofNat_of_lt' hn]

/-- A word of four bytes is read and written back. -/
theorem readU32Le_undoes (c : String) : Undoes (fun v => writeU32Le v c) (readU32Le c) := by
  apply readWord_undoes 4 UInt32.ofNat (fun v => leBytes 4 v.toNat)
  intro n hn
  rw [UInt32.toNat_ofNat_of_lt' hn]

/-- The run behind a decoding that went well. -/
theorem decode_run {α : Type} {d : Decoder α} {xs : List UInt8} {a : α}
    (h : decode d xs = .ok a) : ∃ t, d.run (Tape.start xs) = .ok (a, t) := by
  unfold decode at h
  cases hrun : d.run (Tape.start xs) with
  | error e =>
      rw [hrun] at h
      cases h
  | ok r =>
      obtain ⟨b, t⟩ := r
      rw [hrun] at h
      cases h
      exact ⟨t, rfl⟩

/-- A value that fills its announced size always encodes. -/
theorem encodeVec_succeeds {e : Encoder Unit} {size : Nat} (h : Fills e size) :
    ∃ body, encodeVec size e = .ok body := by
  obtain ⟨xs, -, hrun⟩ := h (Tape.start (List.replicate size 0)) (by simp [Tape.start])
  refine ⟨((Tape.start (List.replicate size 0)).overwrite xs).content, ?_⟩
  rw [encodeVec, hrun]
  rfl

/-- A value whose writer puts `xs` back, and takes the announced size for it, encodes
as `xs`. -/
theorem encodeVec_emits {e : Encoder Unit} {size : Nat} {xs : List UInt8} (h : Emits e xs)
    (hsize : Writes e size) : encodeVec size e = .ok xs := by
  have hlen : xs.length = size := h.length_eq hsize
  have hrun := h (Tape.start (List.replicate size 0)) (by simp [Tape.start, hlen])
  rw [encodeVec, hrun]
  simp [Except.map, Tape.overwrite, Tape.content, Tape.start, hlen]

/-- A successful encoding fills a buffer of exactly the announced size, and
decoding it gives the value back. -/
theorem encodeVec_roundTrip {α : Type} {e : Encoder Unit} {d : Decoder α} {a : α}
    (h : RoundTrip e d a) {size : Nat} {body : List UInt8}
    (hbody : encodeVec size e = .ok body) :
    body.length = size ∧ decode d body = .ok a := by
  unfold encodeVec at hbody
  cases hrun : e.run (Tape.start (List.replicate size 0)) with
  | error err =>
      rw [hrun] at hbody
      cases hbody
  | ok r =>
      obtain ⟨_, t'⟩ := r
      rw [hrun] at hbody
      cases hbody
      obtain ⟨rest, hread⟩ := h.read_content hrun
      refine ⟨?_, ?_⟩
      · change t'.content.length = size
        rw [h.content_length hrun]
        simp [Tape.start, Tape.content]
      · change (d.run (Tape.start t'.content)).map Prod.fst = .ok a
        rw [hread]
        rfl

end Oxrdp
