import Oxrdp.Lib.Checked
import Oxrdp.Lib.Coded
import Oxrdp.Pdu.Cursor

/-!
# Fields of the RDP wire types

The rest of `cursor.rs` that the PDU types need: big-endian words, arrays of a fixed
size, and reading a part of the input through a cursor of its own.  The `*_coded`
lemmas are the leaves of every codec of the crate: what a primitive writer writes has
a known length, and the primitive reader reads it back.
-/

namespace Oxrdp

open Coder

/-! ## Big-endian words -/

/-- The low `k` bytes of `n`, most significant first (`to_be_bytes`). -/
def beBytes (k n : Nat) : List UInt8 := (leBytes k n).reverse

/-- The number whose big-endian bytes these are (`from_be_bytes`). -/
def beNat (bs : List UInt8) : Nat := leNat bs.reverse

/-- There are as many bytes as asked for. -/
@[simp] theorem beBytes_length (k n : Nat) : (beBytes k n).length = k := by
  simp [beBytes]

/-- A number that fits its bytes is what they stand for. -/
theorem beNat_beBytes {k n : Nat} (h : n < 256 ^ k) : beNat (beBytes k n) = n := by
  rw [beNat, beBytes, List.reverse_reverse, leNat_leBytes h]

/-- The last byte counts once, and all before it 256 times. -/
theorem beNat_append (bs : List UInt8) (b : UInt8) :
    beNat (bs ++ [b]) = 256 * beNat bs + b.toNat := by
  rw [beNat, List.reverse_append]
  change b.toNat + 256 * leNat bs.reverse = 256 * beNat bs + b.toNat
  rw [beNat]
  omega

def readU16Be (context : String) : Decoder UInt16 := do
  let bytes ← readSlice 2 context
  pure (UInt16.ofNat (beNat bytes))

def writeU16Be (value : UInt16) (context : String) : Encoder Unit :=
  writeSlice (beBytes 2 value.toNat) context

/-! ## Arrays and parts -/

/-- A byte array of a fixed size. -/
abbrev Bytes (n : Nat) := { bs : List UInt8 // bs.length = n }

/-- Read a fixed-size array. -/
def readArray (n : Nat) (context : String) : Decoder (Bytes n) := fun c =>
  if h : c.todo.length < n then
    .error (.notEnoughBytes context n c.todo.length)
  else
    .ok (⟨c.todo.take n, List.length_take_of_le (Nat.le_of_not_lt h)⟩, c.advance n)

/-- A result that does not depend on the cursor. -/
def Decoder.ofResult {α : Type} (r : DecodeResult α) : Decoder α :=
  match r with
  | .ok a => pure a
  | .error e => throw e

/-- Cut out the next `n` bytes and read them through a cursor of their own. -/
def readPart {α : Type} (n : Nat) (context : String) (f : List UInt8 → DecodeResult α) :
    Decoder α := do
  let sub ← readSlice n context
  Decoder.ofResult (f sub)

/-- Read one byte that has to be `tag`. -/
def expectU8 (tag : UInt8) (context : String) (err : DecodeError) : Decoder Unit := do
  let b ← readU8 context
  if b ≠ tag then
    throw err
  else
    pure ()

/-! ## Leaves -/

/-- A byte comes back. -/
theorem writeU8_coded (v : UInt8) (c c' : String) : Coded (writeU8 v c) 1 (readU8 c') v :=
  (writeU8_roundTrip v c c').coded (writeU8_writes v c)

/-- A tag comes back as what was expected. -/
theorem expectU8_coded (tag : UInt8) (c c' : String) (err : DecodeError) :
    Coded (writeU8 tag c) 1 (expectU8 tag c' err) () := by
  intro t t' he
  obtain ⟨xs, hlen, hroom, heq, hparse⟩ := writeU8_coded tag c c' t t' he
  have hnext : Parses (if tag ≠ tag then throw err else pure () : Decoder Unit) [] () := by
    rw [if_neg (by simp)]
    exact Parses.pure ()
  exact ⟨xs, hlen, hroom, heq, hparse.last hnext⟩

/-- Two bytes come back, lowest first. -/
theorem writeU16Le_coded (v : UInt16) (c c' : String) :
    Coded (writeU16Le v c) 2 (readU16Le c') v :=
  (writeU16Le_roundTrip v c c').coded (writeU16Le_writes v c)

/-- Four bytes come back, lowest first. -/
theorem writeU32Le_coded (v : UInt32) (c c' : String) :
    Coded (writeU32Le v c) 4 (readU32Le c') v :=
  (writeU32Le_roundTrip v c c').coded (writeU32Le_writes v c)

/-- A slice comes back, as long as its length is known. -/
theorem writeSlice_coded (xs : List UInt8) (c c' : String) :
    Coded (writeSlice xs c) xs.length (readSlice xs.length c') xs :=
  (writeSlice_roundTrip c (readSlice_parses xs c')).coded (writeSlice_writes xs c)

/-- Two bytes come back, highest first. -/
theorem writeU16Be_coded (v : UInt16) (c c' : String) :
    Coded (writeU16Be v c) 2 (readU16Be c') v := by
  have hback : UInt16.ofNat (beNat (beBytes 2 v.toNat)) = v := by
    rw [beNat_beBytes v.toNat_lt]
    exact UInt16.ofNat_toNat
  have hslice := writeSlice_coded (beBytes 2 v.toNat) c c'
  rw [beBytes_length] at hslice
  have hall := hslice.map fun bytes => UInt16.ofNat (beNat bytes)
  rw [hback] at hall
  exact hall

/-- An array is read from its bytes. -/
theorem readArray_parses {n : Nat} (bs : Bytes n) (c : String) :
    Parses (readArray n c) bs.val bs := by
  obtain ⟨xs, hlen⟩ := bs
  intro done tail
  have hroom : ¬ (xs ++ tail).length < n := by
    rw [List.length_append]
    omega
  have hrun : (readArray n c).run ⟨done, xs ++ tail⟩ =
      if h : (xs ++ tail).length < n then
        .error (.notEnoughBytes c n (xs ++ tail).length)
      else
        .ok (⟨(xs ++ tail).take n, List.length_take_of_le (Nat.le_of_not_lt h)⟩,
          Tape.advance ⟨done, xs ++ tail⟩ n) := rfl
  rw [hrun, dif_neg hroom]
  subst hlen
  simp [Tape.advance]

/-- An array comes back. -/
theorem writeArray_coded {n : Nat} (bs : Bytes n) (c c' : String) :
    Coded (writeSlice bs.val c) n (readArray n c') bs :=
  ((writeSlice_roundTrip c (readArray_parses bs c')).coded (writeSlice_writes bs.val c)).of_eq
    bs.property

/-- Whatever fields a writer puts there, a reader may skip them as one slice. -/
theorem skipped {α : Type} {e : Encoder Unit} {n : Nat} (h : Writes e n) (a : α) (c : String) :
    Coded e n (readSlice n c >>= fun _ => pure a) a := by
  intro t t' he
  obtain ⟨xs, hlen, hroom, heq⟩ := h t t' he
  have hslice := readSlice_parses xs c
  rw [hlen] at hslice
  exact ⟨xs, hlen, hroom, heq, hslice.last (Parses.pure a)⟩

@[simp] theorem error_bind {ε α β : Type} (e : ε) (f : α → Except ε β) :
    ((Except.error e : Except ε α) >>= f) = .error e :=
  rfl

/-- What a decoder makes of some bytes it may return. -/
theorem decode_returns {α : Type} {d : Decoder α} {xs : List UInt8} {a : α}
    (h : decode d xs = .ok a) : Returns d a := by
  obtain ⟨t, hrun⟩ := decode_run h
  exact ⟨_, t, hrun⟩

/-- A reader that went on has passed its check. -/
theorem checked_run {α : Type} {c : Prop} [Decidable c] {e : DecodeError} {d : Decoder α}
    {t : ReadCursor} {r : α × ReadCursor}
    (h : (if c then throw e else d).run t = .ok r) : ¬ c ∧ d.run t = .ok r := by
  by_cases hc : c
  · rw [if_pos hc] at h
    cases h
  · rw [if_neg hc] at h
    exact ⟨hc, h⟩

/-- The byte that was read is the first of what was ahead. -/
theorem readU8_todo {c : String} {t t' : ReadCursor} {b : UInt8}
    (h : (readU8 c).run t = .ok (b, t')) : t.todo = b :: t'.todo :=
  (readU8_takes h).1.1

/-- What is parsed is what a decoder makes of those bytes, whatever follows them. -/
theorem decode_prefix {α : Type} {d : Decoder α} {xs : List UInt8} {a : α}
    (h : Parses d xs a) (tail : List UInt8) : decode d (xs ++ tail) = .ok a := by
  rw [decode, Tape.start, h [] tail]
  rfl

/-- What parses to a value is decoded to it. -/
theorem decode_of_parses {α : Type} {d : Decoder α} {xs : List UInt8} {a : α}
    (h : Parses d xs a) : decode d xs = .ok a := by
  have hall := decode_prefix h []
  rw [List.append_nil] at hall
  exact hall

/-- A successful encoding has the announced size, all of it was written, and the value is
parsed from it. -/
theorem encodeVec_parses {α : Type} {e : Encoder Unit} {size : Nat} {d : Decoder α} {a : α}
    (h : Coded e size d a) {body : List UInt8} (hbody : encodeVec size e = .ok body) :
    body.length = size ∧
      (∃ t, e.run (Tape.start (List.replicate size 0)) = .ok ((), t) ∧ t.todo = []) ∧
      Parses d body a := by
  unfold encodeVec at hbody
  cases hrun : e.run (Tape.start (List.replicate size 0)) with
  | error err =>
      rw [hrun] at hbody
      cases hbody
  | ok r =>
      obtain ⟨⟨⟩, t'⟩ := r
      rw [hrun] at hbody
      cases hbody
      obtain ⟨hlen, htodo, hparse⟩ := h.buffer List.length_replicate hrun
      exact ⟨hlen, ⟨t', rfl, htodo⟩, hparse⟩

/-- Decoding a successful encoding gives the value back. -/
theorem encodeVec_coded {α : Type} {e : Encoder Unit} {size : Nat} {d : Decoder α} {a : α}
    (h : Coded e size d a) {body : List UInt8} (hbody : encodeVec size e = .ok body) :
    body.length = size ∧
      (∃ t, e.run (Tape.start (List.replicate size 0)) = .ok ((), t) ∧ t.todo = []) ∧
      decode d body = .ok a := by
  obtain ⟨hlen, hwritten, hparse⟩ := encodeVec_parses h hbody
  exact ⟨hlen, hwritten, decode_of_parses hparse⟩

/-- The first part of what was encoded can be decoded on its own. -/
theorem encodeVec_starts {α : Type} {e₁ e₂ : Encoder Unit} {m n size : Nat} {d : Decoder α} {a : α}
    (h₁ : Coded e₁ m d a) (h₂ : Writes e₂ n) {body : List UInt8}
    (hbody : encodeVec size (e₁ >>= fun _ => e₂) = .ok body) : decode d body = .ok a := by
  unfold encodeVec at hbody
  cases hrun : (e₁ >>= fun _ => e₂).run (Tape.start (List.replicate size 0)) with
  | error err =>
      rw [hrun] at hbody
      cases hbody
  | ok r =>
      obtain ⟨⟨⟩, t''⟩ := r
      rw [hrun] at hbody
      cases hbody
      obtain ⟨⟨⟩, t', hfst, hsnd⟩ := bind_run_ok.mp hrun
      obtain ⟨xs, -, -, rfl, hparse⟩ := h₁ _ _ hfst
      obtain ⟨ys, -, -, rfl⟩ := h₂ _ _ hsnd
      rw [Tape.overwrite_append]
      have hcontent : ((Tape.start (List.replicate size (0 : UInt8))).overwrite
          (xs ++ ys)).content = xs ++ (ys ++ (List.replicate size 0).drop (xs ++ ys).length) := by
        simp [Tape.content, Tape.overwrite, Tape.start]
      change decode d ((Tape.start _).overwrite (xs ++ ys)).content = .ok a
      rw [hcontent]
      exact decode_prefix hparse _

/-- A header that announces the length of a part, and the part: what is decoded is what
the reader of the part makes of its bytes. -/
theorem encodeVec_part {α : Type} {e₁ e₂ : Encoder Unit} {n : Nat} {d₁ : Decoder Nat}
    {xs : List UInt8} (h₁ : Coded e₁ n d₁ xs.length) (h₂ : Emits e₂ xs)
    (hw : Writes e₂ xs.length) (c : String) (f : List UInt8 → DecodeResult α)
    {body : List UInt8} (hbody : encodeVec (n + xs.length) (e₁ >>= fun _ => e₂) = .ok body) :
    body.length = n + xs.length ∧
      (∃ t, (e₁ >>= fun _ => e₂).run (Tape.start (List.replicate (n + xs.length) 0)) =
        .ok ((), t) ∧ t.todo = []) ∧
      decode (d₁ >>= fun k => readPart k c f) body = f xs := by
  have hslice : Coded e₂ xs.length (readSlice xs.length c) xs := by
    intro t t' he
    obtain ⟨-, -, hroom, -⟩ := hw t t' he
    have heq := h₂ t hroom
    rw [he] at heq
    cases heq
    exact ⟨xs, rfl, hroom, rfl, readSlice_parses xs c⟩
  have hboth : Coded (e₁ >>= fun _ => e₂) (n + xs.length) (d₁ >>= fun k => readSlice k c) xs :=
    h₁.bind (k := fun k => readSlice k c) hslice
  obtain ⟨hlen, hwritten, hread⟩ := encodeVec_coded hboth hbody
  refine ⟨hlen, hwritten, ?_⟩
  have hsplit : (d₁ >>= fun k => readPart k c f) =
      (d₁ >>= fun k => readSlice k c) >>= fun sub => Decoder.ofResult (f sub) := by
    simp only [readPart, bind_assoc]
  unfold decode at hread ⊢
  rw [hsplit, StateT.run_bind]
  cases hrun : (d₁ >>= fun k => readSlice k c).run (Tape.start body) with
  | error e =>
      rw [hrun] at hread
      cases hread
  | ok r =>
      obtain ⟨sub, t⟩ := r
      rw [hrun] at hread
      have hsub : sub = xs := Except.ok.inj hread
      subst hsub
      change ((Decoder.ofResult (f sub)).run t).map Prod.fst = f sub
      cases f sub with
      | error e => rfl
      | ok a => rfl

end Oxrdp
