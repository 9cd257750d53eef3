import Oxrdp.Lib.Coder

/-!
# Writers of a known length and their readers

`Coded e n d a` joins the two facts that a codec needs of each of its fields: what
`e` writes takes exactly `n` elements, and `d` reads those elements back as `a`.
The rules follow the shape of hand-written codecs: fields one after the other, a
check on either side, elements that are skipped, and a part that is cut out first
and then read on its own.
-/

namespace Coder

section Coded

variable {ε δ β α γ : Type}

/-- Whenever `e` succeeds it has written exactly `n` elements inside the buffer, and
`d` reads them back as `a`. -/
def Coded (e : OnTape ε β Unit) (n : Nat) (d : OnTape δ β α) (a : α) : Prop :=
  ∀ t t', e.run t = .ok ((), t') →
    ∃ xs, xs.length = n ∧ n ≤ t.todo.length ∧ t' = t.overwrite xs ∧ Parses d xs a

/-- A round trip of known length. -/
theorem RoundTrip.coded {e : OnTape ε β Unit} {n : Nat} {d : OnTape δ β α} {a : α}
    (h : RoundTrip e d a) (hn : Writes e n) : Coded e n d a := by
  intro t t' he
  obtain ⟨xs, -, rfl, hd⟩ := h t t' he
  obtain ⟨ys, hlen, hroom, heq⟩ := hn t _ he
  have hsame : xs = ys := by
    have hdone := congrArg Tape.done heq
    exact List.append_cancel_left hdone
  exact ⟨xs, hsame ▸ hlen, hroom, rfl, hd⟩

theorem Coded.roundTrip {e : OnTape ε β Unit} {n : Nat} {d : OnTape δ β α} {a : α}
    (h : Coded e n d a) : RoundTrip e d a := by
  intro t t' he
  obtain ⟨xs, hlen, hroom, heq, hd⟩ := h t t' he
  exact ⟨xs, hlen ▸ hroom, heq, hd⟩

theorem Coded.writes {e : OnTape ε β Unit} {n : Nat} {d : OnTape δ β α} {a : α}
    (h : Coded e n d a) : Writes e n := by
  intro t t' he
  obtain ⟨xs, hlen, hroom, heq, -⟩ := h t t' he
  exact ⟨xs, hlen, hroom, heq⟩

theorem Coded.of_eq {e : OnTape ε β Unit} {m n : Nat} {d : OnTape δ β α} {a : α}
    (h : Coded e m d a) (heq : m = n) : Coded e n d a :=
  heq ▸ h

theorem Coded.pure (a : α) :
    Coded (Pure.pure () : OnTape ε β Unit) 0 (Pure.pure a : OnTape δ β α) a :=
  (RoundTrip.pure a).coded Writes.pure

/-- What is written is known, and what is read of it. -/
theorem Emits.coded {e : OnTape ε β Unit} {n : Nat} {d : OnTape δ β α} {a : α} {xs : List β}
    (h : Emits e xs) (hn : Writes e n) (hd : Parses d xs a) : Coded e n d a := by
  intro t t' he
  obtain ⟨-, -, hroom, -⟩ := hn t t' he
  have hlen := h.length_eq hn
  have hrun := h t (hlen ▸ hroom)
  rw [he] at hrun
  cases hrun
  exact ⟨xs, hlen, hroom, rfl, hd⟩

/-- One field after another; the reader of the second may depend on the first. -/
theorem Coded.bind {e₁ e₂ : OnTape ε β Unit} {m n : Nat} {d : OnTape δ β α}
    {k : α → OnTape δ β γ} {a : α} {c : γ} (h₁ : Coded e₁ m d a) (h₂ : Coded e₂ n (k a) c) :
    Coded (e₁ >>= fun _ => e₂) (m + n) (d >>= k) c :=
  (h₁.roundTrip.bind h₂.roundTrip).coded (h₁.writes.bind h₂.writes)

/-- The last field of a record. -/
theorem Coded.map {e : OnTape ε β Unit} {n : Nat} {d : OnTape δ β α} {a : α} (f : α → γ)
    (h : Coded e n d a) : Coded e n (d >>= fun x => Pure.pure (f x)) (f a) :=
  (h.roundTrip.map f).coded h.writes

/-- A check of the reader that the value passes. -/
theorem Coded.unless {e : OnTape ε β Unit} {n : Nat} {d fail : OnTape δ β α} {a : α}
    {c : Prop} [Decidable c] (hc : ¬ c) (h : Coded e n d a) :
    Coded e n (if c then fail else d) a := by
  rw [if_neg hc]
  exact h

/-- A check of the writer: where it refuses there is nothing to read back. -/
theorem Coded.guarded {e : OnTape ε β Unit} {n : Nat} {d : OnTape δ β α} {a : α} {err : ε}
    {c : Prop} [Decidable c] (h : c → Coded e n d a) :
    Coded (if c then e else throw err) n d a := by
  split
  next hc => exact h hc
  next =>
    intro t t' he
    cases he

/-- A list, element by element. -/
theorem Coded.many {e : α → OnTape ε β Unit} {n : Nat} {d : OnTape δ β α}
    (h : ∀ a, Coded (e a) n d a) (l : List α) :
    Coded (writeMany e l) (l.length * n) (readMany d l.length) l :=
  (RoundTrip.many (fun a => (h a).roundTrip) l).coded (Writes.many (fun a => (h a).writes) l)

/-- A whole buffer that was written in one go holds what is read back. -/
theorem Coded.buffer {e : OnTape ε β Unit} {n : Nat} {d : OnTape δ β α} {a : α} {buf : List β}
    {t' : Tape β} (h : Coded e n d a) (hbuf : buf.length = n)
    (he : e.run (Tape.start buf) = .ok ((), t')) :
    t'.content.length = n ∧ t'.todo = [] ∧ Parses d t'.content a := by
  obtain ⟨xs, hlen, -, rfl, hd⟩ := h _ _ he
  have htodo : (Tape.start buf).todo.drop xs.length = [] := by
    rw [hlen, ← hbuf]
    exact List.drop_length
  have hcontent : ((Tape.start buf).overwrite xs).content = xs := by
    simp only [Tape.content, Tape.overwrite_done, Tape.overwrite_todo, htodo]
    simp [Tape.start]
  rw [hcontent]
  exact ⟨hlen, htodo, hd⟩

end Coded

end Coder
