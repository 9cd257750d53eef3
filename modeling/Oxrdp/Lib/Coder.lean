import Mathlib.Data.List.Basic

/-!
# Paired writers and readers on a tape

A buffer with a position in it is a **tape**: the elements already passed and
the elements still ahead.  Overwriting moves elements from the caller onto the
passed part, reading moves the position over what is ahead, and neither can
leave the buffer, because the position is where the two lists meet.

Writers and readers are state transformers over a tape that may fail.
`RoundTrip e d a` says that whatever `e` wrote, `d` reads back as `a`, with any
elements following it left unread.  The rules compose it along `bind`, so that
the round trip of a record is the list of the round trips of its fields.

`Undoes e d` is the other direction: whatever `d` read, `e` writes exactly those
elements again.  A record is undone field by field as well; `UndoesIn` carries the
part of its writer that the fields read so far have accounted for.

Nothing here knows the element type, the error types or the format.
-/

namespace Coder

/-- A buffer split at the current position. -/
@[ext] structure Tape (β : Type) where
  done : List β
  todo : List β

namespace Tape

variable {β : Type}

/-- The tape positioned at the start of a buffer. -/
def start (xs : List β) : Tape β := ⟨[], xs⟩

/-- The whole buffer, whatever the position. -/
def content (t : Tape β) : List β := t.done ++ t.todo

/-- Write `xs` over the elements ahead and step past them. -/
def overwrite (t : Tape β) (xs : List β) : Tape β :=
  ⟨t.done ++ xs, t.todo.drop xs.length⟩

/-- Step past the next `n` elements. -/
def advance (t : Tape β) (n : Nat) : Tape β :=
  ⟨t.done ++ t.todo.take n, t.todo.drop n⟩

/-- What is overwritten counts as done. -/
@[simp] theorem overwrite_done (t : Tape β) (xs : List β) :
    (t.overwrite xs).done = t.done ++ xs := rfl

/-- As much of what is ahead is gone. -/
@[simp] theorem overwrite_todo (t : Tape β) (xs : List β) :
    (t.overwrite xs).todo = t.todo.drop xs.length := rfl

/-- Nothing is overwritten by nothing. -/
theorem overwrite_nil (t : Tape β) : t.overwrite [] = t := by
  simp [overwrite]

/-- Two parts are overwritten as one. -/
theorem overwrite_append (t : Tape β) (xs ys : List β) :
    (t.overwrite xs).overwrite ys = t.overwrite (xs ++ ys) := by
  simp [overwrite, List.drop_drop]

/-- Overwriting inside the buffer keeps its length. -/
theorem content_overwrite_length (t : Tape β) {xs : List β}
    (h : xs.length ≤ t.todo.length) :
    (t.overwrite xs).content.length = t.content.length := by
  simp only [content, overwrite, List.length_append, List.length_drop]
  omega

/-- From `t` to `t'` the position moved over `xs`. -/
def Passes (t : Tape β) (xs : List β) (t' : Tape β) : Prop :=
  t.todo = xs ++ t'.todo ∧ t'.done = t.done ++ xs

/-- A tape passes nothing to stay where it is. -/
theorem Passes.refl (t : Tape β) : t.Passes [] t :=
  ⟨rfl, (List.append_nil _).symm⟩

/-- Passing moves a tape by what is passed. -/
theorem Passes.done_length {t t' : Tape β} {xs : List β} (h : t.Passes xs t') :
    t'.done.length = t.done.length + xs.length := by
  rw [h.2, List.length_append]

/-- Passing is passing one part after the other. -/
theorem Passes.trans {t t' t'' : Tape β} {xs ys : List β} (h₁ : t.Passes xs t')
    (h₂ : t'.Passes ys t'') : t.Passes (xs ++ ys) t'' := by
  refine ⟨?_, ?_⟩
  · rw [h₁.1, h₂.1, List.append_assoc]
  · rw [h₂.2, h₁.2, List.append_assoc]

end Tape

/-- Fallible computations on a tape.  A writer returns nothing, a reader
returns the value it read. -/
abbrev OnTape (ε β : Type) := StateT (Tape β) (Except ε)

section Rules

variable {ε δ β α γ : Type}

/-- A sequenced computation succeeds exactly when both of its halves do. -/
theorem bind_run_ok {σ : Type} {x : StateT σ (Except ε) α}
    {f : α → StateT σ (Except ε) γ} {s : σ} {r : γ × σ} :
    (x >>= f).run s = .ok r ↔
      ∃ a s', x.run s = .ok (a, s') ∧ (f a).run s' = .ok r := by
  rw [StateT.run_bind]
  cases h : x.run s with
  | error e =>
      constructor
      · intro hr
        cases hr
      · intro h
        obtain ⟨a, s', hx, -⟩ := h
        cases hx
  | ok p =>
      constructor
      · intro hr
        exact ⟨p.1, p.2, rfl, hr⟩
      · intro h
        obtain ⟨a, s', hx, hf⟩ := h
        cases hx
        exact hf

/-- Two computations with the same first half go through the same state. -/
theorem bind_run_ok_both {σ τ : Type} {x : StateT σ (Except ε) α}
    {f : α → StateT σ (Except ε) γ} {g : α → StateT σ (Except ε) τ}
    {s : σ} {r : γ × σ} {q : τ × σ}
    (hf : (x >>= f).run s = .ok r) (hg : (x >>= g).run s = .ok q) :
    ∃ a s', (f a).run s' = .ok r ∧ (g a).run s' = .ok q := by
  obtain ⟨a, s', hx, hf'⟩ := bind_run_ok.mp hf
  obtain ⟨b, s'', hy, hg'⟩ := bind_run_ok.mp hg
  cases hx.symm.trans hy
  exact ⟨a, s', hf', hg'⟩

/-- `d` reads exactly the elements `xs` as the value `a`, in any context. -/
def Parses (d : OnTape δ β α) (xs : List β) (a : α) : Prop :=
  ∀ done tail, d.run ⟨done, xs ++ tail⟩ = .ok (a, ⟨done ++ xs, tail⟩)

/-- A pure decoder reads nothing. -/
theorem Parses.pure (a : α) : Parses (Pure.pure a : OnTape δ β α) [] a := by
  intro done tail
  rw [StateT.run_pure, List.append_nil]
  rfl

/-- **Sequence.** A decoder that goes on reads the bytes of both parts. -/
theorem Parses.bind {d : OnTape δ β α} {k : α → OnTape δ β γ}
    {xs ys : List β} {a : α} {c : γ}
    (hd : Parses d xs a) (hk : Parses (k a) ys c) :
    Parses (d >>= k) (xs ++ ys) c := by
  intro done tail
  rw [bind_run_ok]
  refine ⟨a, ⟨done ++ xs, ys ++ tail⟩, ?_, ?_⟩
  · simpa using hd done (ys ++ tail)
  · simpa using hk (done ++ xs) tail

/-- The last step of a parser takes nothing more from the tape. -/
theorem Parses.last {d : OnTape δ β α} {k : α → OnTape δ β γ} {xs : List β} {a : α} {c : γ}
    (hd : Parses d xs a) (hk : Parses (k a) [] c) : Parses (d >>= k) xs c := by
  have hall := hd.bind hk
  rw [List.append_nil] at hall
  exact hall

/-- Whatever `e` writes, it writes inside the buffer, and `d` reads it back
as `a`. -/
def RoundTrip (e : OnTape ε β Unit) (d : OnTape δ β α) (a : α) : Prop :=
  ∀ t t', e.run t = .ok ((), t') →
    ∃ xs, xs.length ≤ t.todo.length ∧ t' = t.overwrite xs ∧ Parses d xs a

/-- What writes nothing comes back from what reads nothing. -/
theorem RoundTrip.pure (a : α) :
    RoundTrip (Pure.pure () : OnTape ε β Unit) (Pure.pure a : OnTape δ β α) a := by
  intro t t' h
  cases h
  exact ⟨[], by simp, t.overwrite_nil.symm, Parses.pure a⟩

/-- Round trips compose: the reader of the second half may depend on what the
first half carried. -/
theorem RoundTrip.bind {e₁ e₂ : OnTape ε β Unit} {d : OnTape δ β α}
    {k : α → OnTape δ β γ} {a : α} {c : γ}
    (h₁ : RoundTrip e₁ d a) (h₂ : RoundTrip e₂ (k a) c) :
    RoundTrip (e₁ >>= fun _ => e₂) (d >>= k) c := by
  intro t t'' h
  obtain ⟨_, t', hfst, hsnd⟩ := bind_run_ok.mp h
  obtain ⟨xs, hxs, rfl, hd⟩ := h₁ t t' hfst
  obtain ⟨ys, hys, rfl, hk⟩ := h₂ _ t'' hsnd
  refine ⟨xs ++ ys, ?_, t.overwrite_append xs ys, hd.bind hk⟩
  simp only [Tape.overwrite_todo, List.length_drop] at hys
  simp only [List.length_append]
  omega

/-- A reader that only reshapes what another reader returned. -/
theorem RoundTrip.map {e : OnTape ε β Unit} {d : OnTape δ β α} {a : α}
    (f : α → γ) (h : RoundTrip e d a) :
    RoundTrip e (d >>= fun x => Pure.pure (f x)) (f a) := by
  intro t t' he
  obtain ⟨xs, hxs, rfl, hd⟩ := h t t' he
  refine ⟨xs, hxs, rfl, ?_⟩
  have hk : Parses (Pure.pure (f a) : OnTape δ β γ) [] (f a) := Parses.pure (f a)
  simpa using hd.bind (k := fun x => Pure.pure (f x)) hk

/-- A write leaves the length of the buffer as it was. -/
theorem RoundTrip.content_length {e : OnTape ε β Unit} {d : OnTape δ β α} {a : α}
    (h : RoundTrip e d a) {t t' : Tape β} (he : e.run t = .ok ((), t')) :
    t'.content.length = t.content.length := by
  obtain ⟨xs, hxs, rfl, -⟩ := h t t' he
  exact t.content_overwrite_length hxs

/-- Reading a freshly written buffer from its start returns the value, even
when the buffer was larger than what was written. -/
theorem RoundTrip.read_content {e : OnTape ε β Unit} {d : OnTape δ β α} {a : α}
    (h : RoundTrip e d a) {buf : List β} {t' : Tape β}
    (he : e.run (Tape.start buf) = .ok ((), t')) :
    ∃ rest, d.run (Tape.start t'.content) = .ok (a, rest) := by
  obtain ⟨xs, -, rfl, hd⟩ := h _ _ he
  exact ⟨_, by simpa [Tape.start, Tape.content] using hd [] _⟩

/-- Given room for `n` elements, `e` succeeds and writes exactly `n`. -/
def Fills (e : OnTape ε β Unit) (n : Nat) : Prop :=
  ∀ t, n ≤ t.todo.length →
    ∃ xs, xs.length = n ∧ e.run t = .ok ((), t.overwrite xs)

/-- What writes nothing needs no room. -/
theorem Fills.pure : Fills (Pure.pure () : OnTape ε β Unit) 0 := by
  intro t _
  refine ⟨[], rfl, ?_⟩
  rw [t.overwrite_nil]
  rfl

/-- **Sequence.** The room for both parts is enough. -/
theorem Fills.bind {e₁ e₂ : OnTape ε β Unit} {m n : Nat}
    (h₁ : Fills e₁ m) (h₂ : Fills e₂ n) :
    Fills (e₁ >>= fun _ => e₂) (m + n) := by
  intro t hroom
  obtain ⟨xs, hxs, hfst⟩ := h₁ t (by omega)
  obtain ⟨ys, hys, hsnd⟩ := h₂ (t.overwrite xs) (by
    simp only [Tape.overwrite_todo, List.length_drop]
    omega)
  refine ⟨xs ++ ys, by simp [hxs, hys], bind_run_ok.mpr ⟨(), _, hfst, ?_⟩⟩
  rw [hsnd, t.overwrite_append]

/-- Write the elements of a list one after the other. -/
def writeMany (e : α → OnTape ε β Unit) : List α → OnTape ε β Unit
  | [] => Pure.pure ()
  | a :: rest => do
      e a
      writeMany e rest

/-- Read `n` elements one after the other, in order. -/
def readMany (d : OnTape δ β α) : Nat → OnTape δ β (List α)
  | 0 => Pure.pure []
  | n + 1 => do
      let a ← d
      let rest ← readMany d n
      Pure.pure (a :: rest)

/-- A list whose elements stand one behind the other. -/
theorem Parses.many {d : OnTape δ β α} {part : α → List β} {l : List α}
    (h : ∀ a ∈ l, Parses d (part a) a) : Parses (readMany d l.length) (l.flatMap part) l := by
  induction l with
  | nil => exact Parses.pure []
  | cons a rest ih =>
      have hfst := h a (List.mem_cons_self ..)
      have hrest := ih fun b hb => h b (List.mem_cons_of_mem _ hb)
      exact hfst.bind (hrest.last (Parses.pure (a :: rest)))

/-- A list comes back, entry by entry. -/
theorem RoundTrip.many {e : α → OnTape ε β Unit} {d : OnTape δ β α}
    (h : ∀ a, RoundTrip (e a) d a) :
    ∀ l : List α, RoundTrip (writeMany e l) (readMany d l.length) l := by
  intro l
  induction l with
  | nil => exact RoundTrip.pure []
  | cons a rest ih => exact (h a).bind (ih.map (a :: ·))

/-- A list needs the room of its entries. -/
theorem Fills.many {e : α → OnTape ε β Unit} {n : Nat}
    (h : ∀ a, Fills (e a) n) :
    ∀ l : List α, Fills (writeMany e l) (l.length * n) := by
  intro l
  induction l with
  | nil =>
      rw [List.length_nil, Nat.zero_mul]
      exact Fills.pure
  | cons a rest ih =>
      have hlen : (a :: rest).length * n = n + rest.length * n := by
        rw [List.length_cons, Nat.succ_mul, Nat.add_comm]
      rw [hlen]
      exact (h a).bind ih

/-- A successful counted read returns as many elements as were asked for. -/
theorem readMany_length (d : OnTape δ β α) :
    ∀ {n : Nat} {t t' : Tape β} {l : List α},
      (readMany d n).run t = .ok (l, t') → l.length = n := by
  intro n
  induction n with
  | zero =>
      intro t t' l h
      cases h
      rfl
  | succ n ih =>
      intro t t' l h
      obtain ⟨a, t₁, -, h⟩ := bind_run_ok.mp h
      obtain ⟨rest, t₂, hrest, h⟩ := bind_run_ok.mp h
      cases h
      simp [ih hrest]

/-! ## How much is written -/

/-- Whenever `e` succeeds it has written exactly `n` elements inside the buffer. -/
def Writes (e : OnTape ε β Unit) (n : Nat) : Prop :=
  ∀ t t', e.run t = .ok ((), t') →
    ∃ xs, xs.length = n ∧ n ≤ t.todo.length ∧ t' = t.overwrite xs

/-- What writes nothing has length zero. -/
theorem Writes.pure : Writes (Pure.pure () : OnTape ε β Unit) 0 := by
  intro t t' h
  cases h
  exact ⟨[], rfl, Nat.zero_le _, t.overwrite_nil.symm⟩

/-- **Sequence.** The lengths add up. -/
theorem Writes.bind {e₁ e₂ : OnTape ε β Unit} {m n : Nat} (h₁ : Writes e₁ m)
    (h₂ : Writes e₂ n) : Writes (e₁ >>= fun _ => e₂) (m + n) := by
  intro t t'' h
  obtain ⟨_, t', hfst, hsnd⟩ := bind_run_ok.mp h
  obtain ⟨xs, hxs, hroom, rfl⟩ := h₁ t t' hfst
  obtain ⟨ys, hys, hroom', rfl⟩ := h₂ _ t'' hsnd
  simp only [Tape.overwrite_todo, List.length_drop] at hroom'
  refine ⟨xs ++ ys, ?_, ?_, t.overwrite_append xs ys⟩
  · rw [List.length_append, hxs, hys]
  · omega

/-- A length may be said in another way. -/
theorem Writes.of_eq {e : OnTape ε β Unit} {m n : Nat} (h : Writes e m) (heq : m = n) :
    Writes e n :=
  heq ▸ h

/-- A list has the length of its entries. -/
theorem Writes.many {e : α → OnTape ε β Unit} {n : Nat} (h : ∀ a, Writes (e a) n) :
    ∀ l : List α, Writes (writeMany e l) (l.length * n) := by
  intro l
  induction l with
  | nil =>
      rw [List.length_nil, Nat.zero_mul]
      exact Writes.pure
  | cons a rest ih =>
      have hlen : n + rest.length * n = (a :: rest).length * n := by
        rw [List.length_cons, Nat.succ_mul, Nat.add_comm]
      exact ((h a).bind ih).of_eq hlen

/-- With room for them, `e` writes exactly the elements `xs`. -/
def Emits (e : OnTape ε β Unit) (xs : List β) : Prop :=
  ∀ t, xs.length ≤ t.todo.length → e.run t = .ok ((), t.overwrite xs)

/-- What writes nothing writes no bytes. -/
theorem Emits.pure : Emits (Pure.pure () : OnTape ε β Unit) [] := by
  intro t _
  rw [t.overwrite_nil]
  rfl

/-- **Sequence.** The bytes stand one after the other. -/
theorem Emits.bind {e₁ e₂ : OnTape ε β Unit} {xs ys : List β} (h₁ : Emits e₁ xs)
    (h₂ : Emits e₂ ys) : Emits (e₁ >>= fun _ => e₂) (xs ++ ys) := by
  intro t hroom
  rw [List.length_append] at hroom
  have hfst := h₁ t (by omega)
  have hsnd := h₂ (t.overwrite xs) (by
    simp only [Tape.overwrite_todo, List.length_drop]
    omega)
  rw [t.overwrite_append] at hsnd
  exact bind_run_ok.mpr ⟨(), _, hfst, hsnd⟩

/-- Elements that are emitted one behind the other. -/
theorem Emits.many {e : α → OnTape ε β Unit} {part : α → List β} (h : ∀ a, Emits (e a) (part a))
    (l : List α) : Emits (writeMany e l) (l.flatMap part) := by
  induction l with
  | nil => exact Emits.pure
  | cons a rest ih => exact (h a).bind ih

/-- What is emitted has the length that is written. -/
theorem Emits.length_eq {e : OnTape ε β Unit} {xs : List β} {n : Nat} (h : Emits e xs)
    (hn : Writes e n) : xs.length = n := by
  obtain ⟨ys, hys, -, heq⟩ := hn _ _ (h (Tape.start xs) (Nat.le_refl _))
  have hdone : xs = ys := congrArg Tape.done heq
  rw [hdone, hys]

/-- A writer emits the same elements everywhere. -/
theorem Emits.unique {e : OnTape ε β Unit} {xs ys : List β} (h : Emits e xs)
    (h' : Emits e ys) : xs = ys := by
  have hx := h (Tape.start (xs ++ ys)) (by simp [Tape.start])
  have hy := h' (Tape.start (xs ++ ys)) (by simp [Tape.start])
  have htape := (Prod.mk.inj (Except.ok.inj (hx.symm.trans hy))).2
  exact congrArg Tape.done htape

/-- What is emitted is what the reader of a round trip parses. -/
theorem RoundTrip.parses_emitted {e : OnTape ε β Unit} {d : OnTape δ β α} {a : α}
    {xs : List β} (h : RoundTrip e d a) (he : Emits e xs) : Parses d xs a := by
  obtain ⟨ys, -, heq, hd⟩ := h _ _ (he (Tape.start xs) (Nat.le_refl _))
  have hsame : xs = ys := congrArg Tape.done heq
  rw [hsame]
  exact hd

/-! ## How much is read -/

/-- Whenever `d` succeeds it has moved over exactly `n` elements. -/
def Takes (d : OnTape δ β α) (n : Nat) : Prop :=
  ∀ t a t', d.run t = .ok (a, t') → ∃ xs, xs.length = n ∧ t.Passes xs t'

/-- A pure decoder takes nothing. -/
theorem Takes.pure (a : α) : Takes (Pure.pure a : OnTape δ β α) 0 := by
  intro t b t' h
  cases h
  exact ⟨[], rfl, .refl t⟩

/-- **Sequence.** What both parts take adds up. -/
theorem Takes.bind {d : OnTape δ β α} {k : α → OnTape δ β γ} {m n : Nat} (h₁ : Takes d m)
    (h₂ : ∀ a, Takes (k a) n) : Takes (d >>= k) (m + n) := by
  intro t c t'' h
  obtain ⟨a, t', hd, hk⟩ := bind_run_ok.mp h
  obtain ⟨xs, hxs, hpass⟩ := h₁ t a t' hd
  obtain ⟨ys, hys, hpass'⟩ := h₂ a t' c t'' hk
  refine ⟨xs ++ ys, ?_, hpass.trans hpass'⟩
  rw [List.length_append, hxs, hys]

/-- A list takes what its entries take. -/
theorem Takes.many {d : OnTape δ β α} {m : Nat} (h : Takes d m) :
    ∀ n, Takes (readMany d n) (n * m) := by
  intro n
  induction n with
  | zero =>
      rw [Nat.zero_mul]
      exact Takes.pure []
  | succ n ih =>
      have hlen : m + (n * m + 0) = (n + 1) * m := by
        rw [Nat.succ_mul, Nat.add_zero, Nat.add_comm]
      rw [← hlen]
      exact h.bind fun a => ih.bind fun rest => Takes.pure (a :: rest)

/-! ## Undoing a reader -/

/-- What `d` returns depends only on the elements it moved over. -/
def Local (d : OnTape δ β α) : Prop :=
  ∀ t a t', d.run t = .ok (a, t') → ∃ xs, t.Passes xs t' ∧ Parses d xs a

/-- Whatever `d` read, `e` writes exactly those elements again. -/
def Undoes (e : α → OnTape ε β Unit) (d : OnTape δ β α) : Prop :=
  ∀ t a t', d.run t = .ok (a, t') → ∃ xs, t.Passes xs t' ∧ Parses d xs a ∧ Emits (e a) xs

/-- A strict part of what a reader needs is not enough for it. -/
theorem Local.strict_prefix_fails {d : OnTape δ β α} (h : Local d) {xs ys : List β} {a : α}
    (hparse : Parses d xs a) (hpre : ys <+: xs) (hne : ys ≠ xs) :
    ∃ e, d.run (Tape.start ys) = .error e := by
  cases hrun : d.run (Tape.start ys) with
  | error e => exact ⟨e, rfl⟩
  | ok r =>
      obtain ⟨b, t'⟩ := r
      obtain ⟨zs, hpass, hparse'⟩ := h _ b t' hrun
      obtain ⟨rest, hrest⟩ := hpre
      have htodo : ys = zs ++ t'.todo := hpass.1
      have hall : xs = zs ++ (t'.todo ++ rest) := by
        rw [← hrest, htodo, List.append_assoc]
      -- the two readings of the whole of `xs` stop at the same place
      have hfull := hparse [] []
      have hpart := hparse' [] (t'.todo ++ rest)
      rw [List.append_nil, hall] at hfull
      rw [hpart] at hfull
      have htape := (Prod.mk.inj (Except.ok.inj hfull)).2
      have hnone : t'.todo ++ rest = [] := congrArg Tape.todo htape
      have hrest' : rest = [] := (List.append_eq_nil_iff.mp hnone).2
      rw [hrest', List.append_nil] at hrest
      exact absurd hrest hne

/-- A value that `d` may return. -/
def Returns (d : OnTape δ β α) (a : α) : Prop := ∃ t t', d.run t = .ok (a, t')

/-- What a sequence returns came from what its first step returned. -/
theorem Returns.of_bind {d : OnTape δ β α} {k : α → OnTape δ β γ} {c : γ}
    (h : Returns (d >>= k) c) : ∃ a, Returns d a ∧ Returns (k a) c := by
  obtain ⟨t, t'', hrun⟩ := h
  obtain ⟨a, t', hd, hk⟩ := bind_run_ok.mp hrun
  exact ⟨a, ⟨t, t', hd⟩, ⟨t', t'', hk⟩⟩

/-- What `d` returns is written again by `e`, the last part of it from the elements
that `d` read. -/
def UndoesIn (F : OnTape ε β Unit → OnTape ε β Unit) (e : α → OnTape ε β Unit)
    (d : OnTape δ β α) : Prop :=
  ∀ t a t', d.run t = .ok (a, t') →
    ∃ xs w, t.Passes xs t' ∧ Parses d xs a ∧ Emits w xs ∧ e a = F w

/-- Without anything to agree on, undoing in a context is undoing. -/
theorem UndoesIn.undoes {e : α → OnTape ε β Unit} {d : OnTape δ β α}
    (h : UndoesIn (fun w => w) e d) : Undoes e d := by
  intro t a t' hrun
  obtain ⟨xs, w, hpass, hparse, hemit, heq⟩ := h t a t' hrun
  exact ⟨xs, hpass, hparse, heq ▸ hemit⟩

/-- All fields are read. -/
theorem UndoesIn.done {F : OnTape ε β Unit → OnTape ε β Unit} {e : α → OnTape ε β Unit} {a : α}
    (h : e a = F (Pure.pure ())) : UndoesIn F e (Pure.pure a : OnTape δ β α) := by
  intro t b t' hrun
  cases hrun
  exact ⟨[], Pure.pure (), .refl t, Parses.pure a, Emits.pure, h⟩

/-- The next field. -/
theorem Undoes.field {F : OnTape ε β Unit → OnTape ε β Unit} {e : γ → OnTape ε β Unit}
    {e₁ : α → OnTape ε β Unit} {d : OnTape δ β α} {k : α → OnTape δ β γ} (h₁ : Undoes e₁ d)
    (h₂ : ∀ a, Returns d a → UndoesIn (fun w => F (e₁ a >>= fun _ => w)) e (k a)) :
    UndoesIn F e (d >>= k) := by
  intro t c t'' hrun
  obtain ⟨a, t', hd, hk⟩ := bind_run_ok.mp hrun
  obtain ⟨xs, hpass, hparse, hemit⟩ := h₁ t a t' hd
  obtain ⟨ys, w, hpass', hparse', hemit', heq⟩ := h₂ a ⟨t, t', hd⟩ t' c t'' hk
  exact ⟨xs ++ ys, e₁ a >>= fun _ => w, hpass.trans hpass', hparse.bind hparse',
    hemit.bind hemit', heq⟩

/-- The last field, where its writer is the end of the record's. -/
theorem Undoes.last {F : OnTape ε β Unit → OnTape ε β Unit} {e : γ → OnTape ε β Unit}
    {e₁ : α → OnTape ε β Unit} {d : OnTape δ β α} {f : α → γ} (h₁ : Undoes e₁ d)
    (h₂ : ∀ a, Returns d a → e (f a) = F (e₁ a)) :
    UndoesIn F e (d >>= fun a => Pure.pure (f a)) := by
  intro t c t' hrun
  obtain ⟨a, t₁, hd, hf⟩ := bind_run_ok.mp hrun
  cases hf
  obtain ⟨xs, hpass, hparse, hemit⟩ := h₁ t a t' hd
  exact ⟨xs, e₁ a, hpass, hparse.last (Parses.pure (f a)), hemit, h₂ a ⟨t, t', hd⟩⟩

/-- A reader that only reshapes what another reader returned. -/
theorem Undoes.map {e : γ → OnTape ε β Unit} {e₁ : α → OnTape ε β Unit} {d : OnTape δ β α}
    {f : α → γ} (h₁ : Undoes e₁ d) (h₂ : ∀ a, Returns d a → e (f a) = e₁ a) :
    Undoes e (d >>= fun a => Pure.pure (f a)) :=
  UndoesIn.undoes (h₁.last h₂)

/-- A list that was read is written back, entry by entry. -/
theorem Undoes.many {e : α → OnTape ε β Unit} {d : OnTape δ β α} (h : Undoes e d) :
    ∀ n, Undoes (writeMany e) (readMany d n) := by
  intro n
  induction n with
  | zero => exact UndoesIn.undoes (UndoesIn.done rfl)
  | succ n ih => exact UndoesIn.undoes (h.field fun a _ => ih.last fun rest _ => rfl)

end Rules

end Coder
