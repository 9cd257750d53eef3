import Oxrdp.Agent.AnnexB

/-!
# Zeros behind a unit

A byte stream may have zeros between the end of a unit and the next start code.  The scan of
`split_annexb` takes a run of zeros in front of a `1` as a long code, which is the last three of
them, and gives the others to the unit in front; and at the end of the stream it does not look at
zeros at all.  So the splitter returns the payloads that were written exactly if all padding is
a zero that a short code turns into a long one.
-/

namespace Oxrdp

/-- The two forms of a start code. -/
inductive StartCodeForm where
  | short
  | long
  deriving DecidableEq, Repr

namespace StartCodeForm

/-- The zeros in front of the `1`. -/
def zeros : StartCodeForm → Nat
  | short => 2
  | long => 3

def bytes (code : StartCodeForm) : List UInt8 := List.replicate code.zeros 0 ++ [1]

end StartCodeForm

instance (bytes : List UInt8) : Decidable (NoCode bytes) :=
  inferInstanceAs (Decidable (¬ [0, 0, 1] <:+: bytes))

/-- One NAL in a byte stream: a start code, a payload that holds none and does not end in a
zero, and zeros behind it. -/
structure PaddedNal where
  code : StartCodeForm
  payload : List UInt8
  padding : Nat
  noCode : NoCode payload
  ends : payload.getLastD 0 ≠ 0

namespace PaddedNal

def bytes (n : PaddedNal) : List UInt8 :=
  n.code.bytes ++ (n.payload ++ List.replicate n.padding 0)

/-- The unit without what stands around it. -/
def nal (n : PaddedNal) : Nal := Nal.ofPayload n.payload

/-- NALs one after the other. -/
def stream (nals : List PaddedNal) : List UInt8 := nals.flatMap bytes

/-- The only padding is a single zero in front of a short code. -/
def Absorbed : List PaddedNal → Prop
  | [] => True
  | [n] => n.padding = 0
  | n :: next :: rest =>
      (n.padding = 0 ∨ n.padding = 1 ∧ next.code = .short) ∧ Absorbed (next :: rest)

/-- How many zeros stay with a unit: all of them at the end, and otherwise those that the
longest start code behind it leaves. -/
def leftover (n : PaddedNal) : Option PaddedNal → Nat
  | none => n.padding
  | some next => n.padding + next.code.zeros - 3

/-- What the scan finds behind the codes. -/
def found : List PaddedNal → List (List UInt8)
  | [] => []
  | n :: rest => (n.payload ++ List.replicate (n.leftover rest.head?) 0) :: found rest

theorem payload_ne_nil (n : PaddedNal) : n.payload ≠ [] := by
  intro h
  have hends := n.ends
  rw [h] at hends
  exact hends rfl

end PaddedNal

/-! ## Zeros and the scan -/

/-- Zeros behind bytes make no start code. -/
theorem NoCode.append_zeros {bytes : List UInt8} (h : NoCode bytes) (k : Nat) :
    NoCode (bytes ++ List.replicate k 0) := by
  induction k with
  | zero => simpa using h
  | succ k ih =>
      rw [List.replicate_succ', ← List.append_assoc]
      intro hcode
      rcases List.infix_concat_iff.mp hcode with hend | hin
      · obtain ⟨front, heq⟩ := hend
        have hlast : front ++ [0, 0] ++ [1] = bytes ++ List.replicate k 0 ++ [0] := by
          simpa using heq
        exact absurd (List.append_inj' hlast rfl).2 (by decide)
      · exact ih hin

/-- A short code is found behind bytes that do not end in a zero. -/
theorem cut_shortCode {piece : List UInt8} (h : NoCode piece) (hends : piece.getLastD 1 ≠ 0)
    (rest : List UInt8) :
    cut (piece ++ ([0, 0, 1] ++ rest)) = (piece, (cut rest).1 :: (cut rest).2) := by
  induction piece with
  | nil => simp [cut]
  | cons b tail ih =>
      have hhead : ¬ [0, 0, 1] <+: b :: tail := by
        intro hpre
        exact h hpre.isInfix
      have h3 : ¬ [0, 0, 1] <+: b :: (tail ++ ([0, 0, 1] ++ rest)) := by
        rcases tail with _ | ⟨c, _ | ⟨d, tail⟩⟩
        · simp
        · simp
        · simpa using hhead
      have h4 : ¬ [0, 0, 0, 1] <+: b :: (tail ++ ([0, 0, 1] ++ rest)) := by
        rcases tail with _ | ⟨c, _ | ⟨d, _ | ⟨e, tail⟩⟩⟩
        · intro hpre
          exact hends (List.cons_prefix_cons.mp hpre).1.symm
        · simp
        · simp
        · intro hpre
          have hcode : [0, 0, 1] <+: c :: d :: e :: tail := by
            simpa using (List.cons_prefix_cons.mp hpre).2
          exact h.tail hcode.isInfix
      have hends' : tail.getLastD 1 ≠ 0 := by
        cases tail with
        | nil => decide
        | cons c tail => simpa using hends
      rw [List.cons_append, cut_cons h3 h4, ih h.tail hends']

namespace PaddedNal

/-- A code of either form at the head of the stream. -/
theorem cut_code (code : StartCodeForm) (rest : List UInt8) :
    cut (code.bytes ++ rest) = ([], (cut rest).1 :: (cut rest).2) := by
  cases code with
  | short => simp [StartCodeForm.bytes, StartCodeForm.zeros, cut]
  | long => simp [StartCodeForm.bytes, StartCodeForm.zeros, List.replicate, cut]

/-- Behind a payload, the scan stops three zeros before the next `1`. -/
theorem cut_payload_code (n next : PaddedNal) (rest : List UInt8) :
    cut (n.payload ++ List.replicate n.padding 0 ++ (next.code.bytes ++ rest)) =
      (n.payload ++ List.replicate (n.leftover (some next)) 0, (cut rest).1 :: (cut rest).2) := by
  have hzeros : n.payload ++ List.replicate n.padding 0 ++ (next.code.bytes ++ rest) =
      n.payload ++ (List.replicate (n.padding + next.code.zeros) 0 ++ 1 :: rest) := by
    simp only [StartCodeForm.bytes, ← List.replicate_append_replicate, List.append_assoc,
      List.cons_append, List.nil_append]
  have hends : n.payload.getLastD 1 ≠ 0 := by
    have hlast := n.ends
    obtain ⟨b, tail, hpayload⟩ := List.exists_cons_of_ne_nil n.payload_ne_nil
    rw [hpayload] at hlast ⊢
    exact hlast
  rw [hzeros, leftover]
  by_cases hshort : n.padding + next.code.zeros = 2
  · have hfound := cut_shortCode n.noCode hends rest
    rw [hshort]
    simpa using hfound
  · have htwo : 2 ≤ next.code.zeros := by
      cases next.code with
      | short => decide
      | long => decide
    have hthree : n.padding + next.code.zeros = n.padding + next.code.zeros - 3 + 3 := by omega
    have hfound := cut_startCode (n.noCode.append_zeros (n.padding + next.code.zeros - 3)) rest
    rw [hthree, ← List.replicate_append_replicate, Nat.add_sub_cancel]
    simpa [startCode, List.append_assoc] using hfound

/-- What the scan finds in a stream that begins with a code. -/
theorem cut_stream (nals : List PaddedNal) : cut (stream nals) = ([], found nals) := by
  induction nals with
  | nil => rfl
  | cons n rest ih =>
      have hcons : stream (n :: rest) =
          n.code.bytes ++ (n.payload ++ List.replicate n.padding 0 ++ stream rest) := by
        simp [stream, bytes]
      rw [hcons, cut_code, found]
      cases rest with
      | nil =>
          have hpiece := n.noCode.append_zeros n.padding
          rw [stream, List.flatMap_nil, List.append_nil, cut_of_noCode hpiece]
          rfl
      | cons next more =>
          have hnext : stream (next :: more) =
              next.code.bytes ++ (next.payload ++ List.replicate next.padding 0 ++
                stream more) := by
            simp [stream, bytes]
          rw [hnext, cut_code] at ih
          rw [hnext, cut_payload_code, (Prod.mk.inj ih).2]
          rfl

theorem splitAnnexb_stream (nals : List PaddedNal) :
    splitAnnexb (stream nals) = (found nals).map Nal.ofPayload := by
  have hkeep : (found nals).filter (· ≠ []) = found nals := by
    apply List.filter_eq_self.mpr
    intro piece hpiece
    induction nals with
    | nil => cases hpiece
    | cons n rest ih =>
        rcases List.mem_cons.mp hpiece with rfl | hrest
        · simp [n.payload_ne_nil]
        · exact ih hrest
  rw [splitAnnexb_cut, cut_stream, nalsOf, hkeep]

/-! ## When the payloads come back -/

theorem ofPayload_injective : Function.Injective Nal.ofPayload :=
  fun _ _ h => congrArg Nal.payload h

/-- Nothing stays with a unit at the end of a stream only if nothing was there. -/
theorem leftover_eq_zero (n next : PaddedNal) :
    n.leftover (some next) = 0 ↔ n.padding = 0 ∨ n.padding = 1 ∧ next.code = .short := by
  cases hcode : next.code with
  | short =>
      simp only [leftover, hcode, StartCodeForm.zeros]
      simp
      omega
  | long =>
      simp only [leftover, hcode, StartCodeForm.zeros]
      simp

theorem append_zeros_eq {payload : List UInt8} {k : Nat} :
    payload ++ List.replicate k 0 = payload ↔ k = 0 := by
  simp

theorem found_eq_iff (nals : List PaddedNal) :
    found nals = nals.map payload ↔ Absorbed nals := by
  induction nals with
  | nil => simp [found, Absorbed]
  | cons n rest ih =>
      rw [found, List.map_cons, List.cons.injEq, append_zeros_eq, ih]
      cases rest with
      | nil => simp [Absorbed, leftover]
      | cons next more =>
          rw [List.head?_cons, leftover_eq_zero, Absorbed]

/-- **Splitting and padding.**  A stream of NALs splits into the payloads that were written, in
order, exactly if all of its padding is a single zero in front of a short code. -/
theorem splitAnnexb_padded_iff (nals : List PaddedNal) :
    splitAnnexb (stream nals) = nals.map nal ↔ Absorbed nals := by
  have hmap : nals.map nal = (nals.map payload).map Nal.ofPayload := by
    rw [List.map_map]
    rfl
  rw [splitAnnexb_stream, hmap, (List.map_injective_iff.mpr ofPayload_injective).eq_iff,
    found_eq_iff]

/-- An IDR slice with one byte of content and two zeros behind it, and another slice. -/
def paddedSlices : List PaddedNal :=
  [{ code := .short, payload := [0x65, 0x88], padding := 2, noCode := by decide, ends := by decide },
    { code := .long, payload := [0x41, 0x9A], padding := 0, noCode := by decide,
      ends := by decide }]

/-- The zeros behind the IDR slice become part of it. -/
theorem padding_kept :
    stream paddedSlices = [0, 0, 1, 0x65, 0x88, 0, 0, 0, 0, 0, 1, 0x41, 0x9A] ∧
      (splitAnnexb (stream paddedSlices)).map Nal.payload = [[0x65, 0x88, 0, 0], [0x41, 0x9A]] ∧
      splitAnnexb (stream paddedSlices) ≠ paddedSlices.map nal := by
  rw [splitAnnexb_stream]
  decide

end PaddedNal

end Oxrdp
