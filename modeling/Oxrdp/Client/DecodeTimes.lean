import Oxrdp.Client.Monitor
import Oxrdp.Lib.Log

/-!
# Decode times and their eviction

`DecodeTimes` over whole sequences of calls.  What was recorded, taken, forgotten and evicted is
kept as a history, and the table is what the history says was recorded last.  It never holds
more than its capacity.

The code evicts the lowest key.  Keys are ordered by window first, so that this is a lowest frame
id exactly where the lowest window holds one; a later window with older frames keeps them.
-/

namespace Oxrdp

/-- A call of `DecodeTimes`. -/
inductive DecodeCall where
  | record (windowId : UInt32) (frameId decodedUs : UInt64)
  | take (windowId : UInt32) (frameId fallbackUs : UInt64)
  | forget (windowId : UInt32)
  deriving DecidableEq, Repr

/-- What became of the entries. -/
inductive DecodeNote where
  | recorded (key : UInt32 × UInt64) (decodedUs : UInt64)
  | evicted (key : UInt32 × UInt64)
  | taken (key : UInt32 × UInt64)
  | forgotten (windowId : UInt32)
  deriving DecidableEq, Repr

namespace DecodeTimes

/-- The table after a call. -/
def call (d : DecodeTimes) : DecodeCall → DecodeTimes
  | .record windowId frameId decodedUs => d.record windowId frameId decodedUs
  | .take windowId frameId fallbackUs => (d.take windowId frameId fallbackUs).2
  | .forget windowId => d.forget windowId

/-- The table after some calls. -/
def after (calls : List DecodeCall) : DecodeTimes := calls.foldl call new

/-- The lowest key that is held. -/
def oldest (d : DecodeTimes) : Option (UInt32 × UInt64) :=
  match d.times.keys with
  | [] => none
  | key :: keys => some (keys.foldl lower key)

/-- The key that a record evicts. -/
def evicted (d : DecodeTimes) : Option (UInt32 × UInt64) :=
  if capacity ≤ d.times.size then d.oldest else none

/-- What a call does to the entries. -/
def notes (d : DecodeTimes) : DecodeCall → List DecodeNote
  | .record windowId frameId decodedUs =>
      d.evicted.toList.map DecodeNote.evicted ++ [.recorded (windowId, frameId) decodedUs]
  | .take windowId frameId _ => [.taken (windowId, frameId)]
  | .forget windowId => [.forgotten windowId]

/-- The history of some calls. -/
def history : List DecodeCall → DecodeTimes → List DecodeNote
  | [], _ => []
  | c :: calls, d => d.notes c ++ history calls (d.call c)

/-- What a note says of a key, when `known` was known before. -/
def noted (key : UInt32 × UInt64) (known : Option UInt64) : DecodeNote → Option UInt64
  | .recorded key' decodedUs => if key' = key then some decodedUs else known
  | .evicted key' => if key' = key then none else known
  | .taken key' => if key' = key then none else known
  | .forgotten windowId => if key.1 = windowId then none else known

/-- The last value recorded for a key, unless it was taken, forgotten or evicted since. -/
def lastRecorded (notes : List DecodeNote) (key : UInt32 × UInt64) : Option UInt64 :=
  notes.foldl (noted key) none

/-! ## The lowest key -/

/-- The order of keys: by window, then by frame. -/
def Below (a b : UInt32 × UInt64) : Prop := a.1 < b.1 ∨ a.1 = b.1 ∧ a.2 ≤ b.2

/-- A key is below itself. -/
theorem Below.refl (a : UInt32 × UInt64) : Below a a := .inr ⟨rfl, UInt64.le_refl _⟩

/-- What is below is so through a third. -/
theorem Below.trans {a b c : UInt32 × UInt64} (hab : Below a b) (hbc : Below b c) : Below a c := by
  unfold Below at *
  grind

/-- The lower of two keys is below both. -/
theorem lower_below (a b : UInt32 × UInt64) : Below (lower a b) a ∧ Below (lower a b) b := by
  unfold lower Below
  grind

/-- The lowest key is one of them and below all. -/
theorem foldl_lower_spec (key : UInt32 × UInt64) (keys : List (UInt32 × UInt64)) :
    keys.foldl lower key ∈ key :: keys ∧ ∀ k ∈ key :: keys, Below (keys.foldl lower key) k := by
  induction keys generalizing key with
  | nil => simp [Below.refl]
  | cons next keys ih =>
      obtain ⟨hmem, hbelow⟩ := ih (lower key next)
      obtain ⟨hkey, hnext⟩ := lower_below key next
      have hfirst := hbelow _ List.mem_cons_self
      rw [List.foldl_cons]
      constructor
      · have hlower : lower key next = key ∨ lower key next = next := by
          unfold lower
          split_ifs <;> simp
        rcases List.mem_cons.mp hmem with heq | hin
        · rw [heq]
          rcases hlower with h | h <;> simp [h]
        · exact List.mem_cons_of_mem _ (List.mem_cons_of_mem _ hin)
      · intro k hk
        rcases List.mem_cons.mp hk with rfl | hk
        · exact hfirst.trans hkey
        rcases List.mem_cons.mp hk with rfl | hk
        · exact hfirst.trans hnext
        · exact hbelow k (List.mem_cons_of_mem _ hk)

section State

variable {d : DecodeTimes}

/-- What is evicted is the lowest key, of a full table. -/
theorem evicted_spec {key : UInt32 × UInt64} (h : d.evicted = some key) :
    capacity ≤ d.times.size ∧ key ∈ d.times ∧ ∀ k ∈ d.times, Below key k := by
  unfold evicted oldest at h
  split_ifs at h with hfull
  refine ⟨hfull, ?_⟩
  cases hkeys : d.times.keys with
  | nil =>
      rw [hkeys] at h
      cases h
  | cons first keys =>
      rw [hkeys] at h
      cases h
      obtain ⟨hmem, hbelow⟩ := foldl_lower_spec first keys
      rw [← hkeys] at hmem hbelow
      exact ⟨AList.mem_keys.mpr hmem, fun k hk => hbelow k (AList.mem_keys.mp hk)⟩

/-- A full table evicts something. -/
theorem exists_evicted (h : capacity ≤ d.times.size) : ∃ key, d.evicted = some key := by
  unfold evicted oldest
  rw [if_pos h]
  cases hkeys : d.times.keys with
  | nil =>
      have hlength : d.times.size = d.times.keys.length := by
        simp [Table.size, AList.keys, List.keys]
      rw [hkeys] at hlength
      rw [hlength] at h
      exact absurd h (by decide)
  | cons first keys => exact ⟨_, rfl⟩

/-- A time is recorded, with the evicted one taken out. -/
theorem record_eq (windowId : UInt32) (frameId decodedUs : UInt64) :
    (d.record windowId frameId decodedUs).times =
      (d.evicted.elim d.times d.times.erase).insert (windowId, frameId) decodedUs := by
  unfold record evicted oldest
  split_ifs
  · cases d.times.keys with
    | nil => rfl
    | cons first keys => rfl
  · rfl

/-- Erasing several keys. -/
theorem lookup_foldl_erase (keys : List (UInt32 × UInt64)) (times : Table (UInt32 × UInt64) UInt64)
    (key : UInt32 × UInt64) :
    (keys.foldl (fun times key => times.erase key) times).lookup key =
      if key ∈ keys then none else times.lookup key := by
  induction keys generalizing times with
  | nil => simp
  | cons first keys ih =>
      rw [List.foldl_cons, ih, Table.lookup_erase_ite]
      by_cases hfirst : key = first
      · simp [hfirst]
      · simp [hfirst]

/-- **The table and the notes.** -/
theorem lookup_call (c : DecodeCall) (key : UInt32 × UInt64) :
    (d.call c).times.lookup key = (d.notes c).foldl (noted key) (d.times.lookup key) := by
  cases c with
  | record windowId frameId decodedUs =>
      rw [call, record_eq, Table.lookup_insert_ite, notes, List.foldl_append]
      cases hevicted : d.evicted with
      | none => simp [noted, eq_comm]
      | some oldest =>
          simp [noted, Table.lookup_erase_ite, eq_comm]
  | take windowId frameId fallbackUs =>
      rw [call, take, Table.lookup_erase_ite]
      simp [notes, noted, eq_comm]
  | forget windowId =>
      have hmem : key ∈ (d.times.keys.filter fun k => k.1 = windowId) ↔
          key ∈ d.times ∧ key.1 = windowId := by
        rw [List.mem_filter, decide_eq_true_eq, AList.mem_keys]
      rw [call, forget, lookup_foldl_erase, notes, List.foldl_cons, List.foldl_nil, noted]
      by_cases hwindow : key.1 = windowId
      · rw [if_pos hwindow]
        split_ifs with hin
        · rfl
        · exact AList.lookup_eq_none.mpr fun h => hin (hmem.mpr ⟨h, hwindow⟩)
      · rw [if_neg hwindow, if_neg fun hin => hwindow (hmem.mp hin).2]

/-- Taking returns what the table holds. -/
theorem take_value (windowId : UInt32) (frameId fallbackUs : UInt64) :
    (d.take windowId frameId fallbackUs).1 =
      (d.times.lookup (windowId, frameId)).getD fallbackUs :=
  rfl

/-! ## The bound -/

/-- Erasing keys enlarges no table. -/
theorem size_foldl_erase_le (keys : List (UInt32 × UInt64))
    (times : Table (UInt32 × UInt64) UInt64) :
    Table.size (keys.foldl (fun times key => times.erase key) times) ≤ times.size := by
  induction keys generalizing times with
  | nil => exact Nat.le_refl _
  | cons first keys ih => exact (ih _).trans (Table.size_erase_le times first)

/-- No call takes the table beyond its capacity. -/
theorem size_call (h : d.times.size ≤ capacity) (c : DecodeCall) :
    (d.call c).times.size ≤ capacity := by
  cases c with
  | record windowId frameId decodedUs =>
      have hinsert := Table.size_insert_le (d.evicted.elim d.times d.times.erase) (windowId, frameId)
        decodedUs
      rw [call, record_eq]
      by_cases hfull : capacity ≤ d.times.size
      · obtain ⟨key, hkey⟩ := exists_evicted hfull
        obtain ⟨v, hv⟩ := Table.lookup_of_mem (evicted_spec hkey).2.1
        have herase := Table.size_erase hv
        rw [hkey, Option.elim_some] at hinsert ⊢
        omega
      · have hnone : d.evicted = none := if_neg hfull
        rw [hnone, Option.elim_none] at hinsert ⊢
        omega
  | take windowId frameId fallbackUs => exact (Table.size_erase_le _ _).trans h
  | forget windowId => exact (size_foldl_erase_le _ _).trans h

end State

/-! ## Runs -/

/-- The times after one more call. -/
theorem after_snoc (calls : List DecodeCall) (c : DecodeCall) :
    after (calls ++ [c]) = (after calls).call c := by
  rw [after, List.foldl_append]
  rfl

/-- There are never more times than may be. -/
theorem size_after (calls : List DecodeCall) : (after calls).times.size ≤ capacity := by
  induction calls using List.reverseRecOn with
  | nil => exact Nat.zero_le _
  | append_singleton calls c ih =>
      rw [after_snoc]
      exact size_call ih c

/-- What is found after some calls is what was noted of the key. -/
theorem lookup_foldl_call (calls : List DecodeCall) (d : DecodeTimes) (key : UInt32 × UInt64) :
    (calls.foldl call d).times.lookup key =
      (history calls d).foldl (noted key) (d.times.lookup key) := by
  induction calls generalizing d with
  | nil => rfl
  | cons c calls ih => rw [List.foldl_cons, ih, lookup_call, history, List.foldl_append]

/-- The table holds what was recorded last. -/
theorem lookup_after (calls : List DecodeCall) (key : UInt32 × UInt64) :
    (after calls).times.lookup key = lastRecorded (history calls new) key := by
  rw [after, lookup_foldl_call]
  rfl

/-! ## The eviction order -/

/-- What a call evicts has a lowest frame id among the entries held. -/
def EvictsOldestFrame (before : List DecodeCall) : DecodeCall → Prop
  | .record _ _ _ => ∀ key ∈ (after before).evicted, ∀ k ∈ (after before).times, key.2 ≤ k.2
  | _ => True

/-- When a record finds the table full, an entry of the lowest window has the lowest frame id. -/
def LowestWindowOldest (before : List DecodeCall) : DecodeCall → Prop
  | .record _ _ _ => capacity ≤ (after before).times.size →
      ∃ key ∈ (after before).times, ∀ k ∈ (after before).times, key.1 ≤ k.1 ∧ key.2 ≤ k.2
  | _ => True

/-- **The oldest frame** is evicted exactly if the lowest window is also the oldest. -/
theorem evictsOldestFrame_iff (before : List DecodeCall) (c : DecodeCall) :
    EvictsOldestFrame before c ↔ LowestWindowOldest before c := by
  cases c with
  | take => exact Iff.rfl
  | forget => exact Iff.rfl
  | record windowId frameId decodedUs =>
      constructor
      · intro h hfull
        obtain ⟨key, hkey⟩ := exists_evicted hfull
        obtain ⟨-, hmem, hbelow⟩ := evicted_spec hkey
        refine ⟨key, hmem, fun k hk => ⟨?_, h key hkey k hk⟩⟩
        rcases hbelow k hk with hlt | ⟨heq, -⟩
        · exact UInt32.le_of_lt hlt
        · exact UInt32.le_of_eq heq
      · intro h key hkey k hk
        obtain ⟨hfull, hmem, hbelow⟩ := evicted_spec hkey
        obtain ⟨first, hfirst, hlow⟩ := h hfull
        have hkeyFirst := hbelow first hfirst
        have hwindow := (hlow key hmem).1
        have hframe := (hlow k hk).2
        unfold Below at hkeyFirst
        grind

/-- What `DecodeTimes` is for: a bounded table of the last values that gives up old frames. -/
structure BoundedMap (calls : List DecodeCall) : Prop where
  bounded : (after calls).times.size ≤ capacity
  takes : ∀ windowId frameId fallbackUs, ((after calls).take windowId frameId fallbackUs).1 =
    (lastRecorded (history calls new) (windowId, frameId)).getD fallbackUs
  oldest : Log.Lawful EvictsOldestFrame calls

/-- **Decode times.**  After any calls the table is bounded and taking returns the last value; the
evictions are those of the oldest frames exactly where each found one in the lowest window. -/
theorem boundedMap_iff (calls : List DecodeCall) :
    BoundedMap calls ↔ Log.Lawful LowestWindowOldest calls := by
  have hsame : EvictsOldestFrame = LowestWindowOldest := by
    funext before c
    exact propext (evictsOldestFrame_iff before c)
  constructor
  · intro h
    rw [← hsame]
    exact h.oldest
  · intro h
    exact {
      bounded := size_after calls
      takes := fun windowId frameId fallbackUs => by rw [take_value, lookup_after]
      oldest := hsame ▸ h }

/-- Frame 100 of window 1, and then the first 63 frames of window 2. -/
def mixedCalls : List DecodeCall :=
  .record 1 100 0 :: (List.range 63).map fun i => .record 2 (UInt64.ofNat (i + 1)) 0

/-- The next record gives up frame 100 and keeps frame 1. -/
theorem newest_frame_evicted : ¬ BoundedMap (mixedCalls ++ [.record 2 64 0]) := by
  intro h
  have hevicted : (after mixedCalls).evicted = some (1, 100) := by decide +kernel
  have hheld : (2, 1) ∈ (after mixedCalls).times := by decide +kernel
  have hleast := h.oldest.last.2 (1, 100) hevicted (2, 1) hheld
  exact absurd hleast (by decide)

end DecodeTimes

end Oxrdp
