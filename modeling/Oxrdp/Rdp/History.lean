import Oxrdp.Rdp.Connector

/-!
# Histories of the connector

What happened to a connector: the calls it was given, what each returned and what it was
before and after.  A history is the result of any list of calls with any frames; calls
that fail are part of it and do not end it.
-/

namespace Oxrdp

namespace ClientConnector

/-- One call and what came of it. -/
structure Turn where
  before : ClientConnector
  call : Call
  result : Except CoreError (List CoreOutput)
  after : ClientConnector

/-- Make a call. -/
def turn (c : ClientConnector) (i : Call) : Turn :=
  match (call i).run c with
  | .ok out c' => { before := c, call := i, result := .ok out, after := c' }
  | .error e c' => { before := c, call := i, result := .error e, after := c' }

/-- The connector after some calls. -/
def final (c : ClientConnector) (calls : List Call) : ClientConnector :=
  calls.foldl (fun c i => (turn c i).after) c

/-- Make one call after the other. -/
def history : ClientConnector → List Call → List Turn
  | _, [] => []
  | c, i :: rest => turn c i :: history (turn c i).after rest

/-- What a call that succeeded asked for. -/
def Turn.outputs (t : Turn) : List CoreOutput :=
  match t.result with
  | .ok out => out
  | .error _ => []

/-- The last call adds its own turn to the history. -/
theorem history_snoc (c : ClientConnector) (calls : List Call) (i : Call) :
    history c (calls ++ [i]) = history c calls ++ [turn (final c calls) i] := by
  induction calls generalizing c with
  | nil => rfl
  | cons j rest ih =>
      rw [List.cons_append, history, history, ih]
      rfl

/-- After the last call stands what its turn leaves. -/
theorem final_snoc (c : ClientConnector) (calls : List Call) (i : Call) :
    final c (calls ++ [i]) = (turn (final c calls) i).after := by
  rw [final, final, List.foldl_append]
  rfl

/-- A history cut at one of its turns: the calls before it made the history before it. -/
theorem history_split {c : ClientConnector} {calls : List Call} {before after : List Turn}
    {t : Turn} (h : history c calls = before ++ t :: after) :
    ∃ first i rest, calls = first ++ i :: rest ∧ history c first = before ∧
      t = turn (final c first) i := by
  induction calls generalizing c before with
  | nil =>
      have hnil := List.append_eq_nil_iff.mp h.symm
      cases hnil.2
  | cons j rest ih =>
      cases before with
      | nil =>
          have hhead := (List.cons.inj h).1
          exact ⟨[], j, rest, rfl, rfl, hhead.symm⟩
      | cons b before =>
          obtain ⟨hb, htail⟩ := List.cons.inj h
          obtain ⟨first, i, rest', hcalls, hfirst, ht⟩ := ih htail
          refine ⟨j :: first, i, rest', ?_, ?_, ht⟩
          · rw [hcalls, List.cons_append]
          · rw [history, hfirst, hb]

/-! ## What a turn is -/

/-- A turn that failed, or a move. -/
theorem turn_cases {c : ClientConnector} (hinv : c.Inv) (i : Call) :
    (∃ out c', Moves c i out c' ∧ turn c i = ⟨c, i, .ok out, c'⟩) ∨
      ∃ e, turn c i = ⟨c, i, .error e, c⟩ := by
  have hends := call_ends hinv i
  unfold turn
  cases hrun : (call i).run c with
  | ok out c' =>
      rw [hrun] at hends
      cases hends with
      | moved h => exact .inl ⟨out, c', h, rfl⟩
  | error e c' =>
      rw [hrun] at hends
      cases hends with
      | failed => exact .inr ⟨e, rfl⟩

/-- A turn keeps the invariant of the connector. -/
theorem turn_inv {c : ClientConnector} (hinv : c.Inv) (i : Call) : (turn c i).after.Inv := by
  rcases turn_cases hinv i with ⟨out, c', hmove, hturn⟩ | ⟨e, hturn⟩
  · rw [hturn]
    exact hmove.inv hinv
  · rw [hturn]
    exact hinv

/-- Every history keeps the invariant of the connector. -/
theorem final_inv {c : ClientConnector} (hinv : c.Inv) (calls : List Call) :
    (final c calls).Inv := by
  induction calls generalizing c with
  | nil => exact hinv
  | cons i rest ih => exact ih (turn_inv hinv i)

/-- A move goes forward; only the requests for further channels stay where they are. -/
theorem Moves.forward {c c' : ClientConnector} {i : Call} {out : List CoreOutput}
    (h : Moves c i out c') : c.state.rank ≤ c'.state.rank := by
  cases h with
  | joined => exact Nat.le_refl _
  | started hstate => simp [hstate, ConnectorState.rank]
  | upgrade hstate => simp [hstate, ConnectorState.rank]
  | plain hstate => simp [hstate, ConnectorState.rank]
  | resumed hstate => simp [hstate, ConnectorState.rank]
  | responded hstate => simp [hstate, ConnectorState.rank]
  | attached hstate => simp [hstate, ConnectorState.rank]
  | finished hstate => simp [hstate, ConnectorState.rank]

/-- A turn never goes back to an earlier state. -/
theorem turn_forward {c : ClientConnector} (hinv : c.Inv) (i : Call) :
    c.state.rank ≤ (turn c i).after.state.rank := by
  rcases turn_cases hinv i with ⟨out, c', hmove, hturn⟩ | ⟨e, hturn⟩
  · rw [hturn]
    exact hmove.forward
  · rw [hturn]

/-- A turn starts from the connector that it is given. -/
theorem turn_before (c : ClientConnector) (i : Call) : (turn c i).before = c := by
  unfold turn
  split
  · rfl
  · rfl

/-- A call that fails leaves the connector as it was. -/
theorem turn_unchanged {c : ClientConnector} (hinv : c.Inv) {i : Call} {e : CoreError}
    (h : (turn c i).result = .error e) : (turn c i).after = c := by
  rcases turn_cases hinv i with ⟨out, c', hmove, hturn⟩ | ⟨e', hturn⟩
  · rw [hturn] at h
    cases h
  · rw [hturn]

/-! ## What the server said -/

/-- The frame that a turn took in the given state, read as what is expected there. -/
def Turn.accepted {α : Type} (t : Turn) (s : ConnectorState)
    (read : List UInt8 → DecodeResult α) : Option α :=
  match t.call, t.result with
  | .step frame, .ok _ => if t.before.state = s then (read frame).toOption else none
  | _, _ => none

def Turn.response (t : Turn) : Option ConnectResponse :=
  t.accepted .sentConnectInitial readConnectResponse

def Turn.attach (t : Turn) : Option AttachUserConfirm :=
  t.accepted .sentErectAttach readAttachConfirm

def Turn.joinConfirm (t : Turn) : Option ChannelJoinConfirm :=
  t.accepted .joiningChannels readJoinConfirm

/-- A turn that failed has accepted nothing. -/
theorem accepted_error {α : Type} (c c' : ClientConnector) (i : Call) (e : CoreError)
    (s : ConnectorState) (read : List UInt8 → DecodeResult α) :
    Turn.accepted ⟨c, i, .error e, c'⟩ s read = none := by
  cases i with
  | start => rfl
  | step frame => rfl
  | resumeAfterTls => rfl

/-- A turn from another state has accepted nothing. -/
theorem accepted_other {α : Type} {c c' : ClientConnector} {i : Call} {out : List CoreOutput}
    {s : ConnectorState} {read : List UInt8 → DecodeResult α} (h : c.state ≠ s) :
    Turn.accepted ⟨c, i, .ok out, c'⟩ s read = none := by
  cases i with
  | start => rfl
  | step frame => exact if_neg h
  | resumeAfterTls => rfl

/-- A step that succeeds has accepted what its frame decodes to. -/
theorem accepted_step {α : Type} {c c' : ClientConnector} {frame : List UInt8}
    {out : List CoreOutput} {s : ConnectorState} {read : List UInt8 → DecodeResult α} {a : α}
    (h : c.state = s) (hread : read frame = .ok a) :
    Turn.accepted ⟨c, .step frame, .ok out, c'⟩ s read = some a := by
  unfold Turn.accepted
  dsimp only
  rw [if_pos h, hread]
  rfl

end ClientConnector

end Oxrdp
