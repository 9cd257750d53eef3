import Oxrdp.Proto.Message

/-!
# What decoding loses

`decodeKnown` reads a body and drops the cursor.  Here the cursor is kept: for each
message type there is one reader, and everything it returns can be written back.
Written back are the bytes that were consumed, except that a boolean byte comes back
as `0` or `1`.

Two laws follow.  A body needs all of its bytes and ignores what comes after them; and
decoding followed by encoding reproduces the consumed prefix of any input at all.
-/

namespace Oxrdp

open Coder

namespace Message

theorem writes (m : Message) : Writes m.encode m.size := by
  cases m with
  | clientHello m => exact m.writes
  | serverHello m => exact m.writes
  | error m => exact m.writes
  | close m => exact m.writes
  | ping m => exact m.writes
  | pong m => exact m.writes
  | qualityHint m => exact m.writes
  | displayLayout m => exact m.writes
  | windowOpened m => exact m.writes
  | windowClosed m => exact m.writes
  | windowGeometry m => exact m.writes
  | windowTitle m => exact m.writes
  | windowState m => exact m.writes
  | windowZOrder m => exact m.writes
  | windowIcon m => exact m.writes
  | frameData m => exact m.writes
  | frameAck m => exact m.writes
  | pointerEvent m => exact m.writes
  | keyEvent m => exact m.writes
  | textInput m => exact m.writes
  | modifierSync m => exact m.writes
  | windowControl m => exact m.writes
  | cursorShape m => exact m.writes
  | cursorPosition m => exact m.writes
  | cursorVisibility m => exact m.writes

/-- The bytes that stand for `bytes` after decoding and encoding again: only the
boolean of `CursorVisibility` is normalised. -/
def normalised (msgType : UInt8) (bytes : List UInt8) : List UInt8 :=
  if msgType = MsgType.cursorVisibility then
    bytes.map fun b => if b = 0 then 0 else 1
  else
    bytes

theorem normalised_length (msgType : UInt8) (bytes : List UInt8) :
    (normalised msgType bytes).length = bytes.length := by
  unfold normalised
  split
  · exact List.length_map _
  · rfl

/-- The reader that `decodeKnown` selects for one message type.  Whatever it returns
is of that type, depends only on the bytes it moved over, and is written back as
those bytes. -/
structure BodyReader where
  msgType : UInt8
  read : Decoder Message
  typed : ∀ m, Returns read m → m.msgType = msgType
  inverts : ∀ t m t', read.run t = .ok (m, t') →
    ∃ xs, t.Passes xs t' ∧ Parses read xs m ∧ Emits m.encode (normalised msgType xs)

namespace BodyReader

/-- The reader of a body whose encoder undoes its decoder. -/
def ofUndoes {α : Type} {d : Decoder α} {e : α → Encoder Unit} (msgType : UInt8)
    (wrap : α → Message) (h : Undoes e d)
    (htype : ∀ a, (wrap a).msgType = msgType := by intro _; rfl)
    (hencode : ∀ a, (wrap a).encode = e a := by intro _; rfl)
    (hne : msgType ≠ MsgType.cursorVisibility := by decide) : BodyReader where
  msgType := msgType
  read := do
    let a ← d
    pure (wrap a)
  typed := by
    intro m hret
    obtain ⟨t, t', hrun⟩ := hret
    obtain ⟨a, t₁, -, hm⟩ := bind_run_ok.mp hrun
    cases hm
    exact htype a
  inverts := by
    intro t m t' hrun
    have hundo : Undoes encode (d >>= fun a => pure (wrap a)) :=
      h.map fun a _ => hencode a
    obtain ⟨xs, hpass, hparse, hemit⟩ := hundo t m t' hrun
    have hsame : normalised msgType xs = xs := if_neg hne
    exact ⟨xs, hpass, hparse, hsame.symm ▸ hemit⟩

/-- The reader of the one body that holds a boolean. -/
def cursorVisibility : BodyReader where
  msgType := MsgType.cursorVisibility
  read := do
    let m ← CursorVisibility.decode
    pure (.cursorVisibility m)
  typed := by
    intro m hret
    obtain ⟨t, t', hrun⟩ := hret
    obtain ⟨a, t₁, -, hm⟩ := bind_run_ok.mp hrun
    cases hm
    rfl
  inverts := by
    intro t m t' hrun
    obtain ⟨a, t₁, ha, hm⟩ := bind_run_ok.mp hrun
    cases hm
    obtain ⟨v, hpass, hparse, hemit⟩ := CursorVisibility.decode_takes ha
    have hall := hparse.bind (k := fun m => pure (Message.cursorVisibility m))
      (Parses.pure (Message.cursorVisibility a))
    exact ⟨[v], hpass, hall, hemit⟩

/-- A reader needs all of the bytes it parses. -/
theorem isLocal (r : BodyReader) : Local r.read := by
  intro t m t' hrun
  obtain ⟨xs, hpass, hparse, -⟩ := r.inverts t m t' hrun
  exact ⟨xs, hpass, hparse⟩

end BodyReader

/-- The reader for a type code, if this build implements it. -/
def readerOf (msgType : UInt8) : Option BodyReader :=
  match msgType with
  | MsgType.clientHello => some (.ofUndoes MsgType.clientHello .clientHello ClientHello.undoes)
  | MsgType.serverHello => some (.ofUndoes MsgType.serverHello .serverHello ServerHello.undoes)
  | MsgType.error => some (.ofUndoes MsgType.error .error Error.undoes)
  | MsgType.close => some (.ofUndoes MsgType.close .close Close.undoes)
  | MsgType.ping => some (.ofUndoes MsgType.ping .ping Ping.undoes)
  | MsgType.pong => some (.ofUndoes MsgType.pong .pong Pong.undoes)
  | MsgType.qualityHint => some (.ofUndoes MsgType.qualityHint .qualityHint QualityHint.undoes)
  | MsgType.displayLayout =>
      some (.ofUndoes MsgType.displayLayout .displayLayout DisplayLayout.undoes)
  | MsgType.windowOpened => some (.ofUndoes MsgType.windowOpened .windowOpened WindowOpened.undoes)
  | MsgType.windowClosed => some (.ofUndoes MsgType.windowClosed .windowClosed WindowClosed.undoes)
  | MsgType.windowGeometry =>
      some (.ofUndoes MsgType.windowGeometry .windowGeometry WindowGeometry.undoes)
  | MsgType.windowTitle => some (.ofUndoes MsgType.windowTitle .windowTitle WindowTitle.undoes)
  | MsgType.windowState => some (.ofUndoes MsgType.windowState .windowState WindowState.undoes)
  | MsgType.windowZorder => some (.ofUndoes MsgType.windowZorder .windowZOrder WindowZOrder.undoes)
  | MsgType.windowIcon => some (.ofUndoes MsgType.windowIcon .windowIcon WindowIcon.undoes)
  | MsgType.frameData => some (.ofUndoes MsgType.frameData .frameData FrameData.undoes)
  | MsgType.frameAck => some (.ofUndoes MsgType.frameAck .frameAck FrameAck.undoes)
  | MsgType.pointerEvent => some (.ofUndoes MsgType.pointerEvent .pointerEvent PointerEvent.undoes)
  | MsgType.keyEvent => some (.ofUndoes MsgType.keyEvent .keyEvent KeyEvent.undoes)
  | MsgType.textInput => some (.ofUndoes MsgType.textInput .textInput TextInput.undoes)
  | MsgType.modifierSync => some (.ofUndoes MsgType.modifierSync .modifierSync ModifierSync.undoes)
  | MsgType.windowControl =>
      some (.ofUndoes MsgType.windowControl .windowControl WindowControl.undoes)
  | MsgType.cursorShape => some (.ofUndoes MsgType.cursorShape .cursorShape CursorShape.undoes)
  | MsgType.cursorPosition =>
      some (.ofUndoes MsgType.cursorPosition .cursorPosition CursorPosition.undoes)
  | MsgType.cursorVisibility => some .cursorVisibility
  | _ => none

theorem readerOf_msgType {msgType : UInt8} {r : BodyReader} (h : readerOf msgType = some r) :
    r.msgType = msgType := by
  unfold readerOf at h
  split at h
  case h_26 => cases h
  all_goals
    cases h
    rfl

/-- `decodeAs` runs the reader and drops the cursor. -/
theorem decodeAs_eq {α : Type} (wrap : α → Message) (d : Decoder α) (body : List UInt8) :
    decodeAs wrap d body = (decode (d >>= fun a => pure (wrap a)) body).map some := by
  unfold decodeAs decode
  rw [StateT.run_bind]
  cases d.run (Tape.start body) with
  | error e => rfl
  | ok r => rfl

/-- `decodeKnown` runs the reader of the type and drops the cursor. -/
theorem decodeKnown_eq (msgType : UInt8) (body : List UInt8) :
    decodeKnown msgType body =
      match readerOf msgType with
      | some r => (decode r.read body).map some
      | none => .ok none := by
  unfold decodeKnown
  split
  case h_26 =>
    have hnone : readerOf msgType = none := by
      unfold readerOf
      split
      case h_26 => rfl
      all_goals contradiction
    rw [hnone]
  all_goals exact decodeAs_eq _ _ body

/-- The prefix of the input that decoding moved over. -/
def consumed (msgType : UInt8) (bytes : List UInt8) : List UInt8 :=
  match readerOf msgType with
  | some r =>
      match r.read.run (Tape.start bytes) with
      | .ok (_, t) => t.done
      | .error _ => []
  | none => []

/-- A message that decoded was returned by the reader of its type. -/
theorem decodeKnown_reader {msgType : UInt8} {bytes : List UInt8} {m : Message}
    (h : decodeKnown msgType bytes = .ok (some m)) :
    ∃ r t, readerOf msgType = some r ∧ r.read.run (Tape.start bytes) = .ok (m, t) := by
  rw [decodeKnown_eq] at h
  cases hr : readerOf msgType with
  | none =>
      rw [hr] at h
      cases h
  | some r =>
      rw [hr] at h
      cases hrun : r.read.run (Tape.start bytes) with
      | error e =>
          simp only [decode, hrun] at h
          cases h
      | ok p =>
          simp only [decode, hrun] at h
          cases h
          exact ⟨r, p.2, rfl, hrun⟩

/-- Bytes that the reader parses decode, whatever follows them. -/
theorem decodeKnown_parses {msgType : UInt8} {r : BodyReader} {bytes : List UInt8} {m : Message}
    (hr : readerOf msgType = some r) (h : Parses r.read bytes m) (suffix : List UInt8) :
    decodeKnown msgType (bytes ++ suffix) = .ok (some m) := by
  have hrun : r.read.run (Tape.start (bytes ++ suffix)) = .ok (m, ⟨bytes, suffix⟩) :=
    h [] suffix
  simp only [decodeKnown_eq, hr, decode, hrun]
  rfl

theorem encodeBody_emits {m : Message} {bytes : List UInt8} (h : Emits m.encode bytes) :
    m.encodeBody = .ok bytes :=
  encodeVec_emits h m.writes

/-- A body is what the reader of its type needs, no less and no more. -/
theorem encodeBody_parses {m : Message} (hfit : m.CountsFit) {body : List UInt8}
    (hbody : m.encodeBody = .ok body) :
    ∃ r, readerOf m.msgType = some r ∧ Parses r.read body m := by
  obtain ⟨r, t, hr, hrun⟩ := decodeKnown_reader (readBack hfit body hbody).2
  obtain ⟨xs, hpass, hparse, hemit⟩ := r.inverts _ _ _ hrun
  -- what was consumed is as long as what it encodes to, so nothing of the body is left
  have hback : body = normalised r.msgType xs :=
    Except.ok.inj (hbody.symm.trans (encodeBody_emits hemit))
  have htodo : body = xs ++ t.todo := hpass.1
  have hlen : body.length = xs.length := by
    rw [hback, normalised_length]
  have hnone : t.todo = [] := by
    apply List.eq_nil_of_length_eq_zero
    have hsum := congrArg List.length htodo
    rw [List.length_append] at hsum
    omega
  rw [hnone, List.append_nil] at htodo
  exact ⟨r, hr, htodo ▸ hparse⟩

/-- **Prefix and trailing bytes.**  An encoded body decodes only as a whole: every
strict prefix of it is refused, and bytes appended to it change nothing. -/
theorem decodeKnown_prefix_suffix (m : Message) (body : List UInt8) (hfit : m.CountsFit)
    (hbody : m.encodeBody = .ok body) :
    (∀ cut, cut <+: body → cut ≠ body → ∃ e, decodeKnown m.msgType cut = .error e) ∧
      ∀ suffix, decodeKnown m.msgType (body ++ suffix) = .ok (some m) := by
  obtain ⟨r, hr, hparse⟩ := encodeBody_parses hfit hbody
  constructor
  · intro cut hcut hne
    obtain ⟨e, he⟩ := r.isLocal.strict_prefix_fails hparse hcut hne
    refine ⟨e, ?_⟩
    simp only [decodeKnown_eq, hr, decode, he]
    rfl
  · intro suffix
    exact decodeKnown_parses hr hparse suffix

/-- A cut inside a two-byte character, and a field appended by a later version. -/
theorem decodeKnown_prefix_suffix_error :
    (∃ e, decodeKnown MsgType.error [2, 0, 2, 0, 0xC3] = .error e) ∧
      decodeKnown MsgType.error ([2, 0, 2, 0, 0xC3, 0xA9] ++ [7, 7]) =
        .ok (some (.error ⟨2, "é"⟩)) := by
  have h := decodeKnown_prefix_suffix (.error ⟨2, "é"⟩) [2, 0, 2, 0, 0xC3, 0xA9] trivial rfl
  exact ⟨h.1 [2, 0, 2, 0, 0xC3] ⟨[0xA9], rfl⟩ (by decide), h.2 [7, 7]⟩

theorem countsFit_cursorVisibility {m : Message} (h : m.msgType = MsgType.cursorVisibility) :
    m.CountsFit := by
  cases m with
  | clientHello m =>
      have hcode : MsgType.clientHello = MsgType.cursorVisibility := h
      exact absurd hcode (by decide)
  | displayLayout m =>
      have hcode : MsgType.displayLayout = MsgType.cursorVisibility := h
      exact absurd hcode (by decide)
  | _ => trivial

/-- **Decode then encode.**  Whatever bytes decoded to a message, the message encodes,
its body decodes to it again, and the body is the consumed prefix of those bytes, with
the boolean of `CursorVisibility` normalised. -/
theorem encodeBody_decodeKnown (msgType : UInt8) (bytes : List UInt8) (m : Message)
    (h : decodeKnown msgType bytes = .ok (some m)) :
    m.msgType = msgType ∧ consumed msgType bytes <+: bytes ∧
      ∃ body, m.encodeBody = .ok body ∧ decodeKnown msgType body = .ok (some m) ∧
        body = normalised msgType (consumed msgType bytes) := by
  obtain ⟨r, t, hr, hrun⟩ := decodeKnown_reader h
  obtain ⟨xs, hpass, hparse, hemit⟩ := r.inverts _ _ _ hrun
  rw [readerOf_msgType hr] at hemit
  have htype : m.msgType = msgType :=
    (r.typed m ⟨_, _, hrun⟩).trans (readerOf_msgType hr)
  have hdone : consumed msgType bytes = xs := by
    simp only [consumed, hr, hrun]
    exact hpass.2
  have hbody := encodeBody_emits hemit
  refine ⟨htype, ⟨t.todo, ?_⟩, normalised msgType xs, hbody, ?_, ?_⟩
  · rw [hdone]
    exact hpass.1.symm
  · by_cases hbool : msgType = MsgType.cursorVisibility
    · have hfit : m.CountsFit := countsFit_cursorVisibility (htype.trans hbool)
      have hback := (readBack hfit _ hbody).2
      rwa [htype] at hback
    · have hsame : normalised msgType xs = xs := if_neg hbool
      have hdec := decodeKnown_parses hr hparse []
      rwa [List.append_nil, ← hsame] at hdec
  · rw [hdone]

/-- A boolean byte of 5 decodes, and comes back as 1. -/
theorem encodeBody_decodeKnown_visible :
    ∃ body, encodeBody (.cursorVisibility ⟨true⟩) = .ok body ∧
      body = normalised MsgType.cursorVisibility
        (consumed MsgType.cursorVisibility [5, 9]) ∧
      decodeKnown MsgType.cursorVisibility [5, 9] = .ok (some (.cursorVisibility ⟨true⟩)) := by
  have hdec : decodeKnown MsgType.cursorVisibility [5, 9] =
      .ok (some (.cursorVisibility ⟨true⟩)) := rfl
  obtain ⟨-, -, body, hbody, -, heq⟩ := encodeBody_decodeKnown _ _ _ hdec
  exact ⟨body, hbody, heq, hdec⟩

end Message

end Oxrdp
