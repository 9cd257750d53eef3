import Oxrdp.Rdp.Sequence

/-!
# The connection driver

`connect` of `connect.rs`, which drives the connector over a TCP connection that it
upgrades to TLS.  The TLS library is a parameter: what it makes of the bytes that follow
the Connection Confirm is the decrypted stream of the server, or nothing.

The connector goes on in the clear when the server sends no negotiation block or selects
plain RDP, and takes any other protocol without comparing it with those it asked for.
`connect` gives up unless the connector asked for the upgrade.
-/

namespace Oxrdp

/-- What a frame travels over. -/
inductive Carrier where
  | tcp
  | tls
  deriving DecidableEq, Repr

/-- A frame that was written. -/
structure WrittenFrame where
  carrier : Carrier
  bytes : List UInt8
  deriving DecidableEq, Repr

/-- Everything around the driver: the bytes of the server, the TLS library, the name that
was given for the server, and the writes that fail. -/
structure Network where
  tcp : List UInt8
  nameIsValid : Bool
  handshake : List UInt8 → Option (List UInt8)
  breaks : Nat → Bool

inductive DriverError where
  /-- `UnexpectedEof`, or a write that failed. -/
  | io
  | badFrame (e : DecodeError)
  | core (e : CoreError)
  | unsupported
  | invalidName
  | handshake
  | secondUpgrade
  deriving DecidableEq, Repr

/-- An established session: the negotiated identifiers. -/
structure RdpSession where
  selectedProtocol : UInt32
  userChannel : UInt16
  ioChannel : UInt16
  deriving DecidableEq, Repr

/-- The driver, with the frames that it has written. -/
abbrev Driving := EStateM DriverError (List WrittenFrame)

namespace Network

/-- Write a complete frame. -/
def writeFrame (net : Network) (carrier : Carrier) (bytes : List UInt8) : Driving PUnit := do
  let sent ← get
  if net.breaks sent.length then
    throw .io
  else
    set (sent ++ [{ carrier, bytes : WrittenFrame }])

/-- Read one complete TPKT-framed message: the header, and the bytes that its length
announces. -/
def readFrame (stream : List UInt8) : Except DriverError (List UInt8 × List UInt8) :=
  if stream.length < tpktHeaderLen then
    .error .io
  else
    match decode TpktHeader.decode (stream.take tpktHeaderLen) with
    | .error e => .error (.badFrame e)
    | .ok tpkt =>
        if tpkt.length.toNat < tpktHeaderLen then
          .error (.badFrame (.invalidLength "TPKT" "TPKT length smaller than header"))
        else if stream.length < tpkt.length.toNat then
          .error .io
        else
          .ok (stream.take tpkt.length.toNat, stream.drop tpkt.length.toNat)

/-- A frame takes at least its header from the stream. -/
theorem readFrame_shorter {stream frame rest : List UInt8}
    (h : readFrame stream = .ok (frame, rest)) : rest.length < stream.length := by
  unfold readFrame at h
  split_ifs at h with hshort
  split at h
  next => cases h
  next tpkt =>
    split_ifs at h with hsmall hmore
    cases h
    rw [List.length_drop]
    simp only [tpktHeaderLen] at hshort hsmall
    omega

open ClientConnector

/-- Send what the first two calls ask for over TCP; is an upgrade asked for? -/
def performPlain (net : Network) : List CoreOutput → Bool → Driving Bool
  | [], upgrade => pure upgrade
  | .upgradeToTls :: rest, _ => performPlain net rest true
  | .sendData bytes :: rest, upgrade => do
      net.writeFrame .tcp bytes
      performPlain net rest upgrade
  | .connected .. :: rest, upgrade => performPlain net rest upgrade

/-- Send what later calls ask for over TLS; the session, if it is established. -/
def perform (net : Network) : List CoreOutput → Driving (Option RdpSession)
  | [] => pure none
  | .sendData bytes :: rest => do
      net.writeFrame .tls bytes
      perform net rest
  | .upgradeToTls :: _ => throw .secondUpgrade
  | .connected selectedProtocol userChannel ioChannel :: _ =>
      pure (some { selectedProtocol, userChannel, ioChannel })

/-- Phase 3 and on: MCS Connect-Initial through channel join, over TLS. -/
def pump (net : Network) (c : ClientConnector) (outputs : List CoreOutput)
    (stream : List UInt8) : Driving RdpSession := do
  let session ← net.perform outputs
  match session with
  | some session => pure session
  | none =>
      match _h : readFrame stream with
      | .error e => throw e
      | .ok (frame, rest) =>
          match (turn c (.step frame)).result with
          | .error e => throw (.core e)
          | .ok outputs => pump net (turn c (.step frame)).after outputs rest
termination_by stream.length
decreasing_by exact readFrame_shorter _h

/-- `?` on a call of the connector. -/
def ofResult (r : Except CoreError (List CoreOutput)) : Driving (List CoreOutput) :=
  match r with
  | .ok out => pure out
  | .error e => throw (.core e)

/-- `?` on a frame that is read. -/
def ofRead (r : Except DriverError (List UInt8 × List UInt8)) :
    Driving (List UInt8 × List UInt8) :=
  match r with
  | .ok r => pure r
  | .error e => throw e

/-- Connect to an RDP server and run the connection sequence through MCS channel join. -/
def connect (net : Network) (config : ConnectorConfig) : Driving RdpSession := do
  let started := turn (new config) .start
  let out ← ofResult started.result
  let _upgrade ← net.performPlain out false
  let (cc, rest) ← ofRead (readFrame net.tcp)
  let confirmed := turn started.after (.step cc)
  let out ← ofResult confirmed.result
  let upgrade ← net.performPlain out false
  if !upgrade then
    throw .unsupported
  else if !net.nameIsValid then
    throw .invalidName
  else
    match net.handshake rest with
    | none => throw .handshake
    | some stream => do
        let resumed := turn confirmed.after .resumeAfterTls
        let out ← ofResult resumed.result
        net.pump resumed.after out stream

/-! ## What goes over TLS -/

/-- Behind the frame that went first, everything goes over TLS. -/
def Sealed (first : WrittenFrame) (sent : List WrittenFrame) : Prop :=
  ∃ later, sent = first :: later ∧ ∀ s ∈ later, s.carrier = .tls

/-- A frame that is written over TLS is sealed. -/
theorem writeFrame_sealed {net : Network} {first : WrittenFrame} {bytes : List UInt8}
    {sent sent' : List WrittenFrame} (hsealed : Sealed first sent)
    (h : (net.writeFrame .tls bytes).run sent = .ok ⟨⟩ sent') : Sealed first sent' := by
  obtain ⟨later, rfl, hlater⟩ := hsealed
  obtain ⟨s, s', hget, h⟩ := Effect.run_bind_ok h
  cases hget
  split_ifs at h with hbreaks
  · cases h
  · cases h
    refine ⟨later ++ [{ carrier := .tls, bytes }], rfl, ?_⟩
    intro s hs
    rcases List.mem_append.mp hs with hold | hnew
    · exact hlater s hold
    · rw [List.mem_singleton.mp hnew]

/-- What is performed after the upgrade is sealed. -/
theorem perform_sealed {net : Network} {first : WrittenFrame} {outputs : List CoreOutput}
    {session : Option RdpSession} :
    ∀ {sent sent' : List WrittenFrame}, Sealed first sent →
      (net.perform outputs).run sent = .ok session sent' →
      Sealed first sent' ∧ ∀ s ∈ session,
        .connected s.selectedProtocol s.userChannel s.ioChannel ∈ outputs := by
  induction outputs with
  | nil =>
      intro sent sent' hsealed h
      cases h
      exact ⟨hsealed, nofun⟩
  | cons output rest ih =>
      intro sent sent' hsealed h
      cases output with
      | sendData bytes =>
          obtain ⟨u, mid, hwrite, hrest⟩ := Effect.run_bind_ok h
          obtain ⟨hsealed', hsession⟩ := ih (writeFrame_sealed hsealed hwrite) hrest
          exact ⟨hsealed', fun s hs => List.mem_cons_of_mem _ (hsession s hs)⟩
      | upgradeToTls => cases h
      | connected p u io =>
          cases h
          refine ⟨hsealed, ?_⟩
          intro s hs
          cases hs
          exact List.mem_cons_self

end Network

namespace ClientConnector

/-- The protocol that a confirm selects. -/
def confirmSelects (cc : ConnectionConfirm) : UInt32 :=
  match cc.negotiation with
  | some (.response r) => r.selectedProtocol
  | _ => NegoProtocol.rdp

/-- The Connection Confirm that a turn took. -/
def Turn.confirm (t : Turn) : Option ConnectionConfirm :=
  t.accepted .sentConnectionRequest readConnectionConfirm

/-- Behind the negotiation a move keeps the selected protocol, and `connected` reports
it. -/
theorem Moves.selected {c c' : ClientConnector} {i : Call} {out : List CoreOutput}
    (h : Moves c i out c') (hrank : 2 ≤ c.state.rank) :
    c'.selectedProtocol = c.selectedProtocol ∧
      ∀ p u io, .connected p u io ∈ out → p = c.selectedProtocol := by
  cases h with
  | started hstate => simp [hstate, ConnectorState.rank] at hrank
  | upgrade hstate => simp [hstate, ConnectorState.rank] at hrank
  | plain hstate => simp [hstate, ConnectorState.rank] at hrank
  | resumed => exact ⟨rfl, by simp⟩
  | responded => exact ⟨rfl, by simp⟩
  | attached => exact ⟨rfl, by simp⟩
  | joined => exact ⟨rfl, by simp⟩
  | finished =>
      refine ⟨rfl, ?_⟩
      intro p u io hmem
      simp only [List.mem_singleton, CoreOutput.connected.injEq] at hmem
      exact hmem.1

/-- After the confirm the protocol is the one that was selected. -/
theorem turn_selected {c : ClientConnector} (hinv : c.Inv) (hrank : 2 ≤ c.state.rank) (i : Call)
    {out : List CoreOutput} (h : (turn c i).result = .ok out) :
    (turn c i).after.selectedProtocol = c.selectedProtocol ∧
      ∀ p u io, .connected p u io ∈ out → p = c.selectedProtocol := by
  rcases turn_cases hinv i with ⟨out', c', hmove, hturn⟩ | ⟨e, hturn⟩
  · rw [hturn] at h ⊢
    cases h
    exact hmove.selected hrank
  · rw [hturn] at h
    cases h

end ClientConnector

namespace Network

open ClientConnector

/-- A result that is lifted sends nothing. -/
theorem ofResult_ok {r : Except CoreError (List CoreOutput)} {out : List CoreOutput}
    {sent sent' : List WrittenFrame} (h : (ofResult r).run sent = .ok out sent') :
    r = .ok out ∧ sent' = sent := by
  cases r with
  | error e => cases h
  | ok out' =>
      cases h
      exact ⟨rfl, rfl⟩

/-- What was read sends nothing. -/
theorem ofRead_ok {r : Except DriverError (List UInt8 × List UInt8)} {a : List UInt8 × List UInt8}
    {sent sent' : List WrittenFrame} (h : (ofRead r).run sent = .ok a sent') :
    r = .ok a ∧ sent' = sent := by
  cases r with
  | error e => cases h
  | ok a' =>
      cases h
      exact ⟨rfl, rfl⟩

/-- Over TLS nothing is written elsewhere, and the session reports the protocol that was
selected before. -/
theorem pump_sealed {net : Network} {first : WrittenFrame} {session : RdpSession} (n : Nat) :
    ∀ {stream : List UInt8} {c : ClientConnector} {outputs : List CoreOutput}
      {sent sent' : List WrittenFrame}, stream.length = n → c.Inv → 2 ≤ c.state.rank →
      (∀ p u io, .connected p u io ∈ outputs → p = c.selectedProtocol) → Sealed first sent →
      (net.pump c outputs stream).run sent = .ok session sent' →
      Sealed first sent' ∧ session.selectedProtocol = c.selectedProtocol := by
  induction n using Nat.strong_induction_on with
  | _ n ih =>
      intro stream c outputs sent sent' hlen hinv hrank hout hsealed h
      rw [pump] at h
      obtain ⟨found, mid, hperform, h⟩ := Effect.run_bind_ok h
      obtain ⟨hsealed', hsession⟩ := perform_sealed hsealed hperform
      cases found with
      | some s =>
          cases h
          exact ⟨hsealed', hout _ _ _ (hsession session rfl)⟩
      | none =>
          dsimp only at h
          split at h
          next => cases h
          next frame rest hread =>
            split at h
            next => cases h
            next out hresult =>
              obtain ⟨hsame, hnext⟩ := turn_selected hinv hrank _ hresult
              have hforward := turn_forward hinv (.step frame)
              have hshort := readFrame_shorter hread
              rw [← hsame] at hnext ⊢
              exact ih rest.length (by omega) rfl (turn_inv hinv _) (by omega) hnext hsealed' h

/-- The start of a connector asks for its Connection Request to be sent. -/
theorem start_outputs {config : ConnectorConfig} {out : List CoreOutput}
    (h : (turn (new config) .start).result = .ok out) :
    ∃ request, connectionRequest config = .ok request ∧ out = [.sendData request] ∧
      (turn (new config) .start).after.state = .sentConnectionRequest := by
  rcases turn_cases (new_inv config) .start with ⟨out', c', hmove, hturn⟩ | ⟨e, hturn⟩
  · rw [hturn] at h ⊢
    cases h
    cases hmove with
    | started hstate hout => exact ⟨_, hout, rfl, rfl⟩
  · rw [hturn] at h
    cases h

/-- What the Connection Confirm makes of the connector: it asks for the upgrade and
nothing else, or for no upgrade. -/
theorem confirm_outputs {c : ClientConnector} {frame : List UInt8} {out : List CoreOutput}
    (hinv : c.Inv) (hstate : c.state = .sentConnectionRequest)
    (h : (turn c (.step frame)).result = .ok out) :
    (∃ r, readConnectionConfirm frame = .ok ⟨some (.response r)⟩ ∧
        r.selectedProtocol ≠ NegoProtocol.rdp ∧ out = [.upgradeToTls] ∧
        (turn c (.step frame)).after.state = .needTls ∧
        (turn c (.step frame)).after.selectedProtocol = r.selectedProtocol) ∨
      ∃ bytes, out = [.sendData bytes] := by
  rcases turn_cases hinv (.step frame) with ⟨out', c', hmove, hturn⟩ | ⟨e, hturn⟩
  · rw [hturn] at h ⊢
    cases h
    cases hmove with
    | upgrade _ hcc hr => exact .inl ⟨_, hcc, hr, rfl, rfl, rfl⟩
    | plain => exact .inr ⟨_, rfl⟩
    | responded hother => rw [hstate] at hother; cases hother
    | attached hother => rw [hstate] at hother; cases hother
    | joined hother => rw [hstate] at hother; cases hother
    | finished hother => rw [hstate] at hother; cases hother
  · rw [hturn] at h
    cases h

/-- What is sent before the upgrade is sent plain. -/
theorem performPlain_send {net : Network} {bytes : List UInt8} {upgrade b : Bool}
    {sent sent' : List WrittenFrame}
    (h : (net.performPlain [.sendData bytes] b).run sent = .ok upgrade sent') :
    upgrade = b ∧ sent' = sent ++ [{ carrier := .tcp, bytes }] := by
  obtain ⟨u, mid, hwrite, h⟩ := Effect.run_bind_ok h
  cases h
  obtain ⟨s, s', hget, hwrite⟩ := Effect.run_bind_ok hwrite
  cases hget
  split_ifs at hwrite with hbreaks
  · cases hwrite
  · cases hwrite
    exact ⟨rfl, rfl⟩

/-- How a session came about: the server selected a protocol other than plain RDP, which
the session reports, the handshake was made, and nothing but the Connection Request was
written before it. -/
def Upgraded (net : Network) (config : ConnectorConfig) (session : RdpSession)
    (sent : List WrittenFrame) : Prop :=
  ∃ request frame rest r stream, connectionRequest config = .ok request ∧
    readFrame net.tcp = .ok (frame, rest) ∧
    readConnectionConfirm frame = .ok ⟨some (.response r)⟩ ∧
    r.selectedProtocol ≠ NegoProtocol.rdp ∧ session.selectedProtocol = r.selectedProtocol ∧
    net.handshake rest = some stream ∧ Sealed { carrier := .tcp, bytes := request } sent

/-- **A connection that was made** was upgraded first. -/
theorem connect_upgraded {net : Network} {config : ConnectorConfig} {session : RdpSession}
    {sent : List WrittenFrame} (h : (net.connect config).run [] = .ok session sent) :
    net.Upgraded config session sent := by
  rw [connect] at h
  obtain ⟨out, s₁, hrun, h⟩ := Effect.run_bind_ok h
  obtain ⟨hstart, rfl⟩ := ofResult_ok hrun
  obtain ⟨request, hrequest, rfl, hstate⟩ := start_outputs hstart
  obtain ⟨u, s₂, hplain, h⟩ := Effect.run_bind_ok h
  obtain ⟨-, rfl⟩ := performPlain_send hplain
  obtain ⟨⟨frame, rest⟩, s₃, hrun, h⟩ := Effect.run_bind_ok h
  obtain ⟨hread, rfl⟩ := ofRead_ok hrun
  obtain ⟨out, s₄, hrun, h⟩ := Effect.run_bind_ok h
  obtain ⟨hconfirm, rfl⟩ := ofResult_ok hrun
  obtain ⟨upgrade, s₅, hperform, h⟩ := Effect.run_bind_ok h
  have hinv := turn_inv (new_inv config) .start
  rcases confirm_outputs hinv hstate hconfirm with
    ⟨r, hcc, hr, rfl, hneed, hselected⟩ | ⟨bytes, rfl⟩
  · cases hperform
    dsimp only [Bool.not_true] at h
    rw [if_neg (by simp)] at h
    split_ifs at h with hname
    · cases h
    · split at h
      next => cases h
      next stream hhandshake =>
        obtain ⟨out, s₆, hrun, h⟩ := Effect.run_bind_ok h
        obtain ⟨hresume, rfl⟩ := ofResult_ok hrun
        have hinv' := turn_inv hinv (.step frame)
        have hrank :
            2 ≤ (turn (turn (new config) .start).after (.step frame)).after.state.rank := by
          rw [hneed]
          decide
        obtain ⟨hsame, hout⟩ := turn_selected hinv' hrank _ hresume
        have hforward := turn_forward hinv' .resumeAfterTls
        rw [← hsame] at hout
        obtain ⟨hsealed, hsession⟩ := pump_sealed stream.length rfl (turn_inv hinv' _) (by omega)
          hout ⟨[], rfl, nofun⟩ h
        refine ⟨request, frame, rest, r, stream, hrequest, hread, hcc, hr, ?_, hhandshake, hsealed⟩
        rw [hsession, hsame, hselected]
  · obtain ⟨rfl, -⟩ := performPlain_send hperform
    cases h

end Network

namespace ClientConnector

/-! ## What the server can make of the negotiation -/

/-- A call of `resume_after_tls` went well. -/
def Resumed (turns : List Turn) : Prop :=
  ∃ t ∈ turns, t.call = .resumeAfterTls ∧ ∃ out, t.result = .ok out

/-- What holds of the negotiation in every history. -/
structure Negotiated (turns : List Turn) : Prop where
  /-- The negotiation is left with a confirm that is no failure.  The protocol it selects
  is recorded, and unless it goes on in plain RDP nothing but the upgrade is asked for. -/
  leaves : ∀ t ∈ turns, t.before.state.rank ≤ 1 → 2 ≤ t.after.state.rank →
    ∃ cc, t.confirm = some cc ∧ (∀ f, cc.negotiation ≠ some (.failure f)) ∧
      t.after.selectedProtocol = confirmSelects cc ∧
      (¬ Plain cc → t.outputs = [.upgradeToTls] ∧ t.after.state = .needTls)
  /-- Unless a confirm went on in plain RDP, nothing follows the Connection Request before
  the connector was told of the upgrade. -/
  held : (∀ t ∈ turns, ∀ cc ∈ t.confirm, ¬ Plain cc) →
    ∀ before t after, turns = before ++ t :: after → ∀ bytes, .sendData bytes ∈ t.outputs →
      t.call = .start ∨ Resumed (before ++ [t])

/-- The turn that leaves the confirm behind has read it. -/
theorem turn_leaves {c : ClientConnector} (hinv : c.Inv) {i : Call} (hlow : c.state.rank ≤ 1)
    (hhigh : 2 ≤ (turn c i).after.state.rank) :
    ∃ cc, (turn c i).confirm = some cc ∧ (∀ f, cc.negotiation ≠ some (.failure f)) ∧
      (turn c i).after.selectedProtocol = confirmSelects cc ∧
      (¬ Plain cc → (turn c i).outputs = [.upgradeToTls] ∧
        (turn c i).after.state = .needTls) := by
  rcases turn_cases hinv i with ⟨out, c', hmove, hturn⟩ | ⟨e, hturn⟩
  · rw [hturn] at hhigh ⊢
    cases hmove with
    | started => simp [ConnectorState.rank] at hhigh
    | upgrade hstate hcc hr =>
        refine ⟨_, accepted_step hstate hcc, ?_, rfl, fun _ => ⟨rfl, rfl⟩⟩
        intro f hf
        cases hf
    | plain hstate hcc hplain hout =>
        refine ⟨_, accepted_step hstate hcc, ?_, ?_, fun h => absurd hplain h⟩
        · intro f hf
          rcases hplain with hnone | ⟨r, hr, -⟩
          · rw [hnone] at hf
            cases hf
          · rw [hr] at hf
            cases hf
        · change c.selectedProtocol = _
          rw [hinv.unselected hstate, confirmSelects]
          rcases hplain with hnone | ⟨r, hr, hrdp⟩
          · rw [hnone]
          · rw [hr]
            exact hrdp.symm
    | resumed hstate => simp [hstate, ConnectorState.rank] at hlow
    | responded hstate => simp [hstate, ConnectorState.rank] at hlow
    | attached hstate => simp [hstate, ConnectorState.rank] at hlow
    | joined hstate => simp [hstate, ConnectorState.rank] at hlow
    | finished hstate => simp [hstate, ConnectorState.rank] at hlow
  · rw [hturn] at hhigh
    change 2 ≤ c.state.rank at hhigh
    omega

/-- Without a confirm that goes on in plain RDP, the only way to the MCS phase is the
upgrade. -/
theorem turn_resumed {c : ClientConnector} (hinv : c.Inv) {i : Call}
    (hsafe : ∀ cc ∈ (turn c i).confirm, ¬ Plain cc)
    (hhigh : 3 ≤ (turn c i).after.state.rank) :
    3 ≤ c.state.rank ∨ (turn c i).call = .resumeAfterTls ∧ ∃ out, (turn c i).result = .ok out := by
  rcases turn_cases hinv i with ⟨out, c', hmove, hturn⟩ | ⟨e, hturn⟩
  · rw [hturn] at hhigh hsafe ⊢
    cases hmove with
    | started => simp [ConnectorState.rank] at hhigh
    | upgrade => simp [ConnectorState.rank] at hhigh
    | plain hstate hcc hplain => exact absurd hplain (hsafe _ (accepted_step hstate hcc))
    | resumed => exact .inr ⟨rfl, _, rfl⟩
    | responded hstate => exact .inl (by simp [hstate, ConnectorState.rank])
    | attached hstate => exact .inl (by simp [hstate, ConnectorState.rank])
    | joined hstate => exact .inl (by simp [hstate, ConnectorState.rank])
    | finished hstate => exact .inl (by simp [hstate, ConnectorState.rank])
  · rw [hturn] at hhigh
    exact .inl hhigh

/-- A history without plain confirms has resumed after TLS before it goes on. -/
theorem resumed_of_rank (config : ConnectorConfig) (calls : List Call) :
    (∀ t ∈ history (new config) calls, ∀ cc ∈ t.confirm, ¬ Plain cc) →
      3 ≤ (final (new config) calls).state.rank → Resumed (history (new config) calls) := by
  induction calls using List.reverseRecOn with
  | nil =>
      intro _ hrank
      simp [final, new, ConnectorState.rank] at hrank
  | append_singleton calls i ih =>
      intro hsafe hrank
      rw [history_snoc] at hsafe ⊢
      rw [final_snoc] at hrank
      have hlast := hsafe _ (List.mem_append_right _ (List.mem_singleton_self _))
      rcases turn_resumed (final_inv (new_inv config) calls) hlast hrank with hbefore | hthis
      · obtain ⟨t, ht, hresumed⟩ :=
          ih (fun t ht => hsafe t (List.mem_append_left _ ht)) hbefore
        exact ⟨t, List.mem_append_left _ ht, hresumed⟩
      · exact ⟨_, List.mem_append_right _ (List.mem_singleton_self _), hthis⟩

/-- A turn that sends something other than the Connection Request ends in the MCS phase. -/
theorem turn_sends {c : ClientConnector} (hinv : c.Inv) {i : Call} {bytes : List UInt8}
    (hmem : .sendData bytes ∈ (turn c i).outputs) :
    (turn c i).call = .start ∨ 3 ≤ (turn c i).after.state.rank := by
  rcases turn_cases hinv i with ⟨out, c', hmove, hturn⟩ | ⟨e, hturn⟩
  · rw [hturn] at hmem ⊢
    cases hmove with
    | started => exact .inl rfl
    | upgrade => simp [Turn.outputs] at hmem
    | plain => exact .inr (by simp [ConnectorState.rank])
    | resumed => exact .inr (by simp [ConnectorState.rank])
    | responded => exact .inr (by simp [ConnectorState.rank])
    | attached => exact .inr (by simp [ConnectorState.rank])
    | joined hstate => exact .inr (by simp [hstate, ConnectorState.rank])
    | finished => simp [Turn.outputs] at hmem
  · rw [hturn] at hmem
    cases hmem

/-- **Every history** negotiates as it should. -/
theorem negotiated_history (config : ConnectorConfig) (calls : List Call) :
    Negotiated (history (new config) calls) where
  leaves := by
    intro t ht
    obtain ⟨before, after, heq⟩ := List.append_of_mem ht
    obtain ⟨first, i, -, -, -, rfl⟩ := history_split heq
    rw [turn_before]
    exact turn_leaves (final_inv (new_inv config) first)
  held := by
    intro hsafe before t after heq bytes hmem
    obtain ⟨first, i, -, -, rfl, rfl⟩ := history_split heq
    rcases turn_sends (final_inv (new_inv config) first) hmem with hstart | hrank
    · exact .inl hstart
    · right
      rw [← history_snoc]
      apply resumed_of_rank
      · intro t ht
        apply hsafe
        rw [heq]
        rw [history_snoc] at ht
        rcases List.mem_append.mp ht with hbefore | hlast
        · exact List.mem_append_left _ hbefore
        · rw [List.mem_singleton.mp hlast]
          exact List.mem_append_right _ List.mem_cons_self
      · rw [final_snoc]
        exact hrank

/-- **The negotiation in every history, and what `connect` makes of it.** -/
theorem history_negotiated (config : ConnectorConfig) (calls : List Call) (net : Network) :
    Negotiated (history (new config) calls) ∧
      ∀ session sent, (net.connect config).run [] = .ok session sent →
        net.Upgraded config session sent :=
  ⟨negotiated_history config calls, fun _ _ h => Network.connect_upgraded h⟩

/-- A server that confirms what it is asked for, over a TLS library that hands the rest
of its bytes on. -/
def sampleNetwork : Network where
  tcp :=
    selectsTls ++ (assignsChannels ++ (assignsUser ++ (confirmsJoin 1007 ++ confirmsJoin 1003)))
  nameIsValid := true
  handshake := some
  breaks := fun _ => false

/-- The session that such a server is given. -/
theorem history_negotiated_sample :
    ∃ session sent, sampleNetwork.Upgraded sampleConfig session sent := by
  have hruns : (match (sampleNetwork.connect sampleConfig).run [] with
      | .ok _ _ => true
      | .error _ _ => false) = true := by
    decide +kernel
  split at hruns
  next session sent hrun =>
    exact ⟨session, sent, (history_negotiated sampleConfig [] sampleNetwork).2 session sent hrun⟩
  next => cases hruns

/-- A Connection Confirm without a negotiation block. -/
def selectsNothing : List UInt8 := [0x03, 0x00, 0x00, 0x0B, 0x06, 0xD0, 0, 0, 0, 0, 0]

/-- A Connection Confirm that selects CredSSP, which nobody asked for. -/
def selectsHybrid : List UInt8 :=
  [0x03, 0x00, 0x00, 0x13, 0x0E, 0xD0, 0, 0, 0, 0, 0, 0x02, 0x00, 0x08, 0x00, 0x02, 0, 0, 0]

/-- A server that answers without a negotiation block is sent the Connect-Initial before
any upgrade, and one that selects CredSSP is taken at its word. -/
theorem downgraded :
    sampleConfig.requestedProtocols = NegoProtocol.ssl ∧
      (turn (final (new sampleConfig) [.start]) (.step selectsNothing)).outputs.any
        (fun out => out matches .sendData _) ∧
      (final (new sampleConfig) [.start, .step selectsHybrid]).state = .needTls ∧
      (final (new sampleConfig) [.start, .step selectsHybrid]).selectedProtocol &&&
        sampleConfig.requestedProtocols = 0 := by
  refine ⟨rfl, ?_, ?_, ?_⟩
  · decide +kernel
  · decide +kernel
  · decide +kernel

end ClientConnector

end Oxrdp
