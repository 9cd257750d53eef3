import Oxrdp.Lib.Effect
import Oxrdp.Pdu.ConnectInitial
import Oxrdp.Pdu.ConnectResponse
import Oxrdp.Pdu.Framing
import Oxrdp.Pdu.Mcs
import Oxrdp.Pdu.Negotiation

/-!
# The RDP connector

`ClientConnector` of `connector.rs`: the connection sequence up to the end of the MCS
channel join, as a machine that is fed the server's frames and says what to send.  A
call that fails keeps whatever it changed before.

`Moves` lists what a call can do to a connector, and `call_moves` says that it does
nothing else: one of the eight moves, or an error that leaves the connector as it was.
-/

namespace Oxrdp

/-- Action the caller must perform on behalf of the connector. -/
inductive CoreOutput where
  | sendData (bytes : List UInt8)
  | upgradeToTls
  | connected (selectedProtocol : UInt32) (userChannel ioChannel : UInt16)
  deriving DecidableEq, Repr

/-- Current state of the connection sequence, in its declared order. -/
inductive ConnectorState where
  | initial
  | sentConnectionRequest
  | needTls
  | sentConnectInitial
  | sentErectAttach
  | joiningChannels
  | connected
  deriving DecidableEq, Repr

/-- The place in the declared order. -/
def ConnectorState.rank : ConnectorState → Nat
  | initial => 0
  | sentConnectionRequest => 1
  | needTls => 2
  | sentConnectInitial => 3
  | sentErectAttach => 4
  | joiningChannels => 5
  | connected => 6

structure ConnectorConfig where
  cookie : Option String
  requestedProtocols : UInt32
  core : ClientCoreData
  security : ClientSecurityData
  network : ClientNetworkData
  deriving DecidableEq

inductive CoreError where
  | decode (e : DecodeError)
  | encode (e : EncodeError)
  | unexpectedState
  | negotiationFailed (code : UInt32)
  | connectResponseFailed (result : UInt8)
  | channelJoinFailed (channel : UInt16)
  deriving DecidableEq, Repr

structure ClientConnector where
  config : ConnectorConfig
  state : ConnectorState
  selectedProtocol : UInt32
  userId : UInt16
  ioChannel : UInt16
  joinQueue : List UInt16
  joinIndex : Nat
  deriving DecidableEq

/-- A method of the connector. -/
abbrev Connecting := EStateM CoreError ClientConnector

/-- `?` on a decoding. -/
def fromDecode {α : Type} : DecodeResult α → Connecting α
  | .ok a => pure a
  | .error e => throw (.decode e)

/-- `?` on an encoding. -/
def fromEncode {α : Type} : EncodeResult α → Connecting α
  | .ok a => pure a
  | .error e => throw (.encode e)

namespace ClientConnector

/-- Create a new connector in the initial state. -/
def new (config : ConnectorConfig) : ClientConnector where
  config
  state := .initial
  selectedProtocol := 0
  userId := 0
  ioChannel := 0
  joinQueue := []
  joinIndex := 0

/-- The X.224 Connection Request of a configuration, in its TPKT header. -/
def connectionRequest (config : ConnectorConfig) : EncodeResult (List UInt8) := do
  let cr : ConnectionRequest := {
    cookie := config.cookie
    negotiation := some { flags := 0, requestedProtocols := config.requestedProtocols } }
  let x224 ← encodeVec cr.size cr.encode
  let tpkt : TpktHeader := { length := UInt16.ofNat (tpktHeaderLen + x224.length) }
  let frame ← encodeVec tpkt.size tpkt.encode
  pure (frame ++ x224)

/-- Start the connection sequence by sending the X.224 Connection Request. -/
def start : Connecting (List CoreOutput) := do
  let c ← get
  if c.state ≠ .initial then
    throw .unexpectedState
  else
    let frame ← fromEncode (connectionRequest c.config)
    modify fun c => { c with state := .sentConnectionRequest }
    pure [.sendData frame]

/-- The Connect-Initial of a configuration, framed. -/
def connectInitial (config : ConnectorConfig) : EncodeResult (List UInt8) := do
  let ci : ConnectInitial :=
    { core := config.core, security := config.security, network := config.network }
  let bytes ← ci.toBytes
  wrapMcs bytes

def sendConnectInitial : Connecting (List CoreOutput) := do
  let c ← get
  let frame ← fromEncode (connectInitial c.config)
  modify fun c => { c with state := .sentConnectInitial }
  pure [.sendData frame]

/-- The framed request to join a channel. -/
def joinFrame (userId channelId : UInt16) : EncodeResult (List UInt8) := do
  let req : ChannelJoinRequest := { userId, channelId }
  let bytes ← encodeVec req.size req.encode
  wrapMcs bytes

/-- Ask for the channel at the join index; there always is one. -/
def sendChannelJoin : Connecting (List CoreOutput) := do
  let c ← get
  let frame ← fromEncode (joinFrame c.userId (c.joinQueue.getD c.joinIndex 0))
  modify fun c => { c with state := .joiningChannels }
  pure [.sendData frame]

/-- Resume after the transport has been upgraded to TLS. -/
def resumeAfterTls : Connecting (List CoreOutput) := do
  let c ← get
  if c.state ≠ .needTls then
    throw .unexpectedState
  else
    sendConnectInitial

def handleConnectionConfirm (frame : List UInt8) : Connecting (List CoreOutput) := do
  let _tpkt ← fromDecode (decode TpktHeader.decode frame)
  let cc ← fromDecode (decode ConnectionConfirm.decode (frame.drop tpktHeaderLen))
  match cc.negotiation with
  | some (.failure f) => throw (.negotiationFailed f.failureCode)
  | some (.response r) => do
      modify fun c => { c with selectedProtocol := r.selectedProtocol }
      if r.selectedProtocol ≠ NegoProtocol.rdp then do
        modify fun c => { c with state := .needTls }
        pure [.upgradeToTls]
      else
        sendConnectInitial
  | none => sendConnectInitial

/-- The two requests that follow the Connect-Response. -/
def erectAndAttach : EncodeResult (List UInt8 × List UInt8) := do
  let erect ← encodeVec (ErectDomainRequest.size {}) (ErectDomainRequest.encode {})
  let erect ← wrapMcs erect
  let attach ← encodeVec (AttachUserRequest.size {}) (AttachUserRequest.encode {})
  let attach ← wrapMcs attach
  pure (erect, attach)

def handleConnectResponse (frame : List UInt8) : Connecting (List CoreOutput) := do
  let payload ← fromDecode (mcsPayload frame)
  let resp ← fromDecode (ConnectResponse.fromBytes payload)
  if resp.result ≠ 0 then
    throw (.connectResponseFailed resp.result)
  else
    modify fun c =>
      { c with
        ioChannel := resp.serverNetwork.elim 0 ServerNetworkData.mcsChannelId
        joinQueue := resp.serverNetwork.elim [] ServerNetworkData.channelIds }
    let (erect, attach) ← fromEncode erectAndAttach
    modify fun c => { c with state := .sentErectAttach }
    pure [.sendData erect, .sendData attach]

def handleAttachUserConfirm (frame : List UInt8) : Connecting (List CoreOutput) := do
  let payload ← fromDecode (mcsPayload frame)
  let confirm ← fromDecode (decode AttachUserConfirm.decode payload)
  if confirm.result ≠ 0 then
    throw (.connectResponseFailed confirm.result)
  else
    modify fun c =>
      { c with
        userId := confirm.userId
        joinQueue := confirm.userId :: c.ioChannel :: c.joinQueue
        joinIndex := 0 }
    sendChannelJoin

/-- Only the result of the confirm is looked at. -/
def handleChannelJoinConfirm (frame : List UInt8) : Connecting (List CoreOutput) := do
  let payload ← fromDecode (mcsPayload frame)
  let confirm ← fromDecode (decode ChannelJoinConfirm.decode payload)
  if confirm.result ≠ 0 then
    throw (.channelJoinFailed confirm.channelId)
  else
    modify fun c => { c with joinIndex := c.joinIndex + 1 }
    let c ← get
    if c.joinIndex < c.joinQueue.length then
      sendChannelJoin
    else
      set { c with state := ConnectorState.connected }
      pure [.connected c.selectedProtocol c.userId c.ioChannel]

/-- Feed a server frame into the state machine. -/
def step (frame : List UInt8) : Connecting (List CoreOutput) := do
  let c ← get
  match c.state with
  | .sentConnectionRequest => handleConnectionConfirm frame
  | .sentConnectInitial => handleConnectResponse frame
  | .sentErectAttach => handleAttachUserConfirm frame
  | .joiningChannels => handleChannelJoinConfirm frame
  | _ => throw .unexpectedState

/-- A call of one of the three methods. -/
inductive Call where
  | start
  | step (frame : List UInt8)
  | resumeAfterTls
  deriving DecidableEq, Repr

def call : Call → Connecting (List CoreOutput)
  | .start => start
  | .step frame => step frame
  | .resumeAfterTls => resumeAfterTls

/-! ## What a frame says -/

def readConnectionConfirm (frame : List UInt8) : DecodeResult ConnectionConfirm := do
  let _tpkt ← decode TpktHeader.decode frame
  decode ConnectionConfirm.decode (frame.drop tpktHeaderLen)

def readConnectResponse (frame : List UInt8) : DecodeResult ConnectResponse := do
  let payload ← mcsPayload frame
  ConnectResponse.fromBytes payload

def readAttachConfirm (frame : List UInt8) : DecodeResult AttachUserConfirm := do
  let payload ← mcsPayload frame
  decode AttachUserConfirm.decode payload

def readJoinConfirm (frame : List UInt8) : DecodeResult ChannelJoinConfirm := do
  let payload ← mcsPayload frame
  decode ChannelJoinConfirm.decode payload

/-- The I/O channel that a Connect-Response assigns. -/
def responseIoChannel (resp : ConnectResponse) : UInt16 :=
  resp.serverNetwork.elim 0 ServerNetworkData.mcsChannelId

/-- The virtual channels that a Connect-Response assigns. -/
def responseChannels (resp : ConnectResponse) : List UInt16 :=
  resp.serverNetwork.elim [] ServerNetworkData.channelIds

/-- The server goes on without TLS: it sent no negotiation block, or selected plain RDP. -/
def Plain (cc : ConnectionConfirm) : Prop :=
  cc.negotiation = none ∨
    ∃ r, cc.negotiation = some (.response r) ∧ r.selectedProtocol = NegoProtocol.rdp

/-! ## The moves -/

/-- What a call may do to a connector. -/
inductive Moves (c : ClientConnector) : Call → List CoreOutput → ClientConnector → Prop
  | started {out : List UInt8} (hstate : c.state = .initial)
      (hout : connectionRequest c.config = .ok out) :
      Moves c .start [.sendData out] { c with state := .sentConnectionRequest }
  | upgrade {frame : List UInt8} {r : NegotiationResponse}
      (hstate : c.state = .sentConnectionRequest)
      (hcc : readConnectionConfirm frame = .ok ⟨some (.response r)⟩)
      (hr : r.selectedProtocol ≠ NegoProtocol.rdp) :
      Moves c (.step frame) [.upgradeToTls]
        { c with selectedProtocol := r.selectedProtocol, state := .needTls }
  | plain {frame out : List UInt8} {cc : ConnectionConfirm}
      (hstate : c.state = .sentConnectionRequest)
      (hcc : readConnectionConfirm frame = .ok cc) (hplain : Plain cc)
      (hout : connectInitial c.config = .ok out) :
      Moves c (.step frame) [.sendData out] { c with state := .sentConnectInitial }
  | resumed {out : List UInt8} (hstate : c.state = .needTls)
      (hout : connectInitial c.config = .ok out) :
      Moves c .resumeAfterTls [.sendData out] { c with state := .sentConnectInitial }
  | responded {frame erect attach : List UInt8} {resp : ConnectResponse}
      (hstate : c.state = .sentConnectInitial)
      (hresp : readConnectResponse frame = .ok resp) (hok : resp.result = 0)
      (hout : erectAndAttach = .ok (erect, attach)) :
      Moves c (.step frame) [.sendData erect, .sendData attach]
        { c with
          ioChannel := responseIoChannel resp
          joinQueue := responseChannels resp
          state := .sentErectAttach }
  | attached {frame out : List UInt8} {confirm : AttachUserConfirm}
      (hstate : c.state = .sentErectAttach)
      (hconfirm : readAttachConfirm frame = .ok confirm) (hok : confirm.result = 0)
      (huser : mcsUserchannelBase ≤ confirm.userId)
      (hout : joinFrame confirm.userId confirm.userId = .ok out) :
      Moves c (.step frame) [.sendData out]
        { c with
          userId := confirm.userId
          joinQueue := confirm.userId :: c.ioChannel :: c.joinQueue
          joinIndex := 0
          state := .joiningChannels }
  | joined {frame out : List UInt8} {confirm : ChannelJoinConfirm} {channel : UInt16}
      (hstate : c.state = .joiningChannels)
      (hconfirm : readJoinConfirm frame = .ok confirm) (hok : confirm.result = 0)
      (hnext : c.joinQueue[c.joinIndex + 1]? = some channel)
      (hout : joinFrame c.userId channel = .ok out) :
      Moves c (.step frame) [.sendData out] { c with joinIndex := c.joinIndex + 1 }
  | finished {frame : List UInt8} {confirm : ChannelJoinConfirm}
      (hstate : c.state = .joiningChannels)
      (hconfirm : readJoinConfirm frame = .ok confirm) (hok : confirm.result = 0)
      (hlast : c.joinQueue.length ≤ c.joinIndex + 1) :
      Moves c (.step frame) [.connected c.selectedProtocol c.userId c.ioChannel]
        { c with joinIndex := c.joinIndex + 1, state := .connected }

/-- Nothing is selected before the confirm, and while channels are joined there is a user
and a channel that was asked for. -/
structure Inv (c : ClientConnector) : Prop where
  unselected : c.state = .sentConnectionRequest → c.selectedProtocol = NegoProtocol.rdp
  initial : c.state = .initial → c.selectedProtocol = NegoProtocol.rdp
  user : c.state = .joiningChannels → mcsUserchannelBase ≤ c.userId
  pending : c.state = .joiningChannels → c.joinIndex < c.joinQueue.length

/-- A new connector has no channels to join yet. -/
theorem new_inv (config : ConnectorConfig) : (new config).Inv where
  unselected h := by cases h
  initial _ := rfl
  user h := by cases h
  pending h := by cases h

/-- Every move keeps the invariant. -/
theorem Moves.inv {c c' : ClientConnector} {i : Call} {out : List CoreOutput}
    (h : Moves c i out c') (hinv : c.Inv) : c'.Inv := by
  cases h with
  | started hstate =>
      exact ⟨fun _ => hinv.initial hstate, nofun, nofun, nofun⟩
  | upgrade => exact ⟨nofun, nofun, nofun, nofun⟩
  | plain => exact ⟨nofun, nofun, nofun, nofun⟩
  | resumed => exact ⟨nofun, nofun, nofun, nofun⟩
  | responded => exact ⟨nofun, nofun, nofun, nofun⟩
  | attached _ _ _ huser =>
      exact ⟨nofun, nofun, fun _ => huser, fun _ => Nat.succ_pos _⟩
  | joined hstate _ _ hnext =>
      have hlt := (List.getElem?_eq_some_iff.mp hnext).1
      have hne : ∀ s, s ≠ ConnectorState.joiningChannels → c.state ≠ s := by
        intro s hs heq
        exact hs (heq.symm.trans hstate)
      exact ⟨fun h => absurd h (hne _ nofun), fun h => absurd h (hne _ nofun),
        fun _ => hinv.user hstate, fun _ => hlt⟩
  | finished => exact ⟨nofun, nofun, nofun, nofun⟩

/-! ## A call is a move or changes nothing -/

/-- How a call may end: with a move, or with an error and the connector as it was. -/
inductive Ends (c : ClientConnector) (i : Call) :
    EStateM.Result CoreError ClientConnector (List CoreOutput) → Prop
  | moved {out : List CoreOutput} {c' : ClientConnector} (h : Moves c i out c') :
      Ends c i (.ok out c')
  | failed (e : CoreError) : Ends c i (.error e c)

section Run

variable {α β : Type} {c : ClientConnector} {f : α → Connecting β}

/-- With a frame that decodes the step goes on. -/
theorem run_fromDecode_ok {r : DecodeResult α} {a : α} (h : r = .ok a) :
    (fromDecode r >>= f).run c = (f a).run c := by
  rw [h]
  rfl

/-- A frame that does not decode ends the step with its error. -/
theorem run_fromDecode_error {r : DecodeResult α} {e : DecodeError} (h : r = .error e) :
    (fromDecode r >>= f).run c = .error (.decode e) c := by
  rw [h]
  rfl

/-- With a message that encodes the step goes on. -/
theorem run_fromEncode_ok {r : EncodeResult α} {a : α} (h : r = .ok a) :
    (fromEncode r >>= f).run c = (f a).run c := by
  rw [h]
  rfl

/-- A message that does not encode ends the step with its error. -/
theorem run_fromEncode_error {r : EncodeResult α} {e : EncodeError} (h : r = .error e) :
    (fromEncode r >>= f).run c = .error (.encode e) c := by
  rw [h]
  rfl

theorem run_get {g : ClientConnector → Connecting β} : (get >>= g).run c = (g c).run c :=
  rfl

theorem run_modify {h : ClientConnector → ClientConnector} {g : PUnit → Connecting β} :
    (modify h >>= g).run c = (g ⟨⟩).run (h c) :=
  rfl

theorem run_set {c' : ClientConnector} {g : PUnit → Connecting β} :
    (set c' >>= g).run c = (g ⟨⟩).run c' :=
  rfl

theorem run_pure {b : β} : (pure b : Connecting β).run c = .ok b c := rfl

theorem run_throw {e : CoreError} : (throw e : Connecting β).run c = .error e c := rfl

end Run

/-- A request of a user in the range of user channels is always sent. -/
theorem joinFrame_eq {userId : UInt16} (channelId : UInt16)
    (h : mcsUserchannelBase ≤ userId) :
    joinFrame userId channelId =
      .ok (frameHeader 12 ++ ChannelJoinRequest.bytes { userId, channelId }) := by
  have hemits := ChannelJoinRequest.emits (m := { userId, channelId }) h
  rw [joinFrame, encodeVec_emits hemits (ChannelJoinRequest.coded _).writes, Checked.bind_ok,
    wrapMcs_eq]
  rfl

/-- Two frames are sent at once; the second has no body of its own. -/
theorem erectAndAttach_eq :
    erectAndAttach = .ok
      (frameHeader 12 ++ (ErectDomainRequest.tag :: ErectDomainRequest.body),
        frameHeader 8 ++ [AttachUserRequest.tag]) := by
  rw [erectAndAttach,
    encodeVec_emits (ErectDomainRequest.emits {}) (ErectDomainRequest.coded {}).writes,
    Checked.bind_ok, wrapMcs_eq, Checked.bind_ok,
    encodeVec_emits (AttachUserRequest.emits {}) (AttachUserRequest.coded {}).writes,
    Checked.bind_ok, wrapMcs_eq]
  rfl

/-- The Connect-Initial is sent if it can be encoded. -/
theorem sendConnectInitial_ok {c : ClientConnector} {out : List UInt8}
    (hout : connectInitial c.config = .ok out) :
    sendConnectInitial.run c = .ok [.sendData out] { c with state := .sentConnectInitial } := by
  rw [sendConnectInitial, run_get, run_fromEncode_ok hout]
  rfl

/-- Nothing is changed if the Connect-Initial cannot be encoded. -/
theorem sendConnectInitial_error {c : ClientConnector} {e : EncodeError}
    (hout : connectInitial c.config = .error e) :
    sendConnectInitial.run c = .error (.encode e) c := by
  rw [sendConnectInitial, run_get, run_fromEncode_error hout]

/-- The next channel is asked for. -/
theorem sendChannelJoin_run {c : ClientConnector} {channel : UInt16} {out : List UInt8}
    (hnext : c.joinQueue[c.joinIndex]? = some channel)
    (hout : joinFrame c.userId channel = .ok out) :
    sendChannelJoin.run c = .ok [.sendData out] { c with state := .joiningChannels } := by
  have hchannel : c.joinQueue.getD c.joinIndex 0 = channel := by
    rw [List.getD_eq_getElem?_getD, hnext]
    rfl
  rw [sendChannelJoin, run_get, hchannel, run_fromEncode_ok hout]
  rfl

/-- **Start** ends as its state allows. -/
theorem start_ends (c : ClientConnector) : Ends c .start (start.run c) := by
  rw [start, run_get]
  by_cases hstate : c.state = .initial
  · rw [if_neg (by simp [hstate])]
    cases hout : connectionRequest c.config with
    | error e =>
        rw [run_fromEncode_error rfl]
        exact .failed _
    | ok out =>
        rw [run_fromEncode_ok rfl]
        exact .moved (.started hstate hout)
  · rw [if_pos hstate]
    exact .failed _

/-- **After TLS** the Connect-Initial is sent, if it was waited for. -/
theorem resumeAfterTls_ends (c : ClientConnector) :
    Ends c .resumeAfterTls (resumeAfterTls.run c) := by
  rw [resumeAfterTls, run_get]
  by_cases hstate : c.state = .needTls
  · rw [if_neg (by simp [hstate])]
    cases hout : connectInitial c.config with
    | error e =>
        rw [sendConnectInitial_error hout]
        exact .failed _
    | ok out =>
        rw [sendConnectInitial_ok hout]
        exact .moved (.resumed hstate hout)
  · rw [if_pos hstate]
    exact .failed _

/-- The Connect-Initial that follows a confirm without TLS. -/
theorem plain_ends {c : ClientConnector} {frame : List UInt8} {cc : ConnectionConfirm}
    (hstate : c.state = .sentConnectionRequest)
    (hcc : readConnectionConfirm frame = .ok cc) (hplain : Plain cc) :
    Ends c (.step frame) (sendConnectInitial.run c) := by
  cases hout : connectInitial c.config with
  | error e =>
      rw [sendConnectInitial_error hout]
      exact .failed _
  | ok out =>
      rw [sendConnectInitial_ok hout]
      exact .moved (.plain hstate hcc hplain hout)

/-- **The confirm** of the connection chooses the protocol, or is refused. -/
theorem handleConnectionConfirm_ends {c : ClientConnector} (frame : List UInt8)
    (hinv : c.Inv) (hstate : c.state = .sentConnectionRequest) :
    Ends c (.step frame) ((handleConnectionConfirm frame).run c) := by
  rw [handleConnectionConfirm]
  cases htpkt : decode TpktHeader.decode frame with
  | error e =>
      rw [run_fromDecode_error rfl]
      exact .failed _
  | ok tpkt =>
      rw [run_fromDecode_ok rfl]
      cases hconfirm : decode ConnectionConfirm.decode (frame.drop tpktHeaderLen) with
      | error e =>
          rw [run_fromDecode_error rfl]
          exact .failed _
      | ok cc =>
          rw [run_fromDecode_ok rfl]
          have hcc : readConnectionConfirm frame = .ok cc := by
            rw [readConnectionConfirm, htpkt, Checked.bind_ok, hconfirm]
          obtain ⟨negotiation⟩ := cc
          cases negotiation with
          | none =>
              have hplain : Plain ⟨none⟩ := .inl rfl
              exact plain_ends hstate hcc hplain
          | some n =>
              cases n with
              | failure f =>
                  dsimp only
                  rw [run_throw]
                  exact .failed _
              | response r =>
                  dsimp only
                  rw [run_modify]
                  by_cases hr : r.selectedProtocol = NegoProtocol.rdp
                  · rw [if_neg (by simp [hr])]
                    have hsame : { c with selectedProtocol := r.selectedProtocol } = c := by
                      rw [hr, ← hinv.unselected hstate]
                    have hplain : Plain ⟨some (.response r)⟩ := .inr ⟨r, rfl, hr⟩
                    rw [hsame]
                    exact plain_ends hstate hcc hplain
                  · rw [if_pos hr, run_modify, run_pure]
                    exact .moved (.upgrade hstate hcc hr)

/-- **The Connect-Response** has the channels, or is refused. -/
theorem handleConnectResponse_ends {c : ClientConnector} (frame : List UInt8)
    (hstate : c.state = .sentConnectInitial) :
    Ends c (.step frame) ((handleConnectResponse frame).run c) := by
  rw [handleConnectResponse]
  cases hpayload : mcsPayload frame with
  | error e =>
      rw [run_fromDecode_error rfl]
      exact .failed _
  | ok payload =>
      rw [run_fromDecode_ok rfl]
      cases hbytes : ConnectResponse.fromBytes payload with
      | error e =>
          rw [run_fromDecode_error rfl]
          exact .failed _
      | ok resp =>
          rw [run_fromDecode_ok rfl]
          have hresp : readConnectResponse frame = .ok resp := by
            rw [readConnectResponse, hpayload, Checked.bind_ok, hbytes]
          by_cases hok : resp.result = 0
          · rw [if_neg (by simp [hok]), run_modify]
            rw [run_fromEncode_ok erectAndAttach_eq, run_modify, run_pure]
            exact .moved (.responded hstate hresp hok erectAndAttach_eq)
          · rw [if_pos hok]
            exact .failed _

/-- **The Attach-User-Confirm** has the user's id, or is refused. -/
theorem handleAttachUserConfirm_ends {c : ClientConnector} (frame : List UInt8)
    (hstate : c.state = .sentErectAttach) :
    Ends c (.step frame) ((handleAttachUserConfirm frame).run c) := by
  rw [handleAttachUserConfirm]
  cases hpayload : mcsPayload frame with
  | error e =>
      rw [run_fromDecode_error rfl]
      exact .failed _
  | ok payload =>
      rw [run_fromDecode_ok rfl]
      cases hbytes : decode AttachUserConfirm.decode payload with
      | error e =>
          rw [run_fromDecode_error rfl]
          exact .failed _
      | ok confirm =>
          rw [run_fromDecode_ok rfl]
          have hconfirm : readAttachConfirm frame = .ok confirm := by
            rw [readAttachConfirm, hpayload, Checked.bind_ok, hbytes]
          by_cases hok : confirm.result = 0
          · have huser := AttachUserConfirm.decode_userId hbytes
            have hout := joinFrame_eq confirm.userId huser
            rw [if_neg (by simp [hok]), run_modify]
            have hrun := sendChannelJoin_run
              (c := { c with
                userId := confirm.userId
                joinQueue := confirm.userId :: c.ioChannel :: c.joinQueue
                joinIndex := 0 })
              rfl hout
            rw [hrun]
            exact .moved (.attached hstate hconfirm hok huser hout)
          · rw [if_pos hok]
            exact .failed _

/-- **A Channel-Join-Confirm** is counted, or is refused; the last one makes the connection. -/
theorem handleChannelJoinConfirm_ends {c : ClientConnector} (frame : List UInt8)
    (hinv : c.Inv) (hstate : c.state = .joiningChannels) :
    Ends c (.step frame) ((handleChannelJoinConfirm frame).run c) := by
  rw [handleChannelJoinConfirm]
  cases hpayload : mcsPayload frame with
  | error e =>
      rw [run_fromDecode_error rfl]
      exact .failed _
  | ok payload =>
      rw [run_fromDecode_ok rfl]
      cases hbytes : decode ChannelJoinConfirm.decode payload with
      | error e =>
          rw [run_fromDecode_error rfl]
          exact .failed _
      | ok confirm =>
          rw [run_fromDecode_ok rfl]
          have hconfirm : readJoinConfirm frame = .ok confirm := by
            rw [readJoinConfirm, hpayload, Checked.bind_ok, hbytes]
          by_cases hok : confirm.result = 0
          · rw [if_neg (by simp [hok]), run_modify, run_get]
            by_cases hmore : c.joinIndex + 1 < c.joinQueue.length
            · rw [if_pos hmore]
              have hnext := List.getElem?_eq_getElem hmore
              have hout := joinFrame_eq c.joinQueue[c.joinIndex + 1] (hinv.user hstate)
              have hrun := sendChannelJoin_run
                (c := { c with joinIndex := c.joinIndex + 1 }) hnext hout
              have hsame : ({ c with joinIndex := c.joinIndex + 1, state := .joiningChannels } :
                  ClientConnector) = { c with joinIndex := c.joinIndex + 1 } := by
                rw [← hstate]
              rw [hrun, hsame]
              exact .moved (.joined hstate hconfirm hok hnext hout)
            · rw [if_neg hmore, run_set, run_pure]
              exact .moved (.finished hstate hconfirm hok (Nat.le_of_not_lt hmore))
          · rw [if_pos hok]
            exact .failed _

/-- **A call makes one of the moves, or fails and leaves the connector as it was.** -/
theorem call_ends {c : ClientConnector} (hinv : c.Inv) (i : Call) :
    Ends c i ((call i).run c) := by
  cases i with
  | start => exact start_ends c
  | resumeAfterTls => exact resumeAfterTls_ends c
  | step frame =>
      rw [call, step, run_get]
      cases hstate : c.state with
      | sentConnectionRequest => exact handleConnectionConfirm_ends frame hinv hstate
      | sentConnectInitial => exact handleConnectResponse_ends frame hstate
      | sentErectAttach => exact handleAttachUserConfirm_ends frame hstate
      | joiningChannels => exact handleChannelJoinConfirm_ends frame hinv hstate
      | initial => exact .failed _
      | needTls => exact .failed _
      | connected => exact .failed _

end ClientConnector

end Oxrdp
