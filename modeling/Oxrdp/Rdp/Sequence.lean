import Oxrdp.Rdp.History
import Mathlib.Data.List.Forall2

/-!
# The channel joins

What the connector asks for and what it is told while channels are joined, read off the
bytes it sends and the frames it accepts.  The requests follow one another in the order
user channel, I/O channel, virtual channels, each behind the confirm of the one before.

The connector looks at the result of a confirm and not at the channels it names, so that
`connected` only means what it should when every confirm names the channel last asked
for.
-/

namespace Oxrdp

open Coder

namespace ClientConnector

/-! ## Requests on the wire -/

/-- The channel that an output asks to join, if it is a request to join one. -/
def joinRequest : CoreOutput → Option UInt16
  | .sendData bytes => do
      let payload ← (mcsPayload bytes).toOption
      let req ← (decode ChannelJoinRequest.decode payload).toOption
      pure req.channelId
  | _ => none

/-- The frame that asks for a channel is read as that request. -/
theorem joinRequest_joinFrame {userId channelId : UInt16} {out : List UInt8}
    (huser : mcsUserchannelBase ≤ userId) (h : joinFrame userId channelId = .ok out) :
    joinRequest (.sendData out) = some channelId := by
  rw [joinFrame_eq channelId huser] at h
  cases h
  have hfit : (ChannelJoinRequest.bytes { userId, channelId }).length + 7 < 2 ^ 16 := by
    simp [ChannelJoinRequest.bytes]
  have hpayload := mcsPayload_frame hfit
  have hlen : 7 + (ChannelJoinRequest.bytes { userId, channelId }).length = 12 := by
    simp [ChannelJoinRequest.bytes]
  rw [hlen] at hpayload
  rw [joinRequest, hpayload, Except.toOption, Option.bind_eq_bind, Option.bind_some,
    ChannelJoinRequest.decode_bytes huser]
  rfl

/-- A payload with another tag is not a request, wherever its frame is cut. -/
theorem joinRequest_tagged {total : Nat} {b : UInt8} {rest : List UInt8}
    (hb : b ≠ ChannelJoinRequest.tag) :
    joinRequest (.sendData (frameHeader total ++ b :: rest)) = none := by
  cases hpayload : mcsPayload (frameHeader total ++ b :: rest) with
  | error e =>
      rw [joinRequest, hpayload]
      rfl
  | ok found =>
      rw [joinRequest, hpayload]
      cases hdec : decode ChannelJoinRequest.decode found with
      | error e =>
          change ((decode ChannelJoinRequest.decode found).toOption >>= _) = none
          rw [hdec]
          rfl
      | ok req =>
          exfalso
          have hhead := ChannelJoinRequest.decode_head hdec
          obtain ⟨tail, htail⟩ := mcsPayload_prefix hpayload
          cases found with
          | nil => cases hhead
          | cons x xs =>
              have hx : x = b := (List.cons.inj htail).1
              rw [List.head?_cons, hx] at hhead
              exact hb (Option.some.inj hhead)

/-- A Connect-Initial asks for no channel. -/
theorem joinRequest_connectInitial {config : ConnectorConfig} {out : List UInt8}
    (h : connectInitial config = .ok out) : joinRequest (.sendData out) = none := by
  rw [connectInitial] at h
  generalize ({ core := config.core, security := config.security, network := config.network } :
    ConnectInitial) = ci at h
  cases hbytes : ci.toBytes with
  | error e =>
      rw [hbytes] at h
      cases h
  | ok bytes =>
      rw [hbytes, Checked.bind_ok, wrapMcs_eq] at h
      cases h
      obtain ⟨ud, hud⟩ := ConnectInitial.toBytes_ok hbytes
      rw [ConnectInitial.toBytes_eq hud] at hbytes
      cases hbytes
      exact joinRequest_tagged (by decide)

/-- Neither does a connection request. -/
theorem joinRequest_connectionRequest {config : ConnectorConfig} {out : List UInt8}
    (h : connectionRequest config = .ok out) : joinRequest (.sendData out) = none := by
  rw [connectionRequest] at h
  dsimp only at h
  generalize ({
    cookie := config.cookie
    negotiation := some { flags := 0, requestedProtocols := config.requestedProtocols } } :
    ConnectionRequest) = cr at h
  cases hx224 : encodeVec cr.size cr.encode with
  | error e =>
      rw [hx224] at h
      cases h
  | ok x224 =>
      rw [hx224, Checked.bind_ok, encodeVec_emits (TpktHeader.emits _) (TpktHeader.writes _),
        Checked.bind_ok] at h
      cases h
      have hsecond := ConnectionRequest.encodeVec_second hx224
      cases hpayload : mcsPayload ([3, 0] ++
          beBytes 2 (UInt16.ofNat (tpktHeaderLen + x224.length)).toNat ++ x224) with
      | error e =>
          rw [joinRequest, hpayload]
          rfl
      | ok found =>
          obtain ⟨-, -, -, -, header, hheader⟩ := mcsPayload_eq hpayload
          have hdata := X224DataHeader.decode_second hheader
          change x224[1]? = _ at hdata
          rw [hsecond] at hdata
          cases hdata

/-- Neither do the two frames that erect the domain and attach the user. -/
theorem joinRequest_erectAndAttach {erect attach : List UInt8}
    (h : erectAndAttach = .ok (erect, attach)) :
    joinRequest (.sendData erect) = none ∧ joinRequest (.sendData attach) = none := by
  rw [erectAndAttach_eq] at h
  cases h
  exact ⟨joinRequest_tagged (by decide), joinRequest_tagged (by decide)⟩

/-- The channel that was asked for last. -/
def pending (c : ClientConnector) : Option UInt16 := c.joinQueue[c.joinIndex]?

/-- A move asks for the channel that is pending after it, if it goes on joining. -/
theorem Moves.joins {c c' : ClientConnector} {i : Call} {out : List CoreOutput}
    (h : Moves c i out c') (hinv : c.Inv) :
    out.filterMap joinRequest =
      if c'.state = .joiningChannels then c'.pending.toList else [] := by
  cases h with
  | started hstate hout =>
      rw [List.filterMap_cons_none (joinRequest_connectionRequest hout)]
      rfl
  | upgrade => rfl
  | plain hstate hcc hplain hout =>
      rw [List.filterMap_cons_none (joinRequest_connectInitial hout)]
      rfl
  | resumed hstate hout =>
      rw [List.filterMap_cons_none (joinRequest_connectInitial hout)]
      rfl
  | responded hstate hresp hok hout =>
      obtain ⟨herect, hattach⟩ := joinRequest_erectAndAttach hout
      rw [List.filterMap_cons_none herect, List.filterMap_cons_none hattach]
      rfl
  | attached hstate hconfirm hok huser hout =>
      rw [List.filterMap_cons_some (joinRequest_joinFrame huser hout)]
      rfl
  | joined hstate hconfirm hok hnext hout =>
      rw [List.filterMap_cons_some (joinRequest_joinFrame (hinv.user hstate) hout),
        if_pos hstate]
      change [_] = (c.joinQueue[c.joinIndex + 1]?).toList
      rw [hnext]
      rfl
  | finished => rfl

/-! ## Logs -/

/-- The channels that a turn asked to join. -/
def Turn.joins (t : Turn) : List UInt16 := t.outputs.filterMap joinRequest

/-- The channels that were asked for, in order. -/
def joins (turns : List Turn) : List UInt16 := turns.flatMap Turn.joins

/-- The confirms that were accepted while channels were joined. -/
def confirms (turns : List Turn) : List ChannelJoinConfirm := turns.filterMap Turn.joinConfirm

/-- The channels there are to join: the user channel of the Attach User Confirm, the I/O
channel and the virtual channels of the Connect-Response. -/
def channels (turns : List Turn) : List UInt16 :=
  match turns.findSome? Turn.attach, turns.findSome? Turn.response with
  | some confirm, some resp =>
      confirm.userId :: responseIoChannel resp :: responseChannels resp
  | _, _ => []

/-- A successful confirm of a channel. -/
def Confirms (confirm : ChannelJoinConfirm) (channel : UInt16) : Prop :=
  confirm.result = 0 ∧ confirm.requestedChannelId = channel ∧ confirm.channelId = channel

/-- A confirm that the turn accepted names the channel that was asked for last. -/
def Turn.Named (t : Turn) : Prop :=
  ∀ confirm ∈ t.joinConfirm, t.before.pending = some confirm.requestedChannelId ∧
    t.before.pending = some confirm.channelId

/-- The channels that were asked for, one turn later. -/
theorem joins_snoc (turns : List Turn) (t : Turn) :
    joins (turns ++ [t]) = joins turns ++ t.joins := by
  rw [joins, joins, List.flatMap_append, List.flatMap_singleton]

/-- The confirms that were read, one turn later. -/
theorem confirms_snoc (turns : List Turn) (t : Turn) :
    confirms (turns ++ [t]) = confirms turns ++ t.joinConfirm.toList := by
  rw [confirms, confirms, List.filterMap_append]
  cases h : t.joinConfirm with
  | none => rw [List.filterMap_cons_none h]; rfl
  | some confirm => rw [List.filterMap_cons_some h]; rfl

/-- The first turn with a property is an old one, or else the new one. -/
theorem findSome_snoc {α : Type} (f : Turn → Option α) (turns : List Turn) (t : Turn) :
    (turns ++ [t]).findSome? f = (turns.findSome? f).or (f t) := by
  rw [List.findSome?_append, List.findSome?_cons]
  cases f t with
  | none => rfl
  | some a => rfl

/-- What the log of a connector has to do with its state. -/
structure Logged (turns : List Turn) (c : ClientConnector) : Prop where
  inv : c.Inv
  unanswered : c.state.rank ≤ 3 → turns.findSome? Turn.response = none
  answered : c.state = .sentErectAttach → ∃ resp, turns.findSome? Turn.response = some resp ∧
    c.ioChannel = responseIoChannel resp ∧ c.joinQueue = responseChannels resp
  unattached : c.state.rank ≤ 4 → turns.findSome? Turn.attach = none ∧ joins turns = [] ∧
    confirms turns = []
  queue : 5 ≤ c.state.rank → channels turns = c.joinQueue
  requested : 5 ≤ c.state.rank → joins turns = c.joinQueue.take (c.joinIndex + 1)
  counted : 5 ≤ c.state.rank → (confirms turns).length = c.joinIndex
  finished : c.state = .connected → c.joinIndex = c.joinQueue.length
  named : (∀ t ∈ turns, t.Named) → 5 ≤ c.state.rank →
    List.Forall₂ Confirms (confirms turns) (c.joinQueue.take c.joinIndex)

/-- A new connector has a log without turns. -/
theorem logged_new (config : ConnectorConfig) : Logged [] (new config) where
  inv := new_inv config
  unanswered _ := rfl
  answered h := by cases h
  unattached _ := ⟨rfl, rfl, rfl⟩
  queue h := absurd h (by simp [new, ConnectorState.rank])
  requested h := absurd h (by simp [new, ConnectorState.rank])
  counted h := absurd h (by simp [new, ConnectorState.rank])
  finished h := by cases h
  named _ h := absurd h (by simp [new, ConnectorState.rank])

/-- A turn that says nothing about channels, before there are any or without a change. -/
theorem Logged.silent {turns : List Turn} {c c' : ClientConnector} {t : Turn} (h : Logged turns c)
    (hinv : c'.Inv) (hresponse : t.response = none) (hattach : t.attach = none)
    (hconfirm : t.joinConfirm = none) (hjoin : t.joins = [])
    (hstate : c' = c ∨ c.state.rank ≤ 3 ∧ c'.state.rank ≤ 3) : Logged (turns ++ [t]) c' := by
  have hjoins : joins (turns ++ [t]) = joins turns := by
    rw [joins_snoc, hjoin, List.append_nil]
  have hconfirms : confirms (turns ++ [t]) = confirms turns := by
    rw [confirms_snoc, hconfirm]
    exact List.append_nil _
  have hresponses : (turns ++ [t]).findSome? Turn.response = turns.findSome? Turn.response := by
    rw [findSome_snoc, hresponse, Option.or_none]
  have hattaches : (turns ++ [t]).findSome? Turn.attach = turns.findSome? Turn.attach := by
    rw [findSome_snoc, hattach, Option.or_none]
  have hchannels : channels (turns ++ [t]) = channels turns := by
    rw [channels, hresponses, hattaches]
    rfl
  rcases hstate with rfl | ⟨hlow, hlow'⟩
  · refine ⟨hinv, ?_, ?_, ?_, ?_, ?_, ?_, h.finished, ?_⟩
    · rw [hresponses]
      exact h.unanswered
    · rw [hresponses]
      exact h.answered
    · rw [hattaches, hjoins, hconfirms]
      exact h.unattached
    · rw [hchannels]
      exact h.queue
    · rw [hjoins]
      exact h.requested
    · rw [hconfirms]
      exact h.counted
    · rw [hconfirms]
      intro hnamed
      exact h.named fun t ht => hnamed t (List.mem_append_left _ ht)
  · have hnot : ¬ 5 ≤ c'.state.rank := by omega
    refine ⟨hinv, ?_, ?_, ?_, ?_, ?_, ?_, ?_, ?_⟩
    · intro _
      rw [hresponses]
      exact h.unanswered hlow
    · intro herect
      rw [herect] at hlow'
      exact absurd hlow' (by decide)
    · intro _
      rw [hattaches, hjoins, hconfirms]
      exact h.unattached (by omega)
    · exact fun h => absurd h hnot
    · exact fun h => absurd h hnot
    · exact fun h => absurd h hnot
    · intro hdone
      rw [hdone] at hlow'
      exact absurd hlow' (by decide)
    · exact fun _ h => absurd h hnot

/-- The requests of a turn that moved. -/
theorem Moves.turn_joins {c c' : ClientConnector} {i : Call} {out : List CoreOutput}
    (h : Moves c i out c') (hinv : c.Inv) :
    (⟨c, i, .ok out, c'⟩ : Turn).joins =
      if c'.state = .joiningChannels then c'.pending.toList else [] :=
  h.joins hinv

/-- The confirm of a turn while channels are joined: one more confirm, and one more
request if there is one to make. -/
theorem Logged.confirmed {turns : List Turn} {c c' : ClientConnector} {frame : List UInt8}
    {out : List CoreOutput} {confirm : ChannelJoinConfirm} (h : Logged turns c)
    (hmove : Moves c (.step frame) out c') (hstate : c.state = .joiningChannels)
    (hconfirm : readJoinConfirm frame = .ok confirm) (hok : confirm.result = 0)
    (hqueue : c'.joinQueue = c.joinQueue) (hindex : c'.joinIndex = c.joinIndex + 1)
    (hnext : c'.state = .joiningChannels ∨
      c'.state = .connected ∧ c.joinQueue.length ≤ c.joinIndex + 1) :
    Logged (turns ++ [⟨c, .step frame, .ok out, c'⟩]) c' := by
  have hne : ∀ s, s ≠ ConnectorState.joiningChannels → c.state ≠ s := by
    intro s hs heq
    exact hs (heq.symm.trans hstate)
  have hresponse : (⟨c, .step frame, .ok out, c'⟩ : Turn).response = none :=
    accepted_other (hne _ nofun)
  have hattach : (⟨c, .step frame, .ok out, c'⟩ : Turn).attach = none :=
    accepted_other (hne _ nofun)
  have hjoinConfirm : (⟨c, .step frame, .ok out, c'⟩ : Turn).joinConfirm = some confirm :=
    accepted_step hstate hconfirm
  have hrank : 5 ≤ c.state.rank := by
    rw [hstate]
    decide
  have hrank' : 5 ≤ c'.state.rank := by
    rcases hnext with hjoining | ⟨hdone, -⟩
    · rw [hjoining]
      decide
    · rw [hdone]
      decide
  have hlt := h.inv.pending hstate
  have htake : c.joinQueue.take (c.joinIndex + 1) =
      c.joinQueue.take c.joinIndex ++ c.pending.toList := by
    rw [List.take_add_one]
    rfl
  have hjoins : joins (turns ++ [⟨c, .step frame, .ok out, c'⟩]) =
      c'.joinQueue.take (c'.joinIndex + 1) := by
    rw [joins_snoc, h.requested hrank, hmove.turn_joins h.inv, hqueue, hindex]
    rcases hnext with hjoining | ⟨hdone, hlast⟩
    · rw [if_pos hjoining, pending, hqueue, hindex]
      exact (List.take_add_one ..).symm
    · rw [if_neg (by simp [hdone]), List.append_nil, List.take_of_length_le hlast,
        List.take_of_length_le (by omega)]
  refine ⟨hmove.inv h.inv, ?_, ?_, ?_, ?_, ?_, ?_, ?_, ?_⟩
  · exact fun hlow => absurd hlow (by omega)
  · intro herect
    rw [herect] at hrank'
    exact absurd hrank' (by decide)
  · exact fun hlow => absurd hlow (by omega)
  · intro _
    rw [hqueue, ← h.queue hrank, channels, findSome_snoc, findSome_snoc, hresponse, hattach,
      Option.or_none, Option.or_none]
    rfl
  · exact fun _ => hjoins
  · intro _
    rw [confirms_snoc, hjoinConfirm, List.length_append, h.counted hrank, hindex]
    rfl
  · intro hdone
    rcases hnext with hjoining | ⟨-, hlast⟩
    · rw [hjoining] at hdone
      cases hdone
    · rw [hqueue, hindex]
      omega
  · intro hnamed _
    have hbefore := h.named (fun t ht => hnamed t (List.mem_append_left _ ht)) hrank
    have hthis := hnamed _ (List.mem_append_right _ (List.mem_singleton_self _)) confirm
      hjoinConfirm
    obtain ⟨hrequested, hchannel⟩ : c.pending = some confirm.requestedChannelId ∧
      c.pending = some confirm.channelId := hthis
    have hsame : confirm.channelId = confirm.requestedChannelId :=
      Option.some.inj (hchannel.symm.trans hrequested)
    rw [confirms_snoc, hjoinConfirm, hqueue, hindex, htake, hrequested]
    exact List.rel_append hbefore (.cons ⟨hok, rfl, hsame⟩ .nil)

/-- A move before the Connect-Response. -/
theorem Logged.early {turns : List Turn} {c c' : ClientConnector} {i : Call}
    {out : List CoreOutput} (h : Logged turns c) (hmove : Moves c i out c')
    (hlow : c.state.rank ≤ 2) (hlow' : c'.state.rank ≤ 3) :
    Logged (turns ++ [⟨c, i, .ok out, c'⟩]) c' := by
  have hother : ∀ s : ConnectorState, 2 < s.rank → c.state ≠ s := by
    intro s hs heq
    rw [heq] at hlow
    omega
  have hjoin := hmove.turn_joins h.inv
  rw [if_neg (by intro heq; rw [heq] at hlow'; exact absurd hlow' (by decide))] at hjoin
  exact h.silent (hmove.inv h.inv) (accepted_other (hother _ (by decide)))
    (accepted_other (hother _ (by decide))) (accepted_other (hother _ (by decide))) hjoin
    (.inr ⟨by omega, hlow'⟩)

/-- The Connect-Response says which channels there are. -/
theorem Logged.responded {turns : List Turn} {c c' : ClientConnector} {frame : List UInt8}
    {out : List CoreOutput} {resp : ConnectResponse} (h : Logged turns c)
    (hmove : Moves c (.step frame) out c') (hstate : c.state = .sentConnectInitial)
    (hresp : readConnectResponse frame = .ok resp) (hio : c'.ioChannel = responseIoChannel resp)
    (hqueue : c'.joinQueue = responseChannels resp) (hstate' : c'.state = .sentErectAttach) :
    Logged (turns ++ [⟨c, .step frame, .ok out, c'⟩]) c' := by
  have hresponse : (⟨c, .step frame, .ok out, c'⟩ : Turn).response = some resp :=
    accepted_step hstate hresp
  have hattach : (⟨c, .step frame, .ok out, c'⟩ : Turn).attach = none :=
    accepted_other (by simp [hstate])
  have hconfirm : (⟨c, .step frame, .ok out, c'⟩ : Turn).joinConfirm = none :=
    accepted_other (by simp [hstate])
  have hjoin := hmove.turn_joins h.inv
  rw [if_neg (by simp [hstate'])] at hjoin
  have hrank : c.state.rank = 3 := by
    rw [hstate]
    rfl
  have hrank' : c'.state.rank = 4 := by
    rw [hstate']
    rfl
  have hnot : ¬ 5 ≤ c'.state.rank := by omega
  obtain ⟨hnoattach, hnojoins, hnoconfirms⟩ := h.unattached (by omega)
  refine ⟨hmove.inv h.inv, ?_, ?_, ?_, ?_, ?_, ?_, ?_, ?_⟩
  · exact fun hlow => absurd hlow (by omega)
  · intro _
    refine ⟨resp, ?_, hio, hqueue⟩
    rw [findSome_snoc, h.unanswered (by omega), hresponse]
    rfl
  · intro _
    rw [findSome_snoc, hnoattach, hattach, joins_snoc, hnojoins, hjoin, confirms_snoc,
      hnoconfirms, hconfirm]
    exact ⟨rfl, rfl, rfl⟩
  · exact fun h => absurd h hnot
  · exact fun h => absurd h hnot
  · exact fun h => absurd h hnot
  · intro hdone
    rw [hstate'] at hdone
    cases hdone
  · exact fun _ h => absurd h hnot

/-- The Attach User Confirm starts the joining with the user channel. -/
theorem Logged.attached {turns : List Turn} {c c' : ClientConnector} {frame : List UInt8}
    {out : List CoreOutput} {confirm : AttachUserConfirm} (h : Logged turns c)
    (hmove : Moves c (.step frame) out c') (hstate : c.state = .sentErectAttach)
    (hconfirm : readAttachConfirm frame = .ok confirm)
    (hqueue : c'.joinQueue = confirm.userId :: c.ioChannel :: c.joinQueue)
    (hindex : c'.joinIndex = 0) (hstate' : c'.state = .joiningChannels) :
    Logged (turns ++ [⟨c, .step frame, .ok out, c'⟩]) c' := by
  have hresponse : (⟨c, .step frame, .ok out, c'⟩ : Turn).response = none :=
    accepted_other (by simp [hstate])
  have hattach : (⟨c, .step frame, .ok out, c'⟩ : Turn).attach = some confirm :=
    accepted_step hstate hconfirm
  have hjoinConfirm : (⟨c, .step frame, .ok out, c'⟩ : Turn).joinConfirm = none :=
    accepted_other (by simp [hstate])
  have hjoin := hmove.turn_joins h.inv
  have hrank : c.state.rank = 4 := by
    rw [hstate]
    rfl
  have hrank' : c'.state.rank = 5 := by
    rw [hstate']
    rfl
  obtain ⟨resp, hfound, hio, hchannels⟩ := h.answered hstate
  obtain ⟨hnoattach, hnojoins, hnoconfirms⟩ := h.unattached (by omega)
  have hconfirms : confirms (turns ++ [⟨c, .step frame, .ok out, c'⟩]) = [] := by
    rw [confirms_snoc, hnoconfirms, hjoinConfirm]
    rfl
  refine ⟨hmove.inv h.inv, ?_, ?_, ?_, ?_, ?_, ?_, ?_, ?_⟩
  · exact fun hlow => absurd hlow (by omega)
  · intro herect
    rw [hstate'] at herect
    cases herect
  · exact fun hlow => absurd hlow (by omega)
  · intro _
    rw [channels, findSome_snoc, findSome_snoc, hnoattach, hattach, hfound, hresponse, hqueue, hio,
      hchannels]
    rfl
  · intro _
    rw [joins_snoc, hnojoins, hjoin, if_pos hstate', pending, hqueue, hindex]
    rfl
  · intro _
    rw [hconfirms, hindex]
    rfl
  · intro hdone
    rw [hstate'] at hdone
    cases hdone
  · intro _ _
    rw [hconfirms, hindex]
    exact .nil

/-- The log says where the connector is, and a turn keeps it so. -/
theorem Logged.turn {turns : List Turn} {c : ClientConnector} (h : Logged turns c) (i : Call) :
    Logged (turns ++ [turn c i]) (turn c i).after := by
  rcases turn_cases h.inv i with ⟨out, c', hmove, hturn⟩ | ⟨e, hturn⟩
  · rw [hturn]
    have hthis := hmove
    cases hmove with
    | started hstate =>
        exact h.early hthis (by simp [hstate, ConnectorState.rank]) (by simp [ConnectorState.rank])
    | upgrade hstate =>
        exact h.early hthis (by simp [hstate, ConnectorState.rank]) (by simp [ConnectorState.rank])
    | plain hstate =>
        exact h.early hthis (by simp [hstate, ConnectorState.rank]) (by simp [ConnectorState.rank])
    | resumed hstate =>
        exact h.early hthis (by simp [hstate, ConnectorState.rank]) (by simp [ConnectorState.rank])
    | responded hstate hresp => exact h.responded hthis hstate hresp rfl rfl rfl
    | attached hstate hconfirm => exact h.attached hthis hstate hconfirm rfl rfl rfl
    | joined hstate hconfirm hok =>
        exact h.confirmed hthis hstate hconfirm hok rfl rfl (.inl hstate)
    | finished hstate hconfirm hok hlast =>
        exact h.confirmed hthis hstate hconfirm hok rfl rfl (.inr ⟨rfl, hlast⟩)
  · rw [hturn]
    exact h.silent h.inv (accepted_error ..) (accepted_error ..) (accepted_error ..) rfl (.inl rfl)

/-- **Every history** is logged in the state of the connector. -/
theorem logged_history (config : ConnectorConfig) (calls : List Call) :
    Logged (history (new config) calls) (final (new config) calls) := by
  induction calls using List.reverseRecOn with
  | nil => exact logged_new config
  | append_singleton calls i ih =>
      rw [history_snoc, final_snoc]
      exact ih.turn i

/-! ## The sequence -/

/-- What every history of the connector keeps to. -/
structure Orderly (turns : List Turn) : Prop where
  forward : ∀ t ∈ turns, t.before.state.rank ≤ t.after.state.rank
  unchanged : ∀ t ∈ turns, ∀ e, t.result = .error e → t.after = t.before
  /-- The requests are the first of the channels there are. -/
  order : joins turns <+: channels turns
  /-- A request is alone, and all those before it are confirmed. -/
  oneByOne : ∀ before t after, turns = before ++ t :: after → t.joins ≠ [] →
    t.joins.length = 1 ∧ (joins before).length = (confirms (before ++ [t])).length
  /-- At the end every channel was asked for. -/
  complete : ∀ before t after, turns = before ++ t :: after →
    ∀ p u io, .connected p u io ∈ t.outputs → joins before = channels before

/-- At the end every channel is confirmed by a confirm that names it. -/
def Confirmed (turns : List Turn) : Prop :=
  ∀ before t after, turns = before ++ t :: after →
    ∀ p u io, .connected p u io ∈ t.outputs →
      List.Forall₂ Confirms (confirms (before ++ [t])) (channels before)

/-- Only the last confirm is answered by `connected`. -/
theorem Moves.of_connected {c c' : ClientConnector} {i : Call} {out : List CoreOutput}
    {p : UInt32} {u io : UInt16} (h : Moves c i out c') (hmem : .connected p u io ∈ out) :
    c.state = .joiningChannels ∧ c.joinQueue.length ≤ c.joinIndex + 1 ∧
      c'.state = .connected ∧ c'.joinQueue = c.joinQueue := by
  cases h with
  | finished hstate hconfirm hok hlast => exact ⟨hstate, hlast, rfl, rfl⟩
  | started => simp at hmem
  | upgrade => simp at hmem
  | plain => simp at hmem
  | resumed => simp at hmem
  | responded => simp at hmem
  | attached => simp at hmem
  | joined => simp at hmem

/-- The turn that reports the connection confirms the last channel. -/
theorem turn_of_connected {c : ClientConnector} (hinv : c.Inv) {i : Call} {p : UInt32}
    {u io : UInt16} (hmem : .connected p u io ∈ (turn c i).outputs) :
    c.state = .joiningChannels ∧ c.joinQueue.length ≤ c.joinIndex + 1 ∧
      (turn c i).after.state = .connected ∧ (turn c i).after.joinQueue = c.joinQueue := by
  rcases turn_cases hinv i with ⟨out, c', hmove, hturn⟩ | ⟨e, hturn⟩
  · rw [hturn] at hmem ⊢
    exact hmove.of_connected hmem
  · rw [hturn] at hmem
    cases hmem

/-- A turn that asks for a channel asks for the one that is pending then. -/
theorem turn_joins {c : ClientConnector} (hinv : c.Inv) {i : Call} (hne : (turn c i).joins ≠ []) :
    (turn c i).after.state = .joiningChannels ∧ (turn c i).joins.length = 1 := by
  rcases turn_cases hinv i with ⟨out, c', hmove, hturn⟩ | ⟨e, hturn⟩
  · rw [hturn] at hne ⊢
    rw [hmove.turn_joins hinv] at hne ⊢
    by_cases hstate : c'.state = .joiningChannels
    · rw [if_pos hstate] at hne ⊢
      refine ⟨hstate, ?_⟩
      cases hpending : c'.pending with
      | none =>
          rw [hpending] at hne
          exact absurd rfl hne
      | some channel => rfl
    · rw [if_neg hstate] at hne
      exact absurd rfl hne
  · rw [hturn] at hne
    exact absurd rfl hne

/-- **Every history** is orderly. -/
theorem orderly_history (config : ConnectorConfig) (calls : List Call) :
    Orderly (history (new config) calls) := by
  have hcut : ∀ before t after, history (new config) calls = before ++ t :: after →
      ∃ first i, history (new config) first = before ∧ t = turn (final (new config) first) i := by
    intro before t after heq
    obtain ⟨first, i, -, -, hbefore, ht⟩ := history_split heq
    exact ⟨first, i, hbefore, ht⟩
  have hmem : ∀ t ∈ history (new config) calls, ∃ first i,
      t = turn (final (new config) first) i := by
    intro t ht
    obtain ⟨before, after, heq⟩ := List.append_of_mem ht
    obtain ⟨first, i, -, ht⟩ := hcut before t after heq
    exact ⟨first, i, ht⟩
  refine ⟨?_, ?_, ?_, ?_, ?_⟩
  · intro t ht
    obtain ⟨first, i, rfl⟩ := hmem t ht
    rw [turn_before]
    exact turn_forward (final_inv (new_inv config) first) i
  · intro t ht e he
    obtain ⟨first, i, rfl⟩ := hmem t ht
    rw [turn_before]
    exact turn_unchanged (final_inv (new_inv config) first) he
  · have hlog := logged_history config calls
    by_cases hrank : 5 ≤ (final (new config) calls).state.rank
    · rw [hlog.requested hrank, hlog.queue hrank]
      exact List.take_prefix ..
    · rw [(hlog.unattached (by omega)).2.1]
      exact List.nil_prefix
  · intro before t after heq hne
    obtain ⟨first, i, rfl, rfl⟩ := hcut before t after heq
    have hlog := logged_history config (first ++ [i])
    rw [history_snoc, final_snoc] at hlog
    obtain ⟨hstate, hone⟩ := turn_joins (final_inv (new_inv config) first) hne
    have hrank : 5 ≤ (turn (final (new config) first) i).after.state.rank := by
      rw [hstate]
      decide
    have hpending := hlog.inv.pending hstate
    have hjoins := congrArg List.length (hlog.requested hrank)
    rw [joins_snoc, List.length_append, hone, List.length_take] at hjoins
    have hcount := hlog.counted hrank
    exact ⟨hone, by omega⟩
  · intro before t after heq p u io hconnected
    obtain ⟨first, i, rfl, rfl⟩ := hcut before t after heq
    have hlog := logged_history config first
    obtain ⟨hstate, hlast, -, -⟩ :=
      turn_of_connected (final_inv (new_inv config) first) hconnected
    have hrank : 5 ≤ (final (new config) first).state.rank := by
      rw [hstate]
      decide
    rw [hlog.requested hrank, hlog.queue hrank]
    exact List.take_of_length_le hlast

/-- **A history whose confirms name their channels** confirms each that was asked for. -/
theorem confirmed_history (config : ConnectorConfig) (calls : List Call)
    (hnamed : ∀ t ∈ history (new config) calls, t.Named) :
    Confirmed (history (new config) calls) := by
  intro before t after heq p u io hconnected
  obtain ⟨first, i, -, -, rfl, rfl⟩ := history_split heq
  have hlog := logged_history config first
  have hlog' := logged_history config (first ++ [i])
  rw [history_snoc, final_snoc] at hlog'
  obtain ⟨hstate, -, hdone, hqueue⟩ :=
    turn_of_connected (final_inv (new_inv config) first) hconnected
  have hrank : 5 ≤ (final (new config) first).state.rank := by
    rw [hstate]
    decide
  have hrank' : 5 ≤ (turn (final (new config) first) i).after.state.rank := by
    rw [hdone]
    decide
  have hpart : ∀ t ∈ history (new config) first ++ [turn (final (new config) first) i],
      t.Named := by
    intro t ht
    apply hnamed
    rw [heq]
    rcases List.mem_append.mp ht with hbefore | hlast
    · exact List.mem_append_left _ hbefore
    · rw [List.mem_singleton.mp hlast]
      exact List.mem_append_right _ List.mem_cons_self
  have hall := hlog'.named hpart hrank'
  rw [hlog'.finished hdone, List.take_length, hqueue, ← hlog.queue hrank] at hall
  exact hall

/-- **The sequence of every history, and what `connected` means when every confirm names
the channel last asked for.** -/
theorem history_sequence (config : ConnectorConfig) (calls : List Call) :
    Orderly (history (new config) calls) ∧
      ((∀ t ∈ history (new config) calls, t.Named) →
        Confirmed (history (new config) calls)) :=
  ⟨orderly_history config calls, confirmed_history config calls⟩

/-! ## A connection -/

/-- A client that asks for TLS and one virtual channel. -/
def sampleConfig : ConnectorConfig where
  cookie := none
  requestedProtocols := NegoProtocol.ssl
  core := {
    version := 0x00080004
    desktopWidth := 1024
    desktopHeight := 768
    colorDepth := 0xCA01
    sasSequence := 0xAA03
    keyboardLayout := 0x0409
    clientBuild := 2600
    clientName := ⟨List.replicate 32 0, rfl⟩
    keyboardType := 4
    keyboardSubtype := 0
    keyboardFunctionKey := 12
    imeFileName := ⟨List.replicate 64 0, rfl⟩ }
  security := { encryptionMethods := 0, extEncryptionMethods := 0 }
  network := { channels := [⟨⟨[0x72, 0x64, 0x70, 0x64, 0x72, 0, 0, 0], rfl⟩, 0⟩] }

/-- The server selects TLS. -/
def selectsTls : List UInt8 :=
  [0x03, 0x00, 0x00, 0x13, 0x0E, 0xD0, 0, 0, 0, 0, 0, 0x02, 0x00, 0x08, 0x00, 0x01, 0, 0, 0]

/-- The I/O channel 1003 and no virtual channels. -/
def assignsChannels : List UInt8 :=
  frameHeader 51 ++
    [0x7F, 0x66, 0x29, 0x0A, 0x01, 0x00, 0x02, 0x01, 0x00, 0x30, 0x00, 0x04, 0x1F,
      0x00, 0x05, 0x00, 0x14, 0x7C, 0x00, 0x01, 0x16,
      0x2A, 0x14, 0x76, 0x0A, 0x01, 0x01, 0x00, 0x01, 0xC0, 0x00, 0x4D, 0x63, 0x44, 0x6E, 0x08,
      0x03, 0x0C, 0x08, 0x00, 0xEB, 0x03, 0x00, 0x00]

/-- The user channel 1007. -/
def assignsUser : List UInt8 := frameHeader 11 ++ [0x2E, 0x00, 0x00, 0x06]

/-- A successful confirm that names a channel. -/
def confirmsJoin (channel : UInt16) : List UInt8 :=
  frameHeader 15 ++ [0x3E, 0x00, 0x00, 0x06] ++ beBytes 2 channel.toNat ++ beBytes 2 channel.toNat

/-- The calls of a whole connection, with confirms of two channels. -/
def sampleCalls (first second : UInt16) : List Call :=
  [.start, .step selectsTls, .resumeAfterTls, .step assignsChannels, .step assignsUser,
    .step (confirmsJoin first), .step (confirmsJoin second)]

instance (t : Turn) : Decidable t.Named :=
  inferInstanceAs (Decidable (∀ confirm ∈ t.joinConfirm,
    t.before.pending = some confirm.requestedChannelId ∧
      t.before.pending = some confirm.channelId))

/-- The sequence of a server that confirms what it is asked for. -/
theorem history_sequence_sample :
    Confirmed (history (new sampleConfig) (sampleCalls 1007 1003)) :=
  (history_sequence sampleConfig (sampleCalls 1007 1003)).2 (by decide +kernel)

/-- Confirms that name the channels have their ids. -/
theorem names_of_confirms {l : List ChannelJoinConfirm} {l' : List UInt16}
    (h : List.Forall₂ Confirms l l') : l.map ChannelJoinConfirm.channelId = l' := by
  induction h with
  | nil => rfl
  | cons hconfirms _ ih => rw [List.map_cons, ih, hconfirms.2.2]

/-- A server that confirms the channel 1008 instead of 1007 is connected to all the
same. -/
theorem connected_unconfirmed :
    ¬ Confirmed (history (new sampleConfig) (sampleCalls 1008 1003)) := by
  intro h
  have hcut : history (new sampleConfig) (sampleCalls 1008 1003) =
      history (new sampleConfig) (sampleCalls 1008 1003).dropLast ++
        [turn (final (new sampleConfig) (sampleCalls 1008 1003).dropLast)
          (.step (confirmsJoin 1003))] :=
    history_snoc (new sampleConfig) (sampleCalls 1008 1003).dropLast (.step (confirmsJoin 1003))
  have hconnected : .connected 1 1007 1003 ∈
      (turn (final (new sampleConfig) (sampleCalls 1008 1003).dropLast)
        (.step (confirmsJoin 1003))).outputs := by
    decide +kernel
  have hnames := names_of_confirms (h _ _ [] hcut 1 1007 1003 hconnected)
  rw [← hcut] at hnames
  revert hnames
  decide +kernel

end ClientConnector

end Oxrdp
