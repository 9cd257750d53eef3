import Oxrdp.Pdu.DomainParams
import Oxrdp.Pdu.Framing
import Oxrdp.Pdu.Gcc
import Oxrdp.Pdu.Mcs
import Oxrdp.Pdu.Negotiation
import Oxrdp.Pdu.Session

/-!
# The round trip of the RDP PDUs

`codec.rs` over every type that can both be encoded and decoded.  A type's codec is its
three functions; all of them write exactly what they announce.  All but three read back
whatever they write: a Connection Request whose identifier contains its own terminator
comes back cut, a server core block loses a second optional word that has no first in
front of it, and a TPKT header that does not cover itself is refused.
-/

namespace Oxrdp

open Coder

/-- The traits `Encode` and `Decode` of one type. -/
structure Codec (α : Type) where
  size : α → Nat
  encode : α → Encoder Unit
  decode : Decoder α

/-- The types with both traits. -/
inductive PduType where
  | tpktHeader
  | x224DataHeader
  | negotiationRequest
  | negotiationResponse
  | negotiationFailure
  | connectionRequest
  | connectionConfirm
  | domainParameters
  | erectDomainRequest
  | attachUserRequest
  | attachUserConfirm
  | channelJoinRequest
  | channelJoinConfirm
  | sendDataRequest
  | sendDataIndication
  | clientCoreData
  | clientSecurityData
  | clientNetworkData
  | serverCoreData
  | serverNetworkData
  | securityHeader
  | shareControlHeader
  | shareDataHeader
  | synchronizePdu
  | controlPdu
  | fontListPdu
  deriving DecidableEq, Repr

namespace PduType

/-- The values of a type. -/
abbrev Val : PduType → Type
  | tpktHeader => TpktHeader
  | x224DataHeader => X224DataHeader
  | negotiationRequest => NegotiationRequest
  | negotiationResponse => NegotiationResponse
  | negotiationFailure => NegotiationFailure
  | connectionRequest => ConnectionRequest
  | connectionConfirm => ConnectionConfirm
  | domainParameters => DomainParameters
  | erectDomainRequest => ErectDomainRequest
  | attachUserRequest => AttachUserRequest
  | attachUserConfirm => AttachUserConfirm
  | channelJoinRequest => ChannelJoinRequest
  | channelJoinConfirm => ChannelJoinConfirm
  | sendDataRequest => SendDataRequest
  | sendDataIndication => SendDataIndication
  | clientCoreData => ClientCoreData
  | clientSecurityData => ClientSecurityData
  | clientNetworkData => ClientNetworkData
  | serverCoreData => ServerCoreData
  | serverNetworkData => ServerNetworkData
  | securityHeader => SecurityHeader
  | shareControlHeader => ShareControlHeader
  | shareDataHeader => ShareDataHeader
  | synchronizePdu => SynchronizePdu
  | controlPdu => ControlPdu
  | fontListPdu => FontListPdu

/-- The codec of a type. -/
def codec : (t : PduType) → Codec t.Val
  | tpktHeader => ⟨TpktHeader.size, TpktHeader.encode, TpktHeader.decode⟩
  | x224DataHeader => ⟨X224DataHeader.size, X224DataHeader.encode, X224DataHeader.decode⟩
  | negotiationRequest =>
      ⟨NegotiationRequest.size, NegotiationRequest.encode, NegotiationRequest.decode⟩
  | negotiationResponse =>
      ⟨NegotiationResponse.size, NegotiationResponse.encode, NegotiationResponse.decode⟩
  | negotiationFailure =>
      ⟨NegotiationFailure.size, NegotiationFailure.encode, NegotiationFailure.decode⟩
  | connectionRequest =>
      ⟨ConnectionRequest.size, ConnectionRequest.encode, ConnectionRequest.decode⟩
  | connectionConfirm =>
      ⟨ConnectionConfirm.size, ConnectionConfirm.encode, ConnectionConfirm.decode⟩
  | domainParameters =>
      ⟨DomainParameters.size, DomainParameters.encode, DomainParameters.decode⟩
  | erectDomainRequest =>
      ⟨ErectDomainRequest.size, ErectDomainRequest.encode, ErectDomainRequest.decode⟩
  | attachUserRequest =>
      ⟨AttachUserRequest.size, AttachUserRequest.encode, AttachUserRequest.decode⟩
  | attachUserConfirm =>
      ⟨AttachUserConfirm.size, AttachUserConfirm.encode, AttachUserConfirm.decode⟩
  | channelJoinRequest =>
      ⟨ChannelJoinRequest.size, ChannelJoinRequest.encode, ChannelJoinRequest.decode⟩
  | channelJoinConfirm =>
      ⟨ChannelJoinConfirm.size, ChannelJoinConfirm.encode, ChannelJoinConfirm.decode⟩
  | sendDataRequest =>
      ⟨SendDataRequest.size, SendDataRequest.encode, SendDataRequest.decode⟩
  | sendDataIndication =>
      ⟨SendDataIndication.size, SendDataIndication.encode, SendDataIndication.decode⟩
  | clientCoreData => ⟨ClientCoreData.size, ClientCoreData.encode, ClientCoreData.decode⟩
  | clientSecurityData =>
      ⟨ClientSecurityData.size, ClientSecurityData.encode, ClientSecurityData.decode⟩
  | clientNetworkData =>
      ⟨ClientNetworkData.size, ClientNetworkData.encode, ClientNetworkData.decode⟩
  | serverCoreData => ⟨ServerCoreData.size, ServerCoreData.encode, ServerCoreData.decode⟩
  | serverNetworkData =>
      ⟨ServerNetworkData.size, ServerNetworkData.encode, ServerNetworkData.decode⟩
  | securityHeader => ⟨SecurityHeader.size, SecurityHeader.encode, SecurityHeader.decode⟩
  | shareControlHeader =>
      ⟨ShareControlHeader.size, ShareControlHeader.encode, ShareControlHeader.decode⟩
  | shareDataHeader =>
      ⟨ShareDataHeader.size, ShareDataHeader.encode, ShareDataHeader.decode⟩
  | synchronizePdu => ⟨SynchronizePdu.size, SynchronizePdu.encode, SynchronizePdu.decode⟩
  | controlPdu => ⟨ControlPdu.size, ControlPdu.encode, ControlPdu.decode⟩
  | fontListPdu => ⟨FontListPdu.size, FontListPdu.encode, FontListPdu.decode⟩

/-- `encode_vec` of a value. -/
def encodeVec (t : PduType) (v : t.Val) : EncodeResult (List UInt8) :=
  Oxrdp.encodeVec (t.codec.size v) (t.codec.encode v)

/-- `decode` of a whole buffer. -/
def decode (t : PduType) (bytes : List UInt8) : DecodeResult t.Val :=
  Oxrdp.decode t.codec.decode bytes

/-- The encoder of `v` fills a buffer of the announced size to its end. -/
def Fills (t : PduType) (v : t.Val) : Prop :=
  ∃ c, (t.codec.encode v).run (Tape.start (List.replicate (t.codec.size v) 0)) = .ok ((), c) ∧
    c.todo = []

/-- The values that their own encoding determines. -/
def Faithful : (t : PduType) → t.Val → Prop
  | tpktHeader, h => tpktHeaderLen ≤ h.length.toNat
  | connectionRequest, m => m.Terminated
  | serverCoreData, m => m.Positional
  | _, _ => True

/-- What the round trip claims of one value and its encoding. -/
structure Whole (t : PduType) (v : t.Val) (bytes : List UInt8) : Prop where
  length : bytes.length = t.codec.size v
  fills : t.Fills v

/-- A type whose codec reads back everything. -/
theorem faithful_of_coded {t : PduType} {v : t.Val} {bytes : List UInt8}
    (hc : Coded (t.codec.encode v) (t.codec.size v) t.codec.decode v)
    (hf : t.Faithful v) (h : t.encodeVec v = .ok bytes) :
    t.Whole v bytes ∧ (t.decode bytes = .ok v ↔ t.Faithful v) := by
  obtain ⟨hlen, hfills, hback⟩ := encodeVec_coded hc h
  exact ⟨⟨hlen, hfills⟩, iff_of_true hback hf⟩

theorem tpktHeader_faithful {h : TpktHeader} {bytes : List UInt8}
    (hok : tpktHeader.encodeVec h = .ok bytes) :
    tpktHeader.Whole h bytes ∧
      (tpktHeader.decode bytes = .ok h ↔ tpktHeaderLen ≤ h.length.toNat) := by
  by_cases hlen : tpktHeaderLen ≤ h.length.toNat
  · exact faithful_of_coded (TpktHeader.coded hlen) hlen hok
  · have hbytes : bytes = [3, 0] ++ beBytes 2 h.length.toNat :=
      (Except.ok.inj ((encodeVec_emits h.emits h.writes).symm.trans hok)).symm
    have hrefused := TpktHeader.decode_short (Nat.lt_of_not_le hlen) []
    rw [List.append_nil, ← hbytes] at hrefused
    have hroom : ([3, 0] ++ beBytes 2 h.length.toNat).length ≤
        (Tape.start (List.replicate h.size (0 : UInt8))).todo.length := by
      simp [TpktHeader.size, tpktHeaderLen, Tape.start]
    refine ⟨⟨?_, ⟨_, h.emits _ hroom, ?_⟩⟩, iff_of_false ?_ hlen⟩
    · rw [hbytes]
      simp [codec, TpktHeader.size, tpktHeaderLen]
    · simp [codec, TpktHeader.size, tpktHeaderLen, Tape.start, Tape.overwrite_todo]
    · intro hback
      change Oxrdp.decode TpktHeader.decode bytes = .ok h at hback
      rw [hrefused] at hback
      cases hback

theorem connectionRequest_faithful {m : ConnectionRequest} {bytes : List UInt8}
    (hok : connectionRequest.encodeVec m = .ok bytes) :
    connectionRequest.Whole m bytes ∧
      (connectionRequest.decode bytes = .ok m ↔ m.Terminated) := by
  obtain ⟨hlen, hfills, hback⟩ := ConnectionRequest.encodeVec_decode hok
  refine ⟨⟨hlen, hfills⟩, ?_⟩
  change Oxrdp.decode ConnectionRequest.decode bytes = .ok m ↔ _
  rw [hback]
  constructor
  · intro hread
    by_contra hcut
    exact ConnectionRequest.decodeVariable_cut hcut hread
  · exact ConnectionRequest.decodeVariable_bytes

theorem serverCoreData_faithful {m : ServerCoreData} {bytes : List UInt8}
    (hok : serverCoreData.encodeVec m = .ok bytes) :
    serverCoreData.Whole m bytes ∧ (serverCoreData.decode bytes = .ok m ↔ m.Positional) := by
  obtain ⟨hlen, hfills, hback⟩ := encodeVec_coded m.coded hok
  refine ⟨⟨hlen, hfills⟩, ?_⟩
  change Oxrdp.decode ServerCoreData.decode bytes = .ok m ↔ _
  rw [hback, ← m.written_eq_iff]
  exact ⟨fun h => Except.ok.inj h, fun h => congrArg Except.ok h⟩

/-- **Every encoding is whole, and the faithful values are the ones read back.** -/
theorem decode_encodeVec_iff (t : PduType) (v : t.Val) {bytes : List UInt8}
    (h : t.encodeVec v = .ok bytes) :
    t.Whole v bytes ∧ (t.decode bytes = .ok v ↔ t.Faithful v) := by
  cases t with
  | tpktHeader => exact tpktHeader_faithful h
  | connectionRequest => exact connectionRequest_faithful h
  | serverCoreData => exact serverCoreData_faithful h
  | connectionConfirm =>
      obtain ⟨hlen, hfills, hback⟩ := ConnectionConfirm.encodeVec_decode h
      exact ⟨⟨hlen, hfills⟩, iff_of_true hback trivial⟩
  | x224DataHeader => exact faithful_of_coded (X224DataHeader.coded v) trivial h
  | negotiationRequest => exact faithful_of_coded (NegotiationRequest.coded v) trivial h
  | negotiationResponse => exact faithful_of_coded (NegotiationResponse.coded v) trivial h
  | negotiationFailure => exact faithful_of_coded (NegotiationFailure.coded v) trivial h
  | domainParameters => exact faithful_of_coded (DomainParameters.coded v) trivial h
  | erectDomainRequest => exact faithful_of_coded (ErectDomainRequest.coded v) trivial h
  | attachUserRequest => exact faithful_of_coded (AttachUserRequest.coded v) trivial h
  | attachUserConfirm => exact faithful_of_coded (AttachUserConfirm.coded v) trivial h
  | channelJoinRequest => exact faithful_of_coded (ChannelJoinRequest.coded v) trivial h
  | channelJoinConfirm => exact faithful_of_coded (ChannelJoinConfirm.coded v) trivial h
  | sendDataRequest => exact faithful_of_coded (SendDataRequest.coded v) trivial h
  | sendDataIndication => exact faithful_of_coded (SendDataIndication.coded v) trivial h
  | clientCoreData => exact faithful_of_coded (ClientCoreData.coded v) trivial h
  | clientSecurityData => exact faithful_of_coded (ClientSecurityData.coded v) trivial h
  | clientNetworkData => exact faithful_of_coded (ClientNetworkData.coded v) trivial h
  | serverNetworkData => exact faithful_of_coded (ServerNetworkData.coded v) trivial h
  | securityHeader => exact faithful_of_coded (SecurityHeader.coded v) trivial h
  | shareControlHeader => exact faithful_of_coded (ShareControlHeader.coded v) trivial h
  | shareDataHeader => exact faithful_of_coded (ShareDataHeader.coded v) trivial h
  | synchronizePdu => exact faithful_of_coded (SynchronizePdu.coded v) trivial h
  | controlPdu => exact faithful_of_coded (ControlPdu.coded v) trivial h
  | fontListPdu => exact faithful_of_coded (FontListPdu.coded v) trivial h

/-- A server core block with both optional words. -/
theorem decode_encodeVec_iff_core :
    (serverCoreData.encodeVec ⟨0x00080004, some 3, some 1⟩ =
        .ok [0x01, 0x0C, 0x10, 0, 4, 0, 8, 0, 3, 0, 0, 0, 1, 0, 0, 0]) ∧
      (serverCoreData.decode [0x01, 0x0C, 0x10, 0, 4, 0, 8, 0, 3, 0, 0, 0, 1, 0, 0, 0] =
          .ok ⟨0x00080004, some 3, some 1⟩ ↔
        serverCoreData.Faithful ⟨0x00080004, some 3, some 1⟩) :=
  ⟨rfl, (decode_encodeVec_iff serverCoreData ⟨0x00080004, some 3, some 1⟩ rfl).2⟩

/-- The identifier `a`, CR LF, `b` is written as it is; what follows the CR LF is then
read as the negotiation request. -/
theorem decode_encodeVec_cut :
    ∃ bytes, connectionRequest.encodeVec ⟨some "a\r\nb", none⟩ = .ok bytes ∧
      connectionRequest.decode bytes ≠ .ok ⟨some "a\r\nb", none⟩ := by
  refine ⟨[0x1D, 0xE0, 0, 0, 0, 0, 0] ++ cookiePrefix ++
    [0x61, 0x0D, 0x0A, 0x62, 0x0D, 0x0A], ?_, ?_⟩
  · decide +kernel
  · decide +kernel

end PduType

end Oxrdp
