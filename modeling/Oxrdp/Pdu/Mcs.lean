import Oxrdp.Pdu.Lengths

/-!
# MCS domain PDUs

`mcs.rs`, `send_data.rs` and `domain_params.rs`.  User ids travel as their distance from
`mcsUserchannelBase`, so a writer refuses a smaller one; the reader adds the base again
and stops at the largest `u16`.
-/

namespace Oxrdp

open Coder

/-- User channels are assigned from this id on. -/
def mcsUserchannelBase : UInt16 := 1001

/-- `u16::saturating_add`. -/
def saturatingAddU16 (a b : UInt16) : UInt16 :=
  if a.toNat + b.toNat < 2 ^ 16 then a + b else 65535

/-- The base that was subtracted is added again. -/
theorem saturatingAddU16_sub {v base : UInt16} (h : base ≤ v) :
    saturatingAddU16 (v - base) base = v := by
  have hle : base.toNat ≤ v.toNat := h
  have hsub : (v - base).toNat = v.toNat - base.toNat := UInt16.toNat_sub_of_le v base h
  have hv : v.toNat < 2 ^ 16 := v.toNat_lt
  rw [saturatingAddU16, if_pos (by omega)]
  apply UInt16.toNat_inj.mp
  rw [UInt16.toNat_add, hsub]
  omega

def perWriteInteger16 (value base : UInt16) (ctx : String) : Encoder Unit :=
  if base ≤ value then
    writeU16Be (value - base) ctx
  else
    throw (.fieldTooLarge ctx "integer16")

def perReadInteger16 (base : UInt16) (ctx : String) : Decoder UInt16 := do
  let field ← readU16Be ctx
  pure (saturatingAddU16 field base)

/-- An integer above its base comes back. -/
theorem perWriteInteger16_coded (value base : UInt16) (c c' : String) :
    Coded (perWriteInteger16 value base c) 2 (perReadInteger16 base c') value := by
  refine Coded.guarded fun hle => ?_
  have hfield := (writeU16Be_coded (value - base) c c').map fun f => saturatingAddU16 f base
  rw [saturatingAddU16_sub hle] at hfield
  exact hfield

/-- It is written without its base. -/
theorem perWriteInteger16_emits {value base : UInt16} (h : base ≤ value) (ctx : String) :
    Emits (perWriteInteger16 value base ctx) (beBytes 2 (value - base).toNat) := by
  rw [perWriteInteger16, if_pos h]
  exact writeSlice_emits _ ctx

/-- No value below its base is ever read. -/
theorem perReadInteger16_returns {base v : UInt16} {ctx : String}
    (h : Returns (perReadInteger16 base ctx) v) : base ≤ v := by
  obtain ⟨field, -, h⟩ := h.of_bind
  obtain ⟨t, t', hrun⟩ := h
  cases hrun
  have hlt : base.toNat < 65536 := base.toNat_lt
  rw [UInt16.le_iff_toNat_le, saturatingAddU16]
  split
  next hfit =>
    rw [UInt16.toNat_add, Nat.mod_eq_of_lt hfit]
    omega
  next =>
    change base.toNat ≤ 65535
    omega

/-- The tag that every domain PDU begins with. -/
def expectChoice (tag : UInt8) (ctx : String) : Decoder Unit :=
  expectU8 tag ctx (.invalidField ctx "mcs choice" "unexpected DomainMCSPDU tag")

/-- The choice is expected as it was written. -/
theorem expectChoice_coded (tag : UInt8) (c c' : String) :
    Coded (writeU8 tag c) 1 (expectChoice tag c') () :=
  expectU8_coded tag c c' _

structure ErectDomainRequest where
  deriving DecidableEq, Repr

namespace ErectDomainRequest

def tag : UInt8 := 0x04
def body : List UInt8 := [0x01, 0x00, 0x01, 0x00]

def size (_ : ErectDomainRequest) : Nat := 5

def encode (_ : ErectDomainRequest) : Encoder Unit := do
  writeU8 tag "MCS ErectDomainRequest"
  writeSlice body "MCS ErectDomainRequest body"

def decode : Decoder ErectDomainRequest := do
  expectChoice tag "MCS ErectDomainRequest"
  let slice ← readSlice 4 "MCS ErectDomainRequest body"
  if slice ≠ body then
    throw (.invalidField "MCS ErectDomainRequest" "erect domain body"
      "unexpected DomainMCSPDU tag")
  else
    pure {}

/-- A request to erect a domain comes back, as there is only one. -/
theorem coded (m : ErectDomainRequest) : Coded m.encode m.size decode m := by
  refine (expectChoice_coded tag _ _).bind (n := 4) ?_
  intro t t' he
  obtain ⟨xs, hlen, hroom, heq, hparse⟩ := writeSlice_coded body
    "MCS ErectDomainRequest body" "MCS ErectDomainRequest body" t t' he
  have hall := hparse.bind (k := fun slice =>
    if slice ≠ body then throw (.invalidField "MCS ErectDomainRequest" "erect domain body"
      "unexpected DomainMCSPDU tag") else pure ({} : ErectDomainRequest)) (Parses.pure m)
  rw [List.append_nil] at hall
  exact ⟨xs, hlen, hroom, heq, hall⟩

/-- It is written as these bytes. -/
theorem emits (m : ErectDomainRequest) : Emits m.encode (tag :: body) :=
  (writeSlice_emits [tag] _).bind (writeSlice_emits body _)

end ErectDomainRequest

structure AttachUserRequest where
  deriving DecidableEq, Repr

namespace AttachUserRequest

def tag : UInt8 := 0x28

def size (_ : AttachUserRequest) : Nat := 1

def encode (_ : AttachUserRequest) : Encoder Unit :=
  writeU8 tag "MCS AttachUserRequest"

def decode : Decoder AttachUserRequest := do
  expectChoice tag "MCS AttachUserRequest"
  pure {}

/-- A request to attach comes back, as there is only one. -/
theorem coded (m : AttachUserRequest) : Coded m.encode m.size decode m :=
  (expectChoice_coded tag _ _).map fun _ => m

/-- It is one byte. -/
theorem emits (m : AttachUserRequest) : Emits m.encode [tag] :=
  writeSlice_emits [tag] _

end AttachUserRequest

structure AttachUserConfirm where
  /-- 0 indicates success. -/
  result : UInt8
  userId : UInt16
  deriving DecidableEq, Repr

namespace AttachUserConfirm

def tag : UInt8 := 0x2E

def size (_ : AttachUserConfirm) : Nat := 4

def encode (m : AttachUserConfirm) : Encoder Unit := do
  writeU8 tag "MCS AttachUserConfirm"
  writeU8 m.result "MCS AttachUserConfirm result"
  perWriteInteger16 m.userId mcsUserchannelBase "MCS AttachUserConfirm initiator"

def decode : Decoder AttachUserConfirm := do
  expectChoice tag "MCS AttachUserConfirm"
  let result ← readU8 "MCS AttachUserConfirm result"
  let userId ← perReadInteger16 mcsUserchannelBase "MCS AttachUserConfirm initiator"
  pure { result, userId }

/-- A confirm comes back, with or without the user's id. -/
theorem coded (m : AttachUserConfirm) : Coded m.encode m.size decode m := by
  refine (expectChoice_coded tag _ _).bind (n := 3) ?_
  refine (writeU8_coded m.result _ _).bind (n := 2) ?_
  exact (perWriteInteger16_coded m.userId _ _ _).map fun userId => { m with userId }

/-- A user channel is never below the base of its range. -/
theorem decode_userId {bytes : List UInt8} {m : AttachUserConfirm}
    (h : Oxrdp.decode decode bytes = .ok m) : mcsUserchannelBase ≤ m.userId := by
  obtain ⟨-, -, h⟩ := (decode_returns h).of_bind
  obtain ⟨result, -, h⟩ := h.of_bind
  obtain ⟨userId, huser, h⟩ := h.of_bind
  obtain ⟨t, t', hrun⟩ := h
  cases hrun
  exact perReadInteger16_returns huser

end AttachUserConfirm

structure ChannelJoinRequest where
  userId : UInt16
  channelId : UInt16
  deriving DecidableEq, Repr

namespace ChannelJoinRequest

def tag : UInt8 := 0x38

def size (_ : ChannelJoinRequest) : Nat := 5

def encode (m : ChannelJoinRequest) : Encoder Unit := do
  writeU8 tag "MCS ChannelJoinRequest"
  perWriteInteger16 m.userId mcsUserchannelBase "MCS ChannelJoinRequest initiator"
  perWriteInteger16 m.channelId 0 "MCS ChannelJoinRequest channel id"

def decode : Decoder ChannelJoinRequest := do
  expectChoice tag "MCS ChannelJoinRequest"
  let userId ← perReadInteger16 mcsUserchannelBase "MCS ChannelJoinRequest initiator"
  let channelId ← perReadInteger16 0 "MCS ChannelJoinRequest channel id"
  pure { userId, channelId }

/-- A request to join comes back. -/
theorem coded (m : ChannelJoinRequest) : Coded m.encode m.size decode m := by
  refine (expectChoice_coded tag _ _).bind (n := 4) ?_
  refine (perWriteInteger16_coded m.userId _ _ _).bind (n := 2) ?_
  exact (perWriteInteger16_coded m.channelId _ _ _).map fun channelId => { m with channelId }

/-- Only bytes that begin with the tag are a request. -/
theorem decode_head {bytes : List UInt8} {m : ChannelJoinRequest}
    (h : Oxrdp.decode decode bytes = .ok m) : bytes.head? = some tag := by
  obtain ⟨t, hrun⟩ := decode_run h
  obtain ⟨u, t₁, hchoice, -⟩ := bind_run_ok.mp hrun
  obtain ⟨b, t₂, hread, hcheck⟩ := bind_run_ok.mp hchoice
  obtain ⟨htag, -⟩ := checked_run hcheck
  have htodo : bytes = b :: t₂.todo := readU8_todo hread
  rw [htodo, not_not.mp htag]
  rfl

def bytes (m : ChannelJoinRequest) : List UInt8 :=
  tag :: (beBytes 2 (m.userId - mcsUserchannelBase).toNat ++ beBytes 2 (m.channelId - 0).toNat)

/-- A request of a user whose channel is in its range is always written. -/
theorem emits {m : ChannelJoinRequest} (h : mcsUserchannelBase ≤ m.userId) :
    Emits m.encode m.bytes :=
  (writeSlice_emits [tag] "MCS ChannelJoinRequest").bind
    ((perWriteInteger16_emits h _).bind (perWriteInteger16_emits (UInt16.zero_le) _))

/-- Those bytes are read as the request, if the user's id is above the base. -/
theorem decode_bytes {m : ChannelJoinRequest} (h : mcsUserchannelBase ≤ m.userId) :
    Oxrdp.decode decode m.bytes = .ok m :=
  decode_of_parses (m.coded.roundTrip.parses_emitted (emits h))

end ChannelJoinRequest

structure ChannelJoinConfirm where
  /-- 0 indicates success. -/
  result : UInt8
  userId : UInt16
  requestedChannelId : UInt16
  channelId : UInt16
  deriving DecidableEq, Repr

namespace ChannelJoinConfirm

def tag : UInt8 := 0x3E

def size (_ : ChannelJoinConfirm) : Nat := 8

def encode (m : ChannelJoinConfirm) : Encoder Unit := do
  writeU8 tag "MCS ChannelJoinConfirm"
  writeU8 m.result "MCS ChannelJoinConfirm result"
  perWriteInteger16 m.userId mcsUserchannelBase "MCS ChannelJoinConfirm initiator"
  perWriteInteger16 m.requestedChannelId 0 "MCS ChannelJoinConfirm requested channel id"
  perWriteInteger16 m.channelId 0 "MCS ChannelJoinConfirm channel id"

def decode : Decoder ChannelJoinConfirm := do
  expectChoice tag "MCS ChannelJoinConfirm"
  let result ← readU8 "MCS ChannelJoinConfirm result"
  let userId ← perReadInteger16 mcsUserchannelBase "MCS ChannelJoinConfirm initiator"
  let requestedChannelId ← perReadInteger16 0 "MCS ChannelJoinConfirm requested channel id"
  let channelId ← perReadInteger16 0 "MCS ChannelJoinConfirm channel id"
  pure { result, userId, requestedChannelId, channelId }

/-- A confirm to join comes back. -/
theorem coded (m : ChannelJoinConfirm) : Coded m.encode m.size decode m := by
  refine (expectChoice_coded tag _ _).bind (n := 7) ?_
  refine (writeU8_coded m.result _ _).bind (n := 6) ?_
  refine (perWriteInteger16_coded m.userId _ _ _).bind (n := 4) ?_
  refine (perWriteInteger16_coded m.requestedChannelId _ _ _).bind (n := 2) ?_
  exact (perWriteInteger16_coded m.channelId _ _ _).map fun channelId => { m with channelId }

end ChannelJoinConfirm

/-! ## Send Data -/

def dataPrioritySegmentation : UInt8 := 0x70

/-- Both Send Data PDUs; the error texts carry the PDU's own name. -/
def encodeSendData (tag : UInt8) (ctx : String) (initiator channelId : UInt16)
    (userData : List UInt8) : Encoder Unit := do
  writeU8 tag ctx
  if mcsUserchannelBase ≤ initiator then do
    writeU16Be (initiator - mcsUserchannelBase) ctx
    writeU16Be channelId ctx
    writeU8 dataPrioritySegmentation ctx
    perWriteLength userData.length ctx
    writeSlice userData ctx
    pure ()
  else
    throw (.fieldTooLarge ctx "initiator")

def decodeSendData (tag : UInt8) (ctx : String) : Decoder (UInt16 × UInt16 × List UInt8) := do
  expectU8 tag ctx (.invalidField ctx "mcs choice" "unexpected send-data tag")
  let initiator ← perReadInteger16 mcsUserchannelBase ctx
  let channelId ← readU16Be ctx
  let _priority ← readU8 ctx
  let len ← perReadLength ctx
  let userData ← readSlice len ctx
  pure (initiator, channelId, userData)

def sendDataSize (userData : List UInt8) : Nat :=
  1 + 2 + 2 + 1 + perLengthSize userData.length + userData.length

/-- Data comes back, with the length in front of it. -/
theorem encodeSendData_coded (tag : UInt8) (ctx : String) (initiator channelId : UInt16)
    (userData : List UInt8) :
    Coded (encodeSendData tag ctx initiator channelId userData) (sendDataSize userData)
      (decodeSendData tag ctx) (initiator, channelId, userData) := by
  have hall : Coded (encodeSendData tag ctx initiator channelId userData)
      (1 + (2 + (2 + (1 + (perLengthSize userData.length + (userData.length + 0))))))
      (decodeSendData tag ctx) (initiator, channelId, userData) := by
    refine (expectU8_coded tag _ _ _).bind ?_
    refine Coded.guarded fun hle => ?_
    have hfield := (writeU16Be_coded (initiator - mcsUserchannelBase) ctx ctx).map fun f =>
      saturatingAddU16 f mcsUserchannelBase
    rw [saturatingAddU16_sub hle] at hfield
    refine hfield.bind ?_
    refine (writeU16Be_coded channelId _ _).bind ?_
    refine (writeU8_coded dataPrioritySegmentation _ _).bind ?_
    refine (perWriteLength_coded userData.length _ _).bind ?_
    refine (writeSlice_coded userData _ _).bind ?_
    exact Coded.pure (initiator, channelId, userData)
  exact hall.of_eq (by simp only [sendDataSize]; omega)

structure SendDataRequest where
  initiator : UInt16
  channelId : UInt16
  userData : List UInt8
  deriving DecidableEq, Repr

namespace SendDataRequest

def tag : UInt8 := 0x64

def size (m : SendDataRequest) : Nat := sendDataSize m.userData

def encode (m : SendDataRequest) : Encoder Unit :=
  encodeSendData tag "SendDataRequest" m.initiator m.channelId m.userData

def decode : Decoder SendDataRequest := do
  let r ← decodeSendData tag "SendDataRequest"
  pure { initiator := r.1, channelId := r.2.1, userData := r.2.2 }

/-- Data that is sent comes back. -/
theorem coded (m : SendDataRequest) : Coded m.encode m.size decode m :=
  (encodeSendData_coded tag _ m.initiator m.channelId m.userData).map
    fun r : UInt16 × UInt16 × List UInt8 => SendDataRequest.mk r.1 r.2.1 r.2.2

end SendDataRequest

structure SendDataIndication where
  initiator : UInt16
  channelId : UInt16
  userData : List UInt8
  deriving DecidableEq, Repr

namespace SendDataIndication

def tag : UInt8 := 0x68

def size (m : SendDataIndication) : Nat := sendDataSize m.userData

def encode (m : SendDataIndication) : Encoder Unit :=
  encodeSendData tag "SendDataIndication" m.initiator m.channelId m.userData

def decode : Decoder SendDataIndication := do
  let r ← decodeSendData tag "SendDataIndication"
  pure { initiator := r.1, channelId := r.2.1, userData := r.2.2 }

/-- Data that is received comes back. -/
theorem coded (m : SendDataIndication) : Coded m.encode m.size decode m :=
  (encodeSendData_coded tag _ m.initiator m.channelId m.userData).map
    fun r : UInt16 × UInt16 × List UInt8 => SendDataIndication.mk r.1 r.2.1 r.2.2

end SendDataIndication

end Oxrdp
