import Oxrdp.Pdu.Fields

/-!
# GCC user-data blocks

`gcc.rs` and `gcc_server.rs`: the blocks that client and server exchange inside the MCS
Connect PDUs.  Each begins with its type and its length.

The optional words of the server core block are positional: the second can only be
written behind the first, so a block that has the second alone loses it.
-/

namespace Oxrdp

open Coder

/-- `u16::try_from` of a block's size, and its type in front of it. -/
def writeUdHeader (typ : UInt16) (len : Nat) (ctx : String) : Encoder Unit := do
  writeU16Le typ ctx
  writeU16Le (UInt16.ofNat len) ctx

def readUdHeader (expected : UInt16) (ctx : String) : Decoder UInt16 := do
  let typ ← readU16Le ctx
  if typ ≠ expected then
    throw (.invalidField ctx "ud type" "unexpected GCC block type")
  else
    readU16Le ctx

/-- A user data header is four bytes and reads back. -/
theorem writeUdHeader_coded (typ : UInt16) (len : Nat) (c c' : String) :
    Coded (writeUdHeader typ len c) 4 (readUdHeader typ c') (UInt16.ofNat len) := by
  refine (writeU16Le_coded typ _ _).bind (n := 2) ?_
  exact Coded.unless (by simp) (writeU16Le_coded _ _ _)

/-! ## Client blocks -/

structure ClientCoreData where
  version : UInt32
  desktopWidth : UInt16
  desktopHeight : UInt16
  colorDepth : UInt16
  sasSequence : UInt16
  keyboardLayout : UInt32
  clientBuild : UInt32
  clientName : Bytes 32
  keyboardType : UInt32
  keyboardSubtype : UInt32
  keyboardFunctionKey : UInt32
  imeFileName : Bytes 64
  deriving DecidableEq

namespace ClientCoreData

def csCore : UInt16 := 0xC001
def ctx : String := "GCC CS_CORE"

/-- The header, 128 bytes of mandatory fields and 84 bytes of extended ones. -/
def csCoreLen : Nat := 216

def size (_ : ClientCoreData) : Nat := csCoreLen

/-- The extended fields, which are the same for every client. -/
def encodeExtended (m : ClientCoreData) : Encoder Unit := do
  writeU16Le m.colorDepth ctx
  writeU16Le 1 ctx
  writeU32Le 0 ctx
  writeU16Le 0x0018 ctx
  writeU16Le 0x0007 ctx
  writeU16Le 0x0001 ctx
  writeSlice (List.replicate 64 0) ctx
  writeU8 0 ctx
  writeU8 0 ctx
  writeU32Le 0x00000001 ctx
  pure ()

def encode (m : ClientCoreData) : Encoder Unit := do
  writeUdHeader csCore csCoreLen ctx
  writeU32Le m.version ctx
  writeU16Le m.desktopWidth ctx
  writeU16Le m.desktopHeight ctx
  writeU16Le m.colorDepth ctx
  writeU16Le m.sasSequence ctx
  writeU32Le m.keyboardLayout ctx
  writeU32Le m.clientBuild ctx
  writeSlice m.clientName.val ctx
  writeU32Le m.keyboardType ctx
  writeU32Le m.keyboardSubtype ctx
  writeU32Le m.keyboardFunctionKey ctx
  writeSlice m.imeFileName.val ctx
  m.encodeExtended

/-- The extended fields are skipped, however many there are. -/
def decode : Decoder ClientCoreData := do
  let len ← readUdHeader csCore ctx
  if len.toNat < 132 then
    throw (.invalidLength ctx "CS_CORE block shorter than the 132-byte mandatory part")
  else
    let version ← readU32Le ctx
    let desktopWidth ← readU16Le ctx
    let desktopHeight ← readU16Le ctx
    let colorDepth ← readU16Le ctx
    let sasSequence ← readU16Le ctx
    let keyboardLayout ← readU32Le ctx
    let clientBuild ← readU32Le ctx
    let clientName ← readArray 32 ctx
    let keyboardType ← readU32Le ctx
    let keyboardSubtype ← readU32Le ctx
    let keyboardFunctionKey ← readU32Le ctx
    let imeFileName ← readArray 64 ctx
    let _extended ← readSlice (len.toNat - 132) ctx
    pure
      { version, desktopWidth, desktopHeight, colorDepth, sasSequence, keyboardLayout,
        clientBuild, clientName, keyboardType, keyboardSubtype, keyboardFunctionKey,
        imeFileName }

/-- The extended fields of the core data take 84 bytes. -/
theorem encodeExtended_writes (m : ClientCoreData) : Writes m.encodeExtended 84 :=
  Writes.of_eq
    ((writeU16Le_writes m.colorDepth _).bind <|
      (writeU16Le_writes 1 _).bind <|
      (writeU32Le_writes 0 _).bind <|
      (writeU16Le_writes 0x0018 _).bind <|
      (writeU16Le_writes 0x0007 _).bind <|
      (writeU16Le_writes 0x0001 _).bind <|
      (writeSlice_writes (List.replicate 64 0) _).bind <|
      (writeU8_writes 0 _).bind <|
      (writeU8_writes 0 _).bind <|
      (writeU32Le_writes 0x00000001 _).bind <|
      Writes.pure)
    (by simp)

/-- The client's core data reads back as it was written. -/
theorem coded (m : ClientCoreData) : Coded m.encode m.size decode m := by
  refine (writeUdHeader_coded csCore csCoreLen _ _).bind (n := 212) ?_
  refine Coded.unless (by decide) ?_
  refine (writeU32Le_coded m.version _ _).bind (n := 208) ?_
  refine (writeU16Le_coded m.desktopWidth _ _).bind (n := 206) ?_
  refine (writeU16Le_coded m.desktopHeight _ _).bind (n := 204) ?_
  refine (writeU16Le_coded m.colorDepth _ _).bind (n := 202) ?_
  refine (writeU16Le_coded m.sasSequence _ _).bind (n := 200) ?_
  refine (writeU32Le_coded m.keyboardLayout _ _).bind (n := 196) ?_
  refine (writeU32Le_coded m.clientBuild _ _).bind (n := 192) ?_
  refine (writeArray_coded m.clientName _ _).bind (n := 160) ?_
  refine (writeU32Le_coded m.keyboardType _ _).bind (n := 156) ?_
  refine (writeU32Le_coded m.keyboardSubtype _ _).bind (n := 152) ?_
  refine (writeU32Le_coded m.keyboardFunctionKey _ _).bind (n := 148) ?_
  refine (writeArray_coded m.imeFileName _ _).bind (n := 84) ?_
  exact skipped m.encodeExtended_writes m _

end ClientCoreData

structure ClientSecurityData where
  encryptionMethods : UInt32
  extEncryptionMethods : UInt32
  deriving DecidableEq, Repr

namespace ClientSecurityData

def csSecurity : UInt16 := 0xC002
def ctx : String := "GCC CS_SECURITY"

def size (_ : ClientSecurityData) : Nat := 12

def encode (m : ClientSecurityData) : Encoder Unit := do
  writeUdHeader csSecurity 12 ctx
  writeU32Le m.encryptionMethods ctx
  writeU32Le m.extEncryptionMethods ctx
  pure ()

def decode : Decoder ClientSecurityData := do
  let len ← readUdHeader csSecurity ctx
  if len ≠ 12 then
    throw (.invalidLength ctx "expected CS_SECURITY block length of 12 bytes")
  else
    let encryptionMethods ← readU32Le ctx
    let extEncryptionMethods ← readU32Le ctx
    pure { encryptionMethods, extEncryptionMethods }

/-- The client's security data reads back as it was written. -/
theorem coded (m : ClientSecurityData) : Coded m.encode m.size decode m := by
  refine (writeUdHeader_coded csSecurity 12 _ _).bind (n := 8) ?_
  refine Coded.unless (by decide) ?_
  refine (writeU32Le_coded m.encryptionMethods _ _).bind (n := 4) ?_
  refine (writeU32Le_coded m.extEncryptionMethods _ _).bind (n := 0) ?_
  exact Coded.pure m

end ClientSecurityData

/-- One virtual channel that a client asks for. -/
structure ChannelDef where
  name : Bytes 8
  options : UInt32
  deriving DecidableEq

namespace ChannelDef

def encode (m : ChannelDef) : Encoder Unit := do
  writeSlice m.name.val "GCC CS_NET"
  writeU32Le m.options "GCC CS_NET"

def decode : Decoder ChannelDef := do
  let name ← readArray 8 "GCC CS_NET"
  let options ← readU32Le "GCC CS_NET"
  pure { name, options }

/-- A channel definition is twelve bytes and reads back. -/
theorem coded (m : ChannelDef) : Coded m.encode 12 decode m := by
  refine (writeArray_coded m.name _ _).bind (n := 4) ?_
  exact (writeU32Le_coded m.options _ _).map fun options => { m with options }

end ChannelDef

structure ClientNetworkData where
  channels : List ChannelDef
  deriving DecidableEq

namespace ClientNetworkData

def csNet : UInt16 := 0xC003
def ctx : String := "GCC CS_NET"

def size (m : ClientNetworkData) : Nat := 4 + 4 + m.channels.length * 12

def encode (m : ClientNetworkData) : Encoder Unit :=
  if m.size ≤ 65535 then do
    writeUdHeader csNet m.size ctx
    if m.channels.length ≤ 2 ^ 32 - 1 then do
      writeU32Le (UInt32.ofNat m.channels.length) ctx
      writeMany ChannelDef.encode m.channels
    else
      throw (.fieldTooLarge ctx "channelCount")
  else
    throw (.fieldTooLarge ctx "length")

/-- Neither multiplication nor addition overflows behind the first check, so the two
`checked_` operations always succeed. -/
def decode : Decoder ClientNetworkData := do
  let len ← readUdHeader csNet ctx
  let channelCount ← readU32Le ctx
  if (2 ^ 32 - 1) / 12 < channelCount.toNat then
    throw (.invalidField ctx "channelCount" "channel count too large")
  else if 2 ^ 32 ≤ channelCount.toNat * 12 then
    throw (.invalidField ctx "channelCount" "overflow calculating total length")
  else if 2 ^ 32 ≤ channelCount.toNat * 12 + 8 then
    throw (.invalidField ctx "channelCount" "overflow calculating total length")
  else if len ≠ UInt16.ofNat (channelCount.toNat * 12 + 8) then
    throw (.invalidLength ctx "CS_NET length does not match channel count")
  else
    let channels ← readMany ChannelDef.decode channelCount.toNat
    pure { channels }

/-- The client's network data reads back as it was written. -/
theorem coded (m : ClientNetworkData) : Coded m.encode m.size decode m := by
  refine Coded.guarded fun hsize => ?_
  have hcount : m.channels.length ≤ 5460 := by
    simp only [size] at hsize
    omega
  have htoNat : (UInt32.ofNat m.channels.length).toNat = m.channels.length :=
    UInt32.toNat_ofNat_of_lt' (Nat.lt_of_le_of_lt hcount (by decide))
  have hlen : m.size = m.channels.length * 12 + 8 := by
    simp only [size]
    omega
  have htotal : 4 + (4 + m.channels.length * 12) = m.size := by omega
  refine Coded.of_eq ?_ htotal
  refine (writeUdHeader_coded csNet m.size ctx ctx).bind ?_
  refine Coded.guarded fun _ => ?_
  refine (writeU32Le_coded (UInt32.ofNat m.channels.length) ctx ctx).bind ?_
  rw [htoNat, if_neg (by omega), if_neg (by omega), if_neg (by omega)]
  refine Coded.unless (by simp [hlen]) ?_
  exact (Coded.many ChannelDef.coded m.channels).map ClientNetworkData.mk

/-- Exactly the lists whose block length fits its field are written. -/
theorem encode_fits {m : ClientNetworkData} {t t' : WriteCursor}
    (h : m.encode.run t = .ok ((), t')) : m.channels.length ≤ 5460 := by
  by_cases hsize : m.size ≤ 65535
  · simp only [size] at hsize
    omega
  · rw [encode, if_neg hsize] at h
    cases h

end ClientNetworkData

/-! ## Server blocks -/

structure ServerCoreData where
  version : UInt32
  clientRequestedProtocols : Option UInt32
  earlyCapabilityFlags : Option UInt32
  deriving DecidableEq, Repr

namespace ServerCoreData

def scCore : UInt16 := 0x0C01

def size (m : ServerCoreData) : Nat :=
  match m.clientRequestedProtocols, m.earlyCapabilityFlags with
  | none, _ => 4 + 4
  | some _, none => 4 + 4 + 4
  | some _, some _ => 4 + 4 + 4 + 4

/-- The second word is only looked at behind the first. -/
def encodeOptional : Option UInt32 → Option UInt32 → Encoder Unit
  | some protocols, some flags => do
      writeU32Le protocols "clientRequestedProtocols"
      writeU32Le flags "earlyCapabilityFlags"
  | some protocols, none => writeU32Le protocols "clientRequestedProtocols"
  | none, _ => pure ()

def encode (m : ServerCoreData) : Encoder Unit :=
  if m.size < 2 ^ 16 then do
    writeU16Le scCore "ud type"
    writeU16Le (UInt16.ofNat m.size) "ud length"
    writeU32Le m.version "version"
    encodeOptional m.clientRequestedProtocols m.earlyCapabilityFlags
  else
    throw (.fieldTooLarge "GCC SC_CORE" "length")

/-- A word that is there when the block is long enough. -/
def decodeOptional (present : Bool) (ctx : String) : Decoder (Option UInt32) :=
  if present then do
    let v ← readU32Le ctx
    pure (some v)
  else
    pure none

def decode : Decoder ServerCoreData := do
  let udType ← readU16Le "ud type"
  if udType ≠ scCore then
    throw (.invalidField "GCC SC_CORE" "ud type" "unexpected GCC block type")
  else
    let length ← readU16Le "ud length"
    if length.toNat < 4 then
      throw (.invalidLength "GCC SC_CORE" "length smaller than header")
    else
      let content := length.toNat - 4
      if content < 4 then
        throw (.notEnoughBytes "GCC SC_CORE" 4 content)
      else
        let version ← readU32Le "version"
        let clientRequestedProtocols ←
          decodeOptional (8 ≤ content) "clientRequestedProtocols"
        let earlyCapabilityFlags ← decodeOptional (12 ≤ content) "earlyCapabilityFlags"
        pure { version, clientRequestedProtocols, earlyCapabilityFlags }

/-- The second word has the first in front of it. -/
def Positional (m : ServerCoreData) : Prop :=
  m.clientRequestedProtocols = none → m.earlyCapabilityFlags = none

/-- The block as far as it is written. -/
def written (m : ServerCoreData) : ServerCoreData :=
  if m.clientRequestedProtocols = none then { m with earlyCapabilityFlags := none } else m

/-- The server's core data survives if and only if its optional fields stand in order. -/
theorem written_eq_iff (m : ServerCoreData) : m.written = m ↔ m.Positional := by
  obtain ⟨version, protocols, flags⟩ := m
  cases protocols with
  | none =>
      cases flags with
      | none => simp [written, Positional]
      | some f => simp [written, Positional]
  | some p => simp [written, Positional]

/-- What is read back is what was written. -/
theorem coded (m : ServerCoreData) : Coded m.encode m.size decode m.written := by
  obtain ⟨version, protocols, flags⟩ := m
  refine Coded.guarded fun _ => ?_
  cases protocols with
  | none =>
      refine (writeU16Le_coded scCore _ _).bind (n := 6) ?_
      refine Coded.unless (by decide) ?_
      refine (writeU16Le_coded 8 _ _).bind (n := 4) ?_
      refine Coded.unless (by decide) (Coded.unless (by decide) ?_)
      refine (writeU32Le_coded version _ _).bind (n := 0) ?_
      exact Coded.pure _
  | some p =>
      cases flags with
      | none =>
          refine (writeU16Le_coded scCore _ _).bind (n := 10) ?_
          refine Coded.unless (by decide) ?_
          refine (writeU16Le_coded 12 _ _).bind (n := 8) ?_
          refine Coded.unless (by decide) (Coded.unless (by decide) ?_)
          refine (writeU32Le_coded version _ _).bind (n := 4) ?_
          have hp : Coded (writeU32Le p "clientRequestedProtocols") 4
              (decodeOptional true "clientRequestedProtocols") (some p) :=
            (writeU32Le_coded p _ _).map some
          exact hp.map fun protocols => (⟨version, protocols, none⟩ : ServerCoreData)
      | some f =>
          refine (writeU16Le_coded scCore _ _).bind (n := 14) ?_
          refine Coded.unless (by decide) ?_
          refine (writeU16Le_coded 16 _ _).bind (n := 12) ?_
          refine Coded.unless (by decide) (Coded.unless (by decide) ?_)
          refine (writeU32Le_coded version _ _).bind (n := 8) ?_
          refine ((writeU32Le_coded p _ _).map some).bind (n := 4) ?_
          exact ((writeU32Le_coded f _ _).map some).map fun f =>
            (⟨version, some p, f⟩ : ServerCoreData)

end ServerCoreData

structure ServerNetworkData where
  mcsChannelId : UInt16
  channelIds : List UInt16
  deriving DecidableEq, Repr

namespace ServerNetworkData

def scNet : UInt16 := 0x0C03

def size (m : ServerNetworkData) : Nat :=
  4 + 2 + 2 + m.channelIds.length * 2 + (if m.channelIds.length % 2 = 1 then 2 else 0)

/-- The two bytes behind an odd number of channel ids. -/
def encodePad (count : Nat) : Encoder Unit :=
  if count % 2 = 1 then writeU16Le 0x0000 "alignmentPad" else pure ()

def encode (m : ServerNetworkData) : Encoder Unit :=
  if m.size < 2 ^ 16 then do
    writeU16Le scNet "ud type"
    writeU16Le (UInt16.ofNat m.size) "ud length"
    writeU16Le m.mcsChannelId "mcsChannelId"
    if m.channelIds.length < 2 ^ 16 then do
      writeU16Le (UInt16.ofNat m.channelIds.length) "channelCount"
      writeMany (fun id => writeU16Le id "channelId") m.channelIds
      encodePad m.channelIds.length
    else
      throw (.fieldTooLarge "GCC SC_NET" "channelCount")
  else
    throw (.fieldTooLarge "GCC SC_NET" "length")

def decodePad (count : Nat) : Decoder Unit :=
  if count % 2 = 1 then do
    let _pad ← readU16Le "alignmentPad"
    pure ()
  else
    pure ()

def decode : Decoder ServerNetworkData := do
  let udType ← readU16Le "ud type"
  if udType ≠ scNet then
    throw (.invalidField "GCC SC_NET" "ud type" "unexpected GCC block type")
  else
    let _length ← readU16Le "ud length"
    let mcsChannelId ← readU16Le "mcsChannelId"
    let channelCount ← readU16Le "channelCount"
    let channelIds ← readMany (readU16Le "channelId") channelCount.toNat
    decodePad channelCount.toNat
    pure { mcsChannelId, channelIds }

/-- The pad after an odd number of channels is two bytes. -/
theorem encodePad_coded (count : Nat) :
    Coded (encodePad count) (if count % 2 = 1 then 2 else 0) (decodePad count) () := by
  unfold encodePad decodePad
  by_cases hodd : count % 2 = 1
  · rw [if_pos hodd, if_pos hodd, if_pos hodd]
    exact (writeU16Le_coded 0 _ _).map fun _ => ()
  · rw [if_neg hodd, if_neg hodd, if_neg hodd]
    exact Coded.pure ()

/-- The server's network data reads back as it was written. -/
theorem coded (m : ServerNetworkData) : Coded m.encode m.size decode m := by
  refine Coded.guarded fun _ => ?_
  have htotal : 2 + (2 + (2 + (2 + (m.channelIds.length * 2 +
      (if m.channelIds.length % 2 = 1 then 2 else 0))))) = m.size := by
    simp only [size]
    omega
  refine Coded.of_eq ?_ htotal
  refine (writeU16Le_coded scNet _ _).bind ?_
  refine Coded.unless (by decide) ?_
  refine (writeU16Le_coded (UInt16.ofNat m.size) _ _).bind ?_
  refine (writeU16Le_coded m.mcsChannelId _ _).bind ?_
  refine Coded.guarded fun hcount => ?_
  have htoNat : (UInt16.ofNat m.channelIds.length).toNat = m.channelIds.length :=
    UInt16.toNat_ofNat_of_lt' hcount
  refine (writeU16Le_coded (UInt16.ofNat m.channelIds.length) _ _).bind ?_
  rw [htoNat]
  refine (Coded.many (fun id => writeU16Le_coded id _ _) m.channelIds).bind ?_
  exact (encodePad_coded m.channelIds.length).map fun _ => m

end ServerNetworkData

end Oxrdp
