import Oxrdp.Pdu.Fields

/-!
# Headers and bodies of the session phase

`security.rs`, `share.rs` and `finalize.rs`: the headers in front of the payload of an
MCS Send Data PDU, and the PDUs that end the connection sequence.  The readers ignore
the words that are the same in every such PDU.
-/

namespace Oxrdp

open Coder

/-- A `flags` word and a `flags_hi` word, which is normally zero. -/
structure SecurityHeader where
  flags : UInt16
  flagsHi : UInt16
  deriving DecidableEq, Repr

namespace SecurityHeader

def size (_ : SecurityHeader) : Nat := 4

def encode (m : SecurityHeader) : Encoder Unit := do
  writeU16Le m.flags "security header flags"
  writeU16Le m.flagsHi "security header flagsHi"

def decode : Decoder SecurityHeader := do
  let flags ← readU16Le "security header flags"
  let flagsHi ← readU16Le "security header flagsHi"
  pure { flags, flagsHi }

/-- A security header reads back as it was written. -/
theorem coded (m : SecurityHeader) : Coded m.encode m.size decode m := by
  refine (writeU16Le_coded m.flags _ _).bind (n := 2) ?_
  exact (writeU16Le_coded m.flagsHi _ _).map fun flagsHi => { m with flagsHi }

end SecurityHeader

structure ShareControlHeader where
  totalLength : UInt16
  pduType : UInt16
  pduSource : UInt16
  deriving DecidableEq, Repr

namespace ShareControlHeader

def size (_ : ShareControlHeader) : Nat := 6

def encode (m : ShareControlHeader) : Encoder Unit := do
  writeU16Le m.totalLength "share control total_length"
  writeU16Le m.pduType "share control pdu_type"
  writeU16Le m.pduSource "share control pdu_source"

def decode : Decoder ShareControlHeader := do
  let totalLength ← readU16Le "share control total_length"
  let pduType ← readU16Le "share control pdu_type"
  let pduSource ← readU16Le "share control pdu_source"
  pure { totalLength, pduType, pduSource }

/-- A share control header reads back as it was written. -/
theorem coded (m : ShareControlHeader) : Coded m.encode m.size decode m := by
  refine (writeU16Le_coded m.totalLength _ _).bind (n := 4) ?_
  refine (writeU16Le_coded m.pduType _ _).bind (n := 2) ?_
  exact (writeU16Le_coded m.pduSource _ _).map fun pduSource => { m with pduSource }

end ShareControlHeader

structure ShareDataHeader where
  control : ShareControlHeader
  shareId : UInt32
  streamId : UInt8
  uncompressedLength : UInt16
  pduType2 : UInt8
  compressedType : UInt8
  compressedLength : UInt16
  deriving DecidableEq, Repr

namespace ShareDataHeader

def size (_ : ShareDataHeader) : Nat := 18

def encode (m : ShareDataHeader) : Encoder Unit := do
  m.control.encode
  writeU32Le m.shareId "share data share_id"
  writeU8 0 "share data pad1"
  writeU8 m.streamId "share data stream_id"
  writeU16Le m.uncompressedLength "share data uncompressed_length"
  writeU8 m.pduType2 "share data pdu_type2"
  writeU8 m.compressedType "share data compressed_type"
  writeU16Le m.compressedLength "share data compressed_length"

def decode : Decoder ShareDataHeader := do
  let control ← ShareControlHeader.decode
  let shareId ← readU32Le "share data share_id"
  let _pad ← readU8 "share data pad1"
  let streamId ← readU8 "share data stream_id"
  let uncompressedLength ← readU16Le "share data uncompressed_length"
  let pduType2 ← readU8 "share data pdu_type2"
  let compressedType ← readU8 "share data compressed_type"
  let compressedLength ← readU16Le "share data compressed_length"
  pure
    { control, shareId, streamId, uncompressedLength, pduType2, compressedType,
      compressedLength }

/-- A share data header reads back as it was written. -/
theorem coded (m : ShareDataHeader) : Coded m.encode m.size decode m := by
  refine m.control.coded.bind (n := 12) ?_
  refine (writeU32Le_coded m.shareId _ _).bind (n := 8) ?_
  refine (writeU8_coded 0 _ _).bind (n := 7) ?_
  refine (writeU8_coded m.streamId _ _).bind (n := 6) ?_
  refine (writeU16Le_coded m.uncompressedLength _ _).bind (n := 4) ?_
  refine (writeU8_coded m.pduType2 _ _).bind (n := 3) ?_
  refine (writeU8_coded m.compressedType _ _).bind (n := 2) ?_
  exact (writeU16Le_coded m.compressedLength _ _).map fun compressedLength =>
    { m with compressedLength }

end ShareDataHeader

/-! ## Finalization -/

structure SynchronizePdu where
  targetUser : UInt16
  deriving DecidableEq, Repr

namespace SynchronizePdu

/-- `SYNCMSGTYPE_SYNC`. -/
def syncMsgTypeSync : UInt16 := 0x0001

def size (_ : SynchronizePdu) : Nat := 4

def encode (m : SynchronizePdu) : Encoder Unit := do
  writeU16Le syncMsgTypeSync "finalize"
  writeU16Le m.targetUser "finalize"

def decode : Decoder SynchronizePdu := do
  let _messageType ← readU16Le "finalize"
  let targetUser ← readU16Le "finalize"
  pure { targetUser }

/-- A synchronize PDU reads back as it was written. -/
theorem coded (m : SynchronizePdu) : Coded m.encode m.size decode m := by
  refine (writeU16Le_coded syncMsgTypeSync _ _).bind (n := 2) ?_
  exact (writeU16Le_coded m.targetUser _ _).map SynchronizePdu.mk

end SynchronizePdu

structure ControlPdu where
  action : UInt16
  grantId : UInt16
  controlId : UInt32
  deriving DecidableEq, Repr

namespace ControlPdu

def size (_ : ControlPdu) : Nat := 8

def encode (m : ControlPdu) : Encoder Unit := do
  writeU16Le m.action "finalize"
  writeU16Le m.grantId "finalize"
  writeU32Le m.controlId "finalize"

def decode : Decoder ControlPdu := do
  let action ← readU16Le "finalize"
  let grantId ← readU16Le "finalize"
  let controlId ← readU32Le "finalize"
  pure { action, grantId, controlId }

/-- A control PDU reads back as it was written. -/
theorem coded (m : ControlPdu) : Coded m.encode m.size decode m := by
  refine (writeU16Le_coded m.action _ _).bind (n := 6) ?_
  refine (writeU16Le_coded m.grantId _ _).bind (n := 4) ?_
  exact (writeU32Le_coded m.controlId _ _).map fun controlId => { m with controlId }

end ControlPdu

/-- The standard list of no fonts. -/
structure FontListPdu where
  deriving DecidableEq, Repr

namespace FontListPdu

def size (_ : FontListPdu) : Nat := 8

/-- `numberFonts`, `totalNumFonts`, `listFlags` and `entrySize`. -/
def encode (_ : FontListPdu) : Encoder Unit := do
  writeU16Le 0 "finalize"
  writeU16Le 0 "finalize"
  writeU16Le 0x0003 "finalize"
  writeU16Le 0x0032 "finalize"

def decode : Decoder FontListPdu := do
  let _numberFonts ← readU16Le "finalize"
  let _totalNumFonts ← readU16Le "finalize"
  let _listFlags ← readU16Le "finalize"
  let _entrySize ← readU16Le "finalize"
  pure FontListPdu.mk

/-- A font list reads back as it was written. -/
theorem coded (m : FontListPdu) : Coded m.encode m.size decode m := by
  refine (writeU16Le_coded 0 _ _).bind (n := 6) ?_
  refine (writeU16Le_coded 0 _ _).bind (n := 4) ?_
  refine (writeU16Le_coded 0x0003 _ _).bind (n := 2) ?_
  exact (writeU16Le_coded 0x0032 _ _).map fun _ => m

end FontListPdu

end Oxrdp
