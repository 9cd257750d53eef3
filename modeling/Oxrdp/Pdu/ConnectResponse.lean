import Oxrdp.Pdu.Gcc
import Oxrdp.Pdu.Lengths

/-!
# The MCS Connect-Response PDU

`connect_response.rs`: the BER envelope of the server's answer, the GCC Conference Create
Response inside it, which is searched for the server's H.221 key, and the server data
blocks behind that key.  Most of the lengths on the way are read and not compared with
anything.
-/

namespace Oxrdp

open Coder

structure ConnectResponse where
  result : UInt8
  serverCore : Option ServerCoreData
  serverNetwork : Option ServerNetworkData
  deriving DecidableEq, Repr

namespace ConnectResponse

def ctx : String := "MCS Connect-Response"
def gccCtx : String := "GCC Conference Create Response"

/-- A tag of the envelope and the BER length behind it. -/
def readTag (tag : UInt8) (field reason : String) : Decoder Nat := do
  expectU8 tag ctx (.invalidField ctx field reason)
  readBerLength ctx

/-- A part of the envelope that is skipped. -/
def skipTagged (tag : UInt8) (field reason : String) : Decoder Unit := do
  let len ← readTag tag field reason
  let _skipped ← readSlice len ctx
  pure ()

/-- The rest of an ENUMERATED of more than one byte. -/
def skipResult (len : Nat) : Decoder Unit :=
  if 1 < len then do
    let _rest ← readSlice (len - 1) ctx
    pure ()
  else
    pure ()

/-- The result code and the GCC Conference Create Response. -/
def readEnvelope : Decoder (UInt8 × List UInt8) := do
  let tag0 ← readU8 ctx
  let tag1 ← readU8 ctx
  if tag0 ≠ 0x7F ∨ tag1 ≠ 0x66 then
    throw (.invalidField ctx "tag" "expected 0x7F 0x66")
  else
    let _bodyLen ← readBerLength ctx
    let resultLen ← readTag 0x0A "result tag" "expected 0x0A"
    let result ← readU8 ctx
    skipResult resultLen
    skipTagged 0x02 "calledConnectId tag" "expected 0x02"
    skipTagged 0x30 "DomainParameters tag" "expected 0x30"
    let udLen ← readTag 0x04 "userData tag" "expected 0x04"
    let gccCcResp ← readSlice udLen ctx
    pure (result, gccCcResp)

/-- Find the first occurrence of a pattern, which is not empty. -/
def findPattern (needle : List UInt8) : List UInt8 → Option Nat
  | [] => none
  | b :: rest =>
      if needle.isPrefixOf (b :: rest) then some 0
      else (findPattern needle rest).map (· + 1)

/-- The server's H.221 key, `McDn`. -/
def mcdn : List UInt8 := [0x4D, 0x63, 0x44, 0x6E]

/-- What stands behind the key and the PER length that follows it. -/
def serverBlocks (gccCcResp : List UInt8) : DecodeResult (List UInt8) :=
  match findPattern mcdn gccCcResp with
  | none => .error (.invalidField gccCtx "h221 key" "McDn not found")
  | some pos =>
      match (perReadLength gccCtx).run (Tape.start (gccCcResp.drop (pos + 4))) with
      | .error e => .error e
      | .ok (_, c) => .ok c.todo

/-- Decode the two kinds of blocks that matter; a later one replaces an earlier one. -/
def readBlock (typ : Nat) (block : List UInt8)
    (found : Option ServerCoreData × Option ServerNetworkData) :
    DecodeResult (Option ServerCoreData × Option ServerNetworkData) :=
  if typ = 0x0C01 then do
    let core ← decode ServerCoreData.decode block
    pure (some core, found.2)
  else if typ = 0x0C03 then do
    let network ← decode ServerNetworkData.decode block
    pure (found.1, some network)
  else
    pure found

/-- Go through the blocks; fewer than four bytes at the end are ignored. -/
def readBlocks (blocks : List UInt8) (found : Option ServerCoreData × Option ServerNetworkData) :
    DecodeResult (Option ServerCoreData × Option ServerNetworkData) :=
  if 4 ≤ blocks.length then
    let typ := leNat (blocks.take 2)
    let len := leNat ((blocks.drop 2).take 2)
    if len < 4 ∨ blocks.length < len then
      .error (.invalidLength "GCC server block" "bad block length")
    else
      match readBlock typ (blocks.take len) found with
      | .error e => .error e
      | .ok found => readBlocks (blocks.drop len) found
  else
    .ok found
termination_by blocks.length
decreasing_by
  rw [List.length_drop]
  omega

/-- Parse an MCS Connect-Response PDU from a byte slice. -/
def fromBytes (data : List UInt8) : DecodeResult ConnectResponse := do
  let envelope ← decode readEnvelope data
  let blocks ← serverBlocks envelope.2
  let found ← readBlocks blocks (none, none)
  pure { result := envelope.1, serverCore := found.1, serverNetwork := found.2 }

end ConnectResponse

end Oxrdp
