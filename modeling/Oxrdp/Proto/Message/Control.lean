import Oxrdp.Proto.Wire

/-!
# Handshake and control-channel messages

`message/control.rs`.  Each body has its announced `size`, its `encode` and its
`decode`, field by field in wire order; `roundTrip` says that the decoder reads
back whatever the encoder wrote, `writes` that the encoder needs the announced
size, and `undoes` that it puts back whatever the decoder read.

Two bodies carry a counted list.  Their count byte saturates at 255 while every
entry is still written, so their round trips ask for lists that the byte can
count.  `readEntries` is the reader that knows the true lengths: it reads back
every encoding, and comparing the real decoder with it shows what happens to a
longer list.
-/

namespace Oxrdp

open Coder

/-- `u8::try_from(n).unwrap_or(u8::MAX)`. -/
def saturateU8 (n : Nat) : UInt8 := if n < 256 then UInt8.ofNat n else 255

/-- A count of more than 255 is written as 255. -/
theorem saturateU8_toNat (n : Nat) : (saturateU8 n).toNat = min n 255 := by
  unfold saturateU8
  split
  · rw [UInt8.toNat_ofNat_of_lt' (by assumption)]
    omega
  · rw [show (255 : UInt8).toNat = 255 from rfl]
    omega

/-- The count byte of a list that a counted read returned. -/
theorem saturateU8_returned {α : Type} {d : Decoder α} {count : UInt8} {l : List α}
    (h : Returns (readMany d count.toNat) l) : saturateU8 l.length = count := by
  obtain ⟨t, t', hrun⟩ := h
  have hlt := count.toNat_lt
  apply UInt8.toNat_inj.mp
  rw [saturateU8_toNat, readMany_length d hrun]
  omega

/-- One client display. -/
structure Output where
  id : UInt8
  x : Int32
  y : Int32
  width : UInt16
  height : UInt16
  scaleNum : UInt16
  scaleDen : UInt16
  refreshMhz : UInt32
  deriving DecidableEq, Repr

namespace Output

def encode (m : Output) : Encoder Unit := do
  writeU8 m.id "Output.id"
  writeI32 m.x "Output.x"
  writeI32 m.y "Output.y"
  writeU16Le m.width "Output.width"
  writeU16Le m.height "Output.height"
  writeU16Le m.scaleNum "Output.scale_num"
  writeU16Le m.scaleDen "Output.scale_den"
  writeU32Le m.refreshMhz "Output.refresh_mhz"
  pure ()

def decode : Decoder Output := do
  let id ← readU8 "Output.id"
  let x ← readI32 "Output.x"
  let y ← readI32 "Output.y"
  let width ← readU16Le "Output.width"
  let height ← readU16Le "Output.height"
  let scaleNum ← readU16Le "Output.scale_num"
  let scaleDen ← readU16Le "Output.scale_den"
  let refreshMhz ← readU32Le "Output.refresh_mhz"
  pure { id, x, y, width, height, scaleNum, scaleDen, refreshMhz }

/-- An output comes back: position, size, refresh rate and scale. -/
theorem roundTrip (m : Output) : RoundTrip m.encode decode m := by
  refine (writeU8_roundTrip m.id _ _).bind ?_
  refine (writeI32_roundTrip m.x _ _).bind ?_
  refine (writeI32_roundTrip m.y _ _).bind ?_
  refine (writeU16Le_roundTrip m.width _ _).bind ?_
  refine (writeU16Le_roundTrip m.height _ _).bind ?_
  refine (writeU16Le_roundTrip m.scaleNum _ _).bind ?_
  refine (writeU16Le_roundTrip m.scaleDen _ _).bind ?_
  refine (writeU32Le_roundTrip m.refreshMhz _ _).bind ?_
  exact RoundTrip.pure m

/-- It takes 21 bytes, whatever it is. -/
theorem writes (m : Output) : Writes m.encode 21 :=
  Writes.of_eq
    ((writeU8_writes m.id _).bind <|
      (writeI32_writes m.x _).bind <|
      (writeI32_writes m.y _).bind <|
      (writeU16Le_writes m.width _).bind <|
      (writeU16Le_writes m.height _).bind <|
      (writeU16Le_writes m.scaleNum _).bind <|
      (writeU16Le_writes m.scaleDen _).bind <|
      (writeU32Le_writes m.refreshMhz _).bind <|
      Writes.pure)
    rfl

/-- What `decode` reads, `encode` writes again. -/
theorem undoes : Undoes encode decode := by
  apply UndoesIn.undoes
  apply (readU8_undoes _).field
  intro id _
  apply (readI32_undoes _).field
  intro x _
  apply (readI32_undoes _).field
  intro y _
  apply (readU16Le_undoes _).field
  intro width _
  apply (readU16Le_undoes _).field
  intro height _
  apply (readU16Le_undoes _).field
  intro scaleNum _
  apply (readU16Le_undoes _).field
  intro scaleDen _
  apply (readU32Le_undoes _).field
  intro refreshMhz _
  exact UndoesIn.done rfl

/-- Where there is room for 21 bytes it is written. -/
theorem fills (m : Output) : Fills m.encode 21 := by
  refine (writeU8_fills m.id _).bind (n := 20) ?_
  refine (writeU32Le_fills m.x.toUInt32 _).bind (n := 16) ?_
  refine (writeU32Le_fills m.y.toUInt32 _).bind (n := 12) ?_
  refine (writeU16Le_fills m.width _).bind (n := 10) ?_
  refine (writeU16Le_fills m.height _).bind (n := 8) ?_
  refine (writeU16Le_fills m.scaleNum _).bind (n := 6) ?_
  refine (writeU16Le_fills m.scaleDen _).bind (n := 4) ?_
  exact (writeU32Le_fills m.refreshMhz _).bind Fills.pure

end Output

/-- The client's output topology. -/
structure DisplayLayout where
  outputs : List Output
  deriving DecidableEq, Repr

namespace DisplayLayout

def size (m : DisplayLayout) : Nat := 1 + m.outputs.length * 21

def encode (m : DisplayLayout) : Encoder Unit := do
  writeU8 (saturateU8 m.outputs.length) "DisplayLayout.outputs_count"
  writeMany Output.encode m.outputs

def decode : Decoder DisplayLayout := do
  let count ← readU8 "DisplayLayout.outputs_count"
  let outputs ← readMany Output.decode count.toNat
  pure { outputs }

/-- Read the count byte and then exactly `n` outputs, whatever it says. -/
def readEntries (n : Nat) : Decoder (UInt8 × DisplayLayout) := do
  let count ← readU8 "DisplayLayout.outputs_count"
  let outputs ← readMany Output.decode n
  pure (count, { outputs })

/-- The count that is written may be smaller than the list; the outputs that follow are all there.
-/
theorem readEntries_roundTrip (m : DisplayLayout) :
    RoundTrip m.encode (readEntries m.outputs.length)
      (saturateU8 m.outputs.length, m) := by
  refine (writeU8_roundTrip _ _ _).bind ?_
  exact (RoundTrip.many Output.roundTrip m.outputs).map fun outputs =>
    (saturateU8 m.outputs.length, DisplayLayout.mk outputs)

/-- A layout of at most 255 outputs comes back. -/
theorem roundTrip {m : DisplayLayout} (h : m.outputs.length ≤ 255) :
    RoundTrip m.encode decode m := by
  refine (writeU8_roundTrip _ _ _).bind ?_
  rw [saturateU8_toNat, Nat.min_eq_left h]
  exact (RoundTrip.many Output.roundTrip m.outputs).map DisplayLayout.mk

/-- With room for its size, a layout of any length is written. -/
theorem fills (m : DisplayLayout) : Fills m.encode m.size :=
  (writeU8_fills _ _).bind (Fills.many Output.fills m.outputs)

/-- The count is one byte, and each output takes its 21. -/
theorem writes (m : DisplayLayout) : Writes m.encode m.size :=
  (writeU8_writes _ _).bind (Writes.many Output.writes m.outputs)

/-- The bytes of a layout that was read are the bytes of that layout. -/
theorem undoes : Undoes encode decode := by
  apply UndoesIn.undoes
  apply (readU8_undoes _).field
  intro count _
  apply (Output.undoes.many count.toNat).last
  intro outputs hret
  simp only [encode, saturateU8_returned hret]

/-- Where the true reader finds the count byte `b`, the decoder returns `b`
outputs or fails. -/
theorem decode_length {n : Nat} {t t₁ t₂ : ReadCursor} {b : UInt8}
    {l m : DisplayLayout}
    (htrue : (readEntries n).run t = .ok ((b, l), t₁))
    (hdec : decode.run t = .ok (m, t₂)) :
    m.outputs.length = b.toNat := by
  obtain ⟨count, t', htrue, hdec⟩ := bind_run_ok_both htrue hdec
  obtain ⟨outputs, u, -, htrue'⟩ := bind_run_ok.mp htrue
  obtain ⟨outputs', v, hmany, hdec'⟩ := bind_run_ok.mp hdec
  cases htrue'
  cases hdec'
  exact readMany_length Output.decode hmany

end DisplayLayout

/-- Client handshake message. -/
structure ClientHello where
  versionMin : UInt16
  versionMax : UInt16
  features : UInt64
  authToken : String
  clientName : String
  codecs : List UInt8
  display : DisplayLayout
  deriving DecidableEq, Repr

namespace ClientHello

def size (m : ClientHello) : Nat :=
  2 + 2 + 8 + stringSize m.authToken + stringSize m.clientName + 1
    + m.codecs.length + m.display.size

def encode (m : ClientHello) : Encoder Unit := do
  writeU16Le m.versionMin "ClientHello.version_min"
  writeU16Le m.versionMax "ClientHello.version_max"
  writeU64 m.features "ClientHello.features"
  writeString m.authToken "ClientHello.auth_token"
  writeString m.clientName "ClientHello.client_name"
  writeU8 (saturateU8 m.codecs.length) "ClientHello.codecs_count"
  writeMany (fun codec => writeU8 codec "ClientHello.codecs") m.codecs
  m.display.encode

def decode : Decoder ClientHello := do
  let versionMin ← readU16Le "ClientHello.version_min"
  let versionMax ← readU16Le "ClientHello.version_max"
  let features ← readU64 "ClientHello.features"
  let authToken ← readString "ClientHello.auth_token"
  let clientName ← readString "ClientHello.client_name"
  let count ← readU8 "ClientHello.codecs_count"
  let codecs ← readMany (readU8 "ClientHello.codecs") count.toNat
  let display ← DisplayLayout.decode
  pure { versionMin, versionMax, features, authToken, clientName, codecs, display }

/-- Read the body with the true number of codecs and outputs, keeping the two
count bytes. -/
def readEntries (n k : Nat) : Decoder (UInt8 × UInt8 × ClientHello) := do
  let versionMin ← readU16Le "ClientHello.version_min"
  let versionMax ← readU16Le "ClientHello.version_max"
  let features ← readU64 "ClientHello.features"
  let authToken ← readString "ClientHello.auth_token"
  let clientName ← readString "ClientHello.client_name"
  let count ← readU8 "ClientHello.codecs_count"
  let codecs ← readMany (readU8 "ClientHello.codecs") n
  let entries ← DisplayLayout.readEntries k
  pure (count, entries.1,
    { versionMin, versionMax, features, authToken, clientName, codecs,
      display := entries.2 })

/-- Both counts may be smaller than their lists; what follows them is all there. -/
theorem readEntries_roundTrip (m : ClientHello) :
    RoundTrip m.encode (readEntries m.codecs.length m.display.outputs.length)
      (saturateU8 m.codecs.length, saturateU8 m.display.outputs.length, m) := by
  refine (writeU16Le_roundTrip m.versionMin _ _).bind ?_
  refine (writeU16Le_roundTrip m.versionMax _ _).bind ?_
  refine (writeU64_roundTrip m.features _ _).bind ?_
  refine (writeString_roundTrip m.authToken _ _).bind ?_
  refine (writeString_roundTrip m.clientName _ _).bind ?_
  refine (writeU8_roundTrip _ _ _).bind ?_
  refine (RoundTrip.many (fun codec => writeU8_roundTrip codec _ _) m.codecs).bind ?_
  exact (DisplayLayout.readEntries_roundTrip m.display).map fun entries =>
    (saturateU8 m.codecs.length, entries.1, { m with display := entries.2 })

/-- A hello comes back if both counts fit their byte. -/
theorem roundTrip {m : ClientHello} (hcodecs : m.codecs.length ≤ 255)
    (houtputs : m.display.outputs.length ≤ 255) :
    RoundTrip m.encode decode m := by
  refine (writeU16Le_roundTrip m.versionMin _ _).bind ?_
  refine (writeU16Le_roundTrip m.versionMax _ _).bind ?_
  refine (writeU64_roundTrip m.features _ _).bind ?_
  refine (writeString_roundTrip m.authToken _ _).bind ?_
  refine (writeString_roundTrip m.clientName _ _).bind ?_
  refine (writeU8_roundTrip _ _ _).bind ?_
  rw [saturateU8_toNat, Nat.min_eq_left hcodecs]
  refine (RoundTrip.many (fun codec => writeU8_roundTrip codec _ _) m.codecs).bind ?_
  exact (DisplayLayout.roundTrip houtputs).map fun display => { m with display }

/-- A hello has the length that its `size` says. -/
theorem writes (m : ClientHello) : Writes m.encode m.size := by
  have hcodecs := Writes.many (fun codec => writeU8_writes codec "ClientHello.codecs") m.codecs
  exact Writes.of_eq
    ((writeU16Le_writes m.versionMin _).bind <|
      (writeU16Le_writes m.versionMax _).bind <|
      (writeU64_writes m.features _).bind <|
      (writeString_writes m.authToken _).bind <|
      (writeString_writes m.clientName _).bind <|
      (writeU8_writes _ _).bind <|
      hcodecs.bind m.display.writes)
    (by simp only [size]; omega)

/-- A hello that was read has the bytes that it was read from. -/
theorem undoes : Undoes encode decode := by
  apply UndoesIn.undoes
  apply (readU16Le_undoes _).field
  intro versionMin _
  apply (readU16Le_undoes _).field
  intro versionMax _
  apply (readU64_undoes _).field
  intro features _
  apply (readString_undoes _).field
  intro authToken _
  apply (readString_undoes _).field
  intro clientName _
  apply (readU8_undoes _).field
  intro count _
  apply ((readU8_undoes _).many count.toNat).field
  intro codecs hret
  apply DisplayLayout.undoes.last
  intro display _
  simp only [encode, saturateU8_returned hret]

/-- Where the true reader finds the count bytes `b` and `c`, the decoder
returns `b` codecs, and if `b` was the true count also `c` outputs. -/
theorem decode_lengths {n k : Nat} {t t₁ t₂ : ReadCursor} {b c : UInt8}
    {l m : ClientHello}
    (htrue : (readEntries n k).run t = .ok ((b, c, l), t₁))
    (hdec : decode.run t = .ok (m, t₂)) :
    m.codecs.length = b.toNat ∧
      (b.toNat = n → m.display.outputs.length = c.toNat) := by
  -- both readers run over the same bytes up to and including the first count
  obtain ⟨versionMin, t, htrue, hdec⟩ := bind_run_ok_both htrue hdec
  obtain ⟨versionMax, t, htrue, hdec⟩ := bind_run_ok_both htrue hdec
  obtain ⟨features, t, htrue, hdec⟩ := bind_run_ok_both htrue hdec
  obtain ⟨authToken, t, htrue, hdec⟩ := bind_run_ok_both htrue hdec
  obtain ⟨clientName, t, htrue, hdec⟩ := bind_run_ok_both htrue hdec
  obtain ⟨count, t, htrue, hdec⟩ := bind_run_ok_both htrue hdec
  obtain ⟨codecs, u, hcodecs, htrue'⟩ := bind_run_ok.mp htrue
  obtain ⟨codecs', v, hcodecs', hdec'⟩ := bind_run_ok.mp hdec
  obtain ⟨entries, u', hentries, hl⟩ := bind_run_ok.mp htrue'
  obtain ⟨display, v', hdisplay, hm⟩ := bind_run_ok.mp hdec'
  cases hl
  cases hm
  refine ⟨readMany_length _ hcodecs', ?_⟩
  intro hb
  rw [hb] at hcodecs'
  cases hcodecs.symm.trans hcodecs'
  exact DisplayLayout.decode_length hentries hdisplay

end ClientHello

/-- Server handshake reply. -/
structure ServerHello where
  version : UInt16
  features : UInt64
  sessionId : UInt64
  codec : UInt8
  deriving DecidableEq, Repr

namespace ServerHello

def size (_ : ServerHello) : Nat := 2 + 8 + 8 + 1

def encode (m : ServerHello) : Encoder Unit := do
  writeU16Le m.version "ServerHello.version"
  writeU64 m.features "ServerHello.features"
  writeU64 m.sessionId "ServerHello.session_id"
  writeU8 m.codec "ServerHello.codec"
  pure ()

def decode : Decoder ServerHello := do
  let version ← readU16Le "ServerHello.version"
  let features ← readU64 "ServerHello.features"
  let sessionId ← readU64 "ServerHello.session_id"
  let codec ← readU8 "ServerHello.codec"
  pure { version, features, sessionId, codec }

/-- The server's answer comes back. -/
theorem roundTrip (m : ServerHello) : RoundTrip m.encode decode m := by
  refine (writeU16Le_roundTrip m.version _ _).bind ?_
  refine (writeU64_roundTrip m.features _ _).bind ?_
  refine (writeU64_roundTrip m.sessionId _ _).bind ?_
  refine (writeU8_roundTrip m.codec _ _).bind ?_
  exact RoundTrip.pure m

/-- `encode` writes as many bytes as `size` says. -/
theorem writes (m : ServerHello) : Writes m.encode m.size :=
  Writes.of_eq
    ((writeU16Le_writes m.version _).bind <|
      (writeU64_writes m.features _).bind <|
      (writeU64_writes m.sessionId _).bind <|
      (writeU8_writes m.codec _).bind <|
      Writes.pure)
    rfl

/-- An answer that was read has the bytes that it was read from. -/
theorem undoes : Undoes encode decode := by
  apply UndoesIn.undoes
  apply (readU16Le_undoes _).field
  intro version _
  apply (readU64_undoes _).field
  intro features _
  apply (readU64_undoes _).field
  intro sessionId _
  apply (readU8_undoes _).field
  intro codec _
  exact UndoesIn.done rfl

/-- With room for its size, a hello is written. -/
theorem fills (m : ServerHello) : Fills m.encode m.size := by
  have h := (writeU16Le_fills m.version "ServerHello.version").bind
    ((writeU64_fills m.features "ServerHello.features").bind
      ((writeU64_fills m.sessionId "ServerHello.session_id").bind
        ((writeU8_fills m.codec "ServerHello.codec").bind Fills.pure)))
  exact h

end ServerHello

/-- Control-channel error message. -/
structure Error where
  code : UInt16
  message : String
  deriving DecidableEq, Repr

namespace Error

def size (m : Error) : Nat := 2 + stringSize m.message

def encode (m : Error) : Encoder Unit := do
  writeU16Le m.code "Error.code"
  writeString m.message "Error.message"
  pure ()

def decode : Decoder Error := do
  let code ← readU16Le "Error.code"
  let message ← readString "Error.message"
  pure { code, message }

/-- An error comes back, code and text. -/
theorem roundTrip (m : Error) : RoundTrip m.encode decode m := by
  refine (writeU16Le_roundTrip m.code _ _).bind ?_
  refine (writeString_roundTrip m.message _ _).bind ?_
  exact RoundTrip.pure m

/-- `encode` writes as many bytes as `size` says. -/
theorem writes (m : Error) : Writes m.encode m.size :=
  Writes.of_eq
    ((writeU16Le_writes m.code _).bind <|
      (writeString_writes m.message _).bind <|
      Writes.pure)
    (by simp only [size]; omega)

/-- An error that was read has the bytes that it was read from. -/
theorem undoes : Undoes encode decode := by
  apply UndoesIn.undoes
  apply (readU16Le_undoes _).field
  intro code _
  apply (readString_undoes _).field
  intro message _
  exact UndoesIn.done rfl

/-- An error can be written if its text fits the length in front of it. -/
theorem fills {m : Error} (h : m.message.utf8ByteSize < 2 ^ 16) : Fills m.encode m.size := by
  have hall := (writeU16Le_fills m.code "Error.code").bind
    ((writeString_fills h "Error.message").bind Fills.pure)
  exact hall

end Error

/-- Session close message. -/
structure Close where
  reason : UInt16
  deriving DecidableEq, Repr

namespace Close

def size (_ : Close) : Nat := 2

def encode (m : Close) : Encoder Unit := do
  writeU16Le m.reason "Close.reason"
  pure ()

def decode : Decoder Close := do
  let reason ← readU16Le "Close.reason"
  pure { reason }

/-- A close message comes back. -/
theorem roundTrip (m : Close) : RoundTrip m.encode decode m := by
  refine (writeU16Le_roundTrip m.reason _ _).bind ?_
  exact RoundTrip.pure m

/-- `encode` writes as many bytes as `size` says. -/
theorem writes (m : Close) : Writes m.encode m.size :=
  Writes.of_eq
    ((writeU16Le_writes m.reason _).bind <|
      Writes.pure)
    rfl

/-- The reason is all that is read of it. -/
theorem undoes : Undoes encode decode := by
  apply UndoesIn.undoes
  apply (readU16Le_undoes _).field
  intro reason _
  exact UndoesIn.done rfl

/-- With room for its size, a close is written. -/
theorem fills (m : Close) : Fills m.encode m.size :=
  (writeU16Le_fills m.reason "Close.reason").bind Fills.pure

end Close

/-- Liveness probe. -/
structure Ping where
  seq : UInt32
  sentUs : UInt64
  deriving DecidableEq, Repr

namespace Ping

def size (_ : Ping) : Nat := 4 + 8

def encode (m : Ping) : Encoder Unit := do
  writeU32Le m.seq "Ping.seq"
  writeU64 m.sentUs "Ping.sent_us"
  pure ()

def decode : Decoder Ping := do
  let seq ← readU32Le "Ping.seq"
  let sentUs ← readU64 "Ping.sent_us"
  pure { seq, sentUs }

/-- A ping comes back. -/
theorem roundTrip (m : Ping) : RoundTrip m.encode decode m := by
  refine (writeU32Le_roundTrip m.seq _ _).bind ?_
  refine (writeU64_roundTrip m.sentUs _ _).bind ?_
  exact RoundTrip.pure m

/-- `encode` writes as many bytes as `size` says. -/
theorem writes (m : Ping) : Writes m.encode m.size :=
  Writes.of_eq
    ((writeU32Le_writes m.seq _).bind <|
      (writeU64_writes m.sentUs _).bind <|
      Writes.pure)
    rfl

/-- A ping that was read has the bytes that it was read from. -/
theorem undoes : Undoes encode decode := by
  apply UndoesIn.undoes
  apply (readU32Le_undoes _).field
  intro seq _
  apply (readU64_undoes _).field
  intro sentUs _
  exact UndoesIn.done rfl

end Ping

/-- Liveness reply. -/
structure Pong where
  seq : UInt32
  sentUs : UInt64
  agentUs : UInt64
  deriving DecidableEq, Repr

namespace Pong

def size (_ : Pong) : Nat := 4 + 8 + 8

def encode (m : Pong) : Encoder Unit := do
  writeU32Le m.seq "Pong.seq"
  writeU64 m.sentUs "Pong.sent_us"
  writeU64 m.agentUs "Pong.agent_us"
  pure ()

def decode : Decoder Pong := do
  let seq ← readU32Le "Pong.seq"
  let sentUs ← readU64 "Pong.sent_us"
  let agentUs ← readU64 "Pong.agent_us"
  pure { seq, sentUs, agentUs }

/-- A pong comes back with both times. -/
theorem roundTrip (m : Pong) : RoundTrip m.encode decode m := by
  refine (writeU32Le_roundTrip m.seq _ _).bind ?_
  refine (writeU64_roundTrip m.sentUs _ _).bind ?_
  refine (writeU64_roundTrip m.agentUs _ _).bind ?_
  exact RoundTrip.pure m

/-- `encode` writes as many bytes as `size` says. -/
theorem writes (m : Pong) : Writes m.encode m.size :=
  Writes.of_eq
    ((writeU32Le_writes m.seq _).bind <|
      (writeU64_writes m.sentUs _).bind <|
      (writeU64_writes m.agentUs _).bind <|
      Writes.pure)
    rfl

/-- A pong that was read has the bytes that it was read from. -/
theorem undoes : Undoes encode decode := by
  apply UndoesIn.undoes
  apply (readU32Le_undoes _).field
  intro seq _
  apply (readU64_undoes _).field
  intro sentUs _
  apply (readU64_undoes _).field
  intro agentUs _
  exact UndoesIn.done rfl

end Pong

/-- Quality-of-service hint for a window or the whole session. -/
structure QualityHint where
  windowId : UInt32
  targetFps : UInt16
  maxBitrateKbps : UInt32
  flags : UInt8
  deriving DecidableEq, Repr

namespace QualityHint

def size (_ : QualityHint) : Nat := 4 + 2 + 4 + 1

def encode (m : QualityHint) : Encoder Unit := do
  writeU32Le m.windowId "QualityHint.window_id"
  writeU16Le m.targetFps "QualityHint.target_fps"
  writeU32Le m.maxBitrateKbps "QualityHint.max_bitrate_kbps"
  writeU8 m.flags "QualityHint.flags"
  pure ()

def decode : Decoder QualityHint := do
  let windowId ← readU32Le "QualityHint.window_id"
  let targetFps ← readU16Le "QualityHint.target_fps"
  let maxBitrateKbps ← readU32Le "QualityHint.max_bitrate_kbps"
  let flags ← readU8 "QualityHint.flags"
  pure { windowId, targetFps, maxBitrateKbps, flags }

/-- A quality hint comes back. -/
theorem roundTrip (m : QualityHint) : RoundTrip m.encode decode m := by
  refine (writeU32Le_roundTrip m.windowId _ _).bind ?_
  refine (writeU16Le_roundTrip m.targetFps _ _).bind ?_
  refine (writeU32Le_roundTrip m.maxBitrateKbps _ _).bind ?_
  refine (writeU8_roundTrip m.flags _ _).bind ?_
  exact RoundTrip.pure m

/-- `encode` writes as many bytes as `size` says. -/
theorem writes (m : QualityHint) : Writes m.encode m.size :=
  Writes.of_eq
    ((writeU32Le_writes m.windowId _).bind <|
      (writeU16Le_writes m.targetFps _).bind <|
      (writeU32Le_writes m.maxBitrateKbps _).bind <|
      (writeU8_writes m.flags _).bind <|
      Writes.pure)
    rfl

/-- A hint that was read has the bytes that it was read from. -/
theorem undoes : Undoes encode decode := by
  apply UndoesIn.undoes
  apply (readU32Le_undoes _).field
  intro windowId _
  apply (readU16Le_undoes _).field
  intro targetFps _
  apply (readU32Le_undoes _).field
  intro maxBitrateKbps _
  apply (readU8_undoes _).field
  intro flags _
  exact UndoesIn.done rfl

end QualityHint

end Oxrdp
