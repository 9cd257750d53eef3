import Oxrdp.Proto.Envelope
import Oxrdp.Proto.Message.Control
import Oxrdp.Proto.Message.Input
import Oxrdp.Proto.Message.Window

/-!
# The message type and its dispatch

`message/mod.rs`: the `Message` enumeration, its type codes and channels, and
the translation between a message and its `(type, body)` pair.

The two counted lists are the exception to the round trip.  Their count byte
saturates while every entry is written, so a message comes back exactly when
its lists can be counted in one byte (`CountsFit`).
-/

namespace Oxrdp

open Coder

/-- Protocol version this build implements. -/
def protocolVersion : UInt16 := 1

/-- Oldest protocol version this build still accepts. -/
def minSupportedVersion : UInt16 := 1

/-! ## Capability bits negotiated in the handshake -/

namespace Feature

def cursorStream : UInt64 := 0x01
def frameAck : UInt64 := 0x02
def windowControl : UInt64 := 0x08
def textInput : UInt64 := 0x10
def icons : UInt64 := 0x20

/-- Everything this build implements today. -/
def supported : UInt64 := cursorStream ||| frameAck ||| windowControl ||| textInput ||| icons

end Feature

/-! ## Codes carried by `Error` and `Close` -/

namespace ErrorCode

def protocol : UInt16 := 1
def authFailed : UInt16 := 2
def versionMismatch : UInt16 := 3
def unsupportedCodec : UInt16 := 4
def sessionBusy : UInt16 := 9

end ErrorCode

def CloseReason.error : UInt16 := 3

/-- A decoded protocol message. -/
inductive Message where
  | clientHello (m : ClientHello)
  | serverHello (m : ServerHello)
  | error (m : Error)
  | close (m : Close)
  | ping (m : Ping)
  | pong (m : Pong)
  | qualityHint (m : QualityHint)
  | displayLayout (m : DisplayLayout)
  | windowOpened (m : WindowOpened)
  | windowClosed (m : WindowClosed)
  | windowGeometry (m : WindowGeometry)
  | windowTitle (m : WindowTitle)
  | windowState (m : WindowState)
  | windowZOrder (m : WindowZOrder)
  | windowIcon (m : WindowIcon)
  | frameData (m : FrameData)
  | frameAck (m : FrameAck)
  | pointerEvent (m : PointerEvent)
  | keyEvent (m : KeyEvent)
  | textInput (m : TextInput)
  | modifierSync (m : ModifierSync)
  | windowControl (m : WindowControl)
  | cursorShape (m : CursorShape)
  | cursorPosition (m : CursorPosition)
  | cursorVisibility (m : CursorVisibility)
  deriving DecidableEq, Repr

namespace Message

/-- The wire type code for this message. -/
def msgType : Message → UInt8
  | .clientHello _ => MsgType.clientHello
  | .serverHello _ => MsgType.serverHello
  | .error _ => MsgType.error
  | .close _ => MsgType.close
  | .ping _ => MsgType.ping
  | .pong _ => MsgType.pong
  | .qualityHint _ => MsgType.qualityHint
  | .displayLayout _ => MsgType.displayLayout
  | .windowOpened _ => MsgType.windowOpened
  | .windowClosed _ => MsgType.windowClosed
  | .windowGeometry _ => MsgType.windowGeometry
  | .windowTitle _ => MsgType.windowTitle
  | .windowState _ => MsgType.windowState
  | .windowZOrder _ => MsgType.windowZorder
  | .windowIcon _ => MsgType.windowIcon
  | .frameData _ => MsgType.frameData
  | .frameAck _ => MsgType.frameAck
  | .pointerEvent _ => MsgType.pointerEvent
  | .keyEvent _ => MsgType.keyEvent
  | .textInput _ => MsgType.textInput
  | .modifierSync _ => MsgType.modifierSync
  | .windowControl _ => MsgType.windowControl
  | .cursorShape _ => MsgType.cursorShape
  | .cursorPosition _ => MsgType.cursorPosition
  | .cursorVisibility _ => MsgType.cursorVisibility

/-- The channel this message belongs on.  Video rides the per-window channel
that the sender supplies; everything else has a fixed one. -/
def channel (videoChannel : UInt16) : Message → UInt16
  | .frameData _ => videoChannel
  | .pointerEvent _ | .keyEvent _ | .textInput _ | .modifierSync _ | .windowControl _ =>
      Channel.input
  | .cursorShape _ | .cursorPosition _ | .cursorVisibility _ => Channel.cursor
  | .windowOpened _ | .windowClosed _ | .windowGeometry _ | .windowTitle _ | .windowState _
  | .windowZOrder _ | .windowIcon _ => Channel.window
  | _ => Channel.control

/-- The announced size of the body (`Encode::size`). -/
def size : Message → Nat
  | .clientHello m => m.size
  | .serverHello m => m.size
  | .error m => m.size
  | .close m => m.size
  | .ping m => m.size
  | .pong m => m.size
  | .qualityHint m => m.size
  | .displayLayout m => m.size
  | .windowOpened m => m.size
  | .windowClosed m => m.size
  | .windowGeometry m => m.size
  | .windowTitle m => m.size
  | .windowState m => m.size
  | .windowZOrder m => m.size
  | .windowIcon m => m.size
  | .frameData m => m.size
  | .frameAck m => m.size
  | .pointerEvent m => m.size
  | .keyEvent m => m.size
  | .textInput m => m.size
  | .modifierSync m => m.size
  | .windowControl m => m.size
  | .cursorShape m => m.size
  | .cursorPosition m => m.size
  | .cursorVisibility m => m.size

/-- Write the body (`Encode::encode`). -/
def encode : Message → Encoder Unit
  | .clientHello m => m.encode
  | .serverHello m => m.encode
  | .error m => m.encode
  | .close m => m.encode
  | .ping m => m.encode
  | .pong m => m.encode
  | .qualityHint m => m.encode
  | .displayLayout m => m.encode
  | .windowOpened m => m.encode
  | .windowClosed m => m.encode
  | .windowGeometry m => m.encode
  | .windowTitle m => m.encode
  | .windowState m => m.encode
  | .windowZOrder m => m.encode
  | .windowIcon m => m.encode
  | .frameData m => m.encode
  | .frameAck m => m.encode
  | .pointerEvent m => m.encode
  | .keyEvent m => m.encode
  | .textInput m => m.encode
  | .modifierSync m => m.encode
  | .windowControl m => m.encode
  | .cursorShape m => m.encode
  | .cursorPosition m => m.encode
  | .cursorVisibility m => m.encode

/-- Encode just the body, without chunk headers. -/
def encodeBody (m : Message) : EncodeResult (List UInt8) := encodeVec m.size m.encode

/-- A body of a known type. -/
def decodeAs {α : Type} (wrap : α → Message) (d : Decoder α) (body : List UInt8) :
    DecodeResult (Option Message) :=
  (decode d body).map fun m => some (wrap m)

/-- Decode a reassembled `(type, body)` pair, with nothing for a type this build
does not implement. -/
def decodeKnown (msgType : UInt8) (body : List UInt8) : DecodeResult (Option Message) :=
  match msgType with
  | MsgType.clientHello => decodeAs .clientHello ClientHello.decode body
  | MsgType.serverHello => decodeAs .serverHello ServerHello.decode body
  | MsgType.error => decodeAs .error Error.decode body
  | MsgType.close => decodeAs .close Close.decode body
  | MsgType.ping => decodeAs .ping Ping.decode body
  | MsgType.pong => decodeAs .pong Pong.decode body
  | MsgType.qualityHint => decodeAs .qualityHint QualityHint.decode body
  | MsgType.displayLayout => decodeAs .displayLayout DisplayLayout.decode body
  | MsgType.windowOpened => decodeAs .windowOpened WindowOpened.decode body
  | MsgType.windowClosed => decodeAs .windowClosed WindowClosed.decode body
  | MsgType.windowGeometry => decodeAs .windowGeometry WindowGeometry.decode body
  | MsgType.windowTitle => decodeAs .windowTitle WindowTitle.decode body
  | MsgType.windowState => decodeAs .windowState WindowState.decode body
  | MsgType.windowZorder => decodeAs .windowZOrder WindowZOrder.decode body
  | MsgType.windowIcon => decodeAs .windowIcon WindowIcon.decode body
  | MsgType.frameData => decodeAs .frameData FrameData.decode body
  | MsgType.frameAck => decodeAs .frameAck FrameAck.decode body
  | MsgType.pointerEvent => decodeAs .pointerEvent PointerEvent.decode body
  | MsgType.keyEvent => decodeAs .keyEvent KeyEvent.decode body
  | MsgType.textInput => decodeAs .textInput TextInput.decode body
  | MsgType.modifierSync => decodeAs .modifierSync ModifierSync.decode body
  | MsgType.windowControl => decodeAs .windowControl WindowControl.decode body
  | MsgType.cursorShape => decodeAs .cursorShape CursorShape.decode body
  | MsgType.cursorPosition => decodeAs .cursorPosition CursorPosition.decode body
  | MsgType.cursorVisibility => decodeAs .cursorVisibility CursorVisibility.decode body
  | _ => .ok none

/-- The strict form, for which an unknown type is a protocol violation. -/
def decodeBody (msgType : UInt8) (body : List UInt8) : DecodeResult Message := do
  match ← decodeKnown msgType body with
  | some m => pure m
  | none =>
      throw (.invalidField "oxproto message" "type" "unknown message type")

/-- Encode this message into ready-to-send wire chunks. -/
def toChunks (m : Message) (videoChannel : UInt16) : EncodeResult (List (List UInt8)) := do
  let body ← m.encodeBody
  fragment m.msgType (m.channel videoChannel) body

/-! ## The round trip -/

/-- The lists of the message can be counted in one byte. -/
def CountsFit : Message → Prop
  | .clientHello m => m.codecs.length ≤ 255 ∧ m.display.outputs.length ≤ 255
  | .displayLayout m => m.outputs.length ≤ 255
  | _ => True

theorem decodeAs_ok {α : Type} {wrap : α → Message} {d : Decoder α} {body : List UInt8}
    {a : α} (h : decode d body = .ok a) : decodeAs wrap d body = .ok (some (wrap a)) := by
  rw [decodeAs, h]
  rfl

/-- Every encoding of the message has its announced size and decodes to it. -/
def ReadBack (m : Message) : Prop :=
  ∀ body, m.encodeBody = .ok body →
    body.length = m.size ∧ decodeKnown m.msgType body = .ok (some m)

/-- A message is read back if the decoder its type selects reads its body back. -/
theorem readBack_of {α : Type} {m : Message} {wrap : α → Message} {d : Decoder α} {a : α}
    (hround : RoundTrip m.encode d a) (hwrap : wrap a = m)
    (hselect : ∀ body, decodeKnown m.msgType body = decodeAs wrap d body) :
    m.ReadBack := by
  intro body hbody
  obtain ⟨hlen, hdec⟩ := encodeVec_roundTrip hround hbody
  refine ⟨hlen, ?_⟩
  rw [hselect, decodeAs_ok hdec, hwrap]

theorem readBack {m : Message} (hfit : m.CountsFit) : m.ReadBack := by
  cases m with
  | clientHello m => exact readBack_of (ClientHello.roundTrip hfit.1 hfit.2) rfl fun _ => rfl
  | serverHello m => exact readBack_of m.roundTrip rfl fun _ => rfl
  | error m => exact readBack_of m.roundTrip rfl fun _ => rfl
  | close m => exact readBack_of m.roundTrip rfl fun _ => rfl
  | ping m => exact readBack_of m.roundTrip rfl fun _ => rfl
  | pong m => exact readBack_of m.roundTrip rfl fun _ => rfl
  | qualityHint m => exact readBack_of m.roundTrip rfl fun _ => rfl
  | displayLayout m => exact readBack_of (DisplayLayout.roundTrip hfit) rfl fun _ => rfl
  | windowOpened m => exact readBack_of m.roundTrip rfl fun _ => rfl
  | windowClosed m => exact readBack_of m.roundTrip rfl fun _ => rfl
  | windowGeometry m => exact readBack_of m.roundTrip rfl fun _ => rfl
  | windowTitle m => exact readBack_of m.roundTrip rfl fun _ => rfl
  | windowState m => exact readBack_of m.roundTrip rfl fun _ => rfl
  | windowZOrder m => exact readBack_of m.roundTrip rfl fun _ => rfl
  | windowIcon m => exact readBack_of m.roundTrip rfl fun _ => rfl
  | frameData m => exact readBack_of m.roundTrip rfl fun _ => rfl
  | frameAck m => exact readBack_of m.roundTrip rfl fun _ => rfl
  | pointerEvent m => exact readBack_of m.roundTrip rfl fun _ => rfl
  | keyEvent m => exact readBack_of m.roundTrip rfl fun _ => rfl
  | textInput m => exact readBack_of m.roundTrip rfl fun _ => rfl
  | modifierSync m => exact readBack_of m.roundTrip rfl fun _ => rfl
  | windowControl m => exact readBack_of m.roundTrip rfl fun _ => rfl
  | cursorShape m => exact readBack_of m.roundTrip rfl fun _ => rfl
  | cursorPosition m => exact readBack_of m.roundTrip rfl fun _ => rfl
  | cursorVisibility m => exact readBack_of m.roundTrip rfl fun _ => rfl

/-- The body is as long as announced, whatever the message. -/
theorem encodeBody_length {m : Message} {body : List UInt8} (hbody : m.encodeBody = .ok body) :
    body.length = m.size := by
  by_cases hfit : m.CountsFit
  · exact (readBack hfit body hbody).1
  · cases m with
    | clientHello m => exact (encodeVec_roundTrip m.readEntries_roundTrip hbody).1
    | displayLayout m => exact (encodeVec_roundTrip m.readEntries_roundTrip hbody).1
    | _ => exact absurd trivial hfit

/-- What decoded to a message of a type was read by that type's decoder. -/
theorem decodeAs_inv {α : Type} {wrap : α → Message} (hinj : Function.Injective wrap)
    {d : Decoder α} {body : List UInt8} {a : α}
    (h : decodeAs wrap d body = .ok (some (wrap a))) :
    ∃ rest, d.run (Tape.start body) = .ok (a, rest) := by
  unfold decodeAs at h
  cases hdecode : decode d body with
  | error e =>
      rw [hdecode] at h
      cases h
  | ok b =>
      rw [hdecode] at h
      have hb : wrap b = wrap a := Option.some.inj (Except.ok.inj h)
      exact decode_run (hinj hb ▸ hdecode)

/-- A body that decodes to the message it encodes has lists its count bytes can
count: the decoder returns as many entries as the byte says. -/
theorem countsFit_of_decode {m : Message} {body : List UInt8} (hbody : m.encodeBody = .ok body)
    (hdec : decodeKnown m.msgType body = .ok (some m)) : m.CountsFit := by
  cases m with
  | clientHello m =>
      obtain ⟨t₁, htrue⟩ := decode_run (encodeVec_roundTrip m.readEntries_roundTrip hbody).2
      have hinj : Function.Injective Message.clientHello := fun _ _ => clientHello.inj
      obtain ⟨t₂, hread⟩ := decodeAs_inv hinj hdec
      obtain ⟨hcodecs, houtputs⟩ := ClientHello.decode_lengths htrue hread
      rw [saturateU8_toNat] at hcodecs houtputs
      have hc : m.codecs.length ≤ 255 := by omega
      have ho := houtputs hcodecs.symm
      rw [saturateU8_toNat] at ho
      exact ⟨hc, by omega⟩
  | displayLayout m =>
      obtain ⟨t₁, htrue⟩ := decode_run (encodeVec_roundTrip m.readEntries_roundTrip hbody).2
      have hinj : Function.Injective Message.displayLayout := fun _ _ => displayLayout.inj
      obtain ⟨t₂, hread⟩ := decodeAs_inv hinj hdec
      have hlen := DisplayLayout.decode_length htrue hread
      rw [saturateU8_toNat] at hlen
      change m.outputs.length ≤ 255
      omega
  | _ => trivial

/-- **Message round trip.**  An encoded message decodes to itself exactly when
its lists can be counted in one byte. -/
theorem decodeKnown_encodeBody_iff (m : Message) (body : List UInt8)
    (hbody : m.encodeBody = .ok body) :
    decodeKnown m.msgType body = .ok (some m) ↔ m.CountsFit := by
  constructor
  · intro hdec
    exact countsFit_of_decode hbody hdec
  · intro hfit
    exact (readBack hfit body hbody).2

/-- One display comes back. -/
theorem decodeKnown_encodeBody_display :
    decodeKnown MsgType.displayLayout
        [1, 0, 0, 0, 0, 0, 0, 0, 0, 0, 128, 7, 56, 4, 3, 0, 2, 0, 96, 234, 0, 0] =
      .ok (some (.displayLayout ⟨[⟨0, 0, 0, 1920, 1080, 3, 2, 60000⟩]⟩)) :=
  (decodeKnown_encodeBody_iff (.displayLayout ⟨[⟨0, 0, 0, 1920, 1080, 3, 2, 60000⟩]⟩) _
    rfl).mpr (by unfold CountsFit; decide)

/-- A layout of more displays than the byte can count is encoded, but does not
come back. -/
theorem displayLayout_lost (outputs : List Output) (hlen : 255 < outputs.length) :
    ∃ body, encodeBody (.displayLayout ⟨outputs⟩) = .ok body ∧
      decodeKnown (msgType (.displayLayout ⟨outputs⟩)) body ≠
        .ok (some (.displayLayout ⟨outputs⟩)) := by
  obtain ⟨body, hbody⟩ : ∃ body, encodeBody (.displayLayout ⟨outputs⟩) = .ok body :=
    encodeVec_succeeds (DisplayLayout.fills ⟨outputs⟩)
  refine ⟨body, hbody, ?_⟩
  intro hdec
  have hfit : CountsFit (.displayLayout ⟨outputs⟩) := countsFit_of_decode hbody hdec
  have hle : outputs.length ≤ 255 := hfit
  omega

theorem displayLayout_256_lost :
    ∃ body, encodeBody (.displayLayout
          ⟨List.replicate 256 ⟨0, 0, 0, 1920, 1080, 1, 1, 60000⟩⟩) = .ok body ∧
      decodeKnown (msgType (.displayLayout
          ⟨List.replicate 256 ⟨0, 0, 0, 1920, 1080, 1, 1, 60000⟩⟩)) body ≠
        .ok (some (.displayLayout
          ⟨List.replicate 256 ⟨0, 0, 0, 1920, 1080, 1, 1, 60000⟩⟩)) := by
  apply displayLayout_lost
  rw [List.length_replicate]
  decide

end Message

end Oxrdp
