import Oxrdp.Pdu.ClientInfo
import Oxrdp.Pdu.ConnectInitial
import Oxrdp.Pdu.Framing

/-!
# The lengths that the builders write

The three builders of the client: `wrap_mcs`, `ConnectInitial::to_bytes` and
`ClientInfo::to_bytes`.  None of them checks that a length fits its field.  What they
write can be followed exactly as long as every length does fit.
-/

namespace Oxrdp

open Coder

/-! ## Frames -/

/-- The TPKT length is that of the whole frame, and the payload is found. -/
structure Framed (payload frame : List UInt8) : Prop where
  counted : ∃ h : TpktHeader, decode TpktHeader.decode frame = .ok h ∧
    h.length.toNat = frame.length
  recovered : mcsPayload frame = .ok payload

/-- A frame is right iff its length fits the TPKT header. -/
theorem framed_iff {payload frame : List UInt8} (h : wrapMcs payload = .ok frame) :
    Framed payload frame ↔ payload.length + 7 < 2 ^ 16 := by
  rw [wrapMcs_eq] at h
  cases h
  constructor
  · intro hframed
    exact mcsPayload_short hframed.recovered
  · intro hfit
    refine ⟨⟨_, decode_frameHeader ?_ ?_ payload, ?_⟩, mcsPayload_frame hfit⟩
    · change 7 ≤ 7 + payload.length
      omega
    · change 7 + payload.length < 2 ^ 16
      omega
    · rw [List.length_append, frameHeader_length]
      exact UInt16.toNat_ofNat_of_lt' (by
        change 7 + payload.length < 65536
        omega)

/-! ## The builders -/

/-- A call of one of the three builders. -/
inductive Build where
  | wrapMcs (payload : List UInt8)
  | connectInitial (m : ConnectInitial)
  | clientInfo (m : ClientInfo)

namespace Build

/-- What the call returns. -/
def bytes : Build → EncodeResult (List UInt8)
  | wrapMcs payload => Oxrdp.wrapMcs payload
  | connectInitial m => m.toBytes
  | clientInfo m => m.toBytes

/-- A reader that follows every length finds what was put in, each length ends where the
part ends that it counts, and no byte is left over. -/
def Followable : Build → List UInt8 → Prop
  | wrapMcs payload, out => Framed payload out
  | connectInitial m, out =>
      ∃ ud, m.userData = .ok ud ∧ ConnectInitial.follow out = .ok (m.contents ud)
  | clientInfo m, out => ClientInfo.follow out = .ok m.contents

/-- Every length fits the field that it is written to. -/
def Fits : Build → Prop
  | wrapMcs payload => payload.length + 7 < 2 ^ 16
  | connectInitial m => m.network.channels.length ≤ 2709
  | clientInfo m => m.Fits

/-- **What a builder writes can be followed iff every length fits its field.** -/
theorem followable_iff_fits (b : Build) {out : List UInt8} (h : b.bytes = .ok out) :
    b.Followable out ↔ b.Fits := by
  cases b with
  | wrapMcs payload => exact framed_iff h
  | connectInitial m =>
      obtain ⟨ud, hud⟩ := ConnectInitial.toBytes_ok h
      have hiff := ConnectInitial.follow_iff hud h
      constructor
      · rintro ⟨ud', hud', hfollow⟩
        rw [hud] at hud'
        cases hud'
        exact hiff.mp hfollow
      · intro hfits
        exact ⟨ud, hud, hiff.mpr hfits⟩
  | clientInfo m => exact ClientInfo.follow_iff h

/-- A file name of 64 zero bytes fills its field. -/
theorem length_noImeFile : (List.replicate 64 (0 : UInt8)).length = 64 := List.length_replicate

/-- The Connect-Initial of a client that asks for two channels. -/
def twoChannels : ConnectInitial where
  core :=
    { version := 0x00080004, desktopWidth := 1024, desktopHeight := 768, colorDepth := 0xCA01
      sasSequence := 0xAA03, keyboardLayout := 0x409, clientBuild := 2600
      clientName := ⟨[0x6F, 0, 0x78, 0] ++ List.replicate 28 0, rfl⟩
      keyboardType := 4, keyboardSubtype := 0, keyboardFunctionKey := 12
      imeFileName := ⟨List.replicate 64 0, length_noImeFile⟩ }
  security := { encryptionMethods := 0, extEncryptionMethods := 0 }
  network :=
    { channels :=
        [{ name := ⟨[0x63, 0x6C, 0x69, 0x70, 0x72, 0x64, 0x72, 0], rfl⟩, options := 0xC0A00000 },
         { name := ⟨[0x64, 0x72, 0x64, 0x79, 0x6E, 0x76, 0x63, 0], rfl⟩,
           options := 0xC0000000 }] }

/-- A Connect-Initial of 390 bytes.  Four lengths are nested in it, those of the message, the
GCC part, the request and the user data, and each takes more than one byte. -/
theorem followable_iff_fits_twoChannels :
    ∃ out, (connectInitial twoChannels).bytes = .ok out ∧ out.length = 390 ∧
      (connectInitial twoChannels).Followable out := by
  obtain ⟨out, hout, hlength⟩ :
      ∃ out, (connectInitial twoChannels).bytes = .ok out ∧ out.length = 390 :=
    ⟨(connectInitial twoChannels).bytes.toOption.getD [], by decide +kernel, by decide +kernel⟩
  have hfits : (connectInitial twoChannels).Fits := by
    change twoChannels.network.channels.length ≤ 2709
    decide
  exact ⟨out, hout, hlength, (followable_iff_fits (connectInitial twoChannels) hout).mpr hfits⟩

/-- A payload of 65529 bytes is wrapped, but does not come back. -/
theorem wrapped_payload_lost :
    ∃ out, (wrapMcs (List.replicate 65529 0)).bytes = .ok out ∧
      mcsPayload out ≠ .ok (List.replicate 65529 0) := by
  refine ⟨_, wrapMcs_eq _, ?_⟩
  intro hback
  have hshort := mcsPayload_short hback
  rw [List.length_replicate] at hshort
  omega

end Build

end Oxrdp
