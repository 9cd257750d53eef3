import Oxrdp.Transport.Link

/-!
# The agent side of the handshake

`handshake.rs` of `oxagent`.  Exactly one message is accepted before authentication; the
checks then run in a fixed order, and the first that fails is what the peer is told.
-/

namespace Oxrdp

/-- What the two peers agreed on. -/
structure Negotiated where
  version : UInt16
  features : UInt64
  codec : UInt8
  sessionId : UInt64
  clientName : String
  display : DisplayLayout
  deriving DecidableEq, Repr

/-- Why a handshake did not complete. -/
inductive HandshakeError where
  | io (e : ReadStop)
  | rejected (code : UInt16) (reason : String)
  | timeout
  | busy
  deriving DecidableEq, Repr

/-- Tell the peer why it is refused.  Errors while sending are ignored. -/
def sendRefusal (link : Link) (code : UInt16) (message : String) : Link :=
  let link := (link.writeMessage (.error { code, message }) Channel.control).2
  (link.writeMessage (.close { reason := CloseReason.error }) Channel.control).2

/-- Tell the peer why it was refused, then report the rejection. -/
def reject (link : Link) (code : UInt16) (message reason : String) :
    Except HandshakeError Negotiated × Link :=
  (.error (.rejected code reason), sendRefusal link code message)

/-- The checks on a `ClientHello`, and the reply to one that passes. -/
def answerHello (link : Link) (sessionId : UInt64) (supportedCodecs : List UInt8)
    (verifyToken : String → Bool) (hello : ClientHello) :
    Except HandshakeError Negotiated × Link :=
  if !verifyToken hello.authToken then
    reject link ErrorCode.authFailed "authentication failed" "token mismatch"
  else
    -- highest version both sides support
    let version := min protocolVersion hello.versionMax
    if version < minSupportedVersion ∨ version < hello.versionMin then
      reject link ErrorCode.versionMismatch "no mutually supported protocol version"
        "version ranges do not overlap"
    else
      -- the client's list is in descending preference
      match hello.codecs.find? supportedCodecs.contains with
      | none =>
          reject link ErrorCode.unsupportedCodec "no mutually supported codec"
            "client offered no codec this agent can produce"
      | some chosen =>
          let features := hello.features &&& Feature.supported
          match link.writeMessage (.serverHello { version, features, sessionId, codec := chosen })
              Channel.control with
          | (.error e, link) => (.error (.io (.io e)), link)
          | (.ok (), link) =>
              (.ok { version, features, codec := chosen, sessionId,
                     clientName := hello.clientName, display := hello.display }, link)

/-- Run the agent side of the handshake. -/
def negotiate (link : Link) (r : Reassembler) (sessionId : UInt64)
    (supportedCodecs : List UInt8) (verifyToken : String → Bool) :
    Except HandshakeError Negotiated × Link × Reassembler :=
  match link.readMessage r with
  | (.error e, link, r) => (.error (.io e), link, r)
  | (.ok (some (.clientHello hello)), link, r) =>
      let (result, link) := answerHello link sessionId supportedCodecs verifyToken hello
      (result, link, r)
  | (.ok _, link, r) =>
      let (result, link) := reject link ErrorCode.protocol "expected ClientHello"
        "first message was not a ClientHello"
      (result, link, r)

/-! ## Who gets through -/

section Accepted

variable {link : Link} {sessionId : UInt64} {supportedCodecs : List UInt8}
  {verifyToken : String → Bool} {n : Negotiated}

theorem answerHello_accepted {hello : ClientHello}
    (h : (answerHello link sessionId supportedCodecs verifyToken hello).1 = .ok n) :
    verifyToken hello.authToken = true ∧ n.features = hello.features &&& Feature.supported := by
  unfold answerHello at h
  cases hverify : verifyToken hello.authToken with
  | false =>
      rw [hverify] at h
      cases h
  | true =>
      simp only [hverify, Bool.not_true, Bool.false_eq_true, if_false] at h
      refine ⟨rfl, ?_⟩
      split at h
      · cases h
      · split at h
        · cases h
        · split at h
          · cases h
          · cases h
            rfl

/-- A handshake that succeeds began with a `ClientHello` whose token was verified. -/
theorem negotiate_accepted {r : Reassembler}
    (h : (negotiate link r sessionId supportedCodecs verifyToken).1 = .ok n) :
    ∃ hello, (link.readMessage r).1 = .ok (some (.clientHello hello)) ∧
      verifyToken hello.authToken = true ∧
      n.features = hello.features &&& Feature.supported := by
  unfold negotiate at h
  split at h
  · cases h
  · rename_i hello link' r' hread
    exact ⟨hello, by rw [hread], answerHello_accepted h⟩
  · cases h

end Accepted

end Oxrdp
