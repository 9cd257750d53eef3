import Oxrdp.Transport.Link

/-!
# The client side of the handshake

`ClientSession::connect` of `session.rs`: send the `ClientHello`, then read until the agent
answers.  A type this build does not implement is skipped; anything else that is neither the
answer nor an error is a violation.
-/

namespace Oxrdp

/-- Configuration for `connect`. -/
structure SessionConfig where
  authToken : String
  clientName : String
  codecs : List UInt8
  display : DisplayLayout
  deriving DecidableEq, Repr

/-- The terms of a live session with the agent. -/
structure ClientTerms where
  version : UInt16
  features : UInt64
  codec : UInt8
  sessionId : UInt64
  deriving DecidableEq, Repr

/-- Why `connect` failed. -/
inductive ConnectError where
  | io (e : ReadStop)
  /-- `PermissionDenied`, with the text `"{what}: {message} (code {code})"`. -/
  | permissionDenied (what message : String) (code : UInt16)
  /-- `InvalidData`: expected `ServerHello`, got another type. -/
  | unexpected (msgType : UInt8)
  deriving DecidableEq, Repr

/-- The `ClientHello` for a configuration. -/
def SessionConfig.hello (config : SessionConfig) : ClientHello where
  versionMin := minSupportedVersion
  versionMax := protocolVersion
  features := Feature.supported
  authToken := config.authToken
  clientName := config.clientName
  codecs := config.codecs
  display := config.display

/-- The loop of `connect`. -/
def awaitServerHello (ending : Ending) (unread : List UInt8) (r : Reassembler) :
    Except ConnectError ClientTerms :=
  match _h : readReassembled ending unread r with
  | .error e => .error (.io e)
  | .ok (raw, rest, r) =>
      match Message.decodeKnown raw.msgType raw.payload with
      | .error e => .error (.io (.io (.undecodable e)))
      | .ok (some (.serverHello sh)) =>
          .ok { version := sh.version, features := sh.features &&& Feature.supported,
                codec := sh.codec, sessionId := sh.sessionId }
      | .ok (some (.error e)) =>
          let what :=
            if e.code = ErrorCode.authFailed then "authentication rejected by the agent"
            else "agent refused the session"
          .error (.permissionDenied what e.message e.code)
      | .ok (some other) => .error (.unexpected other.msgType)
      | .ok none => awaitServerHello ending rest r
termination_by unread.length
decreasing_by exact readReassembled_shorter _h

/-- Perform the handshake over an already-connected stream. -/
def connect (link : Link) (config : SessionConfig) : Except ConnectError ClientTerms :=
  match link.writeMessage (.clientHello config.hello) Channel.control with
  | (.error e, _) => .error (.io (.io e))
  | (.ok (), link) => awaitServerHello link.ending link.unread .new

end Oxrdp
