import Oxrdp.Agent.Handshake
import Oxrdp.Client.Connect

/-!
# Both ends of the handshake agree

The agent accepts a first message exactly if it is a `ClientHello` that passes every check;
then the client that reads the reply ends with the terms the agent returned.  Otherwise the
peer is sent one `Error`, with the code of the first check that failed, and one `Close`.
-/

namespace Oxrdp

/-- A version that both ends accept. -/
def Common (hello : ClientHello) (version : UInt16) : Prop :=
  (minSupportedVersion ≤ version ∧ version ≤ protocolVersion) ∧
    hello.versionMin ≤ version ∧ version ≤ hello.versionMax

/-- The code of the first check that fails: the type of the message, its token, its versions,
its codecs. -/
inductive FirstFailure (supportedCodecs : List UInt8) (verifyToken : String → Bool) :
    Option Message → UInt16 → Prop
  | notHello {first : Option Message} (h : ∀ hello, first ≠ some (.clientHello hello)) :
      FirstFailure supportedCodecs verifyToken first ErrorCode.protocol
  | token {hello : ClientHello} (htoken : verifyToken hello.authToken = false) :
      FirstFailure supportedCodecs verifyToken (some (.clientHello hello)) ErrorCode.authFailed
  | version {hello : ClientHello} (htoken : verifyToken hello.authToken = true)
      (hversion : ∀ v, ¬ Common hello v) :
      FirstFailure supportedCodecs verifyToken (some (.clientHello hello))
        ErrorCode.versionMismatch
  | codec {hello : ClientHello} (htoken : verifyToken hello.authToken = true)
      (hversion : ∃ v, Common hello v) (hcodec : ∀ c ∈ hello.codecs, c ∉ supportedCodecs) :
      FirstFailure supportedCodecs verifyToken (some (.clientHello hello))
        ErrorCode.unsupportedCodec

/-- The terms are the best for both: the highest common version, the first offered codec
that is supported, and the features that both have. -/
structure Agreed (supportedCodecs : List UInt8) (sessionId : UInt64) (hello : ClientHello)
    (n : Negotiated) : Prop where
  version : Common hello n.version
  highest : ∀ v, Common hello v → v ≤ n.version
  codec : ∃ before after, hello.codecs = before ++ n.codec :: after ∧
    n.codec ∈ supportedCodecs ∧ ∀ c ∈ before, c ∉ supportedCodecs
  features : n.features = hello.features &&& Feature.supported
  sessionId : n.sessionId = sessionId
  clientName : n.clientName = hello.clientName
  display : n.display = hello.display

/-- The reply that carries the terms. -/
def Negotiated.reply (n : Negotiated) : Message :=
  .serverHello
    { version := n.version, features := n.features, sessionId := n.sessionId, codec := n.codec }

/-- The terms as the client holds them. -/
def Negotiated.asClient (n : Negotiated) : ClientTerms :=
  { version := n.version, features := n.features, codec := n.codec, sessionId := n.sessionId }

/-! ## The highest common version -/

/-- The lesser of two versions, as the source computes it. -/
theorem min_eq_ite (a b : UInt16) : min a b = if a ≤ b then a else b := rfl

/-- The lesser version is no greater than either. -/
theorem min_le_both (a b : UInt16) : min a b ≤ a ∧ min a b ≤ b := by
  rw [min_eq_ite]
  split
  · rename_i hab
    exact ⟨UInt16.le_refl a, hab⟩
  · rename_i hab
    exact ⟨UInt16.le_of_lt (UInt16.not_le.mp hab), UInt16.le_refl b⟩

/-- It is the greatest that both know. -/
theorem le_min_of_both {a b v : UInt16} (ha : v ≤ a) (hb : v ≤ b) : v ≤ min a b := by
  rw [min_eq_ite]
  split
  · exact ha
  · exact hb

/-- The check that the agent makes is that the two ranges meet, and the version it takes is
the highest of those in both. -/
theorem common_min (hello : ClientHello) :
    if min protocolVersion hello.versionMax < minSupportedVersion ∨
        min protocolVersion hello.versionMax < hello.versionMin then
      ∀ v, ¬ Common hello v
    else
      Common hello (min protocolVersion hello.versionMax) ∧
        ∀ v, Common hello v → v ≤ min protocolVersion hello.versionMax := by
  obtain ⟨hleft, hright⟩ := min_le_both protocolVersion hello.versionMax
  split
  · rename_i hlow
    intro v hv
    have hle : v ≤ min protocolVersion hello.versionMax := le_min_of_both hv.1.2 hv.2.2
    rcases hlow with hmin | hvmin
    · exact UInt16.not_le.mpr hmin (UInt16.le_trans hv.1.1 hle)
    · exact UInt16.not_le.mpr hvmin (UInt16.le_trans hv.2.1 hle)
  · rename_i hok
    rw [not_or, UInt16.not_lt, UInt16.not_lt] at hok
    exact ⟨⟨⟨hok.1, hleft⟩, hok.2, hright⟩, fun v hv => le_min_of_both hv.1.2 hv.2.2⟩

/-! ## What the agent does -/

/-- An error with a short text is one chunk. -/
theorem oneChunk_error {code : UInt16} {message : String}
    (h : message.utf8ByteSize ≤ 1024) : OneChunk (.error { code, message }) where
  fit := trivial
  encodes := encodeVec_succeeds (Error.fills (by simp only; omega))
  size := by
    have hmax : maxMessageLen (Message.error { code, message }).msgType = 8192 := rfl
    simp only [Message.size, Error.size, stringSize, hmax, maxChunkPayload]
    omega

/-- A reply is one chunk. -/
theorem oneChunk_reply (n : Negotiated) : OneChunk n.reply where
  fit := trivial
  encodes := encodeVec_succeeds (ServerHello.fills _)
  size := by
    have hsize : 19 ≤ maxChunkPayload ∧ 19 ≤ maxMessageLen MsgType.serverHello := by decide
    exact hsize

/-- What the agent does with the first message, its writes succeeding. -/
inductive HandshakeOutcome (link : Link) (sessionId : UInt64) (supportedCodecs : List UInt8)
    (verifyToken : String → Bool) (first : Option Message) :
    Except HandshakeError Negotiated × Link → Prop
  | refused {code : UInt16} {message reason : String}
      (hfirst : FirstFailure supportedCodecs verifyToken first code)
      (hshort : message.utf8ByteSize ≤ 1024) :
      HandshakeOutcome link sessionId supportedCodecs verifyToken first
        (reject link code message reason)
  | accepted {hello : ClientHello} {n : Negotiated} {link' : Link}
      (hfirst : first = some (.clientHello hello))
      (htoken : verifyToken hello.authToken = true)
      (hterms : Agreed supportedCodecs sessionId hello n)
      (hsent : link'.sent = link.sent ++ wire n.reply) :
      HandshakeOutcome link sessionId supportedCodecs verifyToken first (.ok n, link')

variable {link : Link} {sessionId : UInt64} {supportedCodecs : List UInt8}
  {verifyToken : String → Bool}

/-- **The answer to a hello**, by the first check that fails. -/
theorem answerHello_outcome (hwrites : ∀ k, link.writeFails k = none) (hello : ClientHello) :
    HandshakeOutcome link sessionId supportedCodecs verifyToken (some (.clientHello hello))
      (answerHello link sessionId supportedCodecs verifyToken hello) := by
  have hmin := common_min hello
  unfold answerHello
  by_cases htoken : verifyToken hello.authToken = true
  · rw [if_neg (by simp [htoken])]
    simp only
    split at hmin
    · rename_i hlow
      rw [if_pos hlow]
      exact .refused (.version htoken hmin) (by decide)
    · rename_i hok
      rw [if_neg hok]
      cases hfind : hello.codecs.find? supportedCodecs.contains with
      | none =>
          have hnone : ∀ c ∈ hello.codecs, c ∉ supportedCodecs := by
            simpa using List.find?_eq_none.mp hfind
          exact .refused (.codec htoken ⟨_, hmin.1⟩ hnone) (by decide)
      | some chosen =>
          obtain ⟨hsup, before, after, hcodecs, hbefore⟩ :=
            List.find?_eq_some_iff_append.mp hfind
          let n : Negotiated :=
            { version := min protocolVersion hello.versionMax,
              features := hello.features &&& Feature.supported, codec := chosen, sessionId,
              clientName := hello.clientName, display := hello.display }
          have hterms : Agreed supportedCodecs sessionId hello n :=
            ⟨hmin.1, hmin.2, ⟨before, after, hcodecs, by simpa using hsup,
              by simpa using hbefore⟩, rfl, rfl, rfl, rfl⟩
          obtain ⟨body, hbody⟩ := (oneChunk_reply n).encodes
          obtain ⟨link', hlink', -, -⟩ := Link.writeMessage_ok hwrites hbody Channel.control
          have hsent := (Link.writeMessage_sent hwrites n.reply).1
          rw [hlink'] at hsent
          have hreply : link.writeMessage (.serverHello
              { version := min protocolVersion hello.versionMax,
                features := hello.features &&& Feature.supported, sessionId,
                codec := chosen }) Channel.control = (.ok (), link') := hlink'
          simp only [hreply]
          exact .accepted rfl htoken hterms hsent
  · rw [if_pos (by simpa using htoken)]
    exact .refused (.token (by simpa using htoken)) (by decide)

/-- Reading sends nothing. -/
theorem readMessage_sent {r r₁ : Reassembler} {link₁ : Link}
    {res : Except ReadStop (Option Message)} (h : link.readMessage r = (res, link₁, r₁)) :
    link₁.sent = link.sent ∧ link₁.writeFails = link.writeFails := by
  unfold Link.readMessage at h
  split at h
  · cases h
    exact ⟨rfl, rfl⟩
  · split at h
    · cases h
      exact ⟨rfl, rfl⟩
    · cases h
      exact ⟨rfl, rfl⟩

/-- The handshake is the first message and what is done with it. -/
theorem negotiate_outcome {r r₁ : Reassembler} {link₁ : Link} {first : Option Message}
    (hread : link.readMessage r = (.ok first, link₁, r₁))
    (hwrites : ∀ k, link.writeFails k = none) :
    ∃ out, negotiate link r sessionId supportedCodecs verifyToken = (out.1, out.2, r₁) ∧
      HandshakeOutcome link₁ sessionId supportedCodecs verifyToken first out := by
  have hwrites₁ : ∀ k, link₁.writeFails k = none := by
    rw [(readMessage_sent hread).2]
    exact hwrites
  unfold negotiate
  rw [hread]
  by_cases hhello : ∃ hello, first = some (.clientHello hello)
  · obtain ⟨hello, rfl⟩ := hhello
    exact ⟨_, rfl, answerHello_outcome hwrites₁ hello⟩
  · have hnot : ∀ hello, first ≠ some (.clientHello hello) := by
      intro hello heq
      exact hhello ⟨hello, heq⟩
    have hrefused : HandshakeOutcome link₁ sessionId supportedCodecs verifyToken first
        (reject link₁ ErrorCode.protocol "expected ClientHello"
          "first message was not a ClientHello") := .refused (.notHello hnot) (by decide)
    refine ⟨_, ?_, hrefused⟩
    cases first with
    | none => rfl
    | some m =>
        cases m with
        | clientHello hello => exact absurd rfl (hnot hello)
        | _ => rfl

/-- A refusal sends the error and says goodbye. -/
theorem sendRefusal_sent (hwrites : ∀ k, link.writeFails k = none) (code : UInt16)
    (message : String) :
    (sendRefusal link code message).sent =
      link.sent ++ wire (.error { code, message }) ++
        wire (.close { reason := CloseReason.error }) := by
  obtain ⟨hfirst, hkeep⟩ := Link.writeMessage_sent hwrites (.error { code, message })
  have hwrites' : ∀ k, (link.writeMessage (.error { code, message })
      Channel.control).2.writeFails k = none := by
    rw [hkeep]
    exact hwrites
  have hsecond := (Link.writeMessage_sent hwrites' (.close { reason := CloseReason.error })).1
  rw [hfirst] at hsecond
  exact hsecond

/-! ## What the client does -/

/-- The client waits for the first message that it knows. -/
theorem awaitServerHello_eq (ending : Ending) (unread : List UInt8) (r : Reassembler) :
    awaitServerHello ending unread r =
      match readReassembled ending unread r with
      | .error e => .error (.io e)
      | .ok (raw, rest, r) =>
          match Message.decodeKnown raw.msgType raw.payload with
          | .error e => .error (.io (.io (.undecodable e)))
          | .ok (some (.serverHello sh)) =>
              .ok { version := sh.version, features := sh.features &&& Feature.supported,
                    codec := sh.codec, sessionId := sh.sessionId }
          | .ok (some (.error e)) =>
              .error (.permissionDenied
                (if e.code = ErrorCode.authFailed then "authentication rejected by the agent"
                  else "agent refused the session") e.message e.code)
          | .ok (some other) => .error (.unexpected other.msgType)
          | .ok none => awaitServerHello ending rest r := by
  rw [awaitServerHello]
  split
  · rename_i e h
    rw [h]
  · rename_i raw rest r' h
    exact h ▸ rfl

/-- A client that reads the reply holds the agent's terms. -/
theorem connect_reply {peer : Link} {config : SessionConfig} {n : Negotiated}
    {rest body : List UInt8} (hfeatures : n.features &&& Feature.supported = n.features)
    (hunread : peer.unread = wire n.reply ++ rest)
    (hwrites : ∀ k, peer.writeFails k = none)
    (hbody : Message.encodeBody (.clientHello config.hello) = .ok body) :
    connect peer config = .ok n.asClient := by
  obtain ⟨peer', hpeer', hsame, hend⟩ := Link.writeMessage_ok hwrites hbody Channel.control
  obtain ⟨replyBody, hread, hdec⟩ :=
    readReassembled_wire (oneChunk_reply n) peer.ending rest
  unfold connect
  rw [hpeer']
  simp only [hsame, hend, hunread]
  rw [awaitServerHello_eq, hread]
  simp only [hdec]
  simp only [Negotiated.reply, Negotiated.asClient, hfeatures]

/-! ## Agreement -/

/-- The conditions of acceptance. -/
def Acceptable (supportedCodecs : List UInt8) (verifyToken : String → Bool)
    (first : Option Message) : Prop :=
  ∃ hello, first = some (.clientHello hello) ∧ verifyToken hello.authToken = true ∧
    (∃ v, Common hello v) ∧ ∃ c ∈ hello.codecs, c ∈ supportedCodecs

/-- A message that fails a check is not acceptable. -/
theorem FirstFailure.not_acceptable {first : Option Message} {code : UInt16}
    (h : FirstFailure supportedCodecs verifyToken first code) :
    ¬ Acceptable supportedCodecs verifyToken first := by
  rintro ⟨hello, heq, htoken, hversion, c, hmem, hsupported⟩
  cases h with
  | notHello hnot => exact hnot hello heq
  | token hfails =>
      cases heq
      rw [htoken] at hfails
      cases hfails
  | version _ hnone =>
      cases heq
      obtain ⟨v, hv⟩ := hversion
      exact hnone v hv
  | codec _ _ hnone =>
      cases heq
      exact hnone c hmem hsupported

/-- The agreed features are all supported. -/
theorem Agreed.supported {sessionId : UInt64} {hello : ClientHello} {n : Negotiated}
    (h : Agreed supportedCodecs sessionId hello n) :
    n.features &&& Feature.supported = n.features := by
  rw [h.features, UInt64.and_assoc, UInt64.and_self]

/-- **Handshake agreement.**  The agent accepts a first message exactly if it passes every
check; the terms are then the best for both and the client that reads the reply holds the
same; otherwise one `Error` with the code of the first failing check and one `Close` are
sent, and that is all. -/
theorem negotiate_agreement (link : Link) (r : Reassembler) (sessionId : UInt64)
    (supportedCodecs : List UInt8) (verifyToken : String → Bool) (first : Option Message)
    (link₁ : Link) (r₁ : Reassembler)
    (hread : link.readMessage r = (.ok first, link₁, r₁))
    (hwrites : ∀ k, link.writeFails k = none) :
    let out := negotiate link r sessionId supportedCodecs verifyToken
    ((∃ n, out.1 = .ok n) ↔ Acceptable supportedCodecs verifyToken first) ∧
      (∀ n, out.1 = .ok n → ∃ hello, first = some (.clientHello hello) ∧
        Agreed supportedCodecs sessionId hello n ∧ out.2.1.sent = link.sent ++ wire n.reply ∧
        ∀ (peer : Link) (config : SessionConfig) (rest body : List UInt8),
          peer.unread = wire n.reply ++ rest → (∀ k, peer.writeFails k = none) →
            Message.encodeBody (.clientHello config.hello) = .ok body →
              connect peer config = .ok n.asClient) ∧
      (∀ e, out.1 = .error e → ∃ code message reason, e = .rejected code reason ∧
        FirstFailure supportedCodecs verifyToken first code ∧
        OneChunk (.error { code, message }) ∧
        out.2.1.sent = link.sent ++ wire (.error { code, message }) ++
          wire (.close { reason := CloseReason.error })) := by
  intro out
  obtain ⟨res, hres, houtcome⟩ :=
    @negotiate_outcome link sessionId supportedCodecs verifyToken r r₁ link₁ first hread hwrites
  obtain ⟨hsent, hkeep⟩ := readMessage_sent hread
  have hout : out = (res.1, res.2, r₁) := hres
  rw [hout]
  cases houtcome with
  | @refused code message reason hfirst hshort =>
      have hwrites₁ : ∀ k, link₁.writeFails k = none := by
        rw [hkeep]
        exact hwrites
      refine ⟨⟨?_, ?_⟩, ?_, ?_⟩
      · rintro ⟨n, hn⟩
        cases hn
      · intro hacceptable
        exact absurd hacceptable hfirst.not_acceptable
      · intro n hn
        cases hn
      · intro e he
        cases he
        refine ⟨code, message, reason, rfl, hfirst, oneChunk_error hshort, ?_⟩
        rw [← hsent]
        exact sendRefusal_sent hwrites₁ code message
  | @accepted hello n link' hfirst htoken hterms hsent' =>
      obtain ⟨before, after, hcodecs, hsupported, -⟩ := hterms.codec
      have hmem : n.codec ∈ hello.codecs := by simp [hcodecs]
      refine ⟨⟨?_, ?_⟩, ?_, ?_⟩
      · intro _
        exact ⟨hello, hfirst, htoken, ⟨n.version, hterms.version⟩, n.codec, hmem, hsupported⟩
      · intro _
        exact ⟨n, rfl⟩
      · intro n' hn'
        cases hn'
        refine ⟨hello, hfirst, hterms, by rw [← hsent]; exact hsent', ?_⟩
        intro peer config rest body hunread hpeer hbody
        exact connect_reply hterms.supported hunread hpeer hbody
      · intro e he
        cases he

/-- A client newer than the agent, that prefers a codec the agent does not have. -/
def tokenHello : ClientHello where
  versionMin := 1
  versionMax := 9
  features := 0xff
  authToken := "token"
  clientName := "laptop"
  codecs := [7, 1, 2]
  display := ⟨[]⟩

/-- The hello of the example is one chunk. -/
theorem oneChunk_tokenHello : OneChunk (.clientHello tokenHello) where
  fit := ⟨by decide, by decide⟩
  encodes := ⟨_, rfl⟩
  size := by decide

/-- The connection on which `tokenHello` has arrived. -/
def tokenLink : Link where
  unread := wire (.clientHello tokenHello)
  ending := .eof

/-- It is read off the link. -/
theorem tokenLink_readMessage :
    tokenLink.readMessage .new =
      (.ok (some (.clientHello tokenHello)), { tokenLink with unread := [] }, .new) :=
  readMessage_wire oneChunk_tokenHello (List.append_nil _).symm

/-- That client is accepted, with the codec it prefers among those the agent has. -/
theorem negotiate_agreement_token :
    ∃ n, (negotiate tokenLink .new 5 [2, 1] (fun t => t == "token")).1 = .ok n ∧
      Agreed [2, 1] 5 tokenHello n := by
  obtain ⟨haccepts, hterms, -⟩ := negotiate_agreement tokenLink .new 5 [2, 1]
    (fun t => t == "token") (some (.clientHello tokenHello)) { tokenLink with unread := [] }
    .new tokenLink_readMessage (fun _ => rfl)
  have hacceptable : Acceptable [2, 1] (fun t => t == "token")
      (some (.clientHello tokenHello)) :=
    ⟨tokenHello, rfl, by decide, ⟨1, by unfold Common; decide⟩, 1, by decide, by decide⟩
  obtain ⟨n, hn⟩ := haccepts.mpr hacceptable
  obtain ⟨hello, heq, hagreed, -⟩ := hterms n hn
  cases heq
  exact ⟨n, hn, hagreed⟩

end Oxrdp
