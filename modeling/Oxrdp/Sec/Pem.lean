import Oxrdp.Lib.Effect
import Oxrdp.Lib.TextualEncoding
import Oxrdp.Sec.Pin

/-!
# PEM

`pem_block` of `oxsec` writes the agent's certificate and key, with an encoder of base64 of its
own: three bytes are shifted into one word, and its four groups of six bits looked up in a
table.  It is the standard encoder (`encodeChunk_eq`), so that what is written can be read.

The agent writes its identity at its first start and reads it at every later one.  A start is
what `load_or_generate` does with the two files and with what it finds outside: `identity_kept`
says that all later starts return what the first one made.
-/

namespace Oxrdp

open Chunks

def pemTable : List Char :=
  "ABCDEFGHIJKLMNOPQRSTUVWXYZabcdefghijklmnopqrstuvwxyz0123456789+/".toList

/-- The character of the last six bits, which are below the length of the table. -/
def pemChar (value : UInt32) : Char := pemTable.getD (value &&& 0x3f).toNat '='

/-- The four characters of a chunk, which is not empty. -/
def encodeChunk (chunk : List UInt8) : List Char :=
  let first := chunk.getD 0 0
  let second := chunk.getD 1 0
  let third := chunk.getD 2 0
  let value := (first.toUInt32 <<< 16) ||| (second.toUInt32 <<< 8) ||| third.toUInt32
  [pemChar (value >>> 18), pemChar (value >>> 12),
    if 1 < chunk.length then pemChar (value >>> 6) else '=',
    if 2 < chunk.length then pemChar value else '=']

def writeLine (pem : String) (line : List UInt8) : Except SecError String :=
  match strFromUtf8 line with
  | some line => .ok (pem ++ (line ++ "\n"))
  | none => .error .invalidCertificate

/-- A DER value between the boundaries of a label, in lines of 64 characters. -/
def pemBlock (label : String) (der : List UInt8) : Except SecError String := do
  let body := String.ofList ((chunks 3 der).flatMap encodeChunk)
  let pem ← (chunks 64 (strBytes body)).foldlM writeLine ("-----BEGIN " ++ label ++ "-----\n")
  pure (pem ++ ("-----END " ++ label ++ "-----\n"))

/-! ## The encoder -/

/-- The table of the source is that of base64. -/
theorem pemChar_eq (value : UInt32) : pemChar value = Base64.digit value.toNat := by
  have hlow : (value &&& 0x3f).toNat = value.toNat % 64 := by
    rw [UInt32.toNat_and]
    exact Nat.and_two_pow_sub_one_eq_mod _ 6
  rw [pemChar, hlow]
  rfl

/-- Three bytes are one number. -/
theorem value_toNat (a b c : UInt8) :
    ((a.toUInt32 <<< 16) ||| (b.toUInt32 <<< 8) ||| c.toUInt32).toNat =
      a.toNat * 65536 + b.toNat * 256 + c.toNat := by
  have ha := a.toNat_lt
  have hb := b.toNat_lt
  have hc := c.toNat_lt
  have hfirst : (a.toUInt32 <<< 16).toNat = (a.toNat <<< 8) <<< 8 := by
    rw [UInt32.toNat_shiftLeft, UInt8.toNat_toUInt32, Nat.shiftLeft_eq, Nat.shiftLeft_eq,
      Nat.shiftLeft_eq]
    simp only [UInt32.reduceToNat, Nat.reduceMod, Nat.reducePow]
    omega
  have hsecond : (b.toUInt32 <<< 8).toNat = b.toNat <<< 8 := by
    rw [UInt32.toNat_shiftLeft, UInt8.toNat_toUInt32, Nat.shiftLeft_eq, Nat.shiftLeft_eq]
    simp only [UInt32.reduceToNat, Nat.reduceMod, Nat.reducePow]
    omega
  rw [UInt32.toNat_or, UInt32.toNat_or, hfirst, hsecond, UInt8.toNat_toUInt32,
    ← Nat.shiftLeft_or_distrib, ← Nat.shiftLeft_add_eq_or_of_lt hb,
    ← Nat.shiftLeft_add_eq_or_of_lt hc, Nat.shiftLeft_eq, Nat.shiftLeft_eq]
  omega

/-- The digit of six bits further up. -/
theorem pemChar_shift (value : UInt32) {k : UInt32} (h : k.toNat < 32) :
    pemChar (value >>> k) = Base64.digit (value.toNat / 2 ^ k.toNat) := by
  rw [pemChar_eq, UInt32.toNat_shiftRight, Nat.mod_eq_of_lt h, Nat.shiftRight_eq_div_pow]

/-- Each chunk is written as the standard encoder writes it. -/
theorem encodeChunk_eq {chunk : List UInt8} (hlen : chunk.length ≤ 3) (hne : chunk ≠ []) :
    encodeChunk chunk = Base64.piece chunk := by
  have h18 := fun value => pemChar_shift value (k := 18) (by decide)
  have h12 := fun value => pemChar_shift value (k := 12) (by decide)
  have h6 := fun value => pemChar_shift value (k := 6) (by decide)
  simp only [UInt32.reduceToNat, Nat.reducePow] at h18 h12 h6
  unfold encodeChunk
  simp only [h18, h12, h6, pemChar_eq, value_toNat]
  rcases chunk with _ | ⟨a, _ | ⟨b, _ | ⟨c, _ | ⟨d, rest⟩⟩⟩⟩
  · exact absurd rfl hne
  · simp [Base64.piece, Base64.group]
  · simp [Base64.piece, Base64.group]
  · simp [Base64.piece, Base64.group]
  · simp only [List.length_cons] at hlen
    omega

/-- The body is the base64 of all bytes. -/
theorem body_eq (der : List UInt8) : (chunks 3 der).flatMap encodeChunk = Base64.encode der :=
  List.flatMap_congr fun _ hchunk => encodeChunk_eq (length_le_of_mem hchunk) (ne_nil_of_mem hchunk)

/-! ## The lines -/

section Lines

variable {cs : List Char}

/-- ASCII characters are their bytes. -/
theorem strBytes_ofList (h : ∀ c ∈ cs, c.toNat < 128) :
    strBytes (String.ofList cs) = cs.map Ascii.byte := by
  have hbytes : ∀ b ∈ cs.map Ascii.byte, b < 128 := by
    intro b hb
    obtain ⟨c, hc, rfl⟩ := List.mem_map.mp hb
    exact Ascii.byte_lt (h c hc)
  rw [strBytes, ← Ascii.text_map_byte h, Ascii.toByteArray_text hbytes, List.data_toByteArray]

/-- Bytes of ASCII characters are read as those. -/
theorem strFromUtf8_map_byte (h : ∀ c ∈ cs, c.toNat < 128) :
    strFromUtf8 (cs.map Ascii.byte) = some (String.ofList cs) := by
  rw [← strBytes_ofList h, strFromUtf8_strBytes]

end Lines

/-- Lines of ASCII are written one after the other. -/
theorem foldlM_writeLine {lines : List (List Char)}
    (hascii : ∀ line ∈ lines, ∀ c ∈ line, c.toNat < 128) (pem : String) :
    (lines.map (List.map Ascii.byte)).foldlM writeLine pem =
      .ok (pem ++ String.ofList (lines.flatMap fun line => line ++ ['\n'])) := by
  induction lines generalizing pem with
  | nil => exact congrArg Except.ok (by simp)
  | cons line lines ih =>
      have hline : writeLine pem (line.map Ascii.byte) =
          .ok (pem ++ String.ofList (line ++ ['\n'])) := by
        rw [writeLine, strFromUtf8_map_byte (hascii line List.mem_cons_self), String.ofList_append]
      have hrest := ih (fun l hl => hascii l (List.mem_cons_of_mem line hl))
        (pem ++ String.ofList (line ++ ['\n']))
      rw [String.append_assoc, ← String.ofList_append] at hrest
      rw [List.map_cons, List.foldlM_cons, hline, List.flatMap_cons]
      exact hrest

/-- The lines of the base64 text of a value. -/
def pemLines (der : List UInt8) : List (List Char) := chunks 64 (Base64.encode der)

/-- A line of the body has none of the characters that end lines. -/
theorem pemLines_plain {der : List UInt8} {line : List Char} (hline : line ∈ pemLines der)
    {c : Char} (hc : c ∈ line) : c ≠ '\n' ∧ c ≠ '\r' ∧ c.toNat < 128 :=
  Base64.encode_plain (mem_of_mem_chunks hline hc)

/-- No line of the text ends within itself. -/
theorem lines_whole {der : List UInt8} {line : List Char} (hline : line ∈ pemLines der) :
    '\n' ∉ line ∧ '\r' ∉ line :=
  ⟨fun h => (pemLines_plain hline h).1 rfl, fun h => (pemLines_plain hline h).2.1 rfl⟩

/-- The lines of a body together decode to its bytes. -/
theorem decode_pemLines (der : List UInt8) : Base64.decode (pemLines der).flatten = some der := by
  rw [pemLines, flatten_chunks (by decide), Base64.decode_encode]

/-- A line around the data. -/
theorem boundary_eq (front label : String) :
    front ++ label ++ "-----\n" =
      String.ofList (front.toList ++ label.toList ++ "-----".toList ++ ['\n']) := by
  have hend : "-----\n" = "-----" ++ String.ofList ['\n'] := by decide
  rw [hend, String.ofList_append, String.ofList_append, String.ofList_append, String.ofList_toList,
    String.ofList_toList, String.ofList_toList, ← String.append_assoc]

/-- **What is written is a textual encoding of the value**, and writing it does not fail. -/
theorem pemBlock_eq (label : String) (der : List UInt8) :
    pemBlock label der =
      .ok (String.ofList (TextualEncoding.encapsulate label.toList (pemLines der))) := by
  have hascii : ∀ c ∈ Base64.encode der, c.toNat < 128 := fun c hc =>
    (Base64.encode_plain hc).2.2
  have hlines : ∀ line ∈ pemLines der, ∀ c ∈ line, c.toNat < 128 := fun line hline c hc =>
    (pemLines_plain hline hc).2.2
  unfold pemBlock
  dsimp only
  rw [body_eq, strBytes_ofList hascii, chunks_map]
  change ((pemLines der).map (List.map Ascii.byte)).foldlM writeLine _ >>= _ = _
  rw [foldlM_writeLine hlines]
  have hopen := boundary_eq "-----BEGIN " label
  have hclose := boundary_eq "-----END " label
  rw [hopen, hclose]
  unfold TextualEncoding.encapsulate TextualEncoding.preeb TextualEncoding.posteb
  refine congrArg Except.ok ?_
  rw [← String.ofList_append, ← String.ofList_append, List.append_assoc]

/-- **A value is read back as it was written**, by everyone who takes the first and the last line
away, joins the others and decodes them.  None of these is longer than 64 characters.  The label
has to be on one line. -/
theorem pem_lossless (label : String) (der : List UInt8) (hlabel : '\n' ∉ label.toList) :
    ∃ pem, pemBlock label der = .ok pem ∧
      Str.lines pem.toList = TextualEncoding.preeb label.toList ::
        (TextualEncoding.stripped pem.toList ++ [TextualEncoding.posteb label.toList]) ∧
      Base64.decode (TextualEncoding.stripped pem.toList).flatten = some der ∧
      ∀ line ∈ TextualEncoding.stripped pem.toList, line.length ≤ 64 := by
  refine ⟨_, pemBlock_eq label der, ?_⟩
  rw [String.toList_ofList, TextualEncoding.stripped_encapsulate hlabel fun _ => lines_whole]
  exact ⟨TextualEncoding.lines_encapsulate hlabel fun _ => lines_whole, decode_pemLines der,
    fun line hline => length_le_of_mem hline⟩

/-- A certificate of fifty bytes takes two lines. -/
theorem pem_lossless_certificate :
    ∃ pem, pemBlock "CERTIFICATE" (List.replicate 50 0x30) = .ok pem ∧
      (Str.lines pem.toList).length = 4 ∧
      Base64.decode (TextualEncoding.stripped pem.toList).flatten =
        some (List.replicate 50 0x30) := by
  obtain ⟨pem, hpem, -, hdecode, -⟩ :=
    pem_lossless "CERTIFICATE" (List.replicate 50 0x30) (by decide)
  refine ⟨pem, hpem, ?_, hdecode⟩
  rw [pemBlock_eq] at hpem
  cases hpem
  decide +kernel

/-- Behind a label of two lines there is more than the value between the first and the last
line. -/
theorem label_of_two_lines :
    ¬ ∀ (label : String) (der : List UInt8), ∃ pem, pemBlock label der = .ok pem ∧
      Base64.decode (TextualEncoding.stripped pem.toList).flatten = some der ∧
      ∀ line ∈ TextualEncoding.stripped pem.toList, line.length ≤ 64 := by
  intro h
  obtain ⟨pem, hpem, hdecode, -⟩ := h "A\nB" [0x30]
  rw [pemBlock_eq] at hpem
  cases hpem
  exact absurd hdecode (by decide +kernel)

/-! ## The identity of the agent -/

/-- A certificate and its private key, both DER. -/
structure AgentIdentity where
  certDer : List UInt8
  keyDer : List UInt8
  deriving DecidableEq, Repr

/-- What there is at the two paths of an identity. -/
structure IdentityFiles where
  cert : Option String
  key : Option String
  deriving DecidableEq, Repr

/-- What one start of the agent finds outside: a generator of identities, a reader of PEM files,
and the file system.  A write that fails leaves anything in the file. -/
structure Startup where
  generate : Except SecError AgentIdentity
  fromPem : String → String → Option (List UInt8)
  certFailure : Option (Option String)
  keyFailure : Option (Option String)
  restricted : Bool

namespace Startup

variable (startup : Startup)

def fromPemFile (label text : String) : EStateM SecError IdentityFiles (List UInt8) :=
  match startup.fromPem label text with
  | some der => pure der
  | none => throw .pem

def writeCert (text : String) : EStateM SecError IdentityFiles Unit :=
  match startup.certFailure with
  | none => modify fun files => { files with cert := some text }
  | some left => do
      modify fun files => { files with cert := left }
      throw .io

def writeKey (text : String) : EStateM SecError IdentityFiles Unit :=
  match startup.keyFailure with
  | none => modify fun files => { files with key := some text }
  | some left => do
      modify fun files => { files with key := left }
      throw .io

def restrictKeyPermissions : EStateM SecError IdentityFiles Unit :=
  if startup.restricted then pure () else throw .io

/-- Load the identity; if there are no files, make one and write it.  One file without the other
is an error. -/
def loadOrGenerate : EStateM SecError IdentityFiles AgentIdentity := do
  let files ← get
  match files.cert, files.key with
  | some cert, some key => do
      let certDer ← startup.fromPemFile "CERTIFICATE" cert
      let keyDer ← startup.fromPemFile "PRIVATE KEY" key
      pure { certDer, keyDer }
  | none, none => do
      let identity ← MonadExcept.ofExcept startup.generate
      startup.writeCert (← MonadExcept.ofExcept (pemBlock "CERTIFICATE" identity.certDer))
      startup.writeKey (← MonadExcept.ofExcept (pemBlock "PRIVATE KEY" identity.keyDer))
      startup.restrictKeyPermissions
      pure identity
  | _, _ => throw .incompleteIdentityFiles

/-- The reader reads what a textual encoding contains. -/
def Reads : Prop :=
  ∀ label text der, TextualEncoding.decode label.toList text.toList = some der →
    startup.fromPem label text = some der

end Startup

/-- The files are those that this identity was written to. -/
def IdentityFiles.Hold (files : IdentityFiles) (identity : AgentIdentity) : Prop :=
  ∃ cert key, files = ⟨some cert, some key⟩ ∧ pemBlock "CERTIFICATE" identity.certDer = .ok cert ∧
    pemBlock "PRIVATE KEY" identity.keyDer = .ok key

/-- A block decodes to what was put into it. -/
theorem decode_pemBlock {label pem : String} {der : List UInt8} (h : pemBlock label der = .ok pem) :
    TextualEncoding.decode label.toList pem.toList = some der := by
  rw [pemBlock_eq] at h
  obtain rfl := Except.ok.inj h
  rw [TextualEncoding.decode, String.toList_ofList,
    TextualEncoding.bodyLines_encapsulate fun _ => lines_whole, Option.bind_some, decode_pemLines]

namespace Startup

variable {startup : Startup} {files files' : IdentityFiles} {identity : AgentIdentity}

/-- A value that is lifted changes no files. -/
theorem ofExcept_ok {α : Type} {x : Except SecError α} {a : α}
    (h : (MonadExcept.ofExcept x : EStateM SecError IdentityFiles α).run files = .ok a files') :
    x = .ok a ∧ files' = files := by
  cases x with
  | error e => cases h
  | ok b =>
      cases h
      exact ⟨rfl, rfl⟩

/-- A certificate that was written is in its file. -/
theorem writeCert_ok {text : String} {u : Unit}
    (h : (startup.writeCert text).run files = .ok u files') :
    files' = { files with cert := some text } := by
  unfold writeCert at h
  split at h
  · cases h
    rfl
  · cases h

/-- A key that was written is in its file. -/
theorem writeKey_ok {text : String} {u : Unit}
    (h : (startup.writeKey text).run files = .ok u files') :
    files' = { files with key := some text } := by
  unfold writeKey at h
  split at h
  · cases h
    rfl
  · cases h

/-- Restricting the permissions changes no text. -/
theorem restrictKeyPermissions_ok {u : Unit}
    (h : startup.restrictKeyPermissions.run files = .ok u files') : files' = files := by
  unfold restrictKeyPermissions at h
  split at h
  · cases h
    rfl
  · cases h

/-- A first start that returned has written what it returned. -/
theorem first_start (h : startup.loadOrGenerate.run ⟨none, none⟩ = .ok identity files) :
    files.Hold identity ∧ startup.generate = .ok identity := by
  obtain ⟨_, _, hget, h⟩ := Effect.run_bind_ok h
  cases hget
  obtain ⟨made, files₁, hmade, h⟩ := Effect.run_bind_ok h
  obtain ⟨hgenerate, rfl⟩ := ofExcept_ok hmade
  obtain ⟨cert, files₂, hpem, h⟩ := Effect.run_bind_ok h
  obtain ⟨hcert, rfl⟩ := ofExcept_ok hpem
  obtain ⟨_, files₃, hwritten, h⟩ := Effect.run_bind_ok h
  obtain rfl := writeCert_ok hwritten
  obtain ⟨key, files₄, hpem, h⟩ := Effect.run_bind_ok h
  obtain ⟨hkey, rfl⟩ := ofExcept_ok hpem
  obtain ⟨_, files₅, hwritten, h⟩ := Effect.run_bind_ok h
  obtain rfl := writeKey_ok hwritten
  obtain ⟨_, files₆, hrestricted, h⟩ := Effect.run_bind_ok h
  obtain rfl := restrictKeyPermissions_ok hrestricted
  cases h
  exact ⟨⟨cert, key, rfl, hcert, hkey⟩, hgenerate⟩

/-- Files that hold an identity are read, and not written. -/
theorem next_start (hreads : startup.Reads) (h : files.Hold identity) :
    startup.loadOrGenerate.run files = .ok identity files := by
  obtain ⟨cert, key, rfl, hcert, hkey⟩ := h
  have hcert := hreads _ _ _ (decode_pemBlock hcert)
  have hkey := hreads _ _ _ (decode_pemBlock hkey)
  have hreadCert : startup.fromPemFile "CERTIFICATE" cert = pure identity.certDer := by
    rw [fromPemFile, hcert]
  have hreadKey : startup.fromPemFile "PRIVATE KEY" key = pure identity.keyDer := by
    rw [fromPemFile, hkey]
  change (do
    let certDer ← startup.fromPemFile "CERTIFICATE" cert
    let keyDer ← startup.fromPemFile "PRIVATE KEY" key
    pure { certDer, keyDer } : EStateM SecError IdentityFiles AgentIdentity).run _ = _
  rw [hreadCert, hreadKey]
  rfl

/-- What each of some starts returns. -/
def starts : List Startup → IdentityFiles → List (Except SecError AgentIdentity)
  | [], _ => []
  | startup :: rest, files =>
      match startup.loadOrGenerate.run files with
      | .ok identity files => .ok identity :: starts rest files
      | .error e files => .error e :: starts rest files

/-- **The agent keeps its identity**, and with it the pin of its clients: what the first start
made is what all later ones return. -/
theorem identity_kept (h : startup.loadOrGenerate.run ⟨none, none⟩ = .ok identity files)
    (later : List Startup) (hreads : ∀ startup ∈ later, startup.Reads) :
    starts (startup :: later) ⟨none, none⟩ = List.replicate (later.length + 1) (.ok identity) := by
  have hheld := (first_start h).1
  have hlater : starts later files = List.replicate later.length (.ok identity) := by
    clear h
    induction later with
    | nil => rfl
    | cons startup later ih =>
        rw [starts, next_start (hreads startup List.mem_cons_self) hheld, List.length_cons,
          List.replicate_succ, ← ih fun s hs => hreads s (List.mem_cons_of_mem startup hs)]
  rw [starts, h, List.replicate_succ, ← hlater]

/-- A start at which a small identity would be made and nothing fails. -/
def smallIdentity : Startup where
  generate := .ok { certDer := [0x30, 0x03, 0x02, 0x01, 0x05], keyDer := [0x30, 0x00] }
  fromPem label text := TextualEncoding.decode label.toList text.toList
  certFailure := none
  keyFailure := none
  restricted := true

/-- Three starts, of which the first makes the identity and the others read it. -/
theorem identity_kept_twice :
    starts [smallIdentity, smallIdentity, smallIdentity] ⟨none, none⟩ =
      List.replicate 3
        (.ok { certDer := [0x30, 0x03, 0x02, 0x01, 0x05], keyDer := [0x30, 0x00] }) := by
  have hreads : ∀ startup ∈ [smallIdentity, smallIdentity], startup.Reads := by
    intro startup hmem label text der hder
    obtain rfl : startup = smallIdentity := by
      rcases List.mem_cons.mp hmem with heq | hmem
      · exact heq
      · exact List.mem_singleton.mp hmem
    exact hder
  have hfirst : ∃ files, smallIdentity.loadOrGenerate.run ⟨none, none⟩ =
      .ok { certDer := [0x30, 0x03, 0x02, 0x01, 0x05], keyDer := [0x30, 0x00] } files := by
    unfold loadOrGenerate
    simp only [pemBlock_eq]
    exact ⟨_, rfl⟩
  obtain ⟨files, hfirst⟩ := hfirst
  exact identity_kept hfirst [smallIdentity, smallIdentity] hreads

end Startup

end Oxrdp
