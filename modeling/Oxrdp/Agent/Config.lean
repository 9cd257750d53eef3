import Oxrdp.Lib.Reordered
import Oxrdp.Lib.SocketAddr

/-!
# The agent's configuration file

`config.rs`: lines of `key = value`, with comments and blank lines between them.  A value
is checked on its line; that a wildcard address is allowed, and that there is a token
path, is checked behind the last line, so that keys may stand in any order.

Over the parser stands what a line says, without its place in the file: a `Setting` is a
value that has passed its check, and settings of different keys can be exchanged.
-/

namespace Oxrdp

open Str

structure AgentConfig where
  bind : SocketAddr
  tokenPath : List Char
  certPath : List Char
  keyPath : List Char
  targetFps : UInt16
  maxFramesInFlight : UInt8
  allowWildcardBind : Bool

inductive ConfigError where
  | syntaxError (line : Nat)
  | value (key : String) (line : Nat)
  | missing (key : String)
  deriving DecidableEq, Repr

namespace AgentConfig

/-- `AgentConfig::default`. -/
def default : AgentConfig where
  bind := .v4 ⟨127, 0, 0, 1⟩ 7644
  tokenPath := "oxagent-token.txt".toList
  certPath := "oxagent-cert.pem".toList
  keyPath := "oxagent-key.pem".toList
  targetFps := 30
  maxFramesInFlight := 2
  allowWildcardBind := false

example : SocketAddr.fromStr "127.0.0.1:7644".toList = some default.bind := by rfl

/-- The locals of `parse`. -/
structure Progress where
  cfg : AgentConfig
  tokenPathSeen : Bool
  bindLine : Option Nat

def nonEmptyPath (value : List Char) (key : String) (line : Nat) :
    Except ConfigError (List Char) :=
  if value = [] then .error (.value key line) else .ok value

/-- The `match` on the key. -/
def setKey (st : Progress) (lineNo : Nat) (key value : List Char) :
    Except ConfigError Progress :=
  if key = "bind".toList then
    match SocketAddr.fromStr value with
    | some addr => .ok { st with cfg := { st.cfg with bind := addr }, bindLine := some lineNo }
    | none => .error (.value "bind" lineNo)
  else if key = "allow_wildcard_bind".toList then
    if value = "true".toList then
      .ok { st with cfg := { st.cfg with allowWildcardBind := true } }
    else if value = "false".toList then
      .ok { st with cfg := { st.cfg with allowWildcardBind := false } }
    else .error (.value "allow_wildcard_bind" lineNo)
  else if key = "token_path".toList then do
    let path ← nonEmptyPath value "token_path" lineNo
    pure { st with cfg := { st.cfg with tokenPath := path }, tokenPathSeen := true }
  else if key = "cert_path".toList then do
    let path ← nonEmptyPath value "cert_path" lineNo
    pure { st with cfg := { st.cfg with certPath := path } }
  else if key = "key_path".toList then do
    let path ← nonEmptyPath value "key_path" lineNo
    pure { st with cfg := { st.cfg with keyPath := path } }
  else if key = "target_fps".toList then
    match (parseU16 value).filter fun fps => 1 ≤ fps ∧ fps ≤ 240 with
    | some fps => .ok { st with cfg := { st.cfg with targetFps := fps } }
    | none => .error (.value "target_fps" lineNo)
  else if key = "max_frames_in_flight".toList then
    match (parseU8 value).filter fun m => 1 ≤ m ∧ m ≤ 16 with
    | some m => .ok { st with cfg := { st.cfg with maxFramesInFlight := m } }
    | none => .error (.value "max_frames_in_flight" lineNo)
  else .ok st

/-- A blank line, or a comment. -/
def isSkipped (line : List Char) : Bool := line == [] || line.head? == some '#'

def parseLine (st : Progress) (lineNo : Nat) (rawLine : List Char) :
    Except ConfigError Progress :=
  let line := trim rawLine
  if isSkipped line then .ok st
  else
    match splitOnce '=' line with
    | none => .error (.syntaxError lineNo)
    | some (key, value) => setKey st lineNo (trim key) (trim value)

/-- A byte order mark at the start is not part of the text. -/
def stripBom (text : List Char) : List Char := (stripPrefix '\uFEFF' text).getD text

/-- The loop over the lines. -/
def parseLines (text : List Char) : Except ConfigError Progress :=
  (lines (stripBom text)).zipIdx.foldlM (fun st line => parseLine st (line.2 + 1) line.1)
    ⟨default, false, none⟩

def parse (text : List Char) : Except ConfigError AgentConfig := do
  let st ← parseLines text
  if !st.tokenPathSeen then
    throw (.missing "token_path")
  else if st.cfg.bind.ip.isUnspecified && !st.cfg.allowWildcardBind then
    throw (.value "bind" (st.bindLine.getD 0))
  else
    pure st.cfg

/-! ## What a line says -/

/-- The lines that are looked at: neither blank nor comments. -/
def significant (text : List Char) : List (List Char) :=
  ((lines (stripBom text)).map trim).filter fun line => !isSkipped line

/-- The key of a line and its value. -/
def keyValue (line : List Char) : Option (List Char × List Char) :=
  (splitOnce '=' line).map fun parts => (trim parts.1, trim parts.2)

/-- A path that is not empty. -/
abbrev NonEmptyPath := { path : List Char // path ≠ [] }

/-- A value that has passed the check of its key. -/
inductive Setting where
  | bind (addr : SocketAddr)
  | allowWildcardBind (allowed : Bool)
  | tokenPath (path : NonEmptyPath)
  | certPath (path : NonEmptyPath)
  | keyPath (path : NonEmptyPath)
  | targetFps (fps : { n : UInt16 // 1 ≤ n ∧ n ≤ 240 })
  | maxFramesInFlight (m : { n : UInt8 // 1 ≤ n ∧ n ≤ 16 })

namespace Setting

def key : Setting → List Char
  | .bind _ => "bind".toList
  | .allowWildcardBind _ => "allow_wildcard_bind".toList
  | .tokenPath _ => "token_path".toList
  | .certPath _ => "cert_path".toList
  | .keyPath _ => "key_path".toList
  | .targetFps _ => "target_fps".toList
  | .maxFramesInFlight _ => "max_frames_in_flight".toList

/-- The configuration with the setting, and whether there is a token path. -/
def apply (s : AgentConfig × Bool) : Setting → AgentConfig × Bool
  | .bind addr => ({ s.1 with bind := addr }, s.2)
  | .allowWildcardBind allowed => ({ s.1 with allowWildcardBind := allowed }, s.2)
  | .tokenPath path => ({ s.1 with tokenPath := path }, true)
  | .certPath path => ({ s.1 with certPath := path }, s.2)
  | .keyPath path => ({ s.1 with keyPath := path }, s.2)
  | .targetFps fps => ({ s.1 with targetFps := fps }, s.2)
  | .maxFramesInFlight m => ({ s.1 with maxFramesInFlight := m }, s.2)

/-- Settings of different keys write different fields. -/
theorem apply_comm {a b : Setting} (h : a.key ≠ b.key) (s : AgentConfig × Bool) :
    apply (apply s a) b = apply (apply s b) a := by
  cases a <;> cases b <;> first | rfl | exact absurd rfl h

end Setting

def asPath (value : List Char) : Option NonEmptyPath :=
  if h : value = [] then none else some ⟨value, h⟩

/-- What a value means under its key; nothing where the key is not known. -/
def readSetting (key value : List Char) : Option (Option Setting) :=
  if key = "bind".toList then
    (SocketAddr.fromStr value).map fun addr => some (.bind addr)
  else if key = "allow_wildcard_bind".toList then
    if value = "true".toList then some (some (.allowWildcardBind true))
    else if value = "false".toList then some (some (.allowWildcardBind false))
    else none
  else if key = "token_path".toList then
    (asPath value).map fun path => some (.tokenPath path)
  else if key = "cert_path".toList then
    (asPath value).map fun path => some (.certPath path)
  else if key = "key_path".toList then
    (asPath value).map fun path => some (.keyPath path)
  else if key = "target_fps".toList then
    (parseU16 value).bind fun fps =>
      if h : 1 ≤ fps ∧ fps ≤ 240 then some (some (.targetFps ⟨fps, h⟩)) else none
  else if key = "max_frames_in_flight".toList then
    (parseU8 value).bind fun m =>
      if h : 1 ≤ m ∧ m ≤ 16 then some (some (.maxFramesInFlight ⟨m, h⟩)) else none
  else some none

/-- What a line says: nothing where it is refused. -/
def meaning (line : List Char) : Option (Option Setting) :=
  (keyValue line).bind fun kv => readSetting kv.1 kv.2

def knownKeys : List (List Char) :=
  ["bind".toList, "allow_wildcard_bind".toList, "token_path".toList, "cert_path".toList,
    "key_path".toList, "target_fps".toList, "max_frames_in_flight".toList]

/-- Every setting has a key that is known. -/
theorem Setting.key_known (set : Setting) : set.key ∈ knownKeys := by
  cases set with
  | bind => exact .head _
  | allowWildcardBind => exact .tail _ (.head _)
  | tokenPath => exact .tail _ (.tail _ (.head _))
  | certPath => exact .tail _ (.tail _ (.tail _ (.head _)))
  | keyPath => exact .tail _ (.tail _ (.tail _ (.tail _ (.head _))))
  | targetFps => exact .tail _ (.tail _ (.tail _ (.tail _ (.tail _ (.head _)))))
  | maxFramesInFlight => exact .tail _ (.tail _ (.tail _ (.tail _ (.tail _ (.tail _ (.head _))))))

/-- The key that a line sets. -/
def lineKey (line : List Char) : Option (List Char) :=
  (keyValue line).bind fun kv => if kv.1 ∈ knownKeys then some kv.1 else none

/-- One line, without its place in the file. -/
def step (s : AgentConfig × Bool) (line : List Char) : Option (AgentConfig × Bool) :=
  (meaning line).map fun said => said.elim s (Setting.apply s)

/-- The checks behind the last line. -/
def finish (s : AgentConfig × Bool) : Option AgentConfig :=
  if !s.2 then none
  else if s.1.bind.ip.isUnspecified && !s.1.allowWildcardBind then none
  else some s.1

/-- What of the locals is in the result. -/
def Progress.view (st : Progress) : AgentConfig × Bool := (st.cfg, st.tokenPathSeen)

/-- A path is the text that it was read from. -/
theorem asPath_eq {value : List Char} {path : NonEmptyPath} (h : asPath value = some path) :
    path = value := by
  unfold asPath at h
  split_ifs at h
  cases h
  rfl

/-- A setting has the key that it was read under. -/
theorem readSetting_key {key value : List Char} {set : Setting}
    (h : readSetting key value = some (some set)) : set.key = key := by
  have hpath : ∀ make : NonEmptyPath → Setting, (∀ path, (make path).key = key) →
      (asPath value).map (fun path => some (make path)) = some (some set) → set.key = key := by
    intro make hmake hread
    obtain ⟨path, -, heq⟩ := Option.map_eq_some_iff.mp hread
    cases heq
    exact hmake path
  unfold readSetting at h
  by_cases hbind : key = "bind".toList
  · rw [if_pos hbind] at h
    obtain ⟨addr, -, heq⟩ := Option.map_eq_some_iff.mp h
    cases heq
    exact hbind.symm
  rw [if_neg hbind] at h
  by_cases hallow : key = "allow_wildcard_bind".toList
  · rw [if_pos hallow] at h
    split at h
    · cases h
      exact hallow.symm
    · split at h <;> cases h
      exact hallow.symm
  rw [if_neg hallow] at h
  by_cases htoken : key = "token_path".toList
  · rw [if_pos htoken] at h
    exact hpath .tokenPath (fun _ => htoken.symm) h
  rw [if_neg htoken] at h
  by_cases hcert : key = "cert_path".toList
  · rw [if_pos hcert] at h
    exact hpath .certPath (fun _ => hcert.symm) h
  rw [if_neg hcert] at h
  by_cases hkey : key = "key_path".toList
  · rw [if_pos hkey] at h
    exact hpath .keyPath (fun _ => hkey.symm) h
  rw [if_neg hkey] at h
  by_cases hfps : key = "target_fps".toList
  · rw [if_pos hfps] at h
    obtain ⟨fps, -, heq⟩ := Option.bind_eq_some_iff.mp h
    split at heq <;> cases heq
    exact hfps.symm
  rw [if_neg hfps] at h
  by_cases hmax : key = "max_frames_in_flight".toList
  · rw [if_pos hmax] at h
    obtain ⟨m, -, heq⟩ := Option.bind_eq_some_iff.mp h
    split at heq <;> cases heq
    exact hmax.symm
  · rw [if_neg hmax] at h
    cases h

/-- A path that is not empty is set, and an empty one refused. -/
theorem nonEmptyPath_view {value : List Char} {key : String} {line : Nat}
    {k : List Char → Progress} {set : NonEmptyPath → Setting} {s : AgentConfig × Bool}
    (h : ∀ path : NonEmptyPath, (k path).view = Setting.apply s (set path)) :
    (nonEmptyPath value key line >>= fun path => pure (k path)).toOption.map Progress.view =
      ((asPath value).map fun path => some (set path)).map fun said =>
        said.elim s (Setting.apply s) := by
  by_cases hv : value = []
  · rw [nonEmptyPath, if_pos hv, asPath, dif_pos hv]
    rfl
  · rw [nonEmptyPath, if_neg hv, asPath, dif_neg hv]
    exact congrArg some (h ⟨value, hv⟩)

/-- **A key is set** as its meaning applies to what was set before. -/
theorem setKey_view (st : Progress) (lineNo : Nat) (key value : List Char) :
    (setKey st lineNo key value).toOption.map Progress.view =
      (readSetting key value).map fun said => said.elim st.view (Setting.apply st.view) := by
  unfold setKey readSetting
  by_cases hbind : key = "bind".toList
  · rw [if_pos hbind, if_pos hbind]
    cases SocketAddr.fromStr value with
    | none => rfl
    | some addr => rfl
  rw [if_neg hbind, if_neg hbind]
  by_cases hallow : key = "allow_wildcard_bind".toList
  · rw [if_pos hallow, if_pos hallow]
    by_cases htrue : value = "true".toList
    · rw [if_pos htrue, if_pos htrue]
      rfl
    rw [if_neg htrue, if_neg htrue]
    by_cases hfalse : value = "false".toList
    · rw [if_pos hfalse, if_pos hfalse]
      rfl
    · rw [if_neg hfalse, if_neg hfalse]
      rfl
  rw [if_neg hallow, if_neg hallow]
  by_cases htoken : key = "token_path".toList
  · rw [if_pos htoken, if_pos htoken]
    exact nonEmptyPath_view fun path => rfl
  rw [if_neg htoken, if_neg htoken]
  by_cases hcert : key = "cert_path".toList
  · rw [if_pos hcert, if_pos hcert]
    exact nonEmptyPath_view fun path => rfl
  rw [if_neg hcert, if_neg hcert]
  by_cases hkey : key = "key_path".toList
  · rw [if_pos hkey, if_pos hkey]
    exact nonEmptyPath_view fun path => rfl
  rw [if_neg hkey, if_neg hkey]
  by_cases hfps : key = "target_fps".toList
  · rw [if_pos hfps, if_pos hfps]
    cases parseU16 value with
    | none => rfl
    | some fps =>
        by_cases h : 1 ≤ fps ∧ fps ≤ 240
        · rw [Option.filter_some, if_pos (by simpa using h), Option.bind_some, dif_pos h]
          rfl
        · rw [Option.filter_some, if_neg (by simpa using h), Option.bind_some, dif_neg h]
          rfl
  rw [if_neg hfps, if_neg hfps]
  by_cases hmax : key = "max_frames_in_flight".toList
  · rw [if_pos hmax, if_pos hmax]
    cases parseU8 value with
    | none => rfl
    | some m =>
        by_cases h : 1 ≤ m ∧ m ≤ 16
        · rw [Option.filter_some, if_pos (by simpa using h), Option.bind_some, dif_pos h]
          rfl
        · rw [Option.filter_some, if_neg (by simpa using h), Option.bind_some, dif_neg h]
          rfl
  · rw [if_neg hmax, if_neg hmax]
    rfl

/-- **A line is parsed** as its meaning applies. -/
theorem parseLine_view (st : Progress) (lineNo : Nat) (rawLine : List Char) :
    (parseLine st lineNo rawLine).toOption.map Progress.view =
      if isSkipped (trim rawLine) then some st.view else step st.view (trim rawLine) := by
  unfold parseLine
  by_cases hskip : isSkipped (trim rawLine) = true
  · simp only [if_pos hskip]
    rfl
  · simp only [if_neg hskip]
    rw [step, meaning, keyValue]
    cases splitOnce '=' (trim rawLine) with
    | none => rfl
    | some parts => exact setKey_view st lineNo (trim parts.1) (trim parts.2)

/-- The loop goes over the significant lines. -/
theorem loop_view (ls : List (List Char)) (n : Nat) (st : Progress) :
    ((ls.zipIdx n).foldlM (fun st line => parseLine st (line.2 + 1) line.1)
        st).toOption.map Progress.view =
      ((ls.map trim).filter fun line => !isSkipped line).foldlM step st.view := by
  induction ls generalizing n st with
  | nil => rfl
  | cons rawLine ls ih =>
      have hline := parseLine_view st (n + 1) rawLine
      rw [List.zipIdx_cons, List.foldlM_cons, List.map_cons]
      dsimp only
      cases hres : parseLine st (n + 1) rawLine with
      | error e =>
          rw [hres] at hline
          split_ifs at hline with hskip
          · cases hline
          · rw [List.filter_cons_of_pos (by simpa using hskip), List.foldlM_cons, ← hline]
            rfl
      | ok st' =>
          rw [hres] at hline
          split_ifs at hline with hskip
          · have hview : st'.view = st.view := Option.some_inj.mp hline
            rw [List.filter_cons_of_neg (by simpa using hskip), ← hview]
            exact ih (n + 1) st'
          · rw [List.filter_cons_of_pos (by simpa using hskip), List.foldlM_cons, ← hline]
            exact ih (n + 1) st'

/-- **A text is parsed** to what its meaningful lines come to. -/
theorem parse_toOption (text : List Char) :
    (parse text).toOption = ((significant text).foldlM step (default, false)).bind finish := by
  have hloop : (parseLines text).toOption.map Progress.view =
      (significant text).foldlM step (default, false) :=
    loop_view (lines (stripBom text)) 0 ⟨default, false, none⟩
  rw [← hloop, parse]
  cases parseLines text with
  | error e => rfl
  | ok st =>
      change (if (!st.tokenPathSeen) = true then throw (.missing "token_path")
        else if (st.cfg.bind.ip.isUnspecified && !st.cfg.allowWildcardBind) = true then
          throw (.value "bind" (st.bindLine.getD 0))
        else pure st.cfg : Except ConfigError AgentConfig).toOption =
        if (!st.tokenPathSeen) = true then none
        else if (st.cfg.bind.ip.isUnspecified && !st.cfg.allowWildcardBind) = true then none
        else some st.cfg
      split_ifs <;> rfl

/-- A line with a meaning has the key of that. -/
theorem lineKey_of_meaning {line : List Char} {set : Setting}
    (h : meaning line = some (some set)) : lineKey line = some set.key := by
  obtain ⟨kv, hkv, hset⟩ := Option.bind_eq_some_iff.mp h
  have hkey : set.key = kv.1 := readSetting_key hset
  rw [lineKey, hkv, Option.bind_some, if_pos (hkey ▸ set.key_known), hkey]

/-- Lines that do not set the same key may be exchanged. -/
theorem step_exchangeable : Reordering.Exchangeable lineKey step := by
  intro a b hapart s
  unfold step
  cases ha : meaning a with
  | none => cases meaning b <;> rfl
  | some sa =>
      cases hb : meaning b with
      | none => rfl
      | some sb =>
          cases sa with
          | none => rfl
          | some sa =>
              cases sb with
              | none => rfl
              | some sb =>
                  have hka := lineKey_of_meaning ha
                  have hkb := lineKey_of_meaning hb
                  have hne : sa.key ≠ sb.key := by
                    rcases hapart with hnone | hne
                    · rw [hka] at hnone
                      cases hnone
                    · rwa [hka, hkb, ne_eq, Option.some_inj] at hne
                  exact congrArg some (Setting.apply_comm hne s)

/-! ## What is behind a configuration -/

/-- A line that sets the token's path says so. -/
theorem keyValue_tokenPath {line : List Char} {path : NonEmptyPath}
    (h : meaning line = some (some (.tokenPath path))) :
    keyValue line = some ("token_path".toList, path.val) := by
  obtain ⟨⟨key, value⟩, hkv, hset⟩ := Option.bind_eq_some_iff.mp h
  obtain rfl := readSetting_key hset
  have hread : (asPath value).map (fun path => some (Setting.tokenPath path)) =
      some (some (.tokenPath path)) := hset
  obtain ⟨path', hpath, heq⟩ := Option.map_eq_some_iff.mp hread
  cases heq
  rw [hkv, asPath_eq hpath]
  rfl

/-- A line that allows wildcards says so. -/
theorem keyValue_allowed {line : List Char}
    (h : meaning line = some (some (.allowWildcardBind true))) :
    keyValue line = some ("allow_wildcard_bind".toList, "true".toList) := by
  obtain ⟨⟨key, value⟩, hkv, hset⟩ := Option.bind_eq_some_iff.mp h
  obtain rfl := readSetting_key hset
  have hread : (if value = "true".toList then some (some (Setting.allowWildcardBind true))
      else if value = "false".toList then some (some (.allowWildcardBind false)) else none) =
        some (some (.allowWildcardBind true)) := hset
  split_ifs at hread with htrue
  · rw [hkv, htrue]
    rfl
  · cases hread

/-- What the lines read so far account for. -/
structure Backed (read : List (List Char)) (s : AgentConfig × Bool) : Prop where
  targetFps : 1 ≤ s.1.targetFps ∧ s.1.targetFps ≤ 240
  maxFramesInFlight : 1 ≤ s.1.maxFramesInFlight ∧ s.1.maxFramesInFlight ≤ 16
  tokenPath : s.2 = true → s.1.tokenPath ≠ [] ∧
    ∃ line ∈ read, keyValue line = some ("token_path".toList, s.1.tokenPath)
  allowed : s.1.allowWildcardBind = true →
    ∃ line ∈ read, keyValue line = some ("allow_wildcard_bind".toList, "true".toList)

/-- The defaults pass their own checks. -/
theorem default_backed : Backed [] (default, false) where
  targetFps := by decide
  maxFramesInFlight := by decide
  tokenPath := by simp
  allowed := by simp [default]

/-- One more line takes no backing away. -/
theorem Backed.more {read : List (List Char)} {s : AgentConfig × Bool} (h : Backed read s)
    (line : List Char) : Backed (read ++ [line]) s where
  targetFps := h.targetFps
  maxFramesInFlight := h.maxFramesInFlight
  tokenPath hseen := by
    obtain ⟨hne, l, hl, hkv⟩ := h.tokenPath hseen
    exact ⟨hne, l, List.mem_append_left _ hl, hkv⟩
  allowed hallowed := by
    obtain ⟨l, hl, hkv⟩ := h.allowed hallowed
    exact ⟨l, List.mem_append_left _ hl, hkv⟩

/-- A line backs what it sets. -/
theorem Backed.step {read : List (List Char)} {s s' : AgentConfig × Bool} {line : List Char}
    (h : Backed read s) (hstep : step s line = some s') : Backed (read ++ [line]) s' := by
  have hmore := h.more line
  have hlast : line ∈ read ++ [line] := List.mem_append_right _ (List.mem_singleton_self line)
  obtain ⟨said, hsaid, rfl⟩ := Option.map_eq_some_iff.mp hstep
  cases said with
  | none => exact hmore
  | some set =>
      cases set with
      | bind addr => exact ⟨hmore.targetFps, hmore.maxFramesInFlight, hmore.tokenPath, hmore.allowed⟩
      | allowWildcardBind allowed =>
          refine ⟨hmore.targetFps, hmore.maxFramesInFlight, hmore.tokenPath, fun hallowed => ?_⟩
          have hval : allowed = true := hallowed
          rw [hval] at hsaid
          exact ⟨line, hlast, keyValue_allowed hsaid⟩
      | tokenPath path =>
          exact ⟨hmore.targetFps, hmore.maxFramesInFlight,
            fun _ => ⟨path.property, line, hlast, keyValue_tokenPath hsaid⟩, hmore.allowed⟩
      | certPath path =>
          exact ⟨hmore.targetFps, hmore.maxFramesInFlight, hmore.tokenPath, hmore.allowed⟩
      | keyPath path =>
          exact ⟨hmore.targetFps, hmore.maxFramesInFlight, hmore.tokenPath, hmore.allowed⟩
      | targetFps fps =>
          exact ⟨fps.property, hmore.maxFramesInFlight, hmore.tokenPath, hmore.allowed⟩
      | maxFramesInFlight m =>
          exact ⟨hmore.targetFps, m.property, hmore.tokenPath, hmore.allowed⟩

/-- A text whose lines are all read keeps the keys backed. -/
theorem Backed.run {ls : List (List Char)} :
    ∀ {read : List (List Char)} {s s' : AgentConfig × Bool}, Backed read s →
      ls.foldlM AgentConfig.step s = some s' → Backed (read ++ ls) s' := by
  induction ls with
  | nil =>
      intro read s s' h hrun
      cases hrun
      rw [List.append_nil]
      exact h
  | cons line ls ih =>
      intro read s s' h hrun
      obtain ⟨s₁, hline, hrest⟩ := Option.bind_eq_some_iff.mp hrun
      rw [List.append_cons]
      exact ih (h.step hline) hrest

/-- A configuration that is returned is valid, and its text is behind it. -/
theorem parse_backed {text : List Char} {cfg : AgentConfig} (h : parse text = .ok cfg) :
    Backed (significant text) (cfg, true) ∧
      (cfg.bind.ip.isUnspecified = true → cfg.allowWildcardBind = true) := by
  have hopt := parse_toOption text
  rw [h] at hopt
  obtain ⟨s, hrun, hfinish⟩ := Option.bind_eq_some_iff.mp hopt.symm
  have hbacked := default_backed.run hrun
  obtain ⟨c, seen⟩ := s
  unfold finish at hfinish
  split_ifs at hfinish with hseen hwild
  cases hfinish
  have htrue : seen = true := by simpa using hseen
  subst htrue
  refine ⟨hbacked, fun hun => ?_⟩
  rw [hun] at hwild
  simpa using hwild

/-- The result depends on the order within each key only. -/
theorem parse_reordered {text text' : List Char}
    (h : Reordering.Reordered lineKey (significant text) (significant text')) :
    (parse text).toOption = (parse text').toOption := by
  rw [parse_toOption, parse_toOption, step_exchangeable.foldlM_eq _ h]

/-- For every text: a configuration that is returned does not listen on a wildcard address
unless a line of the text allows it, its numbers are in range, and its token path stands in
the text and is not empty.  Moving lines about, those of the same key kept in their order,
changes neither whether there is a configuration nor which; in particular lines whose keys
are all different may be permuted, with comments and blank lines anywhere. -/
theorem parse_valid_and_reordered :
    (∀ text cfg, parse text = .ok cfg →
      (cfg.bind.ip.isUnspecified = true → cfg.allowWildcardBind = true ∧
        ∃ line ∈ significant text,
          keyValue line = some ("allow_wildcard_bind".toList, "true".toList)) ∧
      (1 ≤ cfg.targetFps ∧ cfg.targetFps ≤ 240) ∧
      (1 ≤ cfg.maxFramesInFlight ∧ cfg.maxFramesInFlight ≤ 16) ∧
      cfg.tokenPath ≠ [] ∧
      ∃ line ∈ significant text, keyValue line = some ("token_path".toList, cfg.tokenPath)) ∧
    (∀ text text', Reordering.Reordered lineKey (significant text) (significant text') →
      (parse text).toOption = (parse text').toOption) ∧
    (∀ text text', (significant text).Perm (significant text') →
      ((significant text).filterMap lineKey).Nodup →
      (parse text).toOption = (parse text').toOption) := by
  refine ⟨fun text cfg h => ?_, fun text text' h => parse_reordered h,
    fun text text' hperm hkeys => parse_reordered (.of_nodup hperm hkeys)⟩
  obtain ⟨hbacked, hwild⟩ := parse_backed h
  obtain ⟨hne, hline⟩ := hbacked.tokenPath rfl
  exact ⟨fun hun => ⟨hwild hun, hbacked.allowed (hwild hun)⟩, hbacked.targetFps,
    hbacked.maxFramesInFlight, hne, hline⟩

/-- The error names a line, which moves with the lines. -/
theorem error_line_moves :
    (significant "token_path = t\ntarget_fps = 0\n".toList).Perm
        (significant "target_fps = 0\ntoken_path = t\n".toList) ∧
      ((significant "token_path = t\ntarget_fps = 0\n".toList).filterMap lineKey).Nodup ∧
      parse "token_path = t\ntarget_fps = 0\n".toList = .error (.value "target_fps" 2) ∧
      parse "target_fps = 0\ntoken_path = t\n".toList = .error (.value "target_fps" 1) := by
  refine ⟨List.Perm.swap _ _ [], by decide, rfl, rfl⟩

end AgentConfig

end Oxrdp
