import Oxrdp.Agent.Feeding
import Oxrdp.Agent.Journal
import Oxrdp.Agent.Lifecycle
import Oxrdp.Agent.Serve

/-!
# Who may move the mouse

The peer names windows by ids, and may name any.  Input reaches a window's handle only through
an id that is open at that moment and registered for that handle; text and window control only
if they were negotiated; and nothing reaches the platform of a connection that has not
presented the token and taken the one session slot.
-/

namespace Oxrdp

open Effect

/-! ## The driver -/

section Driver

variable {W E I : Type} {cfg : Config}

/-- What keeps the platform keeps the sink. -/
theorem sink_of_platform {α : Type} {x : Act W E I α} (h : Keeps Session.platform x) :
    Keeps Session.sink x :=
  h.part fun p => p.2.2

/-- Closing a window injects nothing. -/
theorem closeWindow_sink [FrameEncoder E] (gone : TrackedWindow) :
    Keeps Session.sink (closeWindow cfg gone : Act W E I Unit) := by
  have hsend : Keeps Session.sink
      (send cfg (.windowClosed { windowId := gone.windowId }) Channel.window : Act W E I Unit) :=
    sink_of_platform (send_platform _ _)
  refine keeps_looking fun s => ?_
  cases s.streams.lookup gone.windowId with
  | none => exact hsend s.sink s rfl
  | some st =>
      exact hsend s.sink { s with
        streams := s.streams.erase gone.windowId
        encoder := FrameEncoder.forget s.encoder st.handle } rfl

/-- Capturing a frame injects nothing. -/
theorem captureWindow_sink [WindowSource W] [FrameEncoder E] (id : UInt32) (st : WindowStream) :
    Keeps Session.sink (captureWindow cfg id st : Act W E I Unit) := by
  have hnext : ∀ intent, Keeps Session.sink
      (nextFrame st.handle intent : Act W E I (Option SourceFrame)) :=
    fun intent => keeps_looking fun _ => rfl
  have hpoll : Keeps Session.sink (poll st.handle : Act W E I (Option EncodedFrame)) :=
    keeps_looking fun _ => rfl
  have hput : ∀ id st, Keeps Session.sink (putStream id st : Act W E I Unit) :=
    fun id st => sink_of_platform (putStream_platform id st)
  have hclock : Keeps Session.sink (elapsedUs cfg : Act W E I UInt64) :=
    sink_of_platform elapsedUs_platform
  have hsend : ∀ st picture us, Keeps Session.sink (sendFrame id st picture us : Act W E I Unit) :=
    fun st picture us => sink_of_platform (sendFrame_platform id st picture us)
  refine keeps_get.bind fun s => (hnext _).bind fun frame => ?_
  cases frame with
  | none => exact keeps_pure _
  | some frame =>
      have hsubmit : Keeps Session.sink (submitFrame cfg st frame : Act W E I Unit) :=
        keeps_ite (keeps_modify fun _ => rfl) (keeps_pure _)
      have hpicture : Keeps Session.sink
          (pollPicture cfg id st : Act W E I (Option (Picture × WindowStream))) := by
        refine hpoll.bind fun encoded => ?_
        cases encoded with
        | none => exact keeps_pure _
        | some u => exact (hput id _).bind fun _ => hclock.bind fun _ => keeps_pure _
      refine hclock.bind fun us => hsubmit.bind fun _ => ?_
      refine (keeps_get.bind fun s => keeps_ite hpicture
        (keeps_ite (keeps_pure _) (keeps_pure _))).bind fun r => ?_
      cases r with
      | none => exact keeps_pure _
      | some r => exact hsend _ _ _

/-- A tick hands nothing to the sink. -/
theorem tick_sink [WindowSource W] [FrameEncoder E] :
    Keeps Session.sink (tick cfg : Act W E I Unit) := by
  have hlive : Keeps Session.sink (liveWindows : Act W E I (List SourceWindow)) :=
    keeps_looking fun _ => rfl
  have hretain : ∀ handles, Keeps Session.sink
      (retainLive handles : Act W E I (List TrackedWindow)) :=
    fun handles => keeps_looking fun _ => rfl
  have hsync : ∀ w, Keeps Session.sink (syncWindow cfg w : Act W E I Unit) :=
    fun w => sink_of_platform (syncWindow_platform w)
  have hpump : ∀ id, Keeps Session.sink (pumpWindow cfg id : Act W E I Unit) := by
    intro id
    refine keeps_get.bind fun s => ?_
    cases s.streams.lookup id with
    | none => exact keeps_pure _
    | some st =>
        refine keeps_ite (keeps_pure _) ?_
        exact (sink_of_platform reserveFrameSlot_platform).bind fun _ =>
          keeps_ite (captureWindow_sink id st) (keeps_pure _)
  refine Keeps.bind ?_ fun _ => keeps_get.bind fun s => keeps_forM hpump
  exact hlive.bind fun live => (keeps_forM hsync).bind fun _ => (hretain _).bind fun gone =>
    keeps_forM closeWindow_sink

/-- The window `id` is open, and registered for the handle `h`. -/
def Session.OpenFor (s : Session W E I) (id : UInt32) (h : Handle) : Prop :=
  (∃ t, s.view.windows h = some t ∧ t.windowId = id) ∧
    ∃ m, StillOpen s.outbound.told m ∧ m.windowId = id

/-- What allows a call to the sink when the driver wakes up with an event. -/
def SinkCall.Authorized (n : Negotiated) (s : Session W E I) (event : Event) : SinkCall → Prop
  | .pointerEvent h _ _ _ _ _ =>
      ∃ p, event = .incoming (.pointerEvent p) ∧ s.OpenFor p.windowId h
  | .keyEvent _ _ _ => ∃ k, event = .incoming (.keyEvent k)
  | .textInput text =>
      n.features &&& Feature.textInput ≠ 0 ∧ ∃ t, event = .incoming (.textInput t) ∧ t.text = text
  | .modifierSync _ _ => ∃ m, event = .incoming (.modifierSync m)
  | .windowControl h _ _ _ _ _ =>
      n.features &&& Feature.windowControl ≠ 0 ∧
        ∃ w, event = .incoming (.windowControl w) ∧ s.OpenFor w.windowId h

/-- The log and the registry tell the same story, between the steps of a run. -/
def LedgerInv (v : View) (_ : E) : Prop := Ledger v.told v.windows v.nextId

/-- What is known of the windows holds through every part of a run. -/
theorem ledger_inv [WindowSource W] [FrameEncoder E] (cfg : Config) :
    FeedInv (W := W) (E := E) (I := I) cfg (fun _ _ => true) LedgerInv
      (fun _ _ _ => True) where
  sync := fun hc hstep h => ((Move.sync _ hstep).ledger hc h).2
  close := fun hc hgone h => h.close hc ⟨_, hgone.1, hgone.2, rfl⟩
  pump := by
    intro s id st frame F hc _ hcaptured hstep h
    obtain ⟨hst, hshown, -⟩ := captured_inv hcaptured
    rcases hstep.frameStep hst hshown with hsame | hframe
    · rw [hsame]
      exact h
    · exact ((@Move.frame cfg _ _ id hframe).ledger hc h).2
  ack := fun _ _ h => h
  pong := fun pong h => h.pong pong
  aside := fun _ _ _ _ => trivial
  closing := fun _ _ _ _ _ => trivial
  pumping := fun _ _ _ _ _ => trivial

/-- A window that the driver remembers is open and registered. -/
theorem openFor_of_stream {s : Session W E I} (hs : Fed LedgerInv s) {id : UInt32}
    {st : WindowStream} (hst : s.streams.lookup id = some st) : s.OpenFor id st.handle := by
  obtain ⟨-, hc, hledger⟩ := hs
  obtain ⟨t, ht, rfl⟩ := hc.registered hst
  obtain ⟨m, hopen, hid, -⟩ := hledger.registered_open _ t ht
  exact ⟨⟨t, ht, rfl⟩, m, hopen, hid⟩

/-- However a computation that keeps the sink ends, the sink is what it was. -/
theorem sink_left {α : Type} {x : Act W E I α} (h : Keeps Session.sink x) (s : Session W E I) :
    (leftBy (x.run s)).sink = s.sink := by
  have hrun := h s.sink s rfl
  cases hx : x.run s with
  | ok a s' =>
      rw [hx] at hrun
      exact hrun
  | error stop s' =>
      rw [hx] at hrun
      exact hrun

/-- The calls to the sink that an event makes. -/
def MadeInput (n : Negotiated) (s : Session W E (Logged SinkCall I)) (event : Event)
    (s' : Session W E (Logged SinkCall I)) : Prop :=
  ∃ new, s'.sink.calls = s.sink.calls ++ new ∧ ∀ call ∈ new, call.Authorized n s event

variable {n : Negotiated} {s s' : Session W E (Logged SinkCall I)} {event : Event}

/-- Where the sink is as it was no input was made. -/
theorem madeInput_none (h : s'.sink = s.sink) : MadeInput n s event s' := by
  refine ⟨[], ?_, fun call hcall => by cases hcall⟩
  rw [h, List.append_nil]

/-- One input that was authorized. -/
theorem madeInput_one {call : SinkCall} (h : s'.sink.calls = s.sink.calls ++ [call])
    (hauth : call.Authorized n s event) : MadeInput n s event s' := by
  refine ⟨[call], h, fun c hc => ?_⟩
  rw [List.mem_singleton.mp hc]
  exact hauth

/-- Input for a window goes to the handle of a window that is open, or nowhere. -/
theorem madeInput_window {id : UInt32} {f : Handle → Logged SinkCall I → Logged SinkCall I}
    {call : Handle → SinkCall} (hcall : ∀ h, (f h s.sink).calls = s.sink.calls ++ [call h])
    (hauth : ∀ st, s.streams.lookup id = some st → (call st.handle).Authorized n s event) :
    MadeInput n s event (leftBy (EStateM.run
      (match s.streams.lookup id with
        | none => pure ()
        | some st => inject (f st.handle) : Act W E (Logged SinkCall I) Unit) s)) := by
  cases hst : s.streams.lookup id with
  | none => exact madeInput_none rfl
  | some st => exact madeInput_one (hcall st.handle) (hauth st hst)

/-- A message whose feature was not negotiated does nothing. -/
theorem madeInput_gated {b : Bool} {x : Act W E (Logged SinkCall I) Unit}
    (h : b = true → MadeInput n s event (leftBy (x.run s))) :
    MadeInput n s event (leftBy (EStateM.run (if b then x else pure ()) s)) := by
  cases b with
  | false => exact madeInput_none rfl
  | true => exact h rfl

/-- **Input is authorized.**  Whatever the peer sends, the driver calls the sink only as the
message and the open windows allow. -/
theorem step_input [WindowSource W] [FrameEncoder E] [InputSink I] (params : ServeParams)
    (env : Env) (n : Negotiated) (event : Event) (s : Session W E (Logged SinkCall I))
    (hs : Fed LedgerInv s) :
    MadeInput n s event (leftBy ((step (n.config params env) event).run s)) := by
  cases event with
  | readerStopped => exact madeInput_none rfl
  | writerStopped failed => exact madeInput_none rfl
  | tick => exact madeInput_none (sink_left tick_sink s)
  | incoming msg =>
      cases msg with
      | pointerEvent p =>
          refine madeInput_window (f := fun h sink =>
            InputSink.pointerEvent sink h p.x p.y p.buttons p.wheelX p.wheelY) (fun h => rfl) ?_
          exact fun st hst => ⟨p, rfl, openFor_of_stream hs hst⟩
      | windowControl w =>
          refine madeInput_gated fun henabled => ?_
          refine madeInput_window (f := fun h sink =>
            InputSink.windowControl sink h w.action w.x w.y w.width w.height) (fun h => rfl) ?_
          exact fun st hst => ⟨bne_iff_ne.mp henabled, w, rfl, openFor_of_stream hs hst⟩
      | textInput t =>
          refine madeInput_gated fun henabled => ?_
          exact madeInput_one rfl ⟨bne_iff_ne.mp henabled, t, rfl, rfl⟩
      | keyEvent k => exact madeInput_one rfl ⟨k, rfl⟩
      | modifierSync m => exact madeInput_one rfl ⟨m, rfl⟩
      | frameAck ack =>
          refine madeInput_none (sink_left (keeps_get.bind fun a => ?_) s)
          cases a.streams.lookup ack.windowId with
          | none => exact keeps_pure _
          | some st => exact keeps_modify fun _ => rfl
      | ping p =>
          refine madeInput_none (sink_left ?_ s)
          exact (sink_of_platform elapsedUs_platform).bind fun _ =>
            sink_of_platform (send_platform _ _)
      | _ => exact madeInput_none rfl

end Driver

/-! ## The slot -/

section Server

variable {ι W E I : Type} [DecidableEq ι] [WindowSource W] [FrameEncoder E] [InputSink I]
  {params : ServeParams} {srv₀ : Server ι W E I}

/-- A server's run, one action later. -/
theorem Server.run_snoc (acts : List (ι × Action)) (act : ι × Action) :
    srv₀.run params (acts ++ [act]) = (srv₀.run params acts).step params act := by
  simp [Server.run]

/-- What one action does to the connection it is about. -/
theorem Server.step_took (params : ServeParams) (srv : Server ι W E I) (i : ι) (a : Action) :
    Took params srv.free (srv.connections i) a (srv.step params (i, a)).free
      ((srv.step params (i, a)).connections i) := by
  unfold Server.step
  simp only [Function.update_self]
  exact Connection.step_took params srv.free (srv.connections i) a

/-- An action of one connection leaves the others as they are. -/
theorem Server.step_other (srv : Server ι W E I) {i j : ι} (h : j ≠ i) (a : Action) :
    (srv.step params (i, a)).connections j = srv.connections j :=
  Function.update_of_ne h _ _

/-- The slot is left alone, taken by one that does not have it, or given back. -/
theorem Took.slot {free free' : Nat} {c c' : Connection W E I} {a : Action}
    (h : Took params free c a free' c') :
    (free' = free ∧ (c'.phase.holdsSlot = true → c.phase.holdsSlot = true)) ∨
      (free = free' + 1 ∧ c.phase.holdsSlot = false ∧ c'.phase.holdsSlot = true) ∨
      (free' = free + 1 ∧ c.phase.holdsSlot = true ∧ c'.phase.holdsSlot = false) := by
  cases h with
  | ignored => exact .inl ⟨rfl, fun hold => hold⟩
  | refused => exact .inl ⟨rfl, fun hold => by cases hold⟩
  | negotiated => exact .inl ⟨rfl, fun hold => by cases hold⟩
  | acquired hphase hfree =>
      refine .inr (.inl ⟨by omega, ?_, rfl⟩)
      rw [hphase]
      rfl
  | woke hphase =>
      refine .inl ⟨rfl, fun _ => ?_⟩
      rw [hphase]
      rfl
  | stopped hphase =>
      refine .inl ⟨rfl, fun _ => ?_⟩
      rw [hphase]
      rfl
  | left hphase =>
      refine .inr (.inr ⟨rfl, ?_, rfl⟩)
      rw [hphase]
      rfl

/-- Whether connection `i` has the slot. -/
def Server.Holds (srv : Server ι W E I) (i : ι) : Prop :=
  (srv.connections i).phase.holdsSlot = true

/-- At most one connection has the slot. -/
structure Server.Exclusive (srv : Server ι W E I) : Prop where
  free_le : srv.free ≤ 1
  taken : ∀ i, srv.Holds i → srv.free = 0
  one : ∀ i j, srv.Holds i → srv.Holds j → j = i

/-- **Every action** leaves one session at most. -/
theorem Server.Exclusive.step {srv : Server ι W E I} (h : srv.Exclusive) (i : ι) (a : Action) :
    (srv.step params (i, a)).Exclusive := by
  have hother : ∀ j, j ≠ i → (srv.step params (i, a)).Holds j → srv.Holds j := by
    intro j hj hold
    unfold Server.Holds at hold
    rw [srv.step_other hj a] at hold
    exact hold
  rcases (srv.step_took params i a).slot with
    ⟨hfree, hkeep⟩ | ⟨hfree, hwithout, -⟩ | ⟨hfree, hold, hwithout⟩
  · have hback : ∀ j, (srv.step params (i, a)).Holds j → srv.Holds j := by
      intro j hj
      by_cases hji : j = i
      · subst hji
        exact hkeep hj
      · exact hother j hji hj
    refine ⟨hfree ▸ h.free_le, ?_, ?_⟩
    · intro j hj
      rw [hfree]
      exact h.taken j (hback j hj)
    · intro j k hj hk
      exact h.one j k (hback j hj) (hback k hk)
  · -- the slot was free, so nobody had it
    have hnone : ∀ j, ¬srv.Holds j := by
      intro j hj
      have := h.taken j hj
      omega
    have honly : ∀ j, (srv.step params (i, a)).Holds j → j = i := by
      intro j hj
      by_contra hne
      exact hnone j (hother j hne hj)
    have hle := h.free_le
    refine ⟨by omega, fun j _ => by omega, ?_⟩
    intro j k hj hk
    rw [honly j hj, honly k hk]
  · have hnone : ∀ j, ¬(srv.step params (i, a)).Holds j := by
      intro j hj
      by_cases hji : j = i
      · subst hji
        rw [Server.Holds, hwithout] at hj
        cases hj
      · exact hji (h.one i j hold (hother j hji hj))
    have htaken := h.taken i hold
    refine ⟨by omega, fun j hj => absurd hj (hnone j), ?_⟩
    intro j k hj
    exact absurd hj (hnone j)

/-! ## How a connection came to drive -/

/-- After the actions `acts`, connection `i` begins with a `ClientHello` that carries the
token, and `n` has the features it asked for. -/
def Verified (params : ServeParams) (srv₀ : Server ι W E I) (acts : List (ι × Action)) (i : ι)
    (n : Negotiated) : Prop :=
  ∃ hello, (((srv₀.run params acts).connections i).link.readMessage .new).1 =
      .ok (some (.clientHello hello)) ∧
    hello.authToken = params.expectedToken ∧
    n.features = hello.features &&& Feature.supported

/-- The handshake of connection `i` is among the actions, and verified the token. -/
def Greeted (params : ServeParams) (srv₀ : Server ι W E I) (acts : List (ι × Action)) (i : ι)
    (n : Negotiated) : Prop :=
  ∃ before after, acts = before ++ (i, .negotiate) :: after ∧ Verified params srv₀ before i n

/-- After its handshake, connection `i` took the slot when it was free. -/
def Admitted (params : ServeParams) (srv₀ : Server ι W E I) (acts : List (ι × Action)) (i : ι)
    (n : Negotiated) : Prop :=
  ∃ before after, acts = before ++ (i, .tryAcquire) :: after ∧
    Greeted params srv₀ before i n ∧ (srv₀.run params before).free = 1

/-- Who was greeted stays so. -/
theorem Greeted.snoc {acts : List (ι × Action)} {i : ι} {n : Negotiated}
    (h : Greeted params srv₀ acts i n) (act : ι × Action) :
    Greeted params srv₀ (acts ++ [act]) i n := by
  obtain ⟨before, after, rfl, hverified⟩ := h
  exact ⟨before, after ++ [act], by simp, hverified⟩

/-- Who was admitted stays so. -/
theorem Admitted.snoc {acts : List (ι × Action)} {i : ι} {n : Negotiated}
    (h : Admitted params srv₀ acts i n) (act : ι × Action) :
    Admitted params srv₀ (acts ++ [act]) i n := by
  obtain ⟨before, after, rfl, hgreeted, hfree⟩ := h
  exact ⟨before, after ++ [act], by simp, hgreeted, hfree⟩

/-- What is known of a connection in each phase. -/
def Traced (params : ServeParams) (srv₀ : Server ι W E I) (acts : List (ι × Action)) (i : ι) :
    Phase W E I → Prop
  | .negotiated n _ => Greeted params srv₀ acts i n
  | .driving n s => Admitted params srv₀ acts i n ∧ Fed LedgerInv s
  | _ => True

/-- What is known of a phase stays known. -/
theorem Traced.snoc {acts : List (ι × Action)} {i : ι} {phase : Phase W E I}
    (h : Traced params srv₀ acts i phase) (act : ι × Action) :
    Traced params srv₀ (acts ++ [act]) i phase := by
  cases phase with
  | negotiated n platform => exact Greeted.snoc h act
  | driving n s => exact ⟨h.1.snoc act, h.2⟩
  | _ => trivial

/-- A turn of the loop that the driver survives keeps the log and the registry in step. -/
theorem step_ledger {cfg : Config} {event : Event} {s s' : Session W E I}
    (hs : Fed LedgerInv s) (hrun : (step cfg event).run s = .ok ⟨⟩ s') : Fed LedgerInv s' :=
  (step_fed (ledger_inv cfg) event).of_ok ⟨by rw [everyTurn_free, Bool.or_true], hs⟩ hrun

/-- Every phase of every connection has its history. -/
theorem traced_step {acts : List (ι × Action)} (hexcl : (srv₀.run params acts).Exclusive)
    (h : ∀ j, Traced params srv₀ acts j ((srv₀.run params acts).connections j).phase)
    (act : ι × Action) (j : ι) :
    Traced params srv₀ (acts ++ [act]) j
      ((srv₀.run params (acts ++ [act])).connections j).phase := by
  obtain ⟨i, a⟩ := act
  rw [Server.run_snoc]
  by_cases hji : j = i
  · subst hji
    have hbefore := h j
    have htook := (srv₀.run params acts).step_took params j a
    generalize ((srv₀.run params acts).step params (j, a)).free = free' at htook
    generalize ((srv₀.run params acts).step params (j, a)).connections j = c' at htook ⊢
    cases htook with
    | ignored => exact hbefore.snoc _
    | refused => trivial
    | negotiated hphase hread htoken hfeatures =>
        exact ⟨acts, [], rfl, _, hread, htoken, hfeatures⟩
    | acquired hphase hfree =>
        rw [hphase] at hbefore
        have hle := hexcl.free_le
        exact ⟨⟨acts, [], rfl, hbefore, by omega⟩, WindowRegistry.new_wellFormed, .start,
          Ledger.start⟩
    | woke hphase hrun =>
        rw [hphase] at hbefore
        exact ⟨hbefore.1.snoc _, step_ledger hbefore.2 hrun⟩
    | stopped => trivial
    | left => trivial
  · rw [Server.step_other _ hji]
    exact (h j).snoc _

/-- From the start on, at most one connection has the slot, and each has its history. -/
theorem run_traced (link : ι → Link) (sessionId : ι → UInt64) (env : ι → Env)
    (platform : ι → W × E × I) (acts : List (ι × Action)) :
    ((Server.start link sessionId env platform).run params acts).Exclusive ∧
      ∀ i, Traced params (Server.start link sessionId env platform) acts i
        (((Server.start link sessionId env platform).run params acts).connections i).phase := by
  induction acts using List.reverseRecOn with
  | nil =>
      have hnone : ∀ i, ¬(Server.start link sessionId env platform).Holds i := by
        intro i hi
        cases hi
      refine ⟨⟨Nat.le_refl 1, fun i hi => absurd hi (hnone i), ?_⟩, fun i => trivial⟩
      intro i j hi
      exact absurd hi (hnone i)
  | append_singleton acts act ih =>
      refine ⟨?_, traced_step ih.1 ih.2 act⟩
      rw [Server.run_snoc]
      exact ih.1.step act.1 act.2

/-- Only a driver that wakes up uses its platform. -/
theorem Took.platform {free free' : Nat} {c c' : Connection W E I} {a : Action}
    (h : Took params free c a free' c') :
    c'.phase.platform = c.phase.platform ∨
      ∃ event n s, a = .wake event ∧ c.phase = .driving n s ∧
        c'.phase.platform =
          (leftBy ((step (n.config params c.env) event).run s)).platform := by
  cases h with
  | ignored => exact .inl rfl
  | refused _ e hphase => exact .inl hphase.symm
  | negotiated hphase =>
      rw [hphase]
      exact .inl rfl
  | acquired hphase =>
      rw [hphase]
      exact .inl rfl
  | @woke n s s' event hphase hrun =>
      refine .inr ⟨event, n, s, rfl, hphase, ?_⟩
      rw [hrun]
      rfl
  | @stopped n s s' event stop hphase hrun =>
      refine .inr ⟨event, n, s, rfl, hphase, ?_⟩
      rw [hrun]
      rfl
  | left hphase =>
      rw [hphase]
      exact .inl rfl

/-- Connection `i` drives the session `s`: it was admitted, and no other has the slot. -/
structure Drives (params : ServeParams) (srv₀ : Server ι W E I) (acts : List (ι × Action))
    (i : ι) (n : Negotiated) (s : Session W E I) : Prop where
  phase : ((srv₀.run params acts).connections i).phase = .driving n s
  admitted : Admitted params srv₀ acts i n
  alone : ∀ k, (srv₀.run params acts).Holds k → k = i

end Server

/-! ## Calls on a connection -/

section Calls

variable {ι W E I : Type} [DecidableEq ι]

/-- An agent whose connections all have a platform that is watched. -/
abbrev WatchedServer (ι W E I : Type) :=
  Server ι (Logged SourceCall W) (Logged EncoderCall E) (Logged SinkCall I)

def WatchedServer.start (link : ι → Link) (sessionId : ι → UInt64) (env : ι → Env)
    (platform : ι → W × E × I) : WatchedServer ι W E I :=
  Server.start link sessionId env fun i =>
    (.fresh (platform i).1, .fresh (platform i).2.1, .fresh (platform i).2.2)

/-- The calls to the source of a connection. -/
def WatchedServer.sourceCalls (srv : WatchedServer ι W E I) (i : ι) : List SourceCall :=
  (srv.connections i).phase.platform.1.calls

/-- The calls to the sink of a connection. -/
def WatchedServer.sinkCalls (srv : WatchedServer ι W E I) (i : ι) : List SinkCall :=
  (srv.connections i).phase.platform.2.2.calls

variable [WindowSource W] [FrameEncoder E] [InputSink I]

/-- **Nobody moves the mouse who may not.**  In every run of the agent, whatever its peers send
and however their connections interleave: an action that makes a call to the source or the sink
of a connection wakes up the driver of that connection, whose token was verified and which then
took the one slot and alone has it; and each new call to a sink is allowed by the message that
the driver woke up with, by what was negotiated, and by the windows that are open. -/
theorem input_authorized (params : ServeParams) (link : ι → Link) (sessionId : ι → UInt64)
    (env : ι → Env) (platform : ι → W × E × I) (acts : List (ι × Action)) (i j : ι)
    (a : Action) :
    let srv₀ : WatchedServer ι W E I := WatchedServer.start link sessionId env platform
    let srv : WatchedServer ι W E I := srv₀.run params acts
    let srv' : WatchedServer ι W E I := srv.step params (i, a)
    (srv'.sourceCalls j ≠ srv.sourceCalls j ∨ srv'.sinkCalls j ≠ srv.sinkCalls j →
      j = i ∧ ∃ event n s, a = .wake event ∧ Drives params srv₀ acts i n s) ∧
    ∃ new, srv'.sinkCalls j = srv.sinkCalls j ++ new ∧
      ∀ call ∈ new, ∃ event n s, a = .wake event ∧ Drives params srv₀ acts j n s ∧
        call.Authorized n s event := by
  intro srv₀ srv srv'
  obtain ⟨hexcl, htraced⟩ : srv.Exclusive ∧
      ∀ k, Traced params srv₀ acts k (srv.connections k).phase :=
    run_traced link sessionId env _ acts
  -- a connection whose platform is left alone has no new calls
  have hquiet : (srv'.connections j).phase.platform = (srv.connections j).phase.platform →
      (srv'.sourceCalls j ≠ srv.sourceCalls j ∨ srv'.sinkCalls j ≠ srv.sinkCalls j →
        j = i ∧ ∃ event n s, a = .wake event ∧ Drives params srv₀ acts i n s) ∧
      ∃ new, srv'.sinkCalls j = srv.sinkCalls j ++ new ∧
        ∀ call ∈ new, ∃ event n s, a = .wake event ∧ Drives params srv₀ acts j n s ∧
          call.Authorized n s event := by
    intro hsame
    have hsource : srv'.sourceCalls j = srv.sourceCalls j :=
      congrArg (fun p => p.1.calls) hsame
    have hsink : srv'.sinkCalls j = srv.sinkCalls j := congrArg (fun p => p.2.2.calls) hsame
    refine ⟨?_, [], hsink.trans (List.append_nil _).symm, fun call hcall => by cases hcall⟩
    rintro (hnew | hnew)
    · exact absurd hsource hnew
    · exact absurd hsink hnew
  by_cases hji : j = i
  · subst hji
    rcases (srv.step_took params j a).platform with hsame | ⟨event, n, s, rfl, hphase, hplatform⟩
    · exact hquiet hsame
    · have htrace := htraced j
      rw [hphase] at htrace
      have hholds : srv.Holds j := by
        unfold Server.Holds
        rw [hphase]
        rfl
      have hdrives : Drives params srv₀ acts j n s :=
        ⟨hphase, htrace.1, fun k hk => hexcl.one j k hholds hk⟩
      refine ⟨fun _ => ⟨rfl, event, n, s, rfl, hdrives⟩, ?_⟩
      obtain ⟨new, hnew, hauth⟩ :=
        step_input params (srv.connections j).env n event s htrace.2
      refine ⟨new, ?_, fun call hcall => ⟨event, n, s, rfl, hdrives, hauth call hcall⟩⟩
      have hbefore : srv.sinkCalls j = s.sink.calls := by
        unfold WatchedServer.sinkCalls
        rw [hphase]
        rfl
      rw [hbefore, ← hnew]
      exact congrArg (fun p => p.2.2.calls) hplatform
  · have hsame : srv'.connections j = srv.connections j := srv.step_other hji a
    exact hquiet (by rw [hsame])

end Calls

end Oxrdp
