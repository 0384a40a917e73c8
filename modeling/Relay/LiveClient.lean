/-
# The reference client over whole runs

`client/src/RelayClient.ts`, all of it but the bookkeeping of sockets and timers (`Relay.Reconnect`).
`LiveClient` is the client of `Relay.Processing`, with its overlapping runs of `onMessage`, and with
the fields that are only reported.  Of the sockets there is left whether `this.ws` is an open one;
it may change at any time, in any of the ways in which it does (`connect`, `opened`, `closing`,
`closed`, `disconnect`), and a frame may come in at any time, as it does from a socket that is no
longer `this.ws`.

The loop of `onMessage` walks the Set that `handlers` had for the channel when it began, and a walk
comes to the handlers that are added to its Set on the way (`runsAfter`).  `unsubscribe` takes the
Set out of `handlers`, and a later `subscribe` begins another one; `left` are the walks that go on
in a Set that is no longer there.

The application's callbacks return, and a call of the client from inside `onGap`, `onDuplicate`,
`onError` or `onStateChange`, which would come between two statements of the client, is left out.
Such calls from a handler are not: the client awaits the handler right after calling it.  `sent` is
what the client writes, one socket after the other.

What a step does to each thing the client remembers is said once, in `Stepped`, and `stepped` shows
it of every step.  The ids and `lastSeen` are written by the arrival of a message that is not
suppressed (`fresh?`), and `lastAck` by the one call of `ack` that a step makes, if it makes one
(`ackCall`).  `newEvents_gaps` ties this to what the application can see, the gaps that are reported.
-/
import Mathlib
import Relay.Lib.Run
import Relay.Processing

namespace Relay

/-! ## 1. The rest of `RelayClient` -/

/-- `stats`. -/
structure ClientStats where
  messagesReceived : Nat := 0
  duplicatesSuppressed : Nat := 0
  gapsDetected : Nat := 0
  reconnects : Nat := 0
  resumes : Nat := 0
  deriving DecidableEq, Repr

/-- The errors that end all hope of a replay. -/
def ErrorCode.endsResume (code : ErrorCode) : Bool :=
  decide (code = .resumeGap) || decide (code = .resumeWindowExpired)

namespace RelayClient

/-- `handleFrame` for an ERROR. -/
def onError (code : ErrorCode) (message : String) (c : RelayClient) : RelayClient :=
  let c := if code.endsResume then { c with lastAck := Dict.empty, lastSeen := Dict.empty } else c
  c.emit (.error code message)

/-- `onConnected`, up to the fields that are only reported: RESUME from the acknowledged positions
if the session is the same, then SUBSCRIBE for every subscription. -/
def onConnected (sessionId : String) (c : RelayClient) : RelayClient :=
  let resuming := decide (c.sessionId = some sessionId)
  let c := { c with sessionId := some sessionId }
  let c := if resuming && decide (0 < c.lastAck.size) then c.send (.resume sessionId c.lastAck.entries)
    else c
  c.subscriptions.elems.foldl (fun c channel => c.send (.subscribe channel)) c

/-- `onMessageFor`. -/
def onMessageFor (channel : Channel) (handler : String) (c : RelayClient) : RelayClient :=
  { c with handlers :=
      c.handlers.set channel ((c.handlers.getD channel OSet.empty).add handler) }

/-- `subscribe`. -/
def subscribe (channel : Channel) (handler : Option String) (c : RelayClient) : RelayClient :=
  let c := { c with subscriptions := c.subscriptions.add channel }
  let c := match handler with
    | some handler => c.onMessageFor channel handler
    | none => c
  c.send (.subscribe channel)

/-- `unsubscribe`. -/
def unsubscribe (channel : Channel) (c : RelayClient) : RelayClient :=
  { c with
    subscriptions := c.subscriptions.discard channel
    handlers := c.handlers.erase channel
    lastAck := c.lastAck.erase channel
    lastSeen := c.lastSeen.erase channel }.send (.unsubscribe channel)

end RelayClient

/-- The channel and the bounds of a gap. -/
def ClientEvent.gap? : ClientEvent → Option (Channel × Int × Int)
  | .gap channel expected received => some (channel, expected, received)
  | _ => none

/-- What `onMessage` counts on the way that `arrive` has taken from `c`: a suppressed message, or the
gap it has reported. -/
def ClientStats.onMessage (c : RelayClient) (arrived : RelayClient × Option (List String))
    (stats : ClientStats) : ClientStats :=
  let stats := { stats with messagesReceived := stats.messagesReceived + 1 }
  match arrived.2 with
  | none => { stats with duplicatesSuppressed := stats.duplicatesSuppressed + 1 }
  | some _ =>
    let gaps := (arrived.1.events.drop c.events.length).filterMap ClientEvent.gap?
    { stats with gapsDetected := stats.gapsDetected + gaps.length }

/-! ## 2. Runs -/

/-- The client in operation. -/
structure LiveClient where
  inbox : Inbox := { client := {} }
  /-- The runs of `onMessage` whose Set of handlers `unsubscribe` has taken out of `handlers`. -/
  left : List Nat := []
  connectionId : Option ConnId := none
  nodeId : Option NodeId := none
  closedByUser : Bool := false
  stats : ClientStats := {}

/-- A frame, the end of a handler, a call of the application, or an event of a socket. -/
inductive ClientAct
  | frame (f : ServerFrame)
  | resolve (i : Nat)
  | reject (i : Nat)
  | subscribe (channel : Channel) (handler : Option String)
  | unsubscribe (channel : Channel)
  | ack (channel : Channel) (sequence : Int)
  | onMessageFor (channel : Channel) (handler : String)
  | connect
  /-- A socket opens, which is `this.ws` or an older one. -/
  | opened (current : Bool)
  /-- `this.ws` begins to close. -/
  | closing
  /-- The close event. -/
  | closed
  | disconnect

namespace LiveClient

variable (opts : ClientOptions)

/-- The client proper. -/
def client (s : LiveClient) : RelayClient := s.inbox.client

/-- Change the client proper. -/
def onClient (f : RelayClient → RelayClient) (s : LiveClient) : LiveClient :=
  { s with inbox := { s.inbox with client := f s.inbox.client } }

/-- The runs of `onMessage` after a handler has been added: a run that walks the Set of the channel
comes to the handler too, if it is new there. -/
def runsAfter (channel : Channel) (handler : String) (s : LiveClient) :
    List (MessageFrame × RelayClient.RunState) :=
  if handler ∈ s.client.handlers.getD channel OSet.empty then s.inbox.runs
  else s.inbox.runs.mapIdx fun i run =>
    match run with
    | (m, .pending handlers) =>
      if m.channel = channel ∧ i ∉ s.left then (m, .pending (handlers ++ [handler])) else run
    | _ => run

/-- `subscribe` and `onMessageFor` with a handler, as the runs of `onMessage` see it. -/
def addHandler (channel : Channel) (handler : String) (s : LiveClient) : LiveClient :=
  { s with inbox := { s.inbox with runs := s.runsAfter channel handler } }

/-- `unsubscribe`, as the runs of `onMessage` see it. -/
def leaveSets (channel : Channel) (s : LiveClient) : LiveClient :=
  { s with left := s.left ++ (List.range s.inbox.runs.length).filter fun i =>
      (s.inbox.runs[i]?).any fun run => decide (run.1.channel = channel) }

/-- `handleFrame`. -/
def handleFrame (s : LiveClient) : ServerFrame → LiveClient
  | .connected connectionId sessionId nodeId _ =>
    { s.onClient (RelayClient.onConnected sessionId) with
      connectionId := some connectionId, nodeId := some nodeId }
  | .ping _ => s.onClient (RelayClient.send .pong)
  | .message m =>
    { s with
      inbox := s.inbox.step opts (.receive m)
      stats := s.stats.onMessage s.client (s.client.arrive opts m) }
  | .resumed _ _ _ => { s with stats := { s.stats with resumes := s.stats.resumes + 1 } }
  | .subscribed _ => s
  | .unsubscribed _ => s
  | .disconnect _ => s
  | .error code message => s.onClient (RelayClient.onError code message)

/-- One step. -/
def step (s : LiveClient) : ClientAct → LiveClient
  | .frame f => s.handleFrame opts f
  | .resolve i => { s with inbox := s.inbox.step opts (.resolve i) }
  | .reject i => { s with inbox := s.inbox.step opts (.reject i) }
  | .subscribe channel handler =>
    ((handler.map fun handler => s.addHandler channel handler).getD s).onClient
      (RelayClient.subscribe channel handler)
  | .unsubscribe channel => (s.leaveSets channel).onClient (RelayClient.unsubscribe channel)
  | .ack channel sequence => s.onClient (RelayClient.ack channel sequence)
  | .onMessageFor channel handler =>
    (s.addHandler channel handler).onClient (RelayClient.onMessageFor channel handler)
  -- the new socket is not open yet
  | .connect => { s.onClient (fun c => { c with connected := false }) with closedByUser := false }
  -- `ws.send`, not `this.send`
  | .opened current => s.onClient (fun c =>
      { c with
        connected := current || c.connected
        sent := c.sent ++ [.connect opts.token c.sessionId] })
  | .closing => s.onClient (fun c => { c with connected := false })
  | .closed =>
    { s.onClient (fun c => { c with connected := false }) with
      stats := if s.closedByUser then s.stats
        else { s.stats with reconnects := s.stats.reconnects + 1 } }
  | .disconnect =>
    { s.onClient (fun c =>
        { c.send (.disconnect "client_request") with connected := false }) with
      closedByUser := true }

/-- What a step tells the application. -/
def newEvents (s : LiveClient) (a : ClientAct) : List ClientEvent :=
  (s.step opts a).client.events.drop s.client.events.length

/-- What a step writes. -/
def newFrames (s : LiveClient) (a : ClientAct) : List ClientFrame :=
  (s.step opts a).client.sent.drop s.client.sent.length

/-- `onMessage` would return without coming to the handlers. -/
def suppresses (s : LiveClient) (m : MessageFrame) : Bool := (s.client.arrive opts m).2.isNone

end LiveClient

/-! ## 3. The parts of the client as updates of named fields -/

namespace RelayClient

variable (opts : ClientOptions)

/-- `lastAck` after a call of `ack`. -/
def ackedAfter (channel : Channel) (sequence : Int) (c : RelayClient) : Dict Channel Int :=
  if sequence ≤ c.acked channel then c.lastAck else c.lastAck.set channel sequence

/-- `lastSeen` after a message. -/
def sightedAfter (m : MessageFrame) (c : RelayClient) : Dict Channel Int :=
  match c.lastSeen.get? m.channel with
  | none => c.lastSeen.set m.channel m.sequence
  | some previous =>
    if previous < m.sequence then c.lastSeen.set m.channel m.sequence else c.lastSeen

/-- The gap a message shows. -/
def gapShown (m : MessageFrame) (c : RelayClient) : List ClientEvent :=
  match c.lastSeen.get? m.channel with
  | none => []
  | some previous =>
    if toNumber (previous + 1) < m.sequence then
      [.gap m.channel (toNumber (previous + 1)) m.sequence]
    else []

/-- What a call of `send` may have written. -/
theorem eq_of_mem_sent {connected : Bool} {f frame : ClientFrame}
    (h : f ∈ if connected then [frame] else []) : f = frame := by
  split at h
  · exact List.mem_singleton.mp h
  · exact absurd h List.not_mem_nil

theorem send_eq (frame : ClientFrame) (c : RelayClient) :
    c.send frame = { c with sent := c.sent ++ if c.connected then [frame] else [] } := by
  unfold send
  split
  · rfl
  · rw [List.append_nil]

theorem ack_eq (channel : Channel) (sequence : Int) (c : RelayClient) :
    ∃ frames, c.ack channel sequence =
      { c with lastAck := c.ackedAfter channel sequence, sent := c.sent ++ frames } ∧
        ∀ f ∈ frames, f = .ack channel sequence := by
  unfold ack ackedAfter
  split
  · exact ⟨[], by rw [List.append_nil], fun f hf => absurd hf List.not_mem_nil⟩
  · exact ⟨if c.connected then [.ack channel sequence] else [], by rw [send_eq],
      fun f hf => eq_of_mem_sent hf⟩

theorem noteSequence_eq (m : MessageFrame) (c : RelayClient) :
    c.noteSequence m =
      { c with lastSeen := c.sightedAfter m, events := c.events ++ c.gapShown m } := by
  unfold noteSequence sightedAfter gapShown
  cases hseen : c.lastSeen.get? m.channel with
  | none => simp only [List.append_nil]
  | some previous =>
    simp only
    by_cases hgap : toNumber (previous + 1) < m.sequence
    · by_cases hlt : previous < m.sequence
      · simp only [hgap, hlt, if_true]
        rfl
      · simp only [hgap, hlt, if_true, if_false]
        rfl
    · by_cases hlt : previous < m.sequence
      · simp only [hgap, hlt, if_true, if_false, List.append_nil]
      · simp only [hgap, hlt, if_false, List.append_nil]

/-- The end of `onMessage` writes `lastAck` and sends the ACK, at most. -/
theorem finish_eq (m : MessageFrame) (c : RelayClient) :
    ∃ frames, c.finish opts m =
      { c with
        lastAck := if opts.autoAck then c.ackedAfter m.channel m.sequence else c.lastAck
        sent := c.sent ++ frames } ∧ ∀ f ∈ frames, f = .ack m.channel m.sequence := by
  unfold finish
  split
  · exact ack_eq m.channel m.sequence c
  · exact ⟨[], by rw [List.append_nil], fun f hf => absurd hf List.not_mem_nil⟩

theorem foldl_send_eq (l : List Channel) : ∀ c : RelayClient, ∃ frames,
    l.foldl (fun c channel => c.send (.subscribe channel)) c = { c with sent := c.sent ++ frames } ∧
      ∀ f ∈ frames, ∃ channel, f = .subscribe channel := by
  induction l with
  | nil =>
    intro c
    exact ⟨[], by simp, fun f hf => absurd hf List.not_mem_nil⟩
  | cons channel l ih =>
    intro c
    obtain ⟨frames, heq, hall⟩ := ih (c.send (.subscribe channel))
    refine ⟨(if c.connected then [.subscribe channel] else []) ++ frames, ?_, ?_⟩
    · rw [List.foldl_cons, heq, send_eq, List.append_assoc]
    · intro f hf
      rcases List.mem_append.mp hf with hf | hf
      · exact ⟨channel, eq_of_mem_sent hf⟩
      · exact hall f hf

/-- RESUME, if there is one to send, names exactly the acknowledged positions. -/
theorem onConnected_eq (sessionId : String) (c : RelayClient) :
    ∃ frames, c.onConnected sessionId =
      { c with sessionId := some sessionId, sent := c.sent ++ frames } ∧
        ∀ f ∈ frames, f = .resume sessionId c.lastAck.entries ∨ ∃ channel, f = .subscribe channel := by
  unfold onConnected
  simp only
  split
  · obtain ⟨frames, heq, hall⟩ := foldl_send_eq c.subscriptions.elems
      ({ c with sessionId := some sessionId }.send (.resume sessionId c.lastAck.entries))
    rw [send_eq] at heq ⊢
    refine ⟨(if c.connected then [.resume sessionId c.lastAck.entries] else []) ++ frames, ?_, ?_⟩
    · rw [heq, List.append_assoc]
    · intro f hf
      rcases List.mem_append.mp hf with hf | hf
      · exact Or.inl (eq_of_mem_sent hf)
      · exact Or.inr (hall f hf)
  · obtain ⟨frames, heq, hall⟩ := foldl_send_eq c.subscriptions.elems
      { c with sessionId := some sessionId }
    exact ⟨frames, heq, fun f hf => Or.inr (hall f hf)⟩

end RelayClient

/-! ## 4. What a step does to what the client remembers -/

namespace LiveClient

variable (opts : ClientOptions)

/-- The message a step takes in without suppressing it. -/
def fresh? (s : LiveClient) : ClientAct → Option MessageFrame
  | .frame (.message m) => if m.messageId ∈ s.client.seenIds then none else some m
  | _ => none

/-- The call of `ack` that a step makes: for a duplicate or a message without handlers at once, for
another message after its last handler. -/
def ackCall (s : LiveClient) : ClientAct → Option (Channel × Int)
  | .frame (.message m) =>
    if opts.autoAck && (decide (m.messageId ∈ s.client.seenIds) ||
        (s.client.handlersOf m.channel).isEmpty) then some (m.channel, m.sequence)
    else none
  | .resolve i =>
    match s.inbox.runs[i]? with
    | some (m, .pending [_]) => if opts.autoAck then some (m.channel, m.sequence) else none
    | _ => none
  | .ack channel sequence => some (channel, sequence)
  | _ => none

/-- What a step drops from a map of positions. -/
def forget (a : ClientAct) (positions : Dict Channel Int) : Dict Channel Int :=
  match a with
  | .unsubscribe channel => positions.erase channel
  | .frame (.error code _) => if code.endsResume then Dict.empty else positions
  | _ => positions

/-- The step makes the client forget where it is on the channel. -/
def forgets (d : Channel) : ClientAct → Bool
  | .unsubscribe channel => decide (channel = d)
  | .frame (.error code _) => code.endsResume
  | _ => false

/-- `subscriptions` after a step. -/
def subscriptionsAfter (s : LiveClient) : ClientAct → OSet Channel
  | .subscribe channel _ => s.client.subscriptions.add channel
  | .unsubscribe channel => s.client.subscriptions.discard channel
  | _ => s.client.subscriptions

/-- **What a step does**, field by field. -/
structure Stepped (s : LiveClient) (a : ClientAct) (c : RelayClient) : Prop where
  lastAck : c.lastAck = match s.ackCall opts a with
    | some (channel, sequence) => s.client.ackedAfter channel sequence
    | none => forget a s.client.lastAck
  lastSeen : c.lastSeen = match s.fresh? a with
    | some m => s.client.sightedAfter m
    | none => forget a s.client.lastSeen
  seenIds : c.seenIds = match s.fresh? a with
    | some m => (s.client.rememberId opts m.messageId).seenIds
    | none => s.client.seenIds
  seenOrder : c.seenOrder = match s.fresh? a with
    | some m => (s.client.rememberId opts m.messageId).seenOrder
    | none => s.client.seenOrder
  subscriptions : c.subscriptions = s.subscriptionsAfter a
  events : ∃ others, c.events = s.client.events ++ (match s.fresh? a with
      | some m => s.client.gapShown m
      | none => []) ++ others ∧ ∀ channel expected received, .gap channel expected received ∉ others
  sent : ∃ frames, c.sent = s.client.sent ++ frames ∧ ∀ sessionId positions,
    .resume sessionId positions ∈ frames →
      positions = s.client.lastAck.entries ∧ s.ackCall opts a = none ∧
        forget a s.client.lastAck = s.client.lastAck ∧
        s.subscriptionsAfter a = s.client.subscriptions

section Stepped

variable {opts} {s : LiveClient} {a : ClientAct}

/-- A step that touches only what is reported, the socket and the frames written. -/
theorem stepped_frames {c : RelayClient} {frames : List ClientFrame}
    (hack : s.ackCall opts a = none) (hfresh : s.fresh? a = none)
    (hforget : ∀ d, forget a d = d) (hsub : s.subscriptionsAfter a = s.client.subscriptions)
    (hc : ∃ sessionId connected handlers, c = { s.client with
      sessionId := sessionId, connected := connected, handlers := handlers,
      sent := s.client.sent ++ frames })
    (hresume : ∀ sessionId positions, .resume sessionId positions ∈ frames →
      positions = s.client.lastAck.entries) : Stepped opts s a c := by
  obtain ⟨sessionId, connected, handlers, rfl⟩ := hc
  refine ⟨?_, ?_, ?_, ?_, hsub.symm, ⟨[], ?_, ?_⟩, frames, rfl, ?_⟩
  · rw [hack, hforget]
  · rw [hfresh, hforget]
  · rw [hfresh]
  · rw [hfresh]
  · rw [hfresh, List.append_nil, List.append_nil]
  · exact fun _ _ _ h => absurd h List.not_mem_nil
  · exact fun sessionId positions h =>
      ⟨hresume sessionId positions h, hack, hforget _, hsub⟩

/-- A step that changes nothing of the client proper. -/
theorem stepped_same {c : RelayClient} (hc : c = s.client) (hack : s.ackCall opts a = none)
    (hfresh : s.fresh? a = none) (hforget : ∀ d, forget a d = d)
    (hsub : s.subscriptionsAfter a = s.client.subscriptions) : Stepped opts s a c := by
  have hself : c = { s.client with sent := s.client.sent ++ [] } := by
    rw [hc, List.append_nil]
  exact stepped_frames hack hfresh hforget hsub ⟨_, _, _, hself⟩
    (fun _ _ h => absurd h List.not_mem_nil)

/-- A call of `ack`, and nothing else but a callback. -/
theorem stepped_finish {m : MessageFrame} {events : List ClientEvent}
    (hack : s.ackCall opts a = if opts.autoAck then some (m.channel, m.sequence) else none)
    (hfresh : s.fresh? a = none) (hforget : ∀ d, forget a d = d)
    (hsub : s.subscriptionsAfter a = s.client.subscriptions)
    (hev : ∀ channel expected received, .gap channel expected received ∉ events) :
    Stepped opts s a
      ({ s.client with events := s.client.events ++ events }.finish opts m) := by
  obtain ⟨frames, heq, hall⟩ :=
    RelayClient.finish_eq opts m { s.client with events := s.client.events ++ events }
  rw [heq]
  refine ⟨?_, ?_, ?_, ?_, hsub.symm, ⟨events, ?_, hev⟩, frames, rfl, ?_⟩
  · rw [hack]
    cases opts.autoAck with
    | true => rfl
    | false => exact (hforget _).symm
  · rw [hfresh, hforget]
  · rw [hfresh]
  · rw [hfresh]
  · rw [hfresh, List.append_nil]
  · intro sessionId positions h
    nomatch hall _ h

/-- A message that is not suppressed: with handlers the first one is called, without handlers the
message is done with at once. -/
theorem stepped_fresh {m : MessageFrame} (h : m.messageId ∉ s.client.seenIds) :
    Stepped opts s (.frame (.message m)) (s.step opts (.frame (.message m))).client := by
  have hfresh : s.fresh? (.frame (.message m)) = some m := if_neg h
  have hnoted : s.inbox.noted opts m =
      { s.client.rememberId opts m.messageId with
        lastSeen := s.client.sightedAfter m
        events := s.client.events ++ s.client.gapShown m } :=
    RelayClient.noteSequence_eq m (s.client.rememberId opts m.messageId)
  have hstep : (s.step opts (.frame (.message m))).client =
      ((s.inbox.noted opts m).proceed opts m (s.client.handlersOf m.channel)).1 := by
    show (s.inbox.step opts (.receive m)).client = _
    rw [Inbox.step_new h, Inbox.noted_handlersOf]
    rfl
  rw [hstep, hnoted]
  cases hh : s.client.handlersOf m.channel with
  | nil =>
    have hack : s.ackCall opts (.frame (.message m)) =
        if opts.autoAck then some (m.channel, m.sequence) else none := by
      simp [ackCall, hh]
    obtain ⟨frames, heq, hall⟩ := RelayClient.finish_eq opts m
      { s.client.rememberId opts m.messageId with
        lastSeen := s.client.sightedAfter m
        events := s.client.events ++ s.client.gapShown m }
    rw [RelayClient.proceed, heq]
    refine ⟨?_, ?_, ?_, ?_, rfl, ⟨[], ?_, ?_⟩, frames, rfl, ?_⟩
    · rw [hack]
      cases opts.autoAck <;> rfl
    · rw [hfresh]
    · rw [hfresh]
    · rw [hfresh]
    · rw [hfresh, List.append_nil]
    · exact fun _ _ _ h => absurd h List.not_mem_nil
    · intro sessionId positions h
      cases hall _ h
  | cons handler rest =>
    have hack : s.ackCall opts (.frame (.message m)) = none := by
      simp [ackCall, hh, h]
    refine ⟨?_, ?_, ?_, ?_, rfl, ⟨[.message handler m], ?_, ?_⟩, [], ?_, ?_⟩
    · rw [hack]
      rfl
    · rw [hfresh]
      rfl
    · rw [hfresh]
      rfl
    · rw [hfresh]
      rfl
    · rw [hfresh]
      rfl
    · intro channel expected received h
      cases List.mem_singleton.mp h
    · exact (List.append_nil _).symm
    · exact fun _ _ h => absurd h List.not_mem_nil

theorem stepped_message (m : MessageFrame) :
    Stepped opts s (.frame (.message m)) (s.step opts (.frame (.message m))).client := by
  by_cases h : m.messageId ∈ s.client.seenIds
  · have hack : s.ackCall opts (.frame (.message m)) =
        if opts.autoAck then some (m.channel, m.sequence) else none := by
      simp [ackCall, h]
    have hstep : (s.step opts (.frame (.message m))).client =
        { s.client with
          events := s.client.events ++
            [ClientEvent.duplicate m.channel m.messageId] }.finish opts m := by
      show (s.inbox.step opts (.receive m)).client = _
      rw [Inbox.step_duplicate h]
      rfl
    rw [hstep]
    refine stepped_finish hack (if_pos h) (fun _ => rfl) rfl ?_
    intro channel expected received h
    nomatch List.mem_singleton.mp h
  · exact stepped_fresh h

theorem stepped_error (code : ErrorCode) (message : String) :
    Stepped opts s (.frame (.error code message))
      (s.step opts (.frame (.error code message))).client := by
  have hev : ∀ channel expected received,
      ClientEvent.gap channel expected received ∉ [ClientEvent.error code message] := by
    intro channel expected received h
    nomatch List.mem_singleton.mp h
  have hstep : (s.step opts (.frame (.error code message))).client =
      { s.client with
        lastAck := forget (.frame (.error code message)) s.client.lastAck
        lastSeen := forget (.frame (.error code message)) s.client.lastSeen
        events := s.client.events ++ [.error code message] } := by
    show s.client.onError code message = _
    unfold RelayClient.onError forget
    simp only
    split <;> rfl
  rw [hstep]
  refine ⟨rfl, rfl, rfl, rfl, rfl, ⟨[.error code message], ?_, hev⟩, [], ?_, ?_⟩
  · exact congrArg (· ++ [ClientEvent.error code message]) (List.append_nil _).symm
  · exact (List.append_nil _).symm
  · exact fun _ _ h => absurd h List.not_mem_nil

/-- The end of a handler: the run goes on to the next one, or to its `ack`. -/
theorem stepped_resolve (i : Nat) :
    Stepped opts s (.resolve i) (s.step opts (.resolve i)).client := by
  have hclient : (s.step opts (.resolve i)).client = (s.inbox.step opts (.resolve i)).client := rfl
  rw [hclient]
  -- a run that awaits no handler
  have hidle : s.inbox.step opts (.resolve i) = s.inbox → s.ackCall opts (.resolve i) = none →
      Stepped opts s (.resolve i) (s.inbox.step opts (.resolve i)).client :=
    fun hsame hack => stepped_same (by rw [hsame]; rfl) hack rfl (fun _ => rfl) rfl
  match hi : s.inbox.runs[i]? with
  | some (m, .pending [handler]) =>
    rw [Inbox.step_resolve_last hi]
    have hack : s.ackCall opts (.resolve i) =
        if opts.autoAck then some (m.channel, m.sequence) else none := by
      simp only [ackCall, hi]
    have hself : s.inbox.client = { s.client with events := s.client.events ++ [] } := by
      rw [List.append_nil]
      rfl
    rw [hself]
    exact stepped_finish hack rfl (fun _ => rfl) rfl (fun _ _ _ h => absurd h List.not_mem_nil)
  | some (m, .pending (handler :: next :: rest)) =>
    rw [Inbox.step_resolve_next hi]
    have hack : s.ackCall opts (.resolve i) = none := by simp only [ackCall, hi]
    refine ⟨?_, rfl, rfl, rfl, rfl, ⟨[.message next m], ?_, ?_⟩, [], ?_, ?_⟩
    · rw [hack]
      rfl
    · exact congrArg (· ++ [ClientEvent.message next m]) (List.append_nil _).symm
    · intro channel expected received h
      nomatch List.mem_singleton.mp h
    · exact (List.append_nil _).symm
    · exact fun _ _ h => absurd h List.not_mem_nil
  | none => exact hidle (by simp only [Inbox.step, hi]) (by simp only [ackCall, hi])
  | some (m, .completed) =>
    exact hidle (by simp only [Inbox.step, hi]) (by simp only [ackCall, hi])
  | some (m, .rejected) =>
    exact hidle (by simp only [Inbox.step, hi]) (by simp only [ackCall, hi])
  | some (m, .pending []) =>
    exact hidle (by simp only [Inbox.step, hi]) (by simp only [ackCall, hi])

theorem stepped_reject (i : Nat) :
    Stepped opts s (.reject i) (s.step opts (.reject i)).client := by
  refine stepped_same ?_ rfl rfl (fun _ => rfl) rfl
  show (s.inbox.step opts (.reject i)).client = s.inbox.client
  unfold Inbox.step
  simp only
  split <;> rfl

theorem stepped_subscribe (channel : Channel) (handler : Option String) :
    Stepped opts s (.subscribe channel handler)
      (s.step opts (.subscribe channel handler)).client := by
  have hstep : ∃ handlers, (s.step opts (.subscribe channel handler)).client =
      { s.client with
        subscriptions := s.client.subscriptions.add channel
        handlers := handlers
        sent := s.client.sent ++ if s.client.connected then [.subscribe channel] else [] } := by
    cases handler with
    | none => exact ⟨s.client.handlers, RelayClient.send_eq _ _⟩
    | some handler => exact ⟨_, RelayClient.send_eq _ _⟩
  obtain ⟨handlers, heq⟩ := hstep
  rw [heq]
  refine ⟨rfl, rfl, rfl, rfl, rfl, ⟨[], ?_, ?_⟩, _, rfl, ?_⟩
  · exact ((List.append_nil _).trans (List.append_nil _)).symm
  · exact fun _ _ _ h => absurd h List.not_mem_nil
  · intro sessionId positions h
    cases RelayClient.eq_of_mem_sent h

theorem stepped_unsubscribe (channel : Channel) :
    Stepped opts s (.unsubscribe channel) (s.step opts (.unsubscribe channel)).client := by
  have hstep : (s.step opts (.unsubscribe channel)).client =
      { s.client with
        subscriptions := s.client.subscriptions.discard channel
        handlers := s.client.handlers.erase channel
        lastAck := s.client.lastAck.erase channel
        lastSeen := s.client.lastSeen.erase channel
        sent := s.client.sent ++ if s.client.connected then [.unsubscribe channel] else [] } :=
    RelayClient.send_eq _ _
  rw [hstep]
  refine ⟨rfl, rfl, rfl, rfl, rfl, ⟨[], ?_, ?_⟩, _, rfl, ?_⟩
  · exact ((List.append_nil _).trans (List.append_nil _)).symm
  · exact fun _ _ _ h => absurd h List.not_mem_nil
  · intro sessionId positions h
    cases RelayClient.eq_of_mem_sent h

theorem stepped_ack (channel : Channel) (sequence : Int) :
    Stepped opts s (.ack channel sequence) (s.step opts (.ack channel sequence)).client := by
  obtain ⟨frames, heq, hall⟩ := RelayClient.ack_eq channel sequence s.client
  show Stepped opts s _ (s.client.ack channel sequence)
  rw [heq]
  refine ⟨rfl, rfl, rfl, rfl, rfl, ⟨[], ?_, ?_⟩, frames, rfl, ?_⟩
  · exact ((List.append_nil _).trans (List.append_nil _)).symm
  · exact fun _ _ _ h => absurd h List.not_mem_nil
  · intro sessionId positions h
    nomatch hall _ h

theorem stepped_frame (f : ServerFrame) :
    Stepped opts s (.frame f) (s.step opts (.frame f)).client := by
  cases f with
  | connected connectionId sessionId nodeId heartbeat =>
    obtain ⟨frames, heq, hall⟩ := RelayClient.onConnected_eq sessionId s.client
    refine stepped_frames rfl rfl (fun _ => rfl) rfl ⟨_, _, _, heq⟩ ?_
    intro id positions h
    rcases hall _ h with hf | ⟨channel, hf⟩
    · exact (ClientFrame.resume.inj hf).2
    · nomatch hf
  | ping serverTime =>
    refine stepped_frames rfl rfl (fun _ => rfl) rfl ⟨_, _, _, RelayClient.send_eq _ _⟩ ?_
    intro id positions h
    cases RelayClient.eq_of_mem_sent h
  | subscribed channel => exact stepped_same rfl rfl rfl (fun _ => rfl) rfl
  | unsubscribed channel => exact stepped_same rfl rfl rfl (fun _ => rfl) rfl
  | message m => exact stepped_message m
  | resumed sessionId replayed gaps => exact stepped_same rfl rfl rfl (fun _ => rfl) rfl
  | error code message => exact stepped_error code message
  | disconnect reason => exact stepped_same rfl rfl rfl (fun _ => rfl) rfl

end Stepped

/-- **Every step does just this.** -/
theorem stepped (opts : ClientOptions) (s : LiveClient) (a : ClientAct) :
    Stepped opts s a (s.step opts a).client := by
  -- the calls and events that concern the socket
  have hsocket : ∀ {a : ClientAct} {connected : Bool} {frames : List ClientFrame},
      s.ackCall opts a = none → s.fresh? a = none → (∀ d, forget a d = d) →
      s.subscriptionsAfter a = s.client.subscriptions →
      (s.step opts a).client =
        { s.client with connected := connected, sent := s.client.sent ++ frames } →
      (∀ sessionId positions, ClientFrame.resume sessionId positions ∉ frames) →
      Stepped opts s a (s.step opts a).client :=
    fun hack hfresh hforget hsub hc hno => stepped_frames hack hfresh hforget hsub ⟨_, _, _, hc⟩
      (fun sessionId positions h => absurd h (hno sessionId positions))
  have hlinked : ∀ {connected : Bool}, { s.client with connected := connected } =
      { s.client with connected := connected, sent := s.client.sent ++ [] } := by
    intro connected
    rw [List.append_nil]
  cases a with
  | frame f => exact stepped_frame f
  | resolve i => exact stepped_resolve i
  | reject i => exact stepped_reject i
  | subscribe channel handler => exact stepped_subscribe channel handler
  | unsubscribe channel => exact stepped_unsubscribe channel
  | ack channel sequence => exact stepped_ack channel sequence
  | onMessageFor channel handler =>
    have hstep : (s.step opts (.onMessageFor channel handler)).client =
        { s.client.onMessageFor channel handler with sent := s.client.sent ++ [] } := by
      rw [List.append_nil]
      rfl
    exact stepped_frames rfl rfl (fun _ => rfl) rfl ⟨_, _, _, hstep⟩
      (fun _ _ h => absurd h List.not_mem_nil)
  | connect => exact hsocket rfl rfl (fun _ => rfl) rfl hlinked (fun _ _ => List.not_mem_nil)
  | opened current =>
    refine hsocket rfl rfl (fun _ => rfl) rfl rfl ?_
    intro sessionId positions h
    nomatch List.mem_singleton.mp h
  | closing => exact hsocket rfl rfl (fun _ => rfl) rfl hlinked (fun _ _ => List.not_mem_nil)
  | closed => exact hsocket rfl rfl (fun _ => rfl) rfl hlinked (fun _ _ => List.not_mem_nil)
  | disconnect =>
    have hstep : (s.step opts .disconnect).client =
        { s.client with
          connected := false
          sent := s.client.sent ++
            if s.client.connected then [.disconnect "client_request"] else [] } := by
      show { s.client.send (.disconnect "client_request") with connected := false } = _
      rw [RelayClient.send_eq]
    refine hsocket rfl rfl (fun _ => rfl) rfl hstep ?_
    intro sessionId positions h
    cases RelayClient.eq_of_mem_sent h

section Run

variable {opts} {s : LiveClient} {a : ClientAct}

/-- A message is suppressed iff its id is in `seenIds`. -/
theorem suppresses_iff (opts : ClientOptions) (s : LiveClient) (m : MessageFrame) :
    s.suppresses opts m = true ↔ m.messageId ∈ s.client.seenIds := by
  unfold suppresses RelayClient.arrive
  split
  · rename_i h
    exact iff_of_true rfl h
  · rename_i h
    exact iff_of_false Bool.false_ne_true h

/-- A suppressed message gets no run of the handlers, and any other one does. -/
theorem suppresses_iff_runs (opts : ClientOptions) (s : LiveClient) (m : MessageFrame) :
    s.suppresses opts m = true ↔
      (s.step opts (.frame (.message m))).inbox.runs = s.inbox.runs := by
  have hstep : (s.step opts (.frame (.message m))).inbox = s.inbox.step opts (.receive m) := rfl
  rw [suppresses_iff, hstep]
  by_cases h : m.messageId ∈ s.client.seenIds
  · exact iff_of_true h (by rw [Inbox.step_duplicate h])
  · refine iff_of_false h ?_
    rw [Inbox.step_new h]
    exact fun hsame => by simpa using congrArg List.length hsame

theorem fresh?_eq_some (opts : ClientOptions) {m : MessageFrame} (h : s.fresh? a = some m) :
    a = .frame (.message m) ∧ s.suppresses opts m = false := by
  unfold fresh? at h
  split at h
  · split at h
    · nomatch h
    · rename_i m' hnew
      cases h
      exact ⟨rfl, by rw [← Bool.not_eq_true, suppresses_iff]; exact hnew⟩
  · nomatch h

theorem suppresses_of_stale (opts : ClientOptions) {m : MessageFrame}
    (h : s.fresh? (.frame (.message m)) = none) : s.suppresses opts m = true := by
  rw [suppresses_iff]
  by_contra hnew
  rw [fresh?, if_neg hnew] at h
  nomatch h

/-- What a step drops, at one channel. -/
theorem forget_get? (a : ClientAct) (positions : Dict Channel Int) (d : Channel) :
    (forget a positions).get? d = if forgets d a then none else positions.get? d := by
  cases a with
  | unsubscribe channel => simp [forget, forgets, eq_comm]
  | frame f =>
    cases f with
    | error code message =>
      have hforgets : forgets d (.frame (.error code message)) = code.endsResume := rfl
      rw [hforgets, forget]
      by_cases hends : code.endsResume = true
      · rw [if_pos hends, if_pos hends]
        exact Dict.get?_empty d
      · rw [if_neg hends, if_neg hends]
    | _ => rfl
  | _ => rfl

/-- The gaps a step reports are those its message shows. -/
theorem newEvents_gaps : (s.newEvents opts a).filterMap ClientEvent.gap? =
    match s.fresh? a with
    | some m => (s.client.gapShown m).filterMap ClientEvent.gap?
    | none => [] := by
  obtain ⟨others, heq, hno⟩ := (stepped opts s a).events
  have hothers : others.filterMap ClientEvent.gap? = [] := by
    rw [List.filterMap_eq_nil_iff]
    intro e he
    cases e with
    | gap channel expected received => exact absurd he (hno channel expected received)
    | duplicate channel messageId => rfl
    | error code message => rfl
    | message handler m => rfl
  unfold newEvents
  rw [heq, List.append_assoc, List.drop_left, List.filterMap_append, hothers, List.append_nil]
  cases s.fresh? a <;> rfl

end Run

end LiveClient

end Relay
