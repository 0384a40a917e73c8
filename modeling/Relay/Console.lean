/-
# The console's client

`frontend/index.html` has a client of its own, "an inline JS port of client/src/RelayClient.ts".
Here it is translated on its own, with its loop that evicts ids one by one and the log that the page
always asks for, and compared with the reference client step by step, both given the same frames,
the same calls of `subscribe` and the same events of their sockets.

The two differ in one thing.  Before it acknowledges a new message the port computes the text of the
log entry, `${m.payload.text ?? JSON.stringify(m.payload)}`, and JavaScript has no string for some of
the values that `text` may have: an object with a member `toString`, which is not a function in JSON,
or an array with such an object in it.  The exception ends `onMessage`, so the message is remembered
as seen but never acknowledged.

* `mirror`: the port's state as a function of the reference client's.
* `mirror_step`: the port takes the same step, unless the log entry throws.
* `console_matches_iff`: the two clients agree after every step of a run iff no message of the run
  that has to be acknowledged has such a text.
* `console_skips_ack`: one such message.
-/
import Mathlib
import Relay.LiveClient

namespace Relay

/-! ## 1. The text of a log entry -/

mutual

/-- `${value}` throws: `toString` of an object is looked up in the object itself, and an array is the
join of its elements. -/
def Json.stringThrows : Json → Bool
  | .arr items => Json.joinThrows items
  | .obj fields => fields.any (fun field => field.1 = "toString")
  | _ => false

/-- `items.join()` throws. -/
def Json.joinThrows : List Json → Bool
  | [] => false
  | item :: items => item.stringThrows || Json.joinThrows items

end

/-- `${payload.text ?? JSON.stringify(payload)}` throws. -/
def Json.logThrows : Json → Bool
  | .null => true
  | .obj fields =>
    match Dict.getL "text" fields with
    | some text => text.stringThrows
    | none => false
  | _ => false

/-! ## 2. The port -/

/-- The options of the port. -/
structure ConsoleOptions where
  token : String := ""
  dedupWindowSize : Nat := 5000
  /-- There is an `onLog`. -/
  onLog : Bool := true

/-- `RelayClient` of `index.html`. -/
structure ConsoleClient where
  sessionId : Option String := none
  connectionId : Option ConnId := none
  nodeId : Option NodeId := none
  subscriptions : OSet Channel := OSet.empty
  lastAck : Dict Channel Int := Dict.empty
  lastSeen : Dict Channel Int := Dict.empty
  seenIds : OSet String := OSet.empty
  seenOrder : List String := []
  paused : Bool := false
  closedByUser : Bool := false
  stats : ClientStats := {}
  /-- There is a socket and it is open. -/
  connected : Bool := false
  sent : List ClientFrame := []

/-- What happens to both clients. -/
inductive ConsoleAct
  | frame (f : ServerFrame)
  | subscribe (channel : Channel)
  | connect
  | opened (current : Bool)
  | closing
  | closed

namespace ConsoleClient

variable (opts : ConsoleOptions)

/-- `send`. -/
def send (frame : ClientFrame) (c : ConsoleClient) : ConsoleClient :=
  if c.connected then { c with sent := c.sent ++ [frame] } else c

/-- `ack`. -/
def ack (channel : Channel) (sequence : Int) (c : ConsoleClient) : ConsoleClient :=
  if sequence ≤ c.lastAck.getD channel 0 then c
  else { c with lastAck := c.lastAck.set channel sequence }.send (.ack channel sequence)

/-- `subscribe`. -/
def subscribe (channel : Channel) (c : ConsoleClient) : ConsoleClient :=
  { c with subscriptions := c.subscriptions.add channel }.send (.subscribe channel)

/-- The loop that evicts the oldest ids while there are too many. -/
def evict (dedupWindowSize : Nat) : List String → OSet String → List String × OSet String
  | [], ids => ([], ids)
  | old :: order, ids =>
    if order.length + 1 > dedupWindowSize then evict dedupWindowSize order (ids.discard old)
    else (old :: order, ids)

/-- `onConnected`. -/
def onConnected (connectionId : ConnId) (sessionId : String) (nodeId : NodeId) (c : ConsoleClient) :
    ConsoleClient :=
  let resuming := decide (c.sessionId = some sessionId)
  let c := { c with
    sessionId := some sessionId, connectionId := some connectionId, nodeId := some nodeId }
  let c := if resuming && decide (0 < c.lastAck.size) then
      c.send (.resume sessionId c.lastAck.entries)
    else c
  c.subscriptions.elems.foldl (fun c channel => c.send (.subscribe channel)) c

/-- The end of `onMessage`. -/
def finish (m : MessageFrame) (c : ConsoleClient) : ConsoleClient :=
  if c.paused then c else c.ack m.channel m.sequence

/-- The ids, the counters and `lastSeen`, for a message that is not suppressed. -/
def note (m : MessageFrame) (c : ConsoleClient) : ConsoleClient :=
  let kept := evict opts.dedupWindowSize (c.seenOrder ++ [m.messageId]) (c.seenIds.add m.messageId)
  let c := { c with seenOrder := kept.1, seenIds := kept.2 }
  match c.lastSeen.get? m.channel with
  | none => { c with lastSeen := c.lastSeen.set m.channel m.sequence }
  | some prev =>
    let c := if m.sequence > toNumber (prev + 1) then
        { c with stats := { c.stats with gapsDetected := c.stats.gapsDetected + 1 } }
      else c
    if m.sequence > prev then { c with lastSeen := c.lastSeen.set m.channel m.sequence } else c

/-- `onMessage`. -/
def onMessage (m : MessageFrame) (c : ConsoleClient) : ConsoleClient :=
  let c := { c with stats := { c.stats with messagesReceived := c.stats.messagesReceived + 1 } }
  if m.messageId ∈ c.seenIds then
    { c with stats := { c.stats with
        duplicatesSuppressed := c.stats.duplicatesSuppressed + 1 } }.finish m
  else
    let c := c.note opts m
    -- an exception in the log entry leaves everything as it is now
    if opts.onLog && m.payload.logThrows then c else c.finish m

/-- `handleFrame`. -/
def handleFrame (c : ConsoleClient) : ServerFrame → ConsoleClient
  | .connected connectionId sessionId nodeId _ => c.onConnected connectionId sessionId nodeId
  | .ping _ => c.send .pong
  | .message m => c.onMessage opts m
  | .resumed _ _ _ => { c with stats := { c.stats with resumes := c.stats.resumes + 1 } }
  | .subscribed _ => c
  -- there is no case for it in the switch
  | .unsubscribed _ => c
  | .disconnect _ => c
  | .error code _ =>
    if code = .resumeGap ∨ code = .resumeWindowExpired then
      { c with lastAck := Dict.empty, lastSeen := Dict.empty }
    else c

/-- One step. -/
def step (c : ConsoleClient) : ConsoleAct → ConsoleClient
  | .frame f => c.handleFrame opts f
  | .subscribe channel => c.subscribe channel
  | .connect => { c with connected := false, closedByUser := false }
  | .opened current =>
    { c with
      connected := current || c.connected
      sent := c.sent ++ [.connect opts.token c.sessionId] }
  | .closing => { c with connected := false }
  | .closed =>
    { c with
      connected := false
      stats := if c.closedByUser then c.stats
        else { c.stats with reconnects := c.stats.reconnects + 1 } }

end ConsoleClient

/-! ## 3. The two side by side -/

/-- The reference client's options with the same values, `autoAck` on. -/
def ConsoleOptions.reference (opts : ConsoleOptions) : ClientOptions where
  token := opts.token
  dedupWindowSize := opts.dedupWindowSize
  autoAck := true

/-- The same step of the reference client. -/
def ConsoleAct.toClient : ConsoleAct → ClientAct
  | .frame f => .frame f
  | .subscribe channel => .subscribe channel none
  | .connect => .connect
  | .opened current => .opened current
  | .closing => .closing
  | .closed => .closed

/-- Both clients. -/
structure Clients where
  reference : LiveClient := {}
  console : ConsoleClient := {}

/-- One step of both. -/
def Clients.step (opts : ConsoleOptions) (x : Clients) (a : ConsoleAct) : Clients where
  reference := x.reference.step opts.reference a.toClient
  console := x.console.step opts a

/-- The two have sent the same frames and are in equal states. -/
structure Clients.Match (x : Clients) : Prop where
  sent : x.console.sent = x.reference.client.sent
  sessionId : x.console.sessionId = x.reference.client.sessionId
  subscriptions : x.console.subscriptions = x.reference.client.subscriptions
  lastAck : x.console.lastAck = x.reference.client.lastAck
  lastSeen : x.console.lastSeen = x.reference.client.lastSeen
  seenIds : x.console.seenIds = x.reference.client.seenIds
  seenOrder : x.console.seenOrder = x.reference.client.seenOrder
  stats : x.console.stats = x.reference.stats

/-- The log entry of the message throws, although the message is new and to be acknowledged. -/
def skipsAck (opts : ConsoleOptions) (c : RelayClient) (m : MessageFrame) : Bool :=
  opts.onLog && m.payload.logThrows && decide (m.messageId ∉ c.seenIds) &&
    decide (c.acked m.channel < m.sequence)

/-- The step is not such a message. -/
def Loggable (opts : ConsoleOptions) (x : Clients) : ConsoleAct → Prop
  | .frame (.message m) => skipsAck opts x.reference.client m = false
  | _ => True

/-! ## 4. The port as a function of the reference client -/

/-- The fields of the reference client proper and the counters, put into the port. -/
def RelayClient.inConsole (base : ConsoleClient) (stats : ClientStats) (c : RelayClient) :
    ConsoleClient :=
  { base with
    stats := stats
    sessionId := c.sessionId
    subscriptions := c.subscriptions
    lastAck := c.lastAck
    lastSeen := c.lastSeen
    seenIds := c.seenIds
    seenOrder := c.seenOrder
    connected := c.connected
    sent := c.sent }

/-- What the port has beside those. -/
def LiveClient.frameOf (s : LiveClient) : ConsoleClient :=
  { connectionId := s.connectionId, nodeId := s.nodeId, closedByUser := s.closedByUser }

/-- The port that corresponds to a reference client. -/
def mirror (s : LiveClient) : ConsoleClient := s.client.inConsole s.frameOf s.stats

section Mirror

variable {opts : ConsoleOptions} {base : ConsoleClient} {stats : ClientStats} {c : RelayClient}
  {m : MessageFrame}

theorem inConsole_send (frame : ClientFrame) :
    (c.send frame).inConsole base stats = (c.inConsole base stats).send frame := by
  unfold RelayClient.send ConsoleClient.send
  by_cases hc : c.connected = true
  · have hc' : (c.inConsole base stats).connected = true := hc
    rw [if_pos hc, if_pos hc']
    rfl
  · have hc' : ¬ (c.inConsole base stats).connected = true := hc
    rw [if_neg hc, if_neg hc']

theorem inConsole_ack (channel : Channel) (sequence : Int) :
    (c.ack channel sequence).inConsole base stats = (c.inConsole base stats).ack channel sequence := by
  unfold RelayClient.ack ConsoleClient.ack
  by_cases hs : sequence ≤ c.acked channel
  · have hs' : sequence ≤ (c.inConsole base stats).lastAck.getD channel 0 := hs
    rw [if_pos hs, if_pos hs']
  · have hs' : ¬ sequence ≤ (c.inConsole base stats).lastAck.getD channel 0 := hs
    rw [if_neg hs, if_neg hs', inConsole_send]
    rfl

/-- The reference client acknowledges at the end of `onMessage`, and so does the port. -/
theorem inConsole_finish (hp : base.paused = false) :
    (c.finish opts.reference m).inConsole base stats = (c.inConsole base stats).finish m := by
  have hp' : ¬ (c.inConsole base stats).paused = true := by
    show ¬ base.paused = true
    rw [hp]
    exact Bool.false_ne_true
  have hauto : opts.reference.autoAck = true := rfl
  rw [RelayClient.finish, if_pos hauto, ConsoleClient.finish, if_neg hp', inConsole_ack]

/-- The loop over the subscriptions. -/
theorem inConsole_resubscribe (base : ConsoleClient) (stats : ClientStats) (c : RelayClient) :
    (c.subscriptions.elems.foldl (fun c channel => c.send (.subscribe channel)) c).inConsole base stats =
      (c.inConsole base stats).subscriptions.elems.foldl (fun c channel => c.send (.subscribe channel))
        (c.inConsole base stats) := by
  refine (List.foldl_hom (RelayClient.inConsole base stats) ?_).symm
  intro c channel
  exact (inConsole_send _).symm

theorem inConsole_onConnected (base : ConsoleClient) (stats : ClientStats) (c : RelayClient)
    (connectionId : ConnId) (sessionId : String) (nodeId : NodeId) :
    (c.onConnected sessionId).inConsole
        { base with connectionId := some connectionId, nodeId := some nodeId } stats =
      (c.inConsole base stats).onConnected connectionId sessionId nodeId := by
  have hguard : (decide (c.sessionId = some sessionId) && decide (0 < c.lastAck.size)) =
      (decide ((c.inConsole base stats).sessionId = some sessionId) &&
        decide (0 < (c.inConsole base stats).lastAck.size)) := rfl
  unfold RelayClient.onConnected ConsoleClient.onConnected
  simp only
  rw [← hguard, inConsole_resubscribe]
  split
  · rw [inConsole_send]
    rfl
  · rfl

/-- The loop evicts what lies before the window. -/
theorem evict_eq (w : Nat) : ∀ (order : List String) (ids : OSet String),
    ConsoleClient.evict w order ids = (order.drop (order.length - w),
      (order.take (order.length - w)).foldl (fun ids old => ids.discard old) ids) := by
  intro order
  induction order with
  | nil =>
    intro ids
    simp [ConsoleClient.evict]
  | cons old order ih =>
    intro ids
    unfold ConsoleClient.evict
    split
    · rename_i hfull
      have hlen : (old :: order).length - w = (order.length - w) + 1 := by
        rw [List.length_cons]
        omega
      rw [ih, hlen, List.drop_succ_cons, List.take_succ_cons, List.foldl_cons]
    · rename_i hfits
      have hlen : (old :: order).length - w = 0 := by
        rw [List.length_cons]
        omega
      rw [hlen]
      rfl

/-- The counters after a message that is not suppressed. -/
theorem onMessage_new (opts : ClientOptions) (hnew : m.messageId ∉ c.seenIds) :
    stats.onMessage c (c.arrive opts m) = { stats with
      messagesReceived := stats.messagesReceived + 1
      gapsDetected := stats.gapsDetected +
        ((c.gapShown m).filterMap ClientEvent.gap?).length } := by
  have hnote := RelayClient.noteSequence_eq m (c.rememberId opts m.messageId)
  have hevents : ((c.rememberId opts m.messageId).noteSequence m).events.drop c.events.length =
      c.gapShown m := by
    rw [hnote]
    exact List.drop_left
  rw [RelayClient.arrive, if_neg hnew]
  simp only [ClientStats.onMessage, hevents]

/-- The port notes a new message as the reference client does. -/
theorem inConsole_note (hnew : m.messageId ∉ c.seenIds) :
    ((c.rememberId opts.reference m.messageId).noteSequence m).inConsole base
        (stats.onMessage c (c.arrive opts.reference m)) =
      (c.inConsole base { stats with
        messagesReceived := stats.messagesReceived + 1 }).note opts m := by
  rw [onMessage_new _ hnew, RelayClient.noteSequence_eq]
  unfold ConsoleClient.note RelayClient.sightedAfter RelayClient.gapShown
  simp only [evict_eq]
  show _ = match c.lastSeen.get? m.channel with
    | none => _
    | some prev => _
  have hseen : (c.rememberId opts.reference m.messageId).lastSeen.get? m.channel =
      c.lastSeen.get? m.channel := rfl
  rw [hseen]
  cases c.lastSeen.get? m.channel with
  | none => rfl
  | some prev =>
    simp only
    by_cases hgap : toNumber (prev + 1) < m.sequence
    · by_cases hlt : prev < m.sequence
      · rw [if_pos hgap, if_pos hlt, if_pos hlt, if_pos hgap]
        rfl
      · rw [if_pos hgap, if_neg hlt, if_neg hlt, if_pos hgap]
        rfl
    · by_cases hlt : prev < m.sequence
      · rw [if_neg hgap, if_pos hlt, if_pos hlt, if_neg hgap]
        rfl
      · rw [if_neg hgap, if_neg hlt, if_neg hlt, if_neg hgap]
        rfl

theorem note_lastAck (c : ConsoleClient) : (c.note opts m).lastAck = c.lastAck := by
  unfold ConsoleClient.note
  simp only
  split
  · rfl
  · split <;> split <;> rfl

theorem handleMessage_duplicate (opts : ClientOptions) (h : m.messageId ∈ c.seenIds) :
    c.handleMessage opts m = (c.emit (.duplicate m.channel m.messageId)).finish opts m := by
  rw [RelayClient.handleMessage, RelayClient.arrive, if_pos h]

/-- Without handlers, a new message is done with at once. -/
theorem handleMessage_new (opts : ClientOptions) (hno : c.handlers = Dict.empty)
    (h : m.messageId ∉ c.seenIds) :
    c.handleMessage opts m = ((c.rememberId opts m.messageId).noteSequence m).finish opts m := by
  have hhandlers : ((c.rememberId opts m.messageId).noteSequence m).handlersOf m.channel = [] := by
    rw [RelayClient.noteSequence_eq]
    show (c.handlers.getD m.channel OSet.empty).elems = []
    rw [hno]
    rfl
  rw [RelayClient.handleMessage, RelayClient.arrive, if_neg h]
  simp only
  rw [hhandlers]
  rfl

/-- Acknowledging what is acknowledged does nothing. -/
theorem console_finish_old {c : ConsoleClient} (h : m.sequence ≤ c.lastAck.getD m.channel 0) :
    c.finish m = c := by
  unfold ConsoleClient.finish ConsoleClient.ack
  rw [if_pos h, ite_self]

/-- **A message**, unless its log entry throws before an ACK. -/
theorem inConsole_onMessage (hp : base.paused = false) (hno : c.handlers = Dict.empty)
    (hlog : skipsAck opts c m = false) :
    (c.handleMessage opts.reference m).inConsole base
        (stats.onMessage c (c.arrive opts.reference m)) =
      (c.inConsole base stats).onMessage opts m := by
  unfold ConsoleClient.onMessage
  simp only
  by_cases h : m.messageId ∈ c.seenIds
  · have h' : m.messageId ∈ (c.inConsole base stats).seenIds := h
    rw [if_pos h', handleMessage_duplicate _ h, inConsole_finish hp, RelayClient.arrive, if_pos h]
    rfl
  · have h' : m.messageId ∉ (c.inConsole base stats).seenIds := h
    rw [if_neg h', handleMessage_new _ hno h, inConsole_finish hp, inConsole_note h]
    show _ = if _ then ConsoleClient.note opts m _ else ConsoleClient.finish m _
    split
    · rename_i hthrows
      -- the message is not above the acknowledged position, so there is no ACK to be missed
      have hold : m.sequence ≤ c.acked m.channel := by
        simpa [skipsAck, h, hthrows] using hlog
      refine console_finish_old ?_
      rw [note_lastAck]
      exact hold
    · rfl

/-- The log entry throws: the reference client moves its position, the port does not. -/
theorem lastAck_of_skipsAck (hno : c.handlers = Dict.empty) (hskip : skipsAck opts c m = true) :
    ((c.inConsole base stats).onMessage opts m).lastAck ≠
      (c.handleMessage opts.reference m).lastAck := by
  simp only [skipsAck, Bool.and_eq_true, decide_eq_true_eq] at hskip
  obtain ⟨⟨⟨hlog, hthrows⟩, h⟩, habove⟩ := hskip
  have h' : m.messageId ∉ (c.inConsole base stats).seenIds := h
  have hport : ((c.inConsole base stats).onMessage opts m).lastAck = c.lastAck := by
    unfold ConsoleClient.onMessage
    simp only
    rw [if_neg h', hlog, hthrows, Bool.and_self, if_pos rfl, note_lastAck]
    rfl
  obtain ⟨frames, heq, -⟩ := RelayClient.finish_eq opts.reference m
    ((c.rememberId opts.reference m.messageId).noteSequence m)
  have hlast : ((c.rememberId opts.reference m.messageId).noteSequence m).lastAck = c.lastAck := by
    rw [RelayClient.noteSequence_eq]
    rfl
  have href : (c.handleMessage opts.reference m).lastAck = c.lastAck.set m.channel m.sequence := by
    have hauto : opts.reference.autoAck = true := rfl
    rw [handleMessage_new _ hno h, heq]
    simp only [if_pos hauto, RelayClient.ackedAfter, RelayClient.acked, hlast]
    exact if_neg (not_le.mpr habove)
  rw [hport, href]
  intro hsame
  have hget : c.lastAck.get? m.channel = some m.sequence := by
    rw [hsame, Dict.get?_set, if_pos rfl]
  rw [RelayClient.acked, Dict.getD, hget] at habove
  exact lt_irrefl _ habove

end Mirror

/-! ## 5. Steps and runs -/

section Steps

variable {opts : ConsoleOptions} {s : LiveClient} {a : ConsoleAct}

/-- Without handlers a MESSAGE is handled to its end. -/
theorem step_message_client (opts : ClientOptions) (m : MessageFrame)
    (hno : s.client.handlers = Dict.empty) :
    (s.step opts (.frame (.message m))).client = s.client.handleMessage opts m := by
  show (s.inbox.step opts (.receive m)).client = _
  by_cases h : m.messageId ∈ s.client.seenIds
  · rw [Inbox.step_duplicate h, handleMessage_duplicate _ h]
    rfl
  · have hhandlers : s.inbox.client.handlersOf m.channel = [] := by
      show (s.client.handlers.getD m.channel OSet.empty).elems = []
      rw [hno]
      rfl
    rw [Inbox.step_new h, Inbox.noted_handlersOf, hhandlers, handleMessage_new _ hno h]
    rfl

/-- None of the shared steps registers a handler. -/
theorem handlers_step (opts : ClientOptions) (hno : s.client.handlers = Dict.empty) :
    (s.step opts a.toClient).client.handlers = Dict.empty := by
  rw [← hno]
  cases a with
  | frame f =>
    cases f with
    | message m =>
      show (s.step opts (.frame (.message m))).client.handlers = _
      rw [step_message_client opts m hno]
      by_cases h : m.messageId ∈ s.client.seenIds
      · obtain ⟨frames, heq, -⟩ := RelayClient.finish_eq opts m
          (s.client.emit (.duplicate m.channel m.messageId))
        rw [handleMessage_duplicate _ h, heq]
        rfl
      · obtain ⟨frames, heq, -⟩ := RelayClient.finish_eq opts m
          ((s.client.rememberId opts m.messageId).noteSequence m)
        rw [handleMessage_new _ hno h, heq, RelayClient.noteSequence_eq]
        rfl
    | connected connectionId sessionId nodeId heartbeat =>
      obtain ⟨frames, heq, -⟩ := RelayClient.onConnected_eq sessionId s.client
      show (s.client.onConnected sessionId).handlers = _
      rw [heq]
    | ping serverTime =>
      show (s.client.send .pong).handlers = _
      rw [RelayClient.send_eq]
    | error code message =>
      show (s.client.onError code message).handlers = _
      unfold RelayClient.onError
      simp only
      split <;> rfl
    | _ => rfl
  | subscribe channel =>
    show (s.client.subscribe channel none).handlers = _
    unfold RelayClient.subscribe
    simp only [RelayClient.send_eq]
  | _ => rfl

/-- **The port takes the reference client's step**, unless a log entry throws before an ACK. -/
theorem mirror_step (hno : s.client.handlers = Dict.empty)
    (hlog : ∀ m, a = .frame (.message m) → skipsAck opts s.client m = false) :
    mirror (s.step opts.reference a.toClient) = (mirror s).step opts a := by
  cases a with
  | frame f =>
    cases f with
    | connected connectionId sessionId nodeId heartbeat =>
      exact inConsole_onConnected s.frameOf s.stats s.client connectionId sessionId nodeId
    | ping serverTime => exact inConsole_send _
    | message m =>
      have hstep : (s.client.handleMessage opts.reference m).inConsole s.frameOf
          (s.stats.onMessage s.client (s.client.arrive opts.reference m)) =
            (mirror s).onMessage opts m :=
        inConsole_onMessage rfl hno (hlog m rfl)
      rw [← step_message_client opts.reference m hno] at hstep
      exact hstep
    | error code message =>
      show (s.client.onError code message).inConsole s.frameOf s.stats = _
      by_cases hends : code = .resumeGap ∨ code = .resumeWindowExpired
      · have hends' : code.endsResume = true := by simpa [ErrorCode.endsResume] using hends
        simp only [RelayClient.onError, if_pos hends', ConsoleClient.step,
          ConsoleClient.handleFrame, if_pos hends]
        rfl
      · have hends' : ¬ code.endsResume = true := by simpa [ErrorCode.endsResume] using hends
        simp only [RelayClient.onError, if_neg hends', ConsoleClient.step,
          ConsoleClient.handleFrame, if_neg hends]
        rfl
    | _ => rfl
  | subscribe channel => exact inConsole_send _
  | _ => rfl

end Steps

namespace Clients

variable {opts : ConsoleOptions} {x : Clients} {a : ConsoleAct}

/-- The port is where the reference client is, which has no handlers. -/
structure Mirrored (x : Clients) : Prop where
  console : x.console = mirror x.reference
  handlers : x.reference.client.handlers = Dict.empty

theorem Mirrored.isMatch (h : Mirrored x) : Match x := by
  constructor <;> rw [h.console] <;> rfl

theorem Mirrored.step (h : Mirrored x) (hlog : Loggable opts x a) : Mirrored (x.step opts a) where
  console := by
    show x.console.step opts a = _
    rw [h.console]
    refine (mirror_step h.handlers ?_).symm
    rintro m rfl
    exact hlog
  handlers := handlers_step _ h.handlers

/-- The next state matches iff no log entry throws before an ACK. -/
theorem Mirrored.match_iff (h : Mirrored x) : Match (x.step opts a) ↔ Loggable opts x a := by
  refine ⟨?_, fun hlog => (h.step hlog).isMatch⟩
  intro hmatch
  unfold Loggable
  split
  · rename_i m
    by_contra hskip
    have hskip' : skipsAck opts x.reference.client m = true := by
      simpa only [Bool.not_eq_false] using hskip
    have hlast : (x.console.onMessage opts m).lastAck =
        (x.reference.step opts.reference (.frame (.message m))).client.lastAck := hmatch.lastAck
    rw [h.console, step_message_client opts.reference m h.handlers] at hlast
    exact lastAck_of_skipsAck h.handlers hskip' hlast
  · trivial

/-- **When the console's client does as the reference client does.**  Both start new with the same
options, with `autoAck`, not paused and without handlers, and are given the same frames, calls of
`subscribe` and events of their sockets.  After every step of the run they have sent the same frames
and are in equal states, if and only if no message of the run that is new and above the acknowledged
position has a text for which the log entry throws, or there is no log. -/
theorem console_matches_iff (opts : ConsoleOptions) (acts : List ConsoleAct) :
    Along (Clients.step opts) (fun x a => Match (x.step opts a)) {} acts ↔
      Along (Clients.step opts) (Loggable opts) {} acts := by
  have hiff : ∀ (x : Clients) (a : ConsoleAct), Mirrored x →
      (Match (x.step opts a) ↔ Loggable opts x a) := fun _ _ h => h.match_iff
  exact along_congr hiff (fun _ _ h hok => h.step (h.match_iff.mp hok)) acts {} ⟨rfl, rfl⟩

/-- A session with one message, whose text is an object with a member `toString`. -/
def sampleUnprintable : List ConsoleAct :=
  [.connect, .opened true, .frame (.connected "x" "s" "n" 15), .subscribe "c",
    .frame (.message ⟨"m1", "c", 1, 0, .obj [("text", .obj [("toString", .int 1)])]⟩)]

/-- **One message that the console never acknowledges.** -/
theorem console_skips_ack :
    let x := runAll (Clients.step {}) {} sampleUnprintable
    x.reference.client.sent = [.connect "" none, .subscribe "c", .ack "c" 1] ∧
    x.console.sent = [.connect "" none, .subscribe "c"] ∧
    x.reference.client.lastAck.get? "c" = some 1 ∧
    x.console.lastAck.get? "c" = none ∧
    "m1" ∈ x.console.seenIds ∧ ¬ Match x := by
  refine ⟨by decide +kernel, by decide +kernel, by decide +kernel, by decide +kernel,
    by decide +kernel, ?_⟩
  intro h
  exact absurd h.sent (by decide +kernel)

end Clients

end Relay
