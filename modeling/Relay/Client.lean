/-
# The reference client

`client/src/RelayClient.ts`: sessions, subscriptions, duplicate suppression, gap detection and
acknowledgement.

`handleFrame` runs to its end without suspending, except that a MESSAGE starts `onMessage`, which
awaits the application's handlers one after the other.  `arrive` is `onMessage` up to the handlers,
`proceed` the loop over the handlers that are left, up to its next await, and `finish` what follows
the loop.  `handleMessage` is all of it when every handler completes at once.

A frame is what `JSON.parse` has returned, so its `sequence` is a JavaScript number, and the one sum
the client forms of it is rounded as such (`toNumber`).

Two fields are bookkeeping of the model: `sent` is every frame written to the current socket, and
`events` every call of one of the application's callbacks.
-/
import Mathlib
import Relay.Frames
import Relay.Lib.Dict
import Relay.Lib.Number

namespace Relay

/-! ## 1. Data -/

/-- `RelayClientOptions`, the fields the protocol reads. -/
structure ClientOptions where
  token : String := ""
  dedupWindowSize : Nat := 5000
  autoAck : Bool := true

/-- A call of a callback of the application. -/
inductive ClientEvent
  | gap (channel : Channel) (expected received : Int)
  | duplicate (channel : Channel) (messageId : String)
  | error (code : ErrorCode) (message : String)
  /-- A handler is called with a message. -/
  | message (handler : String) (m : MessageFrame)

/-- `RelayClient`. -/
structure RelayClient where
  sessionId : Option String := none
  subscriptions : OSet Channel := OSet.empty
  /-- The application's handlers, by name. -/
  handlers : Dict Channel (OSet String) := Dict.empty
  lastAck : Dict Channel Int := Dict.empty
  lastSeen : Dict Channel Int := Dict.empty
  seenIds : OSet String := OSet.empty
  seenOrder : List String := []
  /-- There is a socket and it is open. -/
  connected : Bool := false
  sent : List ClientFrame := []
  events : List ClientEvent := []

namespace RelayClient

variable (opts : ClientOptions)

/-! ## 2. Sending and acknowledging -/

/-- `send`. -/
def send (frame : ClientFrame) (c : RelayClient) : RelayClient :=
  if c.connected then { c with sent := c.sent ++ [frame] } else c

/-- A callback is called. -/
def emit (e : ClientEvent) (c : RelayClient) : RelayClient := { c with events := c.events ++ [e] }

/-- The position the client has acknowledged. -/
def acked (c : RelayClient) (channel : Channel) : Int := c.lastAck.getD channel 0

/-- `ack`. -/
def ack (channel : Channel) (sequence : Int) (c : RelayClient) : RelayClient :=
  if sequence ≤ c.acked channel then c
  else { c with lastAck := c.lastAck.set channel sequence }.send (.ack channel sequence)

/-! ## 3. `onMessage` -/

/-- `rememberId`: the oldest ids are evicted once the window is full. -/
def rememberId (id : String) (c : RelayClient) : RelayClient :=
  let order := c.seenOrder ++ [id]
  let evicted := order.take (order.length - opts.dedupWindowSize)
  { c with
    seenIds := evicted.foldl (fun ids old => ids.discard old) (c.seenIds.add id)
    seenOrder := order.drop (order.length - opts.dedupWindowSize) }

/-- Gap detection. -/
def noteSequence (m : MessageFrame) (c : RelayClient) : RelayClient :=
  match c.lastSeen.get? m.channel with
  | none => { c with lastSeen := c.lastSeen.set m.channel m.sequence }
  | some previous =>
    let c := if toNumber (previous + 1) < m.sequence then
        c.emit (.gap m.channel (toNumber (previous + 1)) m.sequence)
      else c
    if previous < m.sequence then { c with lastSeen := c.lastSeen.set m.channel m.sequence } else c

/-- `this.handlers.get(channel) ?? []`. -/
def handlersOf (c : RelayClient) (channel : Channel) : List String :=
  (c.handlers.getD channel OSet.empty).elems

/-- After the handlers. -/
def finish (m : MessageFrame) (c : RelayClient) : RelayClient :=
  if opts.autoAck then c.ack m.channel m.sequence else c

/-- `onMessage` up to its loop: the handlers to run, or `none` for a duplicate. -/
def arrive (m : MessageFrame) (c : RelayClient) : RelayClient × Option (List String) :=
  if m.messageId ∈ c.seenIds then
    ((c.emit (.duplicate m.channel m.messageId)).finish opts m, none)
  else
    let c := (c.rememberId opts m.messageId).noteSequence m
    (c, some (c.handlersOf m.channel))

/-- How far an invocation of `onMessage` has come. -/
inductive RunState
  /-- The first of these handlers has been called and is awaited. -/
  | pending (handlers : List String)
  | completed
  | rejected
  deriving DecidableEq

/-- The loop with these handlers left, up to its next await. -/
def proceed (m : MessageFrame) (c : RelayClient) : List String → RelayClient × RunState
  | [] => (c.finish opts m, .completed)
  | handler :: rest => (c.emit (.message handler m), .pending (handler :: rest))

/-- The loop when every handler completes at once. -/
def settle (m : MessageFrame) : List String → RelayClient → RelayClient
  | [], c => c.finish opts m
  | handler :: rest, c => settle m rest (c.emit (.message handler m))

/-- `onMessage` when every handler completes at once. -/
def handleMessage (m : MessageFrame) (c : RelayClient) : RelayClient :=
  match c.arrive opts m with
  | (c, none) => c
  | (c, some handlers) => c.settle opts m handlers

/-! ## 4. What each part sends -/

@[simp] theorem emit_sent (e : ClientEvent) (c : RelayClient) : (c.emit e).sent = c.sent := rfl

@[simp] theorem emit_lastAck (e : ClientEvent) (c : RelayClient) :
    (c.emit e).lastAck = c.lastAck := rfl

@[simp] theorem emit_connected (e : ClientEvent) (c : RelayClient) :
    (c.emit e).connected = c.connected := rfl

theorem send_frame (frame : ClientFrame) (c : RelayClient) :
    (c.send frame).lastAck = c.lastAck ∧ (c.send frame).connected = c.connected ∧
      (c.send frame).seenIds = c.seenIds ∧
      (c.send frame).sent = c.sent ++ if c.connected then [frame] else [] := by
  by_cases hc : c.connected = true
  · rw [send, if_pos hc, if_pos hc]
    exact ⟨rfl, rfl, rfl, rfl⟩
  · rw [send, if_neg hc, if_neg hc, List.append_nil]
    exact ⟨rfl, rfl, rfl, rfl⟩

theorem noteSequence_frame (m : MessageFrame) (c : RelayClient) :
    (c.noteSequence m).sent = c.sent ∧ (c.noteSequence m).lastAck = c.lastAck ∧
      (c.noteSequence m).connected = c.connected ∧ (c.noteSequence m).seenIds = c.seenIds := by
  unfold noteSequence
  split
  · exact ⟨rfl, rfl, rfl, rfl⟩
  · simp only
    split <;> split <;> exact ⟨rfl, rfl, rfl, rfl⟩

/-- An ACK is sent only if it advances the position, and then for exactly this position. -/
theorem ack_cases (channel : Channel) (sequence : Int) (c : RelayClient) :
    (sequence ≤ c.acked channel ∧ c.ack channel sequence = c) ∨
      (c.acked channel < sequence ∧
        (c.ack channel sequence).lastAck = c.lastAck.set channel sequence ∧
        (c.ack channel sequence).connected = c.connected ∧
        (c.ack channel sequence).seenIds = c.seenIds ∧
        (c.ack channel sequence).sent
          = c.sent ++ if c.connected then [.ack channel sequence] else []) := by
  unfold ack
  split
  · rename_i h
    exact Or.inl ⟨h, rfl⟩
  · rename_i h
    exact Or.inr ⟨Int.lt_of_not_ge h, send_frame (.ack channel sequence)
      { c with lastAck := c.lastAck.set channel sequence }⟩

theorem ack_seenIds (channel : Channel) (sequence : Int) (c : RelayClient) :
    (c.ack channel sequence).seenIds = c.seenIds := by
  rcases ack_cases channel sequence c with ⟨-, h⟩ | ⟨-, -, -, h, -⟩
  · rw [h]
  · exact h

theorem finish_seenIds (m : MessageFrame) (c : RelayClient) :
    (c.finish opts m).seenIds = c.seenIds := by
  unfold finish
  split
  · exact ack_seenIds _ _ c
  · rfl

/-- The end of `onMessage` sends nothing but the ACK of its message. -/
theorem finish_sent (m : MessageFrame) (c : RelayClient) :
    ∃ frames, (c.finish opts m).sent = c.sent ++ frames ∧
      ∀ f ∈ frames, f = .ack m.channel m.sequence := by
  unfold finish
  split
  · rcases ack_cases m.channel m.sequence c with ⟨-, h⟩ | ⟨-, -, -, -, h⟩
    · exact ⟨[], by rw [h, List.append_nil], fun f hf => absurd hf List.not_mem_nil⟩
    · refine ⟨_, h, fun f hf => ?_⟩
      split at hf
      · exact List.mem_singleton.mp hf
      · exact absurd hf List.not_mem_nil
  · exact ⟨[], (List.append_nil _).symm, fun f hf => absurd hf List.not_mem_nil⟩

/-- The loop that evicts. -/
theorem mem_foldl_discard (evicted : List String) : ∀ {id : String} {ids : OSet String},
    id ∈ evicted.foldl (fun ids old => ids.discard old) ids ↔ id ∈ ids ∧ id ∉ evicted := by
  induction evicted with
  | nil => simp
  | cons old evicted ih =>
    intro id ids
    rw [List.foldl_cons, ih, OSet.mem_discard, List.mem_cons]
    tauto

/-- Only the id of the message becomes known. -/
theorem mem_seenIds_rememberId {id id' : String} {c : RelayClient}
    (h : id' ∈ (c.rememberId opts id).seenIds) : id' = id ∨ id' ∈ c.seenIds :=
  OSet.mem_add.mp ((mem_foldl_discard _).mp h).1

end RelayClient

end Relay
