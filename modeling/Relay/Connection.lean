/-
# One connection: the bounded queue, the in-flight window and the sender task

`apps/gateway/connections/manager.py`, class `Connection`.

`enqueue` and `on_ack` run without suspending (the queue is an unbounded `asyncio.Queue`, whose
`put` never waits), so each is one function on the connection.  `run_sender` is a loop with three
awaits, and its task is always parked at one of them:

* `getting`: in `await self._queue.get()`;
* `waiting item`: in `await self._window_event.wait()`, holding a dequeued NORMAL item;
* `sending item`: in `await self.websocket.send_text(item.payload)`;
* `exited`: the task has returned.

`senderStep` is what the task does when it is resumed, up to its next await; it is `none` when
the await cannot complete.  `sendFails` is the resumption of `send_text` with an exception, and
`cancelSender` that of any await with `CancelledError`.

Two fields are bookkeeping of the model: `wire` is every frame written to the socket, in order,
and `accepted` every item `enqueue` has put in the queue.
-/
import Mathlib
import Relay.Frames

namespace Relay

/-! ## 1. Data -/

/-- `ConnectionState`. -/
inductive ConnectionState
  | handshaking | active | draining | dead
  deriving DecidableEq, Repr

/-- `Priority`. -/
inductive Priority
  /-- Control frames. -/
  | high
  /-- Application messages. -/
  | normal
  /-- Ephemeral frames. -/
  | low
  deriving DecidableEq, Repr

/-- `QueuedMessage`. -/
structure QueuedMessage where
  payload : ServerFrame
  sizeBytes : Nat
  priority : Priority := .normal
  channel : Option Channel := none
  sequence : Option Int := none

/-- Where the `run_sender` task is suspended. -/
inductive Sender
  | getting
  | waiting (item : QueuedMessage)
  | sending (item : QueuedMessage)
  | exited

/-- `Connection`. -/
structure Connection where
  connectionId : ConnId
  sessionId : String
  tenantId : String
  state : ConnectionState := .handshaking
  lastPongAt : Nat := 0
  subscriptions : OSet Channel := OSet.empty
  userId : Option String := none
  queue : List QueuedMessage := []
  queueBytes : Int := 0
  inflight : List (Channel × Int) := []
  windowEvent : Bool := true
  messagesDropped : Nat := 0
  sender : Sender := .getting
  wire : List ServerFrame := []
  accepted : List QueuedMessage := []

/-- What is fixed about a connection from the handshake on. -/
structure Peer where
  connectionId : ConnId
  sessionId : String
  tenantId : String
  userId : Option String
  deriving DecidableEq, Repr

/-- The in-flight slot an item takes: only a frame with a channel and a sequence takes one. -/
def QueuedMessage.slot (item : QueuedMessage) : Option (Channel × Int) :=
  match item.channel, item.sequence with
  | some ch, some seq => some (ch, seq)
  | _, _ => none

namespace Connection

/-! ## 2. `enqueue` and `on_ack` -/

/-- Whose connection it is. -/
def peer (c : Connection) : Peer := ⟨c.connectionId, c.sessionId, c.tenantId, c.userId⟩

/-- Whose connection it is and what it is subscribed to. -/
def ident (c : Connection) : Peer × OSet Channel := (c.peer, c.subscriptions)

/-- The bound test of `enqueue`, for a frame of `size` bytes. -/
def overLimit (env : Env) (c : Connection) (size : Nat) : Bool :=
  decide (env.settings.connectionQueueMaxMessages ≤ c.queue.length) ||
    decide ((env.settings.connectionQueueMaxBytes : Int) < c.queueBytes + size)

/-- The end of `enqueue`: account for the bytes and put the item in the queue. -/
def put (c : Connection) (item : QueuedMessage) : Connection :=
  { c with
    queueBytes := c.queueBytes + item.sizeBytes
    queue := c.queue ++ [item]
    accepted := c.accepted ++ [item] }

/-- `Connection.enqueue`. -/
def enqueue (env : Env) (payload : ServerFrame) (priority : Priority) (channel : Option Channel)
    (sequence : Option Int) (c : Connection) : Except Exn Connection :=
  let size := env.wireSize payload
  let item : QueuedMessage := ⟨payload, size, priority, channel, sequence⟩
  if c.overLimit env size then
    match priority with
    | .low => .ok { c with messagesDropped := c.messagesDropped + 1 }
    | .normal => .error .slowConsumer
    -- control frames jump the bound deliberately
    | .high => .ok (c.put item)
  else .ok (c.put item)

/-- `Connection.on_ack`: the number of slots released, and the connection. -/
def onAck (env : Env) (channel : Channel) (sequence : Int) (c : Connection) : Nat × Connection :=
  let kept := c.inflight.filter (fun e => !(decide (e.1 = channel) && decide (e.2 ≤ sequence)))
  (c.inflight.length - kept.length,
    { c with
      inflight := kept
      windowEvent := if kept.length < env.settings.maxInflightMessages then true
        else c.windowEvent })

/-! ## 3. `run_sender` -/

/-- `self.state in (ConnectionState.ACTIVE, ConnectionState.DRAINING)`. -/
def open_ (c : Connection) : Bool :=
  match c.state with
  | .active => true
  | .draining => true
  | _ => false

/-- The window has room again: re-check the state, take the slot, start the write. -/
def release (c : Connection) (item : QueuedMessage) : Connection :=
  if c.open_ then
    { c with
      inflight := c.inflight ++ item.slot.toList
      sender := .sending item }
  else { c with sender := .exited }

/-- `_wait_for_window` from its loop test on, for the task that holds `item`. -/
def waitForWindow (env : Env) (c : Connection) (item : QueuedMessage) : Connection :=
  if env.settings.maxInflightMessages ≤ c.inflight.length then
    { c with windowEvent := false, sender := .waiting item }
  else c.release item

/-- The head of the `while` loop of `run_sender`. -/
def senderLoop (c : Connection) : Connection :=
  if c.open_ then { c with sender := .getting } else { c with sender := .exited }

/-- One resumption of `run_sender`, to its next await.  `none`: the await cannot complete yet. -/
def senderStep (env : Env) (c : Connection) : Option Connection :=
  match c.sender with
  | .getting =>
    match c.queue with
    | [] => none
    | item :: rest =>
      let c := { c with queue := rest, queueBytes := c.queueBytes - item.sizeBytes }
      if item.priority = .normal then some (c.waitForWindow env item)
      else some { c with sender := .sending item }
  | .waiting item => if c.windowEvent then some (c.waitForWindow env item) else none
  | .sending item => some { c with wire := c.wire ++ [item.payload] }.senderLoop
  | .exited => none

/-- `send_text` raises: the sender marks the connection dead and returns. -/
def sendFails (c : Connection) : Connection :=
  match c.sender with
  | .sending _ => { c with state := .dead, sender := .exited }
  | _ => c

/-- `sender_task.cancel()`. -/
def cancelSender (c : Connection) : Connection := { c with sender := .exited }

/-! ## 4. What the sender still has to write -/

/-- The item the sender has dequeued and not yet written. -/
def held (c : Connection) : List QueuedMessage :=
  match c.sender with
  | .waiting item => [item]
  | .sending item => [item]
  | _ => []

/-- Everything accepted and not yet written, in the order it will be. -/
def pending (c : Connection) : List QueuedMessage := c.held ++ c.queue

@[simp] theorem put_queue (c : Connection) (item : QueuedMessage) :
    (c.put item).queue = c.queue ++ [item] := rfl

@[simp] theorem put_accepted (c : Connection) (item : QueuedMessage) :
    (c.put item).accepted = c.accepted ++ [item] := rfl

@[simp] theorem put_wire (c : Connection) (item : QueuedMessage) : (c.put item).wire = c.wire := rfl

@[simp] theorem put_sender (c : Connection) (item : QueuedMessage) :
    (c.put item).sender = c.sender := rfl

@[simp] theorem put_inflight (c : Connection) (item : QueuedMessage) :
    (c.put item).inflight = c.inflight := rfl

@[simp] theorem put_windowEvent (c : Connection) (item : QueuedMessage) :
    (c.put item).windowEvent = c.windowEvent := rfl

@[simp] theorem put_state (c : Connection) (item : QueuedMessage) :
    (c.put item).state = c.state := rfl

theorem pending_put (c : Connection) (item : QueuedMessage) :
    (c.put item).pending = c.pending ++ [item] := by
  simp only [pending, put_queue, ← List.append_assoc]
  rfl

/-- What an `enqueue` that returns can have done, with the test that led there: it has dropped a LOW
frame, or put the frame in the queue. -/
theorem enqueue_ok {env : Env} {payload : ServerFrame} {priority : Priority}
    {channel : Option Channel} {sequence : Option Int} {c c' : Connection}
    (h : c.enqueue env payload priority channel sequence = .ok c') :
    (priority = .low ∧ c' = { c with messagesDropped := c.messagesDropped + 1 }) ∨
    ((priority = .high ∨ c.overLimit env (env.wireSize payload) = false) ∧
      c' = c.put ⟨payload, env.wireSize payload, priority, channel, sequence⟩) := by
  unfold enqueue at h
  simp only at h
  split at h
  · cases priority with
    | low => cases h; exact Or.inl ⟨rfl, rfl⟩
    | normal => nomatch h
    | high => cases h; exact Or.inr ⟨Or.inl rfl, rfl⟩
  · rename_i hover
    cases h
    exact Or.inr ⟨Or.inr (by simpa using hover), rfl⟩

theorem enqueue_cases {env : Env} {payload : ServerFrame} {priority : Priority}
    {channel : Option Channel} {sequence : Option Int} {c c' : Connection}
    (h : c.enqueue env payload priority channel sequence = .ok c') :
    c' = { c with messagesDropped := c.messagesDropped + 1 } ∧ priority = .low ∨
      c' = c.put ⟨payload, env.wireSize payload, priority, channel, sequence⟩ :=
  (enqueue_ok h).imp (fun h => ⟨h.2, h.1⟩) (fun h => h.2)

theorem ident_enqueue {env : Env} {payload : ServerFrame} {priority : Priority}
    {channel : Option Channel} {sequence : Option Int} {c c' : Connection}
    (h : c.enqueue env payload priority channel sequence = .ok c') : c'.ident = c.ident := by
  rcases enqueue_cases h with ⟨rfl, -⟩ | rfl <;> rfl

/-- A NORMAL frame that is accepted is in the queue. -/
theorem enqueue_normal {env : Env} {payload : ServerFrame} {channel : Option Channel}
    {sequence : Option Int} {c c' : Connection}
    (h : c.enqueue env payload .normal channel sequence = .ok c') :
    c' = c.put ⟨payload, env.wireSize payload, .normal, channel, sequence⟩ := by
  rcases enqueue_cases h with ⟨-, hp⟩ | hc
  · exact absurd hp (by simp)
  · exact hc

/-- The result of the window test, whichever way it goes. -/
theorem waitForWindow_cases (env : Env) (c : Connection) (item : QueuedMessage) :
    (env.settings.maxInflightMessages ≤ c.inflight.length ∧
      c.waitForWindow env item = { c with windowEvent := false, sender := .waiting item }) ∨
    (c.inflight.length < env.settings.maxInflightMessages ∧
      c.waitForWindow env item = c.release item) := by
  unfold waitForWindow
  split
  · rename_i h; exact Or.inl ⟨h, rfl⟩
  · rename_i h; exact Or.inr ⟨Nat.lt_of_not_le h, rfl⟩

/-- **One resumption of the sender, completely.**  It dequeues, it re-tests the window for the
item it holds, or it finishes a write. -/
theorem senderStep_cases {env : Env} {c c' : Connection} (h : c.senderStep env = some c') :
    (∃ item rest, c.sender = .getting ∧ c.queue = item :: rest ∧
      ((item.priority = .normal ∧
          c' = { c with queue := rest, queueBytes := c.queueBytes - item.sizeBytes }.waitForWindow
            env item) ∨
        (item.priority ≠ .normal ∧
          c' = { c with
            queue := rest, queueBytes := c.queueBytes - item.sizeBytes,
            sender := .sending item }))) ∨
    (∃ item, c.sender = .waiting item ∧ c.windowEvent = true ∧ c' = c.waitForWindow env item) ∨
    (∃ item, c.sender = .sending item ∧
      c' = { c with wire := c.wire ++ [item.payload] }.senderLoop) := by
  unfold senderStep at h
  split at h
  · rename_i hs
    split at h
    · exact absurd h (by simp)
    · rename_i item rest hq
      refine Or.inl ⟨item, rest, hs, hq, ?_⟩
      simp only at h
      split at h
      · rename_i hp; cases h; exact Or.inl ⟨hp, rfl⟩
      · rename_i hp; cases h; exact Or.inr ⟨hp, rfl⟩
  · rename_i item hs
    split at h
    · rename_i he; cases h; exact Or.inr (Or.inl ⟨item, hs, he, rfl⟩)
    · exact absurd h (by simp)
  · rename_i item hs
    cases h
    exact Or.inr (Or.inr ⟨item, hs, rfl⟩)
  · exact absurd h (by simp)

theorem ident_waitForWindow (env : Env) (c : Connection) (item : QueuedMessage) :
    (c.waitForWindow env item).ident = c.ident := by
  unfold waitForWindow release
  split
  · rfl
  · split <;> rfl

theorem ident_senderStep (env : Env) (c : Connection) :
    ((c.senderStep env).getD c).ident = c.ident := by
  cases h : c.senderStep env with
  | none => rfl
  | some c' =>
    rcases senderStep_cases h with
      ⟨item, rest, -, -, ⟨-, rfl⟩ | ⟨-, rfl⟩⟩ | ⟨item, -, -, rfl⟩ | ⟨item, -, rfl⟩
    · exact ident_waitForWindow env _ item
    · rfl
    · exact ident_waitForWindow env c item
    · rw [Option.getD_some, senderLoop]
      split <;> rfl

theorem state_senderStep (env : Env) (c : Connection) :
    ((c.senderStep env).getD c).state = c.state := by
  have hwait : ∀ (c : Connection) item, (c.waitForWindow env item).state = c.state := by
    intro c item
    unfold waitForWindow release
    split
    · rfl
    · split <;> rfl
  cases h : c.senderStep env with
  | none => rfl
  | some c' =>
    rcases senderStep_cases h with
      ⟨item, rest, -, -, ⟨-, rfl⟩ | ⟨-, rfl⟩⟩ | ⟨item, -, -, rfl⟩ | ⟨item, -, rfl⟩
    · exact hwait _ item
    · rfl
    · exact hwait c item
    · rw [Option.getD_some, senderLoop]
      split <;> rfl

theorem ident_sendFails (c : Connection) : c.sendFails.ident = c.ident := by
  unfold sendFails
  split <;> rfl

theorem accepted_waitForWindow (env : Env) (c : Connection) (item : QueuedMessage) :
    (c.waitForWindow env item).accepted = c.accepted := by
  unfold waitForWindow release
  split
  · rfl
  · split <;> rfl

/-- The sender takes from the queue and accepts nothing. -/
theorem accepted_senderStep (env : Env) (c : Connection) :
    ((c.senderStep env).getD c).accepted = c.accepted := by
  cases h : c.senderStep env with
  | none => rfl
  | some c' =>
    rcases senderStep_cases h with
      ⟨item, rest, -, -, ⟨-, rfl⟩ | ⟨-, rfl⟩⟩ | ⟨item, -, -, rfl⟩ | ⟨item, -, rfl⟩
    · exact accepted_waitForWindow env _ item
    · rfl
    · exact accepted_waitForWindow env c item
    · rw [Option.getD_some, senderLoop]
      split <;> rfl

theorem accepted_sendFails (c : Connection) : c.sendFails.accepted = c.accepted := by
  unfold sendFails
  split <;> rfl

end Connection

end Relay
