/-
# One gateway process: subscription manager and fanout

`apps/gateway/rooms/subscriptions.py` and the receiving half of `apps/gateway/fanout/publisher.py`.

`Node` is what a gateway process keeps in memory: the registry, the listener tasks and the
subscriber counts of the `ChannelSubscriptionManager`, and the tasks the fanout has started to
terminate slow consumers.  `Gateway` is a node together with the Redis it talks to, the state over
which the programs of the process run.

A listener task is suspended at one of three awaits of `run_pubsub_listener` (`ListenerPhase`) and
moves by `ListenerAct`.  A task that was popped from the manager has been stopped and cancelled in
the same breath; it wakes up once more, to give its Redis subscription back (`reap`).

Writing to a socket may fail.  `socketFaults` says, for each coming write of a handler, whether it
does, as `Redis.faults` does for commands.  `lobby` records what was written to sockets that have
no `Connection` yet.
-/
import Mathlib
import Relay.Registry
import Relay.Publish

namespace Relay

/-! ## 1. State -/

/-- Where a `run_pubsub_listener` task is suspended. -/
inductive ListenerPhase
  /-- Not started yet, or in `pubsub.subscribe`. -/
  | connecting
  /-- In `pubsub.listen()`. -/
  | listening
  /-- In `asyncio.sleep(backoff)`. -/
  | sleeping
  /-- The task has returned. -/
  | done
  deriving DecidableEq, Repr

/-- A listener task with its `stop_event`. -/
structure Listener where
  task : Nat
  phase : ListenerPhase := .connecting
  stopped : Bool := false
  cancelled : Bool := false
  deriving DecidableEq, Repr

/-- The memory of a gateway process. -/
structure Node where
  registry : Registry := {}
  listeners : Dict Channel Listener := Dict.empty
  localSubscriberCounts : Dict Channel Int := Dict.empty
  retired : List (Channel × Listener) := []
  nextTask : Nat := 0
  terminating : List ConnId := []
  socketFaults : List Bool := []
  lobby : List (ConnId × ServerFrame) := []

namespace Node

/-! ## 2. Sockets and queues -/

/-- Update a connection in place. -/
def updateConn (x : ConnId) (f : Connection → Connection) (n : Node) : Node :=
  { n with registry := n.registry.updateConn x f }

/-- `registry.add(conn)`. -/
def add (conn : Connection) (n : Node) : Node := { n with registry := n.registry.add conn }

/-- `registry.remove(x)`. -/
def remove (x : ConnId) (n : Node) : Node := { n with registry := (n.registry.remove x).2 }

/-- `registry.subscribe(x, channel)`. -/
def subscribe (x : ConnId) (channel : Channel) (n : Node) : Node :=
  { n with registry := n.registry.subscribe x channel }

/-- `registry.unsubscribe(x, channel)`. -/
def unsubscribe (x : ConnId) (channel : Channel) (n : Node) : Node :=
  { n with registry := n.registry.unsubscribe x channel }

/-- `conn.enqueue(...)`. -/
def enqueue (env : Env) (x : ConnId) (payload : ServerFrame) (priority : Priority)
    (channel : Option Channel) (sequence : Option Int) (n : Node) : Except Exn Unit × Node :=
  match n.registry.byId.get? x with
  | none => (.ok (), n)
  | some conn =>
    match conn.enqueue env payload priority channel sequence with
    | .ok conn' => (.ok (), n.updateConn x (fun _ => conn'))
    | .error e => (.error e, n)

/-- A frame leaves on the socket of `x`. -/
def write (x : ConnId) (frame : ServerFrame) (n : Node) : Node :=
  match n.registry.byId.get? x with
  | some _ => n.updateConn x (fun conn => { conn with wire := conn.wire ++ [frame] })
  | none => { n with lobby := n.lobby ++ [(x, frame)] }

/-- `websocket.send_text(frame)`. -/
def sendText (x : ConnId) (frame : ServerFrame) (n : Node) : Except Exn Unit × Node :=
  match n.socketFaults with
  | true :: rest => (.error .socket, { n with socketFaults := rest })
  | false :: rest => (.ok (), write x frame { n with socketFaults := rest })
  | [] => (.ok (), write x frame n)

/-! ## 3. The local half of the subscription manager -/

/-- The first statement of `on_local_subscribe`. -/
def countUp (channel : Channel) (n : Node) : Node :=
  { n with localSubscriberCounts :=
      n.localSubscriberCounts.set channel (n.localSubscriberCounts.getD channel 0 + 1) }

/-- A new listener task for a channel. -/
def newListener (channel : Channel) (n : Node) : Node :=
  { n with
    listeners := n.listeners.set channel { task := n.nextTask }
    nextTask := n.nextTask + 1 }

/-- The end of `on_local_subscribe`: start a listener if there is none, or if it has died. -/
def startListener (channel : Channel) (n : Node) : Node :=
  match n.listeners.get? channel with
  | none => n.newListener channel
  | some l => if l.phase = .done then n.newListener channel else n

/-- Pop the listener of a channel, stop it and cancel it. -/
def stopListener (channel : Channel) (n : Node) : Node :=
  match n.listeners.get? channel with
  | none => n
  | some l =>
    { n with
      listeners := n.listeners.erase channel
      retired := n.retired ++ [(channel, { l with stopped := true, cancelled := true })] }

/-- `on_local_unsubscribe` up to its await; true when this was the last subscriber. -/
def countDown (channel : Channel) (n : Node) : Bool × Node :=
  if n.localSubscriberCounts.getD channel 0 - 1 ≤ 0 then
    (true, stopListener channel
      { n with localSubscriberCounts := n.localSubscriberCounts.erase channel })
  else
    (false, { n with localSubscriberCounts :=
      n.localSubscriberCounts.set channel (n.localSubscriberCounts.getD channel 0 - 1) })

section Manager

variable {channel : Channel}

theorem registry_stopListener (channel : Channel) (n : Node) :
    (n.stopListener channel).registry = n.registry := by
  unfold stopListener
  split <;> rfl

theorem registry_countDown (channel : Channel) (n : Node) :
    (n.countDown channel).2.registry = n.registry := by
  unfold countDown
  split
  · exact registry_stopListener channel _
  · rfl

theorem registry_startListener (channel : Channel) (n : Node) :
    (n.startListener channel).registry = n.registry := by
  unfold startListener
  split
  · rfl
  · split <;> rfl

theorem listeners_stopListener_of_ne {d : Channel} (h : channel ≠ d) (n : Node) :
    (n.stopListener d).listeners.get? channel = n.listeners.get? channel := by
  unfold stopListener
  split
  · rfl
  · simp [h]

theorem counts_stopListener (d : Channel) (n : Node) :
    (n.stopListener d).localSubscriberCounts = n.localSubscriberCounts := by
  unfold stopListener
  split <;> rfl

theorem listeners_startListener_of_ne {d : Channel} (h : channel ≠ d) (n : Node) :
    (n.startListener d).listeners.get? channel = n.listeners.get? channel := by
  unfold startListener
  split
  · simp [newListener, h]
  · split
    · simp [newListener, h]
    · rfl

theorem counts_startListener (d : Channel) (n : Node) :
    (n.startListener d).localSubscriberCounts = n.localSubscriberCounts := by
  unfold startListener
  split
  · rfl
  · split <;> rfl

end Manager

/-! ## 4. Fanout -/

/-- The body of the loop of `deliver_local`, for one subscriber. -/
def deliverTo (env : Env) (channel : Channel) (m : MessageFrame) (n : Node) (x : ConnId) : Node :=
  match n.registry.byId.get? x with
  | none => n
  | some conn =>
    if conn.state = .active then
      match conn.enqueue env (.message m) .normal (some channel) (some m.sequence) with
      | .ok conn' => n.updateConn x (fun _ => conn')
      | .error _ => { n with terminating := n.terminating ++ [x] }
    else n

/-- `deliver_local`.  Nothing in the loop suspends, so it is one step. -/
def deliverLocal (env : Env) (channel : Channel) (m : MessageFrame) (n : Node) : Node :=
  (n.registry.localSubscribers channel).foldl (deliverTo env channel m) n

/-! ## 5. Steps that only concern what is sent -/

/-- The tables are as before: the same connections with the same subscriptions, the same indexes,
counts and listeners.  Queues, sockets and connection states may have changed. -/
structure Outbound (n n' : Node) : Prop where
  conn : ∀ y, (n'.registry.byId.get? y).map Connection.ident
    = (n.registry.byId.get? y).map Connection.ident
  bySession : n'.registry.bySession = n.registry.bySession
  byTenant : n'.registry.byTenant = n.registry.byTenant
  byChannel : n'.registry.byChannel = n.registry.byChannel
  listeners : n'.listeners = n.listeners
  counts : n'.localSubscriberCounts = n.localSubscriberCounts
  retired : n'.retired = n.retired
  nextTask : n'.nextTask = n.nextTask

theorem Outbound.refl (n : Node) : Outbound n n :=
  ⟨fun _ => rfl, rfl, rfl, rfl, rfl, rfl, rfl, rfl⟩

theorem Outbound.trans {a b c : Node} (h : Outbound a b) (k : Outbound b c) : Outbound a c :=
  ⟨fun y => (k.conn y).trans (h.conn y), k.bySession.trans h.bySession,
    k.byTenant.trans h.byTenant, k.byChannel.trans h.byChannel, k.listeners.trans h.listeners,
    k.counts.trans h.counts, k.retired.trans h.retired, k.nextTask.trans h.nextTask⟩

theorem Outbound.subscribersOf {n n' : Node} (h : Outbound n n') (channel : Channel) :
    n'.registry.subscribersOf channel = n.registry.subscribersOf channel := by
  rw [Registry.subscribersOf, h.byChannel, Registry.subscribersOf]

/-- What a connection is after such a step, it was before. -/
theorem Outbound.before {n n' : Node} (h : Outbound n n') {y : ConnId} {conn' : Connection}
    (hy : n'.registry.byId.get? y = some conn') :
    ∃ conn, n.registry.byId.get? y = some conn ∧ conn.ident = conn'.ident := by
  have := h.conn y
  rw [hy] at this
  obtain ⟨conn, hc, hid⟩ := Option.map_eq_some_iff.mp this.symm
  exact ⟨conn, hc, hid⟩

theorem outbound_updateConn (n : Node) (x : ConnId) {f : Connection → Connection}
    (hf : ∀ conn, n.registry.byId.get? x = some conn → (f conn).ident = conn.ident) :
    Outbound n (n.updateConn x f) := by
  refine ⟨fun y => ?_, rfl, rfl, rfl, rfl, rfl, rfl, rfl⟩
  simp only [updateConn, Registry.get_updateConn]
  split
  · rename_i hy
    subst hy
    cases h : n.registry.byId.get? y with
    | none => rfl
    | some conn => exact congrArg some (hf conn h)
  · rfl

theorem outbound_write (x : ConnId) (frame : ServerFrame) (n : Node) :
    Outbound n (n.write x frame) := by
  unfold write
  split
  · exact outbound_updateConn n x (fun _ _ => rfl)
  · exact ⟨fun _ => rfl, rfl, rfl, rfl, rfl, rfl, rfl, rfl⟩

theorem outbound_sendText (x : ConnId) (frame : ServerFrame) (n : Node) :
    Outbound n (n.sendText x frame).2 := by
  unfold sendText
  split
  · exact ⟨fun _ => rfl, rfl, rfl, rfl, rfl, rfl, rfl, rfl⟩
  · rename_i rest _
    exact Outbound.trans (b := { n with socketFaults := rest })
      ⟨fun _ => rfl, rfl, rfl, rfl, rfl, rfl, rfl, rfl⟩ (outbound_write x frame _)
  · exact outbound_write x frame n

theorem outbound_enqueue (env : Env) (x : ConnId) (payload : ServerFrame) (priority : Priority)
    (channel : Option Channel) (sequence : Option Int) (n : Node) :
    Outbound n (n.enqueue env x payload priority channel sequence).2 := by
  unfold enqueue
  split
  · exact Outbound.refl n
  · rename_i conn hconn
    split
    · rename_i conn' h
      refine outbound_updateConn n x (fun c hc => ?_)
      obtain rfl := Option.some.inj (hconn.symm.trans hc)
      exact Connection.ident_enqueue h
    · exact Outbound.refl n

theorem outbound_deliverTo (env : Env) (channel : Channel) (m : MessageFrame) (n : Node)
    (x : ConnId) : Outbound n (n.deliverTo env channel m x) := by
  unfold deliverTo
  split
  · exact Outbound.refl n
  · rename_i conn hconn
    split
    · split
      · rename_i conn' h
        refine outbound_updateConn n x (fun c hc => ?_)
        obtain rfl := Option.some.inj (hconn.symm.trans hc)
        exact Connection.ident_enqueue h
      · exact ⟨fun _ => rfl, rfl, rfl, rfl, rfl, rfl, rfl, rfl⟩
    · exact Outbound.refl n

theorem outbound_foldl_deliverTo (env : Env) (channel : Channel) (m : MessageFrame) :
    ∀ (l : List ConnId) (n : Node), Outbound n (l.foldl (deliverTo env channel m) n)
  | [], n => Outbound.refl n
  | x :: l, n => (outbound_deliverTo env channel m n x).trans
      (outbound_foldl_deliverTo env channel m l _)

theorem outbound_deliverLocal (env : Env) (channel : Channel) (m : MessageFrame) (n : Node) :
    Outbound n (n.deliverLocal env channel m) := outbound_foldl_deliverTo env channel m _ n

end Node

/-! ## 6. The process and its Redis -/

/-- A gateway process and the store it talks to. -/
structure Gateway where
  redis : Redis
  node : Node

namespace Gateway

/-- Replace the store. -/
def setRedis (r : Redis) (g : Gateway) : Gateway := { g with redis := r }

/-- Replace the memory of the process. -/
def setNode (n : Node) (g : Gateway) : Gateway := { g with node := n }

/-- A program that talks to Redis and to nothing else. -/
def withRedis {α : Type} (p : Prog Redis Exn α) : Prog Gateway Exn α := p.lift redis setRedis

theorem run_withRedis {α : Type} (p : Prog Redis Exn α) (g : Gateway) :
    (withRedis p).run g = ((p.run g.redis).1, setRedis (p.run g.redis).2 g) := by
  unfold withRedis
  refine Prog.run_lift ?_ ?_ ?_ p g <;> intros <;> rfl

/-- A stretch of code between two awaits that works on the process's memory. -/
def locally (f : Node → Node) : Prog Gateway Exn Unit :=
  .modify (fun g => setNode (f g.node) g)

/-- The same for code that may raise. -/
def tryLocally (f : Node → Except Exn Unit × Node) : Prog Gateway Exn Unit :=
  .atomic (fun g => ((f g.node).1, setNode (f g.node).2 g))

@[simp] theorem run_locally (f : Node → Node) (g : Gateway) :
    (locally f).run g = (.ok (), setNode (f g.node) g) := rfl

theorem run_tryLocally (f : Node → Except Exn Unit × Node) (g : Gateway) :
    (tryLocally f).run g = ((f g.node).1, setNode (f g.node).2 g) := Prog.run_atomic _ _

/-- `await websocket.send_text(frame)`. -/
def sendText (x : ConnId) (frame : ServerFrame) : Prog Gateway Exn Unit :=
  tryLocally (Node.sendText x frame)

/-- `_send_error`. -/
def sendError (x : ConnId) (code : ErrorCode) (message : String) : Prog Gateway Exn Unit :=
  sendText x (.error code message)

/-- `on_local_subscribe`. -/
def onLocalSubscribe (env : Env) (channel : Channel) : Prog Gateway Exn Unit := do
  locally (Node.countUp channel)
  withRedis (Redis.command (Redis.roomAdd channel env.settings.nodeId))
  withRedis (Redis.command (Redis.roomExpire channel (env.settings.nodeTtlSeconds * 3)))
  locally (Node.startListener channel)

/-- `on_local_unsubscribe`. -/
def onLocalUnsubscribe (env : Env) (channel : Channel) : Prog Gateway Exn Unit := do
  let last ← .act (fun g => ((g.node.countDown channel).1, setNode (g.node.countDown channel).2 g))
  if last then
    withRedis (Redis.command (Redis.roomRemove channel env.settings.nodeId))
  else
    return ()

/-- `terminate_slow_consumer`; a failing write is ignored, and closing the socket has no effect
here. -/
def terminateSlowConsumer (x : ConnId) : Prog Gateway Exn Unit := do
  locally (Node.updateConn x (fun conn => { conn with state := .dead }))
  .catch_ (fun _ => .ret ()) (sendText x (.disconnect ErrorCode.slowConsumer.value))

/-! ## 7. Listener tasks -/

/-- One resumption of the listener task of a channel. -/
inductive ListenerAct
  /-- `pubsub.subscribe` returns. -/
  | attach
  /-- `pubsub.listen()` yields the next message. -/
  | receive
  /-- The connection to Redis breaks. -/
  | fail
  /-- `asyncio.sleep(backoff)` returns. -/
  | wake
  deriving DecidableEq, Repr

/-- The subscription a listener task of this process holds at Redis. -/
def Owns (env : Env) (task : Nat) (s : Subscriber) : Prop :=
  s.node = env.settings.nodeId ∧ s.task = task

instance (env : Env) (task : Nat) (s : Subscriber) : Decidable (Owns env task s) :=
  inferInstanceAs (Decidable (_ ∧ _))

/-- Set the phase of the listener of a channel. -/
def setPhase (channel : Channel) (l : Listener) (phase : ListenerPhase) (g : Gateway) : Gateway :=
  setNode { g.node with
    listeners := g.node.listeners.set channel { l with phase := phase } } g

/-- Give the Redis subscription of a task back. -/
def dropSubscriber (env : Env) (task : Nat) (g : Gateway) : Gateway :=
  setRedis { g.redis with
    subscribers := g.redis.subscribers.filter (fun s => decide (¬ Owns env task s)) } g

/-- Take the next message off the subscription of a task. -/
def popPending (env : Env) (task : Nat) (g : Gateway) : Gateway :=
  setRedis { g.redis with
    subscribers := g.redis.subscribers.map (fun s =>
      if Owns env task s then { s with pending := s.pending.tail } else s) } g

/-- What Redis has sent to a task and the task has not processed. -/
def pendingOf (env : Env) (task : Nat) (r : Redis) : List MessageFrame :=
  (r.subscribers.filter (fun s => decide (Owns env task s))).flatMap Subscriber.pending

/-- Take a subscription for a task. -/
def addSubscriber (env : Env) (channel : Channel) (task : Nat) (g : Gateway) : Gateway :=
  setRedis { g.redis with
    subscribers := g.redis.subscribers ++ [⟨env.settings.nodeId, task, channel, []⟩] } g

/-- One resumption of the listener task the manager holds for a channel.  A resumption the task is
not waiting for does nothing, and neither does a task that has been stopped or cancelled. -/
def listenerStep (env : Env) (channel : Channel) (a : ListenerAct) (g : Gateway) : Gateway :=
  match g.node.listeners.get? channel with
  | none => g
  | some l =>
    if l.stopped || l.cancelled then g
    else
      match a, l.phase with
      | .attach, .connecting =>
        setPhase channel l .listening (addSubscriber env channel l.task g)
      | .receive, .listening =>
        match pendingOf env l.task g.redis with
        | [] => g
        | m :: _ => setNode (g.node.deliverLocal env channel m) (popPending env l.task g)
      | .fail, .connecting => setPhase channel l .sleeping g
      | .fail, .listening => setPhase channel l .sleeping (dropSubscriber env l.task g)
      | .wake, .sleeping => setPhase channel l .connecting g
      | _, _ => g

/-- **One resumption of a listener, completely.** -/
theorem listenerStep_cases (env : Env) (channel : Channel) (a : ListenerAct) (g : Gateway) :
    listenerStep env channel a g = g ∨
    ∃ l, g.node.listeners.get? channel = some l ∧ l.stopped = false ∧ l.cancelled = false ∧
      ((a = .attach ∧ l.phase = .connecting ∧ listenerStep env channel a g =
          setPhase channel l .listening (addSubscriber env channel l.task g)) ∨
        (a = .receive ∧ l.phase = .listening ∧ ∃ m rest, pendingOf env l.task g.redis = m :: rest ∧
          listenerStep env channel a g =
            setNode (g.node.deliverLocal env channel m) (popPending env l.task g)) ∨
        (a = .fail ∧ l.phase = .connecting ∧
          listenerStep env channel a g = setPhase channel l .sleeping g) ∨
        (a = .fail ∧ l.phase = .listening ∧ listenerStep env channel a g =
          setPhase channel l .sleeping (dropSubscriber env l.task g)) ∨
        (a = .wake ∧ l.phase = .sleeping ∧
          listenerStep env channel a g = setPhase channel l .connecting g)) := by
  unfold listenerStep
  cases hl : g.node.listeners.get? channel with
  | none => exact Or.inl rfl
  | some l =>
    simp only
    split
    · exact Or.inl rfl
    rename_i hlive
    simp only [Bool.or_eq_true, not_or, Bool.not_eq_true] at hlive
    cases a with
    | attach =>
      cases hp : l.phase with
      | connecting => exact Or.inr ⟨l, rfl, hlive.1, hlive.2, Or.inl ⟨rfl, hp, rfl⟩⟩
      | _ => exact Or.inl rfl
    | receive =>
      cases hp : l.phase with
      | listening =>
        cases hm : pendingOf env l.task g.redis with
        | nil => exact Or.inl rfl
        | cons m rest =>
          exact Or.inr ⟨l, rfl, hlive.1, hlive.2, Or.inr (Or.inl ⟨rfl, hp, m, rest, hm, rfl⟩)⟩
      | _ => exact Or.inl rfl
    | fail =>
      cases hp : l.phase with
      | connecting =>
        exact Or.inr ⟨l, rfl, hlive.1, hlive.2, Or.inr (Or.inr (Or.inl ⟨rfl, hp, rfl⟩))⟩
      | listening =>
        exact Or.inr ⟨l, rfl, hlive.1, hlive.2,
          Or.inr (Or.inr (Or.inr (Or.inl ⟨rfl, hp, rfl⟩)))⟩
      | _ => exact Or.inl rfl
    | wake =>
      cases hp : l.phase with
      | sleeping =>
        exact Or.inr ⟨l, rfl, hlive.1, hlive.2,
          Or.inr (Or.inr (Or.inr (Or.inr ⟨rfl, hp, rfl⟩)))⟩
      | _ => exact Or.inl rfl

/-- A popped listener task wakes up with `CancelledError` and gives its subscription back. -/
def reap (env : Env) (g : Gateway) : Gateway :=
  match g.node.retired with
  | [] => g
  | (_, l) :: rest => dropSubscriber env l.task (setNode { g.node with retired := rest } g)

end Gateway

end Relay
