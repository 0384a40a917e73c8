/-
# The whole system

Any number of gateway processes over one Redis, publishers, connection handlers, sender tasks,
listener tasks, heartbeats and slow-consumer terminations, all interleaved.  `World.step` is one
step of any of them; a run is a list of steps.

Handlers and terminations are the programs of `Handler` and `Node`, one segment a step.  Publishers
move by the stages of `Publish`.  A heartbeat has two effects on its connection -- it enqueues a
PING, or it gives the connection up -- and either may come at any time.

`Holds I G` is the shape every invariant of the development has: `I` for each process, and every
task in progress a program that keeps `I` with segments in `G`.
-/
import Mathlib
import Relay.Effects

namespace Relay

open Gateway

/-! ## 1. State and steps -/

/-- The environment of one process. -/
def Env.at (env : Env) (n : NodeId) : Env :=
  { env with settings := { env.settings with nodeId := n } }

@[simp] theorem Env.at_nodeId (env : Env) (n : NodeId) : (env.at n).settings.nodeId = n := rfl

/-- All processes, their Redis, and the tasks in progress. -/
structure World where
  redis : Redis
  nodes : NodeId → Node
  publishers : List (PublishCall × Stage) := []
  tasks : List (NodeId × Prog Gateway Exn Unit) := []

/-- One step of the system. -/
inductive WorldAct
  /-- A process accepts a socket on which these inputs will arrive. -/
  | accept (n : NodeId) (s : Socket) (inputs : List Received)
  /-- A handler or a termination runs one segment. -/
  | task (i : Nat)
  /-- `publish_message` is called. -/
  | publish (call : PublishCall)
  /-- A publisher runs one command. -/
  | publisher (i : Nat)
  | listener (n : NodeId) (channel : Channel) (a : ListenerAct)
  | reap (n : NodeId)
  /-- A `terminate_slow_consumer` task starts. -/
  | terminate (n : NodeId)
  | sender (n : NodeId) (x : ConnId)
  | sendFails (n : NodeId) (x : ConnId)
  /-- The heartbeat sends a PING. -/
  | ping (n : NodeId) (x : ConnId) (serverTime : Nat)
  /-- The heartbeat times out: `_on_dead_connection`. -/
  | timeout (n : NodeId) (x : ConnId)
  /-- The clock. -/
  | tick (micros : Nat)

namespace World

/-- A process with the shared Redis. -/
def gateway (w : World) (n : NodeId) : Gateway := ⟨w.redis, w.nodes n⟩

/-- Put a process back. -/
def put (n : NodeId) (g : Gateway) (w : World) : World :=
  { w with redis := g.redis, nodes := Function.update w.nodes n g.node }

/-- Update the memory of a process. -/
def onNode (n : NodeId) (f : Node → Node) (w : World) : World :=
  { w with nodes := Function.update w.nodes n (f (w.nodes n)) }

/-- A publisher runs one command. -/
def stepPublisher (env : Env) (i : Nat) (w : World) : World :=
  { w with
    redis := (Publishers.step env ⟨w.redis, w.publishers⟩ i).redis
    publishers := (Publishers.step env ⟨w.redis, w.publishers⟩ i).calls }

/-- A task runs one segment. -/
def stepTask (i : Nat) (w : World) : World :=
  match w.tasks[i]? with
  | some (n, .seg f k) =>
    { w.put n (f (w.gateway n)) with tasks := w.tasks.set i (n, k (w.gateway n)) }
  | _ => w

/-- The oldest termination asked for by the fanout becomes a task. -/
def stepTerminate (n : NodeId) (w : World) : World :=
  match (w.nodes n).terminating with
  | [] => w
  | x :: rest =>
    { w.onNode n (fun node => { node with terminating := rest }) with
      tasks := w.tasks ++ [(n, terminateSlowConsumer x)] }

/-- The PING of `run_heartbeat`: HIGH priority, which `enqueue` never refuses. -/
def pingConn (env : Env) (serverTime : Nat) (conn : Connection) : Connection :=
  if conn.state = .active then
    match conn.enqueue env (.ping serverTime) .high none none with
    | .ok conn' => conn'
    | .error _ => conn
  else conn

/-- One step. -/
def step (env : Env) (w : World) : WorldAct → World
  | .accept n s inputs =>
    { w with tasks := w.tasks ++ [(n, handleConnection (env.at n) s inputs)] }
  | .task i => w.stepTask i
  | .publish call => { w with publishers := w.publishers ++ [(call, .start)] }
  | .publisher i => w.stepPublisher env i
  | .listener n channel a => w.put n (listenerStep (env.at n) channel a (w.gateway n))
  | .reap n => w.put n (reap (env.at n) (w.gateway n))
  | .terminate n => w.stepTerminate n
  | .sender n x => w.onNode n (Node.updateConn x (fun conn => (conn.senderStep env).getD conn))
  | .sendFails n x => w.onNode n (Node.updateConn x Connection.sendFails)
  | .ping n x serverTime => w.onNode n (Node.updateConn x (pingConn env serverTime))
  | .timeout n x => w.onNode n (Node.updateConn x (fun conn => { conn with state := .dead }))
  | .tick micros => { w with redis := { w.redis with now := w.redis.now + micros } }

/-- Processes that have just started, on an empty Redis.  Which commands and writes will fail, and
what age trimming will find, is up to the arguments. -/
def start (faults : List Bool) (trims : List Nat) (socketFaults : NodeId → List Bool) : World where
  redis := { faults := faults, ageTrims := trims }
  nodes := fun n => { socketFaults := socketFaults n }

/-! ## 2. Invariants of all processes -/

/-- `I` holds in every process, and every task keeps it with segments in `G`. -/
def Holds (I : NodeId → Gateway → Prop) (G : NodeId → Gateway → Gateway → Prop) (w : World) :
    Prop :=
  (∀ n, I n (w.gateway n)) ∧ ∀ t ∈ w.tasks, t.2.Keeps (I t.1) (G t.1)

section Holds

variable {I : NodeId → Gateway → Prop} {G : NodeId → Gateway → Gateway → Prop}

@[simp] theorem gateway_put (n m : NodeId) (g : Gateway) (w : World) :
    (w.put n g).gateway m = if m = n then g else ⟨g.redis, w.nodes m⟩ := by
  unfold gateway put
  split
  · rename_i h; subst h; simp
  · rename_i h; simp [Function.update_of_ne h]

@[simp] theorem gateway_onNode (n m : NodeId) (f : Node → Node) (w : World) :
    (w.onNode n f).gateway m
      = if m = n then ⟨w.redis, f (w.nodes n)⟩ else w.gateway m := by
  unfold gateway onNode
  split
  · rename_i h; subst h; simp
  · rename_i h; simp [Function.update_of_ne h]

/-- A change of one process keeps the invariant everywhere if it keeps it there, and if the other
processes do not notice what it did to Redis. -/
theorem Holds.put {w : World} {n : NodeId} {g : Gateway} (h : Holds I G w) (hn : I n g)
    (hother : ∀ m, m ≠ n → I m (w.gateway m) → I m ⟨g.redis, w.nodes m⟩) :
    Holds I G (w.put n g) := by
  refine ⟨fun m => ?_, h.2⟩
  rw [gateway_put]
  split
  · rename_i hm; rw [hm]; exact hn
  · rename_i hm; exact hother m hm (h.1 m)

theorem Holds.onNode {w : World} {n : NodeId} {f : Node → Node} (h : Holds I G w)
    (hn : I n ⟨w.redis, f (w.nodes n)⟩) : Holds I G (w.onNode n f) := by
  refine ⟨fun m => ?_, h.2⟩
  rw [gateway_onNode]
  split
  · rename_i hm; rw [hm]; exact hn
  · exact h.1 m

/-- New tasks that keep the invariant. -/
theorem Holds.spawn {w : World} {n : NodeId} {p : Prog Gateway Exn Unit} (h : Holds I G w)
    (hp : p.Keeps (I n) (G n)) : Holds I G { w with tasks := w.tasks ++ [(n, p)] } := by
  refine ⟨h.1, fun t ht => ?_⟩
  rcases List.mem_append.mp ht with ht | ht
  · exact h.2 t ht
  · rw [List.mem_singleton.mp ht]
    exact hp

/-- **A segment of a task keeps the invariant of every process**, if the other processes do not
notice a `G`-move. -/
theorem Holds.task {w : World} (h : Holds I G w)
    (hother : ∀ n m g g' node, m ≠ n → G n g g' → I m ⟨g.redis, node⟩ → I m ⟨g'.redis, node⟩)
    (i : Nat) : Holds I G (w.stepTask i) := by
  unfold stepTask
  split
  · rename_i n f k hi
    obtain ⟨h1, h2, h3⟩ := h.2 _ (List.mem_of_getElem? hi) (w.gateway n) (h.1 n)
    have hput := h.put h1 (fun m hm hI => hother n m _ _ _ hm h2 hI)
    refine ⟨hput.1, fun t ht => ?_⟩
    rcases List.mem_or_eq_of_mem_set ht with ht | rfl
    · exact h.2 t ht
    · exact h3
  · exact h

end Holds

end World

theorem World.ident_pingConn (env : Env) (serverTime : Nat) (conn : Connection) :
    (World.pingConn env serverTime conn).ident = conn.ident := by
  unfold World.pingConn
  split
  · split
    · rename_i h
      exact Connection.ident_enqueue h
    · rfl
  · rfl

/-- Terminating a slow consumer is two effects of its connection. -/
theorem terminateSlowConsumer_keeps {env : Env} {x : ConnId} {tenantId : String} {sc : Scope}
    {I : Gateway → Prop}
    (hI : Effect.Invariant env x tenantId sc I) :
    (terminateSlowConsumer x).Keeps I (Effect env x tenantId sc) := by
  have hdead : Connection.Bookkeeping (fun conn => { conn with state := .dead }) :=
    ⟨fun _ => rfl, fun _ => rfl, fun _ => rfl, fun _ => rfl, fun _ => Or.inl rfl⟩
  exact (locally_keeps hI (fun _ => .bookkeeping _ hdead)).bind fun _ =>
    (sendText_keeps hI rfl).catch fun _ => Prog.keeps_ret ()

end Relay
