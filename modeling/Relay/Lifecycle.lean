/-
# The life of a handler, by stages

`handle_connection` from the CONNECT frame to its end, cut at the points that matter for the
registry: the count of the tenant's connections, the awaits between that count and `registry.add`,
the awaits between `registry.add` and the frame loop, the loop, and `_cleanup_connection`.

A stage holds the next segment of its program and what follows, so that "where the handler is" is a
constructor.  `HandlerStage.sound` says that the stages are the program of `Handler`.

`RegistryMove` is what one segment can do to the registry.  The parts before `registry.add`, between
it and the loop, and in the cleanup up to `registry.remove` do nothing to it.
-/
import Mathlib
import Relay.Lib.Stages
import Relay.Effects

namespace Relay

open Gateway

/-! ## 1. The handshake in parts -/

/-- A client whose token has been accepted: its socket, its tenant, the fields of its CONNECT frame
and what it will send. -/
structure Client where
  socket : Socket
  tenantId : String
  fields : List (String × Json)
  inputs : List Received

namespace Client

variable (env : Env) (c : Client)

/-- `tenant_connection_count(tenant_id) >= max_connections_per_tenant`. -/
def full (g : Gateway) : Bool :=
  decide (env.settings.maxConnectionsPerTenant ≤ g.node.registry.tenantConnectionCount c.tenantId)

/-- Session creation or resumption. -/
def resolve : Prog Gateway Exn String :=
  withRedis (resolveSession env c.socket c.tenantId (Json.field c.fields "session_id"))

/-- What the handler knows once the session is there. -/
def peer (sessionId : String) : Peer where
  connectionId := c.socket.connectionId
  sessionId := sessionId
  tenantId := c.tenantId
  userId :=
    let user := Json.field c.fields "user_id"
    if user.truthy then some (env.strOf user) else none

end Client

/-- The connection `handle_connection` registers for a peer. -/
def Peer.connection (p : Peer) : Connection :=
  newConnection p.connectionId p.sessionId p.tenantId p.userId

/-- From `registry.add` to the frame loop: presence, the sender task, the CONNECTED frame. -/
def welcome (env : Env) (p : Peer) : Prog Gateway Exn Unit := do
  whenUser p.userId (fun user => Presence.connectionOnline env p.tenantId user p.connectionId)
  locally (Node.updateConn p.connectionId (fun conn => { conn with sender := .getting }))
  sendText p.connectionId (.connected p.connectionId p.sessionId env.settings.nodeId
    env.settings.heartbeatIntervalSeconds)

/-- From `registry.add` to the end. -/
def attend (env : Env) (p : Peer) (inputs : List Received) : Prog Gateway Exn Unit :=
  (locally (Node.add p.connection)).bind fun _ =>
    (welcome env p).bind fun _ => frameLoop env p inputs

theorem establish_bind (env : Env) (c : Client) :
    (establish env c.socket c.tenantId c.fields).bind (fun p => frameLoop env p c.inputs)
      = (c.resolve env).bind fun sessionId => attend env (c.peer env sessionId) c.inputs := by
  simp only [establish, attend, welcome, Client.resolve, Prog.bind_eq, Prog.pure_eq,
    Prog.bind_assoc, Prog.ret_bind, Client.peer, Peer.connection]

/-! ## 2. Stages -/

/-- Where a handler is. -/
inductive HandlerStage
  /-- The handshake is refused with an ERROR frame. -/
  | refusing (x : ConnId) (code : ErrorCode) (message : String)
  /-- The connections of the tenant are counted next. -/
  | checking (c : Client)
  /-- Admitted; the session is looked up, created or touched. -/
  | admitted (c : Client) (f : Gateway → Gateway) (k : Gateway → Prog Gateway Exn String)
  /-- `registry.add` is next. -/
  | adding (p : Peer) (inputs : List Received)
  /-- Registered, and on the way to the frame loop. -/
  | announcing (p : Peer) (f : Gateway → Gateway) (k : Gateway → Prog Gateway Exn Unit)
      (inputs : List Received)
  /-- At the head of the loop. -/
  | looking (p : Peer) (inputs : List Received)
  /-- In the body of the loop. -/
  | serving (p : Peer) (f : Gateway → Gateway) (k : Gateway → Prog Gateway Exn Bool)
      (rest : List Received)
  /-- In `_cleanup_connection`; `outcome` is how the handler ends if that returns. -/
  | cleaning (p : Peer) (f : Gateway → Gateway) (k : Gateway → Prog Gateway Exn Unit)
      (outcome : Except Exn Unit)
  /-- In `receive_json`, with nothing more to come. -/
  | waiting (p : Peer)
  /-- `handle_connection` has returned or raised. -/
  | ended (outcome : Except Exn Unit)

namespace HandlerStage

variable (env : Env)

/-- How the handler ends when the body of the loop has raised: `WebSocketDisconnect` is caught. -/
def outcomeOf (e : Exn) : Except Exn Unit := if e = .disconnect then .ok () else .error e

/-- What follows the body of the loop. -/
def afterTurn (p : Peer) (rest : List Received) (outcome : Except Exn Bool) :
    Prog Gateway Exn Unit :=
  (afterBody env p outcome).bind fun again => if again then turns env p rest else .ret ()

/-- The rest of the handler's program. -/
def prog : HandlerStage → Prog Gateway Exn Unit
  | .refusing x code message => sendError x code message
  | .checking c => (Prog.act (fun g => (c.full env g, g))).bind fun full =>
      if full then sendError c.socket.connectionId .rateLimited "tenant connection limit reached"
      else (c.resolve env).bind fun sessionId => attend env (c.peer env sessionId) c.inputs
  | .admitted c f k =>
      (Prog.seg f k).bind fun sessionId => attend env (c.peer env sessionId) c.inputs
  | .adding p inputs => attend env p inputs
  | .announcing p f k inputs => (Prog.seg f k).bind fun _ => frameLoop env p inputs
  | .looking p inputs => frameLoop env p inputs
  | .serving p f k rest => (Prog.seg f k).try_.bind (afterTurn env p rest)
  | .cleaning _ f k outcome => (Prog.seg f k).bind fun _ => Prog.ofExcept outcome
  | .waiting _ => .ret ()
  | .ended outcome => Prog.ofExcept outcome

/-! Stages from the program of a part. -/

/-- In `_cleanup_connection`. -/
def atCleanup (p : Peer) (outcome : Except Exn Unit) : Prog Gateway Exn Unit → HandlerStage
  | .ret _ => .ended outcome
  | .raise e => .ended (.error e)
  | .seg f k => .cleaning p f k outcome

/-- In the body of the loop. -/
def atBody (p : Peer) (rest : List Received) : Prog Gateway Exn Bool → HandlerStage
  | .ret true => .looking p rest
  | .ret false => atCleanup p (.ok ()) (cleanupConnection env p)
  | .raise e => atCleanup p (outcomeOf e) (cleanupConnection env p)
  | .seg f k => .serving p f k rest

/-- In `receive_json`. -/
def atReceive (p : Peer) : List Received → HandlerStage
  | [] => .waiting p
  | input :: rest => atBody env p rest (onReceived env p input)

/-- Between `registry.add` and the loop. -/
def atAnnounce (p : Peer) (inputs : List Received) : Prog Gateway Exn Unit → HandlerStage
  | .ret _ => .looking p inputs
  | .raise e => .ended (.error e)
  | .seg f k => .announcing p f k inputs

/-- Between the count and `registry.add`. -/
def atResolve (c : Client) : Prog Gateway Exn String → HandlerStage
  | .ret sessionId => .adding (c.peer env sessionId) c.inputs
  | .raise e => .ended (.error e)
  | .seg f k => .admitted c f k

/-- What the next segment does. -/
def next : HandlerStage → Gateway → Gateway × HandlerStage
  | .refusing x code message, g =>
      Stages.settle (fun _ => .ended (.ok ())) (fun e => .ended (.error e))
        ((g.node.sendText x (.error code message)).1,
          setNode (g.node.sendText x (.error code message)).2 g)
  | .checking c, g => (g, if c.full env g then
      .refusing c.socket.connectionId .rateLimited "tenant connection limit reached"
      else atResolve env c (c.resolve env))
  | .admitted c f k, g => (f g, atResolve env c (k g))
  | .adding p inputs, g =>
      (setNode (g.node.add p.connection) g, atAnnounce p inputs (welcome env p))
  | .announcing p f k inputs, g => (f g, atAnnounce p inputs (k g))
  | .looking p inputs, g => (g, if isActive p.connectionId g then atReceive env p inputs
      else atCleanup p (.ok ()) (cleanupConnection env p))
  | .serving p f k rest, g => (f g, atBody env p rest (k g))
  | .cleaning p f k outcome, g => (f g, atCleanup p outcome (k g))
  | .waiting p, g => (g, .waiting p)
  | .ended outcome, g => (g, .ended outcome)

/-- A handler that starts on a socket. -/
def start (s : Socket) (inputs : List Received) : HandlerStage :=
  match s.connect with
  | none => .ended (.ok ())
  | some (.obj fields) =>
    if (Json.field fields "type").asStr = some FrameType.connect.value then
      match s.authenticate with
      | .error text => .refusing s.connectionId .authFailed text
      | .ok tenantId => .checking ⟨s, tenantId, fields, inputs⟩
    else .refusing s.connectionId .invalidFrame "expected CONNECT frame first"
  | some _ => .ended (.error .attribute)

/-! ## 3. The stages are the program -/

theorem prog_atCleanup (p : Peer) (outcome : Except Exn Unit) (q : Prog Gateway Exn Unit) :
    prog env (atCleanup p outcome q) = q.bind fun _ => Prog.ofExcept outcome := by
  cases q with
  | ret u => rfl
  | raise e => rfl
  | seg f k => rfl

theorem frameLoop_eq (p : Peer) (inputs : List Received) : frameLoop env p inputs
    = (Prog.act (fun g => (isActive p.connectionId g, g))).bind fun active =>
      if active then turns env p inputs else cleanupConnection env p := rfl

theorem afterTurn_again (p : Peer) (rest : List Received) :
    afterTurn env p rest (.ok true) = frameLoop env p rest := by
  simp only [afterTurn, afterBody, frameLoop_eq, Prog.bind_eq, Prog.pure_eq, Prog.bind_assoc]
  congr 1
  funext active
  cases active with
  | true => rfl
  | false => exact (Prog.bind_assoc _ _ _).trans (Prog.bind_ret (cleanupConnection env p))

theorem afterTurn_out (p : Peer) (rest : List Received) : afterTurn env p rest (.ok false)
    = (cleanupConnection env p).bind fun _ => Prog.ofExcept (.ok ()) := by
  simp only [afterTurn, afterBody, Prog.bind_eq, Prog.pure_eq, Prog.bind_assoc]
  rfl

theorem afterTurn_raised (p : Peer) (rest : List Received) (e : Exn) :
    afterTurn env p rest (.error e)
      = (cleanupConnection env p).bind fun _ => Prog.ofExcept (outcomeOf e) := by
  simp only [afterTurn, afterBody, Prog.bind_eq, Prog.pure_eq, Prog.bind_assoc, outcomeOf]
  congr 1
  funext _
  split <;> rfl

theorem prog_atBody (p : Peer) (rest : List Received) (q : Prog Gateway Exn Bool) :
    prog env (atBody env p rest q) = q.try_.bind (afterTurn env p rest) := by
  match q with
  | .ret true => exact (afterTurn_again env p rest).symm
  | .ret false => exact (prog_atCleanup env _ _ _).trans (afterTurn_out env p rest).symm
  | .raise e => exact (prog_atCleanup env _ _ _).trans (afterTurn_raised env p rest e).symm
  | .seg f k => rfl

theorem prog_atReceive (p : Peer) (inputs : List Received) :
    prog env (atReceive env p inputs) = turns env p inputs := by
  cases inputs with
  | nil => rfl
  | cons input rest =>
    exact (prog_atBody env p rest _).trans (Prog.bind_assoc _ _ _).symm

theorem prog_atAnnounce (p : Peer) (inputs : List Received) (q : Prog Gateway Exn Unit) :
    prog env (atAnnounce p inputs q) = q.bind fun _ => frameLoop env p inputs := by
  cases q with
  | ret u => rfl
  | raise e => rfl
  | seg f k => rfl

theorem prog_atResolve (c : Client) (q : Prog Gateway Exn String) :
    prog env (atResolve env c q)
      = q.bind fun sessionId => attend env (c.peer env sessionId) c.inputs := by
  cases q with
  | ret sessionId => rfl
  | raise e => rfl
  | seg f k => rfl

/-- **Each stage says what its program does next.** -/
theorem sound : Stages.Sound (prog env) (next env) := by
  intro st
  cases st with
  | refusing x code message =>
    exact Stages.sound_atomic (fun _ => .ended (.ok ())) (fun e => .ended (.error e))
      (Prog.bind_ret _).symm (fun _ => rfl) (fun _ => rfl) (fun _ => rfl)
  | checking c =>
    refine Or.inl ⟨_, _, rfl, fun g => ⟨rfl, ?_⟩⟩
    simp only [Prog.ret_bind, next]
    split
    · rfl
    · exact (prog_atResolve env c _).symm
  | admitted c f k => exact Or.inl ⟨_, _, rfl, fun g => ⟨rfl, (prog_atResolve env c _).symm⟩⟩
  | adding p inputs =>
    exact Or.inl ⟨_, _, rfl, fun g => ⟨rfl, (prog_atAnnounce env p inputs _).symm⟩⟩
  | announcing p f k inputs =>
    exact Or.inl ⟨_, _, rfl, fun g => ⟨rfl, (prog_atAnnounce env p inputs _).symm⟩⟩
  | looking p inputs =>
    refine Or.inl ⟨_, _, rfl, fun g => ⟨rfl, ?_⟩⟩
    simp only [Prog.ret_bind, next]
    split
    · exact (prog_atReceive env p inputs).symm
    · exact ((prog_atCleanup env _ _ _).trans (Prog.bind_ret _)).symm
  | serving p f k rest => exact Or.inl ⟨_, _, rfl, fun g => ⟨rfl, (prog_atBody env p rest _).symm⟩⟩
  | cleaning p f k outcome =>
    exact Or.inl ⟨_, _, rfl, fun g => ⟨rfl, (prog_atCleanup env p outcome _).symm⟩⟩
  | waiting p => exact Stages.sound_ret rfl (fun _ => rfl)
  | ended outcome =>
    cases outcome with
    | ok u => exact Stages.sound_ret rfl (fun _ => rfl)
    | error e => exact Stages.sound_raise rfl (fun _ => rfl)

theorem prog_start (s : Socket) (inputs : List Received) :
    prog env (start s inputs) = handleConnection env s inputs := by
  unfold handleConnection handshake start
  cases s.connect with
  | none => rfl
  | some raw =>
    cases raw with
    | obj fields =>
      simp only
      split
      · cases s.authenticate with
        | error text => exact (refuse_bind env _ _ _ inputs).symm
        | ok tenantId =>
          simp only [prog, Prog.bind_eq, Prog.bind_assoc]
          congr 1
          funext full
          split
          · exact (refuse_bind env _ _ _ inputs).symm
          · simp only [Prog.pure_eq, Prog.bind_assoc, Prog.ret_bind]
            exact (establish_bind env ⟨s, tenantId, fields, inputs⟩).symm
      · exact (refuse_bind env _ _ _ inputs).symm
    | _ => rfl

end HandlerStage

/-! ## 4. What the parts do to the registry -/

/-- The same connections under the same keys; what is queued and written does not matter. -/
structure Registry.SameTables (reg reg' : Registry) : Prop where
  conn : ∀ y, (reg'.byId.get? y).map Connection.ident = (reg.byId.get? y).map Connection.ident
  bySession : reg'.bySession = reg.bySession
  byTenant : reg'.byTenant = reg.byTenant
  byChannel : reg'.byChannel = reg.byChannel

theorem Registry.SameTables.refl (reg : Registry) : reg.SameTables reg :=
  ⟨fun _ => rfl, rfl, rfl, rfl⟩

theorem Registry.sameTables_of_eq {reg reg' : Registry} (h : reg' = reg) : reg.SameTables reg' :=
  h ▸ SameTables.refl reg

theorem Node.Outbound.sameTables {n n' : Node} (h : n.Outbound n') :
    n.registry.SameTables n'.registry := ⟨h.conn, h.bySession, h.byTenant, h.byChannel⟩

/-- What a segment of the handler of `x` does to the registry. -/
inductive RegistryMove (x : ConnId) (lifecycle : Bool) : Registry → Registry → Prop
  | same {reg reg' : Registry} (h : reg.SameTables reg') : RegistryMove x lifecycle reg reg'
  | subscribe {reg : Registry} (channel : Channel) :
      RegistryMove x lifecycle reg (reg.subscribe x channel)
  | unsubscribe {reg : Registry} (channel : Channel) :
      RegistryMove x lifecycle reg (reg.unsubscribe x channel)
  | add {reg : Registry} (conn : Connection) (hx : conn.connectionId = x)
      (h : lifecycle = true) : RegistryMove x lifecycle reg (reg.add conn)
  | remove {reg : Registry} (h : lifecycle = true) : RegistryMove x lifecycle reg (reg.remove x).2

theorem Effect.registryMove {env : Env} {x : ConnId} {tenantId : String} {sc : Scope}
    {g g' : Gateway} (h : Effect env x tenantId sc g g') :
    RegistryMove x sc.lifecycle g.node.registry g'.node.registry := by
  cases h with
  | redis _ => exact .same (.refl _)
  | write frame _ => exact .same (Node.outbound_sendText x frame _).sameTables
  | bookkeeping f hf =>
    exact .same (Node.outbound_updateConn _ _ (fun c _ => hf.ident c)).sameTables
  | replay channel messages _ _ _ =>
    exact .same (outbound_replayInto env x channel messages _).sameTables
  | subscribe channel _ _ => exact .subscribe channel
  | countUp _ _ _ => exact .same (.refl _)
  | startListener channel _ _ =>
    exact .same (Registry.sameTables_of_eq (Node.registry_startListener channel _))
  | unsubscribe channel _ => exact .unsubscribe channel
  | countDown channel _ =>
    exact .same (Registry.sameTables_of_eq (Node.registry_countDown channel _))
  | add sessionId userId hl => exact .add _ rfl hl
  | remove hl => exact .remove hl
  | look => exact .same (.refl _)

/-- A segment that leaves the tables as they are. -/
def SameTables (g g' : Gateway) : Prop := g.node.registry.SameTables g'.node.registry

theorem sameTables_updateConn (x : ConnId) {f : Connection → Connection}
    (hf : ∀ c, (f c).ident = c.ident) (g : Gateway) :
    SameTables g (setNode (g.node.updateConn x f) g) :=
  (Node.outbound_updateConn g.node x (fun c _ => hf c)).sameTables

theorem withRedis_sameTables {α : Type} (q : Prog Redis Exn α) :
    (withRedis q).Keeps (fun _ => True) SameTables :=
  (Prog.keeps_true q).lift (fun _ _ => trivial) (fun g _ _ _ _ => ⟨trivial, .refl g.node.registry⟩)

theorem whenUser_sameTables (userId : Option String) (q : String → Prog Redis Exn Unit) :
    (whenUser userId q).Keeps (fun _ => True) SameTables := by
  cases userId with
  | none => trivial
  | some user => exact withRedis_sameTables (q user)

theorem welcome_sameTables (env : Env) (p : Peer) :
    (welcome env p).Keeps (fun _ => True) SameTables := by
  refine (whenUser_sameTables _ _).bind fun _ => Prog.Keeps.bind ?_ fun _ => ?_
  · refine Prog.keeps_modify fun g _ => ⟨trivial, sameTables_updateConn _ ?_ g⟩
    exact fun _ => rfl
  · exact Prog.keeps_atomic fun g _ => ⟨trivial, (Node.outbound_sendText _ _ g.node).sameTables⟩

/-- `_cleanup_connection` up to `registry.remove`. -/
def beforeRemoval (env : Env) (p : Peer) : Prog Gateway Exn Unit := do
  let channels ← .act (markDead p.connectionId)
  Prog.forEach (onLocalUnsubscribe env) channels
  whenUser p.userId (fun user => do
    let _ ← Presence.connectionOffline p.tenantId user p.connectionId
    return ())

theorem cleanupConnection_eq (env : Env) (p : Peer) : cleanupConnection env p
    = (beforeRemoval env p).bind fun _ => locally (Node.remove p.connectionId) := by
  simp only [cleanupConnection, beforeRemoval, Prog.bind_eq, Prog.bind_assoc]

theorem onLocalUnsubscribe_sameTables (env : Env) (channel : Channel) :
    (onLocalUnsubscribe env channel).Keeps (fun _ => True) SameTables := by
  refine Prog.Keeps.bind (Prog.keeps_act fun g _ => ?_) fun last => ?_
  · exact ⟨trivial, Registry.sameTables_of_eq (Node.registry_countDown channel _)⟩
  · split
    · exact withRedis_sameTables _
    · trivial

theorem beforeRemoval_sameTables (env : Env) (p : Peer) :
    (beforeRemoval env p).Keeps (fun _ => True) SameTables := by
  refine Prog.Keeps.bind (Prog.keeps_act fun g _ => ?_) fun channels => ?_
  · refine ⟨trivial, sameTables_updateConn p.connectionId ?_ g⟩
    exact fun _ => rfl
  · exact (Prog.Keeps.forEach fun channel _ => onLocalUnsubscribe_sameTables env channel).bind
      fun _ => whenUser_sameTables _ _

/-- The body of the loop: the connection is neither added nor removed. -/
def Scope.body : Scope := ⟨true, false, fun _ => True, fun _ _ => True⟩

/-- The body of the loop moves the registry without adding or removing the connection. -/
theorem onReceived_keeps {env : Env} {p : Peer} {I : Gateway → Prop} (input : Received)
    (hI : ∀ g g', I g → RegistryMove p.connectionId false g.node.registry g'.node.registry → I g') :
    (onReceived env p input).Keeps I
      (fun g g' => RegistryMove p.connectionId false g.node.registry g'.node.registry) := by
  have hinv : Effect.Invariant env p.connectionId p.tenantId Scope.body I :=
    fun g g' hg he => hI g g' hg he.registryMove
  cases input with
  | json raw =>
    have hframe : (onFrame env p raw).Keeps I (Effect env p.connectionId p.tenantId Scope.body) :=
      onFrame_keeps hinv (fun _ _ => trivial) (fun _ _ _ _ _ => trivial) (fun _ => rfl)
        (fun _ _ => trivial)
    exact hframe.mono (fun _ _ _ he => he.registryMove)
  | garbage => trivial
  | closed => trivial

/-! ## 5. Handlers beside other tasks -/

/-- A task of the process: a handler by its stage, or any program. -/
abbrev GatewayTask := HandlerStage ⊕ Prog Gateway Exn Unit

/-- A step of one task. -/
abbrev GatewayTask.step (env : Env) : Stages.Tasks Gateway GatewayTask → Nat →
    Stages.Tasks Gateway GatewayTask :=
  Stages.Tasks.step (Stages.besideNext (HandlerStage.next env))

/-- The program of a task. -/
abbrev GatewayTask.prog (env : Env) : GatewayTask → Prog Gateway Exn Unit :=
  Stages.besideProg (HandlerStage.prog env)

/-- **Stages beside programs are the programs**, under every schedule. -/
theorem GatewayTask.exec_pool (env : Env) (sched : List Nat)
    (t : Stages.Tasks Gateway GatewayTask) :
    (t.toPool (prog env)).exec sched = (runAll (step env) t sched).toPool (prog env) :=
  Stages.Tasks.exec_pool (Stages.sound_beside (HandlerStage.sound env)) sched t

end Relay
