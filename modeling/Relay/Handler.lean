/-
# The WebSocket handler

`apps/gateway/websocket/handler.py`: the handshake, the frame loop and the cleanup of one
connection, as programs over the gateway.

What the handler keeps about its connection and never changes after the handshake (its id, session,
tenant and user) is the `Peer` it works for.  A frame that has been received is handled by
`onFrame`, whose result says whether the loop goes on.  `turn` adds what the code around the loop
does when it does not: `_cleanup_connection` runs on every way out, `WebSocketDisconnect` is
swallowed and any other exception is raised again.

The programs have a scheduling point between any two statements that touch shared state, also
where the code does not suspend.  Every interleaving of the code is one of theirs.
-/
import Mathlib
import Relay.Node

namespace Relay

open Gateway

/-! ## 1. Frames of the frame loop -/

/-- The branches of `_frame_loop`. -/
inductive Branch
  | pong | presence | subscribe | unsubscribe | ack | resume | disconnect | other
  deriving DecidableEq, Repr

/-- The branch a frame takes, by its `type` field. -/
def branchOf (fields : List (String × Json)) : Branch :=
  match Json.field fields "type" with
  | .str s =>
    if s = FrameType.pong.value then .pong
    else if s = "PRESENCE" then .presence
    else if s = FrameType.subscribe.value then .subscribe
    else if s = FrameType.unsubscribe.value then .unsubscribe
    else if s = FrameType.ack.value then .ack
    else if s = FrameType.resume.value then .resume
    else if s = FrameType.disconnect.value then .disconnect
    else .other
  | _ => .other

/-- `if user_id: await p(user_id)`. -/
def whenUser (userId : Option String) (p : String → Prog Redis Exn Unit) :
    Prog Gateway Exn Unit :=
  match userId with
  | some user => withRedis (p user)
  | none => .ret ()

/-- The MESSAGE frame the RESUME branch builds from a stream entry. -/
def replayFrame (channel : Channel) (e : StreamEntry) : MessageFrame :=
  ⟨e.messageId, channel, e.sequence, e.createdAt / 1000000, e.payload⟩

/-- The loop over `result.messages`: enqueue until the queue refuses one. -/
def Node.replayInto (env : Env) (x : ConnId) (channel : Channel) :
    List StreamEntry → Node → Except Exn Unit × Node
  | [], n => (.ok (), n)
  | e :: rest, n =>
    match n.enqueue env x (.message (replayFrame channel e)) .normal (some channel)
        (some e.sequence) with
    | (.ok (), n') => replayInto env x channel rest n'
    | (.error err, n') => (.error err, n')

/-- The RESUME branch for a channel without a gap: enqueue the replay, then subscribe. -/
def reattach (env : Env) (p : Peer) (channel : Channel) (messages : List StreamEntry) :
    Prog Gateway Exn Unit := do
  tryLocally (Node.replayInto env p.connectionId channel messages)
  locally (Node.subscribe p.connectionId channel)
  onLocalSubscribe env channel

/-- The `for` loop of the RESUME branch, with what it collects for the RESUMED frame. -/
def resumeChannels (env : Env) (p : Peer) :
    List (Channel × Int) → List (Channel × Nat) → List Channel →
      Prog Gateway Exn (List (Channel × Nat) × List Channel)
  | [], replayed, gaps => return (replayed, gaps)
  | (channel, lastAck) :: rest, replayed, gaps => do
    if channelBelongsToTenant channel p.tenantId then
      let result ← withRedis (replayChannel channel lastAck)
      if result.gap then
        sendError p.connectionId .resumeGap channel
        resumeChannels env p rest replayed (gaps ++ [channel])
      else
        reattach env p channel result.messages
        resumeChannels env p rest (replayed ++ [(channel, result.messages.length)]) gaps
    else
      resumeChannels env p rest replayed gaps

/-- The PONG branch. -/
def onPong (env : Env) (p : Peer) : Prog Gateway Exn Bool := do
  .modify (fun g => setNode (g.node.updateConn p.connectionId
    (fun conn => { conn with lastPongAt := g.redis.now })) g)
  withRedis (Sessions.touchSession env p.sessionId env.settings.nodeId)
  whenUser p.userId (Presence.refresh env p.tenantId)
  return true

/-- The PRESENCE branch: anything but IDLE counts as ONLINE. -/
def onPresence (env : Env) (p : Peer) (fields : List (String × Json)) :
    Prog Gateway Exn Bool := do
  whenUser p.userId (fun user => Presence.setState env p.tenantId user
    (decide ((Json.field fields "state").asStr = some "IDLE")))
  return true

/-- The SUBSCRIBE branch for a channel that passed the namespace check. -/
def attachChannel (env : Env) (p : Peer) (channel : Channel) : Prog Gateway Exn Bool := do
  locally (Node.subscribe p.connectionId channel)
  onLocalSubscribe env channel
  sendText p.connectionId (.subscribed channel)
  return true

/-- The SUBSCRIBE branch. -/
def onSubscribe (env : Env) (p : Peer) (fields : List (String × Json)) :
    Prog Gateway Exn Bool :=
  match parseSubscribe fields with
  | none => do
    sendError p.connectionId .invalidChannel (env.errText (.obj fields))
    return true
  | some channel =>
    if channelBelongsToTenant channel p.tenantId then attachChannel env p channel
    else do
      sendError p.connectionId .channelForbidden channel
      return true

/-- The UNSUBSCRIBE branch after parsing: there is no check of the namespace, nor of whether the
connection is subscribed. -/
def detachChannel (env : Env) (p : Peer) (channel : Channel) : Prog Gateway Exn Bool := do
  locally (Node.unsubscribe p.connectionId channel)
  onLocalUnsubscribe env channel
  sendText p.connectionId (.unsubscribed channel)
  return true

/-- The UNSUBSCRIBE branch; the frame model's `ValidationError` is not caught. -/
def onUnsubscribe (env : Env) (p : Peer) (fields : List (String × Json)) :
    Prog Gateway Exn Bool :=
  match parseUnsubscribe fields with
  | none => .raise .validation
  | some channel => detachChannel env p channel

/-- The ACK branch. -/
def onAckFrame (env : Env) (p : Peer) (fields : List (String × Json)) : Prog Gateway Exn Bool :=
  match parseAck env fields with
  | none => .raise .validation
  | some (channel, sequence) => do
    withRedis (Sessions.recordAck env p.sessionId channel sequence)
    locally (Node.updateConn p.connectionId (fun conn => (conn.onAck env channel sequence).2))
    return true

/-- The RESUME branch after parsing. -/
def resume (env : Env) (p : Peer) (acks : List (Channel × Int)) : Prog Gateway Exn Bool := do
  let result ← resumeChannels env p acks [] []
  sendText p.connectionId (.resumed p.sessionId result.1 result.2)
  return true

/-- The RESUME branch. -/
def onResume (env : Env) (p : Peer) (fields : List (String × Json)) : Prog Gateway Exn Bool :=
  match parseResume env fields with
  | none => .raise .validation
  | some (_, lastAckByChannel) => resume env p lastAckByChannel.entries

/-- One pass through the body of `_frame_loop`; false when the loop breaks. -/
def onFrame (env : Env) (p : Peer) : Json → Prog Gateway Exn Bool
  | .obj fields =>
    match branchOf fields with
    | .pong => onPong env p
    | .presence => onPresence env p fields
    | .subscribe => onSubscribe env p fields
    | .unsubscribe => onUnsubscribe env p fields
    | .ack => onAckFrame env p fields
    | .resume => onResume env p fields
    | .disconnect => return false
    | .other => do
      sendError p.connectionId .unknownMessage (env.strOf (Json.field fields "type"))
      return true
  | _ => .raise .attribute

/-! ## 2. Cleanup -/

/-- The start of `_cleanup_connection`: the state, the two tasks, and `list(conn.subscriptions)`. -/
def markDead (x : ConnId) (g : Gateway) : List Channel × Gateway :=
  (match g.node.registry.byId.get? x with
    | some conn => conn.subscriptions.elems
    | none => [],
    setNode (g.node.updateConn x (fun conn => { conn with state := .dead }.cancelSender)) g)

/-- `_cleanup_connection`.  What `connection_offline` returns is only logged, and the errors of the
final `close` are swallowed. -/
def cleanupConnection (env : Env) (p : Peer) : Prog Gateway Exn Unit := do
  let channels ← .act (markDead p.connectionId)
  Prog.forEach (onLocalUnsubscribe env) channels
  whenUser p.userId (fun user => do
    let _ ← Presence.connectionOffline p.tenantId user p.connectionId
    return ())
  locally (Node.remove p.connectionId)

/-! ## 3. The loop -/

/-- What `receive_json` comes back with. -/
inductive Received
  | json (raw : Json)
  /-- Text that `json.loads` refuses, or a binary frame.  It refuses what is not JSON, and also an
  integer of more than 4300 digits and nesting that is too deep. -/
  | garbage
  /-- The peer is gone. -/
  | closed

/-- `conn.state == ConnectionState.ACTIVE`. -/
def isActive (x : ConnId) (g : Gateway) : Bool :=
  match g.node.registry.byId.get? x with
  | some conn => decide (conn.state = .active)
  | none => false

/-- The body of the loop on what `receive_json` came back with. -/
def onReceived (env : Env) (p : Peer) : Received → Prog Gateway Exn Bool
  | .json raw => onFrame env p raw
  | .garbage => .raise .decode
  | .closed => .raise .disconnect

/-- After the body of the loop: back to `receive_json`, or out through the `finally`. -/
def afterBody (env : Env) (p : Peer) : Except Exn Bool → Prog Gateway Exn Bool
  | .ok true => do
    if ← .act (fun g => (isActive p.connectionId g, g)) then
      return true
    else
      cleanupConnection env p
      return false
  | .ok false => do
    cleanupConnection env p
    return false
  | .error e => do
    cleanupConnection env p
    if e = .disconnect then return false else .raise e

/-- One turn of the loop, with the way out if it is the last one: true when the handler waits for
the next frame. -/
def turn (env : Env) (p : Peer) (input : Received) : Prog Gateway Exn Bool :=
  (onReceived env p input).try_.bind (afterBody env p)

/-- The turns of a handler; when the inputs run out it is still waiting. -/
def turns (env : Env) (p : Peer) : List Received → Prog Gateway Exn Unit
  | [] => return ()
  | input :: rest => do
    if ← turn env p input then turns env p rest else return ()

/-- `_frame_loop` and the code around it. -/
def frameLoop (env : Env) (p : Peer) (inputs : List Received) : Prog Gateway Exn Unit := do
  if ← .act (fun g => (isActive p.connectionId g, g)) then
    turns env p inputs
  else
    cleanupConnection env p

/-- What the handler of a registered connection knows about it. -/
def peerOf (x : ConnId) (conn : Connection) : Peer :=
  ⟨x, conn.sessionId, conn.tenantId, conn.userId⟩

/-! ## 4. The handshake -/

/-- A socket that has been accepted: its first frame (none if it did not come in time), what the
database says about its token, and the ids drawn for it. -/
structure Socket where
  connectionId : ConnId
  newSessionId : String
  connect : Option Json
  authenticate : Except String String

/-- The session a client asks for, if it asks for one and the session is alive. -/
def requestedSession (env : Env) (requested : Json) : Prog Redis Exn (Option SessionHash) :=
  if requested.truthy then Sessions.getSession (env.strOf requested) else .ret none

/-- Session creation or resumption: the requested session is taken up if it exists and belongs to
the tenant. -/
def resolveSession (env : Env) (s : Socket) (tenantId : String) (requested : Json) :
    Prog Redis Exn String := do
  let existing ← requestedSession env requested
  if existing.bind SessionHash.tenantId = some tenantId then
    Sessions.touchSession env (env.strOf requested) env.settings.nodeId
    return env.strOf requested
  else
    Sessions.createSession env s.newSessionId tenantId env.settings.nodeId

/-- The connection `handle_connection` builds; its sender task does not exist yet. -/
def newConnection (connectionId : ConnId) (sessionId tenantId : String)
    (userId : Option String) : Connection where
  connectionId := connectionId
  sessionId := sessionId
  tenantId := tenantId
  state := .active
  userId := userId
  sender := .exited

/-- The handshake from the authenticated token on. -/
def establish (env : Env) (s : Socket) (tenantId : String) (fields : List (String × Json)) :
    Prog Gateway Exn Peer := do
  let sessionId ← withRedis (resolveSession env s tenantId (Json.field fields "session_id"))
  let user := Json.field fields "user_id"
  let userId := if user.truthy then some (env.strOf user) else none
  locally (Node.add (newConnection s.connectionId sessionId tenantId userId))
  whenUser userId (fun user => Presence.connectionOnline env tenantId user s.connectionId)
  locally (Node.updateConn s.connectionId (fun conn => { conn with sender := .getting }))
  sendText s.connectionId (.connected s.connectionId sessionId env.settings.nodeId
    env.settings.heartbeatIntervalSeconds)
  return ⟨s.connectionId, sessionId, tenantId, userId⟩

/-- The handshake part of `handle_connection`.  The result is the peer to serve, if there is one. -/
def handshake (env : Env) (s : Socket) : Prog Gateway Exn (Option Peer) :=
  match s.connect with
  | none => return none
  | some (.obj fields) =>
    if (Json.field fields "type").asStr = some FrameType.connect.value then
      match s.authenticate with
      | .error text => do
        sendError s.connectionId .authFailed text
        return none
      | .ok tenantId => do
        let full ← .act (fun g => (decide (env.settings.maxConnectionsPerTenant ≤
          g.node.registry.tenantConnectionCount tenantId), g))
        if full then
          sendError s.connectionId .rateLimited "tenant connection limit reached"
          return none
        else
          let p ← establish env s tenantId fields
          return some p
    else do
      sendError s.connectionId .invalidFrame "expected CONNECT frame first"
      return none
  | some _ => .raise .attribute

/-- `handle_connection`.  An exception of the handshake is not followed by a cleanup. -/
def handleConnection (env : Env) (s : Socket) (inputs : List Received) :
    Prog Gateway Exn Unit := do
  match ← handshake env s with
  | some p => frameLoop env p inputs
  | none => return ()

end Relay
