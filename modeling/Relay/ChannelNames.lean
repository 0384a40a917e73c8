/-
# Which channel names reach shared state

`validate_channel_name` keeps unsafe characters out of channel names, and with them out of Redis
keys and Pub/Sub topics.  It is called for SUBSCRIBE and for `POST /v1/publish`.  UNSUBSCRIBE, ACK
and the keys of RESUME's map carry channel names too, and their frame models take any string.

Here every segment of the handler and of the publish endpoint says which channel names it inserts in
the registry or the subscription manager, or puts into a Redis key or a topic (`Names`).  Without
these marks the programs are the ones of `Handler` and `PublishApi` (`Names.erase_frameLoop`,
`Names.erase_publish`).  A listener subscribes to the topic of the channel it was started for, so
starting one counts as using the name.

* `names_valid_iff`: a publish request uses valid names only; so does a connection whose frames name
  valid channels, whatever the rest of the process does meanwhile; and for a single frame this
  condition is exact;
* `unsafe_name_is_used`: RESUME, ACK and UNSUBSCRIBE put an unsafe name into keys, and RESUME also
  into the registry and the subscription manager.
-/
import Mathlib
import Relay.Lib.Marked
import Relay.Lifecycle
import Relay.PublishApi
import Relay.ResumeCapacity

namespace Relay

open Gateway Marked
open Redis (command roomAdd roomExpire roomRemove)

/-! ## 1. The programs with the names they use -/

namespace Names

/-- A program of the process that says which channel names it uses. -/
abbrev Named (α : Type) : Type := Marked Gateway Channel Exn α

section Programs

variable (env : Env) (p : Peer)

/-- The name, if it is used at all. -/
def usedIf (b : Bool) (channel : Channel) : List Channel := if b then [channel] else []

/-- `registry.subscribe` inserts the name if it knows the connection. -/
def subscribe (x : ConnId) (channel : Channel) : Named Unit :=
  mark (fun g => usedIf (g.node.registry.byId.get? x).isSome channel)
    (locally (Node.subscribe x channel))

/-- A listener is started for the name if there is none alive. -/
def startListener (channel : Channel) : Named Unit :=
  mark (fun g => usedIf
      (decide ((g.node.startListener channel).nextTask ≠ g.node.nextTask)) channel)
    (locally (Node.startListener channel))

/-- `on_local_subscribe`. -/
def onLocalSubscribe (channel : Channel) : Named Unit := do
  mark (fun _ => [channel]) (locally (Node.countUp channel))
  mark (fun _ => [channel])
    (withRedis (command (roomAdd channel env.settings.nodeId)))
  mark (fun _ => [channel])
    (withRedis (command (roomExpire channel (env.settings.nodeTtlSeconds * 3))))
  startListener channel

/-- `on_local_unsubscribe` stores a count unless this was the last subscriber. -/
def onLocalUnsubscribe (channel : Channel) : Named Unit := do
  let last ← mark (fun g => usedIf (!(g.node.countDown channel).1) channel)
    (.act (fun g => ((g.node.countDown channel).1, setNode (g.node.countDown channel).2 g)))
  if last then
    mark (fun _ => [channel]) (withRedis (command (roomRemove channel env.settings.nodeId)))
  else
    return ()

/-- The RESUME branch for a channel without a gap. -/
def reattach (channel : Channel) (messages : List StreamEntry) : Named Unit := do
  quiet (tryLocally (Node.replayInto env p.connectionId channel messages))
  subscribe p.connectionId channel
  onLocalSubscribe env channel

/-- The `for` loop of the RESUME branch. -/
def resumeChannels : List (Channel × Int) → List (Channel × Nat) → List Channel →
    Named (List (Channel × Nat) × List Channel)
  | [], replayed, gaps => return (replayed, gaps)
  | (channel, lastAck) :: rest, replayed, gaps => do
    if channelBelongsToTenant channel p.tenantId then
      let result ← mark (fun _ => [channel]) (withRedis (replayChannel channel lastAck))
      if result.gap then
        quiet (sendError p.connectionId .resumeGap channel)
        resumeChannels rest replayed (gaps ++ [channel])
      else
        reattach env p channel result.messages
        resumeChannels rest (replayed ++ [(channel, result.messages.length)]) gaps
    else
      resumeChannels rest replayed gaps

/-- The SUBSCRIBE branch for a channel that passed the namespace check. -/
def attachChannel (channel : Channel) : Named Bool := do
  subscribe p.connectionId channel
  onLocalSubscribe env channel
  quiet (sendText p.connectionId (.subscribed channel))
  return true

/-- The SUBSCRIBE branch. -/
def onSubscribe (fields : List (String × Json)) : Named Bool :=
  match parseSubscribe fields with
  | none => do
    quiet (sendError p.connectionId .invalidChannel (env.errText (.obj fields)))
    return true
  | some channel =>
    if channelBelongsToTenant channel p.tenantId then attachChannel env p channel
    else do
      quiet (sendError p.connectionId .channelForbidden channel)
      return true

/-- The UNSUBSCRIBE branch after parsing; `registry.unsubscribe` inserts nothing. -/
def detachChannel (channel : Channel) : Named Bool := do
  quiet (locally (Node.unsubscribe p.connectionId channel))
  onLocalUnsubscribe env channel
  quiet (sendText p.connectionId (.unsubscribed channel))
  return true

/-- The UNSUBSCRIBE branch. -/
def onUnsubscribe (fields : List (String × Json)) : Named Bool :=
  match parseUnsubscribe fields with
  | none => .raise .validation
  | some channel => detachChannel env p channel

/-- The ACK branch: `record_ack` reads, and may write, the key of the session and the channel. -/
def onAckFrame (fields : List (String × Json)) : Named Bool :=
  match parseAck env fields with
  | none => .raise .validation
  | some (channel, sequence) => do
    mark (fun _ => [channel]) (withRedis (Sessions.recordAck env p.sessionId channel sequence))
    quiet (locally (Node.updateConn p.connectionId
      (fun conn => (conn.onAck env channel sequence).2)))
    return true

/-- The RESUME branch after parsing. -/
def resume (acks : List (Channel × Int)) : Named Bool := do
  let result ← resumeChannels env p acks [] []
  quiet (sendText p.connectionId (.resumed p.sessionId result.1 result.2))
  return true

/-- The RESUME branch. -/
def onResume (fields : List (String × Json)) : Named Bool :=
  match parseResume env fields with
  | none => .raise .validation
  | some (_, lastAckByChannel) => resume env p lastAckByChannel.entries

/-- One pass through the body of `_frame_loop`. -/
def onFrame : Json → Named Bool
  | .obj fields =>
    match branchOf fields with
    | .subscribe => onSubscribe env p fields
    | .unsubscribe => onUnsubscribe env p fields
    | .ack => onAckFrame env p fields
    | .resume => onResume env p fields
    | _ => quiet (Relay.onFrame env p (.obj fields))
  | raw => quiet (Relay.onFrame env p raw)

/-- The body of the loop on what `receive_json` came back with. -/
def onReceived : Received → Named Bool
  | .json raw => onFrame env p raw
  | input => quiet (Relay.onReceived env p input)

/-- `_cleanup_connection`. -/
def cleanupConnection : Named Unit := do
  let channels ← quiet (.act (markDead p.connectionId))
  Marked.forEach (onLocalUnsubscribe env) channels
  quiet (whenUser p.userId (fun user => do
    let _ ← Presence.connectionOffline p.tenantId user p.connectionId
    return ()))
  quiet (locally (Node.remove p.connectionId))

/-- After the body of the loop. -/
def afterBody : Except Exn Bool → Named Bool
  | .ok true => do
    if ← quiet (.act (fun g => (isActive p.connectionId g, g))) then
      return true
    else
      cleanupConnection env p
      return false
  | .ok false => do
    cleanupConnection env p
    return false
  | .error e => do
    cleanupConnection env p
    if e = .disconnect then return false else .raise e

/-- One turn of the loop. -/
def turn (input : Received) : Named Bool :=
  (onReceived env p input).try_.bind (afterBody env p)

/-- The turns of a handler. -/
def turns : List Received → Named Unit
  | [] => return ()
  | input :: rest => do
    if ← turn env p input then turns rest else return ()

/-- `_frame_loop` and the code around it. -/
def frameLoop (inputs : List Received) : Named Unit := do
  if ← quiet (.act (fun g => (isActive p.connectionId g, g))) then
    turns env p inputs
  else
    cleanupConnection env p

/-- The publish of a request whose key, if it has one, was not found: all four commands of
`publish_message` go to a key or a topic of the channel. -/
def publishNew (key : Option String) (call : PublishCall) :
    Marked Redis Channel Exn (Except HttpError PublishResult) :=
  (mark (fun _ => [call.channel])
    (publishMessage env call.channel call.messageId call.payload)).try_.bind
      (fun outcome => quiet (afterPublish env key outcome))

/-- What follows the GET of the idempotency key. -/
def afterLookup (key : String) (call : PublishCall) :
    Except Exn (Option PublishResult) → Marked Redis Channel Exn (Except HttpError PublishResult)
  | .ok none => publishNew env (some key) call
  | found => quiet (Relay.afterLookup env key call found)

/-- The part of `publish` that talks to Redis. -/
def publishChecked (key : Option String) (call : PublishCall) :
    Marked Redis Channel Exn (Except HttpError PublishResult) :=
  match key with
  | some k => (quiet (command (getIdempotency k))).try_.bind (afterLookup env k call)
  | none => publishNew env none call

/-- `publish`. -/
def publish (authenticate : String → Except String String) (req : PublishRequest) :
    Marked Redis Channel Exn (Except HttpError PublishResult) :=
  match checkPublish env authenticate req with
  | .error e => .ret (.error e)
  | .ok tenantId => publishChecked env (req.key tenantId) req.call

/-! ## 2. Without the marks they are the programs of the process -/

@[simp] theorem erase_subscribe (x : ConnId) (channel : Channel) :
    (subscribe x channel).erase = locally (Node.subscribe x channel) := erase_mark _ _

@[simp] theorem erase_startListener (channel : Channel) :
    (startListener channel).erase = locally (Node.startListener channel) := erase_mark _ _

@[simp] theorem erase_onLocalSubscribe (channel : Channel) :
    (onLocalSubscribe env channel).erase = Gateway.onLocalSubscribe env channel := by
  simp only [onLocalSubscribe, Marked.bind_eq, erase_bind, erase_mark, erase_startListener]
  rfl

@[simp] theorem erase_onLocalUnsubscribe (channel : Channel) :
    (onLocalUnsubscribe env channel).erase = Gateway.onLocalUnsubscribe env channel := by
  simp only [onLocalUnsubscribe, Marked.bind_eq, erase_bind, erase_mark, erase_ite]
  rfl

@[simp] theorem erase_reattach (channel : Channel) (messages : List StreamEntry) :
    (reattach env p channel messages).erase = Relay.reattach env p channel messages := by
  simp only [reattach, Marked.bind_eq, erase_bind, erase_quiet, erase_subscribe,
    erase_onLocalSubscribe]
  rfl

@[simp] theorem erase_resumeChannels : ∀ (acks : List (Channel × Int))
    (replayed : List (Channel × Nat)) (gaps : List Channel),
    (resumeChannels env p acks replayed gaps).erase
      = Relay.resumeChannels env p acks replayed gaps
  | [], _, _ => rfl
  | (channel, lastAck) :: rest, replayed, gaps => by
    simp only [resumeChannels, Relay.resumeChannels, Marked.bind_eq, Prog.bind_eq, erase_ite,
      erase_bind, erase_mark, erase_quiet, erase_reattach, erase_resumeChannels rest]

theorem erase_attachChannel (channel : Channel) :
    (attachChannel env p channel).erase = Relay.attachChannel env p channel := by
  simp only [attachChannel, Marked.bind_eq, erase_bind, erase_quiet, erase_subscribe,
    erase_onLocalSubscribe]
  rfl

theorem erase_onSubscribe (fields : List (String × Json)) :
    (onSubscribe env p fields).erase = Relay.onSubscribe env p fields := by
  unfold onSubscribe Relay.onSubscribe
  cases parseSubscribe fields with
  | none =>
    simp only [Marked.bind_eq, erase_bind, erase_quiet]
    rfl
  | some channel =>
    simp only [Marked.bind_eq, erase_ite, erase_bind, erase_quiet, erase_attachChannel]
    rfl

theorem erase_onUnsubscribe (fields : List (String × Json)) :
    (onUnsubscribe env p fields).erase = Relay.onUnsubscribe env p fields := by
  unfold onUnsubscribe Relay.onUnsubscribe
  cases parseUnsubscribe fields with
  | none => rfl
  | some channel =>
    simp only [detachChannel, Marked.bind_eq, erase_bind, erase_quiet, erase_onLocalUnsubscribe]
    rfl

theorem erase_onAckFrame (fields : List (String × Json)) :
    (onAckFrame env p fields).erase = Relay.onAckFrame env p fields := by
  unfold onAckFrame Relay.onAckFrame
  cases parseAck env fields with
  | none => rfl
  | some ack =>
    simp only [Marked.bind_eq, erase_bind, erase_quiet, erase_mark]
    rfl

theorem erase_onResume (fields : List (String × Json)) :
    (onResume env p fields).erase = Relay.onResume env p fields := by
  unfold onResume Relay.onResume
  cases parseResume env fields with
  | none => rfl
  | some request =>
    simp only [resume, Marked.bind_eq, erase_bind, erase_quiet, erase_resumeChannels]
    rfl

theorem erase_onFrame (raw : Json) : (onFrame env p raw).erase = Relay.onFrame env p raw := by
  cases raw with
  | obj fields =>
    have herase : ∀ b, branchOf fields = b →
        (onFrame env p (.obj fields)).erase = Relay.onFrame env p (.obj fields) := by
      intro b hb
      cases b with
      | subscribe =>
        simp only [onFrame, Relay.onFrame, hb]
        exact erase_onSubscribe env p fields
      | unsubscribe =>
        simp only [onFrame, Relay.onFrame, hb]
        exact erase_onUnsubscribe env p fields
      | ack =>
        simp only [onFrame, Relay.onFrame, hb]
        exact erase_onAckFrame env p fields
      | resume =>
        simp only [onFrame, Relay.onFrame, hb]
        exact erase_onResume env p fields
      | _ =>
        simp only [onFrame, hb]
        exact erase_quiet _
    exact herase _ rfl
  | _ => exact erase_quiet (Relay.onFrame env p _)

@[simp] theorem erase_onReceived (input : Received) :
    (onReceived env p input).erase = Relay.onReceived env p input := by
  cases input with
  | json raw => exact erase_onFrame env p raw
  | _ => exact erase_quiet (Relay.onReceived env p _)

@[simp] theorem erase_cleanupConnection :
    (cleanupConnection env p).erase = Relay.cleanupConnection env p := by
  simp only [cleanupConnection, Marked.bind_eq, erase_bind, erase_quiet, erase_forEach,
    erase_onLocalUnsubscribe]
  rfl

@[simp] theorem erase_afterBody (outcome : Except Exn Bool) :
    (afterBody env p outcome).erase = Relay.afterBody env p outcome := by
  unfold afterBody Relay.afterBody
  split
  · simp only [Marked.bind_eq, erase_bind, erase_quiet, erase_ite, erase_cleanupConnection]
    rfl
  · simp only [Marked.bind_eq, erase_bind, erase_cleanupConnection]
    rfl
  · simp only [Marked.bind_eq, erase_bind, erase_cleanupConnection]
    exact congrArg _ (funext fun _ => apply_ite erase _ _ _)

@[simp] theorem erase_turn (input : Received) :
    (turn env p input).erase = Relay.turn env p input := by
  simp only [turn, erase_bind, erase_try, erase_onReceived, erase_afterBody]
  rfl

@[simp] theorem erase_turns : ∀ inputs : List Received,
    (turns env p inputs).erase = Relay.turns env p inputs
  | [] => rfl
  | input :: rest => by
    simp only [turns, Relay.turns, Marked.bind_eq, Prog.bind_eq, erase_bind, erase_turn, erase_ite,
      erase_turns rest]
    rfl

/-- **The frame loop with its names is the frame loop.** -/
theorem erase_frameLoop (inputs : List Received) :
    (frameLoop env p inputs).erase = Relay.frameLoop env p inputs := by
  simp only [frameLoop, Marked.bind_eq, erase_bind, erase_quiet, erase_ite, erase_turns,
    erase_cleanupConnection]
  rfl

theorem erase_publishNew (key : Option String) (call : PublishCall) :
    (publishNew env key call).erase = Relay.publishNew env key call := by
  simp only [publishNew, erase_bind, erase_try, erase_mark, erase_quiet]
  rfl

theorem erase_afterLookup (key : String) (call : PublishCall)
    (found : Except Exn (Option PublishResult)) :
    (afterLookup env key call found).erase = Relay.afterLookup env key call found := by
  match found with
  | .ok none => exact erase_publishNew env (some key) call
  | .ok (some cached) => exact erase_quiet _
  | .error e => exact erase_quiet _

/-- **The publish endpoint with its names is the publish endpoint.** -/
theorem erase_publish (authenticate : String → Except String String) (req : PublishRequest) :
    (publish env authenticate req).erase = Http.publish env authenticate req := by
  unfold publish Http.publish
  cases checkPublish env authenticate req with
  | error e => rfl
  | ok tenantId =>
    simp only [publishChecked, Relay.publishChecked]
    cases req.key tenantId with
    | none => exact erase_publishNew env none _
    | some k => simp only [erase_bind, erase_try, erase_quiet, erase_afterLookup]

end Programs

end Names

/-! ## 3. Valid names -/

/-- `validate_channel_name` accepts the name. -/
def ValidName (channel : Channel) : Prop := validateChannelName channel = .ok channel

theorem validName_iff {channel : Channel} : ValidName channel ↔
    channel.toList ≠ [] ∧ channel.toList.length ≤ maxChannelLength ∧
      ∀ ch ∈ channel.toList, ch ∈ channelSafeChars := by
  unfold ValidName validateChannelName
  split_ifs with hempty hlong hchars
  · exact iff_of_false nofun (fun h => h.1 (List.isEmpty_iff.mp hempty))
  · exact iff_of_false nofun (fun h => absurd h.2.1 (not_le.mpr hlong))
  · simp only [Bool.not_eq_true', List.all_eq_false, List.contains_eq_mem, decide_eq_true_eq]
      at hchars
    obtain ⟨ch, hmem, hunsafe⟩ := hchars
    exact iff_of_false nofun (fun h => hunsafe (h.2.2 ch hmem))
  · simp only [Bool.not_eq_true', Bool.not_eq_false, List.all_eq_true, List.contains_eq_mem,
      decide_eq_true_eq] at hchars
    exact iff_of_true rfl ⟨fun h => hempty (List.isEmpty_iff.mpr h), not_lt.mp hlong, hchars⟩

/-- SUBSCRIBE carries a valid name. -/
theorem parseSubscribe_valid {fields : List (String × Json)} {channel : Channel}
    (h : parseSubscribe fields = some channel) : ValidName channel := by
  obtain ⟨name, -, hname⟩ := Option.bind_eq_some_iff.mp h
  cases hv : validateChannelName name with
  | error text => rw [hv] at hname; nomatch hname
  | ok c =>
    rw [hv] at hname
    obtain rfl := Option.some.inj hname
    obtain rfl := validateChannelName_eq hv
    exact hv

/-- The channels a frame names pass the check that its frame model leaves out. -/
def NamesValid (env : Env) (p : Peer) : Received → Prop
  | .json (.obj fields) =>
    match branchOf fields with
    | .unsubscribe => ∀ channel, parseUnsubscribe fields = some channel → ValidName channel
    | .ack => ∀ ack, parseAck env fields = some ack → ValidName ack.1
    | .resume => ∀ request, parseResume env fields = some request → ∀ e ∈ request.2.entries,
        channelBelongsToTenant e.1 p.tenantId = true → ValidName e.1
    | _ => True
  | _ => True

/-! ## 4. The subscriptions of a connection -/

/-- The connection is subscribed to valid names only. -/
def SubscribedValid (x : ConnId) (g : Gateway) : Prop :=
  ∀ conn, g.node.registry.byId.get? x = some conn →
    ∀ channel ∈ conn.subscriptions, ValidName channel

section Subscribed

variable {env : Env} {x : ConnId} {g g' : Gateway}

theorem SubscribedValid.of_ident (h : SubscribedValid x g)
    (hc : (g'.node.registry.byId.get? x).map Connection.ident
      = (g.node.registry.byId.get? x).map Connection.ident) : SubscribedValid x g' := by
  intro conn' hconn'
  rw [hconn', Option.map_some] at hc
  obtain ⟨conn, hconn, hid⟩ := Option.map_eq_some_iff.mp hc.symm
  rw [← show conn.subscriptions = conn'.subscriptions from congrArg Prod.snd hid]
  exact h conn hconn

theorem SubscribedValid.same (h : SubscribedValid x g) (ht : SameTables g g') :
    SubscribedValid x g' := h.of_ident (ht.conn x)

theorem SubscribedValid.subscribe (h : SubscribedValid x g) {channel : Channel}
    (hvalid : ValidName channel) : SubscribedValid x (setNode (g.node.subscribe x channel) g) := by
  intro conn' hconn'
  simp only [setNode, Node.subscribe, Registry.get_subscribe, if_true, Option.map_eq_some_iff]
    at hconn'
  obtain ⟨conn, hconn, rfl⟩ := hconn'
  intro d hd
  rcases OSet.mem_add.mp hd with rfl | hd
  · exact hvalid
  · exact h conn hconn d hd

theorem SubscribedValid.unsubscribe (h : SubscribedValid x g) (channel : Channel) :
    SubscribedValid x (setNode (g.node.unsubscribe x channel) g) := by
  intro conn' hconn'
  simp only [setNode, Node.unsubscribe, Registry.get_unsubscribe, if_true,
    Option.map_eq_some_iff] at hconn'
  obtain ⟨conn, hconn, rfl⟩ := hconn'
  exact fun d hd => h conn hconn d (OSet.mem_discard.mp hd).2

theorem subscribedValid_remove : SubscribedValid x (setNode (g.node.remove x) g) := by
  intro conn' hconn'
  rw [setNode, Node.remove, Registry.get_remove, if_pos rfl] at hconn'
  cases hconn'

/-- The handler of another connection leaves it alone. -/
theorem RegistryMove.other {y : ConnId} {lifecycle : Bool} {reg reg' : Registry}
    (h : RegistryMove y lifecycle reg reg') (hne : x ≠ y) :
    (reg'.byId.get? x).map Connection.ident = (reg.byId.get? x).map Connection.ident := by
  cases h with
  | same h => exact h.conn x
  | subscribe channel => rw [Registry.get_subscribe, if_neg hne]
  | unsubscribe channel => rw [Registry.get_unsubscribe, if_neg hne]
  | add conn hy _ => rw [Registry.get_add, if_neg (hy ▸ hne)]
  | remove _ => rw [Registry.get_remove, if_neg hne]

/-- What happens in the process besides the handler of `x`: segments of other handlers, and
everything that leaves the tables of the registry alone, such as the senders, the listeners and the
publishers. -/
inductive Elsewhere (env : Env) (x : ConnId) : Gateway → Gateway → Prop
  | handler {y : ConnId} {tenantId : String} {sc : Scope} {g g' : Gateway} (hne : x ≠ y)
      (h : Effect env y tenantId sc g g') : Elsewhere env x g g'
  | tables {g g' : Gateway} (h : SameTables g g') : Elsewhere env x g g'

theorem SubscribedValid.elsewhere (h : SubscribedValid x g)
    (hs : Relation.ReflTransGen (Elsewhere env x) g g') : SubscribedValid x g' := by
  induction hs with
  | refl => exact h
  | tail _ hstep ih =>
    cases hstep with
    | handler hne he => exact ih.of_ident (he.registryMove.other hne)
    | tables ht => exact ih.same ht

end Subscribed

/-! ## 5. The handler uses valid names -/

namespace Names

section Only

variable (env : Env) (p : Peer)

/-- Started with valid subscriptions, the program uses valid names only. -/
abbrev OnlyValid {α : Type} (q : Named α) : Prop :=
  q.Only (SubscribedValid p.connectionId) ValidName

variable {α : Type} {p} {channel : Channel}

theorem valid_usedIf (h : ValidName channel) (b : Bool) :
    ∀ c ∈ usedIf b channel, ValidName c := by
  cases b with
  | false => exact fun c hc => nomatch hc
  | true => exact fun c hc => List.mem_singleton.mp hc ▸ h

theorem onlyValid_quiet {q : Prog Gateway Exn α} (hq : q.Keeps (fun _ => True) SameTables) :
    OnlyValid p (quiet q) := only_quiet (fun _ _ hg ht => hg.same ht) hq

theorem onlyValid_redis (h : ValidName channel) (q : Prog Redis Exn α) :
    OnlyValid p (mark (fun _ => [channel]) (withRedis q)) :=
  only_mark (fun _ _ => valid_usedIf h true) (fun _ _ hg ht => hg.same ht) (withRedis_sameTables q)

theorem onlyValid_reply (frame : ServerFrame) :
    OnlyValid p (quiet (sendText p.connectionId frame)) :=
  onlyValid_quiet (Prog.keeps_atomic fun g _ =>
    ⟨trivial, (Node.outbound_sendText p.connectionId frame g.node).sameTables⟩)

theorem onlyValid_subscribe (h : ValidName channel) :
    OnlyValid p (subscribe p.connectionId channel) :=
  only_modify (fun _ _ => valid_usedIf h _) (fun _ hg => hg.subscribe h)

theorem onlyValid_onLocalSubscribe (h : ValidName channel) :
    OnlyValid p (onLocalSubscribe env channel) := by
  refine Only.bind (only_modify (fun _ _ => valid_usedIf h true) (fun _ hg => hg)) fun _ =>
    Only.bind (onlyValid_redis h _) fun _ => Only.bind (onlyValid_redis h _) fun _ =>
      only_modify (fun _ _ => valid_usedIf h _) (fun g hg => hg.same ?_)
  exact Registry.sameTables_of_eq (Node.registry_startListener channel g.node)

theorem onlyValid_onLocalUnsubscribe (h : ValidName channel) :
    OnlyValid p (onLocalUnsubscribe env channel) := by
  refine Only.bind (only_mark (fun _ _ => valid_usedIf h _) (fun _ _ hg ht => hg.same ht)
    (Prog.keeps_act fun g _ => ?_)) fun last => ?_
  · exact ⟨trivial, Registry.sameTables_of_eq (Node.registry_countDown channel g.node)⟩
  · split
    · exact onlyValid_redis h _
    · exact only_ret ()

theorem onlyValid_reattach (h : ValidName channel) (messages : List StreamEntry) :
    OnlyValid p (reattach env p channel messages) :=
  Only.bind (onlyValid_quiet (Prog.keeps_atomic fun g _ =>
      ⟨trivial, (outbound_replayInto env p.connectionId channel messages g.node).sameTables⟩))
    fun _ => Only.bind (onlyValid_subscribe h) fun _ => onlyValid_onLocalSubscribe env h

theorem onlyValid_resumeChannels : ∀ (acks : List (Channel × Int)) (replayed : List (Channel × Nat))
    (gaps : List Channel),
    (∀ e ∈ acks, channelBelongsToTenant e.1 p.tenantId = true → ValidName e.1) →
      OnlyValid p (resumeChannels env p acks replayed gaps)
  | [], _, _, _ => only_ret _
  | (channel, lastAck) :: rest, replayed, gaps, h => by
    have hrest := fun e he => h e (List.mem_cons_of_mem _ he)
    unfold resumeChannels
    split
    · rename_i own
      have hvalid := h (channel, lastAck) List.mem_cons_self own
      refine Only.bind (onlyValid_redis hvalid _) fun result => ?_
      split
      · exact Only.bind (onlyValid_reply _) fun _ => onlyValid_resumeChannels rest _ _ hrest
      · exact Only.bind (onlyValid_reattach env hvalid _) fun _ =>
          onlyValid_resumeChannels rest _ _ hrest
    · exact onlyValid_resumeChannels rest _ _ hrest

theorem onlyValid_onSubscribe (fields : List (String × Json)) :
    OnlyValid p (onSubscribe env p fields) := by
  unfold onSubscribe
  split
  · exact Only.bind (onlyValid_reply _) fun _ => only_ret true
  · rename_i channel hparse
    have hvalid := parseSubscribe_valid hparse
    split
    · exact Only.bind (onlyValid_subscribe hvalid) fun _ =>
        Only.bind (onlyValid_onLocalSubscribe env hvalid) fun _ =>
          Only.bind (onlyValid_reply _) fun _ => only_ret true
    · exact Only.bind (onlyValid_reply _) fun _ => only_ret true

/-- The other frames name no channel. -/
theorem onlyValid_nameless {fields : List (String × Json)}
    (h : branchOf fields = .pong ∨ branchOf fields = .presence ∨ branchOf fields = .disconnect ∨
      branchOf fields = .other) : OnlyValid p (quiet (Relay.onFrame env p (.obj fields))) := by
  rcases h with h | h | h | h <;> simp only [Relay.onFrame, h]
  · refine onlyValid_quiet (Prog.Keeps.bind (Prog.keeps_modify fun g _ => ⟨trivial, ?_⟩) fun _ =>
      (withRedis_sameTables _).bind fun _ => (whenUser_sameTables _ _).bind fun _ =>
        Prog.keeps_ret true)
    refine sameTables_updateConn p.connectionId ?_ g
    exact fun _ => rfl
  · exact onlyValid_quiet ((whenUser_sameTables _ _).bind fun _ => Prog.keeps_ret true)
  · exact only_ret false
  · exact onlyValid_quiet (Prog.Keeps.bind (Prog.keeps_atomic fun g _ =>
      ⟨trivial, (Node.outbound_sendText p.connectionId _ g.node).sameTables⟩) fun _ =>
        Prog.keeps_ret true)

theorem onlyValid_onFrame {raw : Json} (h : NamesValid env p (.json raw)) :
    OnlyValid p (onFrame env p raw) := by
  cases raw with
  | obj fields =>
    simp only [NamesValid] at h
    cases hb : branchOf fields with
    | subscribe =>
      simp only [onFrame, hb]
      exact onlyValid_onSubscribe env fields
    | unsubscribe =>
      simp only [hb] at h
      simp only [onFrame, hb, onUnsubscribe]
      split
      · trivial
      · rename_i channel hparse
        exact Only.bind (only_modify (fun _ _ => List.forall_mem_nil _)
            (fun _ hg => hg.unsubscribe channel)) fun _ =>
          Only.bind (onlyValid_onLocalUnsubscribe env (h channel hparse)) fun _ =>
            Only.bind (onlyValid_reply _) fun _ => only_ret true
    | ack =>
      simp only [hb] at h
      simp only [onFrame, hb, onAckFrame]
      split
      · trivial
      · rename_i channel sequence hparse
        refine Only.bind (onlyValid_redis (h _ hparse) _) fun _ =>
          Only.bind (onlyValid_quiet (Prog.keeps_modify fun g _ => ⟨trivial, ?_⟩)) fun _ =>
            only_ret true
        refine sameTables_updateConn p.connectionId ?_ g
        exact fun _ => rfl
    | resume =>
      simp only [hb] at h
      simp only [onFrame, hb, onResume]
      split
      · trivial
      · rename_i sessionId acks hparse
        exact Only.bind (onlyValid_resumeChannels env _ _ _ (h _ hparse)) fun _ =>
          Only.bind (onlyValid_reply _) fun _ => only_ret true
    | _ =>
      simp only [onFrame, hb]
      exact onlyValid_nameless env (by simp [hb])
  | _ => trivial

theorem onlyValid_onReceived {input : Received} (h : NamesValid env p input) :
    OnlyValid p (onReceived env p input) := by
  cases input with
  | json raw => exact onlyValid_onFrame env h
  | _ => trivial

/-- The cleanup uses the names the connection is subscribed to. -/
theorem onlyValid_cleanupConnection : OnlyValid p (cleanupConnection env p) := by
  refine only_act_bind fun g hg => ⟨hg.same ?_, ?_⟩
  · refine sameTables_updateConn p.connectionId ?_ g
    exact fun _ => rfl
  · refine Only.bind (Only.forEach fun channel hch => onlyValid_onLocalUnsubscribe env ?_) fun _ =>
      Only.bind (onlyValid_quiet (whenUser_sameTables _ _)) fun _ =>
        only_modify (fun _ _ => List.forall_mem_nil _) (fun _ _ => subscribedValid_remove)
    simp only [markDead] at hch
    split at hch
    · rename_i conn hconn
      exact hg conn hconn channel hch
    · exact absurd hch List.not_mem_nil

theorem onlyValid_afterBody (outcome : Except Exn Bool) :
    OnlyValid p (afterBody env p outcome) := by
  have hclean := onlyValid_cleanupConnection env (p := p)
  unfold afterBody
  split
  · refine only_act_bind fun g hg => ⟨hg, ?_⟩
    split
    · exact only_ret true
    · exact Only.bind hclean fun _ => only_ret false
  · exact Only.bind hclean fun _ => only_ret false
  · refine Only.bind hclean fun _ => ?_
    split <;> trivial

theorem onlyValid_turns : ∀ {inputs : List Received},
    (∀ input ∈ inputs, NamesValid env p input) → OnlyValid p (turns env p inputs)
  | [], _ => only_ret ()
  | input :: rest, h => by
    have hbody := onlyValid_onReceived env (h input List.mem_cons_self)
    refine Only.bind (Only.bind hbody.try (onlyValid_afterBody env)) fun again => ?_
    split
    · exact onlyValid_turns (fun i hi => h i (List.mem_cons_of_mem _ hi))
    · exact only_ret ()

theorem onlyValid_frameLoop {inputs : List Received}
    (h : ∀ input ∈ inputs, NamesValid env p input) : OnlyValid p (frameLoop env p inputs) := by
  refine only_act_bind fun g hg => ⟨hg, ?_⟩
  split
  · exact onlyValid_turns env h
  · exact onlyValid_cleanupConnection env

/-- The endpoint turns to Redis after it has checked the name. -/
theorem only_publish (authenticate : String → Except String String) (req : PublishRequest) :
    (publish env authenticate req).Only (fun _ => True) ValidName := by
  have hquiet : ∀ {β : Type} (q : Prog Redis Exn β),
      (quiet q : Marked Redis Channel Exn β).Only (fun _ => True) ValidName := fun q =>
    only_quiet (fun _ _ _ _ => trivial) (Prog.keeps_true q)
  have hnew : ∀ key, ValidName req.channel →
      (publishNew env key req.call).Only (fun _ => True) ValidName := fun key hvalid =>
    Only.bind (only_mark (fun _ _ => valid_usedIf hvalid true) (fun _ _ _ _ => trivial)
      (Prog.keeps_true _)).try fun outcome => hquiet _
  unfold publish
  split
  · exact only_ret _
  · rename_i tenantId hok
    have hvalid := (checkPublish_ok env authenticate hok).2.1
    unfold publishChecked
    split
    · rename_i k _
      refine Only.bind (hquiet _).try fun found => ?_
      match found with
      | .ok none => exact hnew (some k) hvalid
      | .ok (some cached) => exact hquiet _
      | .error e => exact hquiet _
    · exact hnew none hvalid

end Only

/-! ## 6. A frame that names an invalid channel uses the name -/

section Uses

variable (env : Env) {p : Peer} {channel : Channel} {g : Gateway}

theorem uses_onLocalUnsubscribe (g : Gateway) :
    channel ∈ (onLocalUnsubscribe env channel).log [] g := by
  cases hlast : (g.node.countDown channel).1 with
  | true =>
    -- the count is dropped, and the SREM goes to the room of the channel
    refine mem_log_bind_right rfl ?_
    rw [hlast]
    exact List.mem_append_left _ List.mem_cons_self
  | false =>
    refine mem_log_bind_left ?_
    show channel ∈ usedIf (!(g.node.countDown channel).1) channel ++ _
    rw [hlast]
    exact List.mem_cons_self

/-- On a connection with nothing to replay the RESUME branch looks at every own channel. -/
theorem uses_resumeChannels (own : channelBelongsToTenant channel p.tenantId = true) :
    ∀ (acks : List (Channel × Int)) (replayed : List (Channel × Nat)) (gaps : List Channel)
      {g : Gateway}, Roomy p.connectionId (fun _ => []) [] g → channel ∈ acks.map Prod.fst →
        channel ∈ (resumeChannels env p acks replayed gaps).log [] g
  | [], _, _, _, _, hmem => absurd hmem List.not_mem_nil
  | (d, lastAck) :: rest, replayed, gaps, g, hg, hmem => by
    unfold resumeChannels
    rcases eq_or_ne channel d with rfl | hne
    · rw [if_pos own]
      exact mem_log_bind_left (List.mem_append_left _ List.mem_cons_self)
    have hrest : channel ∈ rest.map Prod.fst := (List.mem_cons.mp hmem).resolve_left hne
    split
    · have hread : (withRedis (replayChannel d lastAck)).run g =
          (.ok ⟨[], false⟩, setRedis (Redis.xrange d g.redis).2 g) := by
        rw [run_withRedis, replayChannel_run hg.serving.up, hg.streams]
        rfl
      have hg₁ : Roomy p.connectionId (fun _ => []) []
          (setRedis (Redis.xrange d g.redis).2 g) := hg.of_get rfl rfl rfl rfl
      obtain ⟨a, g₂, hrun, hg₂⟩ := (roomy_subscribed d).run hg₁
      have hre : (reattach env p d []).erase.run (setRedis (Redis.xrange d g.redis).2 g)
          = (.ok a, g₂) := by
        rw [erase_reattach]
        exact hrun
      refine mem_log_bind_right ((congrArg (Prog.run · g) (erase_mark _ _)).trans hread) ?_
      exact mem_log_bind_right hre (uses_resumeChannels own rest _ _ hg₂ hrest)
    · exact uses_resumeChannels own rest _ _ hg hrest

end Uses

end Names

/-- A connection right after its handshake, in a process that has nothing else to do. -/
def freshlyConnected (p : Peer) : Gateway :=
  ⟨{}, ({} : Node).add { newConnection p.connectionId p.sessionId p.tenantId p.userId with
    sender := .getting }⟩

section Exact

variable (env : Env) (p : Peer)

theorem get_freshlyConnected : (freshlyConnected p).node.registry.byId.get? p.connectionId =
    some { newConnection p.connectionId p.sessionId p.tenantId p.userId with sender := .getting } :=
  (Registry.get_add _ _ _).trans (if_pos rfl)

theorem subscribedValid_freshlyConnected : SubscribedValid p.connectionId (freshlyConnected p) := by
  intro conn hconn
  obtain rfl := Option.some.inj ((get_freshlyConnected p).symm.trans hconn)
  exact fun channel hmem => absurd hmem List.not_mem_nil

theorem roomy_freshlyConnected :
    Roomy p.connectionId (fun _ => []) [] (freshlyConnected p) := by
  refine ⟨⟨rfl, rfl, ?_⟩, ⟨_, get_freshlyConnected p, 0, le_refl _, rfl, rfl, fun _ => rfl⟩, rfl⟩
  rw [isActive, get_freshlyConnected]
  rfl

/-- Every name the missing check would refuse is used by a freshly connected client's frame. -/
theorem namesValid_of_log {input : Received}
    (h : ∀ c ∈ (Names.onReceived env p input).log [] (freshlyConnected p), ValidName c) :
    NamesValid env p input := by
  cases input with
  | garbage => trivial
  | closed => trivial
  | json raw =>
    cases raw with
    | obj fields =>
      simp only [NamesValid]
      cases hb : branchOf fields with
      | unsubscribe =>
        intro channel hparse
        refine h channel ?_
        simp only [Names.onReceived, Names.onFrame, hb, Names.onUnsubscribe, hparse]
        exact mem_log_bind_right rfl (mem_log_bind_left (Names.uses_onLocalUnsubscribe env _))
      | ack =>
        rintro ⟨channel, sequence⟩ hparse
        refine h channel ?_
        simp only [Names.onReceived, Names.onFrame, hb, Names.onAckFrame, hparse]
        exact mem_log_bind_left (List.mem_append_left _ List.mem_cons_self)
      | resume =>
        rintro ⟨sessionId, acks⟩ hparse e he own
        refine h e.1 ?_
        simp only [Names.onReceived, Names.onFrame, hb, Names.onResume, hparse]
        exact mem_log_bind_left (Names.uses_resumeChannels env own _ _ _
          (roomy_freshlyConnected p) (List.mem_map_of_mem he))
      | _ => trivial
    | _ => trivial

end Exact

/-- **Which requests and frames use valid channel names only.**  A publish request always does.  A
connection does along every sequence of frames that name valid channels where nothing checks them,
whatever else happens in the process; and a single frame does exactly if it names valid channels. -/
theorem names_valid_iff (env : Env) :
    (∀ (authenticate : String → Except String String) (req : PublishRequest)
      (ms : List (Redis → Redis)) (r : Redis),
        ∀ c ∈ (Names.publish env authenticate req).log ms r, ValidName c) ∧
    ∀ p : Peer,
      (∀ inputs : List Received, (∀ input ∈ inputs, NamesValid env p input) →
        ∀ (ms : List (Gateway → Gateway)) (g : Gateway),
          (∀ m ∈ ms, ∀ g, Relation.ReflTransGen (Elsewhere env p.connectionId) g (m g)) →
          SubscribedValid p.connectionId g →
            ∀ c ∈ (Names.frameLoop env p inputs).log ms g, ValidName c) ∧
      ∀ input : Received,
        (∀ (ms : List (Gateway → Gateway)) (g : Gateway),
          (∀ m ∈ ms, ∀ g, Relation.ReflTransGen (Elsewhere env p.connectionId) g (m g)) →
          SubscribedValid p.connectionId g →
            ∀ c ∈ (Names.onReceived env p input).log ms g, ValidName c) ↔
        NamesValid env p input := by
  refine ⟨fun authenticate req ms r => ?_, fun p => ⟨fun inputs hin ms g hms hg => ?_,
    fun input => ⟨fun h => ?_, fun hin ms g hms hg => ?_⟩⟩⟩
  · exact (Names.only_publish env authenticate req).log (fun _ _ _ _ => trivial) trivial
  · exact (Names.onlyValid_frameLoop env hin).log (fun m hm g hg => hg.elsewhere (hms m hm g)) hg
  · exact namesValid_of_log env p
      (h [] _ (fun _ hm => nomatch hm) (subscribedValid_freshlyConnected p))
  · exact (Names.onlyValid_onReceived env hin).log (fun m hm g hg => hg.elsewhere (hms m hm g)) hg

/-! ## 7. An unsafe name -/

/-- A client of the tenant that has just connected. -/
def acmePeer : Peer := ⟨"conn-1", "s-1", "11111111-1111-1111-1111-111111111111", none⟩

/-- In the tenant's namespace, but with a blank and a glob character. -/
def unsafeName : Channel := namespacedChannel acmePeer.tenantId "a *"

/-- RESUME, ACK and UNSUBSCRIBE build keys from it, and RESUME also brings it into the registry and
the subscription manager. -/
theorem unsafe_name_is_used :
    ¬ ValidName unsafeName ∧
    (∀ frame ∈ [ClientFrame.resume "s-1" [(unsafeName, 0)], .ack unsafeName 1,
        .unsubscribe unsafeName],
      unsafeName ∈ (Names.frameLoop (.plain {}) acmePeer [.json frame.toJson]).log []
        (freshlyConnected acmePeer)) ∧
    let resume := ClientFrame.resume "s-1" [(unsafeName, 0)]
    let g := ((frameLoop (.plain {}) acmePeer [.json resume.toJson]).run
      (freshlyConnected acmePeer)).2
    "conn-1" ∈ g.node.registry.subscribersOf unsafeName ∧
      g.node.localSubscriberCounts.get? unsafeName = some 1 ∧
      (g.node.listeners.get? unsafeName).isSome = true ∧
      (g.redis.roomNodes unsafeName).isSome = true := by
  refine ⟨fun h => ?_, ?_, by decide +kernel, by decide +kernel, by decide +kernel,
    by decide +kernel⟩
  · exact absurd ((validName_iff.mp h).2.2 ' ' (by decide +kernel)) (by decide +kernel)
  · exact List.forall_mem_cons.mpr ⟨by decide +kernel, List.forall_mem_cons.mpr
      ⟨by decide +kernel, List.forall_mem_singleton.mpr (by decide +kernel)⟩⟩

end Relay
