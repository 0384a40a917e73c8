/-
# What a segment of the handler can do

The handler is a long program with many branches, and most questions about it are invariants.  So
its segments are classified once: `Effect` lists every change one segment of the handler of a
connection can make to the gateway, with the guard under which it makes it, and
`handleConnection_keeps` says that no segment does anything else.  An invariant is then a case
analysis over `Effect`, and never looks at the program again.

A `Scope` narrows the list.  Outside `resumes` no message is enqueued, outside `lifecycle` no
connection is registered or removed, and the subscriptions, counts and listeners of channels
outside `touch` stay alone.  `entries` is what a replay may hand on: whatever the streams hold.
-/
import Mathlib
import Relay.Handler
import Relay.Replay

namespace Relay

open Gateway

/-! ## 1. Redis commands of the handler -/

/-- The store after a command of the handler: streams, counters, topics and subscriptions are as
before, and so are the rooms outside `rooms`.  Whatever XRANGE has returned is the stream. -/
structure Redis.Side (rooms : Channel → Prop) (r r' : Redis) : Prop where
  now : r'.now = r.now
  ageTrims : r'.ageTrims = r.ageTrims
  sequence : r'.sequence = r.sequence
  stream : r'.stream = r.stream
  appended : r'.appended = r.appended
  published : r'.published = r.published
  subscribers : r'.subscribers = r.subscribers
  room : ∀ channel, ¬ rooms channel → r'.roomNodes channel = r.roomNodes channel
  up : r.faults = [] → r'.faults = []
  ranged : ∀ channel, ∃ l, r'.ranged channel = r.ranged channel ++ l ∧
    ∀ snapshot ∈ l, snapshot = r.stream channel

namespace Redis

variable {rooms : Channel → Prop}

theorem ranged_same {r r' : Redis} (h : r'.ranged = r.ranged) (channel : Channel) :
    ∃ l, r'.ranged channel = r.ranged channel ++ l ∧ ∀ snapshot ∈ l, snapshot = r.stream channel :=
  ⟨[], by rw [h, List.append_nil], by simp⟩

theorem Side.refl (r : Redis) : Side rooms r r :=
  ⟨rfl, rfl, rfl, rfl, rfl, rfl, rfl, fun _ _ => rfl, id, ranged_same rfl⟩

theorem Side.trans {a b c : Redis} (h : Side rooms a b) (k : Side rooms b c) : Side rooms a c :=
  ⟨k.now.trans h.now, k.ageTrims.trans h.ageTrims, k.sequence.trans h.sequence,
    k.stream.trans h.stream, k.appended.trans h.appended, k.published.trans h.published,
    k.subscribers.trans h.subscribers, fun ch hc => (k.room ch hc).trans (h.room ch hc),
    fun hf => k.up (h.up hf), fun ch => by
      obtain ⟨l, hl, hs⟩ := h.ranged ch
      obtain ⟨l', hl', hs'⟩ := k.ranged ch
      refine ⟨l ++ l', by rw [hl', hl, List.append_assoc], fun s hmem => ?_⟩
      rcases List.mem_append.mp hmem with hmem | hmem
      · exact hs s hmem
      · rw [hs' s hmem, h.stream]⟩

theorem side_setSession (r : Redis) (k : String) (v : Option (Timed SessionHash)) :
    Side rooms r (r.setSession k v) :=
  ⟨rfl, rfl, rfl, rfl, rfl, rfl, rfl, fun _ _ => rfl, id, ranged_same rfl⟩

theorem side_setAck (r : Redis) (k : String) (c : Channel) (v : Option (Timed Int)) :
    Side rooms r (r.setAck k c v) :=
  ⟨rfl, rfl, rfl, rfl, rfl, rfl, rfl, fun _ _ => rfl, id, ranged_same rfl⟩

theorem side_setPresence (r : Redis) (k : String) (v : Option (Timed PresenceValue)) :
    Side rooms r (r.setPresence k v) :=
  ⟨rfl, rfl, rfl, rfl, rfl, rfl, rfl, fun _ _ => rfl, id, ranged_same rfl⟩

theorem side_setRoom (r : Redis) {channel : Channel} (h : rooms channel)
    (v : Option (Timed (OSet NodeId))) : Side rooms r (r.setRoom channel v) :=
  ⟨rfl, rfl, rfl, rfl, rfl, rfl, rfl,
    fun _ hc => Function.update_of_ne (fun he => hc (by rw [he]; exact h)) _ _, id, ranged_same rfl⟩

theorem side_xrange (channel : Channel) (r : Redis) : Side rooms r (xrange channel r).2 := by
  refine ⟨rfl, rfl, rfl, rfl, rfl, rfl, rfl, fun _ _ => rfl, id, fun ch => ?_⟩
  rcases eq_or_ne ch channel with rfl | hne
  · exact ⟨[r.stream ch], by simp [xrange], by simp⟩
  · exact ⟨[], by simp [xrange, hne], by simp⟩

theorem attempt_side {α : Type} {f : Redis → Except Exn α × Redis}
    (h : ∀ r, Side rooms r (f r).2) (r : Redis) : Side rooms r (attempt f r).2 := by
  have hf : ∀ fs, (r.faults = [] → fs = []) → Side rooms r { r with faults := fs } :=
    fun fs hfs => ⟨rfl, rfl, rfl, rfl, rfl, rfl, rfl, fun _ _ => rfl, hfs, ranged_same rfl⟩
  unfold attempt
  split
  · rename_i rest hr
    exact hf rest (fun h0 => absurd (hr.symm.trans h0) (by simp))
  · rename_i rest hr
    exact (hf rest (fun h0 => absurd (hr.symm.trans h0) (by simp))).trans (h _)
  · exact h r

/-- A program made of such commands. -/
abbrev Quiet {α : Type} (rooms : Channel → Prop) (p : Prog Redis Exn α) : Prop :=
  p.Keeps (fun _ => True) (Side rooms)

theorem quiet_command {α : Type} {f : Redis → Except Exn α × Redis}
    (h : ∀ r, Side rooms r (f r).2) : Quiet rooms (command f) :=
  Prog.keeps_atomic (fun r _ => ⟨trivial, attempt_side h r⟩)

end Redis

open Redis

section Quiet

variable (rooms : Channel → Prop) (env : Env)

theorem touchSession_quiet (sessionId : String) (nodeId : NodeId) :
    Quiet rooms (Sessions.touchSession env sessionId nodeId) :=
  (quiet_command (fun _ => side_setSession _ _ _)).bind
    (fun _ => quiet_command (fun _ => side_setSession _ _ _))

theorem createSession_quiet (sessionId tenantId : String) (nodeId : NodeId) :
    Quiet rooms (Sessions.createSession env sessionId tenantId nodeId) :=
  (quiet_command (fun _ => side_setSession _ _ _)).bind
    (fun _ => (quiet_command (fun _ => side_setSession _ _ _)).bind (fun _ => trivial))

theorem getSession_quiet (sessionId : String) : Quiet rooms (Sessions.getSession sessionId) :=
  quiet_command (fun r => Side.refl r)

theorem recordAck_quiet (sessionId : String) (channel : Channel) (sequence : Int) :
    Quiet rooms (Sessions.recordAck env sessionId channel sequence) := by
  refine (quiet_command (fun r => Side.refl r)).bind (fun current => ?_)
  split
  · exact quiet_command (fun _ => side_setAck _ _ _ _)
  · trivial

theorem resolveSession_quiet (s : Socket) (tenantId : String) (requested : Json) :
    Quiet rooms (resolveSession env s tenantId requested) := by
  refine Prog.Keeps.bind ?_ (fun existing => ?_)
  · unfold requestedSession
    split
    · exact getSession_quiet rooms _
    · trivial
  · split
    · exact (touchSession_quiet rooms env _ _).bind (fun _ => trivial)
    · exact createSession_quiet rooms env _ _ _

theorem expireKey_side (k : String) (ttl : Nat) (r : Redis) :
    Side rooms r (Presence.expireKey k ttl r) := side_setPresence _ _ _

theorem deleteKey_side (k : String) (r : Redis) : Side rooms r (Presence.deleteKey k r) :=
  side_setPresence _ _ _

theorem addMember_side (k : String) (x : ConnId) (r : Redis) :
    Side rooms r (Presence.addMember k x r).2 := by
  unfold Presence.addMember
  split
  · exact Side.refl r
  · exact side_setPresence _ _ _
  · exact side_setPresence _ _ _

theorem connectionOnline_quiet (tenantId userId : String) (x : ConnId) :
    Quiet rooms (Presence.connectionOnline env tenantId userId x) :=
  quiet_command (fun r => (addMember_side rooms _ _ r).trans (expireKey_side rooms _ _ _))

theorem refresh_quiet (tenantId userId : String) :
    Quiet rooms (Presence.refresh env tenantId userId) :=
  quiet_command (fun _ => (expireKey_side rooms _ _ _).trans (expireKey_side rooms _ _ _))

theorem setState_quiet (tenantId userId : String) (idle : Bool) :
    Quiet rooms (Presence.setState env tenantId userId idle) := by
  unfold Presence.setState
  split
  · exact quiet_command (fun _ => side_setPresence _ _ _)
  · exact quiet_command (fun _ => deleteKey_side rooms _ _)

theorem removeMember_side (k : String) (x : ConnId) (r : Redis) :
    Side rooms r (Presence.removeMember k x r).2 := by
  unfold Presence.removeMember
  split
  · exact Side.refl r
  · exact side_setPresence _ _ _
  · exact Side.refl r

theorem countMembers_side (k : String) (r : Redis) :
    Side rooms r (Presence.countMembers k r).2 := by
  unfold Presence.countMembers
  split <;> exact Side.refl r

theorem connectionOffline_quiet (tenantId userId : String) (x : ConnId) :
    Quiet rooms (Presence.connectionOffline tenantId userId x) := by
  refine (quiet_command (removeMember_side rooms _ _)).bind fun _ =>
    (quiet_command (countMembers_side rooms _)).bind fun remaining => ?_
  split
  · exact (quiet_command (fun _ => (deleteKey_side rooms _ _).trans (deleteKey_side rooms _ _))).bind
      fun _ => trivial
  · trivial

end Quiet

/-! ## 2. Effects -/

/-- An update of a connection that concerns neither its identity, nor its subscriptions, nor what
it has accepted and written; the sender may be started or cancelled. -/
structure Connection.Bookkeeping (f : Connection → Connection) : Prop where
  ident : ∀ c, (f c).ident = c.ident
  queue : ∀ c, (f c).queue = c.queue
  accepted : ∀ c, (f c).accepted = c.accepted
  wire : ∀ c, (f c).wire = c.wire
  held : ∀ c, (f c).held = c.held ∨ (f c).held = []

/-- What a part of the handler may do. -/
structure Scope where
  resumes : Bool
  lifecycle : Bool
  touch : Channel → Prop
  entries : Channel → StreamEntry → Prop

/-- No restriction. -/
def Scope.all : Scope := ⟨true, true, fun _ => True, fun _ _ => True⟩

/-- What one segment of the handler of connection `x`, authenticated as `tenantId`, can do. -/
inductive Effect (env : Env) (x : ConnId) (tenantId : String) (sc : Scope) :
    Gateway → Gateway → Prop
  /-- A Redis command. -/
  | redis {g : Gateway} {r : Redis} (h : Side sc.touch g.redis r) :
      Effect env x tenantId sc g (setRedis r g)
  /-- A write to the socket, which may fail. -/
  | write {g : Gateway} (frame : ServerFrame) (h : frame.message? = none) :
      Effect env x tenantId sc g (setNode (g.node.sendText x frame).2 g)
  /-- The connection's state, window, heartbeat or sender. -/
  | bookkeeping {g : Gateway} (f : Connection → Connection) (h : Connection.Bookkeeping f) :
      Effect env x tenantId sc g (setNode (g.node.updateConn x f) g)
  /-- The replay of an own channel. -/
  | replay {g : Gateway} (channel : Channel) (messages : List StreamEntry) (h : sc.resumes = true)
      (own : channelBelongsToTenant channel tenantId = true)
      (source : ∀ e ∈ messages, sc.entries channel e) :
      Effect env x tenantId sc g
        (setNode (g.node.replayInto env x channel messages).2 g)
  /-- `registry.subscribe` of an own channel. -/
  | subscribe {g : Gateway} (channel : Channel)
      (own : channelBelongsToTenant channel tenantId = true) (h : sc.touch channel) :
      Effect env x tenantId sc g (setNode (g.node.subscribe x channel) g)
  | countUp {g : Gateway} (channel : Channel)
      (own : channelBelongsToTenant channel tenantId = true) (h : sc.touch channel) :
      Effect env x tenantId sc g (setNode (g.node.countUp channel) g)
  | startListener {g : Gateway} (channel : Channel)
      (own : channelBelongsToTenant channel tenantId = true) (h : sc.touch channel) :
      Effect env x tenantId sc g (setNode (g.node.startListener channel) g)
  /-- `registry.unsubscribe`, of any channel. -/
  | unsubscribe {g : Gateway} (channel : Channel) (h : sc.touch channel) :
      Effect env x tenantId sc g (setNode (g.node.unsubscribe x channel) g)
  | countDown {g : Gateway} (channel : Channel) (h : sc.touch channel) :
      Effect env x tenantId sc g (setNode (g.node.countDown channel).2 g)
  | add {g : Gateway} (sessionId : String) (userId : Option String) (h : sc.lifecycle = true) :
      Effect env x tenantId sc g
        (setNode (g.node.add (newConnection x sessionId tenantId userId)) g)
  | remove {g : Gateway} (h : sc.lifecycle = true) :
      Effect env x tenantId sc g (setNode (g.node.remove x) g)
  /-- Looking at the state. -/
  | look {g : Gateway} : Effect env x tenantId sc g g

/-- A handler does not touch the counters, streams and topics of channels. -/
theorem Effect.channels {env : Env} {x : ConnId} {tenantId : String} {sc : Scope} {g g' : Gateway}
    (e : Effect env x tenantId sc g g') : g'.redis.sequence = g.redis.sequence ∧
      g'.redis.stream = g.redis.stream ∧ g'.redis.appended = g.redis.appended ∧
      g'.redis.published = g.redis.published := by
  cases e with
  | redis hs => exact ⟨hs.sequence, hs.stream, hs.appended, hs.published⟩
  | _ => exact ⟨rfl, rfl, rfl, rfl⟩

theorem outbound_replayInto (env : Env) (x : ConnId) (channel : Channel) :
    ∀ (l : List StreamEntry) (n : Node), n.Outbound (n.replayInto env x channel l).2
  | [], n => Node.Outbound.refl n
  | e :: rest, n => by
    have h1 := Node.outbound_enqueue env x (.message (replayFrame channel e)) .normal
      (some channel) (some e.sequence) n
    unfold Node.replayInto
    split
    · rename_i n' he
      rw [he] at h1
      exact h1.trans (outbound_replayInto env x channel rest n')
    · rename_i err n' he
      rw [he] at h1
      exact h1

/-- The item `enqueue` builds from a stream entry. -/
def replayItem (env : Env) (d : Channel) (e : StreamEntry) : QueuedMessage :=
  ⟨.message (replayFrame d e), env.wireSize (.message (replayFrame d e)), .normal, some d,
    some e.sequence⟩

/-- One message of the replay: the queue refuses it, or takes it and goes on. -/
theorem Node.replayInto_cons {x : ConnId} {n : Node} {conn : Connection} (env : Env) (d : Channel)
    (e : StreamEntry) (rest : List StreamEntry) (hconn : n.registry.byId.get? x = some conn) :
    n.replayInto env x d (e :: rest) =
      if conn.overLimit env (replayItem env d e).sizeBytes = true then (.error .slowConsumer, n)
      else (n.updateConn x (fun _ => conn.put (replayItem env d e))).replayInto env x d rest := by
  rw [Node.replayInto]
  cases hover : conn.overLimit env (env.wireSize (.message (replayFrame d e))) with
  | true =>
    have hstep : n.enqueue env x (.message (replayFrame d e)) .normal (some d) (some e.sequence)
        = (.error .slowConsumer, n) := by
      simp only [Node.enqueue, hconn, Connection.enqueue, hover, if_true]
    rw [hstep]
    exact (if_pos hover).symm
  | false =>
    have hstep : n.enqueue env x (.message (replayFrame d e)) .normal (some d) (some e.sequence)
        = (.ok (), n.updateConn x (fun _ => conn.put (replayItem env d e))) := by
      simp only [Node.enqueue, hconn, Connection.enqueue, hover]
      rfl
    rw [hstep]
    exact (if_neg (ne_true_of_eq_false hover)).symm

theorem Node.get_updateConn_self {x : ConnId} {n : Node} {conn : Connection}
    (hconn : n.registry.byId.get? x = some conn) (conn' : Connection) :
    (n.updateConn x (fun _ => conn')).registry.byId.get? x = some conn' := by
  rw [Node.updateConn, Registry.get_updateConn, if_pos rfl, hconn]
  rfl

/-! ## 3. The handler's segments are effects -/

section Keeps

variable {env : Env} {x : ConnId} {tenantId : String} {sc : Scope}
  {I : Gateway → Prop}

/-- The invariant is kept by every effect. -/
abbrev Effect.Invariant (env : Env) (x : ConnId) (tenantId : String) (sc : Scope)
    (I : Gateway → Prop) : Prop :=
  ∀ g g', I g → Effect env x tenantId sc g g' → I g'

variable (hI : Effect.Invariant env x tenantId sc I)

include hI

theorem withRedis_keeps {α : Type} {p : Prog Redis Exn α} (hp : Quiet sc.touch p) :
    (withRedis p).Keeps I (Effect env x tenantId sc) :=
  hp.lift (fun _ _ => trivial) (fun g _ hg _ hs =>
    ⟨hI g _ hg (.redis hs), .redis hs⟩)

theorem locally_keeps {f : Node → Node}
    (h : ∀ g, Effect env x tenantId sc g (setNode (f g.node) g)) :
    (locally f).Keeps I (Effect env x tenantId sc) :=
  Prog.keeps_modify (fun g hg => ⟨hI g _ hg (h g), h g⟩)

theorem sendText_keeps {frame : ServerFrame} (h : frame.message? = none) :
    (sendText x frame).Keeps I (Effect env x tenantId sc) :=
  Prog.keeps_atomic (fun g hg => ⟨hI g _ hg (.write frame h), .write frame h⟩)

theorem sendError_keeps (code : ErrorCode) (message : String) :
    (sendError x code message).Keeps I (Effect env x tenantId sc) :=
  sendText_keeps hI rfl

theorem whenUser_keeps {userId : Option String} {p : String → Prog Redis Exn Unit}
    (h : ∀ user, Quiet sc.touch (p user)) :
    (whenUser userId p).Keeps I (Effect env x tenantId sc) := by
  unfold whenUser
  split
  · exact withRedis_keeps hI (h _)
  · trivial

theorem onLocalSubscribe_keeps {channel : Channel}
    (own : channelBelongsToTenant channel tenantId = true) (ht : sc.touch channel) :
    (onLocalSubscribe env channel).Keeps I (Effect env x tenantId sc) :=
  (locally_keeps hI (fun _ => .countUp channel own ht)).bind fun _ =>
    (withRedis_keeps hI (quiet_command (fun _ => side_setRoom _ ht _))).bind fun _ =>
      (withRedis_keeps hI (quiet_command (fun _ => side_setRoom _ ht _))).bind fun _ =>
        locally_keeps hI (fun _ => .startListener channel own ht)

theorem onLocalUnsubscribe_keeps {channel : Channel} (ht : sc.touch channel) :
    (onLocalUnsubscribe env channel).Keeps I (Effect env x tenantId sc) := by
  refine (Prog.keeps_act (fun g hg => ?_)).bind (fun last => ?_)
  · exact ⟨hI g _ hg (.countDown channel ht), .countDown channel ht⟩
  · split
    · exact withRedis_keeps hI (quiet_command (fun _ => side_setRoom _ ht _))
    · trivial

end Keeps

/-- The channel a frame unsubscribes. -/
def unsubscribes : Json → Option Channel
  | .obj fields => if branchOf fields = .unsubscribe then parseUnsubscribe fields else none
  | _ => none

/-- The frame is a RESUME. -/
def isResume : Json → Bool
  | .obj fields => decide (branchOf fields = .resume)
  | _ => false

/-- `unsubscribes` and `isResume` of what was received. -/
def Received.unsubscribes : Received → Option Channel
  | .json raw => Relay.unsubscribes raw
  | _ => none

def Received.isResume : Received → Bool
  | .json raw => Relay.isResume raw
  | _ => false

section Frames

variable {env : Env} {p : Peer} {sc : Scope} {I : Gateway → Prop}
  (hI : Effect.Invariant env p.connectionId p.tenantId sc I)
  (own : ∀ channel, channelBelongsToTenant channel p.tenantId = true → sc.touch channel)
  (src : ∀ g channel, I g → ∀ e ∈ g.redis.stream channel, sc.entries channel e)

include hI

/-- What XRANGE returns are entries of the stream. -/
theorem withReplay_keeps {α : Type} (channel : Channel) (lastAck : Int)
    {q : ReplayResult → Prog Gateway Exn α}
    (hq : ∀ g result, I g → (∀ e ∈ result.messages, e ∈ g.redis.stream channel) →
      (q result).Keeps I (Effect env p.connectionId p.tenantId sc)) :
    ((withRedis (replayChannel channel lastAck)).bind q).Keeps I
      (Effect env p.connectionId p.tenantId sc) := by
  intro g hg
  have hside : Side sc.touch g.redis (attempt (xrange channel) g.redis).2 :=
    attempt_side (fun r => side_xrange channel r) g.redis
  refine ⟨hI g _ hg (.redis hside), .redis hside, ?_⟩
  have hcont : ∀ res : Except Exn (List StreamEntry),
      (∀ entries, res = .ok entries → entries = g.redis.stream channel) →
      ((Prog.lift redis setRedis ((Prog.ofExcept res).bind fun entries =>
        .ret (replayOf entries lastAck))).bind q).Keeps I
          (Effect env p.connectionId p.tenantId sc) := by
    rintro (e | entries) hres
    · trivial
    · refine hq g _ hg (fun e he => ?_)
      rw [← hres entries rfl]
      exact (mem_replayOf.mp he).1
  refine hcont _ (fun entries hentries => ?_)
  unfold attempt at hentries
  split at hentries
  · nomatch hentries
  · exact (Except.ok.inj hentries).symm
  · exact (Except.ok.inj hentries).symm

include own

theorem reattach_keeps (hres : sc.resumes = true) {channel : Channel}
    (hown : channelBelongsToTenant channel p.tenantId = true) {messages : List StreamEntry}
    (hsrc : ∀ e ∈ messages, sc.entries channel e) :
    (reattach env p channel messages).Keeps I (Effect env p.connectionId p.tenantId sc) := by
  refine (Prog.keeps_atomic (fun g hg => ?_)).bind fun _ =>
    (locally_keeps hI (fun _ => .subscribe channel hown (own _ hown))).bind fun _ =>
      onLocalSubscribe_keeps hI hown (own _ hown)
  exact ⟨hI g _ hg (.replay channel messages hres hown hsrc),
    .replay channel messages hres hown hsrc⟩

include src

theorem resumeChannels_keeps (hres : sc.resumes = true) :
    ∀ (acks : List (Channel × Int)) (replayed : List (Channel × Nat)) (gaps : List Channel),
      (resumeChannels env p acks replayed gaps).Keeps I
        (Effect env p.connectionId p.tenantId sc)
  | [], _, _ => trivial
  | (channel, lastAck) :: rest, replayed, gaps => by
    unfold resumeChannels
    split
    · rename_i hown
      refine withReplay_keeps hI channel lastAck (fun g result hg hmem => ?_)
      split
      · exact (sendError_keeps hI _ _).bind fun _ => resumeChannels_keeps hres rest _ _
      · exact (reattach_keeps hI own hres hown (fun e he => src g channel hg e (hmem e he))).bind
          fun _ => resumeChannels_keeps hres rest _ _
    · exact resumeChannels_keeps hres rest _ _

omit src in
theorem attachChannel_keeps {channel : Channel}
    (hown : channelBelongsToTenant channel p.tenantId = true) :
    (attachChannel env p channel).Keeps I
      (Effect env p.connectionId p.tenantId sc) :=
  (locally_keeps hI (fun _ => .subscribe channel hown (own _ hown))).bind fun _ =>
    (onLocalSubscribe_keeps hI hown (own _ hown)).bind fun _ =>
      (sendText_keeps hI rfl).bind fun _ => Prog.keeps_ret true

omit own src in
theorem detachChannel_keeps {channel : Channel} (ht : sc.touch channel) :
    (detachChannel env p channel).Keeps I
      (Effect env p.connectionId p.tenantId sc) :=
  (locally_keeps hI (fun _ => .unsubscribe channel ht)).bind fun _ =>
    (onLocalUnsubscribe_keeps hI ht).bind fun _ =>
      (sendText_keeps hI rfl).bind fun _ => Prog.keeps_ret true

omit own src in
theorem onPong_keeps : (onPong env p).Keeps I
    (Effect env p.connectionId p.tenantId sc) := by
  refine (Prog.keeps_modify (fun g hg => ?_)).bind fun _ =>
    (withRedis_keeps hI (touchSession_quiet sc.touch env _ _)).bind fun _ =>
      (whenUser_keeps hI (refresh_quiet sc.touch env p.tenantId)).bind fun _ => Prog.keeps_ret true
  have he : Effect env p.connectionId p.tenantId sc g
      (setNode (g.node.updateConn p.connectionId
        (fun conn => { conn with lastPongAt := g.redis.now })) g) :=
    .bookkeeping _ ⟨fun _ => rfl, fun _ => rfl, fun _ => rfl, fun _ => rfl, fun _ => Or.inl rfl⟩
  exact ⟨hI g _ hg he, he⟩

omit own src in
theorem onAckFrame_keeps (fields : List (String × Json)) : (onAckFrame env p fields).Keeps I
    (Effect env p.connectionId p.tenantId sc) := by
  unfold onAckFrame
  split
  · trivial
  · rename_i channel sequence _
    have hb : Connection.Bookkeeping (fun conn => (conn.onAck env channel sequence).2) :=
      ⟨fun _ => rfl, fun _ => rfl, fun _ => rfl, fun _ => rfl, fun _ => Or.inl rfl⟩
    exact (withRedis_keeps hI (recordAck_quiet sc.touch env _ _ _)).bind fun _ =>
      (locally_keeps hI (fun _ => .bookkeeping _ hb)).bind fun _ => Prog.keeps_ret true

theorem onFrame_keeps {raw : Json} (hres : isResume raw = true → sc.resumes = true)
    (hun : ∀ channel, unsubscribes raw = some channel → sc.touch channel) :
    (onFrame env p raw).Keeps I (Effect env p.connectionId p.tenantId sc) := by
  cases raw with
  | obj fields =>
    simp only [isResume, unsubscribes] at hres hun
    cases hb : branchOf fields with
    | pong =>
      simp only [onFrame, hb]
      exact onPong_keeps hI
    | presence =>
      simp only [onFrame, hb]
      exact (whenUser_keeps hI (fun user => setState_quiet sc.touch env p.tenantId user _)).bind
        fun _ => Prog.keeps_ret true
    | subscribe =>
      simp only [onFrame, hb, onSubscribe]
      split
      · exact (sendError_keeps hI _ _).bind fun _ => Prog.keeps_ret true
      · split
        · rename_i hown
          exact attachChannel_keeps hI own hown
        · exact (sendError_keeps hI _ _).bind fun _ => Prog.keeps_ret true
    | unsubscribe =>
      simp only [onFrame, hb, onUnsubscribe]
      split
      · trivial
      · rename_i channel hch
        exact detachChannel_keeps hI (hun channel (by rw [if_pos hb]; exact hch))
    | ack =>
      simp only [onFrame, hb]
      exact onAckFrame_keeps hI fields
    | resume =>
      simp only [onFrame, hb, onResume]
      split
      · trivial
      · exact (resumeChannels_keeps hI own src (hres (by simp [hb])) _ _ _).bind fun _ =>
          (sendText_keeps hI rfl).bind fun _ => Prog.keeps_ret true
    | disconnect =>
      simp only [onFrame, hb]
      trivial
    | other =>
      simp only [onFrame, hb]
      exact (sendError_keeps hI _ _).bind fun _ => Prog.keeps_ret true
  | _ => trivial

end Frames

section Loop

variable {env : Env} {p : Peer} {sc : Scope} {I : Gateway → Prop}
  (hI : Effect.Invariant env p.connectionId p.tenantId sc I)
  (own : ∀ channel, channelBelongsToTenant channel p.tenantId = true → sc.touch channel)
  (src : ∀ g channel, I g → ∀ e ∈ g.redis.stream channel, sc.entries channel e)
  (life : sc.lifecycle = true)
  (subs : ∀ g conn, I g → g.node.registry.byId.get? p.connectionId = some conn →
    ∀ channel ∈ conn.subscriptions, sc.touch channel)

include hI life subs in
/-- The cleanup touches the channels the connection is subscribed to. -/
theorem cleanupConnection_keeps : (cleanupConnection env p).Keeps I
    (Effect env p.connectionId p.tenantId sc) := by
  have he : ∀ g : Gateway, Effect env p.connectionId p.tenantId sc g
      (markDead p.connectionId g).2 := fun g =>
    .bookkeeping _ ⟨fun _ => rfl, fun _ => rfl, fun _ => rfl, fun _ => rfl, fun _ => Or.inr rfl⟩
  intro g hg
  refine ⟨hI g _ hg (he g), he g, ?_⟩
  show ((Prog.forEach (onLocalUnsubscribe env) (markDead p.connectionId g).1).bind _).Keeps _ _
  refine Prog.Keeps.bind (Prog.Keeps.forEach (fun channel hch => ?_)) (fun _ =>
    (whenUser_keeps hI (fun user => (connectionOffline_quiet sc.touch p.tenantId user _).bind
      fun _ => Prog.keeps_ret ())).bind fun _ => locally_keeps hI (fun _ => .remove life))
  refine onLocalUnsubscribe_keeps hI ?_
  simp only [markDead] at hch
  split at hch
  · rename_i conn hconn
    exact subs g conn hg hconn channel hch
  · exact absurd hch List.not_mem_nil

theorem look_keeps {α : Type} {f : Gateway → α} :
    (Prog.act (fun g => (f g, g)) : Prog Gateway Exn α).Keeps I
      (Effect env p.connectionId p.tenantId sc) :=
  Prog.keeps_act (fun _ hg => ⟨hg, .look⟩)

include hI life subs

theorem afterBody_keeps (outcome : Except Exn Bool) : (afterBody env p outcome).Keeps I
    (Effect env p.connectionId p.tenantId sc) := by
  have hclean := cleanupConnection_keeps hI life subs
  unfold afterBody
  split
  · refine look_keeps.bind fun active => ?_
    split
    · trivial
    · exact hclean.bind fun _ => Prog.keeps_ret false
  · exact hclean.bind fun _ => Prog.keeps_ret false
  · refine hclean.bind fun _ => ?_
    split <;> trivial

include own src

theorem turn_keeps {input : Received} (hres : input.isResume = true → sc.resumes = true)
    (hun : ∀ channel, input.unsubscribes = some channel → sc.touch channel) :
    (turn env p input).Keeps I (Effect env p.connectionId p.tenantId sc) := by
  have hbody : (onReceived env p input).Keeps I
      (Effect env p.connectionId p.tenantId sc) := by
    cases input with
    | json raw => exact onFrame_keeps hI own src hres hun
    | garbage => trivial
    | closed => trivial
  exact hbody.try.bind fun outcome => afterBody_keeps hI life subs outcome

theorem turns_keeps : ∀ {inputs : List Received},
    (∀ input ∈ inputs, input.isResume = true → sc.resumes = true) →
    (∀ input ∈ inputs, ∀ channel, input.unsubscribes = some channel → sc.touch channel) →
    (turns env p inputs).Keeps I (Effect env p.connectionId p.tenantId sc)
  | [], _, _ => trivial
  | input :: rest, hres, hun => by
    refine (turn_keeps hI own src life subs (hres input List.mem_cons_self)
      (hun input List.mem_cons_self)).bind fun again => ?_
    split
    · exact turns_keeps (fun i hi => hres i (List.mem_cons_of_mem _ hi))
        (fun i hi => hun i (List.mem_cons_of_mem _ hi))
    · trivial

theorem frameLoop_keeps {inputs : List Received}
    (hres : ∀ input ∈ inputs, input.isResume = true → sc.resumes = true)
    (hun : ∀ input ∈ inputs, ∀ channel, input.unsubscribes = some channel → sc.touch channel) :
    (frameLoop env p inputs).Keeps I (Effect env p.connectionId p.tenantId sc) := by
  refine look_keeps.bind fun active => ?_
  split
  · exact turns_keeps hI own src life subs hres hun
  · exact cleanupConnection_keeps hI life subs

end Loop

/-- A socket authenticates as at most one tenant. -/
theorem Socket.exists_tenant (s : Socket) :
    ∃ tenantId, ∀ t, s.authenticate = .ok t → t = tenantId := by
  cases hs : s.authenticate with
  | error e => exact ⟨"", fun t ht => absurd ht (by simp)⟩
  | ok t => exact ⟨t, fun t' ht => (Except.ok.inj ht).symm⟩

section Handshake

variable {env : Env} {s : Socket} {tenantId : String} {sc : Scope} {I : Gateway → Prop}
  (hI : Effect.Invariant env s.connectionId tenantId sc I) (life : sc.lifecycle = true)

/-- The peer a handshake hands over is the socket's, authenticated as the tenant. -/
def IsPeerOf (s : Socket) (tenantId : String) (p : Peer) : Prop :=
  p.connectionId = s.connectionId ∧ p.tenantId = tenantId

theorem establish_returns (fields : List (String × Json)) :
    (establish env s tenantId fields).Returns (IsPeerOf s tenantId) :=
  (Prog.Returns.any _).bind fun _ _ => (Prog.Returns.any _).bind fun _ _ =>
    (Prog.Returns.any _).bind fun _ _ => (Prog.Returns.any _).bind fun _ _ =>
      (Prog.Returns.any _).bind fun _ _ => ⟨rfl, rfl⟩

/-- A refused connection: after the error there is nothing left to do. -/
theorem refuse_bind (env : Env) (x : ConnId) (code : ErrorCode) (text : String)
    (inputs : List Received) :
    (((sendError x code text).bind fun _ => (.ret none : Prog Gateway Exn (Option Peer))).bind
      fun q => match q with
        | some p => frameLoop env p inputs
        | none => .ret ()) = sendError x code text :=
  (Prog.bind_assoc _ _ _).trans (Prog.bind_ret _)

theorem handshake_returns (hauth : ∀ t, s.authenticate = .ok t → t = tenantId) :
    (handshake env s).Returns (fun q => ∀ p, q = some p → IsPeerOf s tenantId p) := by
  have hnone : ∀ (code : ErrorCode) (text : String),
      ((sendError s.connectionId code text).bind fun _ => .ret none).Returns
        (fun q => ∀ p, q = some p → IsPeerOf s tenantId p) := fun code text =>
    (Prog.Returns.any _).bind fun _ _ => fun p hp => absurd hp (by simp)
  unfold handshake
  split
  · exact fun p hp => absurd hp (by simp)
  · split
    · split
      · exact hnone _ _
      · rename_i t ht
        obtain rfl := hauth t ht
        refine (Prog.Returns.any _).bind fun full _ => ?_
        split
        · exact hnone _ _
        · refine (establish_returns _).bind fun p hp => ?_
          intro q hq
          exact Option.some.inj hq ▸ hp
    · exact hnone _ _
  · trivial

include hI life

theorem establish_keeps (fields : List (String × Json)) :
    (establish env s tenantId fields).Keeps I
      (Effect env s.connectionId tenantId sc) := by
  have hstart : Connection.Bookkeeping (fun conn => { conn with sender := .getting }) :=
    ⟨fun _ => rfl, fun _ => rfl, fun _ => rfl, fun _ => rfl, fun _ => Or.inr rfl⟩
  refine (withRedis_keeps hI (resolveSession_quiet sc.touch env s tenantId _)).bind fun _ =>
    (locally_keeps hI (fun _ => .add _ _ life)).bind fun _ =>
      (whenUser_keeps hI (fun user => connectionOnline_quiet sc.touch env tenantId user _)).bind
        fun _ => (locally_keeps hI (fun _ => .bookkeeping _ hstart)).bind fun _ =>
          (sendText_keeps hI rfl).bind fun _ => Prog.keeps_ret _

theorem handshake_keeps (hauth : ∀ t, s.authenticate = .ok t → t = tenantId) :
    (handshake env s).Keeps I (Effect env s.connectionId tenantId sc) := by
  have hnone : ∀ (code : ErrorCode) (text : String),
      ((sendError s.connectionId code text).bind fun _ =>
        (.ret none : Prog Gateway Exn (Option Peer))).Keeps I
          (Effect env s.connectionId tenantId sc) := fun code text =>
    (sendError_keeps hI code text).bind fun _ => Prog.keeps_ret none
  unfold handshake
  split
  · trivial
  · split
    · split
      · exact hnone _ _
      · rename_i t ht
        obtain rfl := hauth t ht
        refine (Prog.keeps_act (fun g hg => ⟨hg, .look⟩)).bind fun full => ?_
        split
        · exact hnone _ _
        · exact (establish_keeps hI life _).bind fun p => Prog.keeps_ret (some p)
    · exact hnone _ _
  · trivial

/-- **Every segment of `handle_connection` is an effect of its connection**, if every effect keeps
`I`, and `touch` covers the tenant's channels, those of the frames, and those `I` lets the
connection be subscribed to. -/
theorem handleConnection_keeps (hauth : ∀ t, s.authenticate = .ok t → t = tenantId)
    (own : ∀ channel, channelBelongsToTenant channel tenantId = true → sc.touch channel)
    (src : ∀ g channel, I g → ∀ e ∈ g.redis.stream channel, sc.entries channel e)
    (subs : ∀ g conn, I g → g.node.registry.byId.get? s.connectionId = some conn →
      ∀ channel ∈ conn.subscriptions, sc.touch channel)
    {inputs : List Received}
    (hres : ∀ input ∈ inputs, input.isResume = true → sc.resumes = true)
    (hun : ∀ input ∈ inputs, ∀ channel, input.unsubscribes = some channel → sc.touch channel) :
    (handleConnection env s inputs).Keeps I
      (Effect env s.connectionId tenantId sc) := by
  refine (handshake_keeps hI life hauth).bind_returns (handshake_returns hauth) fun q hq => ?_
  split
  · rename_i p
    obtain ⟨h1, h2⟩ := hq p rfl
    rw [← h1, ← h2] at hI ⊢
    rw [← h1] at subs
    rw [← h2] at own
    exact frameLoop_keeps hI own src life subs hres hun
  · trivial

end Handshake

end Relay
